import BranchingStory.Proofs.Script.Merging
import BranchingStory.Proofs.Session.Waiting
import BranchingStory.Proofs.Text.ByteOrder
import Mathlib.Data.List.Pairwise

/-!
Loading several files at once. The files are taken in the order of the bytes of their names, in
whatever order they are given. Either they make one table, and then the session has the scenes of
the table and no others, each name with its body; or the fault is that of the first file that is to
blame.
-/

namespace BranchingStory

namespace Script

structure Compatible (sources : List (String × String)) : Prop where
  read : ∀ source ∈ sources, ∃ scenes, readSource source.1 source.2 = .ok scenes
  apart : ∀ a ∈ sources, ∀ b ∈ sources, a ≠ b → ∀ name, ¬ (Defines a name ∧ Defines b name)

theorem Compatible.perm {sources others : List (String × String)} (h : Compatible sources)
    (hperm : others.Perm sources) : Compatible others where
  read := fun source hsource => h.read source (hperm.mem_iff.mp hsource)
  apart := fun a ha b hb => h.apart a (hperm.mem_iff.mp ha) b (hperm.mem_iff.mp hb)

structure IsTable (files : List (String × String)) (table : List Scene) : Prop where
  parts : ∃ parts, ReadParts files parts ∧ table = parts.flatten
  distinct : (table.map Scene.name).Nodup

theorem addSources_nil_eq_ok_iff {files : List (String × String)} {table : List Scene} :
    addSources [] files = .ok table ↔ IsTable files table := by
  rw [addSources_eq_ok_iff (by exact List.nodup_nil)]
  constructor
  · rintro ⟨parts, hparts, htable, hnodup⟩
    exact ⟨⟨parts, hparts, htable⟩, hnodup⟩
  · rintro ⟨⟨parts, hparts, htable⟩, hnodup⟩
    exact ⟨parts, hparts, htable, hnodup⟩

/-- Different files make a table exactly if they are compatible. -/
theorem exists_isTable_iff {files : List (String × String)} (hfiles : files.Nodup) :
    (∃ table, IsTable files table) ↔ Compatible files := by
  constructor
  · rintro ⟨table, ⟨parts, hparts, rfl⟩, hnodup⟩
    refine ⟨exists_forall₂_iff.mp ⟨parts, hparts⟩, fun a ha b hb hne => ?_⟩
    have : Std.Symm fun a b => ∀ name, ¬ (Defines a name ∧ Defines b name) :=
      ⟨fun a b h name hboth => h name hboth.symm⟩
    exact (hparts.nodup_iff.mp hnodup).forall ha hb hne
  · rintro ⟨hread, hapart⟩
    obtain ⟨parts, hparts⟩ := exists_forall₂_iff.mpr hread
    refine ⟨parts.flatten, ⟨parts, hparts, rfl⟩, (ReadParts.nodup_iff hparts).mpr ?_⟩
    exact hfiles.pairwise_of_forall_ne hapart

end Script

namespace Engine

theorem scenes_setScenes (e : Engine) (scenes : List Scene) :
    (e.setScenes scenes).scenes =
      Keyed.distinct (scenes.map fun s => (s.name, s.instructions)) := by
  unfold setScenes
  obtain ⟨frames, held, hplace⟩ := exists_place_eq { e with
    scenes := Keyed.distinct (scenes.map fun s => (s.name, s.instructions))
    pending := none
    status := .idle } e.held
  rw [hplace]

end Engine

namespace Session

open Script

structure Installed (s : Session) (table : List Scene) : Prop where
  names : s.engine.sceneNames = table.map Scene.name
  bodies : ∀ scene ∈ table, Keyed.get? scene.name s.engine.scenes = some scene.instructions

theorem installed_install (s : Session) {table : List Scene} (h : (table.map Scene.name).Nodup) :
    Installed (s.install (.ok table)).2 table := by
  have hkeys : Keyed.keys (table.map fun s => (s.name, s.instructions)) = table.map Scene.name := by
    simp [Keyed.keys]
  have hnodup : (Keyed.keys (table.map fun s => (s.name, s.instructions))).Nodup := hkeys ▸ h
  have hscenes : (s.install (.ok table)).2.engine.scenes =
      table.map fun s => (s.name, s.instructions) :=
    (Engine.scenes_setScenes s.engine table).trans (Keyed.distinct_eq_self hnodup)
  constructor
  · rw [Engine.sceneNames, hscenes, hkeys]
  · intro scene hscene
    rw [hscenes]
    exact Keyed.get?_of_mem hnodup (List.mem_map.mpr ⟨scene, hscene, rfl⟩)

/-- Files under distinct names make one table in the order of the bytes of their names, exactly if
each can be read and no scene is defined in two of them. A session that loads them has the scenes of
the table. Otherwise the fault is that of the first file to blame. In which order the files are
given does not matter. -/
theorem loadScripts_exact {sources : List (String × String)}
    (hdistinct : (Keyed.keys sources).Nodup) :
    ∃ files, files.Perm sources ∧
      files.Pairwise (fun a b => Text.bytes a.1 < Text.bytes b.1) ∧
      ((∃ table, readSources sources = .ok table) ↔ Compatible sources) ∧
      (∀ table, readSources sources = .ok table → IsTable files table ∧
        ∀ s : Session, (s.loadScripts sources).1 = true ∧
          Installed (s.loadScripts sources).2 table) ∧
      (∀ fault, readSources sources = .error fault → FirstStop files fault) ∧
      ∀ others, others.Perm sources → readSources others = readSources sources := by
  have hperm := Keyed.perm_ascending hdistinct
  have hsorted := Keyed.sorted_ascending sources
  have hfiles : (Keyed.ascending sources).Nodup := hperm.nodup_iff.mpr hdistinct.of_map
  refine ⟨Keyed.ascending sources, hperm, hsorted.imp Text.lt_iff_bytes_lt.mp, ?_, ?_, ?_, ?_⟩
  · have htable := exists_isTable_iff hfiles
    simp only [readSources, addSources_nil_eq_ok_iff, htable]
    exact ⟨fun h => h.perm hperm.symm, fun h => h.perm hperm⟩
  · intro table htable
    have hexact : IsTable (Keyed.ascending sources) table := addSources_nil_eq_ok_iff.mp htable
    refine ⟨hexact, fun s => ?_⟩
    rw [loadScripts, htable]
    exact ⟨rfl, installed_install s hexact.distinct⟩
  · intro fault hfault
    have hnone : ReadParts [] [] := .nil
    exact addSources_eq_error hnone List.nodup_nil hfault
  · intro others hothers
    rw [readSources, readSources, Keyed.ascending_eq_of_perm hdistinct hothers]

/-- Two files, the second by name given first; `last` is the scene that the second one defines. -/
def chapters (last : String) : List (String × String) :=
  [("b.json", "\x7b\"mill\":[],\"" ++ last ++ "\":[]\x7d"), ("a.json", "\x7b\"start\":[]\x7d")]

/-- The chapters make a table if their names differ, and else the second is to blame for its second
scene. -/
theorem loadScripts_exact_chapters :
    (Keyed.keys (chapters "end")).Nodup ∧
    (loadScripts {} (chapters "end")).2.engine.sceneNames = ["start", "mill", "end"] ∧
    readSources (chapters "end").reverse = readSources (chapters "end") ∧
    ∃ files fault, files.Perm (chapters "start") ∧ FirstStop files fault ∧
      fault.place? = some ("b.json", some 0, "start") := by
  have hdistinct : (Keyed.keys (chapters "end")).Nodup := by decide
  obtain ⟨files, -, -, -, htable, -, hothers⟩ := loadScripts_exact hdistinct
  have hnames : (readSources (chapters "end")).toOption.map (List.map Scene.name) =
      some ["start", "mill", "end"] := by decide +kernel
  have hclashing : (Keyed.keys (chapters "start")).Nodup := by decide
  obtain ⟨clashing, hperm, -, -, -, hfault, -⟩ := loadScripts_exact hclashing
  have hplace : ((readSources (chapters "start")).map (fun _ => ())).mapError Fault.place? =
      .error (some ("b.json", some 0, "start")) := by decide +kernel
  refine ⟨hdistinct, ?_, hothers _ (List.reverse_perm _), ?_⟩
  · cases hread : readSources (chapters "end") with
    | error fault =>
        rw [hread] at hnames
        cases hnames
    | ok table =>
        rw [hread] at hnames
        rw [((htable table hread).2 {}).2.names]
        exact Option.some.inj hnames
  · cases hread : readSources (chapters "start") with
    | error fault =>
        rw [hread] at hplace
        exact ⟨clashing, fault, hperm, hfault fault hread, Except.error.inj hplace⟩
    | ok table =>
        rw [hread] at hplace
        cases hplace

end Session

end BranchingStory
