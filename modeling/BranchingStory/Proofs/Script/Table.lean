import BranchingStory.Proofs.Script.Location
import BranchingStory.Script.Source
import Mathlib.Data.List.Nodup

/-!
Several files as one table of scenes. The table is the scenes of all files one after another, and
there is one exactly if every file is a script and no name of a scene stands twice.
-/

namespace BranchingStory.Script

/-! ### One file -/

inductive Unusable (file text : String) : Prop
  | noDocument (h : ∀ tree, readDocument file text ≠ .ok tree)
  | noScript {tree : Json} {location : Location} (htree : readDocument file text = .ok tree)
      (hblames : Blames file tree location)

theorem readSource_eq_error_iff {file text : String} :
    (∃ fault, readSource file text = .error fault) ↔ Unusable file text := by
  unfold readSource
  constructor
  · rintro ⟨fault, h⟩
    split at h
    · rename_i found hfound
      exact .noDocument fun tree htree => by cases hfound.symm.trans htree
    · rename_i tree htree
      obtain ⟨scenes, hscenes⟩ | ⟨location, hblames⟩ := exists_readScenes_or_blames file tree
      · cases hscenes.symm.trans h
      · exact .noScript htree hblames
  · rintro (h | ⟨htree, hblames⟩)
    · cases hread : readDocument file text with
      | error fault => exact ⟨fault, rfl⟩
      | ok tree => exact absurd hread (h tree)
    · obtain ⟨cause, hcause⟩ := readScenes_of_blames hblames
      rw [htree]
      exact ⟨_, hcause⟩

/-! ### Several files -/

/-- The scenes of a file come after those that are there, unless a name is taken. -/
theorem merge_eq_ok_iff {file : String} {table scenes result : List Scene}
    (htable : (table.map Scene.name).Nodup) :
    merge file table scenes = .ok result ↔
      result = table ++ scenes ∧ (result.map Scene.name).Nodup := by
  induction scenes generalizing table with
  | nil =>
      rw [merge, List.append_nil, Except.ok.injEq]
      constructor
      · rintro rfl
        exact ⟨rfl, htable⟩
      · rintro ⟨rfl, -⟩
        rfl
  | cons scene rest ih =>
      rw [merge]
      have hany : table.any (fun known => known.name == scene.name) = true ↔
          scene.name ∈ table.map Scene.name := by
        rw [List.any_eq_true, List.mem_map]
        simp only [beq_iff_eq]
      by_cases hknown : scene.name ∈ table.map Scene.name
      · rw [if_pos (hany.mpr hknown)]
        constructor
        · intro h
          cases h
        · rintro ⟨rfl, hnodup⟩
          rw [List.map_append, List.map_cons] at hnodup
          exact absurd rfl ((List.nodup_append.mp hnodup).2.2 _ hknown _ List.mem_cons_self)
      · have hnext : ((table ++ [scene]).map Scene.name).Nodup := by
          rw [List.map_append, List.map_singleton, List.nodup_append]
          refine ⟨htable, List.nodup_singleton _, fun name hname other hother => ?_⟩
          obtain rfl := List.mem_singleton.mp hother
          exact fun heq => hknown (heq ▸ hname)
        rw [if_neg (mt hany.mp hknown), ih hnext, List.append_assoc, List.singleton_append]

def ReadParts : List (String × String) → List (List Scene) → Prop :=
  List.Forall₂ fun source part => readSource source.1 source.2 = .ok part

theorem ReadParts.unique {sources : List (String × String)} {parts parts' : List (List Scene)}
    (h : ReadParts sources parts) (h' : ReadParts sources parts') : parts = parts' :=
  List.right_unique_forall₂' (fun _ _ _ ha hb => Except.ok.inj (ha.symm.trans hb)) h h'

/-- The table of several files is what is there and then the scenes of each file in order. -/
theorem addSources_eq_ok_iff {table result : List Scene} {sources : List (String × String)}
    (htable : (table.map Scene.name).Nodup) :
    addSources table sources = .ok result ↔ ∃ parts, ReadParts sources parts ∧
      result = table ++ parts.flatten ∧ (result.map Scene.name).Nodup := by
  induction sources generalizing table with
  | nil =>
      rw [addSources, Except.ok.injEq]
      constructor
      · rintro rfl
        exact ⟨[], .nil, by simp, htable⟩
      · rintro ⟨parts, hparts, rfl, -⟩
        cases hparts
        simp
  | cons source rest ih =>
      rw [addSources]
      constructor
      · intro h
        split at h
        · cases h
        · rename_i part hpart
          split at h
          · cases h
          · rename_i merged hmerged
            obtain ⟨rfl, hmerged⟩ := (merge_eq_ok_iff htable).mp hmerged
            obtain ⟨parts, hparts, hresult, hnodup⟩ := (ih hmerged).mp h
            refine ⟨part :: parts, .cons hpart hparts, ?_, hnodup⟩
            rw [hresult, List.flatten_cons, List.append_assoc]
      · rintro ⟨parts, hparts, hresult, hnodup⟩
        obtain ⟨part, others, hpart, hothers, rfl⟩ := List.forall₂_cons_left_iff.mp hparts
        rw [List.flatten_cons, ← List.append_assoc] at hresult
        have hmerged : ((table ++ part).map Scene.name).Nodup := by
          rw [hresult, List.map_append] at hnodup
          exact (List.nodup_append.mp hnodup).1
        simp only [hpart, (merge_eq_ok_iff htable).mpr ⟨rfl, hmerged⟩]
        exact (ih hmerged).mpr ⟨others, hothers, hresult, hnodup⟩

inductive Broken (sources : List (String × String)) : Prop
  | source {file text : String} (hmem : (file, text) ∈ sources) (h : Unusable file text)
  | repeated {parts : List (List Scene)} (hparts : ReadParts sources parts)
      (h : ¬ (parts.flatten.map Scene.name).Nodup)

theorem readSources_eq_error_iff {sources : List (String × String)} :
    (∃ fault, readSources sources = .error fault) ↔ Broken (Keyed.ascending sources) := by
  have hempty : (([] : List Scene).map Scene.name).Nodup := List.nodup_nil
  rw [readSources]
  generalize Keyed.ascending sources = files
  constructor
  · rintro ⟨fault, h⟩
    by_cases hall : ∀ source ∈ files, ∃ part, readSource source.1 source.2 = .ok part
    · obtain ⟨parts, hparts⟩ := exists_forall₂_iff.mpr hall
      refine .repeated hparts fun hnodup => ?_
      have hok := (addSources_eq_ok_iff hempty).mpr ⟨parts, hparts, rfl, hnodup⟩
      cases hok.symm.trans h
    · -- Names are compared only where all files could be read.
      push Not at hall
      obtain ⟨⟨file, text⟩, hmem, hnone⟩ := hall
      refine .source hmem (readSource_eq_error_iff.mp ?_)
      cases hread : readSource file text with
      | error fault => exact ⟨fault, rfl⟩
      | ok part => exact absurd hread (hnone part)
  · intro h
    cases hadd : addSources [] files with
    | error fault => exact ⟨fault, rfl⟩
    | ok result =>
        obtain ⟨parts, hparts, rfl, hnodup⟩ := (addSources_eq_ok_iff hempty).mp hadd
        cases h with
        | source hmem hunusable =>
            obtain ⟨fault, hfault⟩ := readSource_eq_error_iff.mpr hunusable
            obtain ⟨part, hpart⟩ := exists_forall₂_iff.mp ⟨parts, hparts⟩ _ hmem
            cases hfault.symm.trans hpart
        | repeated hparts' h => exact absurd (hparts.unique hparts' ▸ hnodup) h

end BranchingStory.Script
