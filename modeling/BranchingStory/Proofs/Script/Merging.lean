import BranchingStory.Proofs.Keyed
import BranchingStory.Proofs.Script.Table

/-!
Which table several files make, and which of them is to blame if there is none. The names in one
file are distinct, whatever its form, so names can clash only between files. The files are taken one
after another, and the first that cannot be read or defines a scene of a file before it stops the
reading.
-/

namespace BranchingStory

/-! ### Distinct names -/

/-- An object in a text of JSON has each key once. -/
theorem Json.nodup_keys_of_parse {text : String} {fields : List (String × Json)}
    (h : parse text = .ok (.object fields)) : (Keyed.keys fields).Nodup := by
  unfold parse at h
  cases hscan : scan text with
  | error line =>
      rw [hscan] at h
      cases h
  | ok tree =>
      rw [hscan] at h
      cases tree with
      | object written =>
          cases h
          exact Keyed.nodup_keys_distinct _
      | _ => cases h

namespace Yaml

theorem integerTree?_ne_object {i : Int} {fields : List (String × Json)} :
    integerTree? i ≠ some (.object fields) := by
  unfold integerTree?
  split <;> simp

theorem ofFloat_ne_object {x : Float} {fields : List (String × Json)} :
    Json.ofFloat x ≠ .object fields := by
  unfold Json.ofFloat
  split <;> simp

theorem plainTree?_ne_object {text : String} {fields : List (String × Json)} :
    plainTree? text ≠ some (.object fields) := by
  unfold plainTree?
  split
  · simp
  · split
    · simp
    · split
      · exact integerTree?_ne_object
      · split
        · simpa using ofFloat_ne_object
        · simp

theorem taggedTree?_ne_object {tag text : String} {fields : List (String × Json)} :
    taggedTree? tag text ≠ some (.object fields) := by
  unfold taggedTree?
  split_ifs
  · simp
  · intro h
    obtain ⟨i, -, hi⟩ := Option.bind_eq_some_iff.mp h
    exact integerTree?_ne_object hi
  · simpa using fun x _ => ofFloat_ne_object
  · simp
  · simp
  · simp

theorem scalarTree?_ne_object {tag : Option String} {plain : Bool} {text : String}
    {fields : List (String × Json)} : scalarTree? tag plain text ≠ some (.object fields) := by
  unfold scalarTree?
  split
  · exact taggedTree?_ne_object
  · split
    · exact plainTree?_ne_object
    · simp

theorem nodup_keys_of_tree? {d : Document} {depth jumps left : Nat} {node : Node}
    {fields : List (String × Json)} (h : tree? d depth jumps node = some (.object fields, left)) :
    (Keyed.keys fields).Nodup := by
  unfold tree? at h
  split at h
  · split at h
    · cases h
    · obtain ⟨tree, htree, hpair⟩ := Option.map_eq_some_iff.mp h
      obtain rfl := congrArg Prod.fst hpair
      exact absurd htree scalarTree?_ne_object
  · split at h
    · cases h
    · obtain ⟨_, -, hpair⟩ := Option.map_eq_some_iff.mp h
      cases congrArg Prod.fst hpair
  · split at h
    · cases h
    · obtain ⟨_, -, hpair⟩ := Option.map_eq_some_iff.mp h
      cases congrArg Prod.fst hpair
      exact Keyed.nodup_keys_distinct _
  · cases h

/-- An object in a text of YAML has each key once. -/
theorem nodup_keys_of_parse? {text : String} {fields : List (String × Json)}
    (h : parse? text = some (.object fields)) : (Keyed.keys fields).Nodup := by
  unfold parse? at h
  obtain ⟨d, -, h⟩ := Option.bind_eq_some_iff.mp h
  obtain ⟨⟨tree, left⟩, htree, h⟩ := Option.bind_eq_some_iff.mp h
  cases h
  exact nodup_keys_of_tree? htree

end Yaml

namespace Script

theorem names_of_readFields {file : String} {fields : List (String × Json)} {scenes : List Scene}
    (h : readFields file fields = .ok scenes) : scenes.map Scene.name = Keyed.keys fields := by
  have hscenes := readFields_eq_ok h
  clear h
  induction hscenes with
  | nil => rfl
  | cons hscene _ ih => exact congrArg₂ List.cons hscene.name ih

/-- The names of the scenes in a file are distinct. -/
theorem nodup_names_of_readSource {file text : String} {scenes : List Scene}
    (h : readSource file text = .ok scenes) : (scenes.map Scene.name).Nodup := by
  unfold readSource at h
  split at h
  · cases h
  · rename_i tree htree
    cases tree with
    | object fields =>
        rw [names_of_readFields h]
        unfold readDocument at htree
        split at htree
        · split at htree
          · rename_i found hparse
            cases htree
            exact Json.nodup_keys_of_parse hparse
          · cases htree
        · split at htree
          · rename_i found hparse
            cases htree
            exact Yaml.nodup_keys_of_parse? hparse
          · cases htree
    | _ => cases h

/-! ### What stops the reading -/

def Defines (source : String × String) (name : String) : Prop :=
  ∃ scenes, readSource source.1 source.2 = .ok scenes ∧ name ∈ scenes.map Scene.name

/-- A file with others before it has a fault: it cannot be read, or it defines a scene of one of
them. The first such scene is reported. -/
inductive Stops (before : List (String × String)) (file text : String) : Fault → Prop
  | unread {fault : Fault} (hread : readSource file text = .error fault) :
      Stops before file text fault
  | taken {own rest : List Scene} {scene : Scene}
      (hread : readSource file text = .ok (own ++ scene :: rest))
      (hown : ∀ s ∈ own, ∀ source ∈ before, ¬ Defines source s.name)
      (htaken : ∃ source ∈ before, Defines source scene.name) :
      Stops before file text (.script (.duplicateScene scene.name) ⟨file, 0, scene.name⟩)

def FirstStop (files : List (String × String)) (fault : Fault) : Prop :=
  ∃ before file text after, files = before ++ (file, text) :: after ∧
    Stops before file text fault ∧
    ∀ earlier file' text' later, before = earlier ++ (file', text') :: later →
      ∀ fault', ¬ Stops earlier file' text' fault'

theorem defines_iff {source : String × String} {part : List Scene} {name : String}
    (hpart : readSource source.1 source.2 = .ok part) :
    Defines source name ↔ name ∈ part.map Scene.name := by
  constructor
  · rintro ⟨scenes, hscenes, hname⟩
    exact Except.ok.inj (hscenes.symm.trans hpart) ▸ hname
  · exact fun hname => ⟨part, hpart, hname⟩

theorem ReadParts.mem_names_iff {files : List (String × String)} {parts : List (List Scene)}
    (h : ReadParts files parts) {name : String} :
    name ∈ parts.flatten.map Scene.name ↔ ∃ source ∈ files, Defines source name := by
  induction h with
  | nil => simp
  | cons hpart _ ih =>
      rw [List.flatten_cons, List.map_append, List.mem_append, ih, ← defines_iff hpart]
      simp

/-- Scenes with distinct names are refused at the first whose name is taken. -/
theorem merge_eq_error {file : String} {table scenes : List Scene} {fault : Fault}
    (hscenes : (scenes.map Scene.name).Nodup) (h : merge file table scenes = .error fault) :
    ∃ own scene rest, scenes = own ++ scene :: rest ∧
      (∀ s ∈ own, s.name ∉ table.map Scene.name) ∧ scene.name ∈ table.map Scene.name ∧
      fault = .script (.duplicateScene scene.name) ⟨file, 0, scene.name⟩ := by
  induction scenes generalizing table with
  | nil => cases h
  | cons first rest ih =>
      obtain ⟨hfirst, hrest⟩ := List.nodup_cons.mp hscenes
      rw [merge] at h
      split at h
      · rename_i hany
        obtain ⟨known, hknown, hname⟩ := List.any_eq_true.mp hany
        cases h
        refine ⟨[], first, rest, rfl, by simp, ?_, rfl⟩
        exact List.mem_map.mpr ⟨known, hknown, beq_iff_eq.mp hname⟩
      · rename_i hany
        have hnew : first.name ∉ table.map Scene.name := by
          intro hmem
          obtain ⟨known, hknown, hname⟩ := List.mem_map.mp hmem
          exact hany (List.any_eq_true.mpr ⟨known, hknown, beq_iff_eq.mpr hname⟩)
        obtain ⟨own, scene, others, rfl, hown, hscene, hfault⟩ := ih hrest h
        -- A later scene of the same file cannot clash with the one that was just added.
        simp only [List.map_append, List.map_singleton, List.mem_append, List.mem_singleton,
          not_or] at hown hscene
        refine ⟨first :: own, scene, others, rfl, ?_, ?_, hfault⟩
        · exact List.forall_mem_cons.mpr ⟨hnew, fun s hs => (hown s hs).1⟩
        · refine hscene.resolve_right fun hname => hfirst ?_
          exact hname ▸ List.mem_map_of_mem (List.mem_append_right _ List.mem_cons_self)

/-- No two files define a scene of one name exactly if the scenes of all have distinct names. -/
theorem ReadParts.nodup_iff {files : List (String × String)} {parts : List (List Scene)}
    (h : ReadParts files parts) : (parts.flatten.map Scene.name).Nodup ↔
      files.Pairwise fun a b => ∀ name, ¬ (Defines a name ∧ Defines b name) := by
  induction h with
  | nil => simp
  | @cons source part files parts hpart hparts ih =>
      rw [List.flatten_cons, List.map_append, List.nodup_append, ih, List.pairwise_cons]
      constructor
      · rintro ⟨-, hrest, hapart⟩
        refine ⟨?_, hrest⟩
        rintro other hother name ⟨hdefines, hagain⟩
        exact hapart name ((defines_iff hpart).mp hdefines) name
          (ReadParts.mem_names_iff hparts |>.mpr ⟨other, hother, hagain⟩) rfl
      · rintro ⟨hapart, hrest⟩
        refine ⟨nodup_names_of_readSource hpart, hrest, ?_⟩
        rintro name hname _ hagain rfl
        obtain ⟨other, hother, hdefines⟩ := (ReadParts.mem_names_iff hparts).mp hagain
        exact hapart other hother name ⟨(defines_iff hpart).mpr hname, hdefines⟩

theorem ReadParts.not_stops {files earlier later : List (String × String)}
    {parts : List (List Scene)} {file text : String} {fault : Fault} (h : ReadParts files parts)
    (hnodup : (parts.flatten.map Scene.name).Nodup)
    (hsplit : files = earlier ++ (file, text) :: later) : ¬ Stops earlier file text fault := by
  subst hsplit
  rintro (hread | ⟨hread, -, source, hsource, hdefines⟩)
  · obtain ⟨part, hpart⟩ := exists_forall₂_iff.mp ⟨parts, h⟩ (file, text) (by simp)
    cases hpart.symm.trans hread
  · have hapart := (List.pairwise_append.mp (h.nodup_iff.mp hnodup)).2.2 source hsource
      (file, text) List.mem_cons_self
    refine hapart _ ⟨hdefines, _, hread, ?_⟩
    exact List.mem_map_of_mem (List.mem_append_right _ List.mem_cons_self)

/-- Reading on from files without a fault fails by the first file that has one. -/
theorem addSources_eq_error {before files : List (String × String)} {parts : List (List Scene)}
    {fault : Fault} (hparts : ReadParts before parts)
    (hnodup : (parts.flatten.map Scene.name).Nodup)
    (h : addSources parts.flatten files = .error fault) : FirstStop (before ++ files) fault := by
  induction files generalizing before parts with
  | nil => cases h
  | cons source rest ih =>
      obtain ⟨file, text⟩ := source
      have hfirst : ∀ {fault}, Stops before file text fault →
          FirstStop (before ++ (file, text) :: rest) fault := fun hstops =>
        ⟨before, file, text, rest, rfl, hstops,
          fun _ _ _ _ hsplit _ => hparts.not_stops hnodup hsplit⟩
      rw [addSources] at h
      split at h
      · rename_i found hread
        cases h
        exact hfirst (.unread hread)
      · rename_i part hpart
        split at h
        · rename_i found hmerge
          cases h
          obtain ⟨own, scene, others, rfl, hown, hscene, rfl⟩ :=
            merge_eq_error (nodup_names_of_readSource hpart) hmerge
          refine hfirst (.taken hpart (fun s hs source hsource hdefines => ?_) ?_)
          · exact hown s hs (hparts.mem_names_iff.mpr ⟨source, hsource, hdefines⟩)
          · exact hparts.mem_names_iff.mp hscene
        · rename_i table hmerge
          -- The file joins those before it, and the rest is read on from there.
          obtain ⟨rfl, htable⟩ := (merge_eq_ok_iff hnodup).mp hmerge
          have hmore : ReadParts (before ++ [(file, text)]) (parts ++ [part]) :=
            List.rel_append hparts (.cons hpart .nil)
          have hflatten : (parts ++ [part]).flatten = parts.flatten ++ part := by simp
          have hrest := ih hmore (hflatten ▸ htable) (hflatten ▸ h)
          rwa [List.append_assoc, List.singleton_append] at hrest

end Script

end BranchingStory
