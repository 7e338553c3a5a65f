import BranchingStory.Proofs.GameState
import BranchingStory.Proofs.Json
import Mathlib.Data.List.Nodup

/-!
A save is read back from its tree. Numbers must be finite, since others are written as null, and
indices must fit 64 bits. The maps of a canonical state come back because their entries are written
in the order in which reading puts them.
-/

namespace BranchingStory

/-! ### Values -/

namespace Value

mutual

def Finite : Value → Prop
  | .bool _ => True
  | .number x => x.isFinite = true
  | .text _ => True
  | .list items => FiniteItems items
  | .map entries => FiniteEntries entries

def FiniteItems : List Value → Prop
  | [] => True
  | v :: rest => v.Finite ∧ FiniteItems rest

def FiniteEntries : List (String × Value) → Prop
  | [] => True
  | (_, v) :: rest => v.Finite ∧ FiniteEntries rest

end

theorem finiteEntries_iff {entries : List (String × Value)} :
    FiniteEntries entries ↔ ∀ entry ∈ entries, entry.2.Finite := by
  induction entries with
  | nil => simp [FiniteEntries]
  | cons entry rest ih => simp [FiniteEntries, ih]

mutual

theorem decode?_encode : ∀ {v : Value}, v.Tidy → v.Finite → decode? v.encode = some v
  | .bool _, _, _ => rfl
  | .number x, _, hfinite => by
    rw [encode, Json.ofFloat, if_pos (show x.isFinite = true from hfinite)]
    rfl
  | .text _, _, _ => rfl
  | .list items, htidy, hfinite => by
    rw [encode, decode?, decodeItems?_encodeItems htidy hfinite]
    rfl
  | .map entries, htidy, hfinite => by
    rw [encode, decode?, decodeFields?_encodeEntries htidy.1 htidy.2 hfinite]
    rfl

theorem decodeItems?_encodeItems : ∀ {items : List Value}, TidyItems items → FiniteItems items →
    decodeItems? (encodeItems items) = some items
  | [], _, _ => rfl
  | v :: rest, htidy, hfinite => by
    rw [encodeItems, decodeItems?, decode?_encode htidy.1 hfinite.1,
      decodeItems?_encodeItems htidy.2 hfinite.2]

theorem decodeFields?_encodeEntries : ∀ {entries : List (String × Value)},
    Keyed.Sorted entries → TidyEntries entries → FiniteEntries entries →
      decodeFields? (encodeEntries entries) = some entries
  | [], _, _, _ => rfl
  | (key, v) :: rest, hsorted, htidy, hfinite => by
    obtain ⟨hbelow, hrest⟩ := List.pairwise_cons.mp hsorted
    rw [encodeEntries, decodeFields?, decode?_encode htidy.1 hfinite.1,
      decodeFields?_encodeEntries hrest htidy.2 hfinite.2]
    simp only [Keyed.contains_eq_false hbelow, Keyed.insert_eq_cons hbelow, Bool.false_eq_true,
      if_false]

end

end Value

/-! ### Records -/

theorem Json.index?_ofIndex {n : Nat} (h : (Json.ofIndex n).Narrow) :
    Json.index? (.ofIndex n) = some n := by
  have hlt : n < Decimal.twoTo 64 := Int.ofNat_lt.mp h
  exact if_pos hlt

namespace Json

/-- A field of an object that may be left out. -/
def written (name : String) : Option Json → List (String × Json)
  | some tree => [(name, tree)]
  | none => []

theorem get?_written (key name : String) (tree : Option Json) :
    Keyed.get? key (written name tree) = if name = key then tree else none := by
  cases tree with
  | none => simp [written, Keyed.get?]
  | some tree => rfl

theorem keys_written (name : String) (tree : Option Json) :
    (Keyed.keys (written name tree)).Sublist [name] := by
  cases tree with
  | none => exact List.nil_sublist _
  | some tree => exact List.Sublist.refl _

/-- An object with distinct keys is a record. -/
theorem Record.of?_object {names : List String} {fields : List (String × Json)}
    (h : (Keyed.keys fields).Nodup) : Record.of? names (.object fields) = some (.named fields) := by
  have hcount : names.all (fun name => decide ((Keyed.keys fields).count name ≤ 1)) = true := by
    rw [List.all_eq_true]
    intro name _
    exact decide_eq_true (List.nodup_iff_count_le_one.mp h name)
  exact if_pos hcount

theorem Record.required_found {α : Type} {fields : List (String × Json)} {name : String}
    {tree : Json} (hfound : Keyed.get? name fields = some tree) (place : Nat)
    (read : Json → Option α) : (Record.named fields).required place name read = read tree := by
  rw [Record.required, Record.find?, hfound]
  rfl

theorem Record.withDefault_found {α : Type} {fields : List (String × Json)} {name : String}
    {tree : Json} (hfound : Keyed.get? name fields = some tree) (place : Nat) (default : α)
    (read : Json → Option α) :
    (Record.named fields).withDefault place name default read = read tree := by
  rw [Record.withDefault, Record.find?, hfound]

theorem Record.withDefault_missing {α : Type} {fields : List (String × Json)} {name : String}
    (hmissing : Keyed.get? name fields = none) (place : Nat) (default : α)
    (read : Json → Option α) :
    (Record.named fields).withDefault place name default read = some default := by
  rw [Record.withDefault, Record.find?, hmissing]

/-- A list is read as a whole if each of its items is read. -/
theorem listOf_eq_some_iff {α : Type} {read : Json → Option α} {tree : Json} {values : List α} :
    listOf read tree = some values ↔
      ∃ items, tree = .list items ∧ items.map read = values.map some := by
  have hmapM : ∀ items : List Json,
      items.mapM read = some values ↔ items.map read = values.map some := by
    intro items
    induction items generalizing values with
    | nil => cases values <;> simp
    | cons item rest ih =>
        simp only [List.mapM_cons, Option.bind_eq_bind, Option.bind_eq_some_iff, Option.pure_def,
          Option.some.injEq, ih, List.map_cons]
        cases values with
        | nil => simp
        | cons v values => simp [and_comm, eq_comm]
  cases tree with
  | list items => simp [listOf, hmapM]
  | _ => simp [listOf]

/-- Items that are read back one by one are read back as a list. -/
theorem listOf_map {α : Type} {encode : α → Json} {decode? : Json → Option α} {items : List α}
    (h : ∀ a ∈ items, decode? (encode a) = some a) :
    listOf decode? (.list (items.map encode)) = some items := by
  refine listOf_eq_some_iff.mpr ⟨_, rfl, ?_⟩
  rw [List.map_map]
  exact List.map_congr_left h

end Json

theorem ChoiceRecord.decode?_encode (r : ChoiceRecord) :
    ChoiceRecord.decode? r.encode = some r := by
  obtain ⟨text, scene, timestamp⟩ := r
  cases timestamp with
  | none => rfl
  | some time => rfl

theorem BranchCursor.decode?_encode {c : BranchCursor} (h : c.encode.Narrow) :
    BranchCursor.decode? c.encode = some c := by
  obtain ⟨hconditional, -, hindex, -⟩ := h
  let fields := [("conditionalIndex", Json.ofIndex c.conditionalIndex),
    ("elseBranch", .bool c.elseBranch), ("index", .ofIndex c.index)]
  have hrecord : Json.Record.of? ["conditionalIndex", "elseBranch", "index"] c.encode =
      some (.named fields) :=
    Json.Record.of?_object (show ["conditionalIndex", "elseBranch", "index"].Nodup by decide)
  have hfirst : (Json.Record.named fields).required 0 "conditionalIndex" Json.index? =
      some c.conditionalIndex :=
    (Json.Record.required_found rfl 0 _).trans (Json.index?_ofIndex hconditional)
  have hsecond : (Json.Record.named fields).withDefault 1 "elseBranch" false Json.bool? =
      some c.elseBranch := (Json.Record.withDefault_found rfl 1 _ _).trans rfl
  have hthird : (Json.Record.named fields).required 2 "index" Json.index? = some c.index :=
    (Json.Record.required_found rfl 2 _).trans (Json.index?_ofIndex hindex)
  rw [BranchCursor.decode?, hrecord]
  simp only [Option.bind_eq_bind, Option.bind_some, hfirst, hsecond, hthird]
  rfl

/-! ### Saves -/

namespace Save

/-- The fields of a save that are always written. -/
def plainFields (d : Save) : List (String × Json) :=
  [("schemaVersion", .text d.schemaVersion), ("saveDate", .text d.saveDate),
    ("variables", .list (d.vars.map encodeVariable)),
    ("storyFlags", .list (d.storyFlags.map .text)),
    ("choiceHistory", .list (d.choiceHistory.map ChoiceRecord.encode))]

def branchTree? (d : Save) : Option Json :=
  if d.branches.isEmpty then none else some (.list (d.branches.map BranchCursor.encode))

def fields (d : Save) : List (String × Json) :=
  d.plainFields ++ Json.written "currentScene" (d.currentScene.map .text) ++
    Json.written "currentInstructionIndex" (d.currentIndex.map .ofIndex) ++
    Json.written "branchStack" d.branchTree?

theorem encode_eq_object (d : Save) : d.encode = .object d.fields := by
  obtain ⟨schemaVersion, saveDate, vars, storyFlags, choiceHistory, currentScene, currentIndex,
    branches⟩ := d
  cases currentScene <;> cases currentIndex <;> cases branches <;> rfl

theorem nodup_keys_fields (d : Save) : (Keyed.keys d.fields).Nodup := by
  have hsublist : (Keyed.keys d.fields).Sublist parts := by
    simp only [fields, Keyed.keys, List.map_append]
    exact (((List.Sublist.refl _).append (Json.keys_written _ _)).append
      (Json.keys_written _ _)).append (Json.keys_written _ _)
  exact hsublist.nodup (by decide)

theorem decodeVariable?_encodeVariable {entry : String × Value} (htidy : entry.2.Tidy)
    (hfinite : entry.2.Finite) : decodeVariable? (encodeVariable entry) = some entry := by
  rw [encodeVariable, decodeVariable?, Value.decode?_encode htidy hfinite]
  rfl

section

variable (d : Save)

theorem get?_fields_scene :
    Keyed.get? "currentScene" d.fields = d.currentScene.map .text := by
  simp [fields, plainFields, Keyed.get?_append, Json.get?_written, Keyed.get?]

theorem get?_fields_index :
    Keyed.get? "currentInstructionIndex" d.fields = d.currentIndex.map .ofIndex := by
  simp [fields, plainFields, Keyed.get?_append, Json.get?_written, Keyed.get?]

theorem get?_fields_branches : Keyed.get? "branchStack" d.fields = d.branchTree? := by
  simp [fields, plainFields, Keyed.get?_append, Json.get?_written, Keyed.get?]

theorem withDefault_scene :
    (Json.Record.named d.fields).withDefault 5 "currentScene" none (Json.nullable Json.text?) =
      some d.currentScene := by
  have hget := d.get?_fields_scene
  cases hscene : d.currentScene with
  | none =>
      rw [hscene] at hget
      exact Json.Record.withDefault_missing hget _ _ _
  | some scene =>
      rw [hscene] at hget
      exact Json.Record.withDefault_found hget _ _ _

theorem withDefault_index (hnarrow : Json.NarrowFields d.fields) :
    (Json.Record.named d.fields).withDefault 6 "currentInstructionIndex" none
      (Json.nullable Json.index?) = some d.currentIndex := by
  have hget := d.get?_fields_index
  cases hindex : d.currentIndex with
  | none =>
      rw [hindex] at hget
      exact Json.Record.withDefault_missing hget _ _ _
  | some index =>
      rw [hindex] at hget
      have htree := Json.narrowFields_iff.mp hnarrow _ (Keyed.mem_of_get?_eq_some hget)
      refine (Json.Record.withDefault_found hget _ _ _).trans ?_
      exact congrArg (Option.map some) (Json.index?_ofIndex htree)

theorem withDefault_branches (hnarrow : Json.NarrowFields d.fields) :
    (Json.Record.named d.fields).withDefault 7 "branchStack" []
      (Json.listOf BranchCursor.decode?) = some d.branches := by
  have hget := d.get?_fields_branches
  cases hbranches : d.branches with
  | nil =>
      rw [branchTree?, hbranches] at hget
      exact Json.Record.withDefault_missing hget _ _ _
  | cons c rest =>
      rw [branchTree?, hbranches] at hget
      have htree := Json.narrowFields_iff.mp hnarrow _ (Keyed.mem_of_get?_eq_some hget)
      refine (Json.Record.withDefault_found hget _ _ _).trans (Json.listOf_map fun c hc => ?_)
      exact BranchCursor.decode?_encode
        (Json.narrowItems_iff.mp htree _ (List.mem_map_of_mem hc))

end

/-- A save is read back from its tree. -/
theorem decode?_encode {d : Save} (htidy : Value.TidyEntries d.vars)
    (hfinite : Value.FiniteEntries d.vars) (hnarrow : d.encode.Narrow) :
    decode? d.encode = some d := by
  rw [encode_eq_object] at hnarrow ⊢
  have hrecord : Json.Record.of? parts (.object d.fields) = some (.named d.fields) :=
    Json.Record.of?_object d.nodup_keys_fields
  have hschema : (Json.Record.named d.fields).withDefault 0 "schemaVersion" "" Json.text? =
      some d.schemaVersion := (Json.Record.withDefault_found rfl _ _ _).trans rfl
  have hdate : (Json.Record.named d.fields).withDefault 1 "saveDate" "" Json.text? =
      some d.saveDate := (Json.Record.withDefault_found rfl _ _ _).trans rfl
  have hvars : (Json.Record.named d.fields).withDefault 2 "variables" []
      (Json.listOf decodeVariable?) = some d.vars := by
    refine (Json.Record.withDefault_found rfl _ _ _).trans (Json.listOf_map fun entry hentry => ?_)
    exact decodeVariable?_encodeVariable (Value.tidyEntries_iff.mp htidy entry hentry)
      (Value.finiteEntries_iff.mp hfinite entry hentry)
  have hflags : (Json.Record.named d.fields).withDefault 3 "storyFlags" []
      (Json.listOf Json.text?) = some d.storyFlags :=
    (Json.Record.withDefault_found rfl _ _ _).trans (Json.listOf_map fun flag _ => rfl)
  have hhistory : (Json.Record.named d.fields).withDefault 4 "choiceHistory" []
      (Json.listOf ChoiceRecord.decode?) = some d.choiceHistory :=
    (Json.Record.withDefault_found rfl _ _ _).trans (Json.listOf_map fun r _ => r.decode?_encode)
  simp only [decode?, hrecord, Option.bind_eq_bind, Option.bind_some, hschema, hdate, hvars, hflags,
    hhistory, d.withDefault_scene, d.withDefault_index hnarrow, d.withDefault_branches hnarrow]
  rfl

end Save

end BranchingStory
