import BranchingStory.Proofs.Save

/-!
What comes back from a save. A number that is not finite is written as null. A strict reader refuses
a save with such a number as a whole, and returns every other save as it was. A lenient reader drops
such numbers where they stand, from variables, lists and maps at any depth, and keeps all else.
-/

namespace BranchingStory

namespace Value

/-! ### What is finite in a value -/

mutual

/-- The value without the numbers in it that are not finite, unless it is itself one. -/
def finitePart? : Value → Option Value
  | .bool b => some (.bool b)
  | .number x => if x.isFinite then some (.number x) else none
  | .text s => some (.text s)
  | .list items => some (.list (finiteItems items))
  | .map entries => some (.map (finiteEntries entries))

def finiteItems : List Value → List Value
  | [] => []
  | v :: rest =>
    match v.finitePart? with
    | some w => w :: finiteItems rest
    | none => finiteItems rest

def finiteEntries : List (String × Value) → List (String × Value)
  | [] => []
  | (key, v) :: rest =>
    match v.finitePart? with
    | some w => (key, w) :: finiteEntries rest
    | none => finiteEntries rest

end

theorem finiteEntries_eq_filterMap (entries : List (String × Value)) :
    finiteEntries entries =
      entries.filterMap fun entry => entry.2.finitePart?.map (entry.1, ·) := by
  induction entries with
  | nil => rfl
  | cons entry rest ih =>
      obtain ⟨key, v⟩ := entry
      simp only [finiteEntries, List.filterMap_cons, ih]
      cases v.finitePart? <;> rfl

theorem below_finiteEntries {key : String} {entries : List (String × Value)}
    (h : ∀ entry ∈ entries, key < entry.1) : ∀ entry ∈ finiteEntries entries, key < entry.1 := by
  intro entry hentry
  rw [finiteEntries_eq_filterMap] at hentry
  obtain ⟨source, hsource, hpart⟩ := List.mem_filterMap.mp hentry
  obtain ⟨w, -, rfl⟩ := Option.map_eq_some_iff.mp hpart
  exact h source hsource

theorem sorted_finiteEntries {entries : List (String × Value)} (h : Keyed.Sorted entries) :
    Keyed.Sorted (finiteEntries entries) := by
  induction entries with
  | nil => exact Keyed.sorted_nil
  | cons entry rest ih =>
      obtain ⟨key, v⟩ := entry
      obtain ⟨hbelow, hrest⟩ := List.pairwise_cons.mp h
      rw [finiteEntries]
      split
      · exact List.pairwise_cons.mpr ⟨below_finiteEntries hbelow, ih hrest⟩
      · exact ih hrest

mutual

/-- Lenient reading of a written value gives its finite part. -/
theorem ofJson?_encode : ∀ {v : Value}, v.Tidy → ofJson? v.encode = v.finitePart?
  | .bool _, _ => rfl
  | .number x, _ => by
    rw [encode, Json.ofFloat, finitePart?]
    split <;> rfl
  | .text _, _ => rfl
  | .list items, htidy => by rw [encode, ofJson?, finitePart?, ofJsonItems_encodeItems htidy]
  | .map entries, htidy => by
    rw [encode, ofJson?, finitePart?, ofJsonFields_encodeEntries htidy.1 htidy.2]

theorem ofJsonItems_encodeItems : ∀ {items : List Value}, TidyItems items →
    ofJsonItems (encodeItems items) = finiteItems items
  | [], _ => rfl
  | v :: rest, htidy => by
    have hv := ofJson?_encode htidy.1
    have hrest := ofJsonItems_encodeItems htidy.2
    cases hpart : v.finitePart? <;>
      simp [encodeItems, ofJsonItems, finiteItems, hv, hrest, hpart]

theorem ofJsonFields_encodeEntries : ∀ {entries : List (String × Value)},
    Keyed.Sorted entries → TidyEntries entries →
      ofJsonFields (encodeEntries entries) = finiteEntries entries
  | [], _, _ => rfl
  | (key, v) :: rest, hsorted, htidy => by
    obtain ⟨hbelow, hrest⟩ := List.pairwise_cons.mp hsorted
    have hbelow' := below_finiteEntries hbelow
    rw [encodeEntries, ofJsonFields, finiteEntries, ofJson?_encode htidy.1,
      ofJsonFields_encodeEntries hrest htidy.2]
    -- What is read of the rest stands above the key, so the key is new and comes first.
    cases v.finitePart? <;> simp [Keyed.contains_eq_false hbelow', Keyed.insert_eq_cons hbelow']

end

mutual

/-- Strict reading refuses what is written of a value that is not finite. -/
theorem decode?_encode_eq_none : ∀ {v : Value}, ¬ v.Finite → decode? v.encode = none
  | .bool _, h => absurd trivial h
  | .number x, h => by
    rw [encode, Json.ofFloat, if_neg (show ¬ x.isFinite = true from h)]
    rfl
  | .text _, h => absurd trivial h
  | .list items, h => by
    rw [encode, decode?, decodeItems?_encodeItems_eq_none h]
    rfl
  | .map entries, h => by
    rw [encode, decode?, decodeFields?_encodeEntries_eq_none h]
    rfl

theorem decodeItems?_encodeItems_eq_none : ∀ {items : List Value}, ¬ FiniteItems items →
    decodeItems? (encodeItems items) = none
  | [], h => absurd trivial h
  | v :: rest, h => by
    rw [encodeItems, decodeItems?]
    by_cases hv : v.Finite
    · have hrest : ¬ FiniteItems rest := fun hrest => h ⟨hv, hrest⟩
      simp [decodeItems?_encodeItems_eq_none hrest]
    · simp [decode?_encode_eq_none hv]

theorem decodeFields?_encodeEntries_eq_none : ∀ {entries : List (String × Value)},
    ¬ FiniteEntries entries → decodeFields? (encodeEntries entries) = none
  | [], h => absurd trivial h
  | (key, v) :: rest, h => by
    rw [encodeEntries, decodeFields?]
    by_cases hv : v.Finite
    · have hrest : ¬ FiniteEntries rest := fun hrest => h ⟨hv, hrest⟩
      simp [decodeFields?_encodeEntries_eq_none hrest]
    · simp [decode?_encode_eq_none hv]

end

end Value

/-! ### Indices -/

mutual

theorem Value.narrow_encode : ∀ v : Value, v.encode.Narrow
  | .bool _ => trivial
  | .number x => by
    rw [encode, Json.ofFloat]
    split <;> trivial
  | .text _ => trivial
  | .list items => narrow_encodeItems items
  | .map entries => narrow_encodeEntries entries

theorem Value.narrow_encodeItems : ∀ items : List Value, Json.NarrowItems (encodeItems items)
  | [] => trivial
  | v :: rest => ⟨v.narrow_encode, narrow_encodeItems rest⟩

theorem Value.narrow_encodeEntries : ∀ entries : List (String × Value),
    Json.NarrowFields (encodeEntries entries)
  | [] => trivial
  | (_, v) :: rest => ⟨v.narrow_encode, narrow_encodeEntries rest⟩

end

theorem Json.narrow_ofIndex {n : Nat} (h : n < Decimal.twoTo 64) : (Json.ofIndex n).Narrow :=
  Int.ofNat_lt.mpr h

theorem Json.narrowItems_map {α : Type} {encode : α → Json} {items : List α}
    (h : ∀ a ∈ items, (encode a).Narrow) : Json.NarrowItems (items.map encode) := by
  rw [Json.narrowItems_iff]
  simpa using h

theorem BranchCursor.narrow_encode {c : BranchCursor} (h : c.conditionalIndex < Decimal.twoTo 64)
    (hindex : c.index < Decimal.twoTo 64) : c.encode.Narrow :=
  ⟨Json.narrow_ofIndex h, trivial, Json.narrow_ofIndex hindex, trivial⟩

theorem ChoiceRecord.narrow_encode (r : ChoiceRecord) : r.encode.Narrow := by
  obtain ⟨text, scene, timestamp⟩ := r
  cases timestamp with
  | none => exact ⟨trivial, trivial, trivial⟩
  | some time => exact ⟨trivial, trivial, trivial, trivial⟩

namespace Json

theorem narrowFields_append {fields more : List (String × Json)} (h : NarrowFields fields)
    (hmore : NarrowFields more) : NarrowFields (fields ++ more) := by
  rw [narrowFields_iff] at *
  intro field hfield
  obtain hfield | hfield := List.mem_append.mp hfield
  · exact h field hfield
  · exact hmore field hfield

theorem narrowFields_written (name : String) {tree : Option Json}
    (h : ∀ t, tree = some t → t.Narrow) : NarrowFields (written name tree) := by
  cases tree with
  | none => trivial
  | some t => exact ⟨h t rfl, trivial⟩

end Json

namespace Save

theorem narrow_encode {d : Save} (hindex : ∀ i, d.currentIndex = some i → i < Decimal.twoTo 64)
    (hbranches : ∀ c ∈ d.branches, c.conditionalIndex < Decimal.twoTo 64 ∧
      c.index < Decimal.twoTo 64) : d.encode.Narrow := by
  have hplain : Json.NarrowFields d.plainFields := by
    refine ⟨trivial, trivial, ?_, ?_, ?_, trivial⟩
    · exact Json.narrowItems_map fun entry _ => ⟨trivial, entry.2.narrow_encode, trivial⟩
    · exact Json.narrowItems_map fun _ _ => trivial
    · exact Json.narrowItems_map fun r _ => r.narrow_encode
  rw [encode_eq_object]
  refine Json.narrowFields_append (Json.narrowFields_append (Json.narrowFields_append hplain ?_) ?_)
    ?_
  · apply Json.narrowFields_written
    intro tree htree
    obtain ⟨scene, -, rfl⟩ := Option.map_eq_some_iff.mp htree
    trivial
  · apply Json.narrowFields_written
    intro tree htree
    obtain ⟨i, hi, rfl⟩ := Option.map_eq_some_iff.mp htree
    exact Json.narrow_ofIndex (hindex i hi)
  · apply Json.narrowFields_written
    intro tree htree
    unfold branchTree? at htree
    split at htree
    · simp at htree
    · obtain rfl := Option.some.inj htree
      exact Json.narrowItems_map fun c hc =>
        BranchCursor.narrow_encode (hbranches c hc).1 (hbranches c hc).2

/-! ### Saves -/

theorem recoverVariable?_encodeVariable {entry : String × Value} (h : entry.2.Tidy) :
    recoverVariable? (encodeVariable entry) = entry.2.finitePart?.map (entry.1, ·) :=
  congrArg (Option.map (entry.1, ·)) (Value.ofJson?_encode h)

/-- A save with a number that is not finite is refused. -/
theorem decode?_encode_eq_none {d : Save} (h : ¬ Value.FiniteEntries d.vars) :
    decode? d.encode = none := by
  have hrecord : Json.Record.of? parts (.object d.fields) = some (.named d.fields) :=
    Json.Record.of?_object d.nodup_keys_fields
  have hvars : (Json.Record.named d.fields).withDefault 2 "variables" []
      (Json.listOf decodeVariable?) = none := by
    refine (Json.Record.withDefault_found rfl _ _ _).trans ?_
    by_contra hsome
    obtain ⟨values, hvalues⟩ := Option.ne_none_iff_exists'.mp hsome
    obtain ⟨items, hitems, hread⟩ := Json.listOf_eq_some_iff.mp hvalues
    obtain rfl := Json.list.inj hitems
    -- Every variable is read, so every variable is finite.
    refine h (Value.finiteEntries_iff.mpr fun entry hentry => ?_)
    have hmem : decodeVariable? (encodeVariable entry) ∈ values.map some :=
      hread ▸ List.mem_map_of_mem (List.mem_map_of_mem hentry)
    obtain ⟨value, -, hvalue⟩ := List.mem_map.mp hmem
    by_contra hfinite
    have hnone : decodeVariable? (encodeVariable entry) = none :=
      congrArg (Option.map (entry.1, ·)) (Value.decode?_encode_eq_none hfinite)
    exact absurd (hvalue.trans hnone) (by simp)
  rw [encode_eq_object]
  simp only [decode?, hrecord, hvars, Option.bind_eq_bind, Option.bind_some, Option.bind_none,
    Option.bind_fun_none]

/-- Lenient reading of a save that was written drops the numbers that are not finite, and nothing
else. -/
theorem recoverState_encode {d : Save} (hsorted : Keyed.Sorted d.vars)
    (htidy : Value.TidyEntries d.vars) (hnarrow : d.encode.Narrow) :
    recoverState d.encode = { d.toState with vars := Value.finiteEntries d.vars } := by
  rw [encode_eq_object] at hnarrow ⊢
  have hscene : (Keyed.get? "currentScene" d.fields).bind Json.text? = d.currentScene := by
    rw [d.get?_fields_scene, Option.bind_map]
    exact Option.bind_fun_some _
  have hindex : (Keyed.get? "currentInstructionIndex" d.fields).bind Json.index? =
      d.currentIndex := by
    have hget := d.get?_fields_index
    rw [hget]
    cases hindex : d.currentIndex with
    | none => rfl
    | some index =>
        rw [hindex] at hget
        exact Json.index?_ofIndex
          (Json.narrowFields_iff.mp hnarrow _ (Keyed.mem_of_get?_eq_some hget))
  have hvars : recoverVariables (Keyed.get? "variables" d.fields) = Value.finiteEntries d.vars := by
    have hget : Keyed.get? "variables" d.fields = some (.list (d.vars.map encodeVariable)) := rfl
    have hread : d.vars.filterMap (recoverVariable? ∘ encodeVariable) =
        Value.finiteEntries d.vars := by
      rw [Value.finiteEntries_eq_filterMap]
      exact List.filterMap_congr fun entry hentry =>
        recoverVariable?_encodeVariable (Value.tidyEntries_iff.mp htidy entry hentry)
    rw [hget, recoverVariables, List.filterMap_map, hread]
    exact Keyed.ascending_eq_self (Value.sorted_finiteEntries hsorted)
  have hflags : (recoverItems (Keyed.get? "storyFlags" d.fields)).filterMap Json.text? =
      d.storyFlags := by
    have hget : Keyed.get? "storyFlags" d.fields = some (.list (d.storyFlags.map .text)) := rfl
    rw [hget, recoverItems, List.filterMap_map]
    exact List.filterMap_some
  have hhistory : (recoverItems (Keyed.get? "choiceHistory" d.fields)).filterMap
      ChoiceRecord.decode? = d.choiceHistory := by
    have hget : Keyed.get? "choiceHistory" d.fields =
      some (.list (d.choiceHistory.map ChoiceRecord.encode)) := rfl
    have hread : ChoiceRecord.decode? ∘ ChoiceRecord.encode = some :=
      funext ChoiceRecord.decode?_encode
    rw [hget, recoverItems, List.filterMap_map, hread, List.filterMap_some]
  rw [recoverState, hscene, hindex, hvars, hflags, hhistory]
  rfl

end Save

/-! ### States and their saves -/

structure GameState.Fits (s : GameState) (branches : List BranchCursor) : Prop where
  canonical : s.Canonical
  index : s.index < Decimal.twoTo 64
  branches : ∀ c ∈ branches, c.conditionalIndex < Decimal.twoTo 64 ∧ c.index < Decimal.twoTo 64

namespace Save

theorem narrow_encode_ofState {s : GameState} {branches : List BranchCursor}
    (h : s.Fits branches) (now : String) :
    Json.Narrow (encode { ofState now s with branches }) := by
  refine narrow_encode (fun i hi => ?_) h.branches
  obtain ⟨-, -, rfl⟩ := Option.map_eq_some_iff.mp hi
  exact h.index

/-- What is written of a state is read back strictly exactly if all its numbers are finite, and not
at all otherwise. Lenient reading always returns the state, without the numbers in its variables
that are not finite; only an index outside of every scene is forgotten. -/
theorem read_encode_ofState {s : GameState} {branches : List BranchCursor} (h : s.Fits branches)
    (now : String) :
    let d : Save := { ofState now s with branches }
    (decode? d.encode = some d ↔ ∀ entry ∈ s.vars, entry.2.Finite) ∧
      ((∃ entry ∈ s.vars, ¬ entry.2.Finite) → decode? d.encode = none) ∧
      recoverState d.encode =
        { s with
          index := if s.scene.isSome then s.index else 0
          vars := Value.finiteEntries s.vars } := by
  intro d
  have hrefused : ¬ Value.FiniteEntries s.vars → decode? d.encode = none :=
    fun hinfinite => decode?_encode_eq_none hinfinite
  have hnarrow : d.encode.Narrow := narrow_encode_ofState h now
  refine ⟨⟨fun hread => ?_, fun hfinite => ?_⟩, fun ⟨entry, hentry, hinfinite⟩ => ?_, ?_⟩
  · -- What was read cannot have been refused.
    refine Value.finiteEntries_iff.mp ?_
    by_contra hinfinite
    exact absurd (hread.symm.trans (hrefused hinfinite)) (by simp)
  · exact decode?_encode h.canonical.tidy (Value.finiteEntries_iff.mpr hfinite) hnarrow
  · exact hrefused fun hfinite => hinfinite (Value.finiteEntries_iff.mp hfinite entry hentry)
  · have hflags : TextSet.ofList s.flags = s.flags := TextSet.ofList_eq_self h.canonical.flags
    have hindex : (s.scene.map fun _ => s.index).getD 0 =
        if s.scene.isSome then s.index else 0 := by cases s.scene <;> rfl
    refine (recoverState_encode h.canonical.sorted h.canonical.tidy hnarrow).trans ?_
    simp only [toState, d, ofState, hflags, hindex]

def spoiled : GameState :=
  { scene := some "market"
    index := 3
    vars := [("bag", .list [.number (1 / 0), .text "lamp", .map [("coins", .number 7),
        ("debt", .number (0 / 0))]]), ("luck", .number (-1 / 0)), ("name", .text "Ada")]
    flags := ["met"]
    history := [{ text := "Go on", scene := "gate", timestamp := none }] }

theorem read_encode_spoiled :
    let branches : List BranchCursor := [{ conditionalIndex := 2, elseBranch := true, index := 1 }]
    let d : Save := { ofState "2024-01-01T00:00:00.000Z" spoiled with branches }
    spoiled.Fits branches ∧ decode? d.encode = none ∧
      recoverState d.encode =
        { spoiled with
          vars := [("bag", .list [.text "lamp", .map [("coins", .number 7)]]),
            ("name", .text "Ada")] } := by
  intro branches d
  have hpurse : Keyed.Sorted [("coins", Value.number 7), ("debt", .number (0 / 0))] := by
    decide +kernel
  have hfits : spoiled.Fits branches :=
    { canonical :=
        { sorted := by decide +kernel
          tidy := ⟨⟨trivial, trivial, ⟨hpurse, trivial, trivial, trivial⟩, trivial⟩, trivial,
            trivial, trivial⟩
          flags := List.pairwise_singleton _ _ }
      index := by decide +kernel
      branches := by decide +kernel }
  obtain ⟨-, hnone, hrecover⟩ := read_encode_ofState hfits "2024-01-01T00:00:00.000Z"
  refine ⟨hfits, hnone ⟨("luck", .number (-1 / 0)), by simp [spoiled], ?_⟩, hrecover.trans ?_⟩
  · change ¬ (_ = true)
    decide +kernel
  · have hup : (1 / 0 : Float).isFinite = false := by decide +kernel
    have hdown : (-1 / 0 : Float).isFinite = false := by decide +kernel
    have hnan : (0 / 0 : Float).isFinite = false := by decide +kernel
    have hseven : (7 : Float).isFinite = true := by decide +kernel
    simp [spoiled, Value.finiteEntries, Value.finitePart?, Value.finiteItems, hup, hdown, hnan,
      hseven]

end Save

end BranchingStory
