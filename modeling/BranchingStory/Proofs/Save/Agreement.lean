import BranchingStory.Proofs.Json.RoundTrip
import BranchingStory.Proofs.Save
import BranchingStory.Session

/-!
Strict and lenient reading of a saved game agree. What the strict reader takes as a whole, the
lenient one finds field by field, and it drops nothing on the way. So a session that takes up a text
leniently ends where it would with the save that the strict reader sees in it.
-/

namespace BranchingStory

/-! ### Values -/

namespace Value

mutual

theorem ofJson?_of_decode? : ∀ {tree : Json} {v : Value}, decode? tree = some v →
    ofJson? tree = some v
  | .bool _, _, h => h
  | .number _, _, h => h
  | .text _, _, h => h
  | .list _, _, h => by
    obtain ⟨vs, hvs, rfl⟩ := Option.map_eq_some_iff.mp h
    rw [ofJson?, ofJsonItems_of_decodeItems? hvs]
  | .object _, _, h => by
    obtain ⟨entries, hentries, rfl⟩ := Option.map_eq_some_iff.mp h
    rw [ofJson?, ofJsonFields_of_decodeFields? hentries]

theorem ofJsonItems_of_decodeItems? : ∀ {items : List Json} {vs : List Value},
    decodeItems? items = some vs → ofJsonItems items = vs
  | [], _, h => Option.some.inj h
  | tree :: rest, _, h => by
    rw [decodeItems?] at h
    split at h
    · rename_i v vs hv hvs
      obtain rfl := Option.some.inj h
      rw [ofJsonItems, ofJson?_of_decode? hv, ofJsonItems_of_decodeItems? hvs]
    · cases h

theorem ofJsonFields_of_decodeFields? : ∀ {fields : List (String × Json)}
    {entries : List (String × Value)}, decodeFields? fields = some entries →
      ofJsonFields fields = entries
  | [], _, h => Option.some.inj h
  | (key, tree) :: rest, _, h => by
    rw [decodeFields?] at h
    split at h
    · rename_i v later hv hlater
      obtain rfl := Option.some.inj h
      simp only [ofJsonFields, ofJson?_of_decode? hv, ofJsonFields_of_decodeFields? hlater]
    · cases h

end

end Value

/-! ### Fields -/

namespace Json

variable {α : Type} {fields : List (String × Json)} {place : Nat} {name : String}

/-- A field with a default is read, or it is missing and has its default. -/
theorem Record.withDefault_eq_some {read : Json → Option α} {default a : α}
    (h : (Record.named fields).withDefault place name default read = some a) :
    (∃ tree, Keyed.get? name fields = some tree ∧ read tree = some a) ∨
      Keyed.get? name fields = none ∧ a = default := by
  rw [Record.withDefault, Record.find?] at h
  split at h
  · rename_i tree htree
    exact .inl ⟨tree, htree, h⟩
  · rename_i hmissing
    exact .inr ⟨hmissing, (Option.some.inj h).symm⟩

theorem nullable_eq_some {read : Json → Option α} {tree : Json} {a : Option α}
    (h : nullable read tree = some a) :
    tree = .null ∧ a = none ∨ ∃ value, read tree = some value ∧ a = some value := by
  unfold nullable at h
  split at h
  · exact .inl ⟨rfl, (Option.some.inj h).symm⟩
  · obtain ⟨value, hvalue, rfl⟩ := Option.map_eq_some_iff.mp h
    exact .inr ⟨value, hvalue, rfl⟩

/-- A field that may be null or missing is what can be read of it. -/
theorem Record.bind_of_nullable {read : Json → Option α} {a : Option α} (hnull : read .null = none)
    (h : (Record.named fields).withDefault place name none (nullable read) = some a) :
    (Keyed.get? name fields).bind read = a := by
  obtain ⟨tree, hget, hread⟩ | ⟨hget, rfl⟩ := withDefault_eq_some h
  · rw [hget, Option.bind_some]
    obtain ⟨rfl, rfl⟩ | ⟨value, hvalue, rfl⟩ := nullable_eq_some hread
    · exact hnull
    · exact hvalue
  · rw [hget, Option.bind_none]

/-- A list that a strict reader takes loses nothing where a reader that refines it drops items. -/
theorem filterMap_of_map {strict lenient : Json → Option α}
    (hrefines : ∀ tree a, strict tree = some a → lenient tree = some a) {items : List Json}
    {values : List α} (h : items.map strict = values.map some) :
    items.filterMap lenient = values := by
  induction items generalizing values with
  | nil =>
      obtain rfl : values = [] := List.map_eq_nil_iff.mp h.symm
      rfl
  | cons item rest ih =>
      cases values with
      | nil => simp at h
      | cons a values =>
          obtain ⟨ha, hrest⟩ := List.cons.inj h
          rw [List.filterMap_cons, hrefines item a ha, ih hrest]

end Json

namespace Save

section

variable {fields : List (String × Json)} {place : Nat} {name : String}

/-- The items of a list that was read strictly are all recovered. -/
theorem recoverItems_of_listOf {α : Type} {read : Json → Option α} {values : List α}
    (h : (Json.Record.named fields).withDefault place name [] (Json.listOf read) = some values) :
    (recoverItems (Keyed.get? name fields)).filterMap read = values := by
  obtain ⟨tree, hget, hread⟩ | ⟨hget, rfl⟩ := Json.Record.withDefault_eq_some h
  · obtain ⟨items, rfl, hitems⟩ := Json.listOf_eq_some_iff.mp hread
    rw [hget, recoverItems]
    exact Json.filterMap_of_map (fun _ _ h => h) hitems
  · rw [hget]
    rfl

theorem recoverVariable?_of_decodeVariable? {tree : Json} {entry : String × Value}
    (h : decodeVariable? tree = some entry) : recoverVariable? tree = some entry := by
  unfold decodeVariable? at h
  split at h
  · obtain ⟨v, hv, rfl⟩ := Option.map_eq_some_iff.mp h
    rw [recoverVariable?, Value.ofJson?_of_decode? hv]
    rfl
  · cases h

theorem recoverVariables_of_listOf {vars : List (String × Value)}
    (h : (Json.Record.named fields).withDefault place name [] (Json.listOf decodeVariable?) =
      some vars) : recoverVariables (Keyed.get? name fields) = Keyed.ascending vars := by
  obtain ⟨tree, hget, hread⟩ | ⟨hget, rfl⟩ := Json.Record.withDefault_eq_some h
  · obtain ⟨items, rfl, hitems⟩ := Json.listOf_eq_some_iff.mp hread
    have hrecovered := Json.filterMap_of_map (fun _ _ => recoverVariable?_of_decodeVariable?) hitems
    rw [hget, recoverVariables, hrecovered]
  · rw [hget]
    rfl

end

/-! ### Saves -/

/-- What strict reading finds in the fields of a saved game, the version and the date apart. -/
structure Found (fields : List (String × Json)) (d : Save) : Prop where
  vars : (Json.Record.named fields).withDefault 2 "variables" [] (Json.listOf decodeVariable?) =
    some d.vars
  flags : (Json.Record.named fields).withDefault 3 "storyFlags" [] (Json.listOf Json.text?) =
    some d.storyFlags
  history : (Json.Record.named fields).withDefault 4 "choiceHistory" []
    (Json.listOf ChoiceRecord.decode?) = some d.choiceHistory
  scene : (Json.Record.named fields).withDefault 5 "currentScene" none
    (Json.nullable Json.text?) = some d.currentScene
  index : (Json.Record.named fields).withDefault 6 "currentInstructionIndex" none
    (Json.nullable Json.index?) = some d.currentIndex
  branches : (Json.Record.named fields).withDefault 7 "branchStack" []
    (Json.listOf BranchCursor.decode?) = some d.branches

theorem found_of_decode? {fields : List (String × Json)} {d : Save}
    (h : decode? (.object fields) = some d) : Found fields d := by
  simp only [decode?, Option.bind_eq_bind, Option.bind_eq_some_iff, Option.pure_def,
    Option.some.injEq] at h
  obtain ⟨r, hr, _, -, _, -, _, hvars, _, hflags, _, hhistory, _, hscene, _, hindex, _, hbranches,
    rfl⟩ := h
  have hnamed : r = .named fields := by
    rw [Json.Record.of?] at hr
    split at hr
    · exact (Option.some.inj hr).symm
    · cases hr
  subst hnamed
  exact ⟨hvars, hflags, hhistory, hscene, hindex, hbranches⟩

namespace Found

variable {fields : List (String × Json)} {d : Save}

theorem recoverState_eq (h : Found fields d) : recoverState (.object fields) = d.toState := by
  rw [recoverState, Json.Record.bind_of_nullable rfl h.scene,
    Json.Record.bind_of_nullable rfl h.index, recoverVariables_of_listOf h.vars,
    recoverItems_of_listOf h.flags, recoverItems_of_listOf h.history]
  rfl

theorem branches_recover (h : Found fields d) (now : String) :
    (recover now (.object fields)).branches = d.branches := by
  change ((Keyed.get? "branchStack" fields).bind _).getD [] = d.branches
  obtain ⟨tree, hget, hread⟩ | ⟨hget, hnil⟩ := Json.Record.withDefault_eq_some h.branches
  · rw [hget, Option.bind_some, hread, Option.getD_some]
  · rw [hget, hnil]
    rfl

/-- With a scene to stand in, a save that is recovered has the state of the one that is read
strictly. Without one its index is lost. -/
theorem toState_recover (h : Found fields d) (hscene : d.currentScene ≠ none) (now : String) :
    (recover now (.object fields)).toState = d.toState := by
  change (ofState now (recoverState (.object fields))).toState = d.toState
  rw [h.recoverState_eq]
  -- The state is in order already, so that writing it into a save once more keeps it.
  exact toState_ofState (Keyed.sorted_ascending _) (TextSet.pairwise_ofList _)
    (fun hnone => absurd hnone hscene) now

theorem scene_ne_none (h : Found fields d) {tree : Json}
    (hget : Keyed.get? "currentScene" fields = some tree) (hnull : tree ≠ .null) :
    d.currentScene ≠ none := by
  have hread := h.scene
  rw [Json.Record.withDefault_found hget] at hread
  obtain ⟨rfl, -⟩ | ⟨scene, -, hsome⟩ := Json.nullable_eq_some hread
  · exact absurd rfl hnull
  · rw [hsome]
    exact Option.some_ne_none scene

end Found

end Save

/-- Taking up a saved game is a matter of its state and its branches. -/
theorem Session.load_congr (s : Session) {d d' : Save} (hstate : d'.toState = d.toState)
    (hbranches : d'.branches = d.branches) : s.load d' = s.load d := by
  simp only [Session.load, Engine.restore, hstate, hbranches]

/-- Where the strict reader finds a save in an object, the lenient one finds its state. If the
object names a scene, then a session that takes up a text of it leniently does what it would with
the save itself. -/
theorem Session.lenient_eq_strict {fields : List (String × Json)} {d : Save}
    (h : Save.decode? (.object fields) = some d) :
    Save.recoverState (.object fields) = d.toState ∧
      ((∃ tree, Keyed.get? "currentScene" fields = some tree ∧ tree ≠ .null) →
        ∀ (s : Session) (now text : String), Json.parse text = .ok (.object fields) →
          s.loadText now text = (true, s.load d)) := by
  have hfound := Save.found_of_decode? h
  refine ⟨hfound.recoverState_eq, ?_⟩
  rintro ⟨tree, hget, hnull⟩ s now text hparse
  have hstate := hfound.toState_recover (hfound.scene_ne_none hget hnull) now
  simp only [Session.loadText, hparse, s.load_congr hstate (hfound.branches_recover now)]

/-- The fields of an old save: with a field that no reader knows, a variable written twice, and
records that are lists without the names of their parts. -/
def Save.relic : List (String × Json) :=
  [("engine", .text "first edition"),
    ("variables", .list [.list [.text "coins", .number (.int 2)],
      .list [.text "bag", .object [("lamp", .bool true)]],
      .list [.text "coins", .number (.int 5)]]),
    ("storyFlags", .list [.text "met", .text "lost", .text "met"]),
    ("choiceHistory", .list [.list [.text "Go on", .text "gate"]]),
    ("currentScene", .text "market"),
    ("branchStack", .list [.list [.number (.int 2), .bool true, .number (.int 1)]])]

theorem Session.lenient_eq_strict_relic :
    let d : Save :=
      { vars := [("coins", .number (Float.ofInt 2)), ("bag", .map [("lamp", .bool true)]),
          ("coins", .number (Float.ofInt 5))]
        storyFlags := ["met", "lost", "met"]
        choiceHistory := [{ text := "Go on", scene := "gate", timestamp := none }]
        currentScene := some "market"
        branches := [{ conditionalIndex := 2, elseBranch := true, index := 1 }] }
    Save.decode? (.object Save.relic) = some d ∧
      Save.recoverState (.object Save.relic) = d.toState ∧
      d.toState.vars = [("bag", .map [("lamp", .bool true)]), ("coins", .number (Float.ofInt 5))] ∧
      ∀ (s : Session) (now : String),
        s.loadText now (Json.object Save.relic).pretty = (true, s.load d) := by
  intro d
  have hdecode : Save.decode? (.object Save.relic) = some d := rfl
  have hparse : Json.parse (Json.object Save.relic).pretty = .ok (.object Save.relic) := by
    rw [Json.parse, Json.scan_pretty (by decide +kernel)]
    rfl
  obtain ⟨hstate, hload⟩ := Session.lenient_eq_strict hdecode
  exact ⟨hdecode, hstate, rfl,
    fun s now => hload ⟨.text "market", rfl, by simp⟩ s now _ hparse⟩

end BranchingStory
