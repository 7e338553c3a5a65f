import BranchingStory.GameState.Action
import BranchingStory.GameState.Save
import BranchingStory.Proofs.Keyed
import Mathlib.Data.List.Forall2

/-!
What actions do to the state of a game, and what they leave alone. Actions never move the story and
never touch the log of choices. They keep the state canonical: variables, flags and the entries of
all maps stand in ascending order. A canonical state is found again in a save made of it.
-/

namespace BranchingStory

/-! ### What actions leave alone -/

namespace Action

/-- Actions neither change nor look at where the story stands and which choices were made. -/
theorem apply_with (s : GameState) (scene : Option String) (index : Nat)
    (history : List ChoiceRecord) (a : Action) :
    a.apply { s with scene, index, history } = { a.apply s with scene, index, history } := by
  cases a with
  | addToVariable key amount =>
      simp only [apply, GameState.addToVariable, GameState.get?, GameState.rootMap]
      split <;> rfl
  | _ => rfl

@[simp] theorem applyAll_nil (s : GameState) : applyAll s [] = s := rfl

@[simp] theorem applyAll_cons (s : GameState) (a : Action) (rest : List Action) :
    applyAll s (a :: rest) = applyAll (a.apply s) rest := rfl

theorem applyAll_with (s : GameState) (scene : Option String) (index : Nat)
    (history : List ChoiceRecord) (actions : List Action) :
    applyAll { s with scene, index, history } actions =
      { applyAll s actions with scene, index, history } := by
  induction actions generalizing s with
  | nil => rfl
  | cons a rest ih => rw [applyAll_cons, apply_with, ih, applyAll_cons]

@[simp] theorem applyAll_scene (s : GameState) (actions : List Action) :
    (applyAll s actions).scene = s.scene := by
  have hscene := congrArg GameState.scene (applyAll_with s s.scene s.index s.history actions)
  exact hscene

@[simp] theorem applyAll_index (s : GameState) (actions : List Action) :
    (applyAll s actions).index = s.index := by
  have hindex := congrArg GameState.index (applyAll_with s s.scene s.index s.history actions)
  exact hindex

@[simp] theorem applyAll_history (s : GameState) (actions : List Action) :
    (applyAll s actions).history = s.history := by
  have hhistory := congrArg GameState.history (applyAll_with s s.scene s.index s.history actions)
  exact hhistory

/-- A list of descriptors that is carried out is the list of its checked actions, applied in
order. -/
theorem run_eq_ok {s s' : GameState} {descriptors : List Json} (h : run s descriptors = .ok s') :
    ∃ actions, ofDescriptors descriptors = .ok actions ∧ s' = applyAll s actions := by
  unfold run at h
  cases hactions : ofDescriptors descriptors with
  | error fault => simp [hactions] at h
  | ok actions =>
      simp only [hactions, Except.ok.injEq] at h
      exact ⟨actions, rfl, h.symm⟩

/-- A list of descriptors passes its check exactly if each descriptor does. -/
theorem ofDescriptors_eq_ok_iff {descriptors : List Json} {actions : List Action} :
    ofDescriptors descriptors = .ok actions ↔
      List.Forall₂ (fun descriptor action => ofDescriptor descriptor = .ok action) descriptors
        actions := by
  induction descriptors generalizing actions with
  | nil =>
      rw [ofDescriptors, List.forall₂_nil_left_iff, Except.ok.injEq]
      exact eq_comm
  | cons descriptor rest ih =>
      rw [ofDescriptors, List.forall₂_cons_left_iff]
      constructor
      · intro h
        split at h
        · cases h
        · rename_i first hfirst
          split at h
          · cases h
          · rename_i others hothers
            cases h
            exact ⟨first, others, hfirst, ih.mp hothers, rfl⟩
      · rintro ⟨first, others, hfirst, hothers, rfl⟩
        simp only [hfirst, ih.mpr hothers]

theorem ofDescriptors_eq_error {descriptors : List Json} {fault : Fault}
    (h : ofDescriptors descriptors = .error fault) :
    ∃ descriptor cause, fault = .action descriptor cause := by
  induction descriptors with
  | nil => cases h
  | cons descriptor rest ih =>
      rw [ofDescriptors] at h
      split at h
      · rename_i found hfound
        cases h
        unfold ofDescriptor at hfound
        split at hfound
        · cases hfound
        · rename_i cause hcause
          cases hfound
          exact ⟨descriptor, cause, rfl⟩
      · split at h
        · rename_i found hfound
          cases h
          exact ih hfound
        · cases h

theorem run_eq_error {s : GameState} {descriptors : List Json} {fault : Fault}
    (h : run s descriptors = .error fault) :
    ∃ descriptor cause, fault = .action descriptor cause := by
  unfold run at h
  split at h
  · rename_i found hfound
    cases h
    exact ofDescriptors_eq_error hfound
  · cases h

@[simp] theorem run_nil (s : GameState) : run s [] = .ok s := rfl

theorem run_with (s : GameState) (scene : Option String) (index : Nat)
    (history : List ChoiceRecord) (descriptors : List Json) :
    run { s with scene, index, history } descriptors =
      (run s descriptors).map fun s' => { s' with scene, index, history } := by
  unfold run
  cases ofDescriptors descriptors with
  | error fault => rfl
  | ok actions => exact congrArg Except.ok (applyAll_with s scene index history actions)

theorem run_scene {s s' : GameState} {descriptors : List Json}
    (h : run s descriptors = .ok s') : s'.scene = s.scene := by
  obtain ⟨actions, -, rfl⟩ := run_eq_ok h
  exact applyAll_scene s actions

theorem run_index {s s' : GameState} {descriptors : List Json}
    (h : run s descriptors = .ok s') : s'.index = s.index := by
  obtain ⟨actions, -, rfl⟩ := run_eq_ok h
  exact applyAll_index s actions

theorem run_history {s s' : GameState} {descriptors : List Json}
    (h : run s descriptors = .ok s') : s'.history = s.history := by
  obtain ⟨actions, -, rfl⟩ := run_eq_ok h
  exact applyAll_history s actions

end Action

/-! ### Tidy values -/

namespace Value

mutual

/-- The entries of all maps in the value stand in ascending order. -/
def Tidy : Value → Prop
  | .bool _ => True
  | .number _ => True
  | .text _ => True
  | .list items => TidyItems items
  | .map entries => Keyed.Sorted entries ∧ TidyEntries entries

def TidyItems : List Value → Prop
  | [] => True
  | v :: rest => v.Tidy ∧ TidyItems rest

def TidyEntries : List (String × Value) → Prop
  | [] => True
  | (_, v) :: rest => v.Tidy ∧ TidyEntries rest

end

theorem tidy_number (x : Float) : (Value.number x).Tidy := trivial

theorem tidyItems_iff {items : List Value} : TidyItems items ↔ ∀ v ∈ items, v.Tidy := by
  induction items with
  | nil => simp [TidyItems]
  | cons v rest ih => simp [TidyItems, ih]

theorem tidyEntries_iff {entries : List (String × Value)} :
    TidyEntries entries ↔ ∀ entry ∈ entries, entry.2.Tidy := by
  induction entries with
  | nil => simp [TidyEntries]
  | cons entry rest ih => simp [TidyEntries, ih]

theorem tidyEntries_insert {entries : List (String × Value)} (h : TidyEntries entries)
    {v : Value} (hv : v.Tidy) (key : String) : TidyEntries (Keyed.insert key v entries) := by
  rw [tidyEntries_iff] at h ⊢
  intro entry hentry
  rcases Keyed.mem_insert hentry with rfl | hentry
  · exact hv
  · exact h entry hentry

mutual

/-- Reading a tree makes tidy values only. -/
theorem tidy_ofJson? : ∀ {tree : Json} {v : Value}, ofJson? tree = some v → v.Tidy
  | .null, _, h => by simp [ofJson?] at h
  | .bool _, _, h => by cases h; trivial
  | .number _, _, h => by cases h; trivial
  | .text _, _, h => by cases h; trivial
  | .list items, _, h => by cases h; exact tidyItems_ofJsonItems items
  | .object fields, _, h => by
    cases h
    exact ⟨(tidyEntries_ofJsonFields fields).1, (tidyEntries_ofJsonFields fields).2⟩

theorem tidyItems_ofJsonItems : ∀ trees : List Json, TidyItems (ofJsonItems trees)
  | [] => trivial
  | tree :: rest => by
    rw [ofJsonItems]
    split
    · rename_i v hv
      exact ⟨tidy_ofJson? hv, tidyItems_ofJsonItems rest⟩
    · exact tidyItems_ofJsonItems rest

theorem tidyEntries_ofJsonFields : ∀ fields : List (String × Json),
    Keyed.Sorted (ofJsonFields fields) ∧ TidyEntries (ofJsonFields fields)
  | [] => ⟨Keyed.sorted_nil, trivial⟩
  | (key, tree) :: rest => by
    obtain ⟨hsorted, htidy⟩ := tidyEntries_ofJsonFields rest
    rw [ofJsonFields]
    split
    · rename_i v hv
      split
      · exact ⟨hsorted, htidy⟩
      · exact ⟨hsorted.insert key v, tidyEntries_insert htidy (tidy_ofJson? hv) key⟩
    · exact ⟨hsorted, htidy⟩

end

theorem Tidy.entries {v : Value} (h : v.Tidy) :
    Keyed.Sorted (Path.entries v) ∧ TidyEntries (Path.entries v) := by
  cases v with
  | map entries => exact h
  | _ => exact ⟨Keyed.sorted_nil, trivial⟩

/-- Writing a tidy value at a path keeps a value tidy. -/
theorem Tidy.assign {new : Value} (hnew : new.Tidy) (path : List String) {v : Value}
    (hv : v.Tidy) : (Path.assign new path v).Tidy := by
  induction path generalizing v with
  | nil => exact hnew
  | cons name rest ih =>
      obtain ⟨hsorted, htidy⟩ := hv.entries
      have hinner : ((Keyed.get? name (Path.entries v)).getD (.map [])).Tidy := by
        cases hget : Keyed.get? name (Path.entries v) with
        | none => exact ⟨Keyed.sorted_nil, trivial⟩
        | some w => exact tidyEntries_iff.mp htidy _ (Keyed.mem_of_get?_eq_some hget)
      exact ⟨hsorted.insert _ _, tidyEntries_insert htidy (ih hinner) name⟩

end Value

/-! ### Canonical states -/

/-- Variables and flags stand in ascending order, and the values of variables are tidy. -/
structure GameState.Canonical (s : GameState) : Prop where
  sorted : Keyed.Sorted s.vars
  tidy : Value.TidyEntries s.vars
  flags : s.flags.Pairwise (· < ·)

namespace GameState.Canonical

theorem empty : ({} : GameState).Canonical := ⟨Keyed.sorted_nil, trivial, List.Pairwise.nil⟩

theorem congr {s t : GameState} (h : s.Canonical) (hvars : t.vars = s.vars)
    (hflags : t.flags = s.flags) : t.Canonical :=
  ⟨hvars ▸ h.sorted, hvars ▸ h.tidy, hflags ▸ h.flags⟩

theorem get? {s : GameState} (h : s.Canonical) {key : String} {v : Value}
    (hget : s.get? key = some v) : v.Tidy :=
  Value.tidyEntries_iff.mp h.tidy _ (Keyed.mem_of_get?_eq_some hget)

theorem setVariable {s : GameState} (h : s.Canonical) (key : String) {v : Value}
    (hv : v.Tidy) : (s.setVariable key v).Canonical :=
  ⟨h.sorted.insert key v, Value.tidyEntries_insert h.tidy hv key, h.flags⟩

theorem getList {s : GameState} (h : s.Canonical) (key : String) :
    Value.TidyItems (s.getList key) := by
  unfold GameState.getList
  split
  · rename_i items hget
    exact h.get? hget
  · trivial

theorem rootMap {s : GameState} (h : s.Canonical) (root : String) : (s.rootMap root).Tidy := by
  unfold GameState.rootMap
  split
  · rename_i entries hget
    exact h.get? hget
  · exact ⟨Keyed.sorted_nil, trivial⟩

theorem addToVariable {s : GameState} (h : s.Canonical) (key : String) (delta : Float) :
    (s.addToVariable key delta).2.Canonical := by
  unfold GameState.addToVariable
  split
  · exact h.setVariable _ (Value.tidy_number _)
  · exact h.setVariable _ (Value.Tidy.assign (Value.tidy_number _) _ (h.rootMap _))

end GameState.Canonical

theorem bind_eq_ok {ε α β : Type} {x : Except ε α} {f : α → Except ε β} {b : β}
    (h : x >>= f = .ok b) : ∃ a, x = .ok a ∧ f a = .ok b := by
  cases x with
  | error e => cases h
  | ok a => exact ⟨a, rfl, h⟩

namespace Action

def Tidy : Action → Prop
  | .setVariable _ value => value.Tidy
  | .addToList _ item => item.Tidy
  | .setList _ items => Value.TidyItems items
  | _ => True

theorem requiredValue_tidy {name : String} {others : List String}
    {fields : List (String × Json)} {v : Value} (h : requiredValue name others fields = .ok v) :
    v.Tidy := by
  unfold requiredValue at h
  split at h
  · rename_i w hw
    cases h
    obtain ⟨tree, -, htree⟩ := Option.bind_eq_some_iff.mp hw
    exact Value.tidy_ofJson? htree
  · cases h

theorem ofFields_tidy {kind : Kind} {fields : List (String × Json)} {a : Action}
    (h : ofFields kind fields = .ok a) : a.Tidy := by
  cases kind with
  | setVariable =>
      obtain ⟨key, -, h⟩ := bind_eq_ok h
      obtain ⟨v, hv, h⟩ := bind_eq_ok h
      cases h
      exact requiredValue_tidy hv
  | addToList =>
      obtain ⟨list, -, h⟩ := bind_eq_ok h
      obtain ⟨v, hv, h⟩ := bind_eq_ok h
      cases h
      exact requiredValue_tidy hv
  | setList =>
      obtain ⟨list, -, h⟩ := bind_eq_ok h
      obtain ⟨v, hv, h⟩ := bind_eq_ok h
      split at h
      · cases h
        exact requiredValue_tidy hv
      · cases h
  | addToVariable =>
      obtain ⟨key, -, h⟩ := bind_eq_ok h
      obtain ⟨amount, -, h⟩ := bind_eq_ok h
      cases h
      trivial
  | setFlag | clearFlag | addTime =>
      obtain ⟨part, -, h⟩ := bind_eq_ok h
      cases h
      trivial

theorem ofDescriptor_tidy {descriptor : Json} {a : Action}
    (h : ofDescriptor descriptor = .ok a) : a.Tidy := by
  unfold ofDescriptor at h
  cases hcheck : check descriptor with
  | error cause => simp [hcheck] at h
  | ok action =>
      simp only [hcheck, Except.ok.injEq] at h
      subst h
      unfold check at hcheck
      split at hcheck
      · obtain ⟨kind, -, hfields⟩ := bind_eq_ok hcheck
        exact ofFields_tidy hfields
      · cases hcheck

theorem ofDescriptors_tidy {descriptors : List Json} {actions : List Action}
    (h : ofDescriptors descriptors = .ok actions) : ∀ a ∈ actions, a.Tidy := by
  induction descriptors generalizing actions with
  | nil => cases h; simp
  | cons descriptor rest ih =>
      unfold ofDescriptors at h
      split at h
      · cases h
      · rename_i a ha
        split at h
        · cases h
        · rename_i others hothers
          cases h
          intro b hb
          rcases List.mem_cons.mp hb with rfl | hb
          · exact ofDescriptor_tidy ha
          · exact ih hothers b hb

theorem apply_canonical {s : GameState} (h : s.Canonical) {a : Action} (ha : a.Tidy) :
    (a.apply s).Canonical := by
  cases a with
  | setVariable key value => exact h.setVariable key ha
  | addToVariable key amount => exact h.addToVariable key amount
  | setFlag flag => exact ⟨h.sorted, h.tidy, TextSet.pairwise_insert h.flags flag⟩
  | clearFlag flag => exact ⟨h.sorted, h.tidy, TextSet.pairwise_erase h.flags flag⟩
  | addToList list item =>
      refine h.setVariable list ?_
      refine Value.tidyItems_iff.mpr fun v hv => ?_
      rcases List.mem_append.mp hv with hv | hv
      · exact Value.tidyItems_iff.mp (h.getList list) v hv
      · exact List.mem_singleton.mp hv ▸ ha
  | setList list items => exact h.setVariable list ha
  | addTime minutes =>
      exact (h.setVariable _ (Value.tidy_number _)).setVariable _ (Value.tidy_number _)

theorem applyAll_canonical {s : GameState} (h : s.Canonical) {actions : List Action}
    (htidy : ∀ a ∈ actions, a.Tidy) : (applyAll s actions).Canonical := by
  induction actions generalizing s with
  | nil => exact h
  | cons a rest ih =>
      rw [applyAll_cons]
      exact ih (apply_canonical h (htidy a List.mem_cons_self))
        (fun b hb => htidy b (List.mem_cons_of_mem _ hb))

theorem run_canonical {s s' : GameState} (h : s.Canonical) {descriptors : List Json}
    (hrun : run s descriptors = .ok s') : s'.Canonical := by
  obtain ⟨actions, hactions, rfl⟩ := run_eq_ok hrun
  exact applyAll_canonical h (ofDescriptors_tidy hactions)

end Action

/-- A state in order comes back from a save made of it. The index is not saved where there is no
scene, so it has to be zero there. -/
theorem Save.toState_ofState {s : GameState} (hvars : Keyed.Sorted s.vars)
    (hflags : s.flags.Pairwise (· < ·)) (hindex : s.scene = none → s.index = 0) (now : String) :
    (Save.ofState now s).toState = s := by
  obtain ⟨scene, index, vars, flags, history⟩ := s
  simp only [Save.ofState, Save.toState, Keyed.ascending_eq_self hvars,
    TextSet.ofList_eq_self hflags, GameState.mk.injEq, true_and, and_true]
  cases scene with
  | none => exact (hindex rfl).symm
  | some name => rfl

end BranchingStory
