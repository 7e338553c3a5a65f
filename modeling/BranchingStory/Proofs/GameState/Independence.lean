import BranchingStory.Engine.Basic
import BranchingStory.Proofs.GameState
import BranchingStory.Proofs.GameState.Cells
import Mathlib.Data.List.Basic

/-!
Actions one by one and together. A list of descriptors is carried out as a whole or not at all, and
the first descriptor that is none is reported. Actions that write to different places may change
places: what an action does not write it leaves alone, and what it writes depends on nothing else
than what stood there.
-/

namespace BranchingStory

namespace GameState

inductive Slot where
  | var (name : String)
  | flag (name : String)
  deriving Repr, DecidableEq

def SameAt (s t : GameState) : Slot → Prop
  | .var name => s.get? name = t.get? name
  | .flag name => name ∈ s.flags ↔ name ∈ t.flags

theorem SameAt.symm {s t : GameState} {x : Slot} (h : SameAt s t x) : SameAt t s x := by
  cases x with
  | var name => exact Eq.symm h
  | flag name => exact Iff.symm h

theorem SameAt.trans {s t u : GameState} {x : Slot} (h : SameAt s t x) (h' : SameAt t u x) :
    SameAt s u x := by
  cases x with
  | var name => exact Eq.trans h h'
  | flag name => exact Iff.trans h h'

/-- Canonical states that stand at one place of the story and agree in every slot are the same. -/
theorem Canonical.ext {s t : GameState} (hs : s.Canonical) (ht : t.Canonical)
    (hscene : s.scene = t.scene) (hindex : s.index = t.index) (hhistory : s.history = t.history)
    (h : ∀ x, SameAt s t x) : s = t := by
  have hvars : s.vars = t.vars := hs.sorted.ext ht.sorted fun name => h (.var name)
  have hflags : s.flags = t.flags := TextSet.ext hs.flags ht.flags fun name => h (.flag name)
  cases s
  cases t
  simp_all

theorem sameAt_setVariable (s : GameState) {name : String} {x : Slot} (h : x ≠ .var name)
    (v : Value) : SameAt (s.setVariable name v) s x := by
  cases x with
  | var other =>
      have hne : other ≠ name := fun heq => h (heq ▸ rfl)
      exact get?_setVariable_of_ne s hne v
  | flag other => exact Iff.rfl

theorem SameAt.setVariable {s t : GameState} {name : String} {x : Slot}
    (h : x ≠ .var name → SameAt s t x) (v : Value) :
    SameAt (s.setVariable name v) (t.setVariable name v) x := by
  by_cases hx : x = .var name
  · subst hx
    exact (get?_setVariable_self s name v).trans (get?_setVariable_self t name v).symm
  · exact (sameAt_setVariable s hx v).trans ((h hx).trans (sameAt_setVariable t hx v).symm)

theorem sameAt_setFlag (s : GameState) {name : String} {x : Slot} (h : x ≠ .flag name) :
    SameAt (s.setFlag name) s x := by
  cases x with
  | var other => rfl
  | flag other =>
      have hne : other ≠ name := fun heq => h (heq ▸ rfl)
      exact TextSet.mem_insert_iff.trans (or_iff_right hne)

theorem sameAt_clearFlag (s : GameState) {name : String} {x : Slot} (h : x ≠ .flag name) :
    SameAt (s.clearFlag name) s x := by
  cases x with
  | var other => rfl
  | flag other =>
      have hne : other ≠ name := fun heq => h (heq ▸ rfl)
      exact TextSet.mem_erase_iff.trans (and_iff_left hne)

/-- The variable that an addition to a key writes: the first of several names between points, or
else the key itself. -/
def writtenRoot (key : String) : String :=
  if Path.separator ∈ key.toList ∧ 2 ≤ (Path.names key).length then (Path.names key).headD key
  else key

theorem writtenRoot_of_names {key root name : String} {rest : List String}
    (hnames : Path.names key = root :: name :: rest) : writtenRoot key = root := by
  have hpoint : Path.separator ∈ key.toList := Path.separator_mem_of_names (by simp [hnames])
  rw [writtenRoot, if_pos ⟨hpoint, by simp [hnames]⟩, hnames]
  rfl

theorem writtenRoot_of_length {key : String} (h : (Path.names key).length < 2) :
    writtenRoot key = key := by
  rw [writtenRoot, if_neg]
  rintro ⟨-, htwo⟩
  omega

def listItems : Value → List Value
  | .list items => items
  | _ => []

theorem getList_eq (s : GameState) (key : String) :
    s.getList key = (s.get? key).elim [] listItems := by
  rw [getList]
  cases s.get? key with
  | none => rfl
  | some v => cases v <;> rfl

theorem rootMap_eq (s : GameState) (root : String) :
    s.rootMap root = .map ((s.get? root).elim [] Path.entries) := by
  rw [rootMap]
  cases s.get? root with
  | none => rfl
  | some v => cases v <;> rfl

theorem addToVariable_eq_setVariable (key : String) (delta : Float) :
    ∃ f : Option Value → Value, ∀ s : GameState, (s.addToVariable key delta).2 =
      s.setVariable (writtenRoot key) (f (s.get? (writtenRoot key))) := by
  obtain ⟨root, name, rest, hnames⟩ | hlength := names_cases key
  · let sum (map : Value) : Value := .number (Path.numberAt (name :: rest) map + delta)
    refine ⟨fun v => Path.assign (sum (.map (v.elim [] Path.entries))) (name :: rest)
      (.map (v.elim [] Path.entries)), fun s => ?_⟩
    rw [addToVariable_of_names hnames, writtenRoot_of_names hnames, rootMap_eq]
  · refine ⟨fun v => .number ((v.bind Value.number?).getD 0 + delta), fun s => ?_⟩
    rw [addToVariable_of_length hlength, writtenRoot_of_length hlength]

end GameState

namespace Action

open GameState

/-! ### What an action writes -/

def footprint : Action → List Slot
  | .setVariable key _ => [.var key]
  | .addToVariable key _ => [.var (writtenRoot key)]
  | .setFlag flag => [.flag flag]
  | .clearFlag flag => [.flag flag]
  | .addToList list _ => [.var list]
  | .setList list _ => [.var list]
  | .addTime _ => [.var "gameTime", .var "currentTime"]

inductive Effect (a : Action) : Prop
  | var {name : String} (f : Option Value → Value) (hfootprint : a.footprint = [.var name])
      (happly : ∀ s, a.apply s = s.setVariable name (f (s.get? name)))
  | set {name : String} (hfootprint : a.footprint = [.flag name])
      (happly : ∀ s, a.apply s = s.setFlag name)
  | clear {name : String} (hfootprint : a.footprint = [.flag name])
      (happly : ∀ s, a.apply s = s.clearFlag name)
  | time {minutes : Float} (h : a = .addTime minutes)

theorem effect (a : Action) : a.Effect := by
  cases a with
  | setVariable key value => exact .var (fun _ => value) rfl fun s => rfl
  | addToVariable key amount =>
      obtain ⟨f, hf⟩ := addToVariable_eq_setVariable key amount
      exact .var f rfl hf
  | setFlag flag => exact .set rfl fun s => rfl
  | clearFlag flag => exact .clear rfl fun s => rfl
  | addToList list item =>
      refine .var (fun v => .list (v.elim [] listItems ++ [item])) rfl fun s => ?_
      rw [apply, GameState.addToList, getList_eq]
      rfl
  | setList list items => exact .var (fun _ => .list items) rfl fun s => rfl
  | addTime minutes => exact .time rfl

/-- What an action does not write it leaves alone. -/
theorem sameAt_apply (a : Action) (s : GameState) {x : Slot} (h : x ∉ a.footprint) :
    SameAt (a.apply s) s x := by
  cases a.effect with
  | var f hfootprint happly =>
      rw [hfootprint, List.mem_singleton] at h
      rw [happly]
      exact sameAt_setVariable s h _
  | set hfootprint happly =>
      rw [hfootprint, List.mem_singleton] at h
      rw [happly]
      exact sameAt_setFlag s h
  | clear hfootprint happly =>
      rw [hfootprint, List.mem_singleton] at h
      rw [happly]
      exact sameAt_clearFlag s h
  | time htime =>
      subst htime
      simp only [footprint, List.mem_cons, List.not_mem_nil, or_false, not_or] at h
      exact (sameAt_setVariable _ h.2 _).trans (sameAt_setVariable s h.1 _)

/-- What an action writes depends on nothing but what stood there. -/
theorem sameAt_apply_apply (a : Action) {s t : GameState} (h : ∀ x ∈ a.footprint, SameAt s t x)
    {x : Slot} (hx : x ∈ a.footprint) : SameAt (a.apply s) (a.apply t) x := by
  cases a.effect with
  | @var name f hfootprint happly =>
      rw [hfootprint] at h hx
      obtain rfl := List.mem_singleton.mp hx
      have hsame : s.get? name = t.get? name := h _ hx
      rw [happly, happly, hsame]
      exact .setVariable (fun hne => absurd rfl hne) _
  | @set name hfootprint happly =>
      rw [hfootprint] at hx
      obtain rfl := List.mem_singleton.mp hx
      rw [happly, happly]
      exact iff_of_true (TextSet.mem_insert_iff.mpr (.inl rfl))
        (TextSet.mem_insert_iff.mpr (.inl rfl))
  | @clear name hfootprint happly =>
      rw [hfootprint] at hx
      obtain rfl := List.mem_singleton.mp hx
      rw [happly, happly]
      exact iff_of_false (fun h => (TextSet.mem_erase_iff.mp h).2 rfl)
        (fun h => (TextSet.mem_erase_iff.mp h).2 rfl)
  | time htime =>
      subst htime
      have hgame : s.get? timeKey = t.get? timeKey := h _ List.mem_cons_self
      have holder : s.get? olderTimeKey = t.get? olderTimeKey :=
        h _ (List.mem_cons_of_mem _ List.mem_cons_self)
      have htime : s.currentTime = t.currentTime := by rw [currentTime, currentTime, hgame, holder]
      simp only [apply, GameState.addTime, htime]
      exact .setVariable (fun _ => .setVariable (fun _ => h x hx) _) _

/-- Actions that write different slots may change places. -/
theorem apply_comm {s : GameState} (hs : s.Canonical) {a b : Action} (ha : a.Tidy) (hb : b.Tidy)
    (h : List.Disjoint a.footprint b.footprint) : b.apply (a.apply s) = a.apply (b.apply s) := by
  have hfirst : ∀ {a b : Action}, List.Disjoint a.footprint b.footprint → ∀ x ∈ a.footprint,
      SameAt (b.apply (a.apply s)) (a.apply (b.apply s)) x := by
    intro a b h x hx
    have hleft : SameAt (b.apply (a.apply s)) (a.apply s) x := sameAt_apply b _ (h hx)
    have hright : SameAt (a.apply (b.apply s)) (a.apply s) x :=
      sameAt_apply_apply a (fun y hy => sameAt_apply b s (h hy)) hx
    exact hleft.trans hright.symm
  refine Canonical.ext (apply_canonical (apply_canonical hs ha) hb)
    (apply_canonical (apply_canonical hs hb) ha) ?_ ?_ ?_ fun x => ?_
  · exact (applyAll_scene s [a, b]).trans (applyAll_scene s [b, a]).symm
  · exact (applyAll_index s [a, b]).trans (applyAll_index s [b, a]).symm
  · exact (applyAll_history s [a, b]).trans (applyAll_history s [b, a]).symm
  · by_cases hx : x ∈ a.footprint
    · exact hfirst h x hx
    · by_cases hy : x ∈ b.footprint
      · exact (hfirst (fun _ hb ha => h ha hb) x hy).symm
      · have hleft := (sameAt_apply b (a.apply s) hy).trans (sameAt_apply a s hx)
        have hright := (sameAt_apply a (b.apply s) hx).trans (sameAt_apply b s hy)
        exact hleft.trans hright.symm

/-! ### All or nothing -/

/-- What comes of a list of descriptors: the fault of the first that is no action, or the state
after all actions in order. -/
inductive Transacts (s : GameState) : List Json → Except Fault GameState → Prop
  | refused {before after : List Json} {bad : Json} {fault : Fault}
      (hbefore : ∀ descriptor ∈ before, ∃ a, ofDescriptor descriptor = .ok a)
      (hbad : ofDescriptor bad = .error fault) : Transacts s (before ++ bad :: after) (.error fault)
  | carried {descriptors : List Json} {actions : List Action}
      (hactions : List.Forall₂ (fun descriptor a => ofDescriptor descriptor = .ok a) descriptors
        actions) : Transacts s descriptors (.ok (actions.foldl apply s))

/-- A list of descriptors fails by the first that is no action. -/
theorem exists_first_of_ofDescriptors {descriptors : List Json} {fault : Fault}
    (h : ofDescriptors descriptors = .error fault) :
    ∃ before bad after, descriptors = before ++ bad :: after ∧
      (∀ descriptor ∈ before, ∃ a, ofDescriptor descriptor = .ok a) ∧
      ofDescriptor bad = .error fault := by
  induction descriptors with
  | nil => cases h
  | cons descriptor rest ih =>
      rw [ofDescriptors] at h
      split at h
      · rename_i found hfound
        cases h
        exact ⟨[], descriptor, rest, rfl, by simp, hfound⟩
      · rename_i a ha
        split at h
        · rename_i found hfound
          cases h
          obtain ⟨before, bad, after, rfl, hbefore, hbad⟩ := ih hfound
          exact ⟨descriptor :: before, bad, after, rfl,
            List.forall_mem_cons.mpr ⟨⟨a, ha⟩, hbefore⟩, hbad⟩
        · cases h

theorem transacts_run (s : GameState) (descriptors : List Json) :
    Transacts s descriptors (run s descriptors) := by
  unfold run
  cases hactions : ofDescriptors descriptors with
  | error fault =>
      obtain ⟨before, bad, after, rfl, hbefore, hbad⟩ := exists_first_of_ofDescriptors hactions
      exact .refused hbefore hbad
  | ok actions => exact .carried (ofDescriptors_eq_ok_iff.mp hactions)

/-- Lists that both pass their check are carried out one after the other. -/
theorem run_append (s : GameState) {first second : List Json} {actions others : List Action}
    (hfirst : ofDescriptors first = .ok actions) (hsecond : ofDescriptors second = .ok others) :
    run s (first ++ second) = (run s first).bind fun s' => run s' second := by
  have hboth : ofDescriptors (first ++ second) = .ok (actions ++ others) :=
    ofDescriptors_eq_ok_iff.mpr (List.rel_append (ofDescriptors_eq_ok_iff.mp hfirst)
      (ofDescriptors_eq_ok_iff.mp hsecond))
  simp only [run, hfirst, hsecond, hboth, applyAll, List.foldl_append, Except.bind]

theorem state_applyActions (e : Engine) (descriptors : List Json) :
    (e.applyActions descriptors).2.state = (run e.state descriptors).toOption.getD e.state := by
  rw [Engine.applyActions]
  cases run e.state descriptors <;> rfl

/-- Lists of descriptors are carried out as a whole or not at all: a fault is that of the first
descriptor that is no action and leaves the state as it was, and otherwise the state is that after
all actions in order. Lists that pass their check can be joined, and actions that write to
different places can change places. -/
theorem actions_transact_and_commute :
    (∀ s descriptors, Transacts s descriptors (run s descriptors)) ∧
    (∀ (e : Engine) descriptors, (e.applyActions descriptors).2.state =
      (run e.state descriptors).toOption.getD e.state) ∧
    (∀ s first second actions others, ofDescriptors first = .ok actions →
      ofDescriptors second = .ok others →
      run s (first ++ second) = (run s first).bind fun s' => run s' second) ∧
    ∀ (s : GameState) descriptor other a b, s.Canonical → ofDescriptor descriptor = .ok a →
      ofDescriptor other = .ok b → List.Disjoint a.footprint b.footprint →
      b.apply (a.apply s) = a.apply (b.apply s) := by
  refine ⟨transacts_run, state_applyActions, ?_, ?_⟩
  · exact fun s first second actions others hfirst hsecond => run_append s hfirst hsecond
  · exact fun s descriptor other a b hs ha hb hdisjoint =>
      apply_comm hs (ofDescriptor_tidy ha) (ofDescriptor_tidy hb) hdisjoint

def purse : GameState where
  scene := some "shop"
  index := 2
  vars := [("bag", .list [.text "rope"]), ("player", .map [("gold", .number (Float.ofInt 2))])]
  flags := ["met", "paid"]

theorem canonical_purse : purse.Canonical where
  sorted := by decide +kernel
  tidy := ⟨⟨trivial, trivial⟩, ⟨by decide +kernel, Value.tidy_number _, trivial⟩, trivial⟩
  flags := by decide +kernel

/-- A variable that has a path for its name, and the cell at that path. -/
theorem actions_transact_and_commute_gold :
    let named : Json := .object [("type", .text "setVariable"), ("key", .text "player.gold"),
      ("value", .bool true)]
    let nested : Json := .object [("type", .text "addToVariable"), ("key", .text " player . gold"),
      ("amount", .number (.int 5))]
    purse.Canonical ∧
    (∃ fault, ofDescriptor .null = .error fault ∧
      run purse [named, .null, nested] = .error fault) ∧
    run purse ([named] ++ [nested]) = (run purse [named]).bind (fun s' => run s' [nested]) ∧
    ∃ a b, ofDescriptor named = .ok a ∧ ofDescriptor nested = .ok b ∧
      a.footprint = [.var "player.gold"] ∧ b.footprint = [.var "player"] ∧
      b.apply (a.apply purse) = a.apply (b.apply purse) ∧
      (a.apply (b.apply purse)).vars = [("bag", .list [.text "rope"]),
        ("player", .map [("gold", .number (Float.ofInt 2 + Float.ofInt 5))]),
        ("player.gold", .bool true)] ∧
      (a.apply (b.apply purse)).flags = ["met", "paid"] := by
  intro named nested
  obtain ⟨-, -, hjoin, hcomm⟩ := actions_transact_and_commute
  have hnamed : ofDescriptor named = .ok (.setVariable "player.gold" (.bool true)) := by rfl
  have hnested : ofDescriptor nested = .ok (.addToVariable " player . gold" (Float.ofInt 5)) := by
    rfl
  have hroot : writtenRoot " player . gold" = "player" := by decide +kernel
  have hfootprint : (addToVariable " player . gold" (Float.ofInt 5)).footprint = [.var "player"] :=
    congrArg (fun root => [Slot.var root]) hroot
  refine ⟨canonical_purse, ⟨_, rfl, rfl⟩, hjoin _ _ _ _ _ rfl rfl, _, _, hnamed, hnested, rfl,
    hfootprint, hcomm _ _ _ _ _ canonical_purse hnamed hnested ?_, by rfl, by rfl⟩
  rw [hfootprint]
  intro x hx hy
  obtain rfl := List.mem_singleton.mp hx
  simp at hy

end Action

end BranchingStory
