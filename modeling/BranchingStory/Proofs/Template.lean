import BranchingStory.Proofs.Keyed
import BranchingStory.Template.Render

/-!
What templates cannot see. A registry is blind to a difference between states if none of its helpers
answers otherwise for it. If the states have the same variables as well, every template then renders
the same text and every condition has the same truth. The standard helpers look at variables, flags
and at which choices were made, and at nothing else.
-/

namespace BranchingStory

namespace Template

def Registry.Blind (R : GameState → GameState → Prop) (r : Registry) : Prop :=
  ∀ entry ∈ r, ∀ s s', R s s' → ∀ assets arguments,
    entry.2 ⟨s, assets⟩ arguments = entry.2 ⟨s', assets⟩ arguments

structure Unseen (R : GameState → GameState → Prop) : Prop where
  vars : ∀ {s s'}, R s s' → s.vars = s'.vars
  flags : ∀ {s s'}, R s s' → s.flags = s'.flags
  playerChose : ∀ {s s'}, R s s' → s.playerChose = s'.playerChose

variable {R : GameState → GameState → Prop}

/-! ### Registries -/

theorem Registry.mem_extend {r other : Registry} {entry : String × Helper}
    (h : entry ∈ r.extend other) : entry ∈ r ∨ entry ∈ other := by
  unfold extend at h
  induction other generalizing r with
  | nil => exact .inl h
  | cons first rest ih =>
      rcases ih h with h | h
      · rcases Keyed.mem_insert h with rfl | h
        · exact .inr List.mem_cons_self
        · exact .inl h
      · exact .inr (List.mem_cons_of_mem _ h)

theorem Registry.Blind.extend {r other : Registry} (hr : r.Blind R) (hother : other.Blind R) :
    (r.extend other).Blind R := by
  intro entry hentry
  rcases mem_extend hentry with h | h
  · exact hr entry h
  · exact hother entry h

theorem Registry.blind_nil : Registry.Blind R [] := by
  intro entry hentry
  cases hentry

theorem lookup?_congr {s s' : GameState} (h : s.vars = s'.vars) : s.lookup? = s'.lookup? := by
  funext path
  simp only [GameState.lookup?, GameState.get?, h]

/-- The standard helpers are blind to everything but variables, flags and choices made. -/
theorem Standard.registry_blind (hR : Unseen R) : Standard.registry.Blind R := by
  refine Registry.blind_nil.extend fun entry hentry s s' h assets arguments => ?_
  have hvars := hR.vars h
  have hlookup := lookup?_congr hvars
  simp only [helpers, List.mem_cons, List.not_mem_nil, or_false] at hentry
  obtain rfl | rfl | rfl | rfl | rfl | rfl | rfl | rfl | rfl | rfl | rfl | rfl | rfl | rfl | rfl |
    rfl | rfl | rfl | rfl | rfl | rfl | rfl | rfl | rfl | rfl | rfl := hentry
  all_goals
    simp only [arithmetic, comparison, predicate, GameState.hasFlag, hlookup, hR.flags h,
      hR.playerChose h, GameState.currentTime, GameState.getList, GameState.get?, hvars]

/-! ### Expressions, templates and conditions -/

theorem Registry.Blind.resolve? {r : Registry} (hr : r.Blind R) {name found : String}
    {helper : Helper} (h : r.resolve? name = some (found, helper)) {s s' : GameState}
    (hs : R s s') (assets : List Asset) (arguments : List (Option Value)) :
    helper ⟨s, assets⟩ arguments = helper ⟨s', assets⟩ arguments := by
  have hmem := List.mem_of_find?_eq_some h
  exact hr _ (List.mem_reverse.mp hmem) s s' hs assets arguments

mutual

theorem value_eq_of_blind {r : Registry} (hr : r.Blind R) {s s' : GameState} (hs : R s s')
    (hvars : s.vars = s'.vars) (assets : List Asset) :
    ∀ e : Expression, value r ⟨s, assets⟩ e = value r ⟨s', assets⟩ e
  | .absent => by simp only [value]
  | .literal _ => by simp only [value]
  | .path _ => by simp only [value, lookup?_congr hvars]
  | .call name arguments => by
    simp only [value, values_eq_of_blind hr hs hvars assets arguments]
    split
    · rfl
    · split
      · rfl
      · rename_i found helper hfound
        rw [hr.resolve? hfound hs]

theorem values_eq_of_blind {r : Registry} (hr : r.Blind R) {s s' : GameState} (hs : R s s')
    (hvars : s.vars = s'.vars) (assets : List Asset) :
    ∀ es : List Expression, values r ⟨s, assets⟩ es = values r ⟨s', assets⟩ es
  | [] => by simp only [values]
  | e :: rest => by
    simp only [values, value_eq_of_blind hr hs hvars assets e,
      values_eq_of_blind hr hs hvars assets rest]

end

section blind

variable {r : Registry} (hr : r.Blind R) {s s' : GameState} (hs : R s s')
  (hvars : s.vars = s'.vars) (assets : List Asset)

include hr hs hvars

theorem valueOfText_eq_of_blind (text : String) :
    valueOfText r ⟨s, assets⟩ text = valueOfText r ⟨s', assets⟩ text := by
  simp only [valueOfText, value_eq_of_blind hr hs hvars]

theorem renderSegments_eq_of_blind (segments : List Segment) :
    renderSegments r ⟨s, assets⟩ segments = renderSegments r ⟨s', assets⟩ segments := by
  induction segments with
  | nil => rfl
  | cons segment rest ih =>
      cases segment with
      | literal c => simp only [renderSegments, ih]
      | slot expression =>
          simp only [renderSegments, ih, valueOfText_eq_of_blind hr hs hvars]

theorem render_eq_of_blind (template : String) :
    render r ⟨s, assets⟩ template = render r ⟨s', assets⟩ template := by
  simp only [render, renderSegments_eq_of_blind hr hs hvars]

theorem holds_eq_of_blind (condition : String) :
    holds r ⟨s, assets⟩ condition = holds r ⟨s', assets⟩ condition := by
  simp only [holds, evaluate, valueOfText_eq_of_blind hr hs hvars]

end blind

/-! ### Faults -/

/-- What goes wrong in a template is told of that template. -/
theorem render_eq_error {r : Registry} {context : Context} {template : String} {fault : Fault}
    (h : render r context template = .error fault) : ∃ cause, fault = .template template cause := by
  unfold render at h
  split at h
  · rename_i cause hcause
    cases h
    exact ⟨cause, rfl⟩
  · cases h

theorem holds_eq_error {r : Registry} {context : Context} {condition : String} {fault : Fault}
    (h : holds r context condition = .error fault) :
    ∃ cause, fault = .template condition cause := by
  unfold holds evaluate at h
  split at h
  · rename_i found hfound
    cases h
    split at hfound
    · rename_i cause hcause
      cases hfound
      exact ⟨cause, rfl⟩
    · cases hfound
  · cases h

end Template

end BranchingStory
