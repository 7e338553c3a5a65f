import BranchingStory.GameState.Action
import BranchingStory.Proofs.Script.NullFields

/-!
Descriptors of actions with null fields. Most parts of an action have two names, and the first name
that is written decides. Leaving null fields out changes nothing unless a null stands under the
preferred name of a part and something else under its other name: such a descriptor is refused.
-/

namespace BranchingStory

def ActionFault.missing? : ActionFault → Option String
  | .missingText name => some name
  | .missingValue name => some name
  | .missingNumber name => some name
  | _ => none

namespace Action

variable {name other : String} {fields : List (String × Json)}

/-! ### Looking up a part -/

/-- A null under one name hides what stands under the other. -/
def Hides (name other : String) (fields : List (String × Json)) : Prop :=
  Keyed.get? name fields = some .null ∧ ∃ tree, Script.present? other fields = some tree

theorem field?_singleton (name : String) (fields : List (String × Json)) :
    field? [name] fields = Script.present? name fields := by
  cases h : Keyed.get? name fields <;> simp [field?, Script.present?, h]

theorem field?_of_get?_eq_none (h : Keyed.get? name fields = none) :
    field? [name, other] fields = Script.present? other fields := by
  rw [← field?_singleton, field?, List.findSome?_cons_of_isNone (by simp [h])]
  rfl

theorem field?_of_get?_eq_some {tree : Json} (h : Keyed.get? name fields = some tree) :
    field? [name, other] fields = Script.present? name fields := by
  simp [field?, Script.present?, h]

/-- Without null fields the other name takes the place of a null. -/
theorem field?_withoutNulls (name other : String) (fields : List (String × Json)) :
    field? [name, other] (Json.withoutNulls fields) =
      Script.firstPresent? [name, other] fields := by
  have hwritten : field? [name, other] (Json.withoutNulls fields) =
      (Script.firstPresent? [name, other] fields).filter fun tree => !tree.isNull := by
    rw [← Script.firstWritten?_withoutNulls]
    rfl
  rw [hwritten]
  cases htree : Script.firstPresent? [name, other] fields with
  | none => rfl
  | some tree =>
      obtain ⟨key, -, hkey⟩ := List.exists_of_findSome?_eq_some htree
      exact Option.filter_eq_some_iff.mpr ⟨rfl, (Option.filter_eq_some_iff.mp hkey).2⟩

theorem field?_of_hides (h : Hides name other fields) : field? [name, other] fields = none := by
  rw [field?_of_get?_eq_some h.1, Script.present?, h.1]
  rfl

theorem field?_withoutNulls_of_not_hides (h : ¬ Hides name other fields) :
    field? [name, other] (Json.withoutNulls fields) = field? [name, other] fields := by
  rw [field?_withoutNulls]
  cases hname : Keyed.get? name fields with
  | none =>
      have hnone : Script.present? name fields = none := by rw [Script.present?, hname]; rfl
      rw [Script.firstPresent?_of_null hnone, field?_of_get?_eq_none hname]
  | some tree =>
      rw [field?_of_get?_eq_some hname]
      cases hpresent : Script.present? name fields with
      | some found => simp [Script.firstPresent?, hpresent]
      | none =>
          -- what is written and not there is null, so the other name must be empty too
          have hnull : tree = .null := by
            cases tree with
            | null => rfl
            | _ => rw [Script.present?, hname] at hpresent; cases hpresent
          subst hnull
          rw [Script.firstPresent?_of_null hpresent]
          exact Option.eq_none_iff_forall_ne_some.mpr fun found hfound => h ⟨hname, found, hfound⟩

theorem requiredText_withoutNulls (h : ¬ Hides name other fields) :
    requiredText name other (Json.withoutNulls fields) = requiredText name other fields := by
  rw [requiredText, requiredText, field?_withoutNulls_of_not_hides h]

theorem requiredNumber_withoutNulls (h : ¬ Hides name other fields) :
    requiredNumber name other (Json.withoutNulls fields) = requiredNumber name other fields := by
  rw [requiredNumber, requiredNumber, field?_withoutNulls_of_not_hides h]

theorem requiredValue_withoutNulls (h : ¬ Hides name other fields) :
    requiredValue name [other] (Json.withoutNulls fields) = requiredValue name [other] fields := by
  rw [requiredValue, requiredValue, field?_withoutNulls_of_not_hides h]

/-- A part with one name has nothing to hide. -/
theorem requiredValue_singleton_withoutNulls (name : String) (fields : List (String × Json)) :
    requiredValue name [] (Json.withoutNulls fields) = requiredValue name [] fields := by
  rw [requiredValue, requiredValue, field?_singleton, field?_singleton,
    Script.present?_withoutNulls]

theorem requiredText_of_hides (h : Hides name other fields) :
    requiredText name other fields = .error (.missingText name) := by
  rw [requiredText, field?_of_hides h]

theorem requiredNumber_of_hides (h : Hides name other fields) :
    requiredNumber name other fields = .error (.missingNumber name) := by
  rw [requiredNumber, field?_of_hides h]
  rfl

theorem requiredValue_of_hides (h : Hides name other fields) :
    requiredValue name [other] fields = .error (.missingValue name) := by
  rw [requiredValue, field?_of_hides h]
  rfl

/-! ### The parts of an action -/

/-- The parts of an action that have two names, with the preferred name first. -/
def Kind.aliases : Kind → List (String × String)
  | .setVariable => [("key", "variable")]
  | .addToVariable => [("key", "variable"), ("value", "amount")]
  | .setFlag => [("flag", "key")]
  | .clearFlag => [("flag", "key")]
  | .addToList => [("list", "key"), ("value", "item")]
  | .setList => [("list", "key"), ("values", "value")]
  | .addTime => [("minutes", "value")]

def Kind.HidesPart (kind : Kind) (fields : List (String × Json)) : Prop :=
  ∃ names ∈ kind.aliases, Hides names.1 names.2 fields

/-- The cause is that a hidden part is missing. -/
def Kind.MissesHidden (kind : Kind) (fields : List (String × Json)) (cause : ActionFault) : Prop :=
  ∃ names ∈ kind.aliases, Hides names.1 names.2 fields ∧ cause.missing? = some names.1

theorem ofFields_withoutNulls {kind : Kind} (h : ¬ kind.HidesPart fields) :
    ofFields kind (Json.withoutNulls fields) = ofFields kind fields := by
  have hparts : ∀ names ∈ kind.aliases, ¬ Hides names.1 names.2 fields :=
    fun names hnames hides => h ⟨names, hnames, hides⟩
  cases kind with
  | setVariable =>
      simp only [ofFields, requiredText_withoutNulls (hparts ("key", "variable") (by decide)),
        requiredValue_singleton_withoutNulls]
  | addToVariable =>
      simp only [ofFields, requiredText_withoutNulls (hparts ("key", "variable") (by decide)),
        requiredNumber_withoutNulls (hparts ("value", "amount") (by decide))]
  | setFlag =>
      simp only [ofFields, requiredText_withoutNulls (hparts ("flag", "key") (by decide))]
  | clearFlag =>
      simp only [ofFields, requiredText_withoutNulls (hparts ("flag", "key") (by decide))]
  | addToList =>
      simp only [ofFields, requiredText_withoutNulls (hparts ("list", "key") (by decide)),
        requiredValue_withoutNulls (hparts ("value", "item") (by decide))]
  | setList =>
      simp only [ofFields, requiredText_withoutNulls (hparts ("list", "key") (by decide)),
        requiredValue_withoutNulls (hparts ("values", "value") (by decide))]
  | addTime =>
      simp only [ofFields, requiredNumber_withoutNulls (hparts ("minutes", "value") (by decide))]

/-- An action with a hidden part that starts with a text is refused: for want of a hidden part, or
because its text is missing also without null fields. -/
theorem refused_of_text {kind : Kind} (h : kind.HidesPart fields) {later : List (String × String)}
    (hnames : kind.aliases = (name, other) :: later)
    {rest others : String → Except ActionFault Action}
    (hlater : ∀ names ∈ later, Hides names.1 names.2 fields → ∀ text,
      ∃ cause, rest text = .error cause ∧ cause.missing? = some names.1) :
    ∃ cause, (requiredText name other fields >>= rest) = .error cause ∧
      (kind.MissesHidden fields cause ∨
        (requiredText name other (Json.withoutNulls fields) >>= others) = .error cause) := by
  by_cases hfirst : Hides name other fields
  · have hmem : (name, other) ∈ kind.aliases := hnames ▸ List.mem_cons_self
    refine ⟨.missingText name, ?_, .inl ⟨(name, other), hmem, hfirst, rfl⟩⟩
    rw [requiredText_of_hides hfirst]
    rfl
  · rw [requiredText_withoutNulls hfirst]
    cases requiredText name other fields with
    | error cause => exact ⟨cause, rfl, .inr rfl⟩
    | ok text =>
        -- the text is there, so another part is the hidden one
        obtain ⟨names, hmem, hides⟩ := h
        have hmem' : names ∈ later := by
          rw [hnames, List.mem_cons] at hmem
          refine hmem.resolve_left fun heq => hfirst ?_
          rwa [heq] at hides
        obtain ⟨cause, hcause, hmissing⟩ := hlater names hmem' hides text
        exact ⟨cause, hcause, .inl ⟨names, hmem, hides, hmissing⟩⟩

theorem ofFields_of_hidesPart {kind : Kind} (h : kind.HidesPart fields) :
    ∃ cause, ofFields kind fields = .error cause ∧
      (kind.MissesHidden fields cause ∨
        ofFields kind (Json.withoutNulls fields) = .error cause) := by
  cases kind with
  | setVariable | setFlag | clearFlag =>
      simp only [ofFields]
      exact refused_of_text h rfl fun names hmem => absurd hmem List.not_mem_nil
  | addToVariable =>
      simp only [ofFields]
      refine refused_of_text h rfl (List.forall_mem_singleton.mpr fun hides text => ?_)
      rw [requiredNumber_of_hides hides]
      exact ⟨_, rfl, rfl⟩
  | addToList | setList =>
      simp only [ofFields]
      refine refused_of_text h rfl (List.forall_mem_singleton.mpr fun hides text => ?_)
      rw [requiredValue_of_hides hides]
      exact ⟨_, rfl, rfl⟩
  | addTime =>
      obtain ⟨names, hmem, hides⟩ := h
      obtain rfl : names = ("minutes", "value") := List.mem_singleton.mp hmem
      refine ⟨.missingNumber "minutes", ?_, .inl ⟨_, hmem, hides, rfl⟩⟩
      rw [ofFields, requiredNumber_of_hides hides]
      rfl

/-! ### Descriptors -/

theorem kindOf_withoutNulls (fields : List (String × Json)) :
    kindOf (Json.withoutNulls fields) = kindOf fields := by
  -- null is no text, so the type is the same without null fields
  have htype : (Keyed.get? "type" (Json.withoutNulls fields)).bind Json.text? =
      (Keyed.get? "type" fields).bind Json.text? := by
    rw [Script.get?_withoutNulls, Script.present?]
    cases Keyed.get? "type" fields with
    | none => rfl
    | some tree => cases tree <;> rfl
  rw [kindOf, htype, kindOf]

theorem check_of_kindOf_eq_ok {kind : Kind} (h : kindOf fields = .ok kind) :
    check (.object fields) = ofFields kind fields := by
  rw [check, h]
  rfl

theorem check_withoutNulls (h : ∀ kind, kindOf fields = .ok kind → ¬ kind.HidesPart fields) :
    check (.object (Json.withoutNulls fields)) = check (.object fields) := by
  rw [check, check, kindOf_withoutNulls]
  cases hkind : kindOf fields with
  | error cause => rfl
  | ok kind => exact ofFields_withoutNulls (h kind hkind)

theorem ofDescriptor_of_check_eq_error {descriptor : Json} {cause : ActionFault}
    (h : check descriptor = .error cause) :
    ofDescriptor descriptor = .error (.action descriptor cause) := by
  rw [ofDescriptor, h]

/-- Two descriptors give the same action, or fail for the same cause. -/
def Agree (descriptor others : Json) : Prop :=
  (∃ action, ofDescriptor descriptor = .ok action ∧ ofDescriptor others = .ok action) ∨
  (∃ cause, ofDescriptor descriptor = .error (.action descriptor cause) ∧
    ofDescriptor others = .error (.action others cause))

theorem agree_of_check_eq {descriptor others : Json} (h : check others = check descriptor) :
    Agree descriptor others := by
  cases hcheck : check descriptor with
  | ok action => exact .inl ⟨action, by rw [ofDescriptor, hcheck], by rw [ofDescriptor, h, hcheck]⟩
  | error cause =>
      exact .inr ⟨cause, ofDescriptor_of_check_eq_error hcheck,
        ofDescriptor_of_check_eq_error (h.trans hcheck)⟩

/-- Null fields count as absent unless one hides a part of the action. A descriptor and the same
without its null fields give the same action or fail for the same cause, if no part is hidden. If a
part is hidden the descriptor always fails: it misses a hidden part, under the preferred name, or it
fails for the same cause as it does without its null fields. -/
theorem null_parts_absent_unless_hidden (fields : List (String × Json)) :
    ((∀ kind, kindOf fields = .ok kind → ¬ kind.HidesPart fields) →
      Agree (.object fields) (.object (Json.withoutNulls fields))) ∧
    (∀ kind, kindOf fields = .ok kind → kind.HidesPart fields →
      ∃ cause, ofDescriptor (.object fields) = .error (.action (.object fields) cause) ∧
        (kind.MissesHidden fields cause ∨
          Agree (.object fields) (.object (Json.withoutNulls fields)))) := by
  refine ⟨fun h => agree_of_check_eq (check_withoutNulls h), fun kind hkind hides => ?_⟩
  obtain ⟨cause, hcause, hwhy⟩ := ofFields_of_hidesPart hides
  have hcheck : check (.object fields) = .error cause :=
    (check_of_kindOf_eq_ok hkind).trans hcause
  refine ⟨cause, ofDescriptor_of_check_eq_error hcheck, hwhy.imp_right fun hwithout => ?_⟩
  have hcheck' : check (.object (Json.withoutNulls fields)) = .error cause :=
    (check_of_kindOf_eq_ok ((kindOf_withoutNulls fields).trans hkind)).trans hwithout
  exact agree_of_check_eq (hcheck'.trans hcheck.symm)

/-- A descriptor with its flag under the other name and a null under the preferred one. -/
def meeting : List (String × Json) :=
  [("type", .text "setFlag"), ("flag", .null), ("key", .text "met")]

def reward : List (String × Json) :=
  [("type", .text "add_to_variable"), ("variable", .null), ("key", .text "gold"),
    ("amount", .null), ("value", .number (.int 3)), ("note", .null)]

theorem null_parts_absent_unless_hidden_reward :
    (kindOf reward = .ok .addToVariable ∧ ¬ Kind.HidesPart .addToVariable reward ∧
      Json.withoutNulls reward =
        [("type", .text "add_to_variable"), ("key", .text "gold"), ("value", .number (.int 3))] ∧
      Agree (.object reward) (.object (Json.withoutNulls reward))) ∧
    (kindOf meeting = .ok .setFlag ∧ Kind.HidesPart .setFlag meeting ∧
      ∃ cause, ofDescriptor (.object meeting) = .error (.action (.object meeting) cause) ∧
        (Kind.MissesHidden .setFlag meeting cause ∨
          Agree (.object meeting) (.object (Json.withoutNulls meeting)))) := by
  have hreward : ¬ Kind.HidesPart .addToVariable reward := by
    rintro ⟨names, hmem, hnull, -⟩
    simp only [Kind.aliases, List.mem_cons, List.not_mem_nil, or_false] at hmem
    rcases hmem with rfl | rfl <;> cases hnull
  have hmeeting : Kind.HidesPart .setFlag meeting :=
    ⟨("flag", "key"), by decide, rfl, .text "met", rfl⟩
  refine ⟨⟨rfl, hreward, rfl, (null_parts_absent_unless_hidden reward).1 fun kind hkind => ?_⟩,
    rfl, hmeeting, (null_parts_absent_unless_hidden meeting).2 .setFlag rfl hmeeting⟩
  cases hkind
  exact hreward

/-- The flag under the other name is not found. -/
theorem ofDescriptor_meeting_ne :
    (ofDescriptor (.object (Json.withoutNulls meeting))).toOption ≠
      (ofDescriptor (.object meeting)).toOption := by
  have hwithout : ofDescriptor (.object (Json.withoutNulls meeting)) = .ok (.setFlag "met") := rfl
  have hwith : ofDescriptor (.object meeting) =
      .error (.action (.object meeting) (.missingText "flag")) := rfl
  rw [hwithout, hwith]
  exact Option.some_ne_none _

end Action

end BranchingStory
