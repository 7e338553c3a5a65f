import BranchingStory.Proofs.Keyed
import BranchingStory.Script.Reading

/-!
Fields that are null. Leaving them out changes nothing about a dialogue, and nothing about a choice
but for one of its fields: a null under `actions` hides what stands under `action`.
-/

namespace BranchingStory

/-- The fields without those whose keys have null for their value. -/
def Json.withoutNulls (fields : List (String × Json)) : List (String × Json) :=
  fields.filter fun field => (Keyed.get? field.1 fields).any fun tree => !tree.isNull

namespace Script

/-! ### Looking up -/

theorem get?_withoutNulls (key : String) (fields : List (String × Json)) :
    Keyed.get? key (Json.withoutNulls fields) = present? key fields := by
  have hfilter := Keyed.get?_filter
    (fun key => (Keyed.get? key fields).any fun tree => !tree.isNull) key fields
  rw [Json.withoutNulls, hfilter, present?]
  cases Keyed.get? key fields with
  | none => rfl
  | some tree => cases tree <;> rfl

theorem present?_withoutNulls (key : String) (fields : List (String × Json)) :
    present? key (Json.withoutNulls fields) = present? key fields := by
  rw [present?, get?_withoutNulls, present?, Option.filter_filter]
  simp

theorem firstPresent?_withoutNulls (keys : List String) (fields : List (String × Json)) :
    firstPresent? keys (Json.withoutNulls fields) = firstPresent? keys fields := by
  simp only [firstPresent?, present?_withoutNulls]

theorem firstWritten?_withoutNulls (keys : List String) (fields : List (String × Json)) :
    firstWritten? keys (Json.withoutNulls fields) = firstPresent? keys fields := by
  simp only [firstWritten?, firstPresent?, get?_withoutNulls]

/-- Null is no text, so it makes no difference to a field that is taken as one. -/
theorem scalarText?_withoutNulls (key : String) (fields : List (String × Json)) :
    (Keyed.get? key (Json.withoutNulls fields)).bind Json.scalarText? =
      (Keyed.get? key fields).bind Json.scalarText? := by
  rw [get?_withoutNulls, present?]
  cases Keyed.get? key fields with
  | none => rfl
  | some tree => cases tree <;> rfl

/-! ### Choices -/

/-- Apart from its actions a choice is the same without null fields. -/
theorem choiceWith_withoutNulls (location : Location) (fields : List (String × Json))
    (actions : List Json) :
    choiceWith location (Json.withoutNulls fields) actions =
      choiceWith location fields actions := by
  simp only [choiceWith, firstPresent?_withoutNulls, scalarText?_withoutNulls]

theorem map_choiceWith (location : Location) (fields : List (String × Json))
    (actions others : List Json) :
    (choiceWith location fields actions).map (fun option => { option with actions := others }) =
      choiceWith location fields others := by
  unfold choiceWith
  cases (firstPresent? ["text", "say"] fields).bind Json.scalarText? <;> rfl

/-- A null under the first key hides the actions under the second. -/
def HidesActions (fields : List (String × Json)) : Prop :=
  Keyed.get? "actions" fields = some .null ∧ ∃ tree, present? "action" fields = some tree

theorem actionsOf_filter (written : Option Json) :
    actionsOf (written.filter fun tree => !tree.isNull) = actionsOf written := by
  cases written with
  | none => rfl
  | some tree => cases tree <;> rfl

theorem firstPresent?_of_null {key other : String} {fields : List (String × Json)}
    (h : present? key fields = none) :
    firstPresent? [key, other] fields = present? other fields := by
  simp [firstPresent?, h]

/-- Unless some are hidden, the first key that is written has the same actions as the first that is
not null. -/
theorem actionsOf_firstWritten? {fields : List (String × Json)} (h : ¬ HidesActions fields) :
    actionsOf (firstWritten? ["actions", "action"] fields) =
      actionsOf (firstPresent? ["actions", "action"] fields) := by
  cases hactions : Keyed.get? "actions" fields with
  | none =>
      have hwritten : firstWritten? ["actions", "action"] fields = Keyed.get? "action" fields := by
        simp [firstWritten?, hactions]
      rw [hwritten, firstPresent?_of_null (by rw [present?, hactions]; rfl), present?,
        actionsOf_filter]
  | some tree =>
      have hwritten : firstWritten? ["actions", "action"] fields = some tree := by
        simp [firstWritten?, hactions]
      by_cases hnull : tree = .null
      · subst hnull
        have hnone : present? "action" fields = none :=
          Option.eq_none_iff_forall_ne_some.mpr fun tree htree => h ⟨hactions, tree, htree⟩
        rw [hwritten, firstPresent?_of_null (by rw [present?, hactions]; rfl), hnone]
        rfl
      · have hpresent : firstPresent? ["actions", "action"] fields = some tree := by
          have hkeep : present? "actions" fields = some tree := by
            rw [present?, hactions]
            cases tree with
            | null => exact absurd rfl hnull
            | _ => rfl
          simp [firstPresent?, hkeep]
        rw [hwritten, hpresent]

theorem actionsOf_of_hidesActions {fields : List (String × Json)} (h : HidesActions fields) :
    actionsOf (firstWritten? ["actions", "action"] fields) = [] := by
  have hwritten : firstWritten? ["actions", "action"] fields = some .null := by
    simp [firstWritten?, h.1]
  rw [hwritten]
  rfl

/-! ### Dialogues -/

theorem readDialogue_withoutNulls (location : Location) (fields : List (String × Json)) :
    readDialogue location (Json.withoutNulls fields) = readDialogue location fields := by
  simp only [readDialogue, firstPresent?_withoutNulls, scalarText?_withoutNulls]

/-- The keys that make an object something else than a dialogue. -/
def otherKeys : List String := ["actions", "action", "if", "goto", "jump"]

theorem readInstruction_of_dialogue (location : Location) {fields : List (String × Json)}
    (hothers : ∀ key ∈ otherKeys, Keyed.get? key fields = none)
    (hdialogue : ∃ key ∈ dialogueKeys, ∃ tree, Keyed.get? key fields = some tree) :
    readInstruction location (.object fields) = readDialogue location fields := by
  have hactions : firstWritten? ["actions", "action"] fields = none := by
    simp [firstWritten?, hothers "actions" (by decide), hothers "action" (by decide)]
  have hif : Keyed.get? "if" fields = none := hothers "if" (by decide)
  have hjump : firstWritten? ["goto", "jump"] fields = none := by
    simp [firstWritten?, hothers "goto" (by decide), hothers "jump" (by decide)]
  have hany : dialogueKeys.any (fun key => Keyed.contains key fields) = true := by
    obtain ⟨key, hkey, tree, htree⟩ := hdialogue
    exact List.any_eq_true.mpr ⟨key, hkey, by rw [Keyed.contains, htree]; rfl⟩
  rw [readInstruction, hactions]
  simp only [hif, hjump, hany, if_true]

/-- Null fields count as absent, but for one. An object that is a choice is read as it is without
its null fields, unless a null under `actions` hides what stands under `action`; then the choice is
the same but has no actions. A dialogue with a field that is not null is always read as it is
without its null fields. -/
theorem null_fields_absent (location : Location) (fields : List (String × Json)) :
    (¬ HidesActions fields → readChoice location (.object (Json.withoutNulls fields)) =
      readChoice location (.object fields)) ∧
    (HidesActions fields → readChoice location (.object fields) =
      (readChoice location (.object (Json.withoutNulls fields))).map
        fun option => { option with actions := [] }) ∧
    ((∀ key ∈ otherKeys, Keyed.get? key fields = none) →
      (∃ key ∈ dialogueKeys, ∃ tree, present? key fields = some tree) →
      readInstruction location (.object (Json.withoutNulls fields)) =
        readInstruction location (.object fields)) := by
  refine ⟨fun h => ?_, fun h => ?_, fun hothers hdialogue => ?_⟩
  · rw [readChoice, readChoice, choiceWith_withoutNulls, firstWritten?_withoutNulls,
      actionsOf_firstWritten? h]
  · rw [readChoice, readChoice, map_choiceWith, choiceWith_withoutNulls,
      actionsOf_of_hidesActions h]
  · obtain ⟨key, hkey, tree, htree⟩ := hdialogue
    have hwritten : ∃ tree, Keyed.get? key fields = some tree :=
      ⟨tree, (Option.filter_eq_some_iff.mp htree).1⟩
    have hothers' : ∀ key ∈ otherKeys, Keyed.get? key (Json.withoutNulls fields) = none := by
      intro key hkey
      rw [get?_withoutNulls, present?, hothers key hkey]
      rfl
    rw [readInstruction_of_dialogue location hothers ⟨key, hkey, hwritten⟩,
      readInstruction_of_dialogue location hothers'
        ⟨key, hkey, tree, (get?_withoutNulls key fields).trans htree⟩,
      readDialogue_withoutNulls]

def paying : List (String × Json) :=
  [("text", .text "Pay"), ("actions", .null),
    ("action", .object [("type", .text "setFlag"), ("flag", .text "paid")])]

def greeting : List (String × Json) :=
  [("say", .null), ("text", .text "Hi"), ("choices", .null), ("choice", .text "Go")]

theorem null_fields_absent_greeting :
    let location : Location := ⟨"f.yaml", 1, "s"⟩
    (HidesActions paying ∧ readChoice location (.object paying) =
      (readChoice location (.object (Json.withoutNulls paying))).map
        fun option => { option with actions := [] }) ∧
    (¬ HidesActions greeting ∧ readChoice location (.object (Json.withoutNulls greeting)) =
      readChoice location (.object greeting)) ∧
    Json.withoutNulls greeting = [("text", .text "Hi"), ("choice", .text "Go")] ∧
    readInstruction location (.object (Json.withoutNulls greeting)) =
      readInstruction location (.object greeting) := by
  intro location
  have hpaying : HidesActions paying := ⟨rfl, _, rfl⟩
  have hgreeting : ¬ HidesActions greeting := fun h => by cases h.1
  obtain ⟨-, hhides, -⟩ := null_fields_absent location paying
  obtain ⟨hchoice, -, hdialogue⟩ := null_fields_absent location greeting
  refine ⟨⟨hpaying, hhides hpaying⟩, ⟨hgreeting, hchoice hgreeting⟩, rfl, hdialogue ?_ ?_⟩
  · simp [otherKeys, greeting, Keyed.get?]
  · exact ⟨"text", by decide, .text "Hi", rfl⟩

/-- The action under the other key is lost. -/
theorem readChoice_paying_ne :
    readChoice ⟨"f.yaml", 1, "s"⟩ (.object (Json.withoutNulls paying)) ≠
      readChoice ⟨"f.yaml", 1, "s"⟩ (.object paying) := by
  intro h
  have hwithout : readChoice ⟨"f.yaml", 1, "s"⟩ (.object (Json.withoutNulls paying)) =
      .ok ⟨"Pay", none, none, [.object [("type", .text "setFlag"), ("flag", .text "paid")]]⟩ := rfl
  have hwith : readChoice ⟨"f.yaml", 1, "s"⟩ (.object paying) = .ok ⟨"Pay", none, none, []⟩ := rfl
  rw [hwithout, hwith] at h
  cases h

end Script

end BranchingStory
