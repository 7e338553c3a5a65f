import BranchingStory.Script.Scene
import Mathlib.Data.List.Forall2

/-!
The grammar of scripts. Which entries there are is said by rules that do not look at how entries are
read: an object belongs to the first rule of which it has a key, and that rule alone says what must
stand under its keys. Reading accepts exactly the entries of the grammar, makes an instruction of
the kind that the rule names, and leaves none out of a branch.
-/

namespace BranchingStory

/-! ### Trees -/

namespace Json

inductive Scalar : Json → Prop
  | text (s : String) : Scalar (.text s)
  | number (n : Number) : Scalar (.number n)
  | bool (b : Bool) : Scalar (.bool b)

theorem scalar_iff {tree : Json} : tree.Scalar ↔ ∃ s, tree.scalarText? = some s := by
  constructor
  · rintro (s | n | b)
    · exact ⟨s, rfl⟩
    · exact ⟨n.toText, rfl⟩
    · exact ⟨boolText b, rfl⟩
  · rintro ⟨s, hs⟩
    cases tree with
    | text s => exact .text s
    | number n => exact .number n
    | bool b => exact .bool b
    | _ => cases hs

/-- What holds of a tree whenever it holds of all trees in the lists under its keys holds of every
tree. -/
theorem induction_under {P : Json → Prop}
    (hstep : ∀ tree, (∀ fields key written entry, tree = .object fields →
      Keyed.get? key fields = some written → entry ∈ written.asList → P entry) → P tree)
    (tree : Json) : P tree := by
  induction hsize : sizeOf tree using Nat.strongRecOn generalizing tree with
  | ind size ih =>
      refine hstep tree fun fields key written entry htree hwritten hentry => ?_
      refine ih (sizeOf entry) ?_ entry rfl
      rw [← hsize, htree]
      exact Nat.lt_trans (List.sizeOf_lt_of_mem hentry) (sizeOf_asList_lt hwritten)

end Json

namespace Script

/-! ### The grammar -/

/-- The rules for objects in the order in which they are tried: the keys that call for a rule, and
the kind of instruction that it makes. -/
def rules : List (List String × String) :=
  [(["actions", "action"], "action"), (["if"], "conditional"), (["goto", "jump"], "jump"),
    (["say", "text", "speaker", "choices", "choice"], "dialogue")]

def calledKind? : Json → Option String
  | .text _ => some "dialogue"
  | .object fields =>
    (rules.find? fun rule => rule.1.any fun key => Keyed.contains key fields).map Prod.snd
  | _ => none

inductive FirstUnder (fields : List (String × Json)) : List String → Json → Prop
  | here {key : String} {rest : List String} {tree : Json}
      (hwritten : Keyed.get? key fields = some tree) (hnull : tree ≠ .null) :
      FirstUnder fields (key :: rest) tree
  | later {key : String} {rest : List String} {tree : Json}
      (hnone : ∀ other, Keyed.get? key fields = some other → other = .null)
      (hrest : FirstUnder fields rest tree) : FirstUnder fields (key :: rest) tree

inductive WellFormedChoice : Json → Prop
  | line (text : String) : WellFormedChoice (.text text)
  | object {fields : List (String × Json)} {text : Json}
      (htext : FirstUnder fields ["text", "say"] text) (hscalar : text.Scalar) :
      WellFormedChoice (.object fields)

inductive WellFormed : Json → Prop
  | line (text : String) : WellFormed (.text text)
  /-- Whatever is written under the key makes an action. -/
  | action {fields : List (String × Json)} (hkind : calledKind? (.object fields) = some "action") :
      WellFormed (.object fields)
  | conditional {fields : List (String × Json)} {condition : Json}
      (hkind : calledKind? (.object fields) = some "conditional")
      (hif : Keyed.get? "if" fields = some condition) (hscalar : condition.Scalar)
      (hthen : ∀ written, Keyed.get? "then" fields = some written →
        ∀ entry ∈ written.asList, WellFormed entry)
      (helse : ∀ written, Keyed.get? "else" fields = some written →
        ∀ entry ∈ written.asList, WellFormed entry) : WellFormed (.object fields)
  /-- A null under the first key is a target too, though not one that can be read. -/
  | jump {fields : List (String × Json)} {target : Json}
      (hkind : calledKind? (.object fields) = some "jump")
      (htarget : Keyed.get? "goto" fields = some target ∨
        Keyed.get? "goto" fields = none ∧ Keyed.get? "jump" fields = some target)
      (hscalar : target.Scalar) : WellFormed (.object fields)
  | dialogue {fields : List (String × Json)}
      (hkind : calledKind? (.object fields) = some "dialogue")
      (hchoices : ∀ written, FirstUnder fields ["choices", "choice"] written →
        ∀ choice ∈ written.asList, WellFormedChoice choice) : WellFormed (.object fields)

/-- What is written under the name of a scene is a list of entries. -/
def WellFormedScene (body : Json) : Prop :=
  ∃ entries, body = .list entries ∧ ∀ entry ∈ entries, WellFormed entry

/-! ### Which rule applies -/

inductive Applies (fields : List (String × Json)) : Option String → Prop
  | action {written : Json} (haction : firstWritten? ["actions", "action"] fields = some written) :
      Applies fields (some "action")
  | conditional {condition : Json}
      (haction : firstWritten? ["actions", "action"] fields = none)
      (hif : Keyed.get? "if" fields = some condition) : Applies fields (some "conditional")
  | jump {target : Json} (haction : firstWritten? ["actions", "action"] fields = none)
      (hif : Keyed.get? "if" fields = none)
      (htarget : firstWritten? ["goto", "jump"] fields = some target) :
      Applies fields (some "jump")
  | dialogue (haction : firstWritten? ["actions", "action"] fields = none)
      (hif : Keyed.get? "if" fields = none) (htarget : firstWritten? ["goto", "jump"] fields = none)
      (hkeys : dialogueKeys.any (fun key => Keyed.contains key fields) = true) :
      Applies fields (some "dialogue")
  | nothing (haction : firstWritten? ["actions", "action"] fields = none)
      (hif : Keyed.get? "if" fields = none) (htarget : firstWritten? ["goto", "jump"] fields = none)
      (hkeys : dialogueKeys.any (fun key => Keyed.contains key fields) = false) :
      Applies fields none

theorem any_contains_eq (keys : List String) (fields : List (String × Json)) :
    (keys.any fun key => Keyed.contains key fields) = (firstWritten? keys fields).isSome := by
  induction keys with
  | nil => rfl
  | cons key rest ih =>
      rw [List.any_cons, ih, firstWritten?, firstWritten?, List.findSome?_cons, Keyed.contains]
      cases Keyed.get? key fields <;> rfl

theorem applies_calledKind? (fields : List (String × Json)) :
    Applies fields (calledKind? (.object fields)) := by
  have hif : firstWritten? ["if"] fields = Keyed.get? "if" fields := by
    simp only [firstWritten?, List.findSome?_cons, List.findSome?_nil]
    cases Keyed.get? "if" fields <;> rfl
  simp only [calledKind?, rules, List.find?_cons, List.find?_nil]
  rw [any_contains_eq, any_contains_eq, any_contains_eq, hif]
  cases haction : firstWritten? ["actions", "action"] fields with
  | some written => exact .action haction
  | none =>
      cases hcondition : Keyed.get? "if" fields with
      | some condition => exact .conditional haction hcondition
      | none =>
          cases htarget : firstWritten? ["goto", "jump"] fields with
          | some target => exact .jump haction hcondition htarget
          | none =>
              cases hkeys : dialogueKeys.any (fun key => Keyed.contains key fields) with
              | true =>
                  rw [dialogueKeys] at hkeys
                  simp only [Option.isSome_none, hkeys]
                  exact .dialogue haction hcondition htarget hkeys
              | false =>
                  rw [dialogueKeys] at hkeys
                  simp only [Option.isSome_none, hkeys]
                  exact .nothing haction hcondition htarget hkeys

/-! ### Choices -/

theorem firstPresent?_eq_some_iff {keys : List String} {fields : List (String × Json)}
    {tree : Json} : firstPresent? keys fields = some tree ↔ FirstUnder fields keys tree := by
  have hnull : ∀ other : Json, other.isNull = true ↔ other = .null := by
    intro other
    cases other <;> simp [Json.isNull]
  induction keys with
  | nil =>
      constructor
      · intro h
        cases h
      · intro h
        cases h
  | cons key rest ih =>
      have hcons : firstPresent? (key :: rest) fields =
          ((Keyed.get? key fields).filter (fun other => !other.isNull)).or
            (firstPresent? rest fields) := by
        rw [firstPresent?, List.findSome?_cons, present?]
        cases (Keyed.get? key fields).filter (fun other => !other.isNull) <;> rfl
      rw [hcons, Option.or_eq_some_iff, Option.filter_eq_some_iff, Option.filter_eq_none_iff]
      constructor
      · rintro (⟨hwritten, hpresent⟩ | ⟨hnone, hrest⟩)
        · exact .here hwritten fun htree => by simp [htree, Json.isNull] at hpresent
        · refine .later (fun other hother => (hnull other).mp ?_) (ih.mp hrest)
          simpa using hnone other hother
      · intro h
        cases h with
        | here hwritten hpresent =>
            refine .inl ⟨hwritten, ?_⟩
            simpa using fun h => hpresent ((hnull tree).mp h)
        | later hnone hrest =>
            refine .inr ⟨fun other hother => ?_, ih.mpr hrest⟩
            simp [(hnull other).mpr (hnone other hother)]

variable {location : Location}

theorem exists_readChoice_iff {choice : Json} :
    (∃ option, readChoice location choice = .ok option) ↔ WellFormedChoice choice := by
  cases choice with
  | text text => exact ⟨fun _ => .line text, fun _ => ⟨_, rfl⟩⟩
  | object fields =>
      constructor
      · rintro ⟨option, h⟩
        rw [readChoice, choiceWith] at h
        split at h
        · cases h
        · rename_i text htext
          obtain ⟨tree, htree, hscalar⟩ := Option.bind_eq_some_iff.mp htext
          exact .object (firstPresent?_eq_some_iff.mp htree) (Json.scalar_iff.mpr ⟨text, hscalar⟩)
      · intro h
        cases h with
        | object htext hscalar =>
            obtain ⟨text, hscalar⟩ := Json.scalar_iff.mp hscalar
            rw [readChoice, choiceWith, firstPresent?_eq_some_iff.mpr htext, Option.bind_some,
              hscalar]
            exact ⟨_, rfl⟩
  | _ =>
      constructor
      · rintro ⟨option, h⟩
        cases h
      · intro h
        cases h

theorem exists_readChoices_iff {choices : List Json} :
    (∃ options, readChoices location choices = .ok options) ↔
      ∀ choice ∈ choices, WellFormedChoice choice := by
  induction choices with
  | nil => exact ⟨fun _ choice hchoice => absurd hchoice List.not_mem_nil, fun _ => ⟨[], rfl⟩⟩
  | cons choice rest ih =>
      rw [List.forall_mem_cons, ← ih, ← @exists_readChoice_iff location]
      constructor
      · rintro ⟨options, h⟩
        rw [readChoices] at h
        split at h
        · cases h
        · rename_i option hoption
          split at h
          · cases h
          · rename_i others hothers
            exact ⟨⟨option, hoption⟩, others, hothers⟩
      · rintro ⟨⟨option, hoption⟩, others, hothers⟩
        exact ⟨option :: others, by simp only [readChoices, hoption, hothers]⟩

theorem exists_readDialogue_iff {fields : List (String × Json)} :
    (∃ i, readDialogue location fields = .ok i) ↔
      ∀ written, FirstUnder fields ["choices", "choice"] written →
        ∀ choice ∈ written.asList, WellFormedChoice choice := by
  unfold readDialogue
  simp only [← firstPresent?_eq_some_iff]
  cases hwritten : firstPresent? ["choices", "choice"] fields with
  | none => simp
  | some written =>
      simp only [Option.some.injEq, forall_eq']
      rw [← @exists_readChoices_iff location]
      cases hread : readChoices location written.asList with
      | error fault => simp
      | ok choices => cases choices <;> simp

theorem kind_readDialogue {fields : List (String × Json)} {i : Instruction}
    (h : readDialogue location fields = .ok i) : i.kind = "dialogue" := by
  unfold readDialogue at h
  split at h
  · cases h
    rfl
  · split at h
    · cases h
    · cases h
      rfl
    · cases h
      rfl

/-! ### Branches -/

/-- Every item has a partner exactly if there is a list of partners. -/
theorem exists_forall₂_iff {α β : Type} {R : α → β → Prop} {as : List α} :
    (∃ bs, List.Forall₂ R as bs) ↔ ∀ a ∈ as, ∃ b, R a b := by
  induction as with
  | nil => simp
  | cons a rest ih =>
      rw [List.forall_mem_cons, ← ih]
      constructor
      · rintro ⟨bs, h⟩
        obtain ⟨b, others, hb, hothers, -⟩ := List.forall₂_cons_left_iff.mp h
        exact ⟨⟨b, hb⟩, others, hothers⟩
      · rintro ⟨⟨b, hb⟩, others, hothers⟩
        exact ⟨b :: others, .cons hb hothers⟩

def ReadAs (location : Location) : List Json → List Instruction → Prop :=
  List.Forall₂ fun entry i => readInstruction location entry = .ok i

theorem readSequence_eq_ok_iff {entries : List Json} {instructions : List Instruction} :
    readSequence location entries = .ok instructions ↔ ReadAs location entries instructions := by
  induction entries generalizing instructions with
  | nil =>
      rw [readSequence, ReadAs, List.forall₂_nil_left_iff, Except.ok.injEq]
      exact eq_comm
  | cons entry rest ih =>
      rw [readSequence, ReadAs, List.forall₂_cons_left_iff]
      constructor
      · intro h
        split at h
        · cases h
        · rename_i first hfirst
          split at h
          · cases h
          · rename_i others hothers
            cases h
            exact ⟨first, others, hfirst, ih.mp hothers, rfl⟩
      · rintro ⟨first, others, hfirst, hothers, rfl⟩
        simp only [hfirst, ih.mpr hothers]

/-- What is read under the key of a branch: nothing if it is not written, and else an instruction
for each entry. -/
inductive ReadUnder (location : Location) (fields : List (String × Json)) (key : String) :
    Option (List Instruction) → Prop
  | missing (hmissing : Keyed.get? key fields = none) : ReadUnder location fields key none
  | written {written : Json} {instructions : List Instruction}
      (hwritten : Keyed.get? key fields = some written)
      (hread : ReadAs location written.asList instructions) :
      ReadUnder location fields key (some instructions)

theorem readBranch_eq_ok_iff {fields : List (String × Json)} {key : String}
    {branch : Option (List Instruction)} :
    readBranch location fields key = .ok branch ↔ ReadUnder location fields key branch := by
  constructor
  · intro h
    unfold readBranch at h
    split at h
    · rename_i hmissing
      cases h
      exact .missing hmissing
    · rename_i written hwritten
      split at h
      · cases h
      · rename_i instructions hread
        cases h
        exact .written hwritten (readSequence_eq_ok_iff.mp hread)
  · rintro (hmissing | ⟨hwritten, hread⟩)
    · unfold readBranch
      split
      · rfl
      · simp_all
    · unfold readBranch
      split
      · simp_all
      · rename_i found hfound
        obtain rfl := Option.some.inj (hwritten.symm.trans hfound)
        rw [readSequence_eq_ok_iff.mpr hread]

theorem exists_readUnder_iff {fields : List (String × Json)} {key : String} :
    (∃ branch, ReadUnder location fields key branch) ↔
      ∀ written, Keyed.get? key fields = some written →
        ∀ entry ∈ written.asList, ∃ i, readInstruction location entry = .ok i := by
  constructor
  · rintro ⟨branch, hmissing | ⟨hwritten, hread⟩⟩ written hthere
    · cases hmissing.symm.trans hthere
    · obtain rfl := Option.some.inj (hwritten.symm.trans hthere)
      exact exists_forall₂_iff.mp ⟨_, hread⟩
  · intro h
    cases hget : Keyed.get? key fields with
    | none => exact ⟨none, .missing hget⟩
    | some written =>
        obtain ⟨instructions, hread⟩ := exists_forall₂_iff.mpr (h written hget)
        exact ⟨some instructions, .written hget hread⟩

/-! ### Entries -/

theorem readInstruction_conditional_iff {fields : List (String × Json)} {condition : Json}
    (haction : firstWritten? ["actions", "action"] fields = none)
    (hif : Keyed.get? "if" fields = some condition) {i : Instruction} :
    readInstruction location (.object fields) = .ok i ↔
      ∃ text thenBranch elseBranch, condition.scalarText? = some text ∧
        ReadUnder location fields "then" thenBranch ∧
        ReadUnder location fields "else" elseBranch ∧
        i = .conditional text (thenBranch.getD []) elseBranch location := by
  rw [readInstruction]
  simp only [haction, hif]
  constructor
  · intro h
    split at h
    · cases h
    · rename_i text htext
      split at h
      · cases h
      · rename_i thenBranch hthen
        split at h
        · cases h
        · rename_i elseBranch helse
          cases h
          exact ⟨text, thenBranch, elseBranch, htext, readBranch_eq_ok_iff.mp hthen,
            readBranch_eq_ok_iff.mp helse, rfl⟩
  · rintro ⟨text, thenBranch, elseBranch, htext, hthen, helse, rfl⟩
    simp only [htext, readBranch_eq_ok_iff.mpr hthen, readBranch_eq_ok_iff.mpr helse]

theorem exists_readInstruction_conditional_iff {fields : List (String × Json)} {condition : Json}
    (haction : firstWritten? ["actions", "action"] fields = none)
    (hif : Keyed.get? "if" fields = some condition) :
    (∃ i, readInstruction location (.object fields) = .ok i) ↔ condition.Scalar ∧
      (∃ branch, ReadUnder location fields "then" branch) ∧
      ∃ branch, ReadUnder location fields "else" branch := by
  rw [Json.scalar_iff]
  constructor
  · rintro ⟨i, h⟩
    obtain ⟨text, thenBranch, elseBranch, htext, hthen, helse, -⟩ :=
      (readInstruction_conditional_iff haction hif).mp h
    exact ⟨⟨text, htext⟩, ⟨thenBranch, hthen⟩, elseBranch, helse⟩
  · rintro ⟨⟨text, htext⟩, ⟨thenBranch, hthen⟩, elseBranch, helse⟩
    exact ⟨_, (readInstruction_conditional_iff haction hif).mpr
      ⟨text, thenBranch, elseBranch, htext, hthen, helse, rfl⟩⟩

theorem exists_readInstruction_jump_iff {fields : List (String × Json)} {target : Json}
    (haction : firstWritten? ["actions", "action"] fields = none)
    (hif : Keyed.get? "if" fields = none)
    (htarget : firstWritten? ["goto", "jump"] fields = some target) :
    (∃ i, readInstruction location (.object fields) = .ok i) ↔ target.Scalar := by
  rw [Json.scalar_iff, readInstruction]
  simp only [haction, hif, htarget]
  cases target.scalarText? <;> simp

theorem firstWritten?_goto_iff {fields : List (String × Json)} {target : Json} :
    firstWritten? ["goto", "jump"] fields = some target ↔
      Keyed.get? "goto" fields = some target ∨
        Keyed.get? "goto" fields = none ∧ Keyed.get? "jump" fields = some target := by
  simp only [firstWritten?, List.findSome?_cons, List.findSome?_nil]
  cases Keyed.get? "goto" fields <;> cases Keyed.get? "jump" fields <;> simp

/-! An object is of the grammar if the one rule that applies to it is met. -/

theorem wellFormed_conditional_iff {fields : List (String × Json)} {condition : Json}
    (hkind : calledKind? (.object fields) = some "conditional")
    (hif : Keyed.get? "if" fields = some condition) :
    WellFormed (.object fields) ↔ condition.Scalar ∧
      (∀ written, Keyed.get? "then" fields = some written →
        ∀ entry ∈ written.asList, WellFormed entry) ∧
      ∀ written, Keyed.get? "else" fields = some written →
        ∀ entry ∈ written.asList, WellFormed entry := by
  constructor
  · intro h
    cases h with
    | conditional _ hif' hscalar hthen helse =>
        obtain rfl := Option.some.inj (hif.symm.trans hif')
        exact ⟨hscalar, hthen, helse⟩
    | _ hkind' => simp [hkind] at hkind'
  · rintro ⟨hscalar, hthen, helse⟩
    exact .conditional hkind hif hscalar hthen helse

theorem wellFormed_jump_iff {fields : List (String × Json)} {target : Json}
    (hkind : calledKind? (.object fields) = some "jump")
    (htarget : firstWritten? ["goto", "jump"] fields = some target) :
    WellFormed (.object fields) ↔ target.Scalar := by
  constructor
  · intro h
    cases h with
    | jump _ htarget' hscalar =>
        have htarget' := firstWritten?_goto_iff.mpr htarget'
        obtain rfl := Option.some.inj (htarget.symm.trans htarget')
        exact hscalar
    | _ hkind' => simp [hkind] at hkind'
  · exact .jump hkind (firstWritten?_goto_iff.mp htarget)

theorem wellFormed_dialogue_iff {fields : List (String × Json)}
    (hkind : calledKind? (.object fields) = some "dialogue") :
    WellFormed (.object fields) ↔
      ∀ written, FirstUnder fields ["choices", "choice"] written →
        ∀ choice ∈ written.asList, WellFormedChoice choice := by
  constructor
  · intro h
    cases h with
    | dialogue _ hchoices => exact hchoices
    | _ hkind' => simp [hkind] at hkind'
  · exact .dialogue hkind

theorem not_wellFormed_of_calledKind? {fields : List (String × Json)}
    (hkind : calledKind? (.object fields) = none) : ¬ WellFormed (.object fields) := by
  intro h
  cases h with
  | _ hkind' => simp [hkind] at hkind'

/-- An entry is read exactly if it is one of the grammar. -/
theorem exists_readInstruction_iff (location : Location) (entry : Json) :
    (∃ i, readInstruction location entry = .ok i) ↔ WellFormed entry := by
  -- The only entries inside an entry stand in the lists under the keys of its branches.
  induction entry using Json.induction_under with
  | hstep tree ih =>
      cases tree with
      | text text => exact ⟨fun _ => .line text, fun _ => ⟨_, by rw [readInstruction]⟩⟩
      | object fields =>
          have hunder : ∀ key, (∃ branch, ReadUnder location fields key branch) ↔
              ∀ written, Keyed.get? key fields = some written →
                ∀ entry ∈ written.asList, WellFormed entry := by
            intro key
            rw [exists_readUnder_iff]
            refine forall_congr' fun written => forall_congr' fun hwritten => ?_
            exact forall_congr' fun entry => forall_congr' fun hentry =>
              ih fields key written entry rfl hwritten hentry
          have happlies := applies_calledKind? fields
          generalize hkind : calledKind? (.object fields) = kind at happlies
          cases happlies with
          | @action written haction =>
              refine ⟨fun _ => .action hkind, fun _ => ⟨.action written.asList location, ?_⟩⟩
              rw [readInstruction]
              simp only [haction]
          | conditional haction hif =>
              rw [exists_readInstruction_conditional_iff haction hif, hunder, hunder,
                wellFormed_conditional_iff hkind hif]
          | jump haction hif htarget =>
              rw [exists_readInstruction_jump_iff haction hif htarget,
                wellFormed_jump_iff hkind htarget]
          | dialogue haction hif htarget hkeys =>
              rw [readInstruction]
              simp only [haction, hif, htarget, hkeys, ↓reduceIte]
              rw [exists_readDialogue_iff, wellFormed_dialogue_iff hkind]
          | nothing haction hif htarget hkeys =>
              refine iff_of_false ?_ (not_wellFormed_of_calledKind? hkind)
              rintro ⟨i, h⟩
              rw [readInstruction] at h
              simp [haction, hif, htarget, hkeys] at h
      | _ =>
          constructor
          · rintro ⟨i, h⟩
            simp [readInstruction] at h
          · intro h
            cases h

/-- The instruction is of the kind that the entry calls for. -/
theorem calledKind?_of_readInstruction {entry : Json} {i : Instruction}
    (h : readInstruction location entry = .ok i) : calledKind? entry = some i.kind := by
  cases entry with
  | text text =>
      rw [readInstruction] at h
      cases h
      rfl
  | object fields =>
      have happlies := applies_calledKind? fields
      generalize calledKind? (.object fields) = kind at happlies
      cases happlies with
      | action haction =>
          rw [readInstruction] at h
          simp only [haction] at h
          cases h
          rfl
      | conditional haction hif =>
          obtain ⟨text, thenBranch, elseBranch, -, -, -, rfl⟩ :=
            (readInstruction_conditional_iff haction hif).mp h
          rfl
      | jump haction hif htarget =>
          rw [readInstruction] at h
          simp only [haction, hif, htarget] at h
          split at h
          · cases h
          · cases h
            rfl
      | dialogue haction hif htarget hkeys =>
          rw [readInstruction] at h
          simp only [haction, hif, htarget, hkeys, ↓reduceIte] at h
          rw [kind_readDialogue h]
      | nothing haction hif htarget hkeys =>
          rw [readInstruction] at h
          simp [haction, hif, htarget, hkeys] at h
  | _ => simp [readInstruction] at h

/-- What stands in the branches of a conditional that was read. -/
theorem branches_of_readInstruction {entry : Json} {condition : String}
    {thenBranch : List Instruction} {elseBranch : Option (List Instruction)} {l : Location}
    (h : readInstruction location entry = .ok (.conditional condition thenBranch elseBranch l)) :
    ∃ fields written, entry = .object fields ∧ ReadUnder location fields "then" written ∧
      thenBranch = written.getD [] ∧ ReadUnder location fields "else" elseBranch := by
  have hcalled := calledKind?_of_readInstruction h
  cases entry with
  | text text => simp [calledKind?, Instruction.kind] at hcalled
  | object fields =>
      have happlies := applies_calledKind? fields
      rw [hcalled] at happlies
      generalize hkind : (Instruction.conditional condition thenBranch elseBranch l).kind = kind
        at happlies
      cases happlies with
      | conditional haction hif =>
          obtain ⟨text, written, written', -, hthen, helse, hi⟩ :=
            (readInstruction_conditional_iff haction hif).mp h
          cases hi
          exact ⟨fields, written, rfl, hthen, rfl, helse⟩
      | _ => simp [Instruction.kind] at hkind
  | _ => simp [calledKind?] at hcalled

/-- Reading accepts the entries of the grammar and no others, makes of each an instruction of the
kind of its rule, and puts into the branches of a conditional one instruction for each entry of
theirs, in order. -/
theorem readInstruction_accepts_grammar (location : Location) (entry : Json) :
    ((∃ i, readInstruction location entry = .ok i) ↔ WellFormed entry) ∧
    (∀ i, readInstruction location entry = .ok i → calledKind? entry = some i.kind) ∧
    ∀ condition thenBranch elseBranch l,
      readInstruction location entry = .ok (.conditional condition thenBranch elseBranch l) →
      ∃ fields written, entry = .object fields ∧ ReadUnder location fields "then" written ∧
        thenBranch = written.getD [] ∧ ReadUnder location fields "else" elseBranch :=
  ⟨exists_readInstruction_iff location entry, fun _ => calledKind?_of_readInstruction,
    fun _ _ _ _ => branches_of_readInstruction⟩

/-- A conditional with a conditional in its branch and a jump to a truth value, and the same with no
target for the jump. -/
theorem readInstruction_accepts_grammar_nested :
    (∃ i, readInstruction ⟨"forest", 2, "glade"⟩ (.object [("then", .object [("if", .text "lost"),
        ("else", .list [.object [("say", .null), ("jump", .bool true)]])]), ("if", .bool false)]) =
          .ok i ∧ i.kind = "conditional") ∧
      ¬ WellFormed (.object [("if", .bool false), ("then", .object [("if", .text "lost"),
        ("else", .list [.object [("goto", .null), ("jump", .bool true)]])])]) := by
  constructor
  · have hjump : WellFormed (.object [("say", .null), ("jump", .bool true)]) :=
      .jump rfl (.inr ⟨rfl, rfl⟩) (.bool true)
    have hinner : WellFormed (.object [("if", .text "lost"),
        ("else", .list [.object [("say", .null), ("jump", .bool true)]])]) := by
      refine .conditional rfl rfl (.text "lost") (fun written hthen => by cases hthen) ?_
      rintro written helse entry hentry
      obtain rfl := Option.some.inj helse
      obtain rfl := List.mem_singleton.mp hentry
      exact hjump
    obtain ⟨hread, hkind, -⟩ := readInstruction_accepts_grammar ⟨"forest", 2, "glade"⟩
      (.object [("then", .object [("if", .text "lost"),
        ("else", .list [.object [("say", .null), ("jump", .bool true)]])]), ("if", .bool false)])
    obtain ⟨i, hi⟩ := hread.mpr (by
      refine .conditional rfl rfl (.bool false) ?_ (fun written helse => by cases helse)
      rintro written hthen entry hentry
      obtain rfl := Option.some.inj hthen
      obtain rfl := List.mem_singleton.mp hentry
      exact hinner)
    exact ⟨i, hi, (Option.some.inj (hkind i hi)).symm⟩
  · intro h
    obtain ⟨i, hi⟩ := (readInstruction_accepts_grammar ⟨"forest", 2, "glade"⟩ _).1.mpr h
    simp [readInstruction, readBranch, readSequence, firstWritten?, Keyed.get?, Json.asList,
      Json.scalarText?] at hi

end Script

end BranchingStory
