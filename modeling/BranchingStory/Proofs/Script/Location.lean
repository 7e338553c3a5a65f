import BranchingStory.Proofs.Script.Grammar

/-!
Locations in scripts. An entry is read in the same way wherever it stands: the location only labels
what comes out, every instruction inside and the fault alike. So all instructions of an entry carry
the location of the entry, and the fault of a document points at the first entry that is none, at
the first scene that is no list, or at no place if there are no scenes at all.
-/

namespace BranchingStory

/-! ### Instructions inside an instruction -/

namespace Instruction

mutual

def relabel (location : Location) : Instruction → Instruction
  | .dialogue speaker text actions choices _ => .dialogue speaker text actions choices location
  | .action actions _ => .action actions location
  | .conditional condition thenBranch elseBranch _ =>
    .conditional condition (relabelBranch location thenBranch) (relabelElse location elseBranch)
      location
  | .jump target _ => .jump target location

def relabelBranch (location : Location) : List Instruction → List Instruction
  | [] => []
  | i :: rest => i.relabel location :: relabelBranch location rest

def relabelElse (location : Location) : Option (List Instruction) → Option (List Instruction)
  | none => none
  | some branch => some (relabelBranch location branch)

end

theorem relabelBranch_eq_map (location : Location) (branch : List Instruction) :
    relabelBranch location branch = branch.map (relabel location) := by
  induction branch with
  | nil => rfl
  | cons i rest ih => rw [relabelBranch, ih, List.map_cons]

theorem relabelElse_eq_map (location : Location) (branch : Option (List Instruction)) :
    relabelElse location branch = branch.map (List.map (relabel location)) := by
  cases branch with
  | none => rfl
  | some branch => rw [relabelElse, relabelBranch_eq_map, Option.map_some]

inductive Inside : Instruction → Instruction → Prop
  | self (i : Instruction) : Inside i i
  | thenBranch {condition : String} {branch : List Instruction}
      {elseBranch : Option (List Instruction)} {location : Location} {i j : Instruction}
      (hi : i ∈ branch) (hj : Inside i j) :
      Inside (.conditional condition branch elseBranch location) j
  | elseBranch {condition : String} {branch thenBranch : List Instruction} {location : Location}
      {i j : Instruction} (hi : i ∈ branch) (hj : Inside i j) :
      Inside (.conditional condition thenBranch (some branch) location) j

theorem relabel_of_mem {location : Location} {branch : List Instruction}
    (h : branch.map (relabel location) = branch) {i : Instruction} (hi : i ∈ branch) :
    i.relabel location = i := by
  rw [← List.map_id branch, List.map_map] at h
  exact List.map_inj_left.mp h i hi

/-- An instruction that a relabelling leaves as it is has the label all over. -/
theorem Inside.location_eq {location : Location} {i j : Instruction} (hj : Inside i j)
    (h : i.relabel location = i) : j.location = location := by
  induction hj with
  | self i =>
      rw [← h]
      cases i <;> rfl
  | thenBranch hi _ ih =>
      simp only [relabel, relabelBranch_eq_map, conditional.injEq] at h
      exact ih (relabel_of_mem h.2.1 hi)
  | elseBranch hi _ ih =>
      simp only [relabel, relabelElse_eq_map, conditional.injEq, Option.map_some,
        Option.some.injEq] at h
      exact ih (relabel_of_mem h.2.2.1 hi)

end Instruction

namespace Script

open Instruction (relabel)

/-! ### Reading at another location -/

/-- Two readings at two locations: both give the same up to `f`, or both fail for the same cause,
each at its location. -/
def Relabels (l l' : Location) {α : Type} (f : α → α) (read read' : Except Fault α) : Prop :=
  (∃ a, read = .ok a ∧ read' = .ok (f a)) ∨
    ∃ cause, read = .error (.script cause l) ∧ read' = .error (.script cause l')

variable (l l' : Location)

theorem relabels_readChoice (choice : Json) :
    Relabels l l' id (readChoice l choice) (readChoice l' choice) := by
  cases choice with
  | text text => exact .inl ⟨_, rfl, rfl⟩
  | object fields =>
      rw [readChoice, readChoice, choiceWith, choiceWith]
      cases (firstPresent? ["text", "say"] fields).bind Json.scalarText? with
      | none => exact .inr ⟨_, rfl, rfl⟩
      | some text => exact .inl ⟨_, rfl, rfl⟩
  | _ => exact .inr ⟨_, rfl, rfl⟩

theorem relabels_readChoices (choices : List Json) :
    Relabels l l' id (readChoices l choices) (readChoices l' choices) := by
  induction choices with
  | nil => exact .inl ⟨_, rfl, rfl⟩
  | cons choice rest ih =>
      rw [readChoices, readChoices]
      obtain ⟨option, h, h'⟩ | ⟨cause, h, h'⟩ := relabels_readChoice l l' choice
      · obtain ⟨options, hrest, hrest'⟩ | ⟨cause, hrest, hrest'⟩ := ih
        · simp only [h, h', hrest, hrest']
          exact .inl ⟨_, rfl, rfl⟩
        · simp only [h, h', hrest, hrest']
          exact .inr ⟨_, rfl, rfl⟩
      · simp only [h, h']
        exact .inr ⟨_, rfl, rfl⟩

theorem relabels_readDialogue (fields : List (String × Json)) :
    Relabels l l' (relabel l') (readDialogue l fields) (readDialogue l' fields) := by
  unfold readDialogue
  cases firstPresent? ["choices", "choice"] fields with
  | none => exact .inl ⟨_, rfl, rfl⟩
  | some written =>
      obtain ⟨options, h, h'⟩ | ⟨cause, h, h'⟩ := relabels_readChoices l l' written.asList
      · simp only [h, h', id]
        cases options with
        | nil => exact .inl ⟨_, rfl, rfl⟩
        | cons option rest => exact .inl ⟨_, rfl, rfl⟩
      · simp only [h, h']
        exact .inr ⟨_, rfl, rfl⟩

theorem relabels_readSequence {entries : List Json}
    (h : ∀ entry ∈ entries,
      Relabels l l' (relabel l') (readInstruction l entry) (readInstruction l' entry)) :
    Relabels l l' (List.map (relabel l')) (readSequence l entries) (readSequence l' entries) := by
  induction entries with
  | nil =>
      rw [readSequence, readSequence]
      exact .inl ⟨_, rfl, rfl⟩
  | cons entry rest ih =>
      rw [readSequence, readSequence]
      obtain ⟨hentry, hrest⟩ := List.forall_mem_cons.mp h
      obtain ⟨i, hi, hi'⟩ | ⟨cause, hi, hi'⟩ := hentry
      · obtain ⟨others, hothers, hothers'⟩ | ⟨cause, hothers, hothers'⟩ := ih hrest
        · simp only [hi, hi', hothers, hothers']
          exact .inl ⟨_, rfl, rfl⟩
        · simp only [hi, hi', hothers, hothers']
          exact .inr ⟨_, rfl, rfl⟩
      · simp only [hi, hi']
        exact .inr ⟨_, rfl, rfl⟩

theorem relabels_readBranch {fields : List (String × Json)} {key : String}
    (h : ∀ written, Keyed.get? key fields = some written → ∀ entry ∈ written.asList,
      Relabels l l' (relabel l') (readInstruction l entry) (readInstruction l' entry)) :
    Relabels l l' (Option.map (List.map (relabel l'))) (readBranch l fields key)
      (readBranch l' fields key) := by
  unfold readBranch
  split
  · exact .inl ⟨_, rfl, rfl⟩
  · rename_i written hwritten
    obtain ⟨branch, hread, hread'⟩ | ⟨cause, hread, hread'⟩ :=
      relabels_readSequence l l' (h written hwritten)
    · simp only [hread, hread']
      exact .inl ⟨_, rfl, rfl⟩
    · simp only [hread, hread']
      exact .inr ⟨_, rfl, rfl⟩

/-- The location of an entry decides neither whether it is read nor what comes out: another one
labels the result, and a fault, with itself. -/
theorem relabels_readInstruction (entry : Json) :
    Relabels l l' (relabel l') (readInstruction l entry) (readInstruction l' entry) := by
  induction entry using Json.induction_under with
  | hstep tree ih =>
      cases tree with
      | text text =>
          rw [readInstruction, readInstruction]
          exact .inl ⟨_, rfl, rfl⟩
      | object fields =>
          have hbranch : ∀ key, Relabels l l' (Option.map (List.map (relabel l')))
              (readBranch l fields key) (readBranch l' fields key) := fun key =>
            relabels_readBranch l l' fun written hwritten entry hentry =>
              ih fields key written entry rfl hwritten hentry
          rw [readInstruction, readInstruction]
          cases firstWritten? ["actions", "action"] fields with
          | some written => exact .inl ⟨_, rfl, rfl⟩
          | none =>
              cases Keyed.get? "if" fields with
              | some condition =>
                  dsimp only
                  cases condition.scalarText? with
                  | none => exact .inr ⟨_, rfl, rfl⟩
                  | some text =>
                      obtain ⟨thenBranch, hthen, hthen'⟩ | ⟨cause, hthen, hthen'⟩ := hbranch "then"
                      · obtain ⟨elseBranch, helse, helse'⟩ | ⟨cause, helse, helse'⟩ :=
                          hbranch "else"
                        · refine .inl ⟨.conditional text (thenBranch.getD []) elseBranch l, ?_, ?_⟩
                          · simp only [hthen, helse]
                          · simp only [hthen', helse', Instruction.relabel,
                              Instruction.relabelBranch_eq_map, Instruction.relabelElse_eq_map]
                            cases thenBranch <;> rfl
                        · simp only [hthen, hthen', helse, helse']
                          exact .inr ⟨_, rfl, rfl⟩
                      · simp only [hthen, hthen']
                        exact .inr ⟨_, rfl, rfl⟩
              | none =>
                  cases firstWritten? ["goto", "jump"] fields with
                  | some target =>
                      dsimp only
                      cases target.scalarText? with
                      | none => exact .inr ⟨_, rfl, rfl⟩
                      | some text => exact .inl ⟨_, rfl, rfl⟩
                  | none =>
                      cases dialogueKeys.any (fun key => Keyed.contains key fields) with
                      | true => exact relabels_readDialogue l l' fields
                      | false => exact .inr ⟨_, rfl, rfl⟩
      | _ =>
          simp only [readInstruction]
          exact .inr ⟨_, rfl, rfl⟩

theorem location_of_readInstruction {location : Location} {entry : Json} {i j : Instruction}
    (h : readInstruction location entry = .ok i) (hj : i.Inside j) : j.location = location := by
  refine hj.location_eq ?_
  -- Read twice at the same location, the instruction is its own relabelling.
  obtain ⟨_, hi, hi'⟩ | ⟨cause, hi, -⟩ := relabels_readInstruction location location entry
  · obtain rfl := Except.ok.inj (hi.symm.trans h)
    exact Except.ok.inj (hi'.symm.trans h)
  · cases hi.symm.trans h

/-- The fault of an entry points at the location at which the entry is read. -/
theorem readInstruction_of_not_wellFormed (location : Location) {entry : Json}
    (h : ¬ WellFormed entry) :
    ∃ cause, readInstruction location entry = .error (.script cause location) := by
  obtain ⟨i, hi, -⟩ | ⟨cause, herror, -⟩ := relabels_readInstruction location location entry
  · exact absurd ((exists_readInstruction_iff location entry).mp ⟨i, hi⟩) h
  · exact ⟨cause, herror⟩

/-! ### Scenes -/

variable {file : String}

/-- The lines of a scene are counted from one entry to the next. -/
theorem readEntries_eq_ok {name : String} {line : Nat} {entries : List Json}
    {instructions : List Instruction} (h : readEntries file name line entries = .ok instructions) :
    instructions.length = entries.length ∧
      ∀ k entry i, entries[k]? = some entry → instructions[k]? = some i →
        readInstruction ⟨file, line + k, name⟩ entry = .ok i := by
  induction entries generalizing line instructions with
  | nil =>
      cases h
      exact ⟨rfl, fun k entry i hentry => by simp at hentry⟩
  | cons first rest ih =>
      rw [readEntries] at h
      split at h
      · cases h
      · rename_i instruction hfirst
        split at h
        · cases h
        · rename_i others hrest
          cases h
          obtain ⟨hlength, hothers⟩ := ih hrest
          refine ⟨by rw [List.length_cons, List.length_cons, hlength], ?_⟩
          intro k entry i hentry hi
          cases k with
          | zero =>
              obtain rfl : first = entry := by simpa using hentry
              obtain rfl : instruction = i := by simpa using hi
              exact hfirst
          | succ k =>
              have hnext := hothers k entry i (by simpa using hentry) (by simpa using hi)
              rwa [Nat.add_right_comm, Nat.add_assoc] at hnext

/-- Entries of the grammar are read, and what follows them is read as if on its own. -/
theorem readEntries_append {name : String} {line : Nat} {good : List Json}
    (hgood : ∀ entry ∈ good, WellFormed entry) :
    ∃ instructions, ∀ rest, readEntries file name line (good ++ rest) =
      (readEntries file name (line + good.length) rest).map (instructions ++ ·) := by
  induction good generalizing line with
  | nil =>
      refine ⟨[], fun rest => ?_⟩
      rw [List.nil_append, List.length_nil, Nat.add_zero]
      cases readEntries file name line rest <;> rfl
  | cons first good ih =>
      obtain ⟨hfirst, hgood⟩ := List.forall_mem_cons.mp hgood
      obtain ⟨i, hi⟩ := (exists_readInstruction_iff ⟨file, line, name⟩ first).mpr hfirst
      obtain ⟨instructions, h⟩ := @ih (line + 1) hgood
      refine ⟨i :: instructions, fun rest => ?_⟩
      have hline : line + (first :: good).length = line + 1 + good.length := by
        rw [List.length_cons]
        omega
      rw [List.cons_append, readEntries, hi, hline]
      simp only [h]
      cases readEntries file name (line + 1 + good.length) rest <;> rfl

/-- What is wrong with a scene: the line is that of its first entry that is none, and zero if it has
no entries at all. -/
inductive FailsAt : Json → Nat → Prop
  | body {body : Json} (hbody : ∀ entries, body ≠ .list entries) : FailsAt body 0
  | entry {good rest : List Json} {bad : Json} (hgood : ∀ entry ∈ good, WellFormed entry)
      (hbad : ¬ WellFormed bad) : FailsAt (.list (good ++ bad :: rest)) (good.length + 1)

theorem forall_or_first {α : Type} (P : α → Prop) (items : List α) :
    (∀ item ∈ items, P item) ∨ ∃ good bad rest, items = good ++ bad :: rest ∧
      (∀ item ∈ good, P item) ∧ ¬ P bad := by
  classical
  cases h : items.find? (fun item => !decide (P item)) with
  | none => exact .inl (by simpa using h)
  | some bad =>
      obtain ⟨hbad, good, rest, rfl, hgood⟩ := List.find?_eq_some_iff_append.mp h
      exact .inr ⟨good, bad, rest, rfl, by simpa using hgood, by simpa using hbad⟩

theorem wellFormedScene_or_failsAt (body : Json) :
    WellFormedScene body ∨ ∃ line, FailsAt body line := by
  cases body with
  | list entries =>
      obtain hall | ⟨good, bad, rest, rfl, hgood, hbad⟩ := forall_or_first WellFormed entries
      · exact .inl ⟨entries, rfl, hall⟩
      · exact .inr ⟨good.length + 1, .entry hgood hbad⟩
  | _ => exact .inr ⟨0, .body fun entries => by simp⟩

theorem exists_readScene (name : String) {body : Json} (h : WellFormedScene body) :
    ∃ scene, readScene file name body = .ok scene := by
  obtain ⟨entries, rfl, hentries⟩ := h
  obtain ⟨instructions, h⟩ := @readEntries_append file name 1 entries hentries
  have hread : readEntries file name 1 entries = .ok (instructions ++ []) := by
    rw [← List.append_nil entries, h []]
    rfl
  exact ⟨_, by rw [readScene, hread]⟩

theorem readScene_of_failsAt (name : String) {body : Json} {line : Nat} (h : FailsAt body line) :
    ∃ cause, readScene file name body = .error (.script cause ⟨file, line, name⟩) := by
  cases h with
  | body hbody =>
      cases body with
      | list entries => exact absurd rfl (hbody entries)
      | _ => exact ⟨_, rfl⟩
  | @entry good rest bad hgood hbad =>
      obtain ⟨cause, hcause⟩ :=
        readInstruction_of_not_wellFormed ⟨file, 1 + good.length, name⟩ hbad
      obtain ⟨instructions, h⟩ := @readEntries_append file name 1 good hgood
      refine ⟨cause, ?_⟩
      rw [readScene, h (bad :: rest), readEntries, hcause, Nat.add_comm]
      rfl

structure SceneOf (file : String) (field : String × Json) (scene : Scene) : Prop where
  name : scene.name = field.1
  body : ∃ entries, field.2 = .list entries ∧ scene.instructions.length = entries.length ∧
    ∀ k entry i, entries[k]? = some entry → scene.instructions[k]? = some i →
      readInstruction ⟨file, k + 1, scene.name⟩ entry = .ok i ∧
        ∀ j, i.Inside j → j.location = ⟨file, k + 1, scene.name⟩

theorem sceneOf_readScene {name : String} {body : Json} {scene : Scene}
    (h : readScene file name body = .ok scene) : SceneOf file (name, body) scene := by
  cases body with
  | list entries =>
      rw [readScene] at h
      split at h
      · cases h
      · rename_i instructions hread
        cases h
        obtain ⟨hlength, hentries⟩ := readEntries_eq_ok hread
        refine ⟨rfl, entries, rfl, hlength, fun k entry i hentry hi => ?_⟩
        have hread := hentries k entry i hentry hi
        rw [Nat.add_comm] at hread
        exact ⟨hread, fun j => location_of_readInstruction hread⟩
  | _ => cases h

/-! ### Documents -/

theorem readFields_eq_ok {fields : List (String × Json)} {scenes : List Scene}
    (h : readFields file fields = .ok scenes) : List.Forall₂ (SceneOf file) fields scenes := by
  induction fields generalizing scenes with
  | nil =>
      cases h
      exact .nil
  | cons field rest ih =>
      rw [readFields] at h
      split at h
      · cases h
      · rename_i scene hscene
        split at h
        · cases h
        · rename_i others hrest
          cases h
          exact .cons (sceneOf_readScene hscene) (ih hrest)

theorem readFields_append {before : List (String × Json)}
    (hbefore : ∀ field ∈ before, WellFormedScene field.2) :
    ∃ scenes, ∀ after, readFields file (before ++ after) =
      (readFields file after).map (scenes ++ ·) := by
  induction before with
  | nil =>
      refine ⟨[], fun after => ?_⟩
      rw [List.nil_append]
      cases readFields file after <;> rfl
  | cons field before ih =>
      obtain ⟨hfield, hbefore⟩ := List.forall_mem_cons.mp hbefore
      obtain ⟨scene, hscene⟩ := @exists_readScene file field.1 field.2 hfield
      obtain ⟨scenes, h⟩ := ih hbefore
      refine ⟨scene :: scenes, fun after => ?_⟩
      rw [List.cons_append, readFields, hscene]
      simp only [h]
      cases readFields file after <;> rfl

inductive Blames (file : String) : Json → Location → Prop
  | document {document : Json} (h : ∀ fields, document ≠ .object fields) :
      Blames file document ⟨file, 0, ""⟩
  | scene {before after : List (String × Json)} {name : String} {body : Json} {line : Nat}
      (hbefore : ∀ field ∈ before, WellFormedScene field.2) (hscene : FailsAt body line) :
      Blames file (.object (before ++ (name, body) :: after)) ⟨file, line, name⟩

theorem readScenes_of_blames {document : Json} {location : Location}
    (h : Blames file document location) :
    ∃ cause, readScenes file document = .error (.script cause location) := by
  cases h with
  | document h =>
      cases document with
      | object fields => exact absurd rfl (h fields)
      | _ => exact ⟨_, rfl⟩
  | @scene before after name body line hbefore hscene =>
      obtain ⟨cause, hcause⟩ := @readScene_of_failsAt file name body line hscene
      obtain ⟨scenes, h⟩ := @readFields_append file before hbefore
      refine ⟨cause, ?_⟩
      rw [readScenes, h, readFields, hcause]
      rfl

/-- A document is a script, or there is a place at which it stops being one. -/
theorem exists_readScenes_or_blames (file : String) (document : Json) :
    (∃ scenes, readScenes file document = .ok scenes) ∨
      ∃ location, Blames file document location := by
  cases document with
  | object fields =>
      obtain hall | ⟨before, ⟨name, body⟩, after, rfl, hbefore, hbad⟩ :=
        forall_or_first (fun field : String × Json => WellFormedScene field.2) fields
      · obtain ⟨scenes, h⟩ := @readFields_append file fields hall
        refine .inl ⟨scenes ++ [], ?_⟩
        rw [readScenes, ← List.append_nil fields, h []]
        rfl
      · obtain ⟨line, hline⟩ := (wellFormedScene_or_failsAt body).resolve_left hbad
        exact .inr ⟨⟨file, line, name⟩, .scene hbefore hline⟩
  | _ => exact .inr ⟨⟨file, 0, ""⟩, .document fun fields => by simp⟩

/-- Everything that is read from an entry, and every fault, has the location of the entry; and the
location decides nothing but that. -/
theorem readScenes_locations (file : String) (document : Json) :
    (∀ scenes, readScenes file document = .ok scenes →
      ∃ fields, document = .object fields ∧ List.Forall₂ (SceneOf file) fields scenes) ∧
    (∀ fault, readScenes file document = .error fault →
      ∃ cause location, fault = .script cause location ∧ Blames file document location) ∧
    (∀ location, Blames file document location →
      ∃ cause, readScenes file document = .error (.script cause location)) ∧
    ∀ l l' entry,
      Relabels l l' (relabel l') (readInstruction l entry) (readInstruction l' entry) := by
  refine ⟨?_, ?_, fun location => readScenes_of_blames, relabels_readInstruction⟩
  · intro scenes h
    cases document with
    | object fields => exact ⟨fields, rfl, readFields_eq_ok h⟩
    | _ => cases h
  · intro fault h
    obtain ⟨scenes, hscenes⟩ | ⟨location, hblames⟩ := exists_readScenes_or_blames file document
    · cases hscenes.symm.trans h
    · obtain ⟨cause, hcause⟩ := readScenes_of_blames hblames
      exact ⟨cause, location, Except.error.inj (h.symm.trans hcause), hblames⟩

/-- The second entry of the second scene is a conditional, and deep in its branch a choice is a
number. -/
theorem readScenes_locations_deep :
    ∃ cause, readScenes "forest" (.object [("gate", .list [.text "Closed."]),
      ("glade", .list [.text "Light.", .object [("if", .bool true), ("else", .list [.text "Dark.",
        .object [("if", .text "lost"), ("then", .object [("choices", .list [.text "Wait",
          .number (.int 3)])])]])], .null])]) = .error (.script cause ⟨"forest", 2, "glade"⟩) := by
  have hbad : ¬ WellFormed (.object [("if", .bool true), ("else", .list [.text "Dark.",
      .object [("if", .text "lost"), ("then", .object [("choices", .list [.text "Wait",
        .number (.int 3)])])]])]) := by
    intro h
    obtain ⟨i, hi⟩ := (exists_readInstruction_iff ⟨"forest", 2, "glade"⟩ _).mpr h
    simp [readInstruction, readBranch, readSequence, firstWritten?, Keyed.get?, Json.asList,
      Json.scalarText?, dialogueKeys, readDialogue, readChoices, readChoice, firstPresent?,
      present?, Json.isNull, Keyed.contains, Option.filter_some] at hi
  refine (readScenes_locations "forest" _).2.2.1 ⟨"forest", 2, "glade"⟩ ?_
  refine @Blames.scene "forest" [("gate", .list [.text "Closed."])] [] "glade" _ _ ?_
    (@FailsAt.entry [.text "Light."] [.null] _ ?_ hbad)
  · simp only [List.mem_singleton, forall_eq]
    exact ⟨_, rfl, by simpa using .line "Closed."⟩
  · simpa using .line "Light."

end Script

end BranchingStory
