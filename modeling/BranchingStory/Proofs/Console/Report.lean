import BranchingStory.Console.LinePlay
import BranchingStory.Proofs.Json.RoundTrip
import Mathlib.Data.List.Forall2

/-!
What is shown and how it is told, said without the functions that write it. Play goes on through
lines of dialogue and comes to rest at choices, at the end or at a fault. A report tells this on
lines with headings, and its texts stand in quotes from which they are read back. A transcript shows
lines and choices as they are.
-/

namespace BranchingStory.Console

/-! ### Lines and quotes -/

/-- How a line is shown: the name of the speaker, if there is one, comes before what is said. -/
inductive Spoken : Option String → String → String → Prop
  | nobody (content : String) : Spoken none content content
  | nameless (content : String) : Spoken (some "") content content
  | named {name : String} (hname : name ≠ "") (content : String) :
      Spoken (some name) content (name ++ ": " ++ content)

theorem spoken_lineText (speaker : Option String) (content : String) :
    Spoken speaker content (lineText speaker content) := by
  cases speaker with
  | none => exact .nobody content
  | some name =>
      by_cases hname : name = ""
      · subst hname
        exact .nameless content
      · rw [lineText, if_neg hname]
        exact .named hname content

structure Quotes (text quoted : String) : Prop where
  readBack : Json.scan quoted = .ok (.text text)
  oneLine : '\n' ∉ quoted.toList

theorem newLine_notMem_escapeChar (c : Char) : '\n' ∉ Json.escapeChar c := by
  have hdigit : ∀ n < 16, '\n' ≠ Nat.digitChar n := by decide
  unfold Json.escapeChar
  split_ifs with _ _ hplain
  · decide
  · decide
  · rw [List.mem_singleton]
    rintro rfl
    revert hplain
    decide
  · decide
  · decide
  · decide
  · decide
  · decide
  · have hhigh := hdigit (c.toNat / 16) (by omega)
    have hlow := hdigit (c.toNat % 16) (Nat.mod_lt _ (by decide))
    simp [hhigh, hlow]

theorem quotes_quote (text : String) : Quotes text (Json.quote text) where
  readBack := Json.scan_pretty (t := .text text) rfl
  oneLine := by
    simp [Json.quote, newLine_notMem_escapeChar]

/-! ### The lines of a report -/

def onLines (lines : List String) : String := String.join (lines.map (· ++ "\n"))

inductive TellsText (heading : String) : Option String × String → String → Prop
  | mk {speaker : Option String} {content shown quoted : String}
      (hspoken : Spoken speaker content shown) (hquotes : Quotes shown quoted) :
      TellsText heading (speaker, content) (heading ++ quoted)

inductive TellsChoice : PresentedChoice → String → Prop
  | mk {c : PresentedChoice} {quoted : String} (hquotes : Quotes c.text quoted) :
      TellsChoice c ("CHOICE:" ++ toString c.index ++ "|" ++ quoted)

inductive TellsFault (code message : String) : List String → Prop
  | mk {quoted : String} (hquotes : Quotes message quoted) :
      TellsFault code message
        ["RESULT:ERROR", "ERROR_CODE:" ++ code, "ERROR_MSG_JSON:" ++ quoted]

theorem onLines_nil : onLines [] = "" := rfl

theorem onLines_cons (line : String) (lines : List String) :
    onLines (line :: lines) = line ++ "\n" ++ onLines lines := by
  simp [onLines]

theorem onLines_append (lines more : List String) :
    onLines (lines ++ more) = onLines lines ++ onLines more := by
  simp [onLines]

theorem exists_texts (heading : String) (lines : List (Option String × String)) :
    ∃ shown, List.Forall₂ (TellsText heading) lines shown ∧
      onLines shown = String.join (lines.map fun line =>
        heading ++ Json.quote (lineText line.1 line.2) ++ "\n") := by
  refine ⟨lines.map fun line => heading ++ Json.quote (lineText line.1 line.2), ?_, ?_⟩
  · rw [List.forall₂_map_right_iff, List.forall₂_same]
    exact fun line _ => .mk (spoken_lineText line.1 line.2) (quotes_quote _)
  · rw [onLines, List.map_map]
    rfl

theorem exists_options (choices : List PresentedChoice) :
    ∃ options, List.Forall₂ TellsChoice choices options ∧
      onLines options = String.join (choices.map fun c =>
        "CHOICE:" ++ toString c.index ++ "|" ++ Json.quote c.text ++ "\n") := by
  refine ⟨choices.map fun c => "CHOICE:" ++ toString c.index ++ "|" ++ Json.quote c.text, ?_, ?_⟩
  · rw [List.forall₂_map_right_iff, List.forall₂_same]
    exact fun c _ => .mk (quotes_quote c.text)
  · rw [onLines, List.map_map]
    rfl

theorem exists_report_ended (lines : List (Option String × String)) :
    ∃ shown, List.Forall₂ (TellsText "TEXT_JSON:") lines shown ∧
      Boundary.report ⟨lines.map fun line => lineText line.1 line.2, none⟩ none =
        onLines (["RESULT:OK", "EVENT:END"] ++ shown ++ ["STATE_OUT:NONE"]) := by
  obtain ⟨shown, htexts, hshown⟩ := exists_texts "TEXT_JSON:" lines
  refine ⟨shown, htexts, ?_⟩
  have hresult : "RESULT:OK\n" = "RESULT:OK" ++ "\n" := by decide
  have hevent : "EVENT:END\n" = "EVENT:END" ++ "\n" := by decide
  have hstate : "STATE_OUT:NONE" = "STATE_OUT:" ++ "NONE" := by decide
  unfold Boundary.report
  rw [onLines_append, onLines_append, hshown, hresult, hevent, hstate]
  simp only [onLines_cons, onLines_nil, List.map_map, Function.comp_def, Option.getD_none,
    String.join_nil, String.append_assoc, String.append_empty]

theorem exists_report_asked (lines : List (Option String × String)) (content : String)
    (speaker : Option String) (choices : List PresentedChoice) (file : String) :
    ∃ shown prompt options, List.Forall₂ (TellsText "TEXT_JSON:") lines shown ∧
      TellsText "PROMPT_JSON:" (speaker, content) prompt ∧
      List.Forall₂ TellsChoice choices options ∧
      Boundary.report ⟨lines.map fun line => lineText line.1 line.2,
          some (lineText speaker content, choices)⟩ (some file) =
        onLines (["RESULT:OK", "EVENT:CHOICES"] ++ shown ++ prompt :: options ++
          ["STATE_OUT:" ++ file]) := by
  obtain ⟨shown, htexts, hshown⟩ := exists_texts "TEXT_JSON:" lines
  obtain ⟨options, hchoices, hoptions⟩ := exists_options choices
  refine ⟨shown, _, options, htexts, .mk (spoken_lineText speaker content) (quotes_quote _),
    hchoices, ?_⟩
  have hresult : "RESULT:OK\n" = "RESULT:OK" ++ "\n" := by decide
  have hevent : "EVENT:CHOICES\n" = "EVENT:CHOICES" ++ "\n" := by decide
  unfold Boundary.report
  rw [onLines_append, onLines_append, onLines_append, onLines_cons _ options, hshown, hoptions]
  simp only [hresult, hevent, onLines_cons, onLines_nil, List.map_map, Function.comp_def,
    Option.getD_some, String.join_cons, String.append_assoc, String.append_empty]

theorem Failure.exists_report (failure : Failure) :
    ∃ lines, TellsFault failure.code failure.message lines ∧ failure.report = onLines lines := by
  refine ⟨_, .mk (quotes_quote failure.message), ?_⟩
  have hresult : "RESULT:ERROR\n" = "RESULT:ERROR" ++ "\n" := by decide
  unfold Failure.report
  rw [hresult]
  simp only [onLines_cons, onLines_nil, String.append_assoc, String.append_empty]

/-! ### Choices in a transcript -/

/-- An empty line, the line before the choices, and each choice with its index. -/
inductive Listed : Step → String → Prop
  | mk {content line : String} {speaker : Option String} {choices : List PresentedChoice}
      (hspoken : Spoken speaker content line) :
      Listed (.choices content speaker choices) ("\n" ++ line ++ "\n" ++
        String.join (choices.map fun c => "  [" ++ toString c.index ++ "] " ++ c.text ++ "\n"))

theorem listed_stepText (content : String) (speaker : Option String)
    (choices : List PresentedChoice) :
    Listed (.choices content speaker choices)
      (LinePlay.stepText (.choices content speaker choices)) :=
  .mk (spoken_lineText speaker content)

/-! ### Going on -/

structure Stretch where
  lines : List (Option String × String)
  last : Step
  session : Session

/-- Goes on through lines, but through `n` of them at most. -/
def goOn : Nat → Step → Session → Stretch
  | n + 1, .dialogue content speaker _, session =>
    let rest := goOn n session.proceed.1 session.proceed.2
    { rest with lines := (speaker, content) :: rest.lines }
  | _, step, session => ⟨[], step, session⟩

inductive Rests (limit : Nat) : Stretch → Except Failure (Boundary × Session) → Prop
  | asked {lines : List (Option String × String)} {content : String} {speaker : Option String}
      {choices : List PresentedChoice} {session : Session} (hlines : lines.length < limit) :
      Rests limit ⟨lines, .choices content speaker choices, session⟩
        (.ok (⟨lines.map fun line => lineText line.1 line.2,
          some (lineText speaker content, choices)⟩, session))
  | ended {lines : List (Option String × String)} {session : Session}
      (hlines : lines.length < limit) :
      Rests limit ⟨lines, .sceneComplete, session⟩
        (.ok (⟨lines.map fun line => lineText line.1 line.2, none⟩, session))
  | failed {lines : List (Option String × String)} {cause : Fault} {session : Session}
      (hlines : lines.length < limit) :
      Rests limit ⟨lines, .fault cause, session⟩ (.error (.step cause))
  | endless {lines : List (Option String × String)} {last : Step} {session : Session}
      (hlines : lines.length = limit) :
      Rests limit ⟨lines, last, session⟩ (.error (.console (.tooManyLines Boundary.maxLines)))

theorem reach_dialogue (n : Nat) (content : String) (speaker : Option String)
    (canContinue : Bool) (s : Session) :
    Boundary.reach (n + 1) (.dialogue content speaker canContinue) s =
      match Boundary.reach n s.proceed.1 s.proceed.2 with
      | .error failure => .error failure
      | .ok (b, s) => .ok ({ b with lines := lineText speaker content :: b.lines }, s) := rfl

theorem rests_reach (n : Nat) (step : Step) (session : Session) :
    Rests n (goOn n step session) (Boundary.reach n step session) := by
  induction n generalizing step session with
  | zero => exact .endless rfl
  | succ n ih =>
      cases step with
      | dialogue content speaker canContinue =>
          have hrest := ih session.proceed.1 session.proceed.2
          rw [goOn, reach_dialogue]
          generalize goOn n session.proceed.1 session.proceed.2 = rest at hrest ⊢
          generalize Boundary.reach n session.proceed.1 session.proceed.2 = outcome at hrest ⊢
          cases hrest with
          | asked hlines =>
              refine .asked ?_
              exact Nat.succ_lt_succ hlines
          | ended hlines =>
              refine .ended ?_
              exact Nat.succ_lt_succ hlines
          | failed hlines =>
              refine .failed ?_
              exact Nat.succ_lt_succ hlines
          | endless hlines =>
              refine .endless ?_
              exact congrArg Nat.succ hlines
      | choices content speaker choices => exact .asked n.succ_pos
      | sceneComplete => exact .ended n.succ_pos
      | fault cause => exact .failed n.succ_pos

end BranchingStory.Console
