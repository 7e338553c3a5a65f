import BranchingStory.Console.SavedGame

/-!
Playing by single commands. Each command plays on to the next choices or to the end, and reports
what was shown on the way; at choices the game is saved for the command that answers them.
-/

namespace BranchingStory.Console

/-- A line of dialogue with its speaker, if there is one. -/
def lineText (speaker : Option String) (content : String) : String :=
  match speaker with
  | some name => if name = "" then content else name ++ ": " ++ content
  | none => content

/-- Where play comes to rest: the lines on the way, and the choices with the line before them, or
nothing at the end. -/
structure Boundary where
  lines : List String
  question : Option (String × List PresentedChoice)

namespace Boundary

/-- How many lines may come before choices or the end. -/
def maxLines : Nat := 10000

/-- Plays on from a step to choices or to the end, through at most `n` steps. -/
def reach : Nat → Step → Session → Except Failure (Boundary × Session)
  | 0, _, _ => .error (.console (.tooManyLines maxLines))
  | n + 1, step, session =>
    match step with
    | .dialogue content speaker _ =>
      let (next, session) := session.proceed
      match reach n next session with
      | .error failure => .error failure
      | .ok (b, session) => .ok ({ b with lines := lineText speaker content :: b.lines }, session)
    | .choices content speaker choices =>
      .ok (⟨[], some (lineText speaker content, choices)⟩, session)
    | .sceneComplete => .ok (⟨[], none⟩, session)
    | .fault cause => .error (.step cause)

/-- The lines that report a boundary, with the file of the saved game, if there is one. -/
def report (b : Boundary) (stateFile : Option String) : String :=
  let event := match b.question with
    | some _ => "EVENT:CHOICES\n"
    | none => "EVENT:END\n"
  let shown := b.lines.map fun line => "TEXT_JSON:" ++ Json.quote line ++ "\n"
  let asked := match b.question with
    | some (prompt, choices) =>
      ("PROMPT_JSON:" ++ Json.quote prompt ++ "\n") ::
        choices.map fun c => "CHOICE:" ++ toString c.index ++ "|" ++ Json.quote c.text ++ "\n"
    | none => []
  "RESULT:OK\n" ++ event ++ String.join shown ++ String.join asked ++
    "STATE_OUT:" ++ stateFile.getD "NONE" ++ "\n"

end Boundary

namespace Agent

variable {m : Type → Type} [Monad m] [Access m]

/-- Plays on from a step, saves the game at choices, and gives the report. -/
def finish (s : Scenario) (stateOut : String) (step : Step) (session : Session) :
    m (Except Failure String) :=
  match Boundary.reach Boundary.maxLines step session with
  | .error failure => return .error failure
  | .ok (b, session) =>
    match b.question with
    | none => return .ok (b.report none)
    | some _ => do
      match ← SavedGame.save stateOut s session with
      | .error failure => return .error failure
      | .ok () => return .ok (b.report (some stateOut))

/-- Begins a game. -/
def start (scripts entryScene stateOut : String) : m (Except Failure String) := do
  match ← Scenario.load scripts entryScene with
  | .error failure => return .error failure
  | .ok s =>
    match s.session with
    | .error failure => return .error failure
    | .ok session =>
      let (step, session) := session.start s.entryScene
      finish s stateOut step session

/-- Answers the choices of a saved game. -/
def choose (stateIn : String) (index : Nat) (stateOut : String) : m (Except Failure String) := do
  match ← SavedGame.load stateIn with
  | .error failure => return .error failure
  | .ok g =>
    match ← Scenario.loadById g.scenarioId g.entryScene with
    | .error failure => return .error failure
    | .ok s =>
      match s.resume g with
      | .error failure => return .error failure
      | .ok session =>
        match resumeAtChoice session with
        | .error failure => return .error failure
        | .ok (_, session) => do
          let (step, session) := session.choose (← Access.now) index
          finish s stateOut step session

end Agent

end BranchingStory.Console
