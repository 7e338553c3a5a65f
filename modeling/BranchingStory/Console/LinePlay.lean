import BranchingStory.Console.Agent

/-!
Playing line by line: dialogue is printed as it comes, and at choices the player types an index or
one of the commands that save, load, start again or stop.
-/

namespace BranchingStory.Console

/-- A game that is played line by line. -/
structure LinePlay where
  scenario : Scenario
  stateFile : String
  session : Session

/-- What comes next: a step to show, a question to the player, the end, or a failure. -/
inductive LinePlay.Next where
  | display (step : Step)
  | ask
  | finish
  | fail (failure : Failure)

namespace LinePlay

/-- The file of the saved game where none is named. -/
def defaultStateFile : String := ".narrative/save.json"

def commandsLine : String := "commands: :help :save :load :restart :quit"

/-- What is printed before the first step. -/
def banner (s : Scenario) : String :=
  "Narrative Player - " ++ s.title ++ "\n" ++ commandsLine ++ "\n"

/-- What is printed before the player is asked. -/
def promptMark : String := "> "

/-- How a step is printed. -/
def stepText : Step → String
  | .dialogue content speaker _ => "\n" ++ lineText speaker content ++ "\n"
  | .choices content speaker choices =>
    "\n" ++ lineText speaker content ++ "\n" ++
      String.join (choices.map fun c => "  [" ++ toString c.index ++ "] " ++ c.text ++ "\n")
  | .sceneComplete => "\n[END]\n"
  | .fault _ => ""

/-- What follows a step that was shown. -/
def afterStep (p : LinePlay) : Step → Next × LinePlay
  | .dialogue _ _ _ =>
    let (step, session) := p.session.proceed
    (.display step, { p with session })
  | .choices _ _ _ => (.ask, p)
  | .sceneComplete => (.finish, p)
  | .fault cause => (.fail (.step cause), p)

/-- What a line that is no command means: the index of a choice. -/
def answer (p : LinePlay) (now raw : String) : Next × LinePlay :=
  match Decimal.index? (Text.trim raw) with
  | none => (.fail (.console (.notAnIndex raw)), p)
  | some index =>
    let (step, session) := p.session.choose now index
    (.display step, { p with session })

/-- The game from its beginning. -/
def restart (p : LinePlay) : Except Failure (Step × LinePlay) :=
  match p.scenario.session with
  | .error failure => .error failure
  | .ok session =>
    let (step, session) := session.start p.scenario.entryScene
    .ok (step, { p with session })

/-- The game as it was saved, which must be one of the same scenario. -/
def takeUp (p : LinePlay) (g : SavedGame) : Except Failure (Step × LinePlay) :=
  if g.scenarioId = p.scenario.id then
    match p.scenario.resume g with
    | .error failure => .error failure
    | .ok session =>
      match resumeAtChoice session with
      | .error failure => .error failure
      | .ok (step, session) => .ok (step, { p with session })
  else .error (.console (.otherScenario p.scenario.id g.scenarioId))

variable {m : Type → Type} [Monad m] [Access m]

/-- Acts on a line that the player typed. -/
def respond (p : LinePlay) (raw : String) : m (Next × LinePlay) :=
  match Text.trim raw with
  | ":help" => do
    Access.print (commandsLine ++ "\n")
    return (.ask, p)
  | ":save" => do
    match ← SavedGame.save p.stateFile p.scenario p.session with
    | .error failure => return (.fail failure, p)
    | .ok () =>
      Access.print ("saved: " ++ p.stateFile ++ "\n")
      return (.ask, p)
  | ":load" => do
    match (← SavedGame.load p.stateFile) >>= p.takeUp with
    | .error failure => return (.fail failure, p)
    | .ok (step, p) =>
      Access.print ("loaded: " ++ p.stateFile ++ "\n")
      return (.display step, p)
  | ":restart" =>
    match p.restart with
    | .error failure => return (.fail failure, p)
    | .ok (step, p) => do
      Access.print "restarted\n"
      return (.display step, p)
  | ":quit" => do
    Access.print "bye\n"
    return (.finish, p)
  | _ => do return p.answer (← Access.now) raw

/-- One turn of the game. -/
def turn (p : LinePlay) : Next → m (Next × LinePlay)
  | .display step => do
    Access.print (stepText step)
    return p.afterStep step
  | .ask => do
    Access.print promptMark
    match ← Access.readLine with
    | .closed => return (.finish, p)
    | .unreadable => return (.fail (.console .inputUnreadable), p)
    | .line raw => p.respond raw
  | .finish => return (.finish, p)
  | .fail failure => return (.fail failure, p)

/-- Plays on to the end, through at most `n` turns; nothing is given where they do not suffice. -/
def run : Nat → LinePlay → Next → m (Option (Except Failure Unit))
  | _, _, .finish => return some (.ok ())
  | _, _, .fail failure => return some (.error failure)
  | 0, _, _ => return none
  | n + 1, p, next => do
    let (next, p) ← p.turn next
    run n p next

/-- Plays a scenario. The scene in which to begin must be there. -/
def play (n : Nat) (scripts entryScene stateFile : String) : m (Option (Except Failure Unit)) := do
  match ← Scenario.load scripts entryScene with
  | .error failure => return some (.error failure)
  | .ok scenario =>
    match scenario.session with
    | .error failure => return some (.error failure)
    | .ok session =>
      if session.engine.hasScene entryScene then
        Access.print (banner scenario)
        let (step, session) := session.start entryScene
        run n { scenario, stateFile, session } (.display step)
      else return some (.error (.fault (.engine (.sceneNotFound entryScene))))

end LinePlay

end BranchingStory.Console
