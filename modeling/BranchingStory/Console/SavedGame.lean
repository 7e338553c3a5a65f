import BranchingStory.Console.Scenario

/-!
Saved games of the console: a save together with the scenario that it belongs to.
-/

namespace BranchingStory.Console

/-- A save and its scenario. -/
structure SavedGame where
  schema : String
  scenarioId : String
  entryScene : String
  game : Save

namespace SavedGame

/-- The version of the format. -/
def currentSchema : String := "player-state.v1"

def encode (g : SavedGame) : Json :=
  .object [("schemaVersion", .text g.schema), ("scenarioId", .text g.scenarioId),
    ("entryScene", .text g.entryScene), ("gameState", g.game.encode)]

def decode? (tree : Json) : Option SavedGame := do
  let r ← Json.Record.of? ["schemaVersion", "scenarioId", "entryScene", "gameState"] tree
  return {
    schema := ← r.required 0 "schemaVersion" Json.text?
    scenarioId := ← r.required 1 "scenarioId" Json.text?
    entryScene := ← r.required 2 "entryScene" Json.text?
    game := ← r.required 3 "gameState" Save.decode? }

/-- The game of a session of a scenario at a time. -/
def ofSession (s : Scenario) (session : Session) (now : String) : SavedGame :=
  { schema := currentSchema
    scenarioId := s.id
    entryScene := s.entryScene
    game := session.save now }

/-- The text of a saved game. -/
def toText (g : SavedGame) : String := g.encode.pretty

/-- The saved game in a text. -/
def ofText (text : String) : Except Failure SavedGame :=
  match Json.scan text with
  | .error _ => .error (.console .stateInvalid)
  | .ok tree =>
    match decode? tree with
    | none => .error (.console .stateInvalid)
    | some g =>
      if g.schema = currentSchema then .ok g else .error (.console (.stateSchema g.schema))

/-- The saved game of what stands at a path. -/
def ofFound (path : String) : Found → Except Failure SavedGame
  | .nothing => .error (.console (.stateNotFound path))
  | .folder _ => .error (.console .stateUnreadable)
  | .file none => .error (.console .stateUnreadable)
  | .file (some text) => ofText text

variable {m : Type → Type} [Monad m] [Access m]

/-- Loads the saved game at a path. -/
def load (path : String) : m (Except Failure SavedGame) := do
  return ofFound path (← Access.find (fun _ => false) path)

/-- Saves the game of a session. -/
def save (path : String) (s : Scenario) (session : Session) : m (Except Failure Unit) := do
  let game := ofSession s session (← Access.now)
  if ← Access.write path game.toText then return .ok ()
  else return .error (.console .stateUnwritable)

end SavedGame

/-- A session of a scenario with a saved game taken up. -/
def Scenario.resume (s : Scenario) (g : SavedGame) : Except Failure Session :=
  match s.session with
  | .error failure => .error failure
  | .ok session => .ok (session.load g.game)

/-- Goes on to the choices at which a game was saved. -/
def resumeAtChoice (session : Session) : Except Failure (Step × Session) :=
  match session.proceed with
  | (.choices content speaker choices, session) => .ok (.choices content speaker choices, session)
  | (.fault cause, _) => .error (.step cause)
  | (step, _) => .error (.console (.stateWithoutChoice step.kind))

end BranchingStory.Console
