import BranchingStory.Engine.Run
import BranchingStory.Script.Source

/-!
A session is what a host works with: an engine whose scripts and saves are given as texts. A failed
load changes nothing but the last fault, which the host can ask for.
-/

namespace BranchingStory

/-- An engine and the fault of the last load that failed. -/
structure Session where
  engine : Engine := {}
  lastFault : Option Fault := none

namespace Session

instance : Inhabited Session := ⟨{}⟩

/-- A new session without scenes. -/
def new (assets : List Asset) (helpers : Template.Registry) (initial : Option Save) : Session :=
  { engine := Engine.new [] assets helpers initial }

/-- Takes up scenes that were read, or keeps the fault. -/
def install (s : Session) : Except Fault (List Scene) → Bool × Session
  | .ok scenes => (true, { engine := s.engine.setScenes scenes, lastFault := none })
  | .error fault => (false, { s with lastFault := some fault })

def loadScript (s : Session) (file text : String) : Bool × Session :=
  s.install (Script.readSource file text)

def loadScripts (s : Session) (sources : List (String × String)) : Bool × Session :=
  s.install (Script.readSources sources)

def clearFault (s : Session) : Session := { s with lastFault := none }

/-- Applies a function of the engine that gives a step. -/
def onEngine {α : Type} (s : Session) (f : Engine → α × Engine) : α × Session :=
  let (result, engine) := f s.engine
  (result, { s with engine })

def start (s : Session) (scene : String) : Step × Session := s.onEngine (·.start scene)

def proceed (s : Session) : Step × Session := s.onEngine Engine.proceed

def choose (s : Session) (now : String) (index : Nat) : Step × Session :=
  s.onEngine (·.choose now index)

def save (s : Session) (now : String) : Save := s.engine.save now

/-- The saved game as text. -/
def saveText (s : Session) (now : String) : String := (s.save now).encode.pretty

/-- Takes up a saved game. -/
def load (s : Session) (saved : Save) : Session := { s with engine := s.engine.restore saved }

/-- Takes up a saved game from text. Only a text that is no data tree fails; anything else that is
wrong counts as empty. -/
def loadText (s : Session) (now text : String) : Bool × Session :=
  match Json.parse text with
  | .error _ => (false, { s with lastFault := some .stateNotJson })
  | .ok tree => (true, s.load (Save.recover now tree))

def reset (s : Session) : Session := { s with engine := s.engine.reset }

end Session

end BranchingStory
