import BranchingStory.Engine.Step
import BranchingStory.GameState.Action
import BranchingStory.GameState.Save
import BranchingStory.Template.Render

/-!
The engine of a story: its scenes, the state of the game, and the place where the story stands. The
place is a position in the current scene and, inside branches of conditionals, one frame for every
open branch.
-/

namespace BranchingStory

/-- What the engine is doing. -/
inductive Status where
  | idle
  | sceneActive
  | awaitingChoice
  | sceneComplete
  | error
  deriving Repr, DecidableEq

def Status.name : Status → String
  | .idle => "idle"
  | .sceneActive => "scene_active"
  | .awaitingChoice => "awaiting_choice"
  | .sceneComplete => "scene_complete"
  | .error => "error"

/-- An open branch of a conditional: its instructions, the next one of them, where the conditional
stands in the enclosing sequence, and which branch it is. -/
structure Frame where
  instructions : List Instruction
  index : Nat
  conditionalIndex : Nat
  elseBranch : Bool

namespace Frame

def cursor (f : Frame) : BranchCursor :=
  { conditionalIndex := f.conditionalIndex, elseBranch := f.elseBranch, index := f.index }

/-- Whether no instruction is left in the branch. -/
def finished (f : Frame) : Bool := decide (f.instructions.length ≤ f.index)

def advance (f : Frame) : Frame := { f with index := f.index + 1 }

end Frame

/-- Choices that wait for an answer: what was shown, the options behind it, and how they were
shown. -/
structure Pending where
  content : String
  speaker : Option String
  options : List ChoiceOption
  presented : List PresentedChoice

def Pending.step (p : Pending) : Step := .choices p.content p.speaker p.presented

/-- The engine of a story. Scenes stand in the order of their names' first definitions, open
branches innermost first. Cursors of a save whose scene is not loaded are held until it is. -/
structure Engine where
  scenes : List (String × List Instruction) := []
  assets : List Asset := []
  helpers : Template.Registry := Template.Standard.registry
  state : GameState := {}
  frames : List Frame := []
  held : List BranchCursor := []
  pending : Option Pending := none
  status : Status := .idle

namespace Engine

instance : Inhabited Engine := ⟨{}⟩

/-! ### Views -/

def sceneNames (e : Engine) : List String := Keyed.keys e.scenes

def hasScene (e : Engine) (name : String) : Bool := Keyed.contains name e.scenes

/-- The instructions of the current scene. -/
def sceneBody (e : Engine) : Except EngineFault (List Instruction) :=
  match e.state.scene with
  | none => .error .noActiveScene
  | some name =>
    match Keyed.get? name e.scenes with
    | none => .error (.sceneNotFound name)
    | some body => .ok body

/-- Whether an instruction is left in an open branch or in the scene. -/
def canContinue (e : Engine) : Bool :=
  e.frames.any (fun f => !f.finished) ||
    match e.sceneBody with
    | .ok body => decide (e.state.index < body.length)
    | .error _ => false

/-- What templates can see. -/
def context (e : Engine) : Template.Context := ⟨e.state, e.assets⟩

def render (e : Engine) (template : String) : Except Fault String :=
  Template.render e.helpers e.context template

def holds (e : Engine) (condition : String) : Except Fault Bool :=
  Template.holds e.helpers e.context condition

/-- The choices that wait for an answer. -/
def pendingChoices? (e : Engine) : Option (List PresentedChoice) := e.pending.map Pending.presented

/-! ### The place in the story -/

/-- The index of the next instruction in the innermost open sequence. -/
def cursor (e : Engine) : Nat :=
  match e.frames with
  | f :: _ => f.index
  | [] => e.state.index

/-- Moves past one instruction of the innermost open sequence. -/
def bump (e : Engine) : Engine :=
  match e.frames with
  | f :: rest => { e with frames := f.advance :: rest }
  | [] => { e with state := e.state.advance }

/-- Moves past a conditional and into a branch of it; an empty branch is not entered. -/
def enter (e : Engine) (branch : List Instruction) (elseBranch : Bool) : Engine :=
  let next := e.bump
  if branch.isEmpty then next
  else { next with frames := ⟨branch, 0, e.cursor, elseBranch⟩ :: next.frames }

/-- Moves to the start of a scene, out of all branches. -/
def jump (e : Engine) (target : String) : Except EngineFault Engine :=
  if e.hasScene target then
    .ok { e with state := e.state.setPosition target 0, frames := [], held := [] }
  else .error (.jumpTargetNotFound target)

/-- The branch that a cursor opens in a sequence, if it opens one that is not empty. -/
def branchAt? (sequence : List Instruction) (c : BranchCursor) : Option (List Instruction) :=
  match sequence[c.conditionalIndex]? with
  | some (.conditional _ thenBranch elseBranch _) =>
    (if c.elseBranch then elseBranch else some thenBranch).filter (fun branch => !branch.isEmpty)
  | _ => none

/-- The frames along a path of cursors into a sequence, outermost first. They end where a cursor
opens no branch. -/
def framesAlong (sequence : List Instruction) : List BranchCursor → List Frame
  | [] => []
  | c :: rest =>
    match branchAt? sequence c with
    | none => []
    | some branch =>
      ⟨branch, min c.index branch.length, c.conditionalIndex, c.elseBranch⟩ ::
        framesAlong branch rest

/-- Opens the branches along a path of cursors. While the scene is not loaded the cursors are
held. -/
def place (e : Engine) (cursors : List BranchCursor) : Engine :=
  match e.sceneBody with
  | .ok body => { e with frames := (framesAlong body cursors).reverse, held := [] }
  | .error _ => { e with frames := [], held := cursors }

/-- The cursors of the open branches, outermost first, or else those that are held. -/
def cursors (e : Engine) : List BranchCursor :=
  if e.frames.isEmpty then e.held else (e.frames.map Frame.cursor).reverse

/-! ### Setting up -/

/-- Replaces the scenes. A name that is defined again keeps its first place and takes its last
body. -/
def setScenes (e : Engine) (scenes : List Scene) : Engine :=
  let cleared : Engine :=
    { e with
      scenes := Keyed.distinct (scenes.map fun s => (s.name, s.instructions))
      pending := none
      status := .idle }
  cleared.place e.held

/-- A new engine with scenes, with the helpers of a host over the standard ones, and with a saved
game taken up if there is one. -/
def new (scenes : List Scene) (assets : List Asset) (helpers : Template.Registry)
    (initial : Option Save) : Engine :=
  let e : Engine :=
    { assets
      helpers := Template.Standard.registry.extend helpers
      state := (initial.map Save.toState).getD {} }
  (e.setScenes scenes).place ((initial.map Save.branches).getD [])

def setAssets (e : Engine) (assets : List Asset) : Engine := { e with assets }

/-- Lets go of branches and choices, so that the state may be changed from outside. -/
def release (e : Engine) : Engine :=
  { e with
    frames := []
    held := []
    pending := none
    status := if e.status = .awaitingChoice then .idle else e.status }

/-- Changes the state from outside. -/
def modifyState (e : Engine) (f : GameState → GameState) : Engine :=
  { e.release with state := f e.state }

/-- Carries out actions from outside; a fault changes no state. -/
def applyActions (e : Engine) (descriptors : List Json) : Option Fault × Engine :=
  match Action.run e.state descriptors with
  | .error fault => (some fault, e.release)
  | .ok state => (none, { e.release with state })

/-- Takes up a saved game. -/
def restore (e : Engine) (saved : Save) : Engine :=
  let cleared : Engine := { e with state := saved.toState, pending := none, status := .idle }
  cleared.place saved.branches

/-- The game as saved at a time. -/
def save (e : Engine) (now : String) : Save :=
  { Save.ofState now e.state with branches := e.cursors }

/-- Starts over with an empty state. -/
def reset (e : Engine) : Engine :=
  { e with state := {}, frames := [], held := [], pending := none, status := .idle }

end Engine

end BranchingStory
