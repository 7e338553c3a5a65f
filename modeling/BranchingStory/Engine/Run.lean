import BranchingStory.Engine.Basic

/-!
Running a story. A turn carries out one instruction; a run takes turns until there is something for
the player to see. A guard ends a run that goes on without showing anything.
-/

namespace BranchingStory.Engine

/-- What a turn comes to: the run goes on, or it stops with a step, or it fails. -/
inductive Turn where
  | running (e : Engine)
  | stopped (e : Engine) (step : Step)
  | failed (e : Engine) (fault : Fault)

/-- The choices whose conditions hold. -/
def visible (e : Engine) : List ChoiceOption → Except Fault (List ChoiceOption)
  | [] => .ok []
  | option :: rest =>
    match (match option.condition with
      | some condition => e.holds condition
      | none => .ok true) with
    | .error fault => .error fault
    | .ok shown =>
      match e.visible rest with
      | .error fault => .error fault
      | .ok others => .ok (if shown then option :: others else others)

/-- The choices as they are offered, counted from `index` on. -/
def present (e : Engine) (index : Nat) : List ChoiceOption → Except Fault (List PresentedChoice)
  | [] => .ok []
  | option :: rest =>
    match e.render option.text with
    | .error fault => .error fault
    | .ok text =>
      match e.present (index + 1) rest with
      | .error fault => .error fault
      | .ok others => .ok (⟨index, text, option.target⟩ :: others)

/-- The speaker, if there is one. -/
def renderSpeaker (e : Engine) : Option String → Except Fault (Option String)
  | none => .ok none
  | some speaker =>
    match e.render speaker with
    | .error fault => .error fault
    | .ok text => .ok (some text)

/-- What a dialogue shows. Without visible choices nothing waits for an answer. -/
def speak (e : Engine) (speaker : Option String) (text : String)
    (choices : Option (List ChoiceOption)) : Except Fault Pending :=
  match e.renderSpeaker speaker with
  | .error fault => .error fault
  | .ok speaker =>
    match e.render text with
    | .error fault => .error fault
    | .ok content =>
      match e.visible (choices.getD []) with
      | .error fault => .error fault
      | .ok options =>
        match e.present 0 options with
        | .error fault => .error fault
        | .ok presented => .ok { content, speaker, options, presented }

/-- Shows a dialogue: its choices wait for an answer, or the story moves past it. -/
def display (e : Engine) (p : Pending) : Turn :=
  if p.options.isEmpty then
    let next := e.bump
    .stopped next (.dialogue p.content p.speaker next.canContinue)
  else .stopped { e with pending := some p, status := .awaitingChoice } p.step

/-- Carries out an instruction. -/
def perform (e : Engine) : Instruction → Turn
  | .action actions _ =>
    match Action.run e.state actions with
    | .error fault => .failed e fault
    | .ok state => .running { e with state }.bump
  | .dialogue speaker text actions choices _ =>
    match Action.run e.state actions with
    | .error fault => .failed e fault
    | .ok state =>
      let e := { e with state }
      match e.speak speaker text choices with
      | .error fault => .failed e fault
      | .ok p => e.display p
  | .conditional condition thenBranch elseBranch _ =>
    match e.holds condition with
    | .error fault => .failed e fault
    | .ok true => .running (e.enter thenBranch false)
    | .ok false => .running (e.enter (elseBranch.getD []) true)
  | .jump target _ =>
    match e.jump target with
    | .error cause => .failed e (.engine cause)
    | .ok next => .running next

/-- The engine without the finished branches on top. -/
def settle (e : Engine) : Engine := { e with frames := e.frames.dropWhile Frame.finished }

/-- The next instruction, if there is one left. -/
def next? (e : Engine) : Except EngineFault (Option Instruction) :=
  match e.frames with
  | f :: _ => .ok f.instructions[f.index]?
  | [] =>
    match e.sceneBody with
    | .error cause => .error cause
    | .ok body => .ok body[e.state.index]?

/-- One turn: leaves finished branches and carries out the next instruction. Where there is none the
scene is complete. -/
def turn (e : Engine) : Turn :=
  let e := e.settle
  match e.next? with
  | .error cause => .failed e (.engine cause)
  | .ok none => .stopped { e with frames := [], status := .sceneComplete } .sceneComplete
  | .ok (some instruction) => e.perform instruction

/-- How many turns a run may take. -/
def maxTurns : Nat := 10000

/-- Takes at most `n` turns. -/
def run : Nat → Engine → Engine × Except Fault Step
  | 0, e => (e, .error (.engine (.guardExceeded maxTurns)))
  | n + 1, e =>
    match e.turn with
    | .running e => run n e
    | .stopped e step => (e, .ok step)
    | .failed e fault => (e, .error fault)

/-- Runs to the next step. A fault ends the run and is itself shown as a step. -/
def runToStep (e : Engine) : Step × Engine :=
  match run maxTurns { e with status := .sceneActive } with
  | (e, .ok step) => (step, e)
  | (e, .error fault) => (.fault fault, { e with status := .error, pending := none })

/-- Starts a scene. A scene that is not there changes nothing. -/
def start (e : Engine) (name : String) : Step × Engine :=
  if e.hasScene name then
    let placed : Engine :=
      { e with state := e.state.setPosition name 0, frames := [], held := [], pending := none }
    placed.runToStep
  else (.fault (.engine (.sceneNotFound name)), e)

/-- Goes on to the next step. Choices that wait are shown again, and a complete scene stays so. -/
def proceed (e : Engine) : Step × Engine :=
  match e.status, e.pending with
  | .awaitingChoice, some p => (p.step, e)
  | .sceneComplete, _ => (.sceneComplete, e)
  | _, _ =>
    match e.state.scene with
    | none => (.fault (.engine .noActiveScene), e)
    | some _ => e.runToStep

/-- What a choice would do: its checked actions, if its target is there too. -/
def checkChoice (e : Engine) (option : ChoiceOption) : Except Fault (List Action) :=
  match Action.ofDescriptors option.actions with
  | .error fault => .error fault
  | .ok actions =>
    match option.target with
    | none => .ok actions
    | some target =>
      if e.hasScene target then .ok actions else .error (.engine (.jumpTargetNotFound target))

/-- Takes a choice that was checked: records it, carries out its actions, moves on to its target or
past the dialogue. -/
def take (e : Engine) (now : String) (text : String) (option : ChoiceOption)
    (actions : List Action) : Engine :=
  let record : ChoiceRecord := ⟨text, e.state.scene.getD "", some now⟩
  let moved := { e with pending := none, state := e.state.addChoice record }.bump
  let acted := { moved with state := Action.applyAll moved.state actions }
  match option.target with
  | none => acted
  | some target =>
    { acted with state := acted.state.setPosition target 0, frames := [], held := [] }

/-- Answers the choices that wait with the one at `index`. A choice that cannot be taken changes
nothing. -/
def choose (e : Engine) (now : String) (index : Nat) : Step × Engine :=
  match e.status, e.pending with
  | .awaitingChoice, some p =>
    match p.options[index]? with
    | none => (.fault (.engine (.choiceIndex index p.options.length)), e)
    | some option =>
      match e.checkChoice option with
      | .error fault => (.fault fault, e)
      | .ok actions =>
        let text := ((p.presented[index]?).map PresentedChoice.text).getD option.text
        (e.take now text option actions).runToStep
  | _, _ => (.fault (.engine .noPendingChoice), e)

end BranchingStory.Engine
