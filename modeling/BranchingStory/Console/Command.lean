import BranchingStory.Console.LinePlay

/-!
The commands of the console and the arguments that name them. Arguments that make no command change
nothing and print nothing.
-/

namespace BranchingStory.Console

/-- A command. -/
inductive Command where
  | start (scripts : String) (scene : Option String) (stateOut : String)
  | choose (stateIn : String) (index : Nat) (stateOut : String)
  | play (scripts : String) (scene : Option String) (stateFile : Option String)
  deriving Repr, DecidableEq

namespace Command

/-! ### Arguments -/

/-- The name of an option, and its value if that follows an equals sign. -/
def option? (argument : String) : Option (String × Option String) :=
  match argument.toList with
  | '-' :: '-' :: c :: rest =>
    let body := c :: rest
    let name := String.ofList (body.takeWhile (fun d => d != '='))
    match body.dropWhile (fun d => d != '=') with
    | _ :: value => some (name, some (String.ofList value))
    | [] => some (name, none)
  | _ => none

/-- Whether an argument cannot be the value of an option because it looks like an option itself. -/
def looksLikeOption (argument : String) : Bool :=
  match argument.toList with
  | '-' :: _ :: _ => true
  | _ => false

/-- Options with their values. Two dashes alone may end them. -/
def options? : List String → Option (List (String × String))
  | [] => some []
  | ["--"] => some []
  | argument :: rest =>
    match option? argument with
    | none => none
    | some (name, some value) => (options? rest).map ((name, value) :: ·)
    | some (name, none) =>
      match rest with
      | [] => none
      | value :: rest =>
        if looksLikeOption value then none else (options? rest).map ((name, value) :: ·)

/-- Options of known names, each written at most once. -/
def knownOptions? (known : List String) (arguments : List String) :
    Option (List (String × String)) :=
  (options? arguments).filter fun options =>
    (Keyed.keys options).all known.contains && decide (Keyed.keys options).Nodup

/-- The command that arguments name. -/
def ofArguments? : List String → Option Command
  | "agent" :: "start" :: rest => do
    let options ← knownOptions? ["scripts", "scene", "state-out"] rest
    return .start (← Keyed.get? "scripts" options) (Keyed.get? "scene" options)
      (← Keyed.get? "state-out" options)
  | "agent" :: "choose" :: rest => do
    let options ← knownOptions? ["state-in", "choice", "state-out"] rest
    return .choose (← Keyed.get? "state-in" options)
      (← (Keyed.get? "choice" options).bind Decimal.index?) (← Keyed.get? "state-out" options)
  | "play" :: rest => do
    let options ← knownOptions? ["scripts", "scene", "state-file"] rest
    return .play (← Keyed.get? "scripts" options) (Keyed.get? "scene" options)
      (Keyed.get? "state-file" options)
  | _ => none

/-! ### Running -/

/-- The exit code where the arguments make no command. -/
def usageCode : Nat := 2

variable {m : Type → Type} [Monad m] [Access m]

/-- Prints a failure, and gives the exit code for it. -/
def fail (failure : Failure) : m Nat := do
  Access.print failure.report
  return 1

/-- Prints the report of a command, and gives the exit code. -/
def conclude : Except Failure String → m Nat
  | .error failure => fail failure
  | .ok report => do
    Access.print report
    return 0

/-- Carries out a command, and gives the exit code. A game that is played line by line may take at
most `n` turns. -/
def run (n : Nat) : Command → m Nat
  | .start scripts scene stateOut => do
    conclude (← Agent.start scripts (scene.getD Scenario.defaultEntry) stateOut)
  | .choose stateIn index stateOut => do
    conclude (← Agent.choose stateIn index stateOut)
  | .play scripts scene stateFile => do
    match ← LinePlay.play n scripts (scene.getD Scenario.defaultEntry)
        (stateFile.getD LinePlay.defaultStateFile) with
    | some (.error failure) => fail failure
    | _ => return 0

/-- Carries out the command that arguments name. -/
def runArguments (n : Nat) (arguments : List String) : m Nat :=
  match ofArguments? arguments with
  | some command => command.run n
  | none => return usageCode

end Command

end BranchingStory.Console
