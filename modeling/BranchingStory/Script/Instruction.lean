import BranchingStory.Json.Basic

/-!
Scenes of a story as lists of instructions. Action descriptors stay trees until they are carried
out, so that a bad descriptor is reported by the step that runs it.
-/

namespace BranchingStory

/-- Where an instruction was written: the file, the place in its scene counted from one, the
scene. -/
structure Location where
  file : String
  line : Nat
  scene : String
  deriving Repr, DecidableEq

def Location.toText (l : Location) : String :=
  l.file ++ ":" ++ toString l.line ++ " in scene \"" ++ l.scene ++ "\""

/-- One of the choices that a dialogue offers. -/
structure ChoiceOption where
  text : String
  target : Option String
  condition : Option String
  actions : List Json

/-- A choice that is its text alone. -/
def ChoiceOption.plain (text : String) : ChoiceOption := ⟨text, none, none, []⟩

/-- An instruction of a scene. -/
inductive Instruction where
  | dialogue (speaker : Option String) (text : String) (actions : List Json)
      (choices : Option (List ChoiceOption)) (location : Location)
  | action (actions : List Json) (location : Location)
  | conditional (condition : String) (thenBranch : List Instruction)
      (elseBranch : Option (List Instruction)) (location : Location)
  | jump (target : String) (location : Location)

namespace Instruction

instance : Inhabited Instruction := ⟨.jump "" ⟨"", 0, ""⟩⟩

def location : Instruction → Location
  | .dialogue _ _ _ _ l => l
  | .action _ l => l
  | .conditional _ _ _ l => l
  | .jump _ l => l

/-- The name of the kind of an instruction. -/
def kind : Instruction → String
  | .dialogue .. => "dialogue"
  | .action .. => "action"
  | .conditional .. => "conditional"
  | .jump .. => "jump"

end Instruction

/-- A named list of instructions. -/
structure Scene where
  name : String
  instructions : List Instruction

end BranchingStory
