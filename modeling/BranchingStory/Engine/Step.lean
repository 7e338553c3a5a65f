import BranchingStory.Fault
import BranchingStory.Script.Codec

/-!
What a player sees of a story, one step at a time.
-/

namespace BranchingStory

/-- A choice as it is offered to the player. -/
structure PresentedChoice where
  index : Nat
  text : String
  target : Option String
  deriving Repr, DecidableEq

/-- A step of a story. -/
inductive Step where
  | dialogue (content : String) (speaker : Option String) (canContinue : Bool)
  | choices (content : String) (speaker : Option String) (choices : List PresentedChoice)
  | sceneComplete
  | fault (cause : Fault)

def PresentedChoice.encode (c : PresentedChoice) : Json :=
  .object [("index", .ofIndex c.index), ("text", .text c.text), ("target", .ofText? c.target)]

namespace Step

instance : Inhabited Step := ⟨.sceneComplete⟩

/-- The name of the kind of a step. -/
def kind : Step → String
  | .dialogue .. => "display_dialogue"
  | .choices .. => "presenting_choices"
  | .sceneComplete => "scene_complete"
  | .fault _ => "error"

def encode (step : Step) : Json :=
  .object (("type", .text step.kind) ::
    match step with
    | .dialogue content speaker canContinue =>
      [("content", .text content), ("speaker", .ofText? speaker),
        ("canContinue", .bool canContinue)]
    | .choices content speaker offered =>
      [("content", .text content), ("speaker", .ofText? speaker),
        ("choices", .list (offered.map PresentedChoice.encode)), ("canContinue", .bool false)]
    | .sceneComplete => []
    | .fault cause => [("message", .text cause.message), ("code", .text cause.code)])

end Step

end BranchingStory
