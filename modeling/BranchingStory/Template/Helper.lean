import BranchingStory.Asset
import BranchingStory.Fault
import BranchingStory.GameState.Basic

/-!
Helpers that expressions can call, and the registry that knows them by name. A helper gets the
context and its arguments, any of which may be absent, and gives a value, nothing, or a fault.
-/

namespace BranchingStory.Template

/-- What templates can see: the state of the game and the assets. -/
structure Context where
  state : GameState := {}
  assets : List Asset := []

/-- A function that expressions can call. -/
abbrev Helper := Context → List (Option Value) → Except HelperFault (Option Value)

/-- Helpers by name, in ascending order of names. -/
abbrev Registry := List (String × Helper)

namespace Registry

/-- Adds a helper, in place of one of the same name. -/
def register (r : Registry) (name : String) (helper : Helper) : Registry :=
  Keyed.insert name helper r

/-- Adds all helpers of another registry, in place of those of the same names. -/
def extend (r : Registry) (other : Registry) : Registry :=
  other.foldl (fun done entry => register done entry.1 entry.2) r

def contains (r : Registry) (name : String) : Bool := Keyed.contains name r

def names (r : Registry) : List String := Keyed.keys r

/-- Calls a helper by its name. -/
def call (r : Registry) (name : String) (context : Context) (arguments : List (Option Value)) :
    Except HelperFault (Option Value) :=
  match Keyed.get? name r with
  | some helper => helper context arguments
  | none => .error (.missing name)

/-- A letter, digit or underscore of ASCII; any other character becomes an underscore. -/
def symbolChar (c : Char) : Char :=
  if c.isAlphanum || c = '_' then c else '_'

/-- The symbol under which expressions call a helper. -/
def symbol (name : String) : String := String.ofList (name.toList.map symbolChar)

/-- What an expression calls under a name: of all helpers with the same symbol the last in the order
of names. -/
def resolve? (r : Registry) (name : String) : Option (String × Helper) :=
  r.reverse.find? (fun entry => symbol entry.1 == symbol name)

end Registry

end BranchingStory.Template
