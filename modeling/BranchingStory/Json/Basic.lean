import BranchingStory.Decimal.Power
import BranchingStory.Keyed

/-!
The data tree that documents, action descriptors and save files share. The fields of an object keep
the order in which they were written.
-/

namespace BranchingStory

/-- A number in a data tree: an integer of at most 64 bits, or a double. -/
inductive Json.Number where
  | int (i : Int)
  | float (x : Float)

/-- A data tree. -/
inductive Json where
  | null
  | bool (b : Bool)
  | number (n : Json.Number)
  | text (s : String)
  | list (items : List Json)
  | object (fields : List (String × Json))

namespace Json

instance : Inhabited Json := ⟨.null⟩

/-- The double nearest to a number. -/
def Number.toFloat : Number → Float
  | .int i => Float.ofInt i
  | .float x => x

/-- A finite double as a number; infinities and not-a-number have no place in a tree. -/
def ofFloat (x : Float) : Json :=
  if x.isFinite then .number (.float x) else .null

def isNull : Json → Bool
  | .null => true
  | _ => false

/-- The value of a field of an object. -/
def get? (key : String) : Json → Option Json
  | .object fields => Keyed.get? key fields
  | _ => none

def text? : Json → Option String
  | .text s => some s
  | _ => none

def bool? : Json → Option Bool
  | .bool b => some b
  | _ => none

def float? : Json → Option Float
  | .number n => some n.toFloat
  | _ => none

/-- An index: a written integer from zero up to `2 ^ 64`. -/
def index? : Json → Option Nat
  | .number (.int (.ofNat n)) => if n < Decimal.twoTo 64 then some n else none
  | _ => none

def items? : Json → Option (List Json)
  | .list items => some items
  | _ => none

/-- A tree as a list of trees: a list is itself, null is no tree, anything else is one tree. -/
def asList : Json → List Json
  | .list items => items
  | .null => []
  | other => [other]

mutual

/-- Every object with distinct keys: a key written again takes its last value in its first place. -/
def distinctKeys : Json → Json
  | .list items => .list (distinctKeysOfItems items)
  | .object fields => .object (Keyed.distinct (distinctKeysOfFields fields))
  | other => other

def distinctKeysOfItems : List Json → List Json
  | [] => []
  | item :: rest => item.distinctKeys :: distinctKeysOfItems rest

def distinctKeysOfFields : List (String × Json) → List (String × Json)
  | [] => []
  | (key, value) :: rest => (key, value.distinctKeys) :: distinctKeysOfFields rest

end

mutual

/-- How deep lists and objects nest in a tree. -/
def depth : Json → Nat
  | .list items => depthOfItems items + 1
  | .object fields => depthOfFields fields + 1
  | _ => 0

def depthOfItems : List Json → Nat
  | [] => 0
  | item :: rest => max item.depth (depthOfItems rest)

def depthOfFields : List (String × Json) → Nat
  | [] => 0
  | (_, value) :: rest => max value.depth (depthOfFields rest)

end

/-- A tree that stands under a key, taken as a list, is smaller than the object. -/
theorem sizeOf_asList_lt {key : String} {tree : Json} {fields : List (String × Json)}
    (h : Keyed.get? key fields = some tree) : sizeOf tree.asList < sizeOf (Json.object fields) := by
  have := Keyed.sizeOf_lt_of_get?_eq_some h
  cases tree <;> simp_all [asList] <;> omega

end Json

end BranchingStory
