import BranchingStory.Decimal.Reading
import BranchingStory.Text.Blank
import BranchingStory.Value

/-!
Paths into values, written as names with points between them. Reading a path goes through maps by
name and through lists by position; writing one makes maps on its way.
-/

namespace BranchingStory.Path

/-- The mark between the names of a path. -/
def separator : Char := '.'

/-- Pieces of a text between separators; `piece` holds the current one, last character first. -/
def splitFrom (piece : List Char) : List Char → List (List Char)
  | [] => [piece.reverse]
  | c :: rest =>
    if c = separator then piece.reverse :: splitFrom [] rest else splitFrom (c :: piece) rest

/-- The names of a path, without the white space around them; empty names do not count. -/
def names (path : String) : List String :=
  ((splitFrom [] path.toList).map Text.trimChars |>.filter (fun n => !n.isEmpty)).map String.ofList

/-- What stands in a value under one name. -/
def child? (name : String) : Value → Option Value
  | .map entries => Keyed.get? name entries
  | .list items =>
    match Decimal.index? name with
    | some i => items[i]?
    | none => none
  | _ => none

/-- What stands in a value at a path. -/
def read? : List String → Value → Option Value
  | [], v => some v
  | name :: rest, v =>
    match child? name v with
    | some w => read? rest w
    | none => none

/-- The entries of a value that is a map; any other value has none. -/
def entries : Value → List (String × Value)
  | .map es => es
  | _ => []

/-- The value with `new` at a path. Whatever is no map on the way is replaced by one. -/
def assign (new : Value) : List String → Value → Value
  | [], _ => new
  | name :: rest, v =>
    let inner := (Keyed.get? name (entries v)).getD (.map [])
    .map (Keyed.insert name (assign new rest inner) (entries v))

/-- The number at a path, zero if there is none. -/
def numberAt (path : List String) (v : Value) : Float :=
  ((read? path v).bind Value.number?).getD 0

end BranchingStory.Path
