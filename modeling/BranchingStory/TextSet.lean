/-!
Finite sets of texts, held as lists in ascending order without repetition.
-/

namespace BranchingStory.TextSet

/-- Adds a text to the set. -/
def insert (text : String) : List String → List String
  | [] => [text]
  | t :: rest =>
    if text < t then text :: t :: rest
    else if text = t then t :: rest
    else t :: insert text rest

/-- Takes a text out of the set. -/
def erase (text : String) (set : List String) : List String :=
  set.filter (fun t => !decide (t = text))

/-- The set of the texts in a list. -/
def ofList : List String → List String
  | [] => []
  | t :: rest => insert t (ofList rest)

end BranchingStory.TextSet
