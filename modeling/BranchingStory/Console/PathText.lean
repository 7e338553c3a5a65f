/-!
Paths of files as texts, with slashes between names. A path is shown as it was given; only its last
name is ever looked at.
-/

namespace BranchingStory.Console.PathText

/-- Pieces of a text between slashes; `piece` holds the current one, last character first. -/
def splitFrom (piece : List Char) : List Char → List String
  | [] => [String.ofList piece.reverse]
  | c :: rest =>
    if c = '/' then String.ofList piece.reverse :: splitFrom [] rest
    else splitFrom (c :: piece) rest

/-- The pieces of a path between slashes. -/
def pieces (path : String) : List String := splitFrom [] path.toList

/-- The names of a path, without empty pieces and those that stay in a folder. -/
def names (path : String) : List String := (pieces path).filter (fun n => !(n = "" || n = "."))

def isAbsolute (path : String) : Bool := path.toList.head? == some '/'

/-- A path from a folder on; one that is absolute is its own. -/
def join (folder path : String) : String :=
  if isAbsolute path then path
  else if folder.toList.getLast? == some '/' then folder ++ path
  else folder ++ "/" ++ path

/-- The last name of a path, unless it leads to a folder above. -/
def fileName? (path : String) : Option String :=
  (names path).getLast?.filter (fun n => !(n = ".."))

/-- The folder that a path's last name stands in. -/
def parent (path : String) : String :=
  (if isAbsolute path then "/" else "") ++ String.intercalate "/" (names path).dropLast

/-- What follows the last point of a file's name, if something stands before the point. -/
def extension? (path : String) : Option String :=
  match fileName? path with
  | none => none
  | some name =>
    let backwards := name.toList.reverse
    match backwards.dropWhile (fun c => c != '.') with
    | _ :: _ :: _ => some (String.ofList (backwards.takeWhile (fun c => c != '.')).reverse)
    | _ => none

end BranchingStory.Console.PathText
