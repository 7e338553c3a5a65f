import BranchingStory.Console.PathText

/-!
A store of files in folders. Writing a file makes the folders on the way to it, and those stay even
where the file itself cannot be written.
-/

namespace BranchingStory.Console

/-- What stands at a path: nothing, a file, or a folder with the files under it. The text of a file
is missing if it cannot be read. -/
inductive Found where
  | nothing
  | file (text : Option String)
  | folder (files : List (String × Option String))
  deriving Repr, DecidableEq

/-- Folders and files under their names from the root on. -/
structure FileStore where
  folders : List (List String) := []
  files : List (List String × Option String) := []
  deriving Repr, DecidableEq

namespace FileStore

instance : Inhabited FileStore := ⟨{}⟩

def isFolder (s : FileStore) (place : List String) : Bool :=
  place.isEmpty || s.folders.contains place

/-- The file at a place. -/
def file? (s : FileStore) (place : List String) : Option (Option String) := s.files.lookup place

/-- Goes on by one piece of a path, which only a folder allows. -/
def enter? (s : FileStore) (place : List String) (piece : String) : Option (List String) :=
  if s.isFolder place then
    if piece = "" || piece = "." then some place
    else if piece = ".." then some place.dropLast
    else some (place ++ [piece])
  else none

/-- Where a path begins: at the root or in the current folder. -/
def origin (folder : List String) (path : String) : List String :=
  if PathText.isAbsolute path then [] else folder

/-- The place of a path, whether or not something stands there. -/
def locate? (s : FileStore) (folder : List String) (path : String) : Option (List String) :=
  if path = "" then none
  else (PathText.pieces path).foldlM s.enter? (origin folder path)

/-- The files under a place that pass a test, by their paths from there on. -/
def filesUnder (s : FileStore) (keep : String → Bool) (place : List String) :
    List (String × Option String) :=
  s.files.filterMap fun (spot, text) =>
    if place.isPrefixOf spot && place.length < spot.length then
      let path := String.intercalate "/" (spot.drop place.length)
      if keep path then some (path, text) else none
    else none

/-- What stands at a path. -/
def find (s : FileStore) (folder : List String) (keep : String → Bool) (path : String) : Found :=
  match s.locate? folder path with
  | none => .nothing
  | some place =>
    if s.isFolder place then .folder (s.filesUnder keep place)
    else
      match s.file? place with
      | some text => .file text
      | none => .nothing

def addFolder (s : FileStore) (place : List String) : FileStore :=
  { s with folders := place :: s.folders }

def addFile (s : FileStore) (place : List String) (text : Option String) : FileStore :=
  { s with files := (place, text) :: s.files.filter (fun entry => entry.1 != place) }

/-- Makes the folders along names from a place on. The store is given even if a file is in the
way. -/
def makeFolders (place : List String) : List String → FileStore → Bool × FileStore
  | [], s => (true, s)
  | name :: rest, s =>
    if name = ".." then makeFolders place.dropLast rest s
    else
      let next := place ++ [name]
      if s.isFolder next then makeFolders next rest s
      else if (s.file? next).isSome then (false, s)
      else makeFolders next rest (s.addFolder next)

/-- Writes a file, and makes the folders that it needs. -/
def write (s : FileStore) (folder : List String) (path text : String) : Bool × FileStore :=
  match makeFolders (origin folder path) (PathText.names path).dropLast s with
  | (false, s) => (false, s)
  | (true, s) =>
    match s.locate? folder path with
    | none => (false, s)
    | some place => if s.isFolder place then (false, s) else (true, s.addFile place (some text))

end FileStore

end BranchingStory.Console
