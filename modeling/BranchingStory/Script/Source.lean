import BranchingStory.Json.Reader
import BranchingStory.Script.Scene
import BranchingStory.Yaml.Meaning

/-!
Scripts as texts in files. The name of a file decides how its text is read; several files make one
table of scenes, in the order of their names.
-/

namespace BranchingStory

/-- The form in which a file is written: JSON if its name says so in letters of any case, else
YAML. -/
def Format.ofFileName (file : String) : Format :=
  if ".json".toList.isSuffixOf (file.toList.map Char.toLower) then .json else .yaml

namespace Script

/-- The data tree of a file. -/
def readDocument (file text : String) : Except Fault Json :=
  match Format.ofFileName file with
  | .json =>
    match Json.parse text with
    | .ok tree => .ok tree
    | .error line => .error (.document .json file (some line))
  | .yaml =>
    match Yaml.parse? text with
    | some tree => .ok tree
    | none => .error (.document .yaml file none)

/-- The scenes of a file. -/
def readSource (file text : String) : Except Fault (List Scene) :=
  match readDocument file text with
  | .error fault => .error fault
  | .ok tree => readScenes file tree

/-- Adds the scenes of files, in the order given, to a table. -/
def addSources (table : List Scene) : List (String × String) → Except Fault (List Scene)
  | [] => .ok table
  | (file, text) :: rest =>
    match readSource file text with
    | .error fault => .error fault
    | .ok scenes =>
      match merge file table scenes with
      | .error fault => .error fault
      | .ok table => addSources table rest

/-- The table of scenes of files by name. -/
def readSources (sources : List (String × String)) : Except Fault (List Scene) :=
  addSources [] (Keyed.ascending sources)

end Script

end BranchingStory
