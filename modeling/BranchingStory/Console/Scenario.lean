import BranchingStory.Console.Failure
import BranchingStory.Console.World
import BranchingStory.Session

/-!
A scenario: the scripts of a file or of all files under a folder, and the scene in which to begin.
It is known by the path that it was loaded from, so that a saved game can find it again.
-/

namespace BranchingStory.Console

/-- Scripts by file name, and where they came from. -/
structure Scenario where
  id : String
  title : String
  sources : List (String × String)
  entryScene : String

namespace Scenario

/-- The scene in which a scenario begins where none is named. -/
def defaultEntry : String := "start"

/-- What an identifier starts with, before the path. -/
def scheme : String := "scripts:"

/-- Whether the name of a file is that of a script. -/
def isScript (path : String) : Bool :=
  match PathText.extension? path with
  | some extension =>
    ["yaml", "yml", "json"].contains (String.ofList (extension.toList.map Char.toLower))
  | none => false

/-- A path with slashes only. -/
def withSlashes (path : String) : String :=
  String.ofList (path.toList.map fun c => if c = '\\' then '/' else c)

/-- Files with their texts, if all can be read. -/
def readable? (files : List (String × Option String)) : Option (List (String × String)) :=
  files.mapM fun (path, text) => text.map fun text => (withSlashes path, text)

def make (path entryScene : String) (sources : List (String × String)) : Scenario :=
  { id := scheme ++ path
    title := "Scripts " ++ (PathText.fileName? path).getD "unknown"
    sources
    entryScene }

/-- The scenario of what stands at an absolute path. -/
def ofFound (path entryScene : String) : Found → Except Failure Scenario
  | .nothing => .error (.console (.sourceNotFound path))
  | .file text =>
    if isScript path then
      match text with
      | some text => .ok (make path entryScene [((PathText.fileName? path).getD path, text)])
      | none => .error (.console .sourceUnreadable)
    else .error (.console (.sourceUnsupported path))
  | .folder files =>
    match readable? files with
    | none => .error (.console .sourceUnreadable)
    | some [] => .error (.console (.sourceEmpty path))
    | some sources => .ok (make path entryScene (Keyed.ascending sources))

/-- The path in the identifier of a scenario. -/
def pathOf? (id : String) : Option String :=
  if scheme.toList.isPrefixOf id.toList then
    some (String.ofList (id.toList.drop scheme.toList.length))
  else none

variable {m : Type → Type} [Monad m] [Access m]

/-- Loads the scenario at a path. -/
def load (path entryScene : String) : m (Except Failure Scenario) := do
  let absolute := PathText.join (← Access.folder) path
  return ofFound absolute entryScene (← Access.find isScript absolute)

/-- Loads the scenario with an identifier. -/
def loadById (id entryScene : String) : m (Except Failure Scenario) :=
  match pathOf? id with
  | some path => load path entryScene
  | none => return .error (.console (.unknownReference id))

end Scenario

/-- A new session with the scripts of a scenario. -/
def Scenario.session (s : Scenario) : Except Failure Session :=
  match Script.readSources s.sources with
  | .error fault => .error (.fault fault)
  | .ok scenes => .ok { engine := Engine.setScenes {} scenes }

end BranchingStory.Console
