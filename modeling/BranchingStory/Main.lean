import BranchingStory.Console.Command
import BranchingStory.Console.Timestamp
import BranchingStory.Decimal.Power
import Std.Time.DateTime

/-!
The command line of the story player.
-/

namespace BranchingStory.Console

/-- The text of a file, if it can be read. -/
def readText (path : String) : IO (Option String) := do
  try
    return String.fromUTF8? (← IO.FS.readBinFile path)
  catch _ =>
    return none

/-- The files under a folder that pass a test, with their paths from there on. -/
partial def readFolder (keep : String → Bool) (folder start : String) :
    IO (List (String × Option String)) := do
  let real ← IO.FS.realPath folder
  let mut files := []
  for entry in ← real.readDir do
    let path := start ++ entry.fileName
    let full := entry.path.toString
    let kind := (← entry.path.symlinkMetadata).type
    if kind == .dir then
      files := files ++ (← readFolder keep full (path ++ "/"))
    else if kind == .file && keep path then
      files := files ++ [(path, ← readText full)]
  return files

/-- What stands at a path. -/
def findPath (keep : String → Bool) (path : String) : IO Found := do
  if path = "" then return .nothing
  try
    let real ← IO.FS.realPath path
    if ← real.isDir then return .folder (← readFolder keep real.toString "")
    else return .file (← readText path)
  catch _ =>
    return .nothing

/-- Writes a file and the folders on the way. -/
def writePath (path text : String) : IO Bool := do
  try
    let parent := PathText.parent path
    if parent != "" then IO.FS.createDirAll parent
    IO.FS.writeFile path text
    return true
  catch _ =>
    return false

/-- The bytes of the next line, with its end. -/
partial def readBytes (input : IO.FS.Stream) (line : ByteArray) : IO ByteArray := do
  let next ← input.read 1
  if next.isEmpty then return line
  let line := line ++ next
  if next.data == #[10] then return line
  readBytes input line

/-- The current time. -/
def currentTime : IO String := do
  let time := (← Std.Time.Timestamp.now).toNanosecondsSinceUnixEpoch.toInt.toNat
  return Timestamp.toText (time / 1000000000) (time % 1000000000)

instance : Access IO where
  folder := do return (← IO.currentDir).toString
  now := currentTime
  find := findPath
  write := writePath
  print := fun text => do
    let output ← IO.getStdout
    output.putStr text
    output.flush
  readLine := do return Input.ofBytes (← readBytes (← IO.getStdin) ByteArray.empty)

end BranchingStory.Console

/-- Runs the command that the arguments name. The bound on turns is one that no game reaches. -/
def main (arguments : List String) : IO UInt32 := do
  let code ← BranchingStory.Console.Command.runArguments (BranchingStory.Decimal.twoTo 62) arguments
  return code.toUInt32
