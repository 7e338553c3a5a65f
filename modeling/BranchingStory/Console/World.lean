import BranchingStory.Console.FileStore

/-!
What commands need from the world around them: files, a clock, and a console to write to and read
from. Commands are written for any monad that provides these, and can be run in a world that is a
value.
-/

namespace BranchingStory.Console

/-- A line of input, without its end. -/
inductive Input where
  | closed
  | line (text : String)
  | unreadable
  deriving Repr, DecidableEq

/-- The text without the characters of a line's end at its end. -/
def withoutLineEnd (text : String) : String :=
  String.ofList (text.toList.reverse.dropWhile (fun c => c = '\n' || c = '\r')).reverse

/-- A line of input from its bytes. -/
def Input.ofBytes (bytes : ByteArray) : Input :=
  if bytes.isEmpty then .closed
  else
    match String.fromUTF8? bytes with
    | some text => .line (withoutLineEnd text)
    | none => .unreadable

/-- Bytes cut after each line feed; `line` holds the current line, last byte first. -/
def cutLines (line : List UInt8) : List UInt8 → List (List UInt8)
  | [] => if line.isEmpty then [] else [line.reverse]
  | b :: rest =>
    if b = 10 then (b :: line).reverse :: cutLines [] rest else cutLines (b :: line) rest

/-- The lines of an input. -/
def Input.ofAllBytes (bytes : List UInt8) : List Input :=
  (cutLines [] bytes).map fun line => Input.ofBytes ⟨line.toArray⟩

/-- What a command may do besides computing. -/
class Access (m : Type → Type) where
  /-- The current folder as an absolute path. -/
  folder : m String
  /-- The current time. -/
  now : m String
  /-- What stands at a path; of a folder only the files that pass a test. -/
  find : (String → Bool) → String → m Found
  /-- Writes a file and the folders on the way, and tells whether that was possible. -/
  write : String → String → m Bool
  print : String → m Unit
  readLine : m Input

/-- A world as a value: what was printed so far, and the input still to come. -/
structure World where
  store : FileStore := {}
  folder : List String := []
  clock : String := ""
  input : List Input := []
  output : String := ""

namespace World

instance : Inhabited World := ⟨{}⟩

/-- The current folder as a path. -/
def folderPath (w : World) : String := "/" ++ String.intercalate "/" w.folder

def find (w : World) (keep : String → Bool) (path : String) : Found :=
  w.store.find w.folder keep path

def write (w : World) (path text : String) : Bool × World :=
  let (written, store) := w.store.write w.folder path text
  (written, { w with store })

def print (w : World) (text : String) : World := { w with output := w.output ++ text }

def readLine (w : World) : Input × World :=
  match w.input with
  | [] => (.closed, w)
  | line :: rest => (line, { w with input := rest })

end World

instance : Access (StateM World) where
  folder := fun w => (w.folderPath, w)
  now := fun w => (w.clock, w)
  find := fun keep path w => (w.find keep path, w)
  write := fun path text w => w.write path text
  print := fun text w => ((), w.print text)
  readLine := fun w => w.readLine

end BranchingStory.Console
