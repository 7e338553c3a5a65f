import BranchingStory.GameState.Basic
import BranchingStory.Json.Record
import BranchingStory.Script.Codec

/-!
Saved games. A save is written as a record; it is read back strictly, where any wrong part refuses
the whole, or leniently, where a wrong part falls back to an empty one.
-/

namespace BranchingStory

namespace ChoiceRecord

def encode (r : ChoiceRecord) : Json :=
  .object ([("choiceText", .text r.text), ("scene", .text r.scene)] ++
    match r.timestamp with
    | some t => [("timestamp", .text t)]
    | none => [])

def decode? (tree : Json) : Option ChoiceRecord := do
  let r ← Json.Record.of? ["choiceText", "scene", "timestamp"] tree
  return {
    text := ← r.required 0 "choiceText" Json.text?
    scene := ← r.required 1 "scene" Json.text?
    timestamp := ← r.withDefault 2 "timestamp" none (Json.nullable Json.text?) }

end ChoiceRecord

/-- A position inside one branch of a conditional: where the conditional stands in the enclosing
sequence, which branch it is, and the next instruction in it. -/
structure BranchCursor where
  conditionalIndex : Nat
  elseBranch : Bool := false
  index : Nat
  deriving Repr, DecidableEq

namespace BranchCursor

def encode (c : BranchCursor) : Json :=
  .object [("conditionalIndex", .ofIndex c.conditionalIndex), ("elseBranch", .bool c.elseBranch),
    ("index", .ofIndex c.index)]

def decode? (tree : Json) : Option BranchCursor := do
  let r ← Json.Record.of? ["conditionalIndex", "elseBranch", "index"] tree
  return {
    conditionalIndex := ← r.required 0 "conditionalIndex" Json.index?
    elseBranch := ← r.withDefault 1 "elseBranch" false Json.bool?
    index := ← r.required 2 "index" Json.index? }

end BranchCursor

/-- A saved game. The branches are the open ones below the position in the scene, outermost
first. -/
structure Save where
  schemaVersion : String := ""
  saveDate : String := ""
  vars : List (String × Value) := []
  storyFlags : List String := []
  choiceHistory : List ChoiceRecord := []
  currentScene : Option String := none
  currentIndex : Option Nat := none
  branches : List BranchCursor := []

namespace Save

instance : Inhabited Save := ⟨{}⟩

/-- The version of the format that is written. -/
def currentVersion : String := "1.0.0"

/-- The state of a game as saved at a time, with no open branches. The index is left out where there
is no scene. -/
def ofState (now : String) (s : GameState) : Save :=
  { schemaVersion := currentVersion
    saveDate := now
    vars := s.vars
    storyFlags := s.flags
    choiceHistory := s.history
    currentScene := s.scene
    currentIndex := s.scene.map (fun _ => s.index) }

/-- The state of a saved game. Of variables with one name the last counts. -/
def toState (d : Save) : GameState :=
  { scene := d.currentScene
    index := d.currentIndex.getD 0
    vars := Keyed.ascending d.vars
    flags := TextSet.ofList d.storyFlags
    history := d.choiceHistory }

/-- A variable as a pair of its name and value. -/
def encodeVariable (entry : String × Value) : Json :=
  .list [.text entry.1, entry.2.encode]

/-- The tree of a saved game. -/
def encode (d : Save) : Json :=
  .object ([
    ("schemaVersion", .text d.schemaVersion),
    ("saveDate", .text d.saveDate),
    ("variables", .list (d.vars.map encodeVariable)),
    ("storyFlags", .list (d.storyFlags.map .text)),
    ("choiceHistory", .list (d.choiceHistory.map ChoiceRecord.encode))] ++
    (match d.currentScene with
      | some scene => [("currentScene", .text scene)]
      | none => []) ++
    (match d.currentIndex with
      | some index => [("currentInstructionIndex", .ofIndex index)]
      | none => []) ++
    (if d.branches.isEmpty then []
      else [("branchStack", .list (d.branches.map BranchCursor.encode))]))

/-- A variable from a pair of exactly two parts. -/
def decodeVariable? : Json → Option (String × Value)
  | .list [.text key, tree] => (Value.decode? tree).map (key, ·)
  | _ => none

/-- The names of the parts of a saved game, in their order. -/
def parts : List String :=
  ["schemaVersion", "saveDate", "variables", "storyFlags", "choiceHistory", "currentScene",
    "currentInstructionIndex", "branchStack"]

/-- Strict reading of a saved game: every part may be missing, none may be wrong. -/
def decode? (tree : Json) : Option Save := do
  let r ← Json.Record.of? parts tree
  return {
    schemaVersion := ← r.withDefault 0 "schemaVersion" "" Json.text?
    saveDate := ← r.withDefault 1 "saveDate" "" Json.text?
    vars := ← r.withDefault 2 "variables" [] (Json.listOf decodeVariable?)
    storyFlags := ← r.withDefault 3 "storyFlags" [] (Json.listOf Json.text?)
    choiceHistory := ← r.withDefault 4 "choiceHistory" [] (Json.listOf ChoiceRecord.decode?)
    currentScene := ← r.withDefault 5 "currentScene" none (Json.nullable Json.text?)
    currentIndex := ← r.withDefault 6 "currentInstructionIndex" none (Json.nullable Json.index?)
    branches := ← r.withDefault 7 "branchStack" [] (Json.listOf BranchCursor.decode?) }

/-- A variable from a pair, with what is null in its value left out. -/
def recoverVariable? : Json → Option (String × Value)
  | .list [.text key, tree] => (Value.ofJson? tree).map (key, ·)
  | _ => none

/-- The variables that can be recovered from a list of pairs or from an object. -/
def recoverVariables : Option Json → List (String × Value)
  | some (.list pairs) => Keyed.ascending (pairs.filterMap recoverVariable?)
  | some (.object fields) => Value.ofJsonFields fields
  | _ => []

/-- The items of a list; anything else has none. -/
def recoverItems : Option Json → List Json
  | some (.list items) => items
  | _ => []

/-- Lenient reading of the state in a saved game: what is missing or wrong falls back to nothing. -/
def recoverState : Json → GameState
  | .object fields =>
    { scene := (Keyed.get? "currentScene" fields).bind Json.text?
      index := ((Keyed.get? "currentInstructionIndex" fields).bind Json.index?).getD 0
      vars := recoverVariables (Keyed.get? "variables" fields)
      flags := TextSet.ofList
        ((recoverItems (Keyed.get? "storyFlags" fields)).filterMap Json.text?)
      history :=
        (recoverItems (Keyed.get? "choiceHistory" fields)).filterMap ChoiceRecord.decode? }
  | _ => {}

/-- Lenient reading of a whole saved game. Its branches count only if all of them can be read. -/
def recover (now : String) (tree : Json) : Save :=
  { ofState now (recoverState tree) with
    branches := ((tree.get? "branchStack").bind (Json.listOf BranchCursor.decode?)).getD [] }

end Save

end BranchingStory
