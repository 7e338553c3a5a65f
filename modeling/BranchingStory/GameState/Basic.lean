import BranchingStory.TextSet
import BranchingStory.Value.Path

/-!
The state of a game: where the player is, what the story remembers, and which choices were made.
-/

namespace BranchingStory

/-- A choice that was made. -/
structure ChoiceRecord where
  text : String
  scene : String
  timestamp : Option String
  deriving Repr, DecidableEq

/-- The state of a game. -/
structure GameState where
  scene : Option String := none
  index : Nat := 0
  vars : List (String × Value) := []
  flags : List String := []
  history : List ChoiceRecord := []

namespace GameState

instance : Inhabited GameState := ⟨{}⟩

/-! ### Position -/

def setPosition (s : GameState) (scene : String) (index : Nat) : GameState :=
  { s with scene := some scene, index }

def advance (s : GameState) : GameState := { s with index := s.index + 1 }

/-! ### Variables -/

def get? (s : GameState) (key : String) : Option Value := Keyed.get? key s.vars

def setVariable (s : GameState) (key : String) (value : Value) : GameState :=
  { s with vars := Keyed.insert key value s.vars }

/-- The value of a variable path. A variable of that very name wins over a nested one. -/
def lookup? (s : GameState) (path : String) : Option Value :=
  match s.get? path with
  | some v => some v
  | none =>
    match Path.names path with
    | [] => none
    | root :: nested =>
      match s.get? root with
      | some v => Path.read? nested v
      | none => none

/-- The root variable and the path inside it that a key addresses for addition. A key without a
point, or with fewer than two names, addresses the variable of that very name. -/
def cell (key : String) : String × List String :=
  if key.toList.contains Path.separator then
    match Path.names key with
    | root :: name :: rest => (root, name :: rest)
    | _ => (key, [])
  else (key, [])

/-- The root variable of a nested cell as a map. -/
def rootMap (s : GameState) (root : String) : Value :=
  match s.get? root with
  | some (.map entries) => .map entries
  | _ => .map []

/-- Adds to the number in a cell, zero if there is none, and gives the sum. -/
def addToVariable (s : GameState) (key : String) (delta : Float) : Float × GameState :=
  match cell key with
  | (root, []) =>
    let sum := ((s.get? root).bind Value.number?).getD 0 + delta
    (sum, s.setVariable root (.number sum))
  | (root, nested) =>
    let map := s.rootMap root
    let sum := Path.numberAt nested map + delta
    (sum, s.setVariable root (Path.assign (.number sum) nested map))

/-! ### Lists -/

/-- The list in a variable; any other variable counts as the empty list. -/
def getList (s : GameState) (key : String) : List Value :=
  match s.get? key with
  | some (.list items) => items
  | _ => []

def setList (s : GameState) (key : String) (items : List Value) : GameState :=
  s.setVariable key (.list items)

def addToList (s : GameState) (key : String) (item : Value) : GameState :=
  s.setList key (s.getList key ++ [item])

/-! ### Time -/

/-- The variable that holds the time. -/
def timeKey : String := "gameTime"

/-- The older name of the time, kept equal to it. -/
def olderTimeKey : String := "currentTime"

def currentTime (s : GameState) : Float :=
  (((s.get? timeKey).bind Value.number?) <|>
    ((s.get? olderTimeKey).bind Value.number?)).getD 0

/-- Lets time pass and gives the new time. -/
def addTime (s : GameState) (minutes : Float) : Float × GameState :=
  let time := s.currentTime + minutes
  (time, (s.setVariable timeKey (.number time)).setVariable olderTimeKey (.number time))

/-! ### Flags and choices -/

def hasFlag (s : GameState) (flag : String) : Bool := s.flags.contains flag

def setFlag (s : GameState) (flag : String) : GameState :=
  { s with flags := TextSet.insert flag s.flags }

def clearFlag (s : GameState) (flag : String) : GameState :=
  { s with flags := TextSet.erase flag s.flags }

def addChoice (s : GameState) (record : ChoiceRecord) : GameState :=
  { s with history := s.history ++ [record] }

/-- Whether a choice was made, in the given scene if one is given. -/
def playerChose (s : GameState) (text : String) (scene : Option String) : Bool :=
  s.history.any fun record =>
    record.text == text &&
      match scene with
      | some name => record.scene == name
      | none => true

end GameState

end BranchingStory
