import BranchingStory.Decimal.Layout
import BranchingStory.Json.Printer

/-!
The values that a story computes with: truth values, numbers, texts, lists and maps. The entries of
a map stand in ascending order of their keys. There is no null: what a document leaves null is
absent.
-/

namespace BranchingStory

/-- A value of a story. -/
inductive Value where
  | bool (b : Bool)
  | number (x : Float)
  | text (s : String)
  | list (items : List Value)
  | map (entries : List (String × Value))

namespace Value

instance : Inhabited Value := ⟨.bool false⟩

def number? : Value → Option Float
  | .number x => some x
  | _ => none

/-- The name of the kind of a value. -/
def kind : Value → String
  | .bool _ => "boolean"
  | .number _ => "number"
  | .text _ => "string"
  | .list _ => "array"
  | .map _ => "map"

/-- Whether a value counts as true: all but `false`, zero, not-a-number, the empty text and the
empty list. -/
def truthy : Value → Bool
  | .bool b => b
  | .number x => x != 0 && !x.isNaN
  | .text s => s != ""
  | .list items => !items.isEmpty
  | .map _ => true

/-- A number in a tree: an integer where it is one of fewer than 64 bits. -/
def numberTree (x : Float) : Json :=
  match Decimal.exactInteger? x with
  | some i => .number (.int i)
  | none => Json.ofFloat x

mutual

/-- The tree of a value, with integers written as integers. -/
def toJson : Value → Json
  | .bool b => .bool b
  | .number x => numberTree x
  | .text s => .text s
  | .list items => .list (toJsonItems items)
  | .map entries => .object (toJsonEntries entries)

def toJsonItems : List Value → List Json
  | [] => []
  | v :: rest => v.toJson :: toJsonItems rest

def toJsonEntries : List (String × Value) → List (String × Json)
  | [] => []
  | (k, v) :: rest => (k, v.toJson) :: toJsonEntries rest

end

mutual

/-- The text of a value where it is shown to a player. -/
def toText : Value → String
  | .bool b => Json.boolText b
  | .number x => Decimal.storyText x
  | .text s => s
  | .list items => String.intercalate "," (toTextItems items)
  | .map entries => (toJson (.map entries)).compact

def toTextItems : List Value → List String
  | [] => []
  | v :: rest => v.toText :: toTextItems rest

end

mutual

/-- The value of a tree. Null has none, and is left out of lists and maps. -/
def ofJson? : Json → Option Value
  | .null => none
  | .bool b => some (.bool b)
  | .number n => some (.number n.toFloat)
  | .text s => some (.text s)
  | .list items => some (.list (ofJsonItems items))
  | .object fields => some (.map (ofJsonFields fields))

def ofJsonItems : List Json → List Value
  | [] => []
  | t :: rest =>
    match ofJson? t with
    | some v => v :: ofJsonItems rest
    | none => ofJsonItems rest

def ofJsonFields : List (String × Json) → List (String × Value)
  | [] => []
  | (k, t) :: rest =>
    let later := ofJsonFields rest
    match ofJson? t with
    | some v => if Keyed.contains k later then later else Keyed.insert k v later
    | none => later

end

mutual

/-- The tree of a value in a save file: every number is a double, and one that is not finite is
null. -/
def encode : Value → Json
  | .bool b => .bool b
  | .number x => Json.ofFloat x
  | .text s => .text s
  | .list items => .list (encodeItems items)
  | .map entries => .object (encodeEntries entries)

def encodeItems : List Value → List Json
  | [] => []
  | v :: rest => v.encode :: encodeItems rest

def encodeEntries : List (String × Value) → List (String × Json)
  | [] => []
  | (k, v) :: rest => (k, v.encode) :: encodeEntries rest

end

mutual

/-- Strict reading of a value from a save file: null is refused at every depth. -/
def decode? : Json → Option Value
  | .null => none
  | .bool b => some (.bool b)
  | .number n => some (.number n.toFloat)
  | .text s => some (.text s)
  | .list items => (decodeItems? items).map .list
  | .object fields => (decodeFields? fields).map .map

def decodeItems? : List Json → Option (List Value)
  | [] => some []
  | t :: rest =>
    match decode? t, decodeItems? rest with
    | some v, some vs => some (v :: vs)
    | _, _ => none

def decodeFields? : List (String × Json) → Option (List (String × Value))
  | [] => some []
  | (k, t) :: rest =>
    match decode? t, decodeFields? rest with
    | some v, some later => some (if Keyed.contains k later then later else Keyed.insert k v later)
    | _, _ => none

end

mutual

/-- Whether two values are the same; numbers compare as doubles do. -/
def same : Value → Value → Bool
  | .bool a, .bool b => a == b
  | .number x, .number y => x == y
  | .text s, .text t => s == t
  | .list vs, .list ws => sameItems vs ws
  | .map es, .map fs => sameEntries es fs
  | _, _ => false

def sameItems : List Value → List Value → Bool
  | [], [] => true
  | v :: vs, w :: ws => v.same w && sameItems vs ws
  | _, _ => false

def sameEntries : List (String × Value) → List (String × Value) → Bool
  | [], [] => true
  | (k, v) :: es, (l, w) :: fs => k == l && v.same w && sameEntries es fs
  | _, _ => false

end

end Value

end BranchingStory
