import BranchingStory.Decimal.Layout
import BranchingStory.Json.Basic

/-!
Data trees as JSON text, on one line and indented by two spaces.
-/

namespace BranchingStory.Json

/-- A character inside a quoted text. -/
def escapeChar (c : Char) : List Char :=
  if c = '"' then ['\\', '"']
  else if c = '\\' then ['\\', '\\']
  else if 0x20 ≤ c.toNat then [c]
  else if c = '\n' then ['\\', 'n']
  else if c = '\r' then ['\\', 'r']
  else if c = '\t' then ['\\', 't']
  else if c.toNat = 8 then ['\\', 'b']
  else if c.toNat = 12 then ['\\', 'f']
  else ['\\', 'u', '0', '0', Nat.digitChar (c.toNat / 16), Nat.digitChar (c.toNat % 16)]

/-- A text in quotes. -/
def quote (s : String) : String :=
  String.ofList ('"' :: s.toList.flatMap escapeChar ++ ['"'])

/-- The text of a number. -/
def Number.toText : Number → String
  | .int i => toString i
  | .float x =>
    match Decimal.Binary.ofFloat x with
    | .finite negative mantissa exponent => Decimal.jsonLayout.finite negative mantissa exponent
    | _ => "null"

def boolText (b : Bool) : String := if b then "true" else "false"

mutual

/-- The tree on one line. -/
def compact : Json → String
  | .null => "null"
  | .bool b => boolText b
  | .number n => n.toText
  | .text s => quote s
  | .list items => "[" ++ String.intercalate "," (compactItems items) ++ "]"
  | .object fields => "\x7b" ++ String.intercalate "," (compactFields fields) ++ "\x7d"

def compactItems : List Json → List String
  | [] => []
  | item :: rest => item.compact :: compactItems rest

def compactFields : List (String × Json) → List String
  | [] => []
  | (key, value) :: rest => (quote key ++ ":" ++ value.compact) :: compactFields rest

end

/-- The start of a line at a given depth. -/
def newLine (depth : Nat) : String := "\n" ++ String.ofList (List.replicate (2 * depth) ' ')

/-- Lines between brackets; without lines the brackets stand side by side. -/
def bracketed (opening closing : String) (depth : Nat) (lines : List String) : String :=
  if lines.isEmpty then opening ++ closing
  else
    opening ++ newLine (depth + 1) ++ String.intercalate ("," ++ newLine (depth + 1)) lines ++
      newLine depth ++ closing

mutual

/-- The tree over several lines; `depth` is that of the line it starts on. -/
def prettyAt (depth : Nat) : Json → String
  | .list items => bracketed "[" "]" depth (prettyItems (depth + 1) items)
  | .object fields => bracketed "\x7b" "\x7d" depth (prettyFields (depth + 1) fields)
  | .null => "null"
  | .bool b => boolText b
  | .number n => n.toText
  | .text s => quote s

def prettyItems (depth : Nat) : List Json → List String
  | [] => []
  | item :: rest => item.prettyAt depth :: prettyItems depth rest

def prettyFields (depth : Nat) : List (String × Json) → List String
  | [] => []
  | (key, value) :: rest => (quote key ++ ": " ++ value.prettyAt depth) :: prettyFields depth rest

end

/-- The tree over several lines, indented by two spaces. -/
def pretty (tree : Json) : String := tree.prettyAt 0

/-- The text of a scalar: a text itself, a number or a truth value as JSON writes it. -/
def scalarText? : Json → Option String
  | .text s => some s
  | .number n => some n.toText
  | .bool b => some (boolText b)
  | _ => none

end BranchingStory.Json
