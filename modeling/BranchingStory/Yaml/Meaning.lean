import BranchingStory.Decimal.Power
import BranchingStory.Decimal.Reading
import BranchingStory.Json.Basic
import BranchingStory.Yaml.Node

/-!
The data tree that a YAML text stands for. Plain scalars without a tag are read as null, truth
values and numbers where they have the form of one; all other scalars are texts. Keys are always
taken as they are written.
-/

namespace BranchingStory.Yaml

/-! ### Scalars -/

def isNullWord (text : String) : Bool := ["null", "Null", "NULL", "~"].contains text

def boolOfWord? (text : String) : Option Bool :=
  if ["true", "True", "TRUE"].contains text then some true
  else if ["false", "False", "FALSE"].contains text then some false
  else none

/-- Whether the characters are a zero and more digits, with or without a sign before them. -/
def isPaddedNumber (cs : List Char) : Bool :=
  match cs with
  | '-' :: '0' :: c :: rest => (c :: rest).all Decimal.isDigit
  | '+' :: '0' :: c :: rest => (c :: rest).all Decimal.isDigit
  | '0' :: c :: rest => (c :: rest).all Decimal.isDigit
  | _ => false

/-- The value of a digit in a base. -/
def digitIn? (base : Nat) (c : Char) : Option Nat := (hexValue? c).filter (· < base)

/-- The number that digits in a base write; there must be one. -/
def digitsIn? (base : Nat) (cs : List Char) : Option Nat :=
  if cs.isEmpty then none
  else cs.foldlM (fun n c => (digitIn? base c).map fun d => n * base + d) 0

/-- The size of an integer without its sign: in the base that its first characters name, or
decimal. -/
def magnitude? : List Char → Option Nat
  | '0' :: 'x' :: rest => digitsIn? 16 rest
  | '0' :: 'o' :: rest => digitsIn? 8 rest
  | '0' :: 'b' :: rest => digitsIn? 2 rest
  | cs => if isPaddedNumber cs then none else digitsIn? 10 cs

/-- An integer from text, if it fits 128 bits. -/
def integer? (cs : List Char) : Option Int :=
  match cs with
  | '-' :: rest => ((magnitude? rest).filter (· ≤ Decimal.twoTo 127)).map fun n => -(n : Int)
  | '+' :: rest => ((magnitude? rest).filter (· < Decimal.twoTo 128)).map fun n => (n : Int)
  | _ => ((magnitude? cs).filter (· < Decimal.twoTo 128)).map fun n => (n : Int)

/-- An integer in a tree; one of more than 64 bits has no place there. -/
def integerTree? (i : Int) : Option Json :=
  if -(Decimal.twoTo 63 : Int) ≤ i && i < (Decimal.twoTo 64 : Int) then some (.number (.int i))
  else none

/-- A double from text. Infinities and not-a-number have words of their own. -/
def float? (text : String) : Option Float :=
  let unsigned? : Option (List Char) := match text.toList with
    | '+' :: '+' :: _ => none
    | '+' :: '-' :: _ => none
    | '+' :: rest => some rest
    | cs => some cs
  match unsigned? with
  | none => none
  | some cs =>
    let plain := String.ofList cs
    if [".inf", ".Inf", ".INF"].contains plain then some (1 / 0)
    else if ["-.inf", "-.Inf", "-.INF"].contains text then some (-1 / 0)
    else if [".nan", ".NaN", ".NAN"].contains text then some (0 / 0)
    else (Decimal.float? plain).filter Float.isFinite

/-- The tree of a plain scalar without a tag. -/
def plainTree? (text : String) : Option Json :=
  if text = "" || isNullWord text then some .null
  else
    match boolOfWord? text with
    | some b => some (.bool b)
    | none =>
      match integer? text.toList with
      | some i => integerTree? i
      | none =>
        match (if isPaddedNumber text.toList then none else float? text) with
        | some x => some (Json.ofFloat x)
        | none => some (.text text)

/-- The full name of a standard tag. -/
def standardTag (name : String) : String := "tag:yaml.org,2002:" ++ name

/-- The tree of a scalar with a tag, which decides how it is read. -/
def taggedTree? (tag text : String) : Option Json :=
  if tag = standardTag "bool" then (boolOfWord? text).map .bool
  else if tag = standardTag "int" then (integer? text.toList).bind integerTree?
  else if tag = standardTag "float" then (float? text).map Json.ofFloat
  else if tag = standardTag "null" then if isNullWord text then some .null else none
  else some (.text text)

/-- Whether a tag is one of the text's own, for which there is no meaning. -/
def isLocalTag : Option String → Bool
  | some tag => tag.toList.head? == some '!'
  | none => false

def scalarTree? (tag : Option String) (plain : Bool) (text : String) : Option Json :=
  match tag with
  | some tag => taggedTree? tag text
  | none => if plain then plainTree? text else some (.text text)

/-! ### Aliases -/

mutual

/-- How many marks describe a node: one for a scalar or alias, two for a collection besides its
parts. -/
def Node.size : Node → Nat
  | .scalar _ _ _ => 1
  | .alias _ => 1
  | .sequence _ items => sizeOfItems items + 2
  | .mapping _ entries => sizeOfEntries entries + 2

def Node.sizeOfItems : List Node → Nat
  | [] => 0
  | item :: rest => item.size + sizeOfItems rest

def Node.sizeOfEntries : List (Node × Node) → Nat
  | [] => 0
  | (key, value) :: rest => key.size + value.size + sizeOfEntries rest

end

namespace Document

/-- The slot of the anchor with a number: how many different names there were before it. -/
def slot (d : Document) (number : Nat) : Nat := (d.anchors.take number).eraseDups.length

/-- The node that an alias stands for. An anchor whose slot is taken again gives way to the last one
in the slot. -/
def target? (d : Document) (number : Nat) : Option Node :=
  let last? := (List.range d.anchors.length).reverse.find? fun n => d.slot n == d.slot number
  last?.bind fun n => d.anchored.lookup n

/-- The node itself behind an alias. Following one takes up one of the jumps that are left. -/
def follow? (d : Document) (jumps : Nat) : Node → Option (Node × Nat)
  | .alias number =>
    match jumps with
    | 0 => none
    | jumps + 1 => (d.target? number).map fun node => (node, jumps)
  | node => some (node, jumps)

end Document

/-! ### Trees -/

/-- The trees of items, each with the jumps that the ones before it left. -/
def itemTrees? (tree? : Nat → Node → Option (Json × Nat)) (jumps : Nat) :
    List Node → Option (List Json × Nat)
  | [] => some ([], jumps)
  | item :: rest => do
    let (tree, jumps) ← tree? jumps item
    let (trees, jumps) ← itemTrees? tree? jumps rest
    some (tree :: trees, jumps)

/-- The fields of entries. A key is the text of a scalar, whatever its tag. -/
def fieldTrees? (d : Document) (tree? : Nat → Node → Option (Json × Nat)) (jumps : Nat) :
    List (Node × Node) → Option (List (String × Json) × Nat)
  | [] => some ([], jumps)
  | (key, value) :: rest => do
    match ← d.follow? jumps key with
    | (.scalar _ _ name, jumps) =>
      let (tree, jumps) ← tree? jumps value
      let (fields, jumps) ← fieldTrees? d tree? jumps rest
      some ((name, tree) :: fields, jumps)
    | _ => none

/-- The tree of a node with at most `depth` collections inside each other. -/
def tree? (d : Document) : Nat → Nat → Node → Option (Json × Nat)
  | depth, jumps, node =>
    match d.follow? jumps node, depth with
    | some (.scalar tag plain text, jumps), _ =>
      if isLocalTag tag then none else (scalarTree? tag plain text).map (·, jumps)
    | some (.sequence tag items, jumps), depth + 1 =>
      if isLocalTag tag then none
      else (itemTrees? (tree? d depth) jumps items).map fun (trees, jumps) => (.list trees, jumps)
    | some (.mapping tag entries, jumps), depth + 1 =>
      if isLocalTag tag then none
      else
        (fieldTrees? d (tree? d depth) jumps entries).map fun (fields, jumps) =>
          (.object (Keyed.distinct fields), jumps)
    | _, _ => none

/-- How deep collections may nest. -/
def maxDepth : Nat := 128

/-- The data tree of a text, or nothing if the text has a fault. -/
def parse? (text : String) : Option Json := do
  let d ← document? text
  let (tree, _) ← tree? d maxDepth (100 * d.root.size) d.root
  some tree

end BranchingStory.Yaml
