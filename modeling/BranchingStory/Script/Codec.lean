import BranchingStory.Json.Record
import BranchingStory.Script.Instruction

/-!
Instructions and scenes as data trees: the written form of a script that has been read. A tree is
read back strictly.
-/

namespace BranchingStory

/-- A text or null. -/
def Json.ofText? : Option String → Json
  | some s => .text s
  | none => .null

/-- An index as a number. -/
def Json.ofIndex (n : Nat) : Json := .number (.int n)

namespace Location

def encode (l : Location) : Json :=
  .object [("file", .text l.file), ("line", .ofIndex l.line), ("scene", .text l.scene)]

def decode? (tree : Json) : Option Location := do
  let r ← Json.Record.of? ["file", "line", "scene"] tree
  return {
    file := ← r.required 0 "file" Json.text?
    line := ← r.required 1 "line" Json.index?
    scene := ← r.required 2 "scene" Json.text? }

end Location

namespace ChoiceOption

def encode (o : ChoiceOption) : Json :=
  .object [("text", .text o.text), ("target", .ofText? o.target),
    ("condition", .ofText? o.condition), ("actions", .list o.actions)]

def decode? (tree : Json) : Option ChoiceOption := do
  let r ← Json.Record.of? ["text", "target", "condition", "actions"] tree
  return {
    text := ← r.required 0 "text" Json.text?
    target := ← r.optional 1 "target" Json.text?
    condition := ← r.optional 2 "condition" Json.text?
    actions := ← r.required 3 "actions" Json.items? }

end ChoiceOption

namespace Instruction

mutual

/-- The tree of an instruction: its kind beside its parts. -/
def encode : Instruction → Json
  | .dialogue speaker text actions choices location =>
    .object [("kind", .text "dialogue"), ("speaker", .ofText? speaker), ("text", .text text),
      ("actions", .list actions),
      ("choices", match choices with
        | some options => .list (options.map ChoiceOption.encode)
        | none => .null),
      ("location", location.encode)]
  | .action actions location =>
    .object [("kind", .text "action"), ("actions", .list actions), ("location", location.encode)]
  | .conditional condition thenBranch elseBranch location =>
    .object [("kind", .text "conditional"), ("condition", .text condition),
      ("thenBranch", .list (encodeAll thenBranch)),
      ("elseBranch", match elseBranch with
        | some branch => .list (encodeAll branch)
        | none => .null),
      ("location", location.encode)]
  | .jump target location =>
    .object [("kind", .text "jump"), ("target", .text target), ("location", location.encode)]

def encodeAll : List Instruction → List Json
  | [] => []
  | i :: rest => i.encode :: encodeAll rest

end

/-- The names of the kinds, in the order of their numbers. -/
def kindNames : List String := ["dialogue", "action", "conditional", "jump"]

/-- The name of the kind that a tree gives. Inside a branch the number of a kind may stand for its
name. -/
def kindName? (inBranch : Bool) : Json → Option String
  | .text name => some name
  | .number n => if inBranch then (Json.index? (.number n)).bind (kindNames[·]?) else none
  | _ => none

/-- The kind of an instruction and the rest of its tree. In a list the kind comes first. -/
def kindOf? (inBranch : Bool) : Json → Option (String × Json)
  | .object fields => do
    return (← kindName? inBranch (← Keyed.get? "kind" fields), .object fields)
  | .list (kind :: parts) => do return (← kindName? inBranch kind, .list parts)
  | _ => none

/-- An instruction from a tree that nests at most `depth` deep. -/
def decodeAt? : Nat → Bool → Json → Option Instruction
  | 0, _, _ => none
  | depth + 1, inBranch, tree => do
    let (kind, parts) ← kindOf? inBranch tree
    match kind with
    | "dialogue" =>
      let r ← Json.Record.of? ["speaker", "text", "actions", "choices", "location"] parts
      return .dialogue (← r.optional 0 "speaker" Json.text?) (← r.required 1 "text" Json.text?)
        (← r.required 2 "actions" Json.items?)
        (← r.optional 3 "choices" (Json.listOf ChoiceOption.decode?))
        (← r.required 4 "location" Location.decode?)
    | "action" =>
      let r ← Json.Record.of? ["actions", "location"] parts
      return .action (← r.required 0 "actions" Json.items?)
        (← r.required 1 "location" Location.decode?)
    | "conditional" =>
      let r ← Json.Record.of? ["condition", "thenBranch", "elseBranch", "location"] parts
      return .conditional (← r.required 0 "condition" Json.text?)
        (← r.required 1 "thenBranch" (Json.listOf (decodeAt? depth true)))
        (← r.optional 2 "elseBranch" (Json.listOf (decodeAt? depth true)))
        (← r.required 3 "location" Location.decode?)
    | "jump" =>
      let r ← Json.Record.of? ["target", "location"] parts
      return .jump (← r.required 0 "target" Json.text?) (← r.required 1 "location" Location.decode?)
    | _ => none

/-- An instruction from its tree. -/
def decode? (tree : Json) : Option Instruction := decodeAt? (tree.depth + 1) false tree

end Instruction

namespace Scene

def encode (s : Scene) : Json :=
  .object [("name", .text s.name), ("instructions", .list (Instruction.encodeAll s.instructions))]

def decode? (tree : Json) : Option Scene := do
  let r ← Json.Record.of? ["name", "instructions"] tree
  return {
    name := ← r.required 0 "name" Json.text?
    instructions := ← r.required 1 "instructions" (Json.listOf Instruction.decode?) }

end Scene

end BranchingStory
