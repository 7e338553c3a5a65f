import BranchingStory.Keyed
import BranchingStory.Yaml.TokenReader

/-!
The node that a YAML text describes. Anchors are numbered in the order in which they are written,
and an alias holds the number of the last anchor of its name before it.
-/

namespace BranchingStory.Yaml

/-- A node of a YAML text. -/
inductive Node where
  | scalar (tag : Option String) (plain : Bool) (text : String)
  | sequence (tag : Option String) (items : List Node)
  | mapping (tag : Option String) (entries : List (Node × Node))
  | alias (anchor : Nat)

namespace Node

instance : Inhabited Node := ⟨.alias 0⟩

/-- The node where nothing is written. -/
def empty : Node := .scalar none true ""

end Node

/-- A node with what its aliases need: the names of all anchors in their order, and the nodes of
anchors under their numbers. -/
structure Document where
  root : Node
  anchors : List String
  anchored : List (Nat × Node)

/-- Tokens that are left, anchors so far with the last first, and the nodes of anchors. -/
structure NodeReader where
  tokens : List Token
  anchors : List String := []
  anchored : List (Nat × Node) := []

namespace NodeReader

def next? (r : NodeReader) : Option Token := r.tokens.head?

def skip (r : NodeReader) : NodeReader := { r with tokens := r.tokens.tail }

/-- Whether the next token is one of several; the end of the tokens is none. -/
def at? (r : NodeReader) (tokens : List Token) : Bool :=
  match r.next? with
  | some token => tokens.contains token
  | none => false

/-! ### Properties of nodes -/

/-- The number of the last anchor of a name. -/
def anchorNumber? (name : String) : List String → Option Nat
  | [] => none
  | known :: earlier => if known = name then some earlier.length else anchorNumber? name earlier

/-- The anchor and the tag before a node, in either order, each at most once. -/
def properties (r : NodeReader) : (Option String × Option (String × String)) × NodeReader :=
  match r.tokens with
  | .anchor name :: .tag handle suffix :: rest =>
    ((some name, some (handle, suffix)), { r with tokens := rest })
  | .tag handle suffix :: .anchor name :: rest =>
    ((some name, some (handle, suffix)), { r with tokens := rest })
  | .anchor name :: rest => ((some name, none), { r with tokens := rest })
  | .tag handle suffix :: rest => ((none, some (handle, suffix)), { r with tokens := rest })
  | _ => ((none, none), r)

/-- The full name of a tag; its handle must be known. -/
def fullTag? (handles : List (String × String)) :
    Option (String × String) → Option (Option String)
  | none => some none
  | some (handle, suffix) =>
    if handle = "" then some (some suffix)
    else (Keyed.get? handle handles).map fun start => some (start ++ suffix)

/-- Keeps a node under the number of its anchor, if it has one. -/
def keep (number : Option Nat) (node : Node) (r : NodeReader) : Node × NodeReader :=
  match number with
  | some n => (node, { r with anchored := (n, node) :: r.anchored })
  | none => (node, r)

/-! ### Nodes -/

/-- Moves past the comma that all entries of a flow collection but the first need. -/
def flowSeparator? (first : Bool) (r : NodeReader) : Option NodeReader :=
  if first then some r
  else
    match r.next? with
    | some .flowEntry => some r.skip
    | _ => none

mutual

/-- Reads a node. In a block it may be a block collection, and where `indentless` holds it may also
be a list that is not indented. `fuel` bounds the number of nodes and entries. -/
def node? (handles : List (String × String)) (fuel : Nat) (block indentless : Bool)
    (r : NodeReader) : Option (Node × NodeReader) :=
  match fuel with
  | 0 => none
  | fuel + 1 =>
    match r.tokens with
    | .alias name :: rest =>
      (anchorNumber? name r.anchors).map fun n => (.alias n, { r with tokens := rest })
    | _ => do
      let ((anchor, written), r) := r.properties
      let tag ← fullTag? handles written
      let number := anchor.map fun _ => r.anchors.length
      let r := { r with anchors := anchor.toList ++ r.anchors }
      let (node, r) ← content? handles fuel block indentless tag (anchor.isSome || tag.isSome) r
      some (keep number node r)

/-- Reads what follows the properties of a node. Nothing need follow if there are any. -/
def content? (handles : List (String × String)) (fuel : Nat) (block indentless : Bool)
    (tag : Option String) (hasProperties : Bool) (r : NodeReader) : Option (Node × NodeReader) :=
  match fuel with
  | 0 => none
  | fuel + 1 =>
    let fallback := if hasProperties then some (Node.scalar tag true "", r) else none
    match r.next? with
    | some .blockEntry =>
      if indentless then
        (indentlessItems? handles fuel r).map fun (items, r) => (.sequence tag items, r)
      else fallback
    | some (.scalar plain text) =>
      some (.scalar (if tag = some "!" then none else tag) plain text, r.skip)
    | some .flowSequenceStart =>
      (flowItems? handles fuel true r.skip).map fun (items, r) => (.sequence tag items, r)
    | some .flowMappingStart =>
      (flowEntries? handles fuel true r.skip).map fun (entries, r) => (.mapping tag entries, r)
    | some .blockSequenceStart =>
      if block then (blockItems? handles fuel r.skip).map fun (items, r) => (.sequence tag items, r)
      else fallback
    | some .blockMappingStart =>
      if block then
        (blockEntries? handles fuel r.skip).map fun (entries, r) => (.mapping tag entries, r)
      else fallback
    | _ => fallback

/-- Reads a node unless one of the given tokens comes next, where nothing is written. -/
def optional? (handles : List (String × String)) (fuel : Nat) (block indentless : Bool)
    (ends : List Token) (r : NodeReader) : Option (Node × NodeReader) :=
  match fuel with
  | 0 => none
  | fuel + 1 => if r.at? ends then some (.empty, r) else node? handles fuel block indentless r

/-- Reads the items of a block sequence. -/
def blockItems? (handles : List (String × String)) (fuel : Nat) (r : NodeReader) :
    Option (List Node × NodeReader) :=
  match fuel with
  | 0 => none
  | fuel + 1 =>
    match r.next? with
    | some .blockEntry => do
      let (item, r) ← optional? handles fuel true false [.blockEntry, .blockEnd] r.skip
      let (items, r) ← blockItems? handles fuel r
      some (item :: items, r)
    | some .blockEnd => some ([], r.skip)
    | _ => none

/-- Reads the items of a sequence that is not indented; it ends before the first other token. -/
def indentlessItems? (handles : List (String × String)) (fuel : Nat) (r : NodeReader) :
    Option (List Node × NodeReader) :=
  match fuel with
  | 0 => none
  | fuel + 1 =>
    match r.next? with
    | some .blockEntry => do
      let (item, r) ←
        optional? handles fuel true false [.blockEntry, .key, .value, .blockEnd] r.skip
      let (items, r) ← indentlessItems? handles fuel r
      some (item :: items, r)
    | _ => some ([], r)

/-- Reads the entries of a block mapping. -/
def blockEntries? (handles : List (String × String)) (fuel : Nat) (r : NodeReader) :
    Option (List (Node × Node) × NodeReader) :=
  match fuel with
  | 0 => none
  | fuel + 1 =>
    match r.next? with
    | some .key => do
      let ends := [Token.key, .value, .blockEnd]
      let (key, r) ← optional? handles fuel true true ends r.skip
      let (value, r) ← valueOf? handles fuel true ends r
      let (entries, r) ← blockEntries? handles fuel r
      some ((key, value) :: entries, r)
    | some .blockEnd => some ([], r.skip)
    | _ => none

/-- Reads the value after a key, if one is written. -/
def valueOf? (handles : List (String × String)) (fuel : Nat) (block : Bool) (ends : List Token)
    (r : NodeReader) : Option (Node × NodeReader) :=
  match fuel with
  | 0 => none
  | fuel + 1 =>
    match r.next? with
    | some .value => optional? handles fuel block block ends r.skip
    | _ => some (.empty, r)

/-- Reads the items of a flow sequence. An item with a key is a mapping of one entry. -/
def flowItems? (handles : List (String × String)) (fuel : Nat) (first : Bool) (r : NodeReader) :
    Option (List Node × NodeReader) :=
  match fuel with
  | 0 => none
  | fuel + 1 =>
    match r.next? with
    | some .flowSequenceEnd => some ([], r.skip)
    | _ => do
      let r ← flowSeparator? first r
      match r.next? with
      | some .flowSequenceEnd => some ([], r.skip)
      | some .key =>
        let r := r.skip
        let (key, r) ←
          if r.at? [.value, .flowEntry, .flowSequenceEnd] then some (Node.empty, r.skip)
          else node? handles fuel false false r
        let (value, r) ← valueOf? handles fuel false [.flowEntry, .flowSequenceEnd] r
        let (items, r) ← flowItems? handles fuel false r
        some (.mapping none [(key, value)] :: items, r)
      | _ =>
        let (item, r) ← node? handles fuel false false r
        let (items, r) ← flowItems? handles fuel false r
        some (item :: items, r)

/-- Reads the entries of a flow mapping. A key alone has an empty value. -/
def flowEntries? (handles : List (String × String)) (fuel : Nat) (first : Bool) (r : NodeReader) :
    Option (List (Node × Node) × NodeReader) :=
  match fuel with
  | 0 => none
  | fuel + 1 =>
    match r.next? with
    | some .flowMappingEnd => some ([], r.skip)
    | _ => do
      let r ← flowSeparator? first r
      match r.next? with
      | some .flowMappingEnd => some ([], r.skip)
      | some .key =>
        let (key, r) ←
          optional? handles fuel false false [.value, .flowEntry, .flowMappingEnd] r.skip
        let (value, r) ← valueOf? handles fuel false [.flowEntry, .flowMappingEnd] r
        let (entries, r) ← flowEntries? handles fuel false r
        some ((key, value) :: entries, r)
      | _ =>
        let (key, r) ← node? handles fuel false false r
        let (entries, r) ← flowEntries? handles fuel false r
        some ((key, .empty) :: entries, r)

end

/-! ### Documents -/

/-- Reads directives: at most one version, which must be known, and handles of tags, each once. -/
def directives? (version : Bool) (handles : List (String × String)) :
    List Token → Option (List (String × String) × List Token)
  | .versionDirective major minor :: rest =>
    if version || major != 1 || !(minor == 1 || minor == 2) then none
    else directives? true handles rest
  | .tagDirective handle start :: rest =>
    if Keyed.contains handle handles then none
    else directives? version (handles ++ [(handle, start)]) rest
  | tokens => some (handles, tokens)

/-- The handles that are known where no directive says otherwise. -/
def standardHandles : List (String × String) := [("!", "!"), ("!!", "tag:yaml.org,2002:")]

/-- Reads the root of a document that starts with a mark; nothing need follow the mark. -/
def markedRoot? (handles : List (String × String)) (fuel : Nat) (r : NodeReader) :
    Option (Node × NodeReader) :=
  match r.next? with
  | none => some (.empty, r)
  | some (.versionDirective _ _) => some (.empty, r)
  | some (.tagDirective _ _) => some (.empty, r)
  | some .documentStart => some (.empty, r)
  | some .documentEnd => some (.empty, r)
  | _ => node? handles fuel true false r

/-- Reads the root of the one document that tokens hold. -/
def root? (fuel : Nat) (tokens : List Token) : Option (Node × NodeReader) :=
  let isMarked := match tokens with
    | .versionDirective _ _ :: _ => true
    | .tagDirective _ _ :: _ => true
    | .documentStart :: _ => true
    | _ => false
  if isMarked then do
    let (written, rest) ← directives? false [] tokens
    match rest with
    | .documentStart :: rest => markedRoot? (written ++ standardHandles) fuel { tokens := rest }
    | _ => none
  else node? standardHandles fuel true false { tokens }

end NodeReader

/-- The document of a text, or nothing if the text has a fault or holds more than one document. A
text with no token is an empty document. -/
def document? (text : String) : Option Document := do
  let tokens ← tokens? text
  if tokens.isEmpty then some ⟨.empty, [], []⟩
  else
    let (root, r) ← NodeReader.root? (8 * tokens.length + 8) tokens
    if r.tokens.all (· == .documentEnd) then some ⟨root, r.anchors.reverse, r.anchored⟩ else none

end BranchingStory.Yaml
