import BranchingStory.Yaml.Scalar

/-!
The tokens of a YAML text. Indentation becomes tokens of its own: a block collection starts with one
and ends with one. A key that turns out to be one only at its colon is marked afterwards, by tokens
that are put in before it.
-/

namespace BranchingStory.Yaml

/-- A token of a YAML text. -/
inductive Token where
  | versionDirective (major minor : Nat)
  | tagDirective (handle start : String)
  | documentStart
  | documentEnd
  | blockSequenceStart
  | blockMappingStart
  | blockEnd
  | flowSequenceStart
  | flowSequenceEnd
  | flowMappingStart
  | flowMappingEnd
  | blockEntry
  | flowEntry
  | key
  | value
  | alias (name : String)
  | anchor (name : String)
  | tag (handle suffix : String)
  | scalar (plain : Bool) (text : String)
  deriving Repr, DecidableEq

/-! ### Tags and directives -/

/-- Whether a character may stand in a tag; one that is written out in full may also have commas and
square brackets. -/
def isTagChar (wide : Bool) (c : Char) : Bool :=
  isNameChar c || ";/?:@&=+$.%!~*\x27()".toList.contains c || (wide && ",[]".toList.contains c)

/-- A byte that is written as two hexadecimal digits after a percent sign. -/
def percentByte? : List Char → Option (Nat × List Char)
  | '%' :: a :: b :: rest =>
    match hexValue? a, hexValue? b with
    | some m, some n => some (m * 16 + n, rest)
    | _, _ => none
  | _ => none

/-- How many bytes a character takes whose first byte is given, and the bits of it in that byte. -/
def leadingByte? (n : Nat) : Option (Nat × Nat) :=
  if n < 0x80 then some (0, n)
  else if 0xC0 ≤ n && n < 0xE0 then some (1, n - 0xC0)
  else if 0xE0 ≤ n && n < 0xF0 then some (2, n - 0xE0)
  else if 0xF0 ≤ n && n < 0xF8 then some (3, n - 0xF0)
  else none

/-- The bits of further bytes of a character, put to those so far. -/
def furtherBytes? : Nat → Nat → List Char → Option (Nat × List Char)
  | 0, bits, cs => some (bits, cs)
  | count + 1, bits, cs =>
    match percentByte? cs with
    | none => none
    | some (n, rest) =>
      if 0x80 ≤ n && n < 0xC0 then furtherBytes? count (bits * 64 + (n - 0x80)) rest else none

/-- The characters of a tag, with those written as bytes put in; `fuel` bounds their number. -/
def tagText? : Nat → List Char → Option (List Char)
  | _, [] => some []
  | 0, _ => none
  | fuel + 1, c :: rest =>
    if c = '%' then
      match percentByte? (c :: rest) with
      | none => none
      | some (n, rest) =>
        match leadingByte? n with
        | none => none
        | some (count, bits) =>
          match furtherBytes? count bits rest with
          | none => none
          | some (code, rest) => (tagText? fuel rest).map (Char.ofNat code :: ·)
    else (tagText? fuel rest).map (c :: ·)

/-- Reads the characters of a tag. -/
def readTagText? (wide : Bool) (cursor : Cursor) : Option (List Char × Cursor) :=
  let (taken, cursor) := cursor.takeWhile (isTagChar wide)
  (tagText? taken.length taken).map fun cs => (cs, cursor)

/-- Reads the handle of a tag: an exclamation mark, or a name between two. What lacks the second is
still given, as it may be the start of a tag without a handle. -/
def readHandle? (cursor : Cursor) : Option (List Char × Cursor) :=
  match cursor.rest with
  | '!' :: _ =>
    let (name, after) := (cursor.skip 1).takeWhile isNameChar
    match after.rest with
    | '!' :: _ => some ('!' :: name ++ ['!'], after.skip 1)
    | _ => some ('!' :: name, after)
  | _ => none

/-- Whether a handle has both of its marks. -/
def isClosedHandle (handle : List Char) : Bool :=
  decide (2 ≤ handle.length) && handle.getLast? == some '!'

/-- Reads a tag. In a flow collection a comma may follow it at once. -/
def readTag? (flow : Bool) (cursor : Cursor) : Option (Token × Cursor) := do
  let (token, after) ← match cursor.rest with
    | '!' :: '<' :: _ => do
      let (text, after) ← readTagText? true (cursor.skip 2)
      match after.rest with
      | '>' :: _ =>
        if text.isEmpty then none else some (Token.tag "" (String.ofList text), after.skip 1)
      | _ => none
    | _ => do
      let (handle, after) ← readHandle? cursor
      let (text, after) ← readTagText? false after
      if isClosedHandle handle then
        if text.isEmpty then none
        else some (Token.tag (String.ofList handle) (String.ofList text), after)
      else
        let suffix := handle.tail ++ text
        let token := if suffix.isEmpty then Token.tag "" "!" else .tag "!" (String.ofList suffix)
        some (token, after)
  if endsWord after.rest || (flow && after.rest.head? == some ',') then some (token, after)
  else none

/-- Reads the name of an anchor or alias after its mark. -/
def readAnchorName? (cursor : Cursor) : Option (String × Cursor) :=
  let (name, after) := (cursor.skip 1).takeWhile isNameChar
  let ends := endsWord after.rest ||
    (after.rest.head?.any fun c => "?:,]\x7d%@\x60".toList.contains c)
  if name.isEmpty || !ends then none else some (String.ofList name, after)

/-- Reads a number of a version. -/
def readVersionNumber? (cursor : Cursor) : Option (Nat × Cursor) :=
  let (digits, after) := cursor.takeWhile (fun c => '0' ≤ c && c ≤ '9')
  if digits.isEmpty || 9 < digits.length then none
  else some (digits.foldl (fun n c => n * 10 + (c.toNat - '0'.toNat)) 0, after)

/-- Reads a directive on to the next line. -/
def readDirective? (cursor : Cursor) : Option (Token × Cursor) := do
  let (name, after) := (cursor.skip 1).takeWhile isNameChar
  if !endsWord after.rest then none
  else
    let start := after.skipWhile isSpace
    let (token, after) ←
      if String.ofList name = "YAML" then do
        let (major, after) ← readVersionNumber? start
        match after.rest with
        | '.' :: _ =>
          let (minor, after) ← readVersionNumber? (after.skip 1)
          some (Token.versionDirective major minor, after)
        | _ => none
      else if String.ofList name = "TAG" then do
        let (handle, after) ← readHandle? start
        if !(handle = ['!'] || isClosedHandle handle) then none
        else if !(after.rest.head?.any isSpace) then none
        else
          let (text, after) ← readTagText? true (after.skipWhile isSpace)
          if text.isEmpty || !endsWord after.rest then none
          else some (Token.tagDirective (String.ofList handle) (String.ofList text), after)
      else none
    let after ← after.finishLine?
    some (token, after)

end BranchingStory.Yaml
