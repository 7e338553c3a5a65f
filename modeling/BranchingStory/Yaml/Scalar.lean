import BranchingStory.Yaml.Cursor

/-!
The texts of scalars: plain ones, quoted ones and blocks. Breaks between the lines of a plain or
quoted scalar fold: one break is a space, and each further one is kept.
-/

namespace BranchingStory.Yaml

/-! ### Gaps between words -/

/-- White space between the words of a scalar: inside a line, or across lines with the first break,
if there is one to fold, and the breaks after it. All characters stand last first. -/
inductive Gap where
  | spaces (read : List Char)
  | lines (first : Option Char) (more : List Char)

namespace Gap

def none : Gap := .spaces []

def crossesLines : Gap → Bool
  | .spaces _ => false
  | .lines _ _ => true

/-- The gap with one more character of white space or break. -/
def extend (c : Char) : Gap → Gap
  | .spaces read => if isBreak c then .lines (some c) [] else .spaces (c :: read)
  | .lines first more => if isBreak c then .lines first (c :: more) else .lines first more

/-- The characters that a gap stands for, last first. -/
def folded : Gap → List Char
  | .spaces read => read
  | .lines (some '\n') [] => [' ']
  | .lines (some '\n') more => more
  | .lines (some c) more => more ++ [c]
  | .lines Option.none more => more

end Gap

/-! ### Plain scalars -/

/-- Characters that end a plain scalar inside a flow collection. -/
def isFlowMark (c : Char) : Bool :=
  c = ',' || c = '[' || c = ']' || c = '\x7b' || c = '\x7d'

/-- A scalar that was read: its text, whether the gap after it crosses lines, and where it ends. -/
structure PlainText where
  text : String
  crossesLines : Bool
  cursor : Cursor

/-- Reads a plain scalar on from its characters so far, last first. In a block the scalar ends at a
line that is indented less than `indent`. Nothing is given if the text is not well-formed. -/
def plainFrom (flow : Bool) (indent : Int) (read : List Char) (gap : Gap) (p : Position) :
    List Char → Option PlainText
  | [] => some ⟨String.ofList read.reverse, gap.crossesLines, ⟨p, []⟩⟩
  | c :: rest =>
    let done := some ⟨String.ofList read.reverse, gap.crossesLines, ⟨p, c :: rest⟩⟩
    if isSpace c || isBreak c then
      if c = '\t' && gap.crossesLines && decide ((p.column : Int) < indent) then none
      else plainFrom flow indent read (gap.extend c) (p.past c) rest
    else
      let afterGap := match gap with
        | .spaces [] => false
        | _ => true
      if afterGap && ((!flow && decide ((p.column : Int) < indent)) || c = '#' ||
          atDocumentMark p.column (c :: rest)) then done
      else if flow && c = ':' && (rest.head?.any fun d => isFlowMark d || d = '?') then none
      else if (c = ':' && endsWord rest) || (flow && isFlowMark c) then done
      else plainFrom flow indent (c :: (gap.folded ++ read)) .none (p.past c) rest

/-! ### Quoted scalars -/

/-- What is read inside quotes: characters, the character after a backslash, or the digits of a
character code with how many are left. -/
inductive QuoteState where
  | plain
  | escape
  | code (left value : Nat)

/-- The value of a hexadecimal digit. -/
def hexValue? (c : Char) : Option Nat :=
  if '0' ≤ c && c ≤ '9' then some (c.toNat - '0'.toNat)
  else if 'a' ≤ c && c ≤ 'f' then some (c.toNat - 'a'.toNat + 10)
  else if 'A' ≤ c && c ≤ 'F' then some (c.toNat - 'A'.toNat + 10)
  else none

/-- The character that an escape stands for. -/
def escaped? : Char → Option Char
  | '0' => some '\x00'
  | 'a' => some '\x07'
  | 'b' => some '\x08'
  | 't' => some '\t'
  | '\t' => some '\t'
  | 'n' => some '\n'
  | 'v' => some '\x0B'
  | 'f' => some '\x0C'
  | 'r' => some '\r'
  | 'e' => some '\x1B'
  | ' ' => some ' '
  | '\x22' => some '\x22'
  | '/' => some '/'
  | '\\' => some '\\'
  | 'N' => some '\u0085'
  | '_' => some '\u00a0'
  | 'L' => some '\u2028'
  | 'P' => some '\u2029'
  | _ => none

/-- How many digits of a character code follow an escape. -/
def codeLength? : Char → Option Nat
  | 'x' => some 2
  | 'u' => some 4
  | 'U' => some 8
  | _ => none

/-- The character of a code. -/
def charOfCode? (n : Nat) : Option Char :=
  if (0xD800 ≤ n && n ≤ 0xDFFF) || 0x10FFFF < n then none else some (Char.ofNat n)

/-- Reads a text in apostrophes, where two of them stand for one, on to its end. -/
def apostrophedFrom (read : List Char) (gap : Gap) (p : Position) :
    List Char → Option (String × Cursor)
  | [] => none
  | '\x27' :: '\x27' :: rest =>
    apostrophedFrom ('\x27' :: (gap.folded ++ read)) .none ((p.past '\x27').past '\x27') rest
  | c :: rest =>
    if isSpace c || isBreak c then apostrophedFrom read (gap.extend c) (p.past c) rest
    else if atDocumentMark p.column (c :: rest) then none
    else if c = '\x27' then
      some (String.ofList (gap.folded ++ read).reverse, ⟨p.past c, rest⟩)
    else apostrophedFrom (c :: (gap.folded ++ read)) .none (p.past c) rest

/-- Reads a text in quotation marks, with escapes, on to its end. -/
def quotedFrom (state : QuoteState) (read : List Char) (gap : Gap) (p : Position) :
    List Char → Option (String × Cursor)
  | [] => none
  | c :: rest =>
    match state with
    | .escape =>
      if isBreak c then quotedFrom .plain read (.lines none []) (p.past c) rest
      else
        match escaped? c, codeLength? c with
        | some d, _ => quotedFrom .plain (d :: read) .none (p.past c) rest
        | none, some left => quotedFrom (.code left 0) read .none (p.past c) rest
        | none, none => none
    | .code left value =>
      match hexValue? c with
      | none => none
      | some digit =>
        let value := value * 16 + digit
        if left ≤ 1 then
          match charOfCode? value with
          | none => none
          | some d => quotedFrom .plain (d :: read) .none (p.past c) rest
        else quotedFrom (.code (left - 1) value) read .none (p.past c) rest
    | .plain =>
      if isSpace c || isBreak c then quotedFrom .plain read (gap.extend c) (p.past c) rest
      else if atDocumentMark p.column (c :: rest) then none
      else
        let read := gap.folded ++ read
        if c = '\x22' then some (String.ofList read.reverse, ⟨p.past c, rest⟩)
        else if c = '\\' then quotedFrom .escape read .none (p.past c) rest
        else quotedFrom .plain (c :: read) .none (p.past c) rest

/-! ### Blocks -/

/-- What becomes of the breaks at the end of a block. -/
inductive Chomping where
  | strip
  | clip
  | keep
  deriving Repr, DecidableEq

/-- The header of a block: chomping, and how much the block is indented if that is written. -/
structure BlockHeader where
  chomping : Chomping := .clip
  increment : Option Nat := none

def chomping? : Char → Option Chomping
  | '+' => some .keep
  | '-' => some .strip
  | _ => none

def increment? (c : Char) : Option Nat :=
  if '1' ≤ c && c ≤ '9' then some (c.toNat - '0'.toNat) else none

/-- The header at the start of a text, and how many characters it has. -/
def blockHeader (cs : List Char) : BlockHeader × Nat :=
  match cs.head?.bind chomping?, cs.head?.bind increment? with
  | some chomping, _ =>
    match cs.tail.head?.bind increment? with
    | some n => (⟨chomping, some n⟩, 2)
    | none => (⟨chomping, none⟩, 1)
  | none, some n =>
    match cs.tail.head?.bind chomping? with
    | some chomping => (⟨chomping, some n⟩, 2)
    | none => (⟨.clip, some n⟩, 1)
  | none, none => ({}, 0)

/-- A block as far as it was read: its characters, the break after the last line and the breaks of
empty lines after that, all last first; whether the last line starts with white space; and how far
empty lines were indented. -/
structure BlockText where
  read : List Char := []
  lineBreak : Option Char := none
  emptyLines : List Char := []
  startsBlank : Bool := false
  widest : Nat := 0

namespace BlockText

/-- Begins a line with its first character. Between lines that start with no white space a folded
block has a space for a single break. -/
def beginLine (b : BlockText) (folded : Bool) (c : Char) : BlockText :=
  let joint :=
    if folded && b.lineBreak == some '\n' && !b.startsBlank && !isSpace c then
      if b.emptyLines.isEmpty then [' '] else []
    else b.lineBreak.toList
  { read := c :: (b.emptyLines ++ (joint ++ b.read)), startsBlank := isSpace c }

/-- The text of the whole block. -/
def finish (b : BlockText) (chomping : Chomping) : String :=
  let ending := match chomping with
    | .strip => []
    | .clip => b.lineBreak.toList
    | .keep => b.emptyLines ++ b.lineBreak.toList
  String.ofList (ending ++ b.read).reverse

end BlockText

/-- Reads a block on to its end. `indent` is how much its lines are indented, or nothing while that
is to be found from the first line that is not empty; `least` is the least that it can be. -/
def blockFrom (folded : Bool) (chomping : Chomping) (least : Nat) (indent : Option Nat)
    (inLine : Bool) (b : BlockText) (p : Position) : List Char → Option (String × Cursor)
  | [] => some (b.finish chomping, ⟨p, []⟩)
  | c :: rest =>
    if inLine then
      if isBreak c then
        blockFrom folded chomping least indent false { b with lineBreak := some c } (p.past c) rest
      else
        blockFrom folded chomping least indent true { b with read := c :: b.read } (p.past c) rest
    else
      let indenting := match indent with
        | none => true
        | some n => decide (p.column < n)
      let widest := max b.widest p.column
      if indenting && c = ' ' then
        blockFrom folded chomping least indent false { b with widest } (p.past c) rest
      else if indenting && c = '\t' then none
      else if isBreak c then
        blockFrom folded chomping least indent false
          { b with emptyLines := c :: b.emptyLines, widest } (p.past c) rest
      else
        let found := indent.getD (max widest least)
        if p.column = found then
          blockFrom folded chomping least (some found) true (b.beginLine folded c) (p.past c) rest
        else some (b.finish chomping, ⟨p, c :: rest⟩)

end BranchingStory.Yaml
