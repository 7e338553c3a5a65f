/-!
Characters of a YAML text and the place where reading stands. Line breaks are put into one form
before anything is read, so that a break is always a single character.
-/

namespace BranchingStory.Yaml

/-- Whether a character may stand in a text at all. -/
def isAllowed (c : Char) : Bool :=
  let n := c.toNat
  n == 0x09 || n == 0x0A || n == 0x0D || (0x20 ≤ n && n ≤ 0x7E) || n == 0x85 ||
    (0xA0 ≤ n && n ≤ 0xD7FF) || (0xE000 ≤ n && n ≤ 0xFFFD) || 0x10000 ≤ n

/-- The mark that may stand at the very start of a text. -/
def byteOrderMark : Char := '\ufeff'

/-- The text with one form of line break; the line and paragraph separators stay what they are. -/
def normalizeBreaks : List Char → List Char
  | [] => []
  | '\r' :: '\n' :: rest => '\n' :: normalizeBreaks rest
  | c :: rest => (if c = '\r' || c = '\u0085' then '\n' else c) :: normalizeBreaks rest

def isBreak (c : Char) : Bool := c = '\n' || c = '\u2028' || c = '\u2029'

/-- Whether a character is white space inside a line. -/
def isSpace (c : Char) : Bool := c = ' ' || c = '\t'

/-- Whether a text has ended or goes on with white space or a break. -/
def endsWord : List Char → Bool
  | [] => true
  | c :: _ => isSpace c || isBreak c

/-- Whether a text has ended or goes on with a break. -/
def endsLine : List Char → Bool
  | [] => true
  | c :: _ => isBreak c

/-- Whether a character may stand in the name of an anchor or of a tag's handle. -/
def isNameChar (c : Char) : Bool := c.isAlphanum || c = '_' || c = '-'

/-- A place in a text, counted from zero. -/
structure Position where
  line : Nat := 0
  column : Nat := 0
  index : Nat := 0
  deriving Repr, DecidableEq

/-- The place after a character. -/
def Position.past (p : Position) (c : Char) : Position :=
  if isBreak c then ⟨p.line + 1, 0, p.index + 1⟩ else ⟨p.line, p.column + 1, p.index + 1⟩

/-- A place in a text and what follows it. -/
structure Cursor where
  position : Position
  rest : List Char

namespace Cursor

def column (c : Cursor) : Nat := c.position.column

/-- Moves past `n` characters. -/
def skip : Nat → Cursor → Cursor
  | n + 1, ⟨p, c :: rest⟩ => skip n ⟨p.past c, rest⟩
  | _, cursor => cursor

/-- Moves past all characters up to one that fails a test, and gives them. -/
def takeWhile (test : Char → Bool) (c : Cursor) : List Char × Cursor :=
  let taken := c.rest.takeWhile test
  (taken, c.skip taken.length)

def skipWhile (test : Char → Bool) (c : Cursor) : Cursor := (c.takeWhile test).2

/-- Moves to the next line, past white space and a comment only. -/
def finishLine? (c : Cursor) : Option Cursor :=
  let c := c.skipWhile isSpace
  let c := match c.rest with
    | '#' :: _ => c.skipWhile (fun d => !isBreak d)
    | _ => c
  if endsLine c.rest then some (c.skip 1) else none

end Cursor

/-- Whether a line starts with one of the two marks between documents. -/
def atDocumentMark (column : Nat) : List Char → Bool
  | '-' :: '-' :: '-' :: rest => column == 0 && endsWord rest
  | '.' :: '.' :: '.' :: rest => column == 0 && endsWord rest
  | _ => false

end BranchingStory.Yaml
