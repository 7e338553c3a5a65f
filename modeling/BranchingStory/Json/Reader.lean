import BranchingStory.Decimal.Power
import BranchingStory.Decimal.Reading
import BranchingStory.Json.Basic

/-!
Reading data trees from JSON text. A text that is no JSON fails with the line at which reading
stopped. Trees nest at most 127 deep. A number with a point or an exponent, and an integer beyond 64
bits, is a double: its leading digits as far as they fit 64 bits, scaled by a power of ten.
-/

namespace BranchingStory.Json

/-- What remains to be read, and the line it is on. -/
structure Cursor where
  line : Nat
  rest : List Char

/-- A reading step: it fails with a line number, or yields a result and moves the cursor. -/
abbrev Reader (α : Type) := StateT Cursor (Except Nat) α

namespace Reader

/-- The next character, left in place. -/
def peek : Reader (Option Char) := fun c => .ok (c.rest.head?, c)

/-- The cursor behind the next character. -/
def Cursor.advance (c : Cursor) : Cursor :=
  match c.rest with
  | [] => c
  | x :: rest => ⟨if x = '\n' then c.line + 1 else c.line, rest⟩

/-- Takes the next character. -/
def next : Reader (Option Char) := fun c => .ok (c.rest.head?, Cursor.advance c)

/-- Fails behind what was taken. -/
def fail {α : Type} : Reader α := fun c => .error c.line

/-- Fails behind the next character. -/
def failNext {α : Type} : Reader α := fun c => .error (Cursor.advance c).line

/-- The line and the text behind white space. -/
def skipBlanks (line : Nat) : List Char → Cursor
  | [] => ⟨line, []⟩
  | c :: rest =>
    if c = '\n' then skipBlanks (line + 1) rest
    else if c = ' ' || c = '\t' || c = '\r' then skipBlanks line rest
    else ⟨line, c :: rest⟩

/-- The next character behind white space, left in place. -/
def peekToken : Reader (Option Char) := fun c =>
  let c := skipBlanks c.line c.rest
  .ok (c.rest.head?, c)

/-- Takes the digits that come next. -/
def digits : Reader (List Char) := fun c =>
  .ok (c.rest.takeWhile Decimal.isDigit, ⟨c.line, c.rest.dropWhile Decimal.isDigit⟩)

/-! ### Numbers -/

/-- Leading digits of a number as far as they fit 64 bits. -/
structure Significand where
  value : Nat
  /-- How many digits went into the value. -/
  taken : Nat
  /-- How many digits were left out. -/
  dropped : Nat

/-- Takes digits into the significand until one more would not fit 64 bits. -/
def Significand.push (s : Significand) (digit : Char) : Significand :=
  let value := s.value * 10 + (digit.toNat - '0'.toNat)
  if s.dropped = 0 && value < Decimal.twoTo 64 then ⟨value, s.taken + 1, 0⟩
  else { s with dropped := s.dropped + 1 }

/-- The double `f * 10 ^ exponent`, in steps of at most 308 places. A number that is too large has
no double. -/
def scaled? (f : Float) (exponent : Int) : Nat → Option Float
  | 0 => some f
  | fuel + 1 =>
    if exponent.natAbs ≤ 308 then
      let power := Float.ofScientific 1 false exponent.natAbs
      if 0 ≤ exponent then
        let g := f * power
        if g.isFinite then some g else none
      else some (f / power)
    else if f == 0 then some f
    else if 0 ≤ exponent then none
    else scaled? (f / Float.ofScientific 1 false 308) (exponent + 308) fuel

/-- A number from its parts. -/
def float (negative : Bool) (significand : Nat) (exponent : Int) : Reader Json :=
  match scaled? (Float.ofNat significand) exponent 4 with
  | some f => pure (.number (.float (if negative then -f else f)))
  | none => fail

/-- The exponent part of a number, from its letter on. -/
def exponentPart (negative : Bool) (significand : Nat) (start : Int) : Reader Json := do
  let _ ← next
  let sign ← peek
  let negativeExponent := sign = some '-'
  if sign = some '-' || sign = some '+' then
    let _ ← next
  match ← next with
  | none => fail
  | some c =>
    if !Decimal.isDigit c then fail
    else
      let size := Decimal.digitsValue (c :: (← digits))
      if Decimal.twoTo 31 ≤ size then
        if significand ≠ 0 && !negativeExponent then fail
        else pure (.number (.float (if negative then -0.0 else 0.0)))
      else float negative significand (if negativeExponent then start - size else start + size)

/-- The rest of a number whose digits so far are a double. -/
def floatTail (negative : Bool) (significand : Nat) (exponent : Int) : Reader Json := do
  match ← peek with
  | some 'e' => exponentPart negative significand exponent
  | some 'E' => exponentPart negative significand exponent
  | _ => float negative significand exponent

/-- The digits behind the point, from the point on. -/
def fraction (negative : Bool) (significand : Nat) (before : Nat) : Reader Json := do
  let _ ← next
  let ds ← digits
  if ds.isEmpty then failNext
  else
    let s := ds.foldl Significand.push ⟨significand, 0, 0⟩
    floatTail negative s.value ((before : Int) - s.taken)

/-- An integer of 64 bits, or else a double. -/
def integer (negative : Bool) (n : Nat) : Json.Number :=
  if !negative then .int n
  else if 0 < n && n ≤ Decimal.twoTo 63 then .int (-(n : Int))
  else .float (-(Float.ofNat n))

/-- A number, from its first digit on. -/
def number (negative : Bool) : Reader Json := do
  match ← next with
  | none => fail
  | some c =>
    if !Decimal.isDigit c then fail
    else
      let more ← digits
      if c = '0' && !more.isEmpty then fail
      else
        let s := (c :: more).foldl Significand.push ⟨0, 0, 0⟩
        match ← peek with
        | some '.' => fraction negative s.value s.dropped
        | some 'e' => exponentPart negative s.value s.dropped
        | some 'E' => exponentPart negative s.value s.dropped
        | _ =>
          if s.dropped = 0 then pure (.number (integer negative s.value))
          else float negative s.value s.dropped

/-! ### Texts -/

def hexDigit? (c : Char) : Option Nat :=
  let n := c.toNat
  if '0'.toNat ≤ n && n ≤ '9'.toNat then some (n - '0'.toNat)
  else if 'a'.toNat ≤ n && n ≤ 'f'.toNat then some (n - 'a'.toNat + 10)
  else if 'A'.toNat ≤ n && n ≤ 'F'.toNat then some (n - 'A'.toNat + 10)
  else none

/-- The value of a run of hexadecimal digits. -/
def hexValue? (cs : List Char) : Option Nat :=
  cs.foldl (fun n c => do return (← n) * 16 + (← hexDigit? c)) (some 0)

/-- Takes characters up to a number of bytes. -/
def takeBytes : Nat → Reader (List Char)
  | 0 => pure []
  | bytes + 1 => do
    match ← next with
    | none => pure []
    | some c => return c :: (← takeBytes (bytes + 1 - c.utf8Size))
termination_by bytes => bytes
decreasing_by have := c.utf8Size_pos; omega

/-- The code of an escape, from behind its letter on. -/
def hexEscape : Reader Nat := do
  let cs ← takeBytes 4
  match cs, hexValue? cs with
  | [_, _, _, _], some n => pure n
  | _, _ => fail

/-- Takes the next character if it is the given one. -/
def expect (expected : Char) : Reader Unit := do
  if (← next) = some expected then pure () else fail

/-- A character written by one escape or by a pair of them. -/
def unicodeEscape : Reader Char := do
  let high ← hexEscape
  if 0xDC00 ≤ high && high ≤ 0xDFFF then fail
  else if high < 0xD800 || 0xDBFF < high then pure (Char.ofNat high)
  else
    expect '\\'
    expect 'u'
    let low ← hexEscape
    if low < 0xDC00 || 0xDFFF < low then fail
    else pure (Char.ofNat ((high - 0xD800) * 0x400 + (low - 0xDC00) + 0x10000))

/-- The character behind a backslash. -/
def escape : Reader Char := do
  match ← next with
  | some '"' => pure '"'
  | some '\\' => pure '\\'
  | some '/' => pure '/'
  | some 'b' => pure (Char.ofNat 8)
  | some 'f' => pure (Char.ofNat 12)
  | some 'n' => pure '\n'
  | some 'r' => pure '\r'
  | some 't' => pure '\t'
  | some 'u' => unicodeEscape
  | _ => fail

/-- A text, from behind its opening quote on. -/
def textBody : Nat → List Char → Reader String
  | 0, _ => fail
  | fuel + 1, done => do
    match ← next with
    | none => fail
    | some '"' => pure (String.ofList done.reverse)
    | some '\\' => textBody fuel ((← escape) :: done)
    | some c => if c.toNat < 0x20 then fail else textBody fuel (c :: done)

/-! ### Trees -/

/-- The rest of a word. -/
def word : List Char → Reader Unit
  | [] => pure ()
  | c :: rest => do
    expect c
    word rest

mutual

/-- A tree; `levels` is one more than the levels that may still be opened. -/
def tree : Nat → Nat → Reader Json
  | 0, _ => fail
  | fuel + 1, levels => do
    match ← peekToken with
    | none => fail
    | some c =>
      match c with
      | 'n' => do word "null".toList; pure .null
      | 't' => do word "true".toList; pure (.bool true)
      | 'f' => do word "false".toList; pure (.bool false)
      | '-' => do let _ ← next; number true
      | '"' => do let _ ← next; return .text (← textBody fuel [])
      | '[' =>
        if levels ≤ 1 then fail
        else do let _ ← next; return .list (← items fuel (levels - 1) true)
      | '\x7b' =>
        if levels ≤ 1 then fail
        else do let _ ← next; return .object (← fields fuel (levels - 1) true)
      | _ => if Decimal.isDigit c then number false else fail

/-- The items of a list up to its closing bracket. -/
def items : Nat → Nat → Bool → Reader (List Json)
  | 0, _, _ => fail
  | fuel + 1, levels, first => do
    match ← peekToken with
    | some ']' => do let _ ← next; pure []
    | some ',' =>
      if first then fail
      else do
        let _ ← next
        if (← peekToken) = some ']' then fail
        else return (← tree fuel levels) :: (← items fuel levels false)
    | some _ =>
      if first then return (← tree fuel levels) :: (← items fuel levels false)
      else fail
    | none => fail

/-- The fields of an object up to its closing bracket, as often as they are written. -/
def fields : Nat → Nat → Bool → Reader (List (String × Json))
  | 0, _, _ => fail
  | fuel + 1, levels, first => do
    match ← peekToken with
    | some '\x7d' => do let _ ← next; pure []
    | some ',' =>
      if first then fail
      else do
        let _ ← next
        field fuel levels
    | some _ => if first then field fuel levels else fail
    | none => fail

/-- A field and those that follow it. -/
def field : Nat → Nat → Reader (List (String × Json))
  | 0, _ => fail
  | fuel + 1, levels => do
    if (← peekToken) ≠ some '"' then fail
    else
      let _ ← next
      let key ← textBody fuel []
      if (← peekToken) ≠ some ':' then fail
      else
        let _ ← next
        let value ← tree fuel levels
        return (key, value) :: (← fields fuel levels false)

end

/-- A whole text: one tree with nothing but white space around it. -/
def document (fuel : Nat) : Reader Json := do
  let t ← tree fuel 128
  if (← peekToken).isSome then fail else pure t

end Reader

/-- The tree of a text with fields as often as they are written, or the line where reading
failed. -/
def scan (text : String) : Except Nat Json :=
  let cs := text.toList
  (Reader.document (2 * cs.length + 2) ⟨1, cs⟩).map Prod.fst

/-- The tree of a text, or the line where reading failed. A repeated key takes its last value. -/
def parse (text : String) : Except Nat Json :=
  (scan text).map distinctKeys

end BranchingStory.Json
