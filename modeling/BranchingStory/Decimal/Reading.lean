import BranchingStory.Decimal.Power

/-!
Reading numbers from text: doubles in decimal notation, and natural numbers that fit an index.
-/

namespace BranchingStory.Decimal

/-- The number written by decimal digits, most significant first. -/
def digitsValue (digits : List Char) : Nat :=
  digits.foldl (fun n c => n * 10 + (c.toNat - '0'.toNat)) 0

/-- The double nearest to `mantissa * 10 ^ exponent`; sizes far outside the range of doubles become
infinity or zero without being computed. -/
def nearest (mantissa : Nat) (exponent : Int) : Float :=
  if mantissa = 0 then 0
  else
    let size := (Nat.toDigits 10 mantissa).length + exponent
    if 400 < size then 1 / 0
    else if size < -400 then 0
    else Float.ofScientific mantissa (decide (exponent < 0)) exponent.natAbs

def isDigit (c : Char) : Bool := '0' ≤ c && c ≤ '9'

/-- An exponent part: `e`, an optional sign and at least one digit, or nothing at all. -/
def exponentPart? : List Char → Option Int
  | [] => some 0
  | e :: rest =>
    if e = 'e' || e = 'E' then
      let (negative, digits) := match rest with
        | '-' :: ds => (true, ds)
        | '+' :: ds => (false, ds)
        | ds => (false, ds)
      if digits.isEmpty || !digits.all isDigit then none
      else
        let size : Int := digitsValue digits
        some (if negative then -size else size)
    else none

/-- An unsigned decimal: digits with at most one point and at least one digit, then an exponent. -/
def unsigned? (cs : List Char) : Option Float :=
  let whole := cs.takeWhile isDigit
  let rest := cs.dropWhile isDigit
  let (fraction, rest) := match rest with
    | '.' :: more => (more.takeWhile isDigit, more.dropWhile isDigit)
    | more => ([], more)
  if whole.isEmpty && fraction.isEmpty then none
  else
    match exponentPart? rest with
    | some e => some (nearest (digitsValue (whole ++ fraction)) (e - fraction.length))
    | none => none

/-- A double from text: an optional sign, then `inf`, `infinity` or `nan` in any case of letters, or
a decimal. -/
def float? (text : String) : Option Float :=
  let (negative, body) := match text.toList with
    | '-' :: rest => (true, rest)
    | '+' :: rest => (false, rest)
    | rest => (false, rest)
  let word := String.ofList (body.map Char.toLower)
  let size : Option Float :=
    if word = "inf" || word = "infinity" then some (1 / 0)
    else if word = "nan" then some (0 / 0)
    else unsigned? body
  match size with
  | some x => some (if negative then -x else x)
  | none => none

/-- An index from text: decimal digits with an optional plus sign, below `2 ^ 64`. -/
def index? (text : String) : Option Nat :=
  let digits := match text.toList with
    | '+' :: rest => rest
    | rest => rest
  if digits.isEmpty || !digits.all isDigit then none
  else
    let n := digitsValue digits
    if n < twoTo 64 then some n else none

end BranchingStory.Decimal
