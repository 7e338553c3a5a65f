import BranchingStory.Decimal.Power
import BranchingStory.Decimal.Shortest

/-!
The written forms of a double. Both use the fewest digits that read back: plain text is always
positional, and the form used in JSON turns to an exponent for very large and very small numbers.
-/

namespace BranchingStory.Decimal

/-- How the digits of a number are laid out. -/
structure Layout where
  /-- Which of two equally short and near decimals is written. -/
  tie : Tie
  /-- The least exponent of a first digit that is written positionally, if there is one. -/
  least : Option Int
  /-- The greatest exponent of a first digit that is written positionally, if there is one. -/
  greatest : Option Int
  /-- Whether an integral number in positional form ends in `.0`. -/
  pointZero : Bool

def zeros (n : Nat) : List Char := List.replicate n '0'

/-- Digits with the point behind place `exponent`. -/
def positional (pointZero : Bool) (digits : List Char) (exponent : Int) : List Char :=
  if exponent < 0 then '0' :: '.' :: zeros (-exponent - 1).toNat ++ digits
  else
    let whole := exponent.toNat + 1
    if digits.length ≤ whole then
      digits ++ zeros (whole - digits.length) ++ if pointZero then ['.', '0'] else []
    else digits.take whole ++ '.' :: digits.drop whole

/-- Digits with the point behind the first one, and a signed exponent. -/
def scientific (digits : List Char) (exponent : Int) : List Char :=
  let fraction := digits.drop 1
  digits.take 1 ++ (if fraction.isEmpty then [] else '.' :: fraction) ++
    'e' :: (if exponent < 0 then '-' else '+') :: Nat.toDigits 10 exponent.natAbs

/-- The text of a positive decimal. -/
def Layout.positive (l : Layout) (d : Digits) : List Char :=
  let digits := Nat.toDigits 10 d.digits
  let small := match l.least with
    | some e => decide (d.exponent < e)
    | none => false
  let large := match l.greatest with
    | some e => decide (e < d.exponent)
    | none => false
  if small || large then scientific digits d.exponent
  else positional l.pointZero digits d.exponent

/-- The text of a finite double. -/
def Layout.finite (l : Layout) (negative : Bool) (mantissa : Nat) (exponent : Int) : String :=
  let sign := if negative then ['-'] else []
  let body :=
    if mantissa = 0 then '0' :: if l.pointZero then ['.', '0'] else []
    else l.positive (shortest l.tie mantissa exponent)
  String.ofList (sign ++ body)

/-- Plain text: positional at every size, without a point for integers. -/
def plainLayout : Layout := ⟨.up, none, none, false⟩

/-- Text in JSON: positional from `0.00001` up to sixteen integer digits, and always with a point
or an exponent. -/
def jsonLayout : Layout := ⟨.even, some (-5), some 15, true⟩

/-- The plain text of a double. -/
def plain (x : Float) : String :=
  match Binary.ofFloat x with
  | .finite negative mantissa exponent => plainLayout.finite negative mantissa exponent
  | .infinite negative => if negative then "-inf" else "inf"
  | .nan => "NaN"

/-- The whole number a double stands for where its part behind the point is below `2 ^ -52` and its
size is below `2 ^ 63`. -/
def roughInteger? (x : Float) : Option Int :=
  match Binary.ofFloat x with
  | .finite negative mantissa exponent =>
    let whole := wholePart mantissa exponent
    if nearlyWhole mantissa exponent && decide (whole < twoTo 63) then
      some (if negative then -(whole : Int) else whole)
    else none
  | _ => none

/-- The whole number equal to a double, if its size is below `2 ^ 63`. -/
def exactInteger? (x : Float) : Option Int :=
  match Binary.ofFloat x with
  | .finite negative mantissa exponent =>
    let whole := wholePart mantissa exponent
    if isWhole mantissa exponent && decide (whole < twoTo 63) then
      some (if negative then -(whole : Int) else whole)
    else none
  | _ => none

/-- The text of a number in a story: an integer where the number is one for all practical purposes,
else the plain text. -/
def storyText (x : Float) : String :=
  match roughInteger? x with
  | some i => toString i
  | none => plain x

end BranchingStory.Decimal
