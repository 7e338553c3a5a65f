import BranchingStory.Decimal.Binary
import BranchingStory.Decimal.Power

/-!
The fewest decimal digits that read back as a given double. For one digit, two digits and so on the
two neighbours of the value on that decimal grid are tried; the first grid with a neighbour inside
the interval of reals that round to the value wins, and of two neighbours the nearer one is taken.
-/

namespace BranchingStory.Decimal

/-- Which of two equally near decimals is written. -/
inductive Tie where
  | up
  | even
  deriving Repr, DecidableEq

/-- A positive decimal: its digits as a number, and the decimal exponent of the first digit. -/
structure Digits where
  digits : Nat
  exponent : Int
  deriving Repr, DecidableEq

/-- The number of decimal digits of a positive number. -/
def digitCount (n : Nat) : Nat := (Nat.toDigits 10 n).length

/-- A positive double times `scale`, with the ends of the interval of reals that round to it. -/
structure Interval where
  value : Nat
  low : Nat
  high : Nat
  scale : Nat
  closed : Bool

/-- The interval of reals that round to `mantissa * 2 ^ exponent`. Its ends belong to it if the
mantissa is even, and below a power of two the gap is half as wide. -/
def Interval.around (mantissa : Nat) (exponent : Int) : Interval :=
  let narrow := mantissa == twoTo 52 && decide (Binary.leastExponent < exponent)
  let up := twoTo (exponent - 2).toNat
  { value := 4 * mantissa * up
    low := (4 * mantissa - if narrow then 1 else 2) * up
    high := (4 * mantissa + 2) * up
    scale := twoTo (2 - exponent).toNat
    closed := mantissa % 2 == 0 }

/-- Whether `numerator / denominator` lies in the interval. -/
def Interval.contains (i : Interval) (numerator denominator : Nat) : Bool :=
  let x := numerator * i.scale
  if i.closed then i.low * denominator ≤ x && x ≤ i.high * denominator
  else i.low * denominator < x && x < i.high * denominator

/-- The decimal exponent of the first digit of `numerator / denominator`. -/
def leadingExponent (numerator denominator : Nat) : Int :=
  if denominator ≤ numerator then (digitCount (numerator / denominator) : Int) - 1
  else
    let steps := (denominator + numerator - 1) / numerator
    Int.negOfNat (digitCount (steps - 1))

/-- The power `10 ^ k` as a fraction. -/
def powerOfTen (k : Int) : Nat × Nat := (tenTo k.toNat, tenTo (-k).toNat)

/-- The decimal with `count` digits that lies in the interval and is nearest to its value. -/
def Interval.onGrid? (tie : Tie) (i : Interval) (leading : Int) (count : Nat) : Option Nat :=
  let (up, down) := powerOfTen (leading - count + 1)
  let below := i.value * down / (i.scale * up)
  let rest := i.value * down - below * (i.scale * up)
  let lowerFits := i.contains (below * up) down
  let upperFits := i.contains ((below + 1) * up) down
  let preferUpper :=
    if 2 * rest = i.scale * up then
      match tie with
      | .up => true
      | .even => below % 2 == 1
    else decide (i.scale * up < 2 * rest)
  match lowerFits, upperFits with
  | true, true => some (if preferUpper then below + 1 else below)
  | true, false => some below
  | false, true => some (below + 1)
  | false, false => none

/-- The first grid among `tries` grids, from `count` digits on, that holds a decimal for the
value. -/
def Interval.firstGrid (tie : Tie) (i : Interval) (leading : Int) : Nat → Nat → Digits
  | 0, count => ⟨i.value / i.scale, count⟩
  | tries + 1, count =>
    match i.onGrid? tie leading count with
    | some d =>
      if d = tenTo count then ⟨1, leading + 1⟩ else ⟨d, leading⟩
    | none => i.firstGrid tie leading tries (count + 1)

/-- The fewest digits that read back as the positive double `mantissa * 2 ^ exponent`. -/
def shortest (tie : Tie) (mantissa : Nat) (exponent : Int) : Digits :=
  let i := Interval.around mantissa exponent
  i.firstGrid tie (leadingExponent i.value i.scale) 17 1

end BranchingStory.Decimal
