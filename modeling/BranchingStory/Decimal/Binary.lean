import BranchingStory.Decimal.Power

/-!
Doubles as exact binary fractions. Everything the library prints about a number is computed from
this form in natural numbers.
-/

namespace BranchingStory.Decimal

/-- A double: a signed binary fraction `mantissa * 2 ^ exponent`, an infinity, or not a number. -/
inductive Binary where
  | finite (negative : Bool) (mantissa : Nat) (exponent : Int)
  | infinite (negative : Bool)
  | nan
  deriving Repr, DecidableEq

/-- The least exponent of a double. -/
def Binary.leastExponent : Int := -1074

/-- The exact value of a double. -/
def Binary.ofFloat (x : Float) : Binary :=
  let bits := x.toBits.toNat
  let negative := bits / twoTo 63 == 1
  let biased : Nat := bits / twoTo 52 % twoTo 11
  let fraction := bits % twoTo 52
  if biased = 2047 then
    if fraction = 0 then .infinite negative else .nan
  else if biased = 0 then .finite negative fraction leastExponent
  else .finite negative (fraction + twoTo 52) ((biased : Int) - 1075)

/-- The integer part of `mantissa * 2 ^ exponent`. -/
def wholePart (mantissa : Nat) (exponent : Int) : Nat :=
  if 0 ≤ exponent then mantissa * twoTo exponent.toNat else mantissa / twoTo (-exponent).toNat

/-- Whether the part of `mantissa * 2 ^ exponent` behind the point is below `2 ^ -52`. -/
def nearlyWhole (mantissa : Nat) (exponent : Int) : Bool :=
  if 0 ≤ exponent then true
  else
    let unit := twoTo (-exponent).toNat
    decide (mantissa % unit * twoTo 52 < unit)

/-- Whether nothing stands behind the point. -/
def isWhole (mantissa : Nat) (exponent : Int) : Bool :=
  decide (0 ≤ exponent) || mantissa % twoTo (-exponent).toNat == 0

end BranchingStory.Decimal
