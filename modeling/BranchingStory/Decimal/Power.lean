/-!
Powers of the two bases between which numbers are carried over.
-/

namespace BranchingStory.Decimal

/-- A power of two. -/
def twoTo (n : Nat) : Nat := Nat.pow 2 n

/-- A power of ten. -/
def tenTo (n : Nat) : Nat := Nat.pow 10 n

end BranchingStory.Decimal
