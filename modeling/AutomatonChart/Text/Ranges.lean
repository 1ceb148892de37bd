/-! # Sets of code points

A character class is a list of closed ranges of code points.
-/
namespace AutomatonChart

abbrev CodeRanges := List (Nat × Nat)

def CodeRanges.contains (ranges : CodeRanges) (c : Char) : Bool :=
  ranges.any fun r => r.1 ≤ c.toNat && c.toNat ≤ r.2

end AutomatonChart
