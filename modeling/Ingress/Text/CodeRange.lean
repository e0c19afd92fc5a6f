/-!
# Ranges of code points

Sets of characters as tables hold them: ranges, each with both of its ends.
-/

namespace Ingress.Text

/-- The code points from `first` to `last`, both included. -/
structure CodeRange where
  first : Nat
  last : Nat
deriving DecidableEq

/-- Membership of a code point in a range. -/
def CodeRange.holds (r : CodeRange) (n : Nat) : Bool := r.first ≤ n && n ≤ r.last

/-- Membership of a code point in a list of ranges. -/
def CodeRange.anyHolds (ranges : List CodeRange) (n : Nat) : Bool := ranges.any (·.holds n)

end Ingress.Text
