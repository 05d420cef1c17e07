/-!
# Ranges of code points

A property of characters is given by the closed ranges of code points that
have it, in ascending order.
-/

namespace CardDuel.Text

/-- Closed ranges of code points, each as its first and its last member. -/
abbrev CharRanges := List (Nat × Nat)

/-- Whether `c` lies in one of the ranges.  They ascend, so those from the first
one above `c` on need no look. -/
def CharRanges.holds : CharRanges → Char → Bool
  | [], _ => false
  | (first, last) :: ranges, c =>
    first ≤ c.toNat && (c.toNat ≤ last || CharRanges.holds ranges c)

end CardDuel.Text
