/-!
# Ranges of code points

Properties of characters are given as ranges of code points in ascending order.
-/

set_option autoImplicit false

namespace ResponsesBridge.Unicode

/-- Ranges of code points, both ends included. -/
abbrev Ranges := List (Nat × Nat)

/-- Whether a character lies in one of the ranges. -/
def Ranges.holds (ranges : Ranges) (character : Char) : Bool :=
  ranges.any fun range => decide (range.1 ≤ character.toNat ∧ character.toNat ≤ range.2)

end ResponsesBridge.Unicode
