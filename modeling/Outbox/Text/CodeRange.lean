/-! # Ranges of code points

A set of characters given by the ranges of their code points, both ends included, in ascending
order.
-/

set_option autoImplicit false

namespace Outbox.Text

/-- A set of code points as ranges with both ends included. -/
abbrev CodeRanges := List (Nat × Nat)

/-- Whether a code point lies in one of the ranges. -/
def CodeRanges.contains (rs : CodeRanges) (n : Nat) : Bool :=
  rs.any fun r => r.1 ≤ n && n ≤ r.2

end Outbox.Text
