/-
Sets of numbers written as ascending inclusive ranges.

A property of characters is tabulated as the list of ranges of scalar
values that have it. `Ranges.contains` walks such a list once and stops at
the first range that starts beyond the number: in an ascending list no
later range can hold it.
-/

namespace ParserKit

/-- Inclusive ranges `(first, last)`. -/
abbrev Ranges := List (Nat × Nat)

namespace Ranges

/-- Whether a number lies in one of the ranges of an ascending list. -/
def contains : Ranges → Nat → Bool
  | [], _ => false
  | (first, last) :: rest, n =>
      if n < first then false
      else if n ≤ last then true
      else contains rest n

end Ranges

end ParserKit
