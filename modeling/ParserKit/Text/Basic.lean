/-
Texts, and the numerals that are written into them.

A text is a list of characters, one per Unicode scalar value: positions,
lengths and indices all count scalar values, so a text is cut by `take`
and `drop` and never in the middle of a character. Nothing here
normalises a text, and the character zero is a character like any other.

Numerals come in the two forms that messages need: signed decimals
(`decimal`), and hexadecimals of a fixed width (`hex`), which end where
their width says and so need no terminator.
-/

namespace ParserKit

/-- A sequence of Unicode scalar values. -/
abbrev Text := List Char

namespace Text

-- ========================================================== numerals

/-- A whole number in decimal digits, with a leading minus sign when it
is negative and no other decoration. -/
def decimal : Int → Text
  | .ofNat n => Nat.toDigits 10 n
  | .negSucc n => '-' :: Nat.toDigits 10 (n + 1)

/-- The last `width` hexadecimal digits of `n`, lower case, padded with
zeros on the left. -/
def hex : Nat → Nat → Text
  | 0, _ => []
  | width + 1, n => hex width (n / 16) ++ [Nat.digitChar (n % 16)]

/-- Exactly as many digits are written as the width asks for. -/
theorem length_hex (width n : Nat) : (hex width n).length = width := by
  induction width generalizing n with
  | zero => rfl
  | succ width ih => simp [hex, ih]

end Text

end ParserKit
