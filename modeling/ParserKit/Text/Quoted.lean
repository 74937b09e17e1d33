/-
Quoted text: how a text, or a string of bytes, is written inside a printed
value or a message so that its ends and its odd characters can be seen.

The form is self-delimiting. It opens and closes with the same mark, and
inside it that mark and the backslash appear only behind a backslash, so
the first bare mark is the end. The mark is the apostrophe, except that a
text with an apostrophe and no double quote takes the double quote: the
choice is `mark`, and it is the only thing about the whole text that the
spelling of one character depends on.

A character that is not printable is written by its number, in the
shortest of three fixed widths (`escapeCode`); tab, line feed and carriage
return have spellings of their own; all else stands for itself. Bytes go
the same way under a leading `b`, except that only printable ASCII stands
for itself.
-/
import ParserKit.Text.Basic
import ParserKit.Text.Printable

namespace ParserKit.Quoted

-- ============================================================== marks

/-- The apostrophe. -/
def apostrophe : Char := '\x27'

/-- The double quote. -/
def doubleQuote : Char := '\x22'

/-- The mark that surrounds a text: the apostrophe, unless the double
quote saves an escape. -/
def mark (s : Text) : Char :=
  if apostrophe ∈ s ∧ doubleQuote ∉ s then doubleQuote else apostrophe

-- =============================================================== text

/-- The number of a character behind `x`, `u` or `U`, in the first of the
widths two, four and eight that holds it. -/
def escapeCode (n : Nat) : Text :=
  if n < 0x100 then 'x' :: Text.hex 2 n
  else if n < 0x10000 then 'u' :: Text.hex 4 n
  else 'U' :: Text.hex 8 n

/-- One character of a text quoted with the mark `q`. -/
def escape (q c : Char) : Text :=
  if c = q ∨ c = '\\' then ['\\', c]
  else if c = '\t' then ['\\', 't']
  else if c = '\n' then ['\\', 'n']
  else if c = '\r' then ['\\', 'r']
  else if isPrintable c then [c]
  else '\\' :: escapeCode c.toNat

/-- A text in quoted form. -/
def encode (s : Text) : Text :=
  mark s :: s.flatMap (escape (mark s)) ++ [mark s]

-- ============================================================== bytes

/-- One byte of a byte string quoted with the mark `q`; `c` is the
character of the same number. -/
def escapeByte (q c : Char) : Text :=
  if c = q ∨ c = '\\' then ['\\', c]
  else if c = '\t' then ['\\', 't']
  else if c = '\n' then ['\\', 'n']
  else if c = '\r' then ['\\', 'r']
  else if 0x20 ≤ c.toNat ∧ c.toNat < 0x7f then [c]
  else '\\' :: escapeCode c.toNat

/-- A byte string in quoted form. -/
def encodeBytes (bytes : List UInt8) : Text :=
  let s := bytes.map fun b => Char.ofNat b.toNat
  'b' :: mark s :: s.flatMap (escapeByte (mark s)) ++ [mark s]

-- =========================================================== examples

example : encode "it".toList = "'it'".toList := by decide +kernel
example : encode "it's".toList = "\"it's\"".toList := by decide +kernel
example : encode "a\x00\n".toList = "'a\\x00\\n'".toList := by
  decide +kernel
example : encode "\u2028".toList = "'\\u2028'".toList := by decide +kernel
example : encodeBytes [97, 39, 34, 255] = "b'a\\'\"\\xff'".toList := by
  decide +kernel

end ParserKit.Quoted
