/-
Views: a window over a source text, from a position to its end.

Parsing never cuts a text up. A parser is given a view and hands back a
view further along the same source, so where it stopped, what it consumed
and whether two results belong to the same input can all be read off the
two positions.

# Which source

Two sources can hold the same text and still be different inputs: a view
over one says nothing about a view over the other. A source therefore
carries an identity beside its text, and "over the same source" is equality
of both. Everything else about a view (its length, its printed form up to
the position, whether it compares equal to another) depends on the text
alone.

# The invariant

The position lies inside the source or at its end. `View.pos_le` keeps
this in the type, so every operation that makes a view shows it, and the
arithmetic of the operations never has to ask.
-/
import ParserKit.Identity
import ParserKit.Text.Quoted

namespace ParserKit

/-- A text to be parsed, with an identity of its own. -/
structure Source where
  id : Identity
  text : Text
  deriving DecidableEq, Repr

/-- What lies from a position of a source to its end. -/
structure View where
  source : Source
  /-- The position of the first unconsumed character. -/
  pos : Nat
  pos_le : pos ≤ source.text.length
  deriving DecidableEq, Repr

/-- The whole of a source. -/
def Source.view (s : Source) : View :=
  ⟨s, 0, Nat.zero_le _⟩

namespace View

variable (v : View)

-- =========================================================== the window

/-- The text from the position on. -/
def unconsumed : Text :=
  v.source.text.drop v.pos

/-- How many characters are unconsumed. -/
def length : Nat :=
  v.source.text.length - v.pos

/-- Whether nothing is left. -/
def isEmpty : Bool :=
  v.length == 0

/-- The length of a view is that of its text. -/
@[simp] theorem length_unconsumed : v.unconsumed.length = v.length := by
  simp [unconsumed, length]

/-- A view is empty exactly if its text is. -/
theorem isEmpty_iff : v.isEmpty = true ↔ v.unconsumed = [] := by
  rw [← List.length_eq_zero_iff, length_unconsumed, isEmpty, beq_iff_eq]

/-- The whole of a source is unconsumed at its start. -/
@[simp] theorem unconsumed_view (s : Source) : s.view.unconsumed = s.text :=
  rfl

/-- Two views agree if they are over the same source at the same
position. -/
theorem ext_of {v w : View} (hs : v.source = w.source) (hp : v.pos = w.pos) :
    v = w := by
  cases v
  cases w
  cases hs
  cases hp
  rfl

-- ============================================================== tests

/-- Whether at least that many characters are left. A negative amount is
not refused: it asks for an end before the position. -/
def hasChars (amount : Int) : Bool :=
  v.pos + amount ≤ v.source.text.length

/-- Whether the unconsumed text starts with `s`. -/
def startsWith (s : Text) : Bool :=
  s.isPrefixOf v.unconsumed

/-- Whether the view is over the source of `other` and does not start
before it. -/
def isSuffixOf (other : View) : Bool :=
  v.source = other.source && other.pos ≤ v.pos

/-- Starting with a text is having it as a prefix. -/
theorem startsWith_iff (s : Text) :
    v.startsWith s = true ↔ s <+: v.unconsumed :=
  List.isPrefixOf_iff_prefix

/-- An amount that is not negative is there if the view is that long. -/
theorem hasChars_natCast (n : Nat) :
    v.hasChars n = true ↔ n ≤ v.length := by
  have hp := v.pos_le
  simp only [hasChars, length, decide_eq_true_eq]
  omega

/-- Being a suffix is being further along the same source. -/
theorem isSuffixOf_iff (other : View) :
    v.isSuffixOf other = true ↔
      v.source = other.source ∧ other.pos ≤ v.pos := by
  simp [isSuffixOf]

-- ============================================================ previews

/-- The longest text that a preview shows whole. -/
def previewLimit : Nat := 40

/-- The start of a text for a message: the whole of it up to the limit,
else as much as the limit allows and three dots. -/
def previewText (t : Text) : Text :=
  if t.length ≤ previewLimit then t
  else t.take previewLimit ++ ['.', '.', '.']

/-- The preview of a view, quoted. -/
def preview : Text :=
  Quoted.encode (previewText v.unconsumed)

/-- A view in print, given its position in print: its range in the source
and its preview. -/
def renderFrom (pos : Text) : Text :=
  "<StringView ".toList ++ pos ++ "..".toList ++
    Text.decimal v.source.text.length ++ ' ' :: v.preview ++ ['>']

end View

end ParserKit
