/-
The built-in leaves: a literal text, one character, and an identifier.

A leaf looks at the start of its window. If the window starts with what it
matches, it succeeds past that part; otherwise it fails with the window
untouched. The literal and the character match a given text, and produce
nothing. The identifier matches the longest name at the start, and produces
that name.

All three are stated in `Except Fault`. On a window that is not over a text
a leaf cannot always look.
-/
import ParserKit.Value.Basic

namespace ParserKit.Leaf

/-- Matches a text. The empty text matches everywhere. -/
def literal (expected : Text) (w : Window) : Except Fault (Outcome Value) := do
  if ← w.startsWith expected then
    return .success (← w.advance expected.length) .none
  else return .failure w

/-- Matches one character. -/
def character (expected : Char) (w : Window) :
    Except Fault (Outcome Value) := do
  if ← w.nextIs expected then
    return .success (← w.advance (1 : Nat)) .none
  else return .failure w

/-- Matches a name. -/
def identifier (w : Window) : Except Fault (Outcome Value) := do
  match ← w.nameAt with
  | some name =>
      let rest ← w.advance name.length
      return .success rest (.ofStretch w (← rest.view.consumedSince w.view))
  | none => return .failure w

end ParserKit.Leaf
