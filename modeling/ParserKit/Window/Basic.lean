/-
Windows: views as parsers meet them.

A parser is given a window and hands one back. Nearly always a window is
just a view, over a text and at a position written as a numeral: this is
`Window.ofView`, and a view may stand wherever a window is wanted. A window
can say three more things, and none changes where it is or how much of its
source is left.

# What it is over

Whatever has a length can be looked at from a position. A view over another
view is over the text that the other has left, and reads it as its own,
except that it cannot ask what the text starts with and cannot search it
(`Medium.view`). A tuple, a list, a byte string or a dictionary has a
length and no text (`Medium.items`). It is seen as a text of that many
blanks; no operation reads a blank, since each one that reads asks the
medium first.

# How its position is written

A position may be written as a truth value. The window keeps it so until it
moves; moving by nothing is not moving.

# What is one thing

A view only tells its source from others. A window may know the text that it
is over as a thing (`whole`), so that who reads all of that text gets the
text itself and no copy. It may also be known as a thing of its own (`id`),
which matters to a view over it. A window that has moved is another thing.
-/
import ParserKit.Number
import ParserKit.View.Basic

namespace ParserKit

/-- What a window is over. -/
inductive Medium where
  | text
  /-- A view, itself over something. -/
  | view (inner : Medium)
  /-- Something of that kind, which has a length and no text. -/
  | items (kind : Kind)
  deriving DecidableEq, Repr

/-- The kind of what lies at the bottom, if it is no text. -/
def Medium.textless? : Medium → Option Kind
  | .text => none
  | .view inner => inner.textless?
  | .items kind => some kind

/-- A view, what it is over, how its position is written, and what is known
to be one thing. -/
structure Window where
  view : View
  medium : Medium
  /-- Whether the position is written as a truth value. -/
  truth : Bool
  /-- The identity of the text that the source is, if it is known. -/
  whole : Option Identity
  /-- The number that the window is known by, if it is known. -/
  id : Option Nat
  deriving DecidableEq, Repr

namespace Window

/-- A view over a text, at a position written as a numeral. -/
def ofView (v : View) : Window :=
  ⟨v, .text, false, none, none⟩

/-- The window on a text that is known. -/
def ofText (id : Identity) (t : Text) : Window :=
  ⟨Source.view ⟨id, t⟩, .text, false, some id, none⟩

instance : Coe View Window := ⟨ofView⟩

variable (w : Window)

/-- The position as it is written. -/
def pos : Number :=
  if w.truth then .truth (w.view.pos == 1) else .int w.view.pos

/-- How much is left. -/
def length : Nat :=
  w.view.length

/-- Whether nothing is left. -/
def isEmpty : Bool :=
  w.view.isEmpty

/-- Whether at least that much is left. -/
def hasChars (amount : Int) : Bool :=
  w.view.hasChars amount

/-- Whether the window is over the source of `other` and does not start
before it. -/
def isSuffixOf (other : Window) : Bool :=
  w.view.isSuffixOf other.view

/-- The window at the start of the source. -/
def start : Window :=
  { w with view := w.view.source.view, truth := false, id := none }

/-- A window in print. -/
def render : Text :=
  w.view.renderFrom w.pos.render

end Window

end ParserKit
