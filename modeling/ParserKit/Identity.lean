/-
Identities: what a thing is known by.

Two texts can have the same characters and still be two texts, and a view
over one is no view over the other. What is known to be one thing carries an
identity, and two things are the same one exactly if their identities are
equal. Most identities are numbers, given out once. The others say where
the thing is kept or where it comes from, so that whoever comes across it
again gives it the same one: a list by the cell that holds it, the name of
a kind by the kind.

Some things are too small to be told apart: the texts of no character and
of one narrow character, the byte strings of at most one byte, and the
tuple of no items.
-/
import ParserKit.Kind

namespace ParserKit

/-- What a thing is known by. -/
inductive Identity where
  /-- Given out once. -/
  | number (n : Nat)
  /-- The list in that cell of a store. -/
  | cell (n : Nat)
  /-- What was doubled at that place of a parser, in the run at hand. -/
  | place (path : List Nat)
  /-- A text that is too small to be told from its like. -/
  | smallText (t : Text)
  /-- A byte string that is too small to be told from its like. -/
  | smallBytes (data : List UInt8)
  /-- The tuple of no items. -/
  | noItems
  /-- The name of a kind. -/
  | nameOfKind (kind : Kind)
  /-- The name that an object was given. -/
  | nameOfObject (id : Nat)
  /-- The message of an error. -/
  | messageOf (error : Nat)
  /-- The message of every error at the end of its input. -/
  | messageAtEnd
  deriving DecidableEq, Repr

namespace Identity

/-- The identity of a text, if it is too small to have one of its own. -/
def ofSmallText? (t : Text) : Option Identity :=
  match t with
  | [] => some (.smallText [])
  | [c] => if c.toNat < 0x100 then some (.smallText [c]) else none
  | _ => none

/-- The identity of a byte string, if it is too small to have one of its
own. -/
def ofSmallBytes? (data : List UInt8) : Option Identity :=
  if data.length ≤ 1 then some (.smallBytes data) else none

end Identity

end ParserKit
