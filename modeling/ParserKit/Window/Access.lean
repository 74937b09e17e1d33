/-
Moving a window along and reading through it.

On a window that is a view all of these are the operations of the view. On any
other, moving is the same, and reading can end in a fault, for a reason that
the medium decides:

- a view over a view reads, but is not asked what it starts with and is not
  searched;
- what has no text is never read: asking for its text is a fault, and it
  has no next character.

`textFault?` and `previewFault?` say what stands in the way of reading all
that is left, and of reading as much as a message shows.
-/
import ParserKit.View.Access
import ParserKit.Text.Name

namespace ParserKit.Window

variable (w : Window)

-- ============================================================== moving

/-- The window that starts `amount` later. -/
def advance (amount : Number) : Except Fault Window :=
  if amount.toInt = 0 then .ok w
  else
    match w.view.advance amount.toInt with
    | .ok v => .ok { w with view := v, truth := false, id := none }
    | .error _ => .error (.cannotAdvance amount w.length)

-- ============================================================= reading

/-- What stands in the way of reading all that is left. -/
def textFault? : Option Fault :=
  match w.medium.textless? with
  | none => none
  | some .dictionary => some (.unhashable .slice)
  | some kind => some (.noText kind)

/-- What stands in the way of reading as much as a message shows. A longer
rest is cut first, and what remains of it is no text either. -/
def previewFault? : Option Fault :=
  match w.medium with
  | .items kind =>
      if w.length ≤ View.previewLimit then w.textFault?
      else some (.notJoinable kind)
  | _ => w.textFault?

/-- All that is left. -/
def text : Except Fault Text :=
  match w.textFault? with
  | none => .ok w.view.unconsumed
  | some fault => .error fault

/-- What stands in the way of asking what the window starts with. -/
def startFault? : Option Fault :=
  match w.medium with
  | .text => none
  | .view _ => some .notStartFrom
  | .items .bytes => some (.notBytesStart .text)
  | .items kind => some (.noPart kind "startswith".toList)

/-- Whether what is left starts with `s`. -/
def startsWith (s : Text) : Except Fault Bool :=
  match w.startFault? with
  | none => .ok (w.view.startsWith s)
  | some fault => .error fault

/-- Whether `c` is the next character. An item that is no character is not
one that was asked for. -/
def nextIs (c : Char) : Except Fault Bool :=
  match w.medium with
  | .text => .ok (w.view.peek 1 = some [c])
  | .view _ =>
      if w.isEmpty then .ok false
      else w.text.map fun t => t.head? = some c
  | .items _ => .ok false

/-- The longest name that the window starts with. -/
def nameAt : Except Fault (Option Text) :=
  match w.medium with
  | .text => .ok (ParserKit.nameAt w.view.unconsumed)
  | .view _ => .error (.notSearchable .view)
  | .items kind => .error (.notSearchable kind)

end ParserKit.Window
