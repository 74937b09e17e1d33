/-
Values: what parsers produce and what scripts compute with.

A value is a tree. Windows, outcomes of a parse, elements and parsers are
values beside the plain ones, since they are all handed around. The rest of
an outcome is a window if a parser made the outcome; a value may hold any
other value in its place.

Two things about a value are not in the tree.

- A value may be known as one thing (`known id …`), so that two views over
  the same text value are views over the same source. What a parser has just
  produced is not known yet. Being known is not part of what a value is: it
  is equal to, and reads like, the value inside (`bare`).
- A list that can change is a `cell`: a reference to its present items,
  which are kept in a store. Reading a value for print or comparison
  replaces its cells first, so the definitions about values need no store.

An object is something that is used, not read: a parser function and the
like. It is known by its identity, its kind and its printed form. A parser
is known by its identity and its name.
-/
import ParserKit.Outcome

namespace ParserKit

/-- Something that is used and not read. -/
structure Handle where
  id : Nat
  kind : Kind
  shown : Text
  deriving DecidableEq, Repr

/-- The values. -/
inductive Value where
  | none
  | bool (b : Bool)
  | int (n : Int)
  | text (t : Text)
  | bytes (data : List UInt8)
  /-- A dictionary, of which only the empty one is ever made. -/
  | dictionary
  | tuple (items : List Value)
  | list (items : List Value)
  /-- A list whose items are in the store. -/
  | cell (id : Nat)
  | slice (start stop step : Value)
  | view (w : Window)
  | success (rest value : Value)
  | failure (rest : Value)
  /-- A named node with attributes and children, both lists. -/
  | element (name attributes children : Value)
  /-- The fault that a failure became, as a thing of its own. -/
  | error (id : Nat) (rest : Window)
  /-- A parser of this library. It is named by a value, nearly always a
  text. -/
  | parser (id : Nat) (name : Value)
  | object (handle : Handle)
  /-- A value that is known as one thing. -/
  | known (id : Identity) (v : Value)

namespace Value

-- ============================================================ parts

/-- The value that is known, or the value itself. -/
def bare : Value → Value
  | .known _ v => v.bare
  | v => v

/-- What a value is known by, if it is. -/
def identity? : Value → Option Identity
  | .known id _ => some id
  | .view w => w.id.map .number
  | .cell n => some (.cell n)
  | _ => .none

/-- A text that was read through a window, in order and without gaps. All of
a known text is that text. -/
def ofStretch (w : Window) (t : Text) : Value :=
  match w.whole with
  | some id =>
      if t.length = w.view.source.text.length then .known id (.text t)
      else .text t
  | .none => .text t

/-- Through a window that is a view, a text is read and no more. -/
@[simp] theorem ofStretch_ofView (v : View) (t : Text) :
    ofStretch (Window.ofView v) t = .text t := rfl

/-- A number as it is written. -/
def ofNumber : Number → Value
  | .int n => .int n
  | .truth b => .bool b

/-- An outcome as a value. -/
def ofOutcome : Outcome Value → Value
  | .success rest value => .success (.view rest) value
  | .failure rest => .failure (.view rest)

/-- A new element. A list that is not given is a new one, and empty. -/
def newElement (name : Value) (attributes? children? : Option Value) :
    Value :=
  .element name (attributes?.getD (.list [])) (children?.getD (.list []))

/-- The kind of a value. -/
def kind : Value → Kind
  | .none => .none
  | .bool _ => .bool
  | .int _ => .int
  | .text _ => .text
  | .bytes _ => .bytes
  | .dictionary => .dictionary
  | .tuple _ => .tuple
  | .list _ | .cell _ => .list
  | .slice _ _ _ => .slice
  | .view _ => .view
  | .success _ _ => .success
  | .failure _ => .failure
  | .element _ _ _ => .element
  | .error _ _ => .error
  | .parser _ _ => .parser
  | .object h => h.kind
  | .known _ v => v.kind

/-- The number a value is, as it is written. -/
def asNumber? : Value → Option Number
  | .bool b => some (.truth b)
  | .int n => some (.int n)
  | .known _ v => v.asNumber?
  | _ => .none

/-- The number a value is: a truth value is one or zero. -/
def number? : Value → Option Int
  | .bool b => some (Number.ofTruth b)
  | .int n => some n
  | .known _ v => v.number?
  | _ => .none

/-- The text a value is: a view is what it has left. -/
def text? : Value → Option Text
  | .text t => some t
  | .view w => w.text.toOption
  | .known _ v => v.text?
  | _ => .none

-- ======================================================== truth and size

/-- How many parts a value has. -/
def length : Value → Except Fault Nat
  | .text t => .ok t.length
  | .bytes data => .ok data.length
  | .dictionary => .ok 0
  | .tuple items | .list items => .ok items.length
  | .view w => .ok w.length
  | .known _ v => v.length
  | v => .error (.noLength v.kind)

/-- Whether a value counts as true. Nothing, zero, a failure and whatever
has no parts count as false, all else as true. -/
def isTrue : Value → Bool
  | .none | .dictionary | .failure _ => false
  | .bool b => b
  | .int n => n != 0
  | .text t => !t.isEmpty
  | .bytes data => !data.isEmpty
  | .tuple items | .list items => !items.isEmpty
  | .view w => !w.isEmpty
  | .known _ v => v.isTrue
  | _ => true

-- ========================================================= members of slices

/-- The number that a value is when it is used as an index. -/
def asIndex (v : Value) : Except Fault Int :=
  match v.number? with
  | some n => .ok n
  | .none => .error (.notIndex v.kind)

/-- A member of a slice: a number, or left out. -/
def asSliceMember (v : Value) : Except Fault (Option Int) :=
  match v.bare with
  | .none => .ok .none
  | v =>
      match v.number? with
      | some n => .ok (some n)
      | .none => .error .notSliceMember

/-- The slice of three members. The step is read first, and one of zero is
refused before start and stop are looked at. -/
def asSlice (start stop step : Value) : Except Fault Slice := do
  let step ← step.asSliceMember
  if step = some 0 then throw .zeroStep
  let start ← start.asSliceMember
  let stop ← stop.asSliceMember
  return ⟨start, stop, step⟩

end Value

end ParserKit
