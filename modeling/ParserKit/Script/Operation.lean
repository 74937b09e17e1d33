/-
Operations: what a script can do with values that it has.

Each operation is meant for values of certain kinds. Given another, it ends
in a fault that names what was missed; where two things are wrong with one
use, the order of the checks decides which is reported, and it is the order
in which the operation comes to need them.

Two groups of operations read values as they are at that moment, lists and
all: printing, and comparing. The others work with the values themselves, so
an element that an operation hands on is the same element. Only
`addAttribute` and `addChild` change anything.

What is read through a window is a stretch of its source. A stretch of a
text is a text, and all of it is that text itself; a stretch of a list is a
list.
-/
import ParserKit.Script.Session
import ParserKit.Value.Start

namespace ParserKit.Script.Eval

-- ============================================================ any value

/-- How many parts a value has. -/
def length (x : Value) : Eval Value := do
  return .int (← ofExcept (← look x).length)

/-- Whether a value counts as true. -/
def isTrue (x : Value) : Eval Value := do
  return .bool (← look x).isTrue

/-- A value in print. -/
def print (x : Value) : Eval Value := do
  let x ← read x
  raiseAny x.printFault?
  return .text x.render

/-- Whether two values are equal. -/
def equal (x y : Value) : Eval Bool := do
  ofExcept ((← read x).compare (← read y))

/-- Whether two values have the same hash. -/
def sameHash (x y : Value) : Eval Value := do
  let k ← ofExcept (← read x).hashKey
  let l ← ofExcept (← read y).hashKey
  return .bool (k.beq l)

/-- The number of the first value like it, for each value. -/
def group (vs : List Value) : Eval Value := do
  let store := (← get).store
  let numbers ← ofExcept (Value.groupFirst (vs.map store.read))
  return .list (numbers.map fun (n : Nat) => .int n)

-- ======================================================= through windows

/-- The source of a window, as a value. -/
def sourceValue (w : Window) : Eval Value := do
  match w.medium with
  | .text => return .known w.view.source.id (.text w.view.source.text)
  | _ => return (← originOf w.view.source.id).value

/-- The stretch of the source of a window from one position to another,
given as the text that it is if the source has text. -/
def stretch (w : Window) (start stop : Int) (t : Text) : Eval Value := do
  match w.medium with
  | .items _ =>
      let source ← look (← sourceValue w)
      ofExcept (source.stretch ⟨some start, some stop, none⟩)
  | _ =>
      raiseAny w.textFault?
      return .ofStretch w t

/-- What the message of an error is known by. -/
def messageIdentity (id : Nat) (rest : Window) : Identity :=
  if rest.isEmpty then .messageAtEnd else .messageOf id

/-- A value as a text. A text is handed on as the thing it is, and an error
has one message. -/
def text (x : Value) : Eval Value := do
  match x.bare with
  | .text _ => return x
  | .view w =>
      raiseAny w.textFault?
      return .ofStretch w w.view.unconsumed
  | .error id rest => return .known (messageIdentity id rest) (.text x.asText)
  | x =>
      let x ← read x
      raiseAny x.textFault?
      return .text x.asText

/-- The position of a view. -/
def pos (v : Value) : Eval Value := do
  return .ofNumber (← window v "pos").pos

/-- The source of a view. -/
def sourceOf (v : Value) : Eval Value := do
  sourceValue (← window v "src")

/-- The view of something that can be parsed: a view is the thing itself. -/
def asInput (x : Value) : Eval Value := do
  return .view (← input x)

/-- Whether the view of something that can be parsed is the thing
itself. -/
def isInput (x : Value) : Eval Value := do
  let _ ← input x
  return .bool (x.kind = .view)

/-- The item with a number of a window over things that are no text. -/
def itemBelow (w : Window) (i : Int) : Eval Value := do
  let i := Slice.offset w.length i
  if 0 ≤ i ∧ i < w.length then
    let origin ← originOf w.view.source.id
    ofExcept ((← look origin.base).item (origin.offset + w.view.pos + i))
  else raise .indexOutside

/-- What a key selects from a value. A number selects from a view whatever
lies at the bottom. -/
def select (v key : Value) : Eval Value := do
  match v.bare, v.text?, key.kind with
  | .view _, none, .slice => ofExcept (v.select key)
  | .view w, none, _ => itemBelow w (← ofExcept key.asIndex)
  | _, _, _ => ofExcept ((← look v).select (← read key))

/-- A number to be added to the position of a window. -/
def addend (w : Window) (n : Value) : Eval Int :=
  match n.number? with
  | some n => pure n
  | none => raise (.notAddend (Value.ofNumber w.pos).kind n.kind)

/-- Whether a view has that many characters. -/
def hasChars (v n : Value) : Eval Value := do
  let w ← window v "has_chars"
  return .bool (w.hasChars (← addend w n))

/-- The next characters of a view, if there are that many. -/
def peek (v n : Value) : Eval Value := do
  let w ← window v "peek"
  let n ← addend w n
  match w.view.peek n with
  | some t => stretch w w.view.pos (w.view.pos + n) t
  | none => return .none

/-- A view moved along. -/
def advance (v n : Value) : Eval Value := do
  let w ← window v "advance"
  match n.asNumber? with
  | some n => return .view (← ofExcept (w.advance n))
  | none => raise (.notOrdered "<".toList n.kind .int)

/-- Whether a view, or a sequence from its start, starts with a value, or
with one of a tuple of values. -/
def startsWith (v start : Value) : Eval Value := do
  match v.bare with
  | .view w =>
      match w.medium, start.bare with
      | .text, .text t => return .bool (← ofExcept (w.startsWith t))
      | _, start =>
          let source ← look (← sourceValue w)
          return .bool (← ofExcept (source.startsWith w.view.pos start))
  | v => return .bool (← ofExcept (v.startsWith 0 start))

/-- The characters between an earlier view and this one. -/
def consumedSince (v earlier : Value) : Eval Value := do
  let w ← window v "consumed_since"
  let e ← window earlier "src"
  let t ← ofExcept (w.view.consumedSince e.view)
  stretch w e.view.pos w.view.pos t

/-- Whether a view lies further along another. -/
def isSuffixOf (v other : Value) : Eval Value := do
  let w ← window v "is_suffix_of"
  let other ← window other "src"
  return .bool (w.isSuffixOf other)

-- ============================================================= outcomes

/-- What there is to go on from, of an outcome or an error. -/
def rest (r : Value) : Eval Value := do
  match r.bare with
  | .success rest _ | .failure rest => return rest
  | .error _ rest => return .view rest
  | r => raise (.noPart r.kind "remaining".toList)

/-- The value of a success. -/
def value (r : Value) : Eval Value := do
  match r.bare with
  | .success _ value => return value
  | r => raise (.noPart r.kind "value".toList)

/-- The value of a success; a failure is escalated. -/
def unwrap (r : Value) : Eval Value := do
  match r.bare with
  | .success _ value => return value
  | .failure rest =>
      ofBuild (Outcome.failure (← window rest "pos")).unwrap
  | r => raise (.noPart r.kind "unwrap".toList)

/-- The error that a failure becomes, as a thing and not as a fault. -/
def error (r : Value) : Eval Value := do
  match r.bare with
  | .failure rest =>
      let w ← window rest "pos"
      let _ ← ofBuild (Outcome.escalate w)
      return .error (← fresh) w
  | r => raise (.noPart r.kind "error".toList)

/-- The parts of a value in order. -/
def parts (r : Value) : Eval (List Value) := do
  match r.bare, r.text? with
  | .view w, none =>
      (List.range w.length).mapM fun (i : Nat) => itemBelow w i
  | _, _ => ofExcept (← look r).parts

/-- The two parts of a value that has two. -/
def unpack (r : Value) : Eval Value := do
  match ← parts r with
  | [x, y] => return .list [x, y]
  | [] => raise (.tooFewParts 0)
  | [_] => raise (.tooFewParts 1)
  | _ => raise .tooManyParts

-- ============================================================== parsers

/-- Parses with a value: it has to offer a parse operation, and only then
is the input looked at. -/
def parse (p x : Value) : Eval Value := do
  match ← argumentNow p with
  | .parser parser | .structural parser =>
      let w ← input x
      return .ofOutcome (← ofRun (parser.run w))
  | _ =>
      if p.kind.offersParse then raise (.notCallable .text)
      else raise (.noPart p.kind "parse".toList)

/-- Calls a value. A parser looks at its input first; a parser function
takes views only. -/
def call (p x : Value) : Eval Value := do
  match ← argumentNow p with
  | .parser parser =>
      let w ← input x
      return .ofOutcome (← ofRun (parser.run w))
  | .function f =>
      let w ← window x "pos"
      return .ofOutcome (← ofRun (f.body w))
  | a => raise (.notCallable a.kind)

/-- Whether coercion gives the thing itself. -/
def isCoerced (x : Value) : Eval Value := do
  let _ ← coerce x
  return .bool (← argumentNow x).isParser

/-- Whether a value offers anything under the name `parse`. -/
def offersParse (x : Value) : Eval Value :=
  return .bool x.kind.offersParse

/-- The name that lifting a value gives unless another is asked for: that of
the object if it has one, else that of its kind. -/
def liftedName (x : Value) : Eval Value := do
  let name := Value.text (← argumentNow x).liftedName
  match x.bare, x.kind with
  | .object h, .namedFunction => return .known (.nameOfObject h.id) name
  | _, kind =>
      return if kind.keepsName then .known (.nameOfKind kind) name else name

/-- The parser that calls a value, under the given name if there is one. -/
def lift (x name : Value) : Eval Value := do
  let a ← argument x
  let given ← liftedName x
  let name := if name.kind = .none then given else name
  let text := (← read name).asText
  registerParser name fun s => .parser ((a (s.part 0)).lift (some text))

/-- The name of a parser or an element. -/
def name (x : Value) : Eval Value := do
  match x.bare with
  | .parser _ name => return name
  | .element name _ _ => return name
  | x => raise (.noPart x.kind "name".toList)

-- ============================================================= elements

/-- Appends an attribute to an element, which is the result. -/
def addAttribute (e name value : Value) : Eval Value := do
  match e.bare with
  | .element _ attributes _ =>
      append attributes (← settle (.tuple [name, value]))
      return e
  | e => raise (.noPart e.kind "attributes".toList)

/-- Appends a child to an element, which is the result. -/
def addChild (e child : Value) : Eval Value := do
  match e.bare with
  | .element _ _ children =>
      append children (← settle child)
      return e
  | e => raise (.noPart e.kind "children".toList)

end ParserKit.Script.Eval
