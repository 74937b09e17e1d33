/-
Sessions: what a script has made so far.

A script is evaluated step by step, and later steps refer to what earlier
ones made. The session holds all of that: the store of changing lists, the
objects by their number, what windows are over where it is no text, and the
results of the steps by theirs. The two ready-made parsers are objects of
every session from the start.

An object is a function of its setting. What it does once it is used can
depend on the lists as they are then, and not on what they were when it was
made, and on its place in the parser that it has become a part of; in all
else it is the same in every setting.

`Eval` is a computation within a session. It leaves records in the log and
calls in the trace, in one sequence of events, and a fault undoes nothing of
either; the session of a computation that ended in a fault is not used any
further, so a step that fails leaves no trace in later ones.
-/
import ParserKit.Script.Callable

namespace ParserKit.Script

/-- What a script can be seen to do. -/
inductive Event where
  | log (record : LogRecord)
  | call (call : Call)
  deriving DecidableEq, Repr

/-- What a source is that is no text. -/
structure Origin where
  id : Identity
  /-- The source as a value. -/
  value : Value
  /-- The things that lie at the bottom, and where among them the source
  begins. -/
  base : Value
  offset : Nat

/-- What a script has made so far. -/
structure Session where
  store : Store
  /-- The objects, by their number. -/
  objects : List (Setting → Argument)
  origins : List Origin
  /-- The results of the steps, in order. -/
  results : List Value

/-- A computation within a session. -/
abbrev Eval := StateT Session (Traced Event)

namespace Session

/-- The ready-made parser of names. -/
def identifier : Value :=
  .parser 0 (.known (.number 0) (.text (Parser.name .identifier)))

/-- The ready-made parser of one letter. -/
def letterA : Value :=
  .parser 1 (.known (.number 1) (.text Parser.letterA.name))

/-- A session in which nothing has been made but the ready-made parsers. -/
def start : Session where
  store := .empty 2
  objects := [fun _ => .parser .identifier, fun _ => .parser Parser.letterA]
  origins := []
  results := []

end Session

namespace Eval

-- =============================================================== lifting

/-- A computation that leaves records, within a session. -/
def ofBuild {α : Type} (m : Build α) : Eval α :=
  fun s => (fun a => (a, s)) <$> m.mapTrace Event.log

/-- A computation that makes calls, within a session. -/
def ofRun {α : Type} (m : Run α) : Eval α :=
  fun s => (fun a => (a, s)) <$> m.mapTrace Event.call

/-- A computation that does neither, within a session. -/
def ofExcept {α : Type} (m : Except Fault α) : Eval α :=
  fun s => (fun a => (a, s)) <$> Traced.ofExcept m

/-- Ends in a fault. -/
def raise {α : Type} (fault : Fault) : Eval α :=
  ofExcept (.error fault)

/-- Ends in a fault if there is one. -/
def raiseAny (fault? : Option Fault) : Eval Unit :=
  match fault? with
  | some fault => raise fault
  | none => return ()

-- ============================================================= the store

/-- An identity that has not been used. -/
def fresh : Eval Nat := fun s =>
  let (id, store) := s.store.fresh
  pure (id, { s with store })

/-- Settles a value in the store. -/
def settle (v : Value) : Eval Value := fun s =>
  let (v, store) := s.store.settle v
  pure (v, { s with store })

/-- A value with the present items of all its lists. -/
def read (v : Value) : Eval Value := do
  return (← get).store.read v

/-- A value with its present items, if it is a list. -/
def look (v : Value) : Eval Value := do
  return (← get).store.look v

/-- Appends to a list that can change. -/
def append (list v : Value) : Eval Unit :=
  match list.bare with
  | .cell id => modify fun s => { s with store := s.store.append id v }
  | v => raise (.noPart v.kind "append".toList)

-- =============================================================== objects

/-- The setting of what is used at this moment and is no part of
anything. -/
def setting : Eval Setting := do
  return ⟨(← get).store, []⟩

/-- Adds an object, and gives its number. -/
def addObject (a : Setting → Argument) : Eval Nat := fun s =>
  pure (s.objects.length, { s with objects := s.objects ++ [a] })

/-- Makes a new object that is no parser of this library. -/
def register (kind : Kind) (shown : Text) (a : Setting → Argument) :
    Eval Value := do
  return .object ⟨← addObject a, kind, shown⟩

/-- Makes a new parser under a name. -/
def registerParser (name : Value) (a : Setting → Argument) :
    Eval Value := do
  let name ← settle name
  return .parser (← addObject a) name

/-- What building gives, as an argument. -/
def built (m : Build Parser) : Argument :=
  match m.exit with
  | .ok p => .parser p
  | .error _ => .other .parser

/-- Builds a parser and makes it an object. Building again in another
setting has the same log and the same end. -/
def build (m : Setting → Build Parser) : Eval Value := do
  let p ← ofBuild (m (← setting))
  registerParser (.text p.name) fun s => built (m s)

/-- An argument under another name, if it is a parser that can take one. -/
def renamed (name : Text) : Argument → Argument
  | .parser p => .parser (p.rename name)
  | a => a

/-- A value as an argument of combinators. A parser goes by the name that it
has at this moment. -/
def argument (v : Value) : Eval (Setting → Argument) := do
  let objects := (← get).objects
  match v.bare with
  | .text t => return fun _ => .text t
  | .object h => return objects[h.id]?.getD fun _ => .other h.kind
  | .parser id name =>
      let text := (← read name).asText
      let a := objects[id]?.getD fun _ => .other .parser
      return fun s => renamed text (a s)
  | v => return fun _ => .other v.kind

/-- A value as an argument at this moment. -/
def argumentNow (v : Value) : Eval Argument := do
  return (← argument v) (← setting)

/-- The parser that coercing a value gives: the same one if it is a parser
already, else a new one. -/
def coerce (v : Value) : Eval Value := do
  let a ← argument v
  if (a (← setting)).isParser then return v
  else build fun s => (a s).coerce

-- =============================================================== sources

/-- Keeps what a source is that is no text. -/
def addOrigin (o : Origin) : Eval Unit :=
  modify fun s => { s with origins := o :: s.origins }

/-- What a source is that is no text. -/
def originOf (id : Identity) : Eval Origin := do
  return ((← get).origins.find? fun o => o.id == id).getD
    ⟨id, .none, .none, 0⟩

/-- The window at the start of a value: of its text, or of as many blanks as
it has parts. Only what can be known as one thing has parts to look at. -/
def windowOn (v : Value) : Eval Window := do
  let v ← settle v
  match v.bare, v.identity? with
  | .text t, some id => return .ofText id t
  | .view w, some id =>
      let inner ← originOf w.view.source.id
      addOrigin ⟨id, v, inner.base, inner.offset + w.view.pos⟩
      let all := Value.ofStretch w w.view.unconsumed
      return ⟨Source.view ⟨id, w.view.unconsumed⟩, .view w.medium, false,
        all.identity?, none⟩
  | bare, some id =>
      let n ← ofExcept (← look v).length
      addOrigin ⟨id, v, v, 0⟩
      return ⟨Source.view ⟨id, List.replicate n ' '⟩, .items bare.kind, false,
        none, none⟩
  | bare, none => raise (.noLength bare.kind)

-- =============================================================== windows

/-- The window on something that can be parsed: a view as it is, and a text
from its start. -/
def input (v : Value) : Eval Window := do
  match v.bare with
  | .view w => return w
  | .text _ => windowOn v
  | v => raise (.notInput v.kind)

/-- The window at a position of a value, or at its start if none is
given. -/
def windowAt (v : Value) (pos? : Option Value) : Eval Window := do
  let pos := pos?.getD (.int 0)
  match pos.asNumber? with
  | none => raise (.notOrdered "<=".toList .int pos.kind)
  | some n =>
      let w ← windowOn v
      let view ← ofExcept (w.view.source.viewAt n)
      return { w with view, truth := n.isTruth }

/-- The window that a value is, when it is asked for a part that views
have. -/
def window (v : Value) (part : String) : Eval Window :=
  match v.bare with
  | .view w => pure w
  | v => raise (.noPart v.kind part.toList)

end Eval

end ParserKit.Script
