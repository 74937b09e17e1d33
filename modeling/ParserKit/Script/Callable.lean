/-
Leaves and transforms that scripts bring along.

A script has to bring parsers and transforms of its own to put the
combinators to use. They come from two small catalogues: `Act` says what a
leaf does with its window, and `Transform` what a transform does with its
value. Each has a name, and leaves one call in the trace before it does
anything else, so a call is on record even if it ends in a fault.

Among the acts are those that break what a parser is trusted with: going on
over another source (`elsewhere`) or from the start of the same one
(`rewind`), and giving up (`abort`).

What a callable does can depend on its `Setting`. A transform that takes its
value apart has to see the items of a list that can change as they are when
it is called, and so it is given the store. One that doubles its value has
to say so, since both halves are one thing: it marks them with its place in
the parser, where it is called at most once in a run.
-/
import ParserKit.Parser.Argument
import ParserKit.Store

namespace ParserKit.Script

/-- Why something that a script brings along gives up. -/
def boom : Fault :=
  .aborted "boom".toList

/-- Where and when something is called. -/
structure Setting where
  store : Store
  /-- Its place in the parser: the way to it, from the last turn to the
  first. -/
  place : List Nat

/-- One part further down in the same parser. -/
def Setting.part (s : Setting) (i : Nat) : Setting :=
  { s with place := i :: s.place }

-- ================================================================= acts

/-- What a leaf does. -/
inductive Act where
  /-- Succeeds on the spot with a value. -/
  | succeed
  /-- Takes that many characters, if there are. -/
  | take (n : Number)
  /-- Takes all that is left. -/
  | rest
  /-- Succeeds with a value, at the start of another text. -/
  | elsewhere (text : Text)
  /-- Succeeds with a value, at the start of its own source. -/
  | rewind
  /-- Fails on the spot. -/
  | fail
  /-- Fails that many characters later. -/
  | failAt (n : Number)
  /-- Ends in a fault. -/
  | abort
  deriving DecidableEq, Repr

namespace Act

/-- The name of an act in traces and in print. -/
def name : Act → Text
  | .succeed => "ok".toList
  | .take _ => "take".toList
  | .rest => "rest".toList
  | .elsewhere _ => "other".toList
  | .rewind => "rewind".toList
  | .fail => "fail".toList
  | .failAt _ => "failat".toList
  | .abort => "boom".toList

/-- What the act does with a window. `id` is the identity of the other
source and `value` the value to succeed with, for the acts that have
one. -/
def outcome (act : Act) (id : Identity) (value : Value) (w : Window) :
    Except Fault (Outcome Value) :=
  match act with
  | .succeed => return .success w value
  | .take n =>
      if w.hasChars n.toInt then do
        let rest ← w.advance n
        let t ← w.text
        return .success rest (.ofStretch w (t.take n.toInt.toNat))
      else return .failure w
  | .rest => do
      return .success (← w.advance w.length) (.ofStretch w (← w.text))
  | .elsewhere text => return .success (Window.ofText id text) value
  | .rewind => return .success w.start value
  | .fail => return .failure w
  | .failAt n => do return .failure (← w.advance n)
  | .abort => throw boom

/-- Calls the act on a window. -/
def run (act : Act) (id : Identity) (value : Value) (w : Window) :
    Run (Outcome Value) := do
  Traced.emit (.leaf act.name w.pos w.length)
  act.outcome id value w

end Act

-- ============================================================ transforms

/-- What a transform does. -/
inductive Transform where
  | same
  | length
  | reverse
  | wrap
  | duplicate
  | swap
  | listOf
  | element
  /-- Forgets its value for another. -/
  | const
  /-- Ends in a fault. -/
  | abort
  deriving DecidableEq, Repr

namespace Transform

/-- The name of a transform in traces. -/
def name : Transform → Text
  | .same => "id".toList
  | .length => "len".toList
  | .reverse => "reverse".toList
  | .wrap => "wrap".toList
  | .duplicate => "dup".toList
  | .swap => "swap".toList
  | .listOf => "listof".toList
  | .element => "element".toList
  | .const => "const".toList
  | .abort => "boom".toList

/-- What the transform makes of a value in its setting. `given` is the value
that `const` puts in its place. -/
def result (f : Transform) (s : Setting) (given v : Value) :
    Except Fault Value :=
  match f with
  | .same => return v
  | .length => do return .int (← (s.store.look v).length)
  | .reverse => (s.store.look v).reversed
  | .wrap => return .tuple [v]
  | .duplicate =>
      let v := .known (.place s.place) v
      return .tuple [v, v]
  | .swap => do
      let second ← (s.store.look v).item 1
      let first ← (s.store.look v).item 0
      return .tuple [second, first]
  | .listOf => return .list [v]
  | .element => return .newElement v none none
  | .const => return given
  | .abort => throw boom

/-- Calls the transform on a value. -/
def run (f : Transform) (s : Setting) (given v : Value) : Run Value := do
  Traced.emit (.transform f.name)
  f.result s given v

end Transform

-- =============================================================== styles

/-- What sort of thing carries an act. -/
inductive Style where
  /-- A parser function, perhaps with a name. -/
  | function (name? : Option Text)
  /-- Something with a parse operation. -/
  | structural
  /-- A parser function whose `parse` is not an operation. -/
  | misleading
  deriving DecidableEq, Repr

namespace Style

/-- The kind of such a thing. -/
def kind : Style → Kind
  | .function none => .namelessFunction
  | .function (some _) => .namedFunction
  | .structural => .structural
  | .misleading => .misleadingFunction

/-- How such a thing prints. -/
def shown (style : Style) (act : Act) : Text :=
  match style with
  | .structural => "<obj ".toList ++ act.name ++ ['>']
  | _ => "<fn ".toList ++ act.name ++ ['>']

/-- The thing itself, as an argument of combinators. -/
def argument (style : Style) (act : Act) (id : Identity) (value : Value) :
    Argument :=
  match style with
  | .structural =>
      .structural (.leaf (.shown (style.shown act)) (act.run id value))
  | .function name? =>
      .function ⟨style.kind, name?, style.shown act, act.run id value⟩
  | .misleading =>
      .function ⟨style.kind, none, style.shown act, act.run id value⟩

end Style

end ParserKit.Script
