/-
Arguments: what can stand where a parser is expected.

Combinators take more than parsers. A text stands for the parser of that
text, and a parser function for the parser that calls it; anything that
offers a parse operation is taken as it is, on trust. `Argument.coerce` makes
the parser, and leaves a record in the log when it had to make one. Whatever
else is given is refused, and says of what kind it was.

The combinators of this module are those that a caller meets: they coerce
their arguments from left to right and then build. The log of a nested
construction is therefore the log of its arguments in order, and its fault
is the first one met. Building runs nothing.
-/
import ParserKit.Parser.Basic

namespace ParserKit

/-- A computation that may leave records in the log. -/
abbrev Build := Traced LogRecord

/-- A function that parses when it is called on a window. -/
structure ParserFunction where
  kind : Kind
  /-- The name that it was given, if it was. -/
  name? : Option Text
  shown : Text
  body : Window → Run (Outcome Value)

/-- What may be given where a parser is expected. -/
inductive Argument where
  /-- A parser of this library. -/
  | parser (p : Parser)
  /-- Something else that offers a parse operation, and cannot be
  called. -/
  | structural (p : Parser)
  | function (f : ParserFunction)
  | text (t : Text)
  /-- None of these. -/
  | other (kind : Kind)

namespace ParserFunction

/-- The name of the parser that a function is lifted to, unless another is
given. -/
def name (f : ParserFunction) : Text :=
  f.name?.getD f.kind.name

/-- The parser that calls a function. -/
def lift (f : ParserFunction) : Parser :=
  .leaf (.named f.name) f.body

end ParserFunction

namespace Argument

-- ============================================================ coercion

/-- Makes an argument into a parser. -/
def coerce : Argument → Build Parser
  | .parser p => pure p
  | .structural p => pure p
  | .text t => do
      Traced.emit (.converting t)
      return .literal t
  | .function f => do
      Traced.emit (.lifting f.shown)
      return f.lift
  | .other kind => Traced.raise (.notParser kind)

/-- Whether coercion hands the argument back. -/
def isParser : Argument → Bool
  | .parser _ | .structural _ => true
  | _ => false

/-- The kind of an argument. -/
def kind : Argument → Kind
  | .parser _ => .parser
  | .structural _ => .structural
  | .function f => f.kind
  | .text _ => .text
  | .other kind => kind

-- ============================================================== lifting

/-- What calling an argument on a window does. -/
def call : Argument → Window → Run (Outcome Value)
  | .parser p, w => p.run w
  | .function f, w => f.body w
  | a, _ => Traced.raise (.notCallable a.kind)

/-- The name that lifting gives unless another is asked for. -/
def liftedName : Argument → Text
  | .function f => f.name
  | a => a.kind.name

/-- The parser that calls an argument, which is not looked at before it is
called. -/
def lift (a : Argument) (name? : Option Text) : Parser :=
  .leaf (.named (name?.getD a.liftedName)) a.call

end Argument

namespace Build

-- ================================================================ leaves

/-- The parser of a text. -/
def literal : Argument → Build Parser
  | .text t => pure (.literal t)
  | a => Traced.raise (.notLiteral a.kind)

/-- The parser of a text of one character. -/
def character : Argument → Build Parser
  | .text [c] => pure (.character c)
  | .text t => Traced.raise (.notOneCharacter t.length)
  | a => Traced.raise (.notCharacter a.kind)

-- =========================================================== combinators

/-- `Parser.map` on an argument. -/
def map (a : Argument) (f : Value → Run Value) : Build Parser := do
  return .map (← a.coerce) f

/-- `Parser.pair` on arguments. -/
def pair (a b : Argument) : Build Parser := do
  let p ← a.coerce
  let q ← b.coerce
  return .pair p q

/-- `Parser.left` on arguments. The pair inside is a parser already, so
coercing it adds nothing. -/
def left (a b : Argument) : Build Parser := do
  map (.parser (← pair a b)) Parser.first

/-- `Parser.right` on arguments. -/
def right (a b : Argument) : Build Parser := do
  map (.parser (← pair a b)) Parser.second

end Build

end ParserKit
