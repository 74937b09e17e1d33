/-
Parsers: trees of leaves, put together by two combinators.

`map` passes the value of a success through a transform. `pair` runs one
parser and then another on what the first left, and produces both values as
a tuple. Neither ever tries anything a second time: the first failure is
the failure of the whole, with the window that the failing leaf was given.
`left` and `right` are `pair` followed by a projection.

# What a run is

`Parser.run` is the meaning of a parser: for each window a traced outcome.
A run can end in a fault, raised by a leaf or a transform that comes from
outside; such a fault passes through every combinator. The trace lists the
calls of those leaves and transforms in the order they were made (`Call`).
The built-in leaves make no calls.

# What a parser prints as

A printed parser names its leaves and how they are nested, and not its
transforms. `left` and `right` print as the `map` of a `pair` that they
are.
-/
import ParserKit.Parser.Leaf
import ParserKit.Value.Select

namespace ParserKit

/-- A call of something from outside, as a trace records it. -/
inductive Call where
  /-- A leaf was called on a window at that position with that much
  left. -/
  | leaf (name : Text) (pos : Number) (length : Nat)
  /-- A transform was called on a value. -/
  | transform (name : Text)
  deriving DecidableEq, Repr

/-- A computation that may call leaves and transforms. -/
abbrev Run := Traced Call

/-- How a leaf from outside prints. -/
inductive Label where
  /-- It is a parser of this library with that name. -/
  | named (name : Text)
  /-- It prints as just that text. -/
  | shown (text : Text)
  deriving DecidableEq, Repr

/-- Parsers. -/
inductive Parser where
  | literal (expected : Text)
  | character (expected : Char)
  | identifier
  /-- Whatever a function from outside does with a window. -/
  | leaf (label : Label) (body : Window → Run (Outcome Value))
  | map (p : Parser) (f : Value → Run Value)
  | pair (p q : Parser)

namespace Parser

-- ================================================================== runs

/-- Runs a parser on a window. -/
def run : Parser → Window → Run (Outcome Value)
  | .literal s, w => Leaf.literal s w
  | .character c, w => Leaf.character c w
  | .identifier, w => Leaf.identifier w
  | .leaf _ body, w => body w
  | .map p f, w => do
      match ← p.run w with
      | .failure rest => return .failure rest
      | .success rest x => return .success rest (← f x)
  | .pair p q, w => do
      match ← p.run w with
      | .failure rest => return .failure rest
      | .success middle x =>
          match ← q.run middle with
          | .failure rest => return .failure rest
          | .success rest y => return .success rest (.tuple [x, y])

-- ========================================================= projections

/-- The first of the two values that a pair produced. -/
def first (v : Value) : Run Value :=
  v.item 0

/-- The second of the two values that a pair produced. -/
def second (v : Value) : Run Value :=
  v.item 1

/-- Both parsers in order, with the value of the first. -/
def left (p q : Parser) : Parser :=
  .map (.pair p q) first

/-- Both parsers in order, with the value of the second. -/
def right (p q : Parser) : Parser :=
  .map (.pair p q) second

/-- The parser of the single character `a`. -/
def letterA : Parser :=
  .character 'a'

-- ============================================================== printing

/-- A parser in print, given its name. -/
def renderNamed (p : Parser) (name : Text) : Text :=
  match p with
  | .leaf (.shown text) _ => text
  | _ => Value.framed name

/-- The name of a parser: what it does, or what its label says. -/
def name : Parser → Text
  | .literal s => "match_literal(".toList ++ Quoted.encode s ++ [')']
  | .character c => "character(".toList ++ Quoted.encode [c] ++ [')']
  | .identifier => "identifier".toList
  | .leaf (.named n) _ => n
  | .leaf (.shown text) _ => text
  | .map p _ => "map(".toList ++ p.renderNamed p.name ++ [')']
  | .pair p q =>
      "pair(".toList ++ p.renderNamed p.name ++ [',', ' '] ++
        q.renderNamed q.name ++ [')']

/-- A parser in print. -/
def render (p : Parser) : Text :=
  p.renderNamed p.name

/-- The same parser under another name, if it is a leaf from outside that
has one. -/
def rename (name : Text) : Parser → Parser
  | .leaf (.named _) body => .leaf (.named name) body
  | p => p

end Parser

end ParserKit
