/-
Kinds: what sort of thing a value is, as messages about it say.

Most refusals in this library are refusals of a kind of value, and their
messages name it. `Kind.name` gives the names. The last group of kinds are
things that come from outside and matter only for how they can be used as
parsers: whether they can be called, and whether they offer something under
the name `parse`, which for two of them is not an operation at all.
-/
import ParserKit.Text.Basic

namespace ParserKit

/-- The sorts of values. -/
inductive Kind where
  | none
  | bool
  | int
  | text
  | bytes
  | dictionary
  | tuple
  | list
  | slice
  | view
  | success
  | failure
  | element
  | error
  /-- A parser of this library. -/
  | parser
  /-- Something that offers a parse operation and cannot be called. -/
  | structural
  /-- A parser function without a name. -/
  | namelessFunction
  /-- A parser function with a name. -/
  | namedFunction
  /-- A parser function whose `parse` is not an operation. -/
  | misleadingFunction
  /-- Something that cannot be called and whose `parse` is not an
  operation. -/
  | inert
  deriving DecidableEq, Repr

namespace Kind

/-- The name of a kind in messages. -/
def name : Kind → Text
  | .none => "NoneType".toList
  | .bool => "bool".toList
  | .int => "int".toList
  | .text => "str".toList
  | .bytes => "bytes".toList
  | .dictionary => "dict".toList
  | .tuple => "tuple".toList
  | .list => "list".toList
  | .slice => "slice".toList
  | .view => "StringView".toList
  | .success => "Success".toList
  | .failure => "Failure".toList
  | .element => "Element".toList
  | .error => "ParseError".toList
  | .parser => "FnParser".toList
  | .structural => "Structural".toList
  | .namelessFunction => "NamelessFn".toList
  | .namedFunction => "NamedFn".toList
  | .misleadingFunction => "CallableWithBadParse".toList
  | .inert => "NotAParser".toList

/-- Whether the name of the kind is one thing, kept with the kind. The names
of the plain kinds are written out each time they are asked for. -/
def keepsName : Kind → Bool
  | .none | .bool | .int | .text | .bytes | .dictionary | .tuple | .list
  | .slice => false
  | _ => true

/-- Whether things of this kind offer anything under the name `parse`,
whatever it is. -/
def offersParse : Kind → Bool
  | .parser | .structural | .misleadingFunction | .inert => true
  | _ => false

end Kind

end ParserKit
