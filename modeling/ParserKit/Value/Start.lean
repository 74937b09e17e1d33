/-
What values start with.

A text starts with a text, and a byte string with a byte string. Several
starts may be offered at once, as a tuple; then it is enough that one of
them fits. A start of another kind is refused, and so is one in a tuple,
unless an earlier one fits.
-/
import ParserKit.Value.Basic

namespace ParserKit.Value

/-- Whether a text starts with one of several texts. They are tried in
order, and nothing after the first that fits is looked at. -/
def startsWithAny (t : Text) : List Value → Except Fault Bool
  | [] => .ok false
  | x :: rest =>
      match x.bare with
      | .text s => if s.isPrefixOf t then .ok true else startsWithAny t rest
      | x => .error (.notStartItem x.kind)

/-- Whether a text starts with a text, or with one of a tuple of texts. -/
def textStartsWith (t : Text) (start : Value) : Except Fault Bool :=
  match start.bare with
  | .text s => .ok (s.isPrefixOf t)
  | .tuple items => startsWithAny t items
  | x => .error (.notStart x.kind)

/-- Whether a byte string starts with one of several byte strings. -/
def bytesStartWithAny (data : List UInt8) : List Value → Except Fault Bool
  | [] => .ok false
  | x :: rest =>
      match x.bare with
      | .bytes s =>
          if s.isPrefixOf data then .ok true else bytesStartWithAny data rest
      | x => .error (.notBytes x.kind)

/-- Whether a byte string starts with a byte string, or with one of a tuple
of byte strings. -/
def bytesStartWith (data : List UInt8) (start : Value) :
    Except Fault Bool :=
  match start.bare with
  | .bytes s => .ok (s.isPrefixOf data)
  | .tuple items => bytesStartWithAny data items
  | x => .error (.notBytesStart x.kind)

/-- Whether a value, from a position on, starts with another. -/
def startsWith (v : Value) (pos : Nat) (start : Value) : Except Fault Bool :=
  match v.bare with
  | .text t => textStartsWith (t.drop pos) start
  | .bytes data => bytesStartWith (data.drop pos) start
  | .view _ => .error .notStartFrom
  | v => .error (.noPart v.kind "startswith".toList)

end ParserKit.Value
