/-
Numbers as they are written.

A whole number can be written as a numeral or as a truth value, which is
one or zero. The two count alike wherever a number is called for, and
differ only in print: a message or a trace shows a number as it was given.
-/
import ParserKit.Text.Basic

namespace ParserKit

/-- A whole number and how it is written. -/
inductive Number where
  | int (n : Int)
  | truth (b : Bool)
  deriving DecidableEq, Repr

namespace Number

instance : Coe Int Number := ⟨.int⟩

instance : Coe Nat Number := ⟨fun n => .int n⟩

/-- What a truth value counts as. -/
def ofTruth (b : Bool) : Int :=
  if b then 1 else 0

/-- The number that is written. -/
def toInt : Number → Int
  | .int n => n
  | .truth b => ofTruth b

/-- Whether it is written as a truth value. -/
def isTruth : Number → Bool
  | .int _ => false
  | .truth _ => true

/-- A truth value in print. -/
def renderTruth (b : Bool) : Text :=
  if b then "True".toList else "False".toList

/-- A number in print. -/
def render : Number → Text
  | .int n => Text.decimal n
  | .truth b => renderTruth b

end Number

end ParserKit
