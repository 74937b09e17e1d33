/-
Names in a text.

A name begins with an alphabetic character and goes on with alphabetic
characters and dashes. There is no engine for patterns underneath: `nameAt`
spells out what a greedy match from the first character on comes to. It takes
the longest name, so the character after it is never one that could have
continued it.
-/
import ParserKit.Text.Basic
import ParserKit.Text.Alphabetic

namespace ParserKit

/-- Whether a character can continue a name that has begun. -/
def continuesName (c : Char) : Bool :=
  isAlphabetic c || c == '-'

/-- The longest name that a text starts with: an alphabetic character and
all the alphabetic characters and dashes after it. -/
def nameAt : Text → Option Text
  | [] => none
  | c :: rest =>
      if isAlphabetic c then some (c :: rest.takeWhile continuesName)
      else none

end ParserKit
