/-
Faults: why an operation has no result.

A fault is a cause with the data that explain it. `Fault.message` puts it
into words, and `Fault.className` says of what class it is, which is what a
caller tells faults apart by. A parse that merely fails is no fault: it has a
result, a failure, and becomes the fault `unparsed` only when a caller insists
on a value. That fault is the one that carries a window, so the caller can see
where the input stopped making sense.

`aborted` is the fault of a leaf or a transform that gives up for a reason
of its own. It travels through every combinator untouched like any other.
-/
import ParserKit.Window.Basic

namespace ParserKit

/-- The causes for which an operation has no result. -/
inductive Fault where
  -- views
  /-- A view was asked for outside its source. -/
  | positionOutside (pos : Number) (length : Nat)
  /-- A view was asked to move back, or beyond its end. -/
  | cannotAdvance (amount : Number) (left : Nat)
  /-- The consumed text was asked for between views that are not in
  order over one source. -/
  | notPreceding
  /-- No character has that index. -/
  | indexOutside
  /-- A slice cannot step by zero. -/
  | zeroStep
  -- windows over something else than a text
  /-- The text was asked for, and there are items of some kind. -/
  | noText (found : Kind)
  /-- A text was to be put after something that is none. -/
  | notJoinable (found : Kind)
  /-- A view was asked what it starts with from a position on. -/
  | notStartFrom
  /-- A name was searched for in something that is no text. -/
  | notSearchable (found : Kind)
  -- parsers
  /-- A character parser needs one character. -/
  | notOneCharacter (length : Nat)
  /-- A value was insisted on where parsing had failed. -/
  | unparsed (rest : Window)
  /-- A leaf or a transform gave up. -/
  | aborted (reason : Text)
  -- values of the wrong kind
  /-- Only a text or a view can be parsed. -/
  | notInput (found : Kind)
  /-- Only a text can be matched literally. -/
  | notLiteral (found : Kind)
  /-- Only a text can hold the one character to match. -/
  | notCharacter (found : Kind)
  /-- A parser was expected, or something that can be made into one. -/
  | notParser (found : Kind)
  /-- Something was called that cannot be. -/
  | notCallable (found : Kind)
  /-- A view starts with a text, or with one of a tuple of texts, or not at
  all. -/
  | notStart (found : Kind)
  /-- A tuple of possible starts holds something else. -/
  | notStartItem (found : Kind)
  /-- A byte string starts with a byte string, or with one of a tuple of
  byte strings, or not at all. -/
  | notBytesStart (found : Kind)
  /-- A tuple of byte strings holds something else. -/
  | notBytes (found : Kind)
  /-- Only whole numbers and slices select characters. -/
  | notIndex (found : Kind)
  /-- Only whole numbers and slices select items. -/
  | notSelector (whole found : Kind)
  /-- The members of a slice are whole numbers or left out. -/
  | notSliceMember
  /-- Something was asked for an item that it does not have. -/
  | itemOutside (found : Kind)
  /-- An item was asked for by a number that no sequence reaches. -/
  | indexTooLarge
  /-- Nothing is filed under that key, shown in print. -/
  | keyMissing (shown : Text)
  /-- Something without items was asked for one. -/
  | notSubscriptable (found : Kind)
  /-- Something without parts was to be taken apart. -/
  | notUnpackable (found : Kind)
  /-- Something with fewer than two parts was to be taken apart in two. -/
  | tooFewParts (count : Nat)
  /-- Something with more than two parts was to be taken apart in two. -/
  | tooManyParts
  /-- A value that can change, or that holds one, cannot be a key. -/
  | unhashable (found : Kind)
  /-- Something without items was asked how many it has. -/
  | noLength (found : Kind)
  /-- A number was to be added to something that is none. -/
  | notAddend (left right : Kind)
  /-- Values of two kinds were to be put in order. -/
  | notOrdered (sign : Text) (left right : Kind)
  /-- A value was asked for a part that its kind does not have. -/
  | noPart (found : Kind) (part : Text)
  deriving DecidableEq, Repr

namespace Fault

/-- The class of a fault. Only `unparsed` has one of this library's own. -/
def className : Fault → Text
  | .positionOutside _ _ | .cannotAdvance _ _ | .notPreceding | .zeroStep
  | .notOneCharacter _ | .tooFewParts _ | .tooManyParts =>
      "ValueError".toList
  | .indexOutside | .itemOutside _ | .indexTooLarge => "IndexError".toList
  | .keyMissing _ => "KeyError".toList
  | .unparsed _ => "ParseError".toList
  | .aborted _ => "RuntimeError".toList
  | .noPart _ _ => "AttributeError".toList
  | .noText _ | .notJoinable _ | .notStartFrom | .notSearchable _
  | .notInput _ | .notLiteral _ | .notCharacter _ | .notParser _
  | .notCallable _ | .notStart _ | .notStartItem _ | .notBytesStart _
  | .notBytes _ | .notIndex _ | .notSelector _ _ | .notSliceMember
  | .notSubscriptable _ | .notUnpackable _ | .unhashable _ | .noLength _
  | .notAddend _ _ | .notOrdered _ _ _ => "TypeError".toList

/-- A name between apostrophes. -/
def named (name : Text) : Text :=
  '\x27' :: name ++ ['\x27']

/-- A fault in words. -/
def message : Fault → Text
  | .positionOutside pos length =>
      "Position ".toList ++ pos.render ++
        " is outside of the string (length ".toList ++
        Text.decimal length ++ ").".toList
  | .cannotAdvance amount left =>
      "Cannot advance by ".toList ++ amount.render ++
        ", only ".toList ++ Text.decimal left ++
        " characters left.".toList
  | .notPreceding => "The given view doesn't precede this one.".toList
  | .indexOutside => "StringView index out of range".toList
  | .zeroStep => "slice step cannot be zero".toList
  | .noText found =>
      "__str__ returned non-string (type ".toList ++ found.name ++ [')']
  | .notJoinable .bytes => "can't concat str to bytes".toList
  | .notJoinable found =>
      "can only concatenate ".toList ++ found.name ++
        " (not \"str\") to ".toList ++ found.name
  | .notStartFrom =>
      "StringView.startswith() takes 2 positional arguments ".toList ++
        "but 3 were given".toList
  | .notSearchable .bytes =>
      "cannot use a string pattern on a bytes-like object".toList
  | .notSearchable _ => "expected string or buffer".toList
  | .notOneCharacter length =>
      "Expected exactly one character, got ".toList ++
        Text.decimal length ++ ".".toList
  | .unparsed rest =>
      "Could not parse input: ".toList ++
        if rest.isEmpty then "unexpected end of input".toList
        else rest.view.preview
  | .aborted reason => reason
  | .notInput found =>
      "Expected a str or a StringView, got ".toList ++ found.name ++
        ".".toList
  | .notLiteral found =>
      "Expected a str literal, got ".toList ++ found.name ++ ".".toList
  | .notCharacter found =>
      "Expected a str character, got ".toList ++ found.name ++ ".".toList
  | .notParser found =>
      "Expected a parser, a parser function or a string, got ".toList ++
        found.name ++ ".".toList
  | .notCallable found =>
      named found.name ++ " object is not callable".toList
  | .notStart found =>
      "startswith first arg must be str or a tuple of str, not ".toList ++
        found.name
  | .notStartItem found =>
      "tuple for startswith must only contain str, not ".toList ++
        found.name
  | .notBytesStart found =>
      "startswith first arg must be bytes or a tuple of bytes, not ".toList ++
        found.name
  | .notBytes found =>
      "a bytes-like object is required, not ".toList ++ named found.name
  | .notSelector .text found =>
      "string indices must be integers, not ".toList ++ named found.name
  | .notSelector whole found =>
      (if whole = .bytes then "byte".toList else whole.name) ++
        " indices must be integers or slices, not ".toList ++ found.name
  | .notIndex found =>
      named found.name ++
        " object cannot be interpreted as an integer".toList
  | .notSliceMember =>
      "slice indices must be integers or None or ".toList ++
        "have an __index__ method".toList
  | .itemOutside .bytes => "index out of range".toList
  | .itemOutside .text => "string index out of range".toList
  | .itemOutside found => found.name ++ " index out of range".toList
  | .indexTooLarge =>
      "cannot fit 'int' into an index-sized integer".toList
  | .keyMissing shown => shown
  | .notSubscriptable found =>
      named found.name ++ " object is not subscriptable".toList
  | .notUnpackable found =>
      "cannot unpack non-iterable ".toList ++ found.name ++
        " object".toList
  | .tooFewParts count =>
      "not enough values to unpack (expected 2, got ".toList ++
        Text.decimal count ++ [')']
  | .tooManyParts =>
      "too many values to unpack (expected 2)".toList
  | .unhashable found => "unhashable type: ".toList ++ named found.name
  | .noLength found =>
      "object of type ".toList ++ named found.name ++ " has no len()".toList
  | .notAddend left right =>
      "unsupported operand type(s) for +: ".toList ++ named left.name ++
        " and ".toList ++ named right.name
  | .notOrdered sign left right =>
      named sign ++ " not supported between instances of ".toList ++
        named left.name ++ " and ".toList ++ named right.name
  | .noPart found part =>
      named found.name ++ " object has no attribute ".toList ++ named part

end Fault

end ParserKit
