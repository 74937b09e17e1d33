/-
Values in print.

The printed form of a value shows its structure: texts and byte strings are
quoted, items are separated by a comma and a space, and a tuple of one item
keeps a comma after it so that it does not read as a bare value in
parentheses. An outcome shows only a preview of its rest, so two outcomes
can print alike and still differ in what lies further on.

Printing is total. Where a part cannot be read (a view over something that
is no text, a rest that cannot be previewed) the printed form means
nothing; `ParserKit.Value.Obstacle` says when that is so.
-/
import ParserKit.Value.Basic

namespace ParserKit.Value

/-- Several texts with a separator between any two. -/
def joined (separator : Text) : List Text → Text
  | [] => []
  | [t] => t
  | t :: u :: ts => t ++ separator ++ joined separator (u :: ts)

/-- What separates items. -/
def comma : Text := [',', ' ']

/-- A value as a text, given its printed form: a text and a view are
themselves, an error is its message, and any other value is its printed
form. -/
def textOr (shown : Text) : Value → Text
  | .text t => t
  | .view w => w.view.unconsumed
  | .error _ rest => (Fault.unparsed rest).message
  | .known _ v => v.textOr shown
  | _ => shown

/-- The preview of the rest of an outcome, given its printed form. -/
def previewOr (shown : Text) : Value → Text
  | .view w => w.view.preview
  | .known _ v => v.previewOr shown
  | v => Quoted.encode (v.textOr shown)

/-- A parser of that name in print. -/
def framed (name : Text) : Text :=
  "<FnParser ".toList ++ name ++ ['>']

mutual

/-- A value in print. -/
def render : Value → Text
  | .none => "None".toList
  | .bool b => Number.renderTruth b
  | .int n => Text.decimal n
  | .text t => Quoted.encode t
  | .bytes data => Quoted.encodeBytes data
  | .dictionary => ['\x7b', '\x7d']
  | .tuple items =>
      match items with
      | [x] => '(' :: render x ++ [',', ')']
      | xs => '(' :: joined comma (renderAll xs) ++ [')']
  | .list items => '[' :: joined comma (renderAll items) ++ [']']
  | .cell _ => "[...]".toList
  | .slice x y z =>
      "slice(".toList ++ joined comma [render x, render y, render z] ++ [')']
  | .view w => w.render
  | .success rest value =>
      "<Success ".toList ++ rest.previewOr (render rest) ++ [' ', '\x7b'] ++
        render value ++ ['\x7d', '>']
  | .failure rest => "<Failure ".toList ++ rest.previewOr (render rest) ++ ['>']
  | .element name attributes children =>
      "Element(name=".toList ++ render name ++ ", attributes=".toList ++
        render attributes ++ ", children=".toList ++ render children ++ [')']
  | .error _ rest =>
      "ParseError(".toList ++ Quoted.encode (Fault.unparsed rest).message ++
        [')']
  | .parser _ name => framed (name.textOr (render name))
  | .object h => h.shown
  | .known _ v => render v

/-- The printed forms of several values. -/
def renderAll : List Value → List Text
  | [] => []
  | x :: xs => render x :: renderAll xs

end

/-- A value as a text. -/
def asText (v : Value) : Text :=
  v.textOr v.render

end ParserKit.Value
