/-
Obstacles: what stands in the way of reading a value.

A value is read in one of three ways: as a text (`textFault?`), in print
(`printFault?`), or part by part, to be handed on (`displayFault?`). All
three read views, and a view over something that is no text has nothing to
be read. Printing an outcome also takes a preview of its rest, which has to
have a length, and to be a view if it is long.

Each definition goes through a value in the order in which it is read, and
gives the first thing that is in the way.
-/
import ParserKit.Value.Print

namespace ParserKit.Value

/-- What stands in the way of a value as a text, given what stands in the way
of printing it. -/
def textFaultOr (printed : Option Fault) : Value → Option Fault
  | .text _ | .error _ _ => .none
  | .view w => w.textFault?
  | .known _ v => v.textFaultOr printed
  | _ => printed

/-- What stands in the way of a preview, given what stands in the way of
printing. What is too long to be shown whole is cut as views are. -/
def previewFaultOr (printed : Option Fault) : Value → Option Fault
  | .view w => w.previewFault?
  | .known _ v => v.previewFaultOr printed
  | v =>
      match v.length with
      | .error fault => some fault
      | .ok n =>
          if n ≤ View.previewLimit then v.textFaultOr printed
          else some (.noPart v.kind "src".toList)

mutual

/-- What stands in the way of printing a value. -/
def printFault? : Value → Option Fault
  | .tuple items => printFaultAll? items
  | .list items => printFaultAll? items
  | .slice x y z => printFault? x <|> printFault? y <|> printFault? z
  | .view w => w.previewFault?
  | .success rest value =>
      rest.previewFaultOr (printFault? rest) <|> printFault? value
  | .failure rest => rest.previewFaultOr (printFault? rest)
  | .element name attributes children =>
      printFault? name <|> printFault? attributes <|> printFault? children
  | .parser _ name => name.textFaultOr (printFault? name)
  | .known _ v => printFault? v
  | _ => .none

/-- What stands in the way of printing several values. -/
def printFaultAll? : List Value → Option Fault
  | [] => .none
  | x :: xs => printFault? x <|> printFaultAll? xs

end

/-- What stands in the way of a value as a text. -/
def textFault? (v : Value) : Option Fault :=
  v.textFaultOr v.printFault?

mutual

/-- What stands in the way of showing a value part by part. -/
def displayFault? : Value → Option Fault
  | .tuple items => displayFaultAll? items
  | .list items => displayFaultAll? items
  | .view w => w.textFault?
  | .success rest value => displayFault? value <|> displayFault? rest
  | .failure rest => displayFault? rest
  | .element name attributes children =>
      displayFault? name <|> displayFault? attributes <|>
        displayFault? children
  | .error _ rest => rest.textFault?
  | .parser _ name => name.textFault?
  | .known _ v => displayFault? v
  | _ => .none

/-- What stands in the way of showing several values part by part. -/
def displayFaultAll? : List Value → Option Fault
  | [] => .none
  | x :: xs => displayFault? x <|> displayFaultAll? xs

end

end ParserKit.Value
