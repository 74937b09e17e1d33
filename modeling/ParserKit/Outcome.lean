/-
Outcomes of a parse, and the log.

A parse either succeeds, with a value and the window on what follows the
matched part, or fails, with the very window that the failing parser was
given. Either way there is a window to go on from.

A caller that cannot go on from a failure escalates it: `unwrap` gives the
value of a success as it is, and turns a failure into the fault
`Fault.unparsed`. Escalation is one of the three occasions that leave a
record in the log; the other two are conversions of arguments into parsers.
A position in the log counts from the start of the source, so that two
records about one source can be compared.

A record is kept as its cause with the data that explain it, as a fault is.
What a reader of the log gets is its line (`LogRecord.line`): a level, the name
of the logger and the words.
-/
import ParserKit.Traced
import ParserKit.Window.Access

namespace ParserKit

/-- What a parse comes to. -/
inductive Outcome (α : Type) where
  | success (rest : Window) (value : α)
  | failure (rest : Window)
  deriving DecidableEq

/-- A record in the log. -/
inductive LogRecord where
  /-- A text was made into a parser of that text. -/
  | converting (text : Text)
  /-- A parser function, shown here in print, was made into a parser. -/
  | lifting (shown : Text)
  /-- A failure at that position of its source was turned into a fault. -/
  | escalating (pos : Nat)
  deriving DecidableEq, Repr

/-- What a record is to a reader of the log. -/
structure LogLine where
  level : Text
  logger : Text
  message : Text
  deriving DecidableEq, Repr

namespace LogRecord

/-- A record in words. -/
def message : LogRecord → Text
  | .converting text =>
      "Converting string ".toList ++ Quoted.encode text ++
        " into a literal parser".toList
  | .lifting shown => "Lifting ".toList ++ shown ++ " into a parser".toList
  | .escalating pos =>
      "Escalating parse failure at position ".toList ++ Text.decimal pos

/-- A record as a line of the log. All are of the level for debugging, and
one logger leaves them. -/
def line (record : LogRecord) : LogLine :=
  ⟨"DEBUG".toList, "combparse.main".toList, record.message⟩

/-- The lines of all records. Both conversions show in print what was
converted. -/
theorem line_eq :
    (∀ t : Text, (converting t).line =
      ⟨"DEBUG".toList, "combparse.main".toList,
        "Converting string ".toList ++ Quoted.encode t ++
          " into a literal parser".toList⟩) ∧
    (∀ shown : Text, (lifting shown).line =
      ⟨"DEBUG".toList, "combparse.main".toList,
        "Lifting ".toList ++ shown ++ " into a parser".toList⟩) ∧
    ∀ pos : Nat, (escalating pos).line =
      ⟨"DEBUG".toList, "combparse.main".toList,
        "Escalating parse failure at position ".toList ++
          Text.decimal pos⟩ :=
  ⟨fun _ => rfl, fun _ => rfl, fun _ => rfl⟩

end LogRecord

namespace Outcome

variable {α : Type}

/-- The window to go on from. -/
def rest : Outcome α → Window
  | .success rest _ => rest
  | .failure rest => rest

/-- The fault that a failure at a window becomes. It shows what is left, and
cannot be made where that cannot be read. -/
def escalate (rest : Window) : Traced LogRecord Fault := do
  Traced.emit (.escalating rest.view.pos)
  match if rest.isEmpty then none else rest.previewFault? with
  | some fault => Traced.raise fault
  | none => return .unparsed rest

/-- The value of a success; a failure is escalated. -/
def unwrap : Outcome α → Traced LogRecord α
  | .success _ value => pure value
  | .failure rest => do Traced.raise (← escalate rest)

end Outcome

end ParserKit
