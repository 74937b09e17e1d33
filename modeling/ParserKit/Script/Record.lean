/-
Records: what there is to see of a script.

`runSteps` runs a script and gives one record per step: its result, as it
reads at that moment, or its fault; the log; and the trace of calls. A later
change to an element does not reach back into earlier records.

`probe` looks at one parser: it makes it from an expression and runs it on
each of several inputs, and says of each outcome how it prints and whether
what follows lies further along the input that was given.
-/
import ParserKit.Script.Step

namespace ParserKit.Script

/-- What one evaluation came to. -/
structure Record where
  result : Except Fault Value
  log : List LogRecord
  calls : List Call

/-- A run of a parser: its record and, if there was an outcome, how it
prints and whether the rest is a suffix of the input. -/
structure Trial where
  record : Record
  outcome : Option (Text × Bool)

/-- How a parser was made and how it ran. There are no runs of a parser that
could not be made. -/
structure Report where
  built : Record
  trials : List Trial

-- =============================================================== events

namespace Event

/-- The log among some events. -/
def logOf (events : List Event) : List LogRecord :=
  events.filterMap fun
    | .log r => some r
    | .call _ => none

/-- The calls among some events. -/
def callsOf (events : List Event) : List Call :=
  events.filterMap fun
    | .log _ => none
    | .call c => some c

end Event

-- ================================================================ steps

/-- The record of a computation that did something and came to a result. -/
def Record.of (result : Except Fault Value) (events : List Event) : Record :=
  ⟨result, Event.logOf events, Event.callsOf events⟩

/-- A result as it is shown, if it can be. -/
def shown (v : Value) : Except Fault Value :=
  match v.displayFault? with
  | some fault => .error fault
  | none => .ok v

/-- Runs one computation in a session. Its result is settled, so that later
steps can refer to it, and stays even if it cannot be shown. -/
def runOne (m : Eval Value) (s : Session) : Record × Session :=
  let t := (do Eval.settle (← m)).run s
  match t.exit with
  | .ok (v, s) =>
      (Record.of (shown (s.store.read v)) t.trace,
        { s with results := s.results ++ [v] })
  | .error fault =>
      (Record.of (.error fault) t.trace,
        { s with results := s.results ++ [.none] })

/-- Runs steps one after another in a session. -/
def runFrom : Session → List Step → List Record
  | _, [] => []
  | s, step :: steps =>
      let (record, s) := runOne step.perform s
      record :: runFrom s steps

/-- Runs a script. -/
def runSteps (steps : List Step) : List Record :=
  runFrom .start steps

-- =============================================================== probing

/-- The outcome of a parser that was run on a window, as it prints, and
whether its rest is a suffix of the window. -/
def seen (w r : Value) : Except Fault (Option (Text × Bool)) :=
  match r with
  | .success rest _ | .failure rest =>
      match r.printFault?, rest, w with
      | some fault, _, _ => .error fault
      | none, .view rest, .view w =>
          .ok (some (r.render, rest.isSuffixOf w))
      | none, _, _ => .ok none
  | _ => .ok none

/-- What a record of a run comes to: without a printed outcome it is the
record of a fault. -/
def Trial.ofRecord (w : Value) (record : Record) : Trial :=
  match record.result with
  | .error _ => ⟨record, none⟩
  | .ok r =>
      match seen w r with
      | .ok outcome => ⟨record, outcome⟩
      | .error fault => ⟨{ record with result := .error fault }, none⟩

/-- Runs a parser, given as a value of a session, on an input. -/
def tryOn (p : Value) (s : Session) (input : Expr) : Trial :=
  let t := input.eval.run s
  match t.exit with
  | .error fault => ⟨Record.of (.error fault) t.trace, none⟩
  | .ok (w, s) => Trial.ofRecord w (runOne (Eval.parse p w) s).1

/-- Makes a parser from an expression and runs it on several inputs. -/
def probe (x : Expr) (inputs : List Expr) : Report :=
  let (built, s) := runOne (do Eval.coerce (← x.eval)) .start
  match built.result with
  | .error _ => ⟨built, []⟩
  | .ok p => ⟨built, inputs.map (tryOn p s)⟩

end ParserKit.Script
