/-
Expressions: how a script writes values down.

There is an expression for each kind of value, and one for each way of
making a parser. Evaluation goes into an expression first and from left to
right, so its effects and its first fault are those of its parts in the
order in which they are written; the making of the value itself comes last.

A text that is written down is a thing of its own each time, however often
the same characters occur. The value that a transform or an act is given is
one thing, whatever number of times it is called.

Some parts may be left out: where a view begins, which is then at the start,
and the lists of an element, which are then empty. A list that was left out is
as much a list of the element's own as one that was written down, since it is
made when the element is.
-/
import ParserKit.Script.Session

namespace ParserKit.Script

/-- The ways of putting two parsers together. -/
inductive Joint where
  | pair
  | left
  | right
  deriving DecidableEq, Repr

/-- Expressions. -/
inductive Expr where
  | none
  | bool (b : Bool)
  | int (n : Int)
  | text (t : Text)
  | bytes (data : List UInt8)
  | dictionary
  | tuple (items : List Expr)
  | list (items : List Expr)
  /-- The result of the step with that number. -/
  | ref (step : Nat)
  | slice (start stop step : Expr)
  | view (text : Expr) (pos? : Option Expr)
  | success (view value : Expr)
  | failure (view : Expr)
  | element (name : Expr) (attributes? children? : Option Expr)
  | literal (text : Expr)
  | character (text : Expr)
  | identifier
  | letterA
  /-- `given` is the value that a constant transform gives. -/
  | map (p : Expr) (f : Transform) (given : Expr)
  | join (joint : Joint) (p q : Expr)
  /-- Something that carries an act, which may need a value. -/
  | callable (style : Style) (act : Act) (value : Expr)
  /-- Something that only looks as if it could parse. -/
  | inert

namespace Joint

/-- Puts two arguments together. -/
def build : Joint → Argument → Argument → Build Parser
  | .pair => Build.pair
  | .left => Build.left
  | .right => Build.right

end Joint

/-- The identity of the other source that an act goes on over. -/
def Eval.otherSource (act : Act) : Eval Identity := do
  let text := match act with
    | .elsewhere text => text
    | _ => []
  let v ← Eval.settle (.text text)
  return v.identity?.getD .noItems

namespace Expr

mutual

/-- Evaluates an expression. -/
def eval : Expr → Eval Value
  | .none => return .none
  | .bool b => return .bool b
  | .int n => return .int n
  | .text t => Eval.settle (.text t)
  | .bytes data => return .bytes data
  | .dictionary => return .dictionary
  | .tuple items => do return .tuple (← evalAll items)
  | .list items => do return .list (← evalAll items)
  | .ref step => do return (← get).results[step]?.getD .none
  | .slice x y z => do
      let x ← x.eval
      let y ← y.eval
      let z ← z.eval
      return .slice x y z
  | .view t pos? => do
      let t ← t.eval
      let pos? ← evalOption pos?
      return .view (← Eval.windowAt t pos?)
  | .success v x => do
      let v ← v.eval
      let x ← x.eval
      return .success v x
  | .failure v => do return .failure (← v.eval)
  | .element name attributes? children? => do
      let name ← name.eval
      let attributes? ← evalOption attributes?
      let children? ← evalOption children?
      Eval.settle (.newElement name attributes? children?)
  | .literal t => do
      let t ← t.eval
      let a ← Eval.argument t
      Eval.build fun s => Build.literal (a s)
  | .character t => do
      let t ← t.eval
      let a ← Eval.argument t
      Eval.build fun s => Build.character (a s)
  | .identifier => return Session.identifier
  | .letterA => return Session.letterA
  | .map p f given => do
      let p ← p.eval
      let given ← Eval.settle (← given.eval)
      let a ← Eval.argument p
      Eval.build fun s => Build.map (a (s.part 0)) (f.run s given)
  | .join joint p q => do
      let p ← p.eval
      let q ← q.eval
      let a ← Eval.argument p
      let b ← Eval.argument q
      Eval.build fun s => joint.build (a (s.part 0)) (b (s.part 1))
  | .callable style act value => do
      let value ← Eval.settle (← value.eval)
      let id ← Eval.otherSource act
      Eval.register style.kind (style.shown act) fun _ =>
        style.argument act id value
  | .inert =>
      Eval.register .inert "<badobj>".toList fun _ => .other .inert

/-- Evaluates an expression, if it is there. -/
def evalOption : Option Expr → Eval (Option Value)
  | Option.none => return Option.none
  | Option.some x => do return some (← x.eval)

/-- Evaluates several expressions from left to right. -/
def evalAll : List Expr → Eval (List Value)
  | [] => return []
  | x :: xs => do
      let v ← x.eval
      let vs ← evalAll xs
      return v :: vs

end

end Expr

end ParserKit.Script
