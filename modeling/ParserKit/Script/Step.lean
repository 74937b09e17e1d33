/-
Steps: the operations of a script, applied to expressions.

A step evaluates its expressions from left to right and then does one thing
with their values. The result becomes one that later steps can refer to.
-/
import ParserKit.Script.Expr
import ParserKit.Script.Operation

namespace ParserKit.Script

/-- One step of a script. -/
inductive Step where
  /-- The value of an expression. -/
  | eval (x : Expr)
  -- any value
  | length (x : Expr)
  | isTrue (x : Expr)
  | text (x : Expr)
  | print (x : Expr)
  | equal (x y : Expr)
  | differ (x y : Expr)
  | sameHash (x y : Expr)
  | group (xs : List Expr)
  -- views
  | pos (v : Expr)
  | source (v : Expr)
  | input (x : Expr)
  | isInput (x : Expr)
  | select (v key : Expr)
  | hasChars (v n : Expr)
  | peek (v n : Expr)
  | advance (v n : Expr)
  | startsWith (v t : Expr)
  | consumedSince (v earlier : Expr)
  | isSuffixOf (v other : Expr)
  -- outcomes
  | rest (r : Expr)
  | value (r : Expr)
  | unwrap (r : Expr)
  | error (r : Expr)
  | unpack (r : Expr)
  -- parsers
  | parse (p x : Expr)
  | call (p x : Expr)
  | coerce (x : Expr)
  | isCoerced (x : Expr)
  | offersParse (x : Expr)
  | lift (x name : Expr)
  | name (x : Expr)
  -- elements
  | addAttribute (e name value : Expr)
  | addChild (e child : Expr)

namespace Step

/-- Evaluates one expression and goes on with its value. -/
def one {α : Type} (x : Expr) (f : Value → Eval α) : Eval α := do
  f (← x.eval)

/-- Evaluates two expressions and goes on with their values. -/
def two {α : Type} (x y : Expr) (f : Value → Value → Eval α) : Eval α := do
  let x ← x.eval
  let y ← y.eval
  f x y

/-- Does what the step says and gives its result. -/
def perform : Step → Eval Value
  | .eval x => x.eval
  | .length x => one x Eval.length
  | .isTrue x => one x Eval.isTrue
  | .text x => one x Eval.text
  | .print x => one x Eval.print
  | .equal x y => Value.bool <$> two x y Eval.equal
  | .differ x y => (fun b => Value.bool (!b)) <$> two x y Eval.equal
  | .sameHash x y => two x y Eval.sameHash
  | .group xs => do Eval.group (← Expr.evalAll xs)
  | .pos v => one v Eval.pos
  | .source v => one v Eval.sourceOf
  | .input x => one x Eval.asInput
  | .isInput x => one x Eval.isInput
  | .select v key => two v key Eval.select
  | .hasChars v n => two v n Eval.hasChars
  | .peek v n => two v n Eval.peek
  | .advance v n => two v n Eval.advance
  | .startsWith v t => two v t Eval.startsWith
  | .consumedSince v w => two v w Eval.consumedSince
  | .isSuffixOf v w => two v w Eval.isSuffixOf
  | .rest r => one r Eval.rest
  | .value r => one r Eval.value
  | .unwrap r => one r Eval.unwrap
  | .error r => one r Eval.error
  | .unpack r => one r Eval.unpack
  | .parse p x => two p x Eval.parse
  | .call p x => two p x Eval.call
  | .coerce x => one x Eval.coerce
  | .isCoerced x => one x Eval.isCoerced
  | .offersParse x => one x Eval.offersParse
  | .lift x n => two x n Eval.lift
  | .name x => one x Eval.name
  | .addAttribute e n v => do
      let e ← e.eval
      two n v (Eval.addAttribute e)
  | .addChild e x => two e x Eval.addChild

end Step

end ParserKit.Script
