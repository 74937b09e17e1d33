/-
Constructions: how a caller puts a parser together.

A construction is written down as nested applications: of the two factories
of leaves, of lifting and coercing, and of the combinators, with anything at
all in the place of an argument. `Construction.value` goes through it as the
caller does. The arguments of an application come first, from left to right;
then the application itself coerces them in the same order and builds.

What it comes to is an argument again, and a parser only if it was coerced.
`Construction.parser` coerces it, so it is what the construction is good for
wherever a parser is expected.

# Two constructions side by side

Building ends in a value or in a fault. `ExitsAlike` compares two ends and
leaves open how the values are related; it goes through a sequence of steps
one by one (`ExitsAlike.bind`). The logs of the two are not compared.
-/
import ParserKit.Script.Expr

namespace ParserKit

-- ========================================================= ends of building

/-- Two computations end in the same fault, or in values that `R`
relates. -/
inductive Traced.ExitsAlike {ε α β : Type} (R : α → β → Prop)
    (m : Traced ε α) (n : Traced ε β) : Prop
  | value {a : α} {b : β} (hm : m.exit = .ok a) (hn : n.exit = .ok b)
      (h : R a b)
  | fault {e : Fault} (hm : m.exit = .error e) (hn : n.exit = .error e)

namespace Traced

section Ends

variable {ε α β γ δ : Type} {R : α → β → Prop} {S : γ → δ → Prop}
  {m : Traced ε α} {n : Traced ε β} {f : α → Traced ε γ}
  {g : β → Traced ε δ} {e : Fault}

theorem exit_bind_of_ok {a : α} (h : m.exit = .ok a) :
    (m >>= f).exit = (f a).exit := by
  obtain ⟨t, ex⟩ := m
  cases h
  rfl

theorem exit_bind_of_error (h : m.exit = .error e) :
    (m >>= f).exit = .error e := by
  obtain ⟨t, ex⟩ := m
  cases h
  rfl

theorem exitsAlike_pure {a : α} {b : β} (h : R a b) :
    (pure a : Traced ε α).ExitsAlike R (pure b : Traced ε β) :=
  ExitsAlike.value rfl rfl h

/-- Steps that end alike may be followed by steps that do. -/
theorem ExitsAlike.bind (h : m.ExitsAlike R n)
    (hfg : ∀ a b, R a b → (f a).ExitsAlike S (g b)) :
    (m >>= f).ExitsAlike S (n >>= g) := by
  cases h with
  | value hm hn h =>
      cases hfg _ _ h with
      | value hf hg hS =>
          exact ExitsAlike.value ((exit_bind_of_ok hm).trans hf)
            ((exit_bind_of_ok hn).trans hg) hS
      | fault hf hg =>
          exact ExitsAlike.fault ((exit_bind_of_ok hm).trans hf)
            ((exit_bind_of_ok hn).trans hg)
  | fault hm hn =>
      exact ExitsAlike.fault (exit_bind_of_error hm) (exit_bind_of_error hn)

theorem exitsAlike_eq_iff {m n : Traced ε α} :
    m.ExitsAlike Eq n ↔ m.exit = n.exit := by
  constructor
  · intro h
    cases h with
    | value hm hn h => rw [hm, hn, h]
    | fault hm hn => rw [hm, hn]
  · intro h
    cases hm : m.exit with
    | ok a => exact ExitsAlike.value hm (h.symm.trans hm) rfl
    | error e => exact ExitsAlike.fault hm (h.symm.trans hm)

end Ends

end Traced

-- =============================================================== coercing

namespace Argument

/-- What coercing an argument hands back: the argument itself if it offers a
parse operation, else the parser that it is made into. -/
def asParser (a : Argument) : Build Argument :=
  if a.isParser then pure a else do return .parser (← a.coerce)

/-- What was coerced is handed back by coercing it again, and nothing is
logged. -/
theorem asParser_asParser {a b : Argument} (h : a.asParser.exit = .ok b) :
    b.asParser = pure b := by
  cases a <;> cases h <;> rfl

end Argument

-- ================================================================= joints

namespace Script.Joint

/-- The node that puts two parsers together. -/
def node : Joint → Parser → Parser → Parser
  | .pair => .pair
  | .left => .left
  | .right => .right

/-- However two arguments are put together, they are coerced once each, from
left to right. -/
theorem build_eq (joint : Joint) (a b : Argument) :
    joint.build a b = do
      let p ← a.coerce
      let q ← b.coerce
      return joint.node p q := by
  have hproject : ∀ f : Value → Run Value,
      (do Build.map (.parser (← Build.pair a b)) f) = do
        let p ← a.coerce
        let q ← b.coerce
        return .map (.pair p q) f := by
    intro f
    simp only [Build.pair, bind_assoc, pure_bind]
    rfl
  cases joint with
  | pair => rfl
  | left => exact hproject Parser.first
  | right => exact hproject Parser.second

end Script.Joint

-- ============================================================ constructions

/-- What a caller writes down to put a parser together. -/
inductive Construction where
  /-- Something that is there already. -/
  | given (a : Argument)
  | literal (c : Construction)
  | character (c : Construction)
  | lift (c : Construction) (name? : Option Text)
  | coerce (c : Construction)
  | map (c : Construction) (f : Value → Run Value)
  | join (joint : Script.Joint) (c d : Construction)

namespace Construction

/-- Evaluates a construction. -/
def value : Construction → Build Argument
  | .given a => pure a
  | .literal c => do return .parser (← Build.literal (← c.value))
  | .character c => do return .parser (← Build.character (← c.value))
  | .lift c name? => do return .parser ((← c.value).lift name?)
  | .coerce c => do (← c.value).asParser
  | .map c f => do return .parser (← Build.map (← c.value) f)
  | .join joint c d => do
      let a ← c.value
      let b ← d.value
      return .parser (← joint.build a b)

/-- The parser that a construction is used as. -/
def parser (c : Construction) : Build Parser := do
  (← c.value).coerce

end Construction

end ParserKit
