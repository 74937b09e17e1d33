/-
Traced computations: what happened on the way, and how it ended.

A run of a parser is judged by three things at once: the calls it made, in
order; the value it ended with; or the fault that ended it early. `Traced`
keeps all three. The trace survives a fault, because what was done before
the end was done. A computation that ends in a fault has no continuation:
`bind` hands nothing on and adds nothing to the trace.

The type is a lawful monad, so sequences of steps may be regrouped freely;
most laws of the combinators come down to that. Faults are not caught
anywhere, so there is no handler.
-/
import ParserKit.Fault

namespace ParserKit

/-- A trace of events and an end. -/
structure Traced (ε α : Type) where
  trace : List ε
  exit : Except Fault α

namespace Traced

variable {ε δ α β γ : Type}

-- ============================================================ the monad

/-- Ends with a value and does nothing. -/
protected def pure (a : α) : Traced ε α :=
  ⟨[], .ok a⟩

/-- Goes on with the value, if there is one. -/
protected def bind (m : Traced ε α) (f : α → Traced ε β) : Traced ε β :=
  match m.exit with
  | .ok a =>
      let n := f a
      ⟨m.trace ++ n.trace, n.exit⟩
  | .error e => ⟨m.trace, .error e⟩

instance : Monad (Traced ε) where
  pure := Traced.pure
  bind := Traced.bind

-- =========================================================== primitives

/-- Records one event. -/
def emit (event : ε) : Traced ε Unit :=
  ⟨[event], .ok ()⟩

/-- Ends with a fault. -/
def raise (fault : Fault) : Traced ε α :=
  ⟨[], .error fault⟩

/-- A computation without events. -/
def ofExcept (exit : Except Fault α) : Traced ε α :=
  ⟨[], exit⟩

instance : MonadLift (Except Fault) (Traced ε) where
  monadLift := ofExcept

/-- The same computation with its events renamed. -/
def mapTrace (f : ε → δ) (m : Traced ε α) : Traced δ α :=
  ⟨m.trace.map f, m.exit⟩

-- ================================================================= laws

theorem ext_of {m n : Traced ε α} (ht : m.trace = n.trace)
    (he : m.exit = n.exit) : m = n := by
  cases m
  cases n
  cases ht
  cases he
  rfl

@[simp] theorem pure_eq (a : α) :
    (pure a : Traced ε α) = ⟨[], .ok a⟩ := rfl

/-- After a value, both parts' events follow each other. -/
@[simp] theorem bind_ok (t : List ε) (a : α) (f : α → Traced ε β) :
    ((⟨t, .ok a⟩ : Traced ε α) >>= f) =
      ⟨t ++ (f a).trace, (f a).exit⟩ := rfl

/-- After a fault nothing happens. -/
@[simp] theorem bind_error (t : List ε) (e : Fault) (f : α → Traced ε β) :
    ((⟨t, .error e⟩ : Traced ε α) >>= f) = ⟨t, .error e⟩ := rfl

/-- Going on with the value as it is changes nothing. -/
theorem id_map (m : Traced ε α) : id <$> m = m := by
  obtain ⟨t, e | a⟩ := m
  · rfl
  · exact ext_of (List.append_nil t) rfl

/-- Steps may be regrouped. -/
theorem bind_assoc (m : Traced ε α) (f : α → Traced ε β)
    (g : β → Traced ε γ) : m >>= f >>= g = m >>= fun a => f a >>= g := by
  obtain ⟨t, e | a⟩ := m
  · rfl
  · rw [bind_ok]
    rcases hf : f a with ⟨u, e | b⟩
    · simp [hf]
    · simp [hf, List.append_assoc]

instance : LawfulMonad (Traced ε) :=
  LawfulMonad.mk' (Traced ε) id_map (fun _ _ => rfl) bind_assoc

end Traced

end ParserKit
