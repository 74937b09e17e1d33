/-
Two runs side by side.

`EndsAlike R T p v q w` compares the run of `p` on `v` with that of `q` on
`w`: both succeed, with windows that `R` relates and values that `T`
relates; or both fail, with windows that `R` relates; or both end in the
same fault. What is related and by what is left open, so that one lemma for
each inner node serves every comparison of two trees of the same shape.

The values of a `map` are those of its transform, and two calls of
transforms are compared likewise (`CallsAlike`). A `pair` puts values in a
tuple, so `T` has to relate tuples of related values.
-/
import ParserKit.Proofs.Tree.Basic

namespace ParserKit.Parser

-- ======================================================= alike

/-- Two runs end in the same way. -/
inductive EndsAlike (R : Window → Window → Prop)
    (T : Value → Value → Prop) (p : Parser) (v : Window) (q : Parser)
    (w : Window) : Prop
  | success {r s : Window} {x y : Value} (hp : p.Succeeds v r x)
      (hq : q.Succeeds w s y) (hrest : R r s) (hvalue : T x y)
  | failure {r s : Window} (hp : p.Fails v r) (hq : q.Fails w s)
      (hrest : R r s)
  | fault {e : Fault} (hp : p.Raises v e) (hq : q.Raises w e)

/-- Two calls of transforms end in the same way. -/
inductive CallsAlike (T : Value → Value → Prop) (f : Value → Run Value)
    (x : Value) (g : Value → Run Value) (y : Value) : Prop
  | value {a b : Value} (hf : (f x).exit = .ok a) (hg : (g y).exit = .ok b)
      (h : T a b)
  | fault {e : Fault} (hf : (f x).exit = .error e)
      (hg : (g y).exit = .error e)

section TwoRuns

variable {R R' : Window → Window → Prop} {T T' : Value → Value → Prop}
  {p q p' q' : Parser} {f g : Value → Run Value} {v w : Window}

theorem EndsAlike.of_succeeds {r : Window} {x : Value}
    (h : EndsAlike R T p v q w) (hp : p.Succeeds v r x) :
    ∃ s y, q.Succeeds w s y ∧ R r s ∧ T x y := by
  cases h with
  | success hp' hq hrest hvalue =>
      cases hp.symm.trans hp'
      exact ⟨_, _, hq, hrest, hvalue⟩
  | failure hp' _ _ => exact absurd hp' hp.not_fails
  | fault hp' _ => cases hp.symm.trans hp'

theorem EndsAlike.of_fails {r : Window} (h : EndsAlike R T p v q w)
    (hp : p.Fails v r) : ∃ s, q.Fails w s ∧ R r s := by
  cases h with
  | success hp' _ _ _ => exact absurd hp hp'.not_fails
  | failure hp' hq hrest =>
      cases hp.symm.trans hp'
      exact ⟨_, hq, hrest⟩
  | fault hp' _ => cases hp.symm.trans hp'

theorem EndsAlike.of_raises {e : Fault} (h : EndsAlike R T p v q w)
    (hp : p.Raises v e) : q.Raises w e := by
  cases h with
  | success hp' _ _ _ => cases hp.symm.trans hp'
  | failure hp' _ _ => cases hp.symm.trans hp'
  | fault hp' hq =>
      cases hp.symm.trans hp'
      exact hq

/-- What else is known of the windows that two runs end at can be added to
how they are related. -/
theorem EndsAlike.imp (h : EndsAlike R T p v q w)
    (himp : ∀ o o', (p.run v).exit = .ok o → (q.run w).exit = .ok o' →
      R o.rest o'.rest → R' o.rest o'.rest) :
    EndsAlike R' T p v q w := by
  cases h with
  | success hp hq hrest hvalue =>
      exact EndsAlike.success hp hq (himp _ _ hp hq hrest) hvalue
  | failure hp hq hrest =>
      exact EndsAlike.failure hp hq (himp _ _ hp hq hrest)
  | fault hp hq => exact EndsAlike.fault hp hq

theorem endsAlike_self (hR : ∀ r, R r r) (hT : ∀ x, T x x) (p : Parser)
    (w : Window) : EndsAlike R T p w p w := by
  rcases p.ends w with ⟨r, x, h⟩ | ⟨r, h⟩ | ⟨e, h⟩
  · exact EndsAlike.success h h (hR r) (hT x)
  · exact EndsAlike.failure h h (hR r)
  · exact EndsAlike.fault h h

theorem EndsAlike.symm (hR : ∀ r s, R r s → R s r)
    (hT : ∀ x y, T x y → T y x) (h : EndsAlike R T p v q w) :
    EndsAlike R T q w p v := by
  cases h with
  | success hp hq hrest hvalue =>
      exact EndsAlike.success hq hp (hR _ _ hrest) (hT _ _ hvalue)
  | failure hp hq hrest => exact EndsAlike.failure hq hp (hR _ _ hrest)
  | fault hp hq => exact EndsAlike.fault hq hp

theorem EndsAlike.trans {u : Window}
    (hR : ∀ r s t, R r s → R s t → R r t)
    (hT : ∀ x y z, T x y → T y z → T x z) (h : EndsAlike R T p v q w)
    (h' : EndsAlike R T q w p' u) : EndsAlike R T p v p' u := by
  cases h with
  | success hp hq hrest hvalue =>
      obtain ⟨s, y, hp', hrest', hvalue'⟩ := h'.of_succeeds hq
      exact EndsAlike.success hp hp' (hR _ _ _ hrest hrest')
        (hT _ _ _ hvalue hvalue')
  | failure hp hq hrest =>
      obtain ⟨s, hp', hrest'⟩ := h'.of_fails hq
      exact EndsAlike.failure hp hp' (hR _ _ _ hrest hrest')
  | fault hp hq => exact EndsAlike.fault hp (h'.of_raises hq)

/-- A transform that is called on one value ends in one way. -/
theorem callsAlike_self (f : Value → Run Value) (x : Value) :
    CallsAlike Eq f x f x := by
  rcases hf : (f x).exit with e | a
  · exact CallsAlike.fault hf hf
  · exact CallsAlike.value hf hf rfl

-- ================================================================== trees

/-- Two `map`s end alike if what is below them does, and their transforms on
what that produces. -/
theorem EndsAlike.map (hp : EndsAlike R T p v q w)
    (hf : ∀ r s x y, p.Succeeds v r x → q.Succeeds w s y → T x y →
      CallsAlike T' f x g y) :
    EndsAlike R T' (map p f) v (map q g) w := by
  cases hp with
  | success hp hq hrest hvalue =>
      cases hf _ _ _ _ hp hq hvalue with
      | value hfx hgy h =>
          exact EndsAlike.success (succeeds_map_iff.2 ⟨_, hp, hfx⟩)
            (succeeds_map_iff.2 ⟨_, hq, hgy⟩) hrest h
      | fault hfx hgy =>
          exact EndsAlike.fault (raises_map_iff.2 (Or.inr ⟨_, _, hp, hfx⟩))
            (raises_map_iff.2 (Or.inr ⟨_, _, hq, hgy⟩))
  | failure hp hq hrest =>
      exact EndsAlike.failure (fails_map_iff.2 hp) (fails_map_iff.2 hq)
        hrest
  | fault hp hq =>
      exact EndsAlike.fault (raises_map_iff.2 (Or.inl hp))
        (raises_map_iff.2 (Or.inl hq))

/-- Two `pair`s end alike if their first parts do, and their second parts on
whatever those leave. -/
theorem EndsAlike.pair (hp : EndsAlike R T p v p' w)
    (hq : ∀ r s a b, p.Succeeds v r a → p'.Succeeds w s b → R r s →
      EndsAlike R T q r q' s)
    (htuple : ∀ a b x y, T a b → T x y →
      T (.tuple [a, x]) (.tuple [b, y])) :
    EndsAlike R T (pair p q) v (pair p' q') w := by
  cases hp with
  | success hp hp' hrest hvalue =>
      cases hq _ _ _ _ hp hp' hrest with
      | success hq hq' hrest' hvalue' =>
          exact EndsAlike.success
            (succeeds_pair_iff.2 ⟨_, _, _, hp, hq, rfl⟩)
            (succeeds_pair_iff.2 ⟨_, _, _, hp', hq', rfl⟩) hrest'
            (htuple _ _ _ _ hvalue hvalue')
      | failure hq hq' hrest' =>
          exact EndsAlike.failure
            (fails_pair_iff.2 (Or.inr ⟨_, _, hp, hq⟩))
            (fails_pair_iff.2 (Or.inr ⟨_, _, hp', hq'⟩)) hrest'
      | fault hq hq' =>
          exact EndsAlike.fault
            (raises_pair_iff.2 (Or.inr ⟨_, _, hp, hq⟩))
            (raises_pair_iff.2 (Or.inr ⟨_, _, hp', hq'⟩))
  | failure hp hp' hrest =>
      exact EndsAlike.failure (fails_pair_iff.2 (Or.inl hp))
        (fails_pair_iff.2 (Or.inl hp')) hrest
  | fault hp hp' =>
      exact EndsAlike.fault (raises_pair_iff.2 (Or.inl hp))
        (raises_pair_iff.2 (Or.inl hp'))

end TwoRuns

end ParserKit.Parser
