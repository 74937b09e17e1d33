/-
The contract of parsers, and that trees keep it.

A parser is trusted with a window and has two duties. It returns an outcome,
and it hands back what is left of the window that it was given: a window
over the same source, at the same place or further on. `WellBehaved` is both
duties, on every window over a text. The windows it speaks of are over a
text on both sides, since a source is a text or not whoever looks at it.

The second duty needs no promise about transforms, because a transform never
sees a window; `forward_of_leaves` therefore holds of trees whose runs may
end in a fault. The first does, and takes the second to know that each leaf
of a tree is given a window over a text in its turn.
-/
import ParserKit.Proofs.Leaf.Token

namespace ParserKit.Parser

variable {l p q : Parser} {w : Window}

-- ============================================================ the contract

/-- Whatever outcome the parser has, it goes on over the text that it was
given, and never before the place it was given. -/
def Forward (p : Parser) : Prop :=
  ∀ w o, w.medium = .text → (p.run w).exit = .ok o →
    o.rest.medium = .text ∧ o.rest.isSuffixOf w = true

/-- The parser returns on every window over a text, and goes forward. -/
structure WellBehaved (p : Parser) : Prop where
  returns : ∀ w, w.medium = .text → ∃ o, (p.run w).exit = .ok o
  forward : p.Forward

-- ================================================================= leaves

theorem BuiltIn.wellBehaved (hl : l.BuiltIn) : l.WellBehaved := by
  constructor
  · intro w hw
    rw [run_builtIn hl hw]
    cases l.token? w.view.unconsumed with
    | some x => exact ⟨_, rfl⟩
    | none => exact ⟨_, rfl⟩
  · intro w o hw ho
    rw [run_builtIn hl hw] at ho
    cases h : l.token? w.view.unconsumed with
    | some x =>
        rw [h] at ho
        cases ho
        exact ⟨(w.medium_skip _).trans hw, w.isSuffixOf_skip _⟩
    | none =>
        rw [h] at ho
        cases ho
        exact ⟨hw, w.isSuffixOf_skip 0⟩

-- ================================================================== trees

/-- Where a `map` goes on is where what is below it does. -/
theorem forward_map {f : Value → Run Value} (hp : p.Forward) :
    (map p f).Forward := by
  intro w o hw ho
  cases o with
  | success r y =>
      obtain ⟨x, hs, -⟩ := succeeds_map_iff.1 ho
      exact hp w (.success r x) hw hs
  | failure r => exact hp w _ hw (fails_map_iff.1 ho)

/-- The second part of a `pair` goes on from where the first does. -/
theorem forward_pair (hp : p.Forward) (hq : q.Forward) :
    (pair p q).Forward := by
  intro w o hw ho
  -- The second part is bound by its contract because the window that the
  -- first leaves is over a text again.
  have hboth : ∀ u x o', p.Succeeds w u x → (q.run u).exit = .ok o' →
      o'.rest.medium = .text ∧ o'.rest.isSuffixOf w = true := by
    intro u x o' hs hq'
    obtain ⟨hu, hsuf⟩ := hp w _ hw hs
    obtain ⟨ho', hsuf'⟩ := hq u o' hu hq'
    exact ⟨ho', View.isSuffixOf_trans hsuf' hsuf⟩
  cases o with
  | success r y =>
      obtain ⟨u, x, z, hs, hs', -⟩ := succeeds_pair_iff.1 ho
      exact hboth u x (.success r z) hs hs'
  | failure r =>
      rcases fails_pair_iff.1 ho with hf | ⟨u, x, hs, hf⟩
      · exact hp w _ hw hf
      · exact hboth u x _ hs hf

/-- A tree whose leaves go forward goes forward. -/
theorem forward_of_leaves (hl : ∀ l ∈ p.leaves, l.Forward) : p.Forward := by
  induction p using tree_induction with
  | leaf l h => exact forall_leaves_of_isLeaf h hl
  | map p f ih => exact forward_map (ih hl)
  | pair p q ihp ihq =>
      obtain ⟨hlp, hlq⟩ := forall_leaves_pair.1 hl
      exact forward_pair (ihp hlp) (ihq hlq)

/-- A `map` returns if what is below it does, and the transform on what that
produces. -/
theorem returns_map {f : Value → Run Value}
    (ht : (map p f).TransformsReturn) (hp : ∃ o, (p.run w).exit = .ok o) :
    ∃ o, ((map p f).run w).exit = .ok o := by
  obtain ⟨o, ho⟩ := hp
  cases o with
  | success r x =>
      obtain ⟨y, hy⟩ := ht.2 w r x ho
      exact ⟨.success r y, succeeds_map_iff.2 ⟨x, ho, hy⟩⟩
  | failure r => exact ⟨.failure r, fails_map_iff.2 ho⟩

/-- A `pair` returns if its first part does, and the second on what the
first leaves. -/
theorem returns_pair (hp : ∃ o, (p.run w).exit = .ok o)
    (hq : ∀ u x, p.Succeeds w u x → ∃ o, (q.run u).exit = .ok o) :
    ∃ o, ((pair p q).run w).exit = .ok o := by
  obtain ⟨o, ho⟩ := hp
  cases o with
  | failure r => exact ⟨.failure r, fails_pair_iff.2 (Or.inl ho)⟩
  | success u x =>
      obtain ⟨o', ho'⟩ := hq u x ho
      cases o' with
      | success r z =>
          exact ⟨.success r (.tuple [x, z]),
            succeeds_pair_iff.2 ⟨u, x, z, ho, ho', rfl⟩⟩
      | failure r =>
          exact ⟨.failure r, fails_pair_iff.2 (Or.inr ⟨u, x, ho, ho'⟩)⟩

/-- A tree whose leaves keep the contract keeps it. -/
theorem wellBehaved_of_leaves (hl : ∀ l ∈ p.leaves, l.WellBehaved)
    (ht : p.TransformsReturn) : p.WellBehaved := by
  induction p using tree_induction with
  | leaf l h => exact forall_leaves_of_isLeaf h hl
  | map p f ih =>
      have hp := ih hl ht.1
      exact ⟨fun w hw => returns_map ht (hp.returns w hw),
        forward_map hp.forward⟩
  | pair p q ihp ihq =>
      obtain ⟨hlp, hlq⟩ := forall_leaves_pair.1 hl
      have hp := ihp hlp ht.1
      have hq := ihq hlq ht.2
      refine ⟨fun w hw => returns_pair (hp.returns w hw) fun u x hs => ?_,
        forward_pair hp.forward hq.forward⟩
      exact hq.returns u (hp.forward w _ hw hs).1

-- =========================================================== the contract

/-- The built-in leaves keep the contract: nothing that they ask of their
window is refused, at its end or before. A tree keeps it if its leaves do.
So no such tree raises a fault, and whether it succeeds or fails, what it
consumed and what it left are the text that it was given. -/
theorem contract_of_leaves (hl : ∀ l ∈ p.leaves, l.WellBehaved)
    (ht : p.TransformsReturn) :
    ((∀ s, (literal s).WellBehaved) ∧ (∀ c, (character c).WellBehaved) ∧
      identifier.WellBehaved ∧ letterA.WellBehaved) ∧
    (∀ w : Window, w.medium = .text →
      (∀ s, w.startsWith s = .ok true →
        ∃ r, w.advance (s.length : Nat) = .ok r) ∧
      (∀ c, w.nextIs c = .ok true → ∃ r, w.advance (1 : Nat) = .ok r) ∧
      ∀ x, w.nameAt = .ok (some x) →
        ∃ r t, w.advance (x.length : Nat) = .ok r ∧
          r.view.consumedSince w.view = .ok t) ∧
    p.WellBehaved ∧
    ∀ w : Window, w.medium = .text →
      ∃ o t u, (p.run w).exit = .ok o ∧
        o.rest.view.consumedSince w.view = .ok t ∧
        o.rest.text = .ok u ∧ w.text = .ok (t ++ u) := by
  have hp := wellBehaved_of_leaves hl ht
  refine ⟨⟨fun s => (BuiltIn.literal s).wellBehaved,
    fun c => (BuiltIn.character c).wellBehaved,
    BuiltIn.identifier.wellBehaved, (BuiltIn.character 'a').wellBehaved⟩,
    fun w hw => ⟨?_, ?_, ?_⟩, hp, fun w hw => ?_⟩
  · intro s hs
    rw [Window.startsWith_of_text hw] at hs
    exact ⟨_, advance_token? (.literal s) (if_pos (Except.ok.inj hs))⟩
  · intro c hc
    rw [Window.nextIs_of_text hw] at hc
    have hpeek := of_decide_eq_true (Except.ok.inj hc)
    have hpre := (w.view.peek_one_eq_some_iff c).1 hpeek
    exact ⟨_, advance_token? (.character c)
      (if_pos (List.isPrefixOf_iff_prefix.2 hpre))⟩
  · intro x hx
    rw [Window.nameAt_of_text hw] at hx
    have htok : identifier.token? w.view.unconsumed = some x :=
      Except.ok.inj hx
    have hsuf := w.isSuffixOf_skip x.length
    obtain ⟨t, ht, -⟩ := View.consumedSince_append hsuf
    exact ⟨_, t, advance_token? .identifier htok, ht⟩
  · obtain ⟨o, ho⟩ := hp.returns w hw
    obtain ⟨hmed, hsuf⟩ := hp.forward w o hw ho
    obtain ⟨t, ht, happ⟩ := View.consumedSince_append hsuf
    refine ⟨o, t, o.rest.view.unconsumed, ho, ht,
      Window.text_of_text hmed, ?_⟩
    rw [Window.text_of_text hw, happ]

/-- A leaf from outside that takes all there is, behind a bracket: in the
middle of a text, and at the end of it. -/
theorem contract_of_leaves_remainder :
    let remainder := leaf (.named "remainder".toList) fun w =>
      pure (.success (w.skip w.length) .none)
    let p := left (literal ['<']) remainder
    let v : View := ⟨⟨.number 0, "a<b".toList⟩, 1, by decide⟩
    let w : View := ⟨⟨.number 0, "a<b".toList⟩, 3, by decide⟩
    (∀ l ∈ p.leaves, l.WellBehaved) ∧ p.TransformsReturn ∧
      p.WellBehaved ∧ (∃ o, (p.run v).exit = .ok o) ∧
      ∃ o, (p.run w).exit = .ok o := by
  intro remainder p v w
  have hremainder : remainder.WellBehaved := by
    constructor
    · intro w hw
      exact ⟨_, rfl⟩
    · intro w o hw ho
      cases ho
      exact ⟨(w.medium_skip _).trans hw, w.isSuffixOf_skip _⟩
  have hl : ∀ l ∈ p.leaves, l.WellBehaved := by
    refine forall_leaves_pair.2 ⟨?_, ?_⟩
    · exact List.forall_mem_singleton.2 (BuiltIn.literal ['<']).wellBehaved
    · exact List.forall_mem_singleton.2 hremainder
  have ht : p.TransformsReturn :=
    transformsReturn_left.2 ⟨trivial, trivial⟩
  have hp : p.WellBehaved := (contract_of_leaves hl ht).2.2.1
  exact ⟨hl, ht, hp, hp.returns v rfl, hp.returns w rfl⟩

end ParserKit.Parser
