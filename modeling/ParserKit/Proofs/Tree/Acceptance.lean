/-
A run of built-in leaves as its tokens and what they yield.

`run_grammar` says what is accepted and where a failure is, for trees whose
transforms return. This module says the same of a single success, and for
that nothing has to be known of the transforms: a run succeeds exactly if its
text begins with tokens of the leaves that yield a value (`succeeds_iff_splits`).
The right-hand side can be carried over to another text or another window,
which a run cannot.

A list of tokens does not show which of them belong to the first part of a
`pair`. Their number does: it is the number of leaves, for a split
(`Splits.length_eq`) as for a value (`Yields.length_eq`).
-/
import ParserKit.Proofs.Tree.Grammar

namespace ParserKit.Parser

variable {l p q : Parser} {ls : List Parser} {t x rest : Text}
  {xs : List Text} {w r : Window} {a : Value}

-- ======================================================== counting tokens

theorem Splits.length_eq (h : Splits ls t xs rest) :
    xs.length = ls.length := by
  induction ls generalizing t xs with
  | nil =>
      obtain ⟨rfl, -⟩ := h
      rfl
  | cons l ls ih =>
      obtain ⟨x, ys, u, rfl, -, -, h⟩ := h
      rw [List.length_cons, List.length_cons, ih h]

theorem Yields.length_eq (h : Yields w p xs a) :
    xs.length = p.leaves.length := by
  induction h with
  | map _ _ ih => exact ih
  | pair _ _ ihp ihq =>
      rw [List.length_append, ihp, ihq]
      exact List.length_append.symm
  | _ => rfl

-- ================================================================ one leaf

theorem splits_singleton_iff :
    Splits [l] t xs rest ↔
      ∃ x, xs = [x] ∧ t = x ++ rest ∧ l.Fits x rest := by
  constructor
  · intro h
    obtain ⟨x, ys, u, rfl, rfl, hx, rfl, rfl⟩ := h
    exact ⟨x, rfl, rfl, hx⟩
  · intro h
    obtain ⟨x, rfl, rfl, hx⟩ := h
    exact ⟨x, [], rest, rfl, rfl, hx, rfl, rfl⟩

theorem yields_builtIn_iff (hl : l.BuiltIn) :
    Yields w l [x] a ↔ a = l.product w x := by
  constructor
  · intro h
    cases hl with
    | literal s => cases h; rfl
    | character c => cases h; rfl
    | identifier => cases h; rfl
  · intro h
    rw [h]
    exact hl.yields w x

theorem succeeds_builtIn_iff (hl : l.BuiltIn) (hw : w.medium = .text) :
    l.Succeeds w r a ↔
      ∃ x, l.token? w.view.unconsumed = some x ∧ r = w.skip x.length ∧
        a = l.product w x := by
  rw [Succeeds, run_builtIn hl hw]
  cases l.token? w.view.unconsumed with
  | none =>
      constructor
      · intro h
        cases h
      · intro h
        obtain ⟨x, hx, -⟩ := h
        cases hx
  | some x =>
      constructor
      · intro h
        cases h
        exact ⟨x, rfl, rfl, rfl⟩
      · intro h
        obtain ⟨y, hy, rfl, rfl⟩ := h
        cases hy
        rfl

theorem fails_builtIn_iff (hl : l.BuiltIn) (hw : w.medium = .text) :
    l.Fails w r ↔ l.token? w.view.unconsumed = none ∧ r = w := by
  rw [Fails, run_builtIn hl hw]
  cases l.token? w.view.unconsumed with
  | some x =>
      constructor
      · intro h
        cases h
      · intro h
        cases h.1
  | none =>
      constructor
      · intro h
        cases h
        exact ⟨rfl, rfl⟩
      · intro h
        rw [h.2]
        rfl

-- =================================================================== trees

/-- Where two parts of a `pair` are split off, the value of each is that of
its own tokens. -/
theorem yields_pair_iff {ys : List Text} {u : Text}
    (hxs : Splits p.leaves t xs u) :
    Yields w (pair p q) (xs ++ ys) a ↔
      ∃ b c, Yields w p xs b ∧ Yields w q ys c ∧ a = .tuple [b, c] := by
  constructor
  · intro h
    generalize hzs : xs ++ ys = zs at h
    cases h with
    | pair hp hq =>
        have hlen := hxs.length_eq.trans hp.length_eq.symm
        obtain ⟨rfl, rfl⟩ := List.append_inj hzs hlen
        exact ⟨_, _, hp, hq, rfl⟩
  · intro h
    obtain ⟨b, c, hp, hq, rfl⟩ := h
    exact Yields.pair hp hq

/-- A run succeeds exactly if its text begins with tokens of its leaves that
yield a value, and then it has that value and goes on past them. -/
theorem succeeds_iff_splits (hl : ∀ l ∈ p.leaves, l.BuiltIn)
    (hw : w.medium = .text) :
    p.Succeeds w r a ↔
      ∃ xs rest, Splits p.leaves w.view.unconsumed xs rest ∧
        r = w.skip xs.flatten.length ∧ Yields w p xs a := by
  induction p using tree_induction generalizing w r a with
  | leaf l h =>
      have hb : l.BuiltIn := forall_leaves_of_isLeaf h hl
      rw [succeeds_builtIn_iff hb hw, leaves_of_isLeaf h]
      constructor
      · intro hs
        obtain ⟨x, hx, hr, ha⟩ := hs
        obtain ⟨rest, ht, hfit⟩ := (token?_eq_some_iff hb).1 hx
        refine ⟨[x], rest, splits_singleton_iff.2 ⟨x, rfl, ht, hfit⟩, ?_,
          (yields_builtIn_iff hb).2 ha⟩
        rw [hr, List.flatten_singleton]
      · intro hs
        obtain ⟨xs, rest, hsplit, hr, hy⟩ := hs
        obtain ⟨x, rfl, ht, hfit⟩ := splits_singleton_iff.1 hsplit
        rw [List.flatten_singleton] at hr
        exact ⟨x, (token?_eq_some_iff hb).2 ⟨rest, ht, hfit⟩, hr,
          (yields_builtIn_iff hb).1 hy⟩
  | map p f ih =>
      rw [succeeds_map_iff]
      constructor
      · intro hs
        obtain ⟨b, hb, hf⟩ := hs
        obtain ⟨xs, rest, hsplit, hr, hy⟩ := (ih hl hw).1 hb
        exact ⟨xs, rest, hsplit, hr, Yields.map hy hf⟩
      · intro hs
        obtain ⟨xs, rest, hsplit, hr, hy⟩ := hs
        cases hy with
        | map hy hf =>
            exact ⟨_, (ih hl hw).2 ⟨xs, rest, hsplit, hr, hy⟩, hf⟩
  | pair p q ihp ihq =>
      obtain ⟨hlp, hlq⟩ := forall_leaves_pair.1 hl
      have hskip : ∀ n, (w.skip n).medium = .text := fun n =>
        (w.medium_skip n).trans hw
      rw [succeeds_pair_iff]
      constructor
      · intro hs
        obtain ⟨u, b, c, hb, hc, rfl⟩ := hs
        obtain ⟨xs, rest, hxs, rfl, hy⟩ := (ihp hlp hw).1 hb
        obtain ⟨ys, rest', hys, rfl, hy'⟩ := (ihq hlq (hskip _)).1 hc
        rw [hxs.unconsumed_skip] at hys
        -- The second part read its tokens through a window further on.
        refine ⟨xs ++ ys, rest',
          splits_append_iff.2 ⟨xs, ys, rest, rfl, hxs, hys⟩, ?_,
          Yields.pair hy hy'.of_skip⟩
        rw [skip_flatten_append]
      · intro hs
        obtain ⟨zs, rest', hsplit, rfl, hy⟩ := hs
        obtain ⟨xs, ys, rest, rfl, hxs, hys⟩ := splits_append_iff.1 hsplit
        obtain ⟨b, c, hb, hc, rfl⟩ := (yields_pair_iff hxs).1 hy
        have hb := (ihp hlp hw).2 ⟨xs, rest, hxs, rfl, hb⟩
        rw [← hxs.unconsumed_skip] at hys
        have hc := (ihq hlq (hskip _)).2 ⟨ys, rest', hys, rfl,
          hc.of_ofStretch (w.ofStretch_skip _).symm⟩
        rw [skip_flatten_append] at hc
        exact ⟨_, b, c, hb, hc, rfl⟩

end ParserKit.Parser
