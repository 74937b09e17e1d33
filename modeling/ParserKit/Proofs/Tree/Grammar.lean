/-
The grammar of a tree of built-in leaves: what it accepts, where it goes on,
what it produces, and where it gets stuck.

A tree of built-in leaves accepts a text that begins with a token for each
leaf, in order and without gaps: `Splits` says so of a list of leaves, with
no parser run. The nesting of the tree and its transforms play no part in
what is accepted. They only shape the value, and `Yields` is that shape:
nothing for a literal and for a character, its token for an identifier, a
tuple at a `pair`, and what the transform makes of it at a `map`, which is
one of the two values at a `left` and at a `right`.

# One way to split

There is never a choice. What a leaf can take from a text is determined
(`fits_unique`), since a name ends where no name goes on, and so are the
tokens of a list of leaves (`splits_unique`). A text that has no token for
some leaf is split up to there and no further: `Sticks` names the place.

# The proof

`run_grammar_cases` is by induction on the tree: a run that succeeds has
split its text and a run that fails is stuck, and each went exactly as far
as the tokens that it took are long. That a text which splits is accepted,
and that the place of a failure is the last one that can be reached, then
follow from the uniqueness of the split.
-/
import ParserKit.Proofs.Leaf.Token

namespace ParserKit.Parser

variable {l p q : Parser} {ls ks : List Parser} {t u x y rest rest' : Text}
  {xs ys : List Text} {w : Window}

-- ======================================================= splitting a text

/-- The text consists of a token for each leaf, in order, and the rest. A
token fits if what follows it in the text lets it end there. -/
def Splits : List Parser → Text → List Text → Text → Prop
  | [], t, xs, rest => xs = [] ∧ t = rest
  | l :: ls, t, xs, rest =>
      ∃ x ys u, xs = x :: ys ∧ t = x ++ u ∧ l.Fits x u ∧ Splits ls u ys rest

/-- Some leaf has no token where those of the leaves before it end. -/
def Sticks (ls : List Parser) (t : Text) (xs : List Text) (rest : Text) :
    Prop :=
  ∃ done l todo, ls = done ++ l :: todo ∧ Splits done t xs rest ∧
    l.token? rest = none

/-- The tokens and the rest make up the text. -/
theorem Splits.text_eq (h : Splits ls t xs rest) :
    t = xs.flatten ++ rest := by
  induction ls generalizing t xs with
  | nil =>
      obtain ⟨rfl, rfl⟩ := h
      rfl
  | cons l ls ih =>
      obtain ⟨x, ys, u, rfl, rfl, -, h⟩ := h
      rw [List.flatten_cons, List.append_assoc, ← ih h]

/-- Leaves are split off in two goes as in one. -/
theorem splits_append_iff :
    Splits (ls ++ ks) t xs rest ↔
      ∃ ys zs u, xs = ys ++ zs ∧ Splits ls t ys u ∧ Splits ks u zs rest := by
  induction ls generalizing t xs with
  | nil =>
      constructor
      · intro h
        exact ⟨[], xs, t, rfl, ⟨rfl, rfl⟩, h⟩
      · intro h
        obtain ⟨ys, zs, u, rfl, ⟨rfl, rfl⟩, h⟩ := h
        exact h
  | cons l ls ih =>
      constructor
      · intro h
        obtain ⟨x, ys, u, rfl, rfl, hx, h⟩ := h
        obtain ⟨ys, zs, v, rfl, hys, hzs⟩ := ih.1 h
        exact ⟨x :: ys, zs, v, rfl, ⟨x, ys, u, rfl, rfl, hx, hys⟩, hzs⟩
      · intro h
        obtain ⟨_, zs, v, rfl, ⟨x, ys, u, rfl, rfl, hx, hys⟩, hzs⟩ := h
        exact ⟨x, ys ++ zs, u, rfl, rfl, hx, ih.2 ⟨ys, zs, v, rfl, hys, hzs⟩⟩

/-- What a built-in leaf can take from a text is determined. -/
theorem fits_unique (hl : l.BuiltIn) {x' u' : Text} (h : l.Fits x u)
    (h' : l.Fits x' u') (ht : x ++ u = x' ++ u') : x = x' ∧ u = u' := by
  have hx := (token?_eq_some_iff hl).2 ⟨u, rfl, h⟩
  have hx' := (token?_eq_some_iff hl).2 ⟨u', ht, h'⟩
  obtain rfl : x = x' := Option.some.inj (hx.symm.trans hx')
  exact ⟨rfl, List.append_cancel_left ht⟩

/-- There is one way to split a text. -/
theorem splits_unique (hls : ∀ l ∈ ls, l.BuiltIn)
    (h : Splits ls t xs rest) (h' : Splits ls t ys rest') :
    xs = ys ∧ rest = rest' := by
  induction ls generalizing t xs ys with
  | nil =>
      obtain ⟨rfl, rfl⟩ := h
      obtain ⟨rfl, rfl⟩ := h'
      exact ⟨rfl, rfl⟩
  | cons l ls ih =>
      obtain ⟨x, xs, u, rfl, rfl, hx, h⟩ := h
      obtain ⟨x', ys, u', rfl, ht, hx', h'⟩ := h'
      obtain ⟨rfl, rfl⟩ :=
        fits_unique (hls l (List.mem_cons_self ..)) hx hx' ht
      obtain ⟨rfl, rfl⟩ :=
        ih (fun l hl => hls l (List.mem_cons_of_mem _ hl)) h h'
      exact ⟨rfl, rfl⟩

/-- Where a list of leaves sticks, more leaves stick as well. -/
theorem Sticks.append_right (h : Sticks ls t xs rest) :
    Sticks (ls ++ ks) t xs rest := by
  obtain ⟨done, l, todo, rfl, hsplit, hl⟩ := h
  exact ⟨done, l, todo ++ ks, by simp, hsplit, hl⟩

/-- Leaves that stick after others have been split off. -/
theorem Splits.sticks_append (h : Splits ls t xs u)
    (h' : Sticks ks u ys rest) : Sticks (ls ++ ks) t (xs ++ ys) rest := by
  obtain ⟨done, l, todo, rfl, hsplit, hl⟩ := h'
  exact ⟨ls ++ done, l, todo, by simp,
    splits_append_iff.2 ⟨xs, ys, u, rfl, h, hsplit⟩, hl⟩

/-- Leaves that stick are split up to some number, and up to no greater
one. -/
theorem Sticks.splits_take (hls : ∀ l ∈ ls, l.BuiltIn)
    (h : Sticks ls t xs rest) :
    ∃ k < ls.length, Splits (ls.take k) t xs rest ∧
      ∀ k' ≤ ls.length, ∀ ys rest', Splits (ls.take k') t ys rest' →
        k' ≤ k := by
  obtain ⟨done, l, todo, rfl, hsplit, hl⟩ := h
  refine ⟨done.length, by simp, by rwa [List.take_left], ?_⟩
  intro k' hk' ys rest' hys
  -- Leaves beyond the one that has no token would give it one.
  refine Nat.le_of_not_lt fun hlt => ?_
  obtain ⟨m, rfl⟩ : ∃ m, k' = done.length + (m + 1) :=
    ⟨k' - done.length - 1, by omega⟩
  rw [List.take_length_add_append, List.take_succ_cons] at hys
  obtain ⟨xs', zs, u, -, hdone, x, -, v, -, rfl, hx, -⟩ :=
    splits_append_iff.1 hys
  have hdl : ∀ l ∈ done, l.BuiltIn := fun l hl =>
    hls l (List.mem_append_left _ hl)
  obtain ⟨-, rfl⟩ := splits_unique hdl hsplit hdone
  have hlb : l.BuiltIn := hls l (by simp)
  rw [(token?_eq_some_iff hlb).2 ⟨v, rfl, hx⟩] at hl
  cases hl

-- ====================================================== what is produced

/-- The value of a tree for the tokens of its leaves, read through a
window. -/
inductive Yields (w : Window) : Parser → List Text → Value → Prop
  | literal (s x : Text) : Yields w (.literal s) [x] .none
  | character (c : Char) (x : Text) : Yields w (.character c) [x] .none
  | identifier (x : Text) : Yields w .identifier [x] (.ofStretch w x)
  | map {p : Parser} {f : Value → Run Value} {xs : List Text} {a b : Value}
      (hp : Yields w p xs a) (hf : (f a).exit = .ok b) :
      Yields w (.map p f) xs b
  | pair {p q : Parser} {xs ys : List Text} {a b : Value}
      (hp : Yields w p xs a) (hq : Yields w q ys b) :
      Yields w (.pair p q) (xs ++ ys) (.tuple [a, b])

theorem BuiltIn.yields (hl : l.BuiltIn) (w : Window) (x : Text) :
    Yields w l [x] (l.product w x) := by
  cases hl with
  | literal s => exact Yields.literal s x
  | character c => exact Yields.character c x
  | identifier => exact Yields.identifier x

/-- A value depends on the window only by what is read through it. -/
theorem Yields.of_ofStretch {v : Window} {a : Value}
    (hv : Value.ofStretch v = Value.ofStretch w) (h : Yields v p xs a) :
    Yields w p xs a := by
  induction h with
  | literal s x => exact Yields.literal s x
  | character c x => exact Yields.character c x
  | identifier x =>
      rw [hv]
      exact Yields.identifier x
  | map _ hf ih => exact Yields.map ih hf
  | pair _ _ ihp ihq => exact Yields.pair ihp ihq

theorem Yields.of_skip {n : Nat} {a : Value}
    (h : Yields (w.skip n) p xs a) : Yields w p xs a :=
  h.of_ofStretch (w.ofStretch_skip n)

/-- A `left` yields what its first part yields. -/
theorem yields_left_iff {a : Value} :
    Yields w (left p q) xs a ↔
      ∃ ys zs b, xs = ys ++ zs ∧ Yields w p ys a ∧ Yields w q zs b := by
  constructor
  · intro h
    cases h with
    | map hpair hf =>
        cases hpair with
        | pair hp hq =>
            cases hf
            exact ⟨_, _, _, rfl, hp, hq⟩
  · intro h
    obtain ⟨ys, zs, b, rfl, hp, hq⟩ := h
    exact Yields.map (Yields.pair hp hq) rfl

theorem yields_right_iff {b : Value} :
    Yields w (right p q) xs b ↔
      ∃ ys zs a, xs = ys ++ zs ∧ Yields w p ys a ∧ Yields w q zs b := by
  constructor
  · intro h
    cases h with
    | map hpair hf =>
        cases hpair with
        | pair hp hq =>
            cases hf
            exact ⟨_, _, _, rfl, hp, hq⟩
  · intro h
    obtain ⟨ys, zs, a, rfl, hp, hq⟩ := h
    exact Yields.map (Yields.pair hp hq) rfl

-- ============================================================== the run

/-- The run succeeds past the tokens of its leaves, and yields the value
that they have. -/
def AcceptsOn (p : Parser) (w : Window) : Prop :=
  ∃ xs rest a, Splits p.leaves w.view.unconsumed xs rest ∧
    p.Succeeds w (w.skip xs.flatten.length) a ∧ Yields w p xs a

/-- The run fails past the tokens of the leaves before the one that
sticks. -/
def RefusesOn (p : Parser) (w : Window) : Prop :=
  ∃ xs rest, Sticks p.leaves w.view.unconsumed xs rest ∧
    p.Fails w (w.skip xs.flatten.length)

/-- Past the tokens that have been split off, the rest is left. -/
theorem Splits.unconsumed_skip (h : Splits ls w.view.unconsumed xs rest) :
    (w.skip xs.flatten.length).view.unconsumed = rest := by
  rw [Window.unconsumed_skip, h.text_eq, List.drop_left]

theorem skip_flatten_append (w : Window) (xs ys : List Text) :
    (w.skip xs.flatten.length).skip ys.flatten.length
      = w.skip (xs ++ ys).flatten.length := by
  rw [Window.skip_skip, List.flatten_append, List.length_append]

/-- A leaf takes its token, or sticks at once. -/
theorem grammar_builtIn (hl : l.BuiltIn) (hw : w.medium = .text) :
    l.AcceptsOn w ∨ l.RefusesOn w := by
  have hrun := run_builtIn hl hw
  cases ht : l.token? w.view.unconsumed with
  | some x =>
      rw [ht] at hrun
      obtain ⟨rest, hrest, hfit⟩ := (token?_eq_some_iff hl).1 ht
      refine Or.inl ⟨[x], rest, l.product w x, ?_, ?_, hl.yields w x⟩
      · rw [leaves_of_isLeaf hl.isLeaf]
        exact ⟨x, [], rest, rfl, hrest, hfit, rfl, rfl⟩
      · rw [Succeeds, hrun, List.flatten_singleton]
        rfl
  | none =>
      rw [ht] at hrun
      refine Or.inr ⟨[], w.view.unconsumed, ?_, ?_⟩
      · rw [leaves_of_isLeaf hl.isLeaf]
        exact ⟨[], l, [], rfl, ⟨rfl, rfl⟩, ht⟩
      · rw [Fails, hrun]
        rfl

/-- A `map` goes as far as what is below it. -/
theorem grammar_map {f : Value → Run Value}
    (ht : (map p f).TransformsReturn) (hp : p.AcceptsOn w ∨ p.RefusesOn w) :
    (map p f).AcceptsOn w ∨ (map p f).RefusesOn w := by
  rcases hp with ⟨xs, rest, a, hsplit, hs, hy⟩ | ⟨xs, rest, hstick, hf⟩
  · obtain ⟨b, hb⟩ := ht.2 _ _ _ hs
    exact Or.inl ⟨xs, rest, b, hsplit, succeeds_map_iff.2 ⟨a, hs, hb⟩,
      Yields.map hy hb⟩
  · exact Or.inr ⟨xs, rest, hstick, fails_map_iff.2 hf⟩

/-- The second part of a `pair` goes on where the first left off. -/
theorem grammar_pair (hp : p.AcceptsOn w ∨ p.RefusesOn w)
    (hq : ∀ n, q.AcceptsOn (w.skip n) ∨ q.RefusesOn (w.skip n)) :
    (pair p q).AcceptsOn w ∨ (pair p q).RefusesOn w := by
  rcases hp with ⟨xs, u, a, hsplit, hs, hy⟩ | ⟨xs, rest, hstick, hf⟩
  · rcases hq xs.flatten.length with ⟨ys, rest, b, hsplit', hs', hy'⟩ |
      ⟨ys, rest, hstick, hf⟩
    · rw [hsplit.unconsumed_skip] at hsplit'
      rw [skip_flatten_append] at hs'
      exact Or.inl ⟨xs ++ ys, rest, .tuple [a, b],
        splits_append_iff.2 ⟨xs, ys, u, rfl, hsplit, hsplit'⟩,
        succeeds_pair_iff.2 ⟨_, a, b, hs, hs', rfl⟩,
        Yields.pair hy hy'.of_skip⟩
    · rw [hsplit.unconsumed_skip] at hstick
      rw [skip_flatten_append] at hf
      exact Or.inr ⟨xs ++ ys, rest, hsplit.sticks_append hstick,
        fails_pair_iff.2 (Or.inr ⟨_, a, hs, hf⟩)⟩
  · exact Or.inr ⟨xs, rest, hstick.append_right,
      fails_pair_iff.2 (Or.inl hf)⟩

/-- A run goes exactly as far as its text can be split. -/
theorem run_grammar_cases (hl : ∀ l ∈ p.leaves, l.BuiltIn)
    (ht : p.TransformsReturn) (hw : w.medium = .text) :
    p.AcceptsOn w ∨ p.RefusesOn w := by
  induction p using tree_induction generalizing w with
  | leaf l h => exact grammar_builtIn (forall_leaves_of_isLeaf h hl) hw
  | map p f ih => exact grammar_map ht (ih hl ht.1 hw)
  | pair p q ihp ihq =>
      obtain ⟨hlp, hlq⟩ := forall_leaves_pair.1 hl
      refine grammar_pair (ihp hlp ht.1 hw) fun n => ?_
      have hn : (w.skip n).medium = .text := by
        rw [Window.medium_skip, hw]
      exact ihq hlq ht.2 hn

-- =========================================================== the grammar

/-- Skipping the tokens that have been split off moves the position by their
length. -/
theorem Splits.pos_skip (h : Splits ls w.view.unconsumed xs rest) :
    (w.skip xs.flatten.length).view.pos
      = w.view.pos + xs.flatten.length := by
  refine w.pos_skip_of_le ?_
  rw [← View.length_unconsumed, h.text_eq, List.length_append]
  omega

theorem Sticks.not_splits (hls : ∀ l ∈ ls, l.BuiltIn)
    (h : Sticks ls t xs rest) : ¬ Splits ls t ys rest' := by
  intro h'
  obtain ⟨k, hk, -, hmax⟩ := h.splits_take hls
  have hle := hmax ls.length (Nat.le_refl _) ys rest'
    (by rwa [List.take_length])
  omega

/-- A tree of built-in leaves accepts the texts that split into tokens of its
leaves and a rest, and no others. There is one way to split a text. A success
goes on after the tokens and has the value that they yield. A failure is
where the tokens end of as many leaves as can be split off. -/
theorem run_grammar (hl : ∀ l ∈ p.leaves, l.BuiltIn)
    (ht : p.TransformsReturn) (hw : w.medium = .text) :
    ((∃ r a, p.Succeeds w r a) ↔
      ∃ xs rest, Splits p.leaves w.view.unconsumed xs rest) ∧
    (∀ xs ys rest rest', Splits p.leaves w.view.unconsumed xs rest →
      Splits p.leaves w.view.unconsumed ys rest' → xs = ys ∧ rest = rest') ∧
    (∀ xs rest, Splits p.leaves w.view.unconsumed xs rest →
      ∃ r a, p.Succeeds w r a ∧ r.view.source = w.view.source ∧
        r.view.pos = w.view.pos + xs.flatten.length ∧ Yields w p xs a) ∧
    ((¬ ∃ xs rest, Splits p.leaves w.view.unconsumed xs rest) →
      ∃ r k xs rest, p.Fails w r ∧ r.view.source = w.view.source ∧
        r.view.pos = w.view.pos + xs.flatten.length ∧
        k < p.leaves.length ∧
        Splits (p.leaves.take k) w.view.unconsumed xs rest ∧
        ∀ k' ≤ p.leaves.length, ∀ ys rest',
          Splits (p.leaves.take k') w.view.unconsumed ys rest' →
            k' ≤ k) := by
  refine ⟨?_, fun xs ys rest rest' h h' => splits_unique hl h h', ?_, ?_⟩
  · constructor
    · intro ⟨r, a, hs⟩
      rcases run_grammar_cases hl ht hw with ⟨xs, rest, -, hsplit, -⟩ |
        ⟨xs, rest, -, hf⟩
      · exact ⟨xs, rest, hsplit⟩
      · exact absurd hf hs.not_fails
    · intro ⟨xs, rest, hsplit⟩
      rcases run_grammar_cases hl ht hw with ⟨ys, rest', a, -, hs, -⟩ |
        ⟨ys, rest', hstick, -⟩
      · exact ⟨_, a, hs⟩
      · exact absurd hsplit (hstick.not_splits hl)
  · intro xs rest hsplit
    rcases run_grammar_cases hl ht hw with ⟨ys, rest', a, hsplit', hs, hy⟩ |
      ⟨ys, rest', hstick, -⟩
    · obtain ⟨rfl, rfl⟩ := splits_unique hl hsplit hsplit'
      exact ⟨_, a, hs, w.source_skip _, hsplit.pos_skip, hy⟩
    · exact absurd hsplit (hstick.not_splits hl)
  · intro hnone
    rcases run_grammar_cases hl ht hw with ⟨xs, rest, -, hsplit, -⟩ |
      ⟨xs, rest, hstick, hf⟩
    · exact absurd ⟨xs, rest, hsplit⟩ hnone
    · obtain ⟨k, hk, hsplit, hmax⟩ := hstick.splits_take hl
      exact ⟨_, k, xs, rest, hf, w.source_skip _, hsplit.pos_skip, hk,
        hsplit, hmax⟩

/-- A name in angle brackets, from the middle of a text. -/
theorem run_grammar_bracketed :
    let p := right (literal ['<']) (left identifier (character '>'))
    let w := Window.ofView ⟨⟨.number 0, "x<a-b>c".toList⟩, 1, by decide⟩
    (∀ l ∈ p.leaves, l.BuiltIn) ∧ p.TransformsReturn ∧ w.medium = .text ∧
      ∃ r, p.Succeeds w r (.text "a-b".toList) ∧ r.view.pos = 6 := by
  intro p w
  have hl : ∀ l ∈ p.leaves, l.BuiltIn := by
    intro l hl
    have hcases : l = literal ['<'] ∨ l = identifier ∨ l = character '>' := by
      simpa [p, right, left, leaves] using hl
    rcases hcases with rfl | rfl | rfl
    · exact BuiltIn.literal ['<']
    · exact BuiltIn.identifier
    · exact BuiltIn.character '>'
  have ht : p.TransformsReturn :=
    transformsReturn_right.2
      ⟨trivial, transformsReturn_left.2 ⟨trivial, trivial⟩⟩
  have hname : identifier.Fits "a-b".toList ">c".toList := by
    apply Fits.identifier
    · show isAlphabetic 'a' = true
      decide +kernel
    · have hall : "-b".toList.all continuesName = true := by
        decide +kernel
      exact List.all_eq_true.1 hall
    · intro d hd
      cases hd
      show continuesName '>' = false
      decide +kernel
  have hsplit : Splits p.leaves w.view.unconsumed
      [['<'], "a-b".toList, ['>']] ['c'] :=
    ⟨['<'], _, _, rfl, rfl, Fits.literal _ _,
      "a-b".toList, _, _, rfl, rfl, hname,
      ['>'], _, _, rfl, rfl, Fits.character _ _, rfl, rfl⟩
  obtain ⟨r, a, hs, -, hpos, hy⟩ := (run_grammar hl ht rfl).2.2.1 _ _ hsplit
  obtain ⟨ys, zs, b, hxs, hlit, hrest⟩ := yields_right_iff.1 hy
  obtain ⟨xs, zs, c, rfl, hid, -⟩ := yields_left_iff.1 hrest
  cases hlit
  cases hid
  obtain rfl := (List.cons.inj (List.cons.inj hxs).2).1
  exact ⟨hl, ht, rfl, r, hs, hpos⟩

end ParserKit.Parser
