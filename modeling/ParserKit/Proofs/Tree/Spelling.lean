/-
A literal in pieces: a tree of literals and characters against the one
literal of everything that they spell.

A tree that only joins literals and characters spells a list of pieces, one
for each leaf from left to right (`Spells`). Each leaf can take nothing but
its piece, so a text splits into tokens of the leaves exactly if it begins
with the pieces put together (`Expected.splits_iff`), and what is accepted
does not depend on how they were cut.

# Where the two differ

They differ in a failure. The literal looks at all of its text before it
moves, and fails where it was started. The tree moves past each piece that
is there, and fails behind the last one (`Spells.refuses`). Cut
into single characters, that is as far as the text and the spelled one agree
(`commonStart`).
-/
import Mathlib.Data.List.Forall2
import ParserKit.Proofs.Tree.Acceptance
import ParserKit.Proofs.Tree.Control

namespace ParserKit.Parser

variable {l p q t : Parser} {ls : List Parser} {s x u rest : Text}
  {ss ts xs : List Text} {w r : Window} {a : Value}

-- ============================================================== spelling

/-- A leaf and the one text that it takes. -/
inductive Expected : Parser → Text → Prop
  | literal (s : Text) : Expected (.literal s) s
  | character (c : Char) : Expected (.character c) [c]

/-- A tree of literals and characters, joined in whatever way, and their
texts from left to right. -/
inductive Spells : Parser → List Text → Prop
  | leaf {l : Parser} {s : Text} (hl : Expected l s) : Spells l [s]
  | joined {p q t : Parser} {ss ts : List Text} (ht : Joins p q t)
      (hp : Spells p ss) (hq : Spells q ts) : Spells t (ss ++ ts)

theorem Expected.builtIn (h : Expected l s) : l.BuiltIn := by
  cases h with
  | literal s => exact BuiltIn.literal s
  | character c => exact BuiltIn.character c

theorem Expected.fits_iff (h : Expected l s) : l.Fits x rest ↔ x = s := by
  constructor
  · intro hx
    cases h with
    | literal s => cases hx; rfl
    | character c => cases hx; rfl
  · intro hx
    rw [hx]
    cases h with
    | literal s => exact Fits.literal s rest
    | character c => exact Fits.character c rest

/-- Leaves that take one text each take all of them or do not get through. -/
theorem Expected.splits_iff (h : List.Forall₂ Expected ls ss) :
    Splits ls u xs rest ↔ xs = ss ∧ u = ss.flatten ++ rest := by
  induction h generalizing u xs with
  | nil => rfl
  | cons hl _ ih =>
      constructor
      · intro hsplit
        obtain ⟨x, ys, v, rfl, rfl, hx, hys⟩ := hsplit
        obtain ⟨rfl, rfl⟩ := ih.1 hys
        rw [hl.fits_iff.1 hx, List.flatten_cons, List.append_assoc]
        exact ⟨rfl, rfl⟩
      · intro hflat
        obtain ⟨rfl, rfl⟩ := hflat
        rw [List.flatten_cons, List.append_assoc]
        exact ⟨_, _, _, rfl, rfl, hl.fits_iff.2 rfl, ih.2 ⟨rfl, rfl⟩⟩

theorem Joins.leaves_eq (ht : Joins p q t) :
    t.leaves = p.leaves ++ q.leaves := by
  cases ht <;> rfl

theorem Joins.transformsReturn (ht : Joins p q t) (hp : p.TransformsReturn)
    (hq : q.TransformsReturn) : t.TransformsReturn := by
  cases ht with
  | pair => exact ⟨hp, hq⟩
  | left => exact transformsReturn_left.2 ⟨hp, hq⟩
  | right => exact transformsReturn_right.2 ⟨hp, hq⟩

theorem Spells.expected (h : Spells p ss) :
    List.Forall₂ Expected p.leaves ss := by
  induction h with
  | leaf hl =>
      rw [leaves_of_isLeaf hl.builtIn.isLeaf]
      exact List.Forall₂.cons hl List.Forall₂.nil
  | joined ht _ _ ihp ihq =>
      rw [ht.leaves_eq]
      exact List.rel_append ihp ihq

theorem Spells.builtIn (h : Spells p ss) : ∀ l ∈ p.leaves, l.BuiltIn := by
  induction h with
  | leaf hl =>
      rw [leaves_of_isLeaf hl.builtIn.isLeaf]
      exact List.forall_mem_singleton.2 hl.builtIn
  | joined ht _ _ ihp ihq =>
      rw [ht.leaves_eq]
      exact List.forall_mem_append.2 ⟨ihp, ihq⟩

theorem Spells.transformsReturn (h : Spells p ss) :
    p.TransformsReturn := by
  induction h with
  | leaf hl => cases hl <;> trivial
  | joined ht _ _ ihp ihq => exact ht.transformsReturn ihp ihq

/-- So many of the leaves take so many of the pieces. -/
theorem Spells.splits_take_iff (h : Spells p ss) (k : Nat) :
    Splits (p.leaves.take k) u xs rest ↔
      xs = ss.take k ∧ u = (ss.take k).flatten ++ rest :=
  Expected.splits_iff (List.forall₂_take k h.expected)

-- =============================================================== the run

/-- A tree goes past all that it spells. -/
theorem Spells.succeeds_iff (h : Spells p ss) (hw : w.medium = .text) :
    (∃ a, p.Succeeds w r a) ↔
      ss.flatten <+: w.view.unconsumed ∧
        r = w.skip ss.flatten.length := by
  constructor
  · intro hs
    obtain ⟨a, hs⟩ := hs
    obtain ⟨xs, rest, hsplit, rfl, -⟩ :=
      (succeeds_iff_splits h.builtIn hw).1 hs
    obtain ⟨rfl, htext⟩ := (Expected.splits_iff h.expected).1 hsplit
    exact ⟨⟨rest, htext.symm⟩, rfl⟩
  · intro hpre
    obtain ⟨⟨rest, htext⟩, rfl⟩ := hpre
    have hsplit := (Expected.splits_iff h.expected).2 ⟨rfl, htext.symm⟩
    rcases run_grammar_cases h.builtIn h.transformsReturn hw with
      ⟨xs, rest', a, hsplit', hs, -⟩ | ⟨xs, rest', hstick, -⟩
    · obtain ⟨rfl, -⟩ := splits_unique h.builtIn hsplit hsplit'
      exact ⟨a, hs⟩
    · exact absurd hsplit (hstick.not_splits h.builtIn)

/-- A tree that does not get through fails behind as many of its pieces as
the text begins with. -/
theorem Spells.refuses (h : Spells p ss) (hw : w.medium = .text)
    (hpre : ¬ ss.flatten <+: w.view.unconsumed) :
    ∃ k < ss.length, (ss.take k).flatten <+: w.view.unconsumed ∧
      (∀ k' ≤ ss.length,
        (ss.take k').flatten <+: w.view.unconsumed → k' ≤ k) ∧
      p.Fails w (w.skip (ss.take k).flatten.length) := by
  rcases run_grammar_cases h.builtIn h.transformsReturn hw with
    ⟨xs, rest, a, -, hs, -⟩ | ⟨xs, rest, hstick, hf⟩
  · exact absurd ((h.succeeds_iff hw).1 ⟨a, hs⟩).1 hpre
  · have hlen := h.expected.length_eq
    obtain ⟨k, hk, hsplit, hmax⟩ := hstick.splits_take h.builtIn
    rw [hlen] at hk hmax
    obtain ⟨rfl, htext⟩ := (h.splits_take_iff k).1 hsplit
    refine ⟨k, hk, ⟨rest, htext.symm⟩, fun k' hk' hpre => ?_, hf⟩
    obtain ⟨v, hv⟩ := hpre
    exact hmax k' hk' _ v ((h.splits_take_iff k').2 ⟨rfl, hv.symm⟩)

theorem spells_literal (s : Text) : Spells (literal s) [s] :=
  Spells.leaf (Expected.literal s)

theorem literal_succeeds_iff (hw : w.medium = .text) :
    (∃ a, (literal s).Succeeds w r a) ↔
      s <+: w.view.unconsumed ∧ r = w.skip s.length := by
  have h := (spells_literal s).succeeds_iff (r := r) hw
  rwa [List.flatten_singleton] at h

theorem literal_fails (hw : w.medium = .text)
    (hs : ¬ s <+: w.view.unconsumed) : (literal s).Fails w w := by
  refine (fails_builtIn_iff (.literal s) hw).2 ⟨?_, rfl⟩
  show (if s.isPrefixOf w.view.unconsumed then some s else none) = none
  rw [if_neg (mt List.isPrefixOf_iff_prefix.1 hs)]

/-- A character is the literal of that one character. -/
theorem run_character_eq (c : Char) (hw : w.medium = .text) :
    (character c).run w = (literal [c]).run w := by
  rw [run_builtIn (.character c) hw, run_builtIn (.literal [c]) hw]
  rfl

-- ================================================== one character at a time

/-- As far as two texts agree. -/
def commonStart : Text → Text → Text
  | c :: s, d :: t => if c = d then c :: commonStart s t else []
  | _, _ => []

theorem prefix_commonStart_iff {s t : Text} :
    u <+: commonStart s t ↔ u <+: s ∧ u <+: t := by
  induction s generalizing t u with
  | nil =>
      rw [commonStart.eq_2 _ _ (by simp)]
      constructor
      · intro h
        rw [List.prefix_nil.1 h]
        exact ⟨List.nil_prefix, List.nil_prefix⟩
      · exact And.left
  | cons c s ih =>
      cases u with
      | nil => simp
      | cons e u =>
          cases t with
          | nil => simp [commonStart]
          | cons d t =>
              by_cases h : c = d
              · subst h
                rw [commonStart, if_pos rfl, List.cons_prefix_cons, ih,
                  List.cons_prefix_cons, List.cons_prefix_cons]
                exact and_and_left
              · rw [commonStart, if_neg h, List.cons_prefix_cons,
                  List.cons_prefix_cons]
                refine iff_of_false (List.cons_ne_nil e u ∘
                  List.prefix_nil.1) fun hboth => h ?_
                exact hboth.1.1.symm.trans hboth.2.1

theorem flatten_take_singletons (s : Text) (k : Nat) :
    ((s.map ([·])).take k).flatten = s.take k := by
  rw [← List.map_take, ← List.flatMap_def]
  exact List.flatMap_singleton' _

/-- The greatest number of characters of the one text that the other begins
with. -/
theorem eq_length_commonStart {s t : Text} {k : Nat} (hk : k ≤ s.length)
    (hpre : s.take k <+: t)
    (hmax : ∀ k' ≤ s.length, s.take k' <+: t → k' ≤ k) :
    k = (commonStart s t).length := by
  have hcommon := prefix_commonStart_iff.1 (commonStart s t).prefix_rfl
  apply Nat.le_antisymm
  · have hle := (prefix_commonStart_iff.2
      ⟨List.take_prefix k s, hpre⟩).length_le
    rwa [List.length_take, Nat.min_eq_left hk] at hle
  · apply hmax _ hcommon.1.length_le
    rw [← List.prefix_iff_eq_take.1 hcommon.1]
    exact hcommon.2

-- ============================================================== the result

/-- A tree of literals and characters stands for the literal of all that it
spells: the two succeed on the same windows over a text, those whose text
begins with it, and go on at the same window. Where they fail, the literal
fails where it was started and the tree behind the last of its pieces that
the text begins with: if the pieces are single characters, as far as the text
agrees with what they spell. A character is in every way the literal of that
character. -/
theorem run_spelling :
    (∀ p ss, Spells p ss → ∀ w : Window, w.medium = .text →
      ((∃ r a, p.Succeeds w r a) ↔ ss.flatten <+: w.view.unconsumed) ∧
      ((∃ r a, (literal ss.flatten).Succeeds w r a) ↔
        ss.flatten <+: w.view.unconsumed) ∧
      (∀ r, (∃ a, p.Succeeds w r a) ↔
        ∃ a, (literal ss.flatten).Succeeds w r a) ∧
      (¬ ss.flatten <+: w.view.unconsumed →
        (literal ss.flatten).Fails w w ∧
        ∃ r k, p.Fails w r ∧ r.view.source = w.view.source ∧
          r.view.pos = w.view.pos + (ss.take k).flatten.length ∧
          k < ss.length ∧ (ss.take k).flatten <+: w.view.unconsumed ∧
          ∀ k' ≤ ss.length,
            (ss.take k').flatten <+: w.view.unconsumed → k' ≤ k)) ∧
    (∀ (c : Char) (w : Window), w.medium = .text →
      (character c).run w = (literal [c]).run w) ∧
    (∀ p s, Spells p (s.map ([·])) → ∀ w : Window, w.medium = .text →
      ¬ s <+: w.view.unconsumed →
        ∃ r, p.Fails w r ∧ r.view.source = w.view.source ∧
          r.view.pos
            = w.view.pos + (commonStart s w.view.unconsumed).length) := by
  refine ⟨fun p ss h w hw => ⟨?_, ?_, fun r => ?_, fun hpre => ?_⟩,
    fun c w hw => run_character_eq c hw, fun p s h w hw hpre => ?_⟩
  · constructor
    · intro hs
      obtain ⟨r, hs⟩ := hs
      exact ((h.succeeds_iff hw).1 hs).1
    · intro hpre
      exact ⟨_, (h.succeeds_iff hw).2 ⟨hpre, rfl⟩⟩
  · constructor
    · intro hs
      obtain ⟨r, hs⟩ := hs
      exact ((literal_succeeds_iff hw).1 hs).1
    · intro hpre
      exact ⟨_, (literal_succeeds_iff hw).2 ⟨hpre, rfl⟩⟩
  · rw [h.succeeds_iff hw, literal_succeeds_iff hw]
  · refine ⟨literal_fails hw hpre, ?_⟩
    obtain ⟨k, hk, hthere, hmax, hf⟩ := h.refuses hw hpre
    exact ⟨_, k, hf, w.source_skip _, w.pos_skip_length hthere, hk, hthere,
      hmax⟩
  · have hflat : (s.map ([·])).flatten = s := by
      rw [← List.flatMap_def]
      exact List.flatMap_singleton' s
    obtain ⟨k, hk, hthere, hmax, hf⟩ := h.refuses hw (by rwa [hflat])
    simp only [List.length_map, flatten_take_singletons] at *
    refine ⟨_, hf, w.source_skip _, ?_⟩
    rw [w.pos_skip_length hthere, List.length_take,
      Nat.min_eq_left (Nat.le_of_lt hk),
      eq_length_commonStart (Nat.le_of_lt hk) hthere hmax]

/-- Four pieces, one of them empty, of which a text has three, and then a
character of the last; the literal of all four fails where it stands. A chain
of three characters fails before the third. -/
theorem run_spelling_pieces :
    let ab := literal "ab".toList
    let p := left ab (pair (literal []) (right (character 'c')
      (literal "de".toList)))
    let q := left (pair (character 'a') (literal ['b'])) (character 'd')
    let w := Window.ofView ⟨⟨.number 0, "xabcdf".toList⟩, 1, by decide⟩
    Spells p ["ab".toList, [], ['c'], "de".toList] ∧
      Spells q ("abd".toList.map ([·])) ∧ w.medium = .text ∧
      ¬ "abcde".toList <+: w.view.unconsumed ∧
      ¬ "abd".toList <+: w.view.unconsumed ∧
      (literal "abcde".toList).Fails w w ∧
      (∃ r, p.Fails w r ∧ r.view.pos = 4) ∧
      ∃ r, q.Fails w r ∧ r.view.pos = 3 := by
  intro ab p q w
  have hp : Spells p ["ab".toList, [], ['c'], "de".toList] :=
    Spells.joined Joins.left (spells_literal _)
      (Spells.joined Joins.pair (spells_literal _)
        (Spells.joined Joins.right (Spells.leaf (.character 'c'))
          (spells_literal _)))
  have hq : Spells q ("abd".toList.map ([·])) :=
    Spells.joined Joins.left
      (Spells.joined Joins.pair (Spells.leaf (.character 'a'))
        (spells_literal _)) (Spells.leaf (.character 'd'))
  have hnone : ¬ "abcde".toList <+: w.view.unconsumed := by decide
  have hnone' : ¬ "abd".toList <+: w.view.unconsumed := by decide
  obtain ⟨hpieces, -, hchain⟩ := run_spelling
  obtain ⟨-, -, -, hfail⟩ := hpieces p _ hp w rfl
  obtain ⟨hl, r, k, hf, -, hpos, hk, -, hmax⟩ := hfail hnone
  have hge : 3 ≤ k := hmax 3 (by decide) (by decide)
  obtain rfl : k = 3 := Nat.le_antisymm (Nat.le_of_lt_succ hk) hge
  obtain ⟨r', hf', -, hpos'⟩ := hchain q _ hq w rfl hnone'
  exact ⟨hp, hq, rfl, hnone, hnone', hl, ⟨r, hf, hpos⟩, r', hf', hpos'⟩

end ParserKit.Parser
