/-
Trees of parsers: what they are made of, and how a run of one can end.

A parser is a tree over its leaves. `map` and `pair` are its inner nodes,
and everything else is a leaf, whether it is built in or comes from
outside. `left` and `right` are a `map` over a `pair`, so what holds of all
trees holds of them without a case of their own.

# The three ends

A run ends with a success, with a failure, or with a fault: `Succeeds`,
`Fails` and `Raises`. What an inner node does with the ends of its parts is
said once, by an equivalence for each node and each end
(`succeeds_map_iff` and its companions); where the trace matters as well,
by the four equations before them (`run_map_of_succeeds` and its
companions). No later proof opens `Parser.run` at an inner node.

# Transforms that return

A transform may end in a fault, and a tree with such a transform need not
give a result. `TransformsReturn` asks of each transform only that it
return on what its own part of the tree can produce. The projections of
`left` and `right` do so by themselves (`transformsReturn_left`), though
they are no use on a value that is not a pair.
-/
import ParserKit.Parser.Basic

namespace ParserKit

namespace Parser

variable {p q l : Parser} {f : Value → Run Value} {w u r : Window}
  {x y : Value} {e : Fault}

-- ============================================================== the parts

/-- Whether a parser is a leaf. -/
def isLeaf : Parser → Bool
  | .map _ _ | .pair _ _ => false
  | _ => true

/-- The leaves of a tree, from left to right. -/
def leaves : Parser → List Parser
  | .map p _ => p.leaves
  | .pair p q => p.leaves ++ q.leaves
  | l => [l]

/-- The leaves that the library brings along. -/
inductive BuiltIn : Parser → Prop
  | literal (s : Text) : BuiltIn (.literal s)
  | character (c : Char) : BuiltIn (.character c)
  | identifier : BuiltIn .identifier

/-- Induction over a tree: the leaves alike, then the two inner nodes. -/
@[elab_as_elim]
theorem tree_induction {motive : Parser → Prop}
    (leaf : ∀ l, l.isLeaf = true → motive l)
    (map : ∀ p f, motive p → motive (.map p f))
    (pair : ∀ p q, motive p → motive q → motive (.pair p q)) (p : Parser) :
    motive p := by
  induction p with
  | literal s => exact leaf _ rfl
  | character c => exact leaf _ rfl
  | identifier => exact leaf _ rfl
  | leaf label body => exact leaf _ rfl
  | map p f ih => exact map p f ih
  | pair p q ihp ihq => exact pair p q ihp ihq

theorem leaves_of_isLeaf (hl : l.isLeaf = true) : l.leaves = [l] := by
  cases l with
  | map p f => cases hl
  | pair p q => cases hl
  | _ => rfl

theorem isLeaf_of_mem_leaves (hl : l ∈ p.leaves) : l.isLeaf = true := by
  induction p using tree_induction with
  | leaf k hk =>
      rw [leaves_of_isLeaf hk, List.mem_singleton] at hl
      exact hl ▸ hk
  | map q f ih => exact ih hl
  | pair q k ihq ihk => exact (List.mem_append.1 hl).elim ihq ihk

/-- What holds of the leaves of a leaf holds of it. -/
theorem forall_leaves_of_isLeaf {motive : Parser → Prop}
    (hl : l.isLeaf = true) (h : ∀ k ∈ l.leaves, motive k) : motive l := by
  apply h
  rw [leaves_of_isLeaf hl]
  exact List.mem_singleton_self l

/-- The leaves of a `pair` are those of its parts. -/
theorem forall_leaves_pair {motive : Parser → Prop} :
    (∀ l ∈ (pair p q).leaves, motive l) ↔
      (∀ l ∈ p.leaves, motive l) ∧ ∀ l ∈ q.leaves, motive l :=
  List.forall_mem_append

theorem BuiltIn.isLeaf (hl : l.BuiltIn) : l.isLeaf = true := by
  cases hl <;> rfl

-- =============================================================== the ends

/-- The run on `w` succeeds with `x` and goes on at `r`. -/
def Succeeds (p : Parser) (w r : Window) (x : Value) : Prop :=
  (p.run w).exit = .ok (.success r x)

/-- The run on `w` fails at `r`. -/
def Fails (p : Parser) (w r : Window) : Prop :=
  (p.run w).exit = .ok (.failure r)

/-- The run on `w` ends in the fault `e`. -/
def Raises (p : Parser) (w : Window) (e : Fault) : Prop :=
  (p.run w).exit = .error e

/-- A run ends in one of three ways. -/
theorem ends (p : Parser) (w : Window) :
    (∃ r x, p.Succeeds w r x) ∨ (∃ r, p.Fails w r) ∨ ∃ e, p.Raises w e := by
  unfold Succeeds Fails Raises
  rcases (p.run w).exit with e | ⟨r, x⟩ | r
  · exact Or.inr (Or.inr ⟨e, rfl⟩)
  · exact Or.inl ⟨r, x, rfl⟩
  · exact Or.inr (Or.inl ⟨r, rfl⟩)

theorem Succeeds.not_fails (h : p.Succeeds w r x) : ¬ p.Fails w u := by
  intro h'
  cases Except.ok.inj (h.symm.trans h')

theorem Fails.not_succeeds (h : p.Fails w u) :
    ¬ ∃ r x, p.Succeeds w r x := by
  intro h'
  obtain ⟨r, x, hs⟩ := h'
  exact hs.not_fails h

theorem Raises.not_succeeds (h : p.Raises w e) :
    ¬ ∃ r x, p.Succeeds w r x := by
  intro h'
  obtain ⟨r, x, hs⟩ := h'
  cases hs.symm.trans h

-- ================================================= inner nodes, in full

/-- Unless what is below a `map` succeeds, its run is the run of the
whole. -/
theorem run_map_of_not_succeeds (h : ¬ ∃ r x, p.Succeeds w r x) :
    (map p f).run w = p.run w := by
  rcases hp : p.run w with ⟨t, e | ⟨r, x⟩ | r⟩
  · simp [run, hp]
  · exact absurd ⟨r, x, by rw [Succeeds, hp]⟩ h
  · simp [run, hp]

/-- After a success below a `map` the transform is called, and its value
takes the place of the other. -/
theorem run_map_of_succeeds (h : p.Succeeds w r x) :
    (map p f).run w =
      ⟨(p.run w).trace ++ (f x).trace, (f x).exit.map (.success r)⟩ := by
  rcases hp : p.run w with ⟨t, ex⟩
  obtain rfl : ex = .ok (.success r x) := by
    rw [← h, hp]
  rcases hf : f x with ⟨s, e | y⟩ <;> simp [run, hp, hf, Except.map]

/-- Unless the first part of a `pair` succeeds, its run is the run of the
whole. -/
theorem run_pair_of_not_succeeds (h : ¬ ∃ r x, p.Succeeds w r x) :
    (pair p q).run w = p.run w := by
  rcases hp : p.run w with ⟨t, e | ⟨r, x⟩ | r⟩
  · simp [run, hp]
  · exact absurd ⟨r, x, by rw [Succeeds, hp]⟩ h
  · simp [run, hp]

/-- An outcome of the second part of a `pair`, with the value of the first
put before its own. -/
def paired (x : Value) : Outcome Value → Outcome Value
  | .success r y => .success r (.tuple [x, y])
  | .failure r => .failure r

/-- After a success of the first part of a `pair` the second is run on what
the first left. -/
theorem run_pair_of_succeeds (h : p.Succeeds w u x) :
    (pair p q).run w =
      ⟨(p.run w).trace ++ (q.run u).trace,
        (q.run u).exit.map (paired x)⟩ := by
  rcases hp : p.run w with ⟨t, ex⟩
  obtain rfl : ex = .ok (.success u x) := by
    rw [← h, hp]
  rcases hq : q.run u with ⟨s, e | ⟨r, y⟩ | r⟩ <;>
    simp [run, hp, hq, Except.map, paired]

-- ============================================== inner nodes, end by end

theorem succeeds_map_iff :
    (map p f).Succeeds w r y ↔
      ∃ x, p.Succeeds w r x ∧ (f x).exit = .ok y := by
  constructor
  · intro h
    by_cases hs : ∃ r x, p.Succeeds w r x
    · obtain ⟨u, x, hp⟩ := hs
      rw [Succeeds, run_map_of_succeeds hp] at h
      rcases hf : (f x).exit with e | z <;> rw [hf] at h
      · cases h
      · cases h
        exact ⟨x, hp, hf⟩
    · rw [Succeeds, run_map_of_not_succeeds hs] at h
      exact absurd ⟨r, y, h⟩ hs
  · intro h
    obtain ⟨x, hp, hf⟩ := h
    rw [Succeeds, run_map_of_succeeds hp, hf]
    rfl

theorem fails_map_iff : (map p f).Fails w r ↔ p.Fails w r := by
  by_cases hs : ∃ r x, p.Succeeds w r x
  · obtain ⟨u, x, hp⟩ := hs
    refine iff_of_false ?_ hp.not_fails
    rw [Fails, run_map_of_succeeds hp]
    cases (f x).exit <;> simp [Except.map]
  · rw [Fails, Fails, run_map_of_not_succeeds hs]

theorem raises_map_iff :
    (map p f).Raises w e ↔
      p.Raises w e ∨ ∃ r x, p.Succeeds w r x ∧ (f x).exit = .error e := by
  constructor
  · intro h
    by_cases hs : ∃ r x, p.Succeeds w r x
    · obtain ⟨u, x, hp⟩ := hs
      rw [Raises, run_map_of_succeeds hp] at h
      rcases hf : (f x).exit with e' | z <;> rw [hf] at h
      · cases h
        exact Or.inr ⟨u, x, hp, hf⟩
      · cases h
    · rw [Raises, run_map_of_not_succeeds hs] at h
      exact Or.inl h
  · intro h
    rcases h with hp | ⟨r, x, hp, hf⟩
    · rwa [Raises, run_map_of_not_succeeds hp.not_succeeds]
    · rw [Raises, run_map_of_succeeds hp, hf]
      rfl

theorem succeeds_pair_iff :
    (pair p q).Succeeds w r y ↔
      ∃ u x z, p.Succeeds w u x ∧ q.Succeeds u r z ∧ y = .tuple [x, z] := by
  constructor
  · intro h
    by_cases hs : ∃ r x, p.Succeeds w r x
    · obtain ⟨u, x, hp⟩ := hs
      rw [Succeeds, run_pair_of_succeeds hp] at h
      rcases hq : (q.run u).exit with e | ⟨s, z⟩ | s <;> rw [hq] at h
      · cases h
      · cases h
        exact ⟨u, x, z, hp, hq, rfl⟩
      · cases h
    · rw [Succeeds, run_pair_of_not_succeeds hs] at h
      exact absurd ⟨r, y, h⟩ hs
  · intro h
    obtain ⟨u, x, z, hp, hq, rfl⟩ := h
    rw [Succeeds, run_pair_of_succeeds hp, hq]
    rfl

theorem fails_pair_iff :
    (pair p q).Fails w r ↔
      p.Fails w r ∨ ∃ u x, p.Succeeds w u x ∧ q.Fails u r := by
  constructor
  · intro h
    by_cases hs : ∃ r x, p.Succeeds w r x
    · obtain ⟨u, x, hp⟩ := hs
      rw [Fails, run_pair_of_succeeds hp] at h
      rcases hq : (q.run u).exit with e | ⟨s, z⟩ | s <;> rw [hq] at h
      · cases h
      · cases h
      · cases h
        exact Or.inr ⟨u, x, hp, hq⟩
    · rw [Fails, run_pair_of_not_succeeds hs] at h
      exact Or.inl h
  · intro h
    rcases h with hp | ⟨u, x, hp, hq⟩
    · rwa [Fails, run_pair_of_not_succeeds hp.not_succeeds]
    · rw [Fails, run_pair_of_succeeds hp, hq]
      rfl

theorem raises_pair_iff :
    (pair p q).Raises w e ↔
      p.Raises w e ∨ ∃ u x, p.Succeeds w u x ∧ q.Raises u e := by
  constructor
  · intro h
    by_cases hs : ∃ r x, p.Succeeds w r x
    · obtain ⟨u, x, hp⟩ := hs
      rw [Raises, run_pair_of_succeeds hp] at h
      rcases hq : (q.run u).exit with e' | ⟨s, z⟩ | s <;> rw [hq] at h
      · cases h
        exact Or.inr ⟨u, x, hp, hq⟩
      · cases h
      · cases h
    · rw [Raises, run_pair_of_not_succeeds hs] at h
      exact Or.inl h
  · intro h
    rcases h with hp | ⟨u, x, hp, hq⟩
    · rwa [Raises, run_pair_of_not_succeeds hp.not_succeeds]
    · rw [Raises, run_pair_of_succeeds hp, hq]
      rfl

-- ============================================= transforms that return

/-- Every transform returns on whatever its part of the tree produces. -/
def TransformsReturn : Parser → Prop
  | .map p f =>
      p.TransformsReturn ∧
        ∀ w r x, p.Succeeds w r x → ∃ y, (f x).exit = .ok y
  | .pair p q => p.TransformsReturn ∧ q.TransformsReturn
  | _ => True

/-- The projection of a `left` asks nothing of its parts. -/
theorem transformsReturn_left :
    (left p q).TransformsReturn ↔
      p.TransformsReturn ∧ q.TransformsReturn := by
  refine and_iff_left_of_imp fun _ w r x h => ?_
  obtain ⟨u, y, z, -, -, rfl⟩ := succeeds_pair_iff.1 h
  exact ⟨y, rfl⟩

theorem transformsReturn_right :
    (right p q).TransformsReturn ↔
      p.TransformsReturn ∧ q.TransformsReturn := by
  refine and_iff_left_of_imp fun _ w r x h => ?_
  obtain ⟨u, y, z, -, -, rfl⟩ := succeeds_pair_iff.1 h
  exact ⟨z, rfl⟩

end Parser

end ParserKit
