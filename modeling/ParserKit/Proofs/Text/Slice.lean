/-
Slices that step by one: they cut a stretch out of the list.

Such a walk visits all positions from its start to its limit, so what it
selects is what is taken up to the limit and dropped up to the start
(`select_one`). Both members have been cut to the range of the list by then,
and are not negative.
-/
import ParserKit.Text.Slice

namespace ParserKit.Slice

variable {α : Type}

theorem positions_one (a b : Int) :
    positions a b 1 =
      (List.range (b - a).toNat).map fun (k : Nat) => a + k := by
  have hcount : count a b 1 = (b - a).toNat := by
    unfold count
    split
    · split
      · omega
      · omega
    · omega
  unfold positions
  rw [hcount]
  simp only [Int.mul_one]

/-- The items at the first positions are the first items. -/
theorem filterMap_getElem?_range (items : List α) (n : Nat) :
    ((List.range n).filterMap fun k => items[k]?) = items.take n := by
  induction n with
  | zero => rfl
  | succ n ih =>
      rw [List.range_succ, List.filterMap_append, ih, List.take_add_one]
      rfl

theorem clamp_nonneg (len : Nat) (i : Int) : 0 ≤ clamp 0 len len i :=
  Int.le_max_left _ _

theorem first_one_nonneg (s : Slice) (len : Nat) : 0 ≤ s.first len 1 := by
  unfold first
  rw [if_pos Int.one_pos]
  cases s.start with
  | none => exact Int.le_refl 0
  | some i => exact clamp_nonneg len i

theorem select_one {s : Slice} (hs : s.step.getD 1 = 1) (items : List α) :
    s.select items =
      some ((items.take (s.limit items.length 1).toNat).drop
        (s.first items.length 1).toNat) := by
  have ha := s.first_one_nonneg items.length
  unfold select
  rw [hs, if_neg Int.one_ne_zero]
  dsimp only
  generalize s.first items.length 1 = a at ha
  generalize s.limit items.length 1 = b
  have hitem : ∀ k : Nat, items[(a + k).toNat]? = (items.drop a.toNat)[k]? := by
    intro k
    rw [List.getElem?_drop]
    congr 1
    omega
  have hlen : (b - a).toNat = b.toNat - a.toNat := by omega
  rw [positions_one, List.filterMap_map, List.drop_take, ← hlen,
    ← filterMap_getElem?_range]
  congr 2
  funext k
  exact hitem k

-- ========================================================= cutting a list

theorem clamp_of_within {len : Nat} {i : Int} (h : 0 ≤ i)
    (h' : i ≤ (len : Int)) : clamp 0 len len i = i := by
  unfold clamp offset
  rw [if_neg (by omega)]
  omega

/-- Between two places in order lie the items up to the second and behind the
first. -/
theorem select_within {a b : Int} {items : List α} (ha : 0 ≤ a) (hab : a ≤ b)
    (hb : b ≤ items.length) :
    select ⟨some a, some b, none⟩ items =
      some ((items.take b.toNat).drop a.toNat) := by
  rw [select_one rfl]
  show some ((items.take (clamp 0 _ _ b).toNat).drop (clamp 0 _ _ a).toNat) = _
  rw [clamp_of_within (by omega) hb, clamp_of_within ha (by omega)]

/-- Between a place and the next one lies the item there. -/
theorem select_single {i : Int} {x : α} {items : List α} (hi : 0 ≤ i)
    (hx : items[i.toNat]? = some x) :
    select ⟨some i, some (i + 1), none⟩ items = some [x] := by
  obtain ⟨hlt, hx⟩ := List.getElem?_eq_some_iff.1 hx
  have hnext : (i + 1).toNat = i.toNat + 1 := by omega
  rw [select_within hi (by omega) (by omega), hnext, List.drop_take,
    Nat.add_sub_cancel_left, List.drop_eq_getElem_cons hlt, hx,
    List.take_succ_cons, List.take_zero]

/-- A list is cut in two at any number: what lies before it, and the rest. -/
theorem select_halves (k : Int) (items : List α) :
    ∃ xs ys, select ⟨none, some k, none⟩ items = some xs ∧
      select ⟨some k, none, none⟩ items = some ys ∧ xs ++ ys = items := by
  refine ⟨_, _, select_one rfl items, select_one rfl items, ?_⟩
  show (items.take (clamp 0 _ _ k).toNat).drop 0
    ++ (items.take items.length).drop (clamp 0 _ _ k).toNat = items
  rw [List.drop_zero, List.take_length, List.take_append_drop]

end ParserKit.Slice
