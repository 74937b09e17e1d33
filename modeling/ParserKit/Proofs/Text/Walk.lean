/-
What a slice selects, said item by item.

Applying a slice computes: it settles the members, counts the positions that
the walk visits, and reads them off (`Slice.select`). Here the same is said
without a count. `Ends` is where the walk begins and where it stops: a member
left out is an end of the list that the direction decides, a negative one
counts from the end of the list, once, and both are then cut to what the walk
can touch. `Walk` goes from there, an item at a time, for as long as it has
not come to the stop.

`select_eq_some_iff` is that the two agree. A walk that begins and stops where
`Ends` says never leaves the list, so each position that it comes to has an
item.
-/
import Mathlib.Order.Basic
import ParserKit.Text.Slice

namespace ParserKit.Slice

variable {α : Type} {items xs : List α} {s : Slice} {len : Nat}
  {low high missing step a b p : Int} {m : Option Int}

-- ================================================================ members

/-- Where a member of a slice points. Counted from the start it is at most the
highest place, and counted from the end at least the lowest. -/
inductive Settles (len : Nat) (low high missing : Int) :
    Option Int → Int → Prop
  | leftOut : Settles len low high missing none missing
  | fromStart {i : Int} (h : 0 ≤ i) :
      Settles len low high missing (some i) (min i high)
  | fromEnd {i : Int} (h : i < 0) :
      Settles len low high missing (some i) (max low (i + len))

/-- The step of a walk, where it begins and where it stops. Going up, the
members lie between the first place and the one behind the last item; going
down, between the one before the first item and the last item. -/
inductive Ends (s : Slice) (len : Nat) : Int → Int → Int → Prop
  | up {step a b : Int} (hstep : s.step.getD 1 = step) (hup : 0 < step)
      (ha : Settles len 0 len 0 s.start a)
      (hb : Settles len 0 len len s.stop b) : Ends s len step a b
  | down {step a b : Int} (hstep : s.step.getD 1 = step) (hdown : step < 0)
      (ha : Settles len (-1) (len - 1) (len - 1) s.start a)
      (hb : Settles len (-1) (len - 1) (-1) s.stop b) : Ends s len step a b

/-- Settling is offsetting and clamping, if no place that a walk can touch is
cut off. -/
theorem settles_iff (hzero : low ≤ 0) (hrange : low ≤ high)
    (hlast : (len : Int) - 1 ≤ high) :
    Settles len low high missing m p ↔
      p = (m.map (clamp low high len)).getD missing := by
  have hclamp : ∀ i : Int, clamp low high len i =
      if i < 0 then max low (i + len) else min i high := by
    intro i
    unfold clamp offset
    split
    · omega
    · omega
  constructor
  · intro h
    cases h with
    | leftOut => rfl
    | fromStart h =>
        rw [Option.map_some, Option.getD_some, hclamp, if_neg (by omega)]
    | fromEnd h =>
        rw [Option.map_some, Option.getD_some, hclamp, if_pos h]
  · intro h
    subst h
    cases m with
    | none => exact Settles.leftOut
    | some i =>
        rw [Option.map_some, Option.getD_some, hclamp]
        split
        case isTrue hi => exact Settles.fromEnd hi
        case isFalse hi => exact Settles.fromStart (by omega)

/-- The ends of a walk are those that applying the slice settles. -/
theorem ends_iff : s.Ends len step a b ↔
    s.step.getD 1 = step ∧ step ≠ 0 ∧ a = s.first len step ∧
      b = s.limit len step := by
  have hup : ∀ {m p} {missing : Int}, Settles len 0 len missing m p ↔
      p = (m.map (clamp 0 len len)).getD missing :=
    settles_iff (Int.le_refl 0) (Int.natCast_nonneg len) (by omega)
  have hdown : ∀ {m p} {missing : Int},
      Settles len (-1) (len - 1) missing m p ↔
        p = (m.map (clamp (-1) (len - 1) len)).getD missing :=
    settles_iff (by omega) (by omega) (Int.le_refl _)
  unfold first limit
  constructor
  · intro h
    cases h with
    | up hstep h ha hb =>
        rw [if_pos h, if_pos h]
        exact ⟨hstep, by omega, hup.1 ha, hup.1 hb⟩
    | down hstep h ha hb =>
        rw [if_neg (by omega), if_neg (by omega)]
        exact ⟨hstep, by omega, hdown.1 ha, hdown.1 hb⟩
  · intro h
    obtain ⟨hstep, hne, ha, hb⟩ := h
    by_cases h : 0 < step
    · rw [if_pos h] at ha hb
      exact Ends.up hstep h (hup.2 ha) (hup.2 hb)
    · rw [if_neg h] at ha hb
      exact Ends.down hstep (by omega) (hdown.2 ha) (hdown.2 hb)

-- ================================================================ the walk

/-- A walk by that step is at `a` and has not come to the stop. -/
def Before (step a stop : Int) : Prop :=
  (0 < step ∧ a < stop) ∨ (step < 0 ∧ stop < a)

instance : Decidable (Before step a b) :=
  inferInstanceAs (Decidable ((0 < step ∧ a < b) ∨ (step < 0 ∧ b < a)))

/-- The items at `a`, at `a + step`, and so on, strictly before the stop. -/
inductive Walk (items : List α) (step stop : Int) : Int → List α → Prop
  | stops {a : Int} (h : ¬ Before step a stop) : Walk items step stop a []
  | visits {a : Int} {x : α} {xs : List α} (h : Before step a stop)
      (ha : 0 ≤ a) (hx : items[a.toNat]? = some x)
      (hxs : Walk items step stop (a + step) xs) :
      Walk items step stop a (x :: xs)

/-- The walk stays in the list as long as it has not come to the stop. -/
def Inside (len : Nat) (step a stop : Int) : Prop :=
  (0 < step → 0 ≤ a ∧ stop ≤ len) ∧ (step < 0 → a < len ∧ -1 ≤ stop)

theorem Inside.next (h : Inside len step a b) :
    Inside len step (a + step) b := by
  unfold Inside at *
  omega

theorem Inside.getElem? (h : Inside items.length step a b)
    (hbefore : Before step a b) :
    0 ≤ a ∧ ∃ x, items[a.toNat]? = some x := by
  unfold Inside at h
  unfold Before at hbefore
  have ha : 0 ≤ a ∧ a < items.length := by omega
  exact ⟨ha.1, _, List.getElem?_eq_getElem (by omega)⟩

/-- A member settles between the bounds that it is cut to. -/
theorem settled_bounds (m : Option Int) (len : Nat) (hlow : low ≤ missing)
    (hhigh : missing ≤ high) :
    low ≤ (m.map (clamp low high len)).getD missing ∧
      (m.map (clamp low high len)).getD missing ≤ high := by
  cases m with
  | none => exact ⟨hlow, hhigh⟩
  | some i =>
      rw [Option.map_some, Option.getD_some]
      unfold clamp
      omega

theorem inside_first (s : Slice) (len : Nat) (step : Int) :
    Inside len step (s.first len step) (s.limit len step) := by
  unfold Inside first limit
  constructor
  · intro h
    rw [if_pos h, if_pos h]
    have hlen : (0 : Int) ≤ len := Int.natCast_nonneg len
    exact ⟨(settled_bounds s.start len (Int.le_refl 0) hlen).1,
      (settled_bounds s.stop len hlen (Int.le_refl _)).2⟩
  · intro h
    rw [if_neg (by omega), if_neg (by omega)]
    have hlast : -1 ≤ (len : Int) - 1 := by omega
    have ha := (settled_bounds s.start len hlast (Int.le_refl _)).2
    exact ⟨by omega, (settled_bounds s.stop len (Int.le_refl _) hlast).1⟩

-- ================================================================ the count

theorem pos_count_iff (hs : step ≠ 0) :
    0 < count a b step ↔ Before step a b := by
  rw [lt_count_iff hs, Int.natCast_zero, Int.zero_mul, Int.add_zero]
  rfl

theorem count_of_before (hs : step ≠ 0) (h : Before step a b) :
    count a b step = count (a + step) b step + 1 := by
  have hpos := (pos_count_iff hs).2 h
  have hnext : ∀ k : Nat,
      k + 1 < count a b step ↔ k < count (a + step) b step := by
    intro k
    have hk : a + ((k + 1 : Nat) : Int) * step = a + step + k * step := by
      rw [Int.natCast_succ, Int.add_mul, Int.one_mul]
      omega
    rw [lt_count_iff hs, lt_count_iff hs, hk]
  have hle := hnext (count (a + step) b step)
  have hge := hnext (count a b step - 1)
  omega

/-- Where the walk has not come to the stop it visits one place and goes on
from the next. -/
theorem positions_of_before (hs : step ≠ 0) (h : Before step a b) :
    positions a b step = a :: positions (a + step) b step := by
  unfold positions
  rw [count_of_before hs h, List.range_succ_eq_map, List.map_cons,
    List.map_map, Int.natCast_zero, Int.zero_mul, Int.add_zero]
  congr 1
  apply List.map_congr_left
  intro k hk
  show a + ((k + 1 : Nat) : Int) * step = a + step + k * step
  rw [Int.natCast_succ, Int.add_mul, Int.one_mul]
  omega

theorem positions_of_not_before (hs : step ≠ 0) (h : ¬ Before step a b) :
    positions a b step = [] := by
  have hzero : count a b step = 0 := by
    have hpos := (pos_count_iff hs).not.2 h
    omega
  unfold positions
  rw [hzero]
  rfl

-- ================================================================ selecting

/-- Reading off the counted positions is walking. The induction is on how
many are left, and the walk stays in the list because it began there. -/
theorem walk_iff (hs : step ≠ 0) (n : Nat) :
    ∀ a xs, count a b step = n → Inside items.length step a b →
      (Walk items step b a xs ↔
        xs = (positions a b step).filterMap fun i => items[i.toNat]?) := by
  induction n with
  | zero =>
      intro a xs hn hin
      have h : ¬ Before step a b := by
        rw [← pos_count_iff hs]
        omega
      rw [positions_of_not_before hs h, List.filterMap_nil]
      constructor
      · intro hwalk
        cases hwalk with
        | stops _ => rfl
        | visits hbefore => exact absurd hbefore h
      · intro hxs
        subst hxs
        exact Walk.stops h
  | succ n ih =>
      intro a xs hn hin
      have h : Before step a b := by
        rw [← pos_count_iff hs]
        omega
      obtain ⟨ha, x, hx⟩ := hin.getElem? h
      have hrest : count (a + step) b step = n := by
        rw [count_of_before hs h] at hn
        omega
      rw [positions_of_before hs h, List.filterMap_cons, hx]
      constructor
      · intro hwalk
        cases hwalk with
        | stops hstop => exact absurd h hstop
        | visits _ _ hy hys =>
            rw [hx] at hy
            obtain rfl := Option.some.inj hy
            rw [(ih _ _ hrest hin.next).1 hys]
      · intro hxs
        subst hxs
        exact Walk.visits h ha hx ((ih _ _ hrest hin.next).2 rfl)

/-- What a slice selects are the items of the walk between its ends. -/
theorem select_eq_some_iff : s.select items = some xs ↔
    ∃ step a b, s.Ends items.length step a b ∧ Walk items step b a xs := by
  have hinside := s.inside_first items.length (s.step.getD 1)
  unfold select
  by_cases hs : s.step.getD 1 = 0
  · rw [if_pos hs]
    constructor
    · intro h
      cases h
    · intro h
      obtain ⟨step, a, b, hends, hwalk⟩ := h
      obtain ⟨hstep, hne, ha, hb⟩ := ends_iff.1 hends
      exact absurd (hstep.symm.trans hs) hne
  · rw [if_neg hs, Option.some.injEq, eq_comm,
      ← walk_iff hs _ _ _ rfl hinside]
    constructor
    · intro h
      exact ⟨_, _, _, ends_iff.2 ⟨rfl, hs, rfl, rfl⟩, h⟩
    · intro h
      obtain ⟨step, a, b, hends, hwalk⟩ := h
      obtain ⟨hstep, hne, ha, hb⟩ := ends_iff.1 hends
      subst hstep ha hb
      exact hwalk

end ParserKit.Slice
