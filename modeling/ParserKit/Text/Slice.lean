/-
Slices: the items of a list at `start`, `start + step`, … before `stop`.

A slice names its three members as whole numbers or leaves them out, and
knows nothing of the list it will be applied to. Applying it to a list of
length `len` settles the members in three stages:

- a step left out is one, and a step of zero selects nothing that makes
  sense, so `select` has no answer for it;
- a start or stop left out is the end of the list where a walk in the
  direction of the step begins or finishes;
- a start or stop that is given counts from the end of the list when it is
  negative (`offset` adds the length once), and is then cut to the range a
  walk can touch: `0 … len` going up, `-1 … len - 1` going down, so that
  "before the first item" is a position when the walk runs backwards.

`positions` is the walk itself: it goes on for as many steps as lie before the
limit (`lt_count_iff`).
-/

namespace ParserKit

/-- A selection of items; a member that is `none` is left out. -/
structure Slice where
  start : Option Int
  stop : Option Int
  step : Option Int
  deriving DecidableEq, Repr

namespace Slice

-- ============================================================ members

/-- A negative index counts from the end. -/
def offset (len : Nat) (i : Int) : Int :=
  if i < 0 then i + len else i

/-- A given member: offset once, then cut to what lies between `low` and
`high`. -/
def clamp (low high : Int) (len : Nat) (i : Int) : Int :=
  max low (min (offset len i) high)

/-- Where the walk begins. -/
def first (s : Slice) (len : Nat) (step : Int) : Int :=
  if 0 < step then (s.start.map (clamp 0 len len)).getD 0
  else (s.start.map (clamp (-1) (len - 1) len)).getD (len - 1)

/-- Where the walk ends, itself not visited. -/
def limit (s : Slice) (len : Nat) (step : Int) : Int :=
  if 0 < step then (s.stop.map (clamp 0 len len)).getD len
  else (s.stop.map (clamp (-1) (len - 1) len)).getD (-1)

-- =========================================================== the walk

/-- How many positions a walk from `a` strictly towards `b` visits. -/
def count (a b step : Int) : Nat :=
  if 0 < step then
    if a < b then ((b - a - 1) / step + 1).toNat else 0
  else
    if b < a then ((a - b - 1) / (-step) + 1).toNat else 0

/-- The positions visited, in order. -/
def positions (a b step : Int) : List Int :=
  (List.range (count a b step)).map fun (k : Nat) => a + k * step

/-- A number of steps is taken exactly if it stops short of the limit. -/
theorem lt_count_iff {a b step : Int} (hs : step ≠ 0) (k : Nat) :
    k < count a b step ↔
      (0 < step ∧ a + k * step < b) ∨ (step < 0 ∧ b < a + k * step) := by
  unfold count
  by_cases hp : 0 < step
  · have hk : 0 ≤ (k : Int) * step := Int.mul_nonneg (by omega) (by omega)
    have hd := @Int.le_ediv_iff_mul_le (k : Int) (b - a - 1) step hp
    simp only [hp, if_true, true_and]
    split
    · have hq : 0 ≤ (b - a - 1) / step :=
        Int.ediv_nonneg (by omega) (by omega)
      omega
    · omega
  · have hn : 0 < -step := by omega
    have hk : 0 ≤ (k : Int) * (-step) :=
      Int.mul_nonneg (by omega) (by omega)
    have hd := @Int.le_ediv_iff_mul_le (k : Int) (a - b - 1) (-step) hn
    rw [Int.mul_neg] at hk hd
    simp only [hp, if_false, false_and, false_or]
    split
    · have hq : 0 ≤ (a - b - 1) / (-step) :=
        Int.ediv_nonneg (by omega) (by omega)
      omega
    · omega

/-- The selected items in the order visited; no answer for a step of
zero. -/
def select {α : Type} (s : Slice) (items : List α) : Option (List α) :=
  let step := s.step.getD 1
  if step = 0 then none
  else
    let len := items.length
    some ((positions (s.first len step) (s.limit len step) step).filterMap
      fun i => items[i.toNat]?)

/-- A step of zero, and nothing else, has no answer. -/
theorem select_eq_none_iff {α : Type} (s : Slice) (items : List α) :
    s.select items = none ↔ s.step = some 0 := by
  unfold select
  cases h : s.step with
  | none => simp
  | some step => by_cases hs : step = 0 <;> simp [hs]

-- =========================================================== examples

example : select ⟨some 1, none, some 2⟩ [0, 1, 2, 3, 4] = some [1, 3] := by
  decide
example : select ⟨none, none, some (-1)⟩ [0, 1, 2] = some [2, 1, 0] := by
  decide
example : select ⟨some (-2), some 9, none⟩ [0, 1, 2] = some [1, 2] := by
  decide
example : select ⟨some 1, some (-9), some (-1)⟩ [0, 1, 2] = some [1, 0] := by
  decide

end Slice

end ParserKit
