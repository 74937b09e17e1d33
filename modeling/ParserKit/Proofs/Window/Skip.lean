/-
Windows over a text: moving along one, and reading it.

`Window.skip` is the window so many characters further on, as a function:
it stops at the end where `advance` refuses. `advance` gives the same window
wherever the characters are there (`advance_natCast`), so a chain of
advances is one `skip` by the sum of the amounts (`skip_skip`), and
everything about a chain follows from what one `skip` does to the source,
the position and the text.

Only a window over a text can always be read. On such a window the
operations that leaves use are those of the view below it
(`startsWith_of_text` and its companions), and a character is ahead exactly
if the text begins with it (`peek_one_eq_some_iff`).
-/
import ParserKit.Value.Basic

namespace ParserKit

-- ============================================================ on a view

namespace View

variable (v : View)

/-- Reading ahead gives that many characters of what is unconsumed, if they
are there. -/
theorem peek_natCast (n : Nat) :
    v.peek n =
      if n ≤ v.length then some (v.unconsumed.take n) else none := by
  have hp := v.pos_le
  by_cases h : n ≤ v.length
  · have hchars : v.hasChars n = true := (v.hasChars_natCast n).2 h
    have hstop : (Slice.clamp 0 v.source.text.length v.source.text.length
        (v.pos + n)).toNat = v.pos + n := by
      unfold length at h
      unfold Slice.clamp Slice.offset
      split
      · omega
      · omega
    simp only [peek, hchars, if_true, h, hstop, unconsumed]
    rw [List.drop_take, Nat.add_sub_cancel_left]
  · have hchars : ¬ v.hasChars n = true := mt (v.hasChars_natCast n).1 h
    simp [peek, hchars, h]

/-- The next character is `c` exactly if the text begins with it. -/
theorem peek_one_eq_some_iff (c : Char) :
    v.peek (1 : Nat) = some [c] ↔ [c] <+: v.unconsumed := by
  rw [peek_natCast, ← length_unconsumed]
  cases v.unconsumed with
  | nil => simp
  | cons d rest => simp [eq_comm]

theorem isSuffixOf_trans {v u w : View} (h : v.isSuffixOf u = true)
    (h' : u.isSuffixOf w = true) : v.isSuffixOf w = true := by
  obtain ⟨hs, hp⟩ := (v.isSuffixOf_iff u).1 h
  obtain ⟨hs', hp'⟩ := (u.isSuffixOf_iff w).1 h'
  exact (v.isSuffixOf_iff w).2 ⟨hs.trans hs', Nat.le_trans hp' hp⟩

/-- What lies between a view and a suffix of it, and what the suffix has
left, are what the view has left. -/
theorem consumedSince_append {v w : View} (h : v.isSuffixOf w = true) :
    ∃ t, v.consumedSince w = .ok t ∧ t ++ v.unconsumed = w.unconsumed := by
  obtain ⟨hs, hp⟩ := (v.isSuffixOf_iff w).1 h
  refine ⟨_, (v.consumedSince_eq_ok_iff w _).2 ⟨h, rfl⟩, ?_⟩
  unfold unconsumed
  rw [← hs, List.drop_take]
  calc (v.source.text.drop w.pos).take (v.pos - w.pos)
        ++ v.source.text.drop v.pos
      = (v.source.text.drop w.pos).take (v.pos - w.pos)
        ++ (v.source.text.drop w.pos).drop (v.pos - w.pos) := by
          rw [List.drop_drop, Nat.add_sub_cancel' hp]
    _ = v.source.text.drop w.pos := List.take_append_drop ..

end View

namespace Window

variable (w : Window)

-- =============================================================== moving

/-- The window `n` characters further on, or at the end. -/
def skip (n : Nat) : Window :=
  if n = 0 then w
  else
    { w with
      view := ⟨w.view.source,
        min (w.view.pos + n) w.view.source.text.length, Nat.min_le_right _ _⟩
      truth := false
      id := none }

@[simp] theorem skip_zero : w.skip 0 = w := rfl

@[simp] theorem source_skip (n : Nat) :
    (w.skip n).view.source = w.view.source := by
  unfold skip
  split <;> rfl

@[simp] theorem medium_skip (n : Nat) : (w.skip n).medium = w.medium := by
  unfold skip
  split <;> rfl

@[simp] theorem whole_skip (n : Nat) : (w.skip n).whole = w.whole := by
  unfold skip
  split <;> rfl

theorem pos_skip (n : Nat) :
    (w.skip n).view.pos
      = min (w.view.pos + n) w.view.source.text.length := by
  have hp := w.view.pos_le
  unfold skip
  split
  · omega
  · rfl

/-- Skipping as much as is there moves the position by that much. -/
theorem pos_skip_of_le {n : Nat} (h : n ≤ w.view.length) :
    (w.skip n).view.pos = w.view.pos + n := by
  have hp := w.view.pos_le
  unfold View.length at h
  rw [pos_skip]
  omega

theorem pos_skip_length {x : Text} (h : x <+: w.view.unconsumed) :
    (w.skip x.length).view.pos = w.view.pos + x.length := by
  apply w.pos_skip_of_le
  rw [← View.length_unconsumed]
  exact h.length_le

@[simp] theorem unconsumed_skip (n : Nat) :
    (w.skip n).view.unconsumed = w.view.unconsumed.drop n := by
  have hp := w.view.pos_le
  unfold View.unconsumed
  rw [pos_skip, source_skip, List.drop_drop]
  by_cases h : w.view.pos + n ≤ w.view.source.text.length
  · rw [Nat.min_eq_left h]
  · rw [Nat.min_eq_right (by omega), List.drop_length,
      List.drop_eq_nil_of_le (by omega)]

theorem skip_skip (m n : Nat) : (w.skip m).skip n = w.skip (m + n) := by
  have hp := w.view.pos_le
  by_cases hm : m = 0
  · subst hm
    rw [skip_zero, Nat.zero_add]
  · by_cases hn : n = 0
    · subst hn
      rfl
    · simp only [skip, hm, hn, if_false, Nat.add_eq_zero_iff, false_and,
        mk.injEq, and_true, View.mk.injEq, true_and]
      omega

/-- What has been skipped lies between the windows. -/
theorem isSuffixOf_skip (n : Nat) : (w.skip n).isSuffixOf w = true := by
  have hp := w.view.pos_le
  refine ((w.skip n).view.isSuffixOf_iff w.view).2 ⟨source_skip w n, ?_⟩
  rw [pos_skip]
  omega

/-- A window advances by as much as is there. -/
theorem advance_natCast {n : Nat} (h : n ≤ w.view.length) :
    w.advance (n : Nat) = .ok (w.skip n) := by
  have hp := w.view.pos_le
  unfold View.length at h
  by_cases hn : n = 0
  · subst hn
    rfl
  · have hv : w.view.advance n = .ok ⟨w.view.source,
        min (w.view.pos + n) w.view.source.text.length,
        Nat.min_le_right _ _⟩ :=
      (w.view.advance_eq_ok_iff n _).2 ⟨by omega, rfl, by simp only; omega⟩
    simp [advance, skip, Number.toInt, hn, hv]

/-- What has been skipped is what lies between the windows. -/
theorem consumedSince_skip {n : Nat} (h : n ≤ w.view.length) :
    (w.skip n).view.consumedSince w.view
      = .ok (w.view.unconsumed.take n) := by
  refine ((w.skip n).view.consumedSince_eq_ok_iff w.view _).2
    ⟨w.isSuffixOf_skip n, ?_⟩
  rw [source_skip, pos_skip_of_le w h, List.drop_take,
    Nat.add_sub_cancel_left]
  rfl

/-- Reading through a window that has moved is reading through the one that
it was: what is known of the text does not change. -/
@[simp] theorem ofStretch_skip (n : Nat) :
    Value.ofStretch (w.skip n) = Value.ofStretch w := by
  funext t
  simp [Value.ofStretch]

-- ============================================================== reading

section Readable

variable {w : Window} {t : Text} (ht : w.text = .ok t)
include ht

theorem textFault?_of_text_eq : w.textFault? = none := by
  unfold text at ht
  split at ht
  · assumption
  · cases ht

theorem unconsumed_of_text_eq : w.view.unconsumed = t := by
  have htext := ht
  unfold text at htext
  rw [textFault?_of_text_eq ht] at htext
  exact Except.ok.inj htext

theorem length_of_text_eq : w.length = t.length := by
  rw [← unconsumed_of_text_eq ht, View.length_unconsumed]
  rfl

end Readable

section OverText

variable {w : Window} (hw : w.medium = .text)
include hw

theorem text_of_text : w.text = .ok w.view.unconsumed := by
  simp [text, textFault?, Medium.textless?, hw]

theorem startsWith_of_text (s : Text) :
    w.startsWith s = .ok (w.view.startsWith s) := by
  simp [startsWith, startFault?, hw]

/-- What is left is a text if it is as long and starts with it. -/
theorem unconsumed_eq_iff (t : Text) :
    w.view.unconsumed = t ↔
      w.length = t.length ∧ w.startsWith t = .ok true := by
  have hlen : w.length = w.view.unconsumed.length :=
    w.view.length_unconsumed.symm
  rw [startsWith_of_text hw, hlen]
  constructor
  · intro h
    subst h
    exact ⟨rfl, congrArg Except.ok
      ((w.view.startsWith_iff _).2 List.prefix_rfl)⟩
  · intro h
    obtain ⟨hlen, hstarts⟩ := h
    have hpre := (w.view.startsWith_iff t).1 (Except.ok.inj hstarts)
    exact (hpre.eq_of_length hlen.symm).symm

theorem nextIs_of_text (c : Char) :
    w.nextIs c = .ok (w.view.peek (1 : Nat) = some [c]) := by
  simp [nextIs, hw]

theorem nameAt_of_text :
    w.nameAt = .ok (ParserKit.nameAt w.view.unconsumed) := by
  simp [nameAt, hw]

end OverText

end Window

end ParserKit
