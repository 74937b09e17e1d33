/-
Six ways to read from a view, and that they agree.

Whether characters are there can be asked (`hasChars`), tried out by reading
ahead (`peek`) or by moving (`advance`), and what is there can be read ahead,
cut out by a slice, or read off between two views. Each of these computes in
its own way from the position and the source. What they have in common is
said once for each of them, in terms of what is unconsumed: reading ahead
takes a beginning of it (`peek_of_hasChars`), and so does a slice
(`slice_to`), while moving drops one (`advance_intCast`).

# Negative amounts

Only moving refuses them. Reading ahead takes a negative amount for an end
before the position. That leaves nothing to read, as long as such an end lies
in the source. If it lies before the source, it counts from the end of the
source once more, and may well be behind the position again: what is read
then is a beginning of what is unconsumed like any other (`reach`).
-/
import Mathlib.Data.List.TFAE
import ParserKit.Proofs.Text.Slice
import ParserKit.Proofs.Window.Skip

namespace ParserKit

namespace View

variable (v : View) {n : Int} {p : Text}

-- ============================================================ reading ahead

/-- How many characters reading ahead takes, if it takes any. -/
def reach (n : Int) : Nat :=
  if 0 ≤ n then n.toNat
  else if -(v.pos : Int) ≤ n then 0
  else (v.source.text.length + n).toNat

theorem hasChars_iff : v.hasChars n = true ↔ n ≤ v.length := by
  have hp := v.pos_le
  unfold hasChars length
  rw [decide_eq_true_eq]
  omega

/-- What is read ahead is the beginning of what is unconsumed. -/
theorem peek_of_hasChars (h : v.hasChars n = true) :
    v.peek n = some (v.unconsumed.take (v.reach n)) := by
  have hp := v.pos_le
  have hn := v.hasChars_iff.1 h
  unfold length at hn
  have hstop : (Slice.clamp 0 v.source.text.length v.source.text.length
      (v.pos + n)).toNat - v.pos = v.reach n := by
    unfold Slice.clamp Slice.offset reach
    by_cases h0 : 0 ≤ n
    · rw [if_pos h0, if_neg (by omega)]
      omega
    · by_cases h1 : -(v.pos : Int) ≤ n
      · rw [if_neg h0, if_pos h1, if_neg (by omega)]
        omega
      · rw [if_neg h0, if_neg h1, if_pos (by omega)]
        omega
  unfold peek unconsumed
  dsimp only
  rw [if_pos h, List.drop_take, hstop]

theorem peek_ne_none_iff : v.peek n ≠ none ↔ n ≤ v.length := by
  rw [← hasChars_iff]
  constructor
  · intro hpeek
    by_cases h : v.hasChars n = true
    · exact h
    · exact absurd (if_neg h) hpeek
  · intro h
    rw [peek_of_hasChars v h]
    exact Option.some_ne_none _

theorem peek_natCast_eq_some_iff {n : Nat} :
    v.peek n = some p ↔ p <+: v.unconsumed ∧ p.length = n := by
  rw [peek_natCast, ← length_unconsumed]
  constructor
  · intro h
    split at h
    case isFalse => cases h
    case isTrue hn =>
      cases h
      exact ⟨List.take_prefix n _, List.length_take_of_le hn⟩
  · intro h
    obtain ⟨hpre, rfl⟩ := h
    rw [if_pos hpre.length_le, ← List.prefix_iff_eq_take.1 hpre]

-- ================================================================= slicing

/-- A slice from the start takes a beginning, or all there is. -/
theorem slice_to (n : Nat) :
    v.slice ⟨none, some n, none⟩ = .ok (v.unconsumed.take n) := by
  have hstop : (Slice.clamp 0 v.unconsumed.length v.unconsumed.length n).toNat
      = min n v.unconsumed.length := by
    unfold Slice.clamp Slice.offset
    rw [if_neg (by omega)]
    omega
  unfold slice
  rw [Slice.select_one rfl]
  show Except.ok ((v.unconsumed.take (Slice.clamp 0 _ _ _).toNat).drop 0) = _
  rw [hstop, ← List.take_eq_take_min, List.drop_zero]

theorem slice_to_eq_ok_iff : v.slice ⟨none, some p.length, none⟩ = .ok p ↔
    p <+: v.unconsumed := by
  rw [slice_to, Except.ok.injEq, List.prefix_iff_eq_take]
  exact eq_comm

-- ========================================================= negative amounts

/-- A negative amount reads nothing, or as much as it leaves of the source. -/
theorem length_take_reach (hn : n < 0) :
    (-(v.pos : Int) ≤ n → v.unconsumed.take (v.reach n) = []) ∧
      (n < -(v.pos : Int) → ((v.unconsumed.take (v.reach n)).length : Int) =
        max 0 (v.source.text.length + n)) := by
  have hp := v.pos_le
  constructor
  · intro h
    rw [reach, if_neg (by omega), if_pos h, List.take_zero]
  · intro h
    rw [reach, if_neg (by omega), if_neg (by omega), List.length_take,
      length_unconsumed, length]
    omega

end View

namespace Window

variable {w r : Window} {n : Int} {p : Text}

-- ================================================================== moving

/-- Moving is refused if the amount is negative or not there. -/
theorem advance_intCast (w : Window) (n : Int) :
    w.advance n =
      if 0 ≤ n ∧ n ≤ w.length then .ok (w.skip n.toNat)
      else .error (.cannotAdvance n w.length) := by
  by_cases h : 0 ≤ n ∧ n ≤ w.length
  · obtain ⟨m, rfl⟩ := Int.eq_ofNat_of_zero_le h.1
    rw [if_pos h]
    exact w.advance_natCast (Int.ofNat_le.1 h.2)
  · have hp := w.view.pos_le
    have hlen : w.length = w.view.source.text.length - w.view.pos := rfl
    have hn : ¬ n = 0 := by
      intro h0
      exact h ⟨Int.le_of_eq h0.symm, h0 ▸ Int.natCast_nonneg _⟩
    have hv : w.view.advance n = .error (.cannotAdvance n w.view.length) :=
      dif_neg fun hthere => h ⟨hthere.1, by omega⟩
    rw [if_neg h]
    simp only [advance, Number.toInt, if_neg hn, hv]

theorem advance_natCast_eq_ok_iff {n : Nat} :
    w.advance (n : Nat) = .ok r ↔ n ≤ w.length ∧ r = w.skip n := by
  show w.advance ((n : Int) : Number) = _ ↔ _
  rw [advance_intCast]
  constructor
  · intro h
    split at h
    case isFalse => cases h
    case isTrue hn =>
      cases h
      exact ⟨Int.ofNat_le.1 hn.2, rfl⟩
  · intro h
    obtain ⟨hn, rfl⟩ := h
    exact if_pos ⟨Int.natCast_nonneg n, Int.ofNat_le.2 hn⟩

-- ============================================================== the accesses

/-- Characters are there if any of the ways to get at them finds them. -/
theorem there_tfae (w : Window) (n : Nat) :
    List.TFAE [w.hasChars n = true, w.view.peek n ≠ none,
      ∃ r, w.advance (n : Nat) = .ok r, n ≤ w.length] := by
  apply List.tfae_of_forall (n ≤ w.length)
  simp only [List.forall_mem_cons]
  refine ⟨w.view.hasChars_natCast n, ?_, ?_, trivial, List.forall_mem_nil _⟩
  · rw [View.peek_ne_none_iff]
    exact Int.ofNat_le
  · constructor
    · intro h
      obtain ⟨r, hr⟩ := h
      exact (advance_natCast_eq_ok_iff.1 hr).1
    · intro h
      exact ⟨_, w.advance_natCast h⟩

/-- What a text begins with can be asked, read ahead and cut out. -/
theorem startsWith_tfae (hw : w.medium = .text) (p : Text) :
    List.TFAE [w.startsWith p = .ok true, w.view.peek p.length = some p,
      w.view.slice ⟨none, some p.length, none⟩ = .ok p,
      ∃ t, w.text = .ok t ∧ p <+: t] := by
  apply List.tfae_of_forall (p <+: w.view.unconsumed)
  simp only [List.forall_mem_cons]
  refine ⟨?_, ?_, w.view.slice_to_eq_ok_iff, ?_, List.forall_mem_nil _⟩
  · rw [startsWith_of_text hw, Except.ok.injEq, View.startsWith_iff]
  · rw [View.peek_natCast_eq_some_iff]
    exact and_iff_left rfl
  · rw [text_of_text hw]
    constructor
    · intro h
      obtain ⟨t, ht, hpre⟩ := h
      cases ht
      exact hpre
    · intro hpre
      exact ⟨_, rfl, hpre⟩

-- =============================================================== the result

/-- The ways to get at what is ahead agree. An amount that is not negative is
there for all of them or for none, and where it is there, they come to one
text of that length: read ahead, cut out, passed over, or asked for. What a
text begins with is the same for all of them too. A negative amount is refused
by moving alone, and reading ahead by it takes a beginning of what is left:
nothing, or, if the amount reaches before the source, as much as it leaves of
the source. -/
theorem access_agree (w : Window) (hw : w.medium = .text) :
    (∀ n : Nat,
      List.TFAE [w.hasChars n = true, w.view.peek n ≠ none,
        ∃ r, w.advance (n : Nat) = .ok r, n ≤ w.length] ∧
      (n ≤ w.length → ∃ t r u, t.length = n ∧ w.view.peek n = some t ∧
        w.view.slice ⟨none, some n, none⟩ = .ok t ∧
        w.advance (n : Nat) = .ok r ∧ r.view.consumedSince w.view = .ok t ∧
        w.startsWith t = .ok true ∧
        r.text = .ok u ∧ w.text = .ok (t ++ u))) ∧
    (∀ p : Text,
      List.TFAE [w.startsWith p = .ok true, w.view.peek p.length = some p,
        w.view.slice ⟨none, some p.length, none⟩ = .ok p,
        ∃ t, w.text = .ok t ∧ p <+: t]) ∧
    ∀ n : Int, n < 0 →
      w.advance n = .error (.cannotAdvance n w.length) ∧
      (Fault.cannotAdvance n w.length).className = "ValueError".toList ∧
      w.hasChars n = true ∧
      ∃ t u, w.view.peek n = some t ∧ w.text = .ok (t ++ u) ∧
        (-(w.view.pos : Int) ≤ n → t = []) ∧
        (n < -(w.view.pos : Int) →
          (t.length : Int) = max 0 (w.view.source.text.length + n)) := by
  refine ⟨fun n => ⟨w.there_tfae n, fun hn => ?_⟩, startsWith_tfae hw,
    fun n hn => ?_⟩
  · have hlen : (w.view.unconsumed.take n).length = n := by
      rw [List.length_take, View.length_unconsumed]
      exact Nat.min_eq_left hn
    have hpeek : w.view.peek n = some (w.view.unconsumed.take n) :=
      w.view.peek_natCast_eq_some_iff.2 ⟨List.take_prefix n _, hlen⟩
    have hstart : w.startsWith (w.view.unconsumed.take n) = .ok true := by
      rw [startsWith_of_text hw]
      exact congrArg Except.ok
        ((w.view.startsWith_iff _).2 (List.take_prefix n _))
    refine ⟨_, w.skip n, w.view.unconsumed.drop n, hlen, hpeek,
      w.view.slice_to n, w.advance_natCast hn, w.consumedSince_skip hn,
      hstart, ?_, ?_⟩
    · rw [text_of_text ((w.medium_skip n).trans hw), unconsumed_skip]
    · rw [text_of_text hw, List.take_append_drop]
  · have hchars : w.view.hasChars n = true :=
      w.view.hasChars_iff.2 (by omega)
    obtain ⟨hnothing, hwrapped⟩ := w.view.length_take_reach hn
    refine ⟨?_, rfl, hchars, _, w.view.unconsumed.drop (w.view.reach n),
      w.view.peek_of_hasChars hchars, ?_, hnothing, hwrapped⟩
    · rw [advance_intCast, if_neg (by omega)]
    · rw [text_of_text hw, List.take_append_drop]

/-- In the middle of a text: two characters, which are there; four, which are
not; and three characters before the position, which is one before the
source, so that they end one before the end of the source. -/
theorem access_agree_wrapped :
    let w := Window.ofView ⟨⟨.number 0, "abcdef".toList⟩, 2, by decide⟩
    w.medium = .text ∧
      (∃ r, w.advance (2 : Nat) = .ok r ∧
        r.view.consumedSince w.view = .ok "cd".toList) ∧
      w.view.peek (5 : Nat) = none ∧
      w.startsWith "cde".toList = .ok true ∧
      w.advance (-3 : Int) = .error (.cannotAdvance (-3 : Int) 4) ∧
      (Fault.cannotAdvance (-3 : Int) 4).className = "ValueError".toList ∧
      w.view.peek (-3) = some "cde".toList ∧
      ∃ t, w.view.peek (-3) = some t ∧ t.length = 3 := by
  intro w
  obtain ⟨hamounts, hstarts, hnegative⟩ := access_agree w rfl
  obtain ⟨t, r, u, hlen, hpeek, -, hadvance, hconsumed, -⟩ :=
    (hamounts 2).2 (by decide)
  have hcd : t = "cd".toList := Option.some.inj (hpeek.symm.trans rfl)
  have hnone : w.view.peek (5 : Nat) = none := by
    by_cases h : w.view.peek (5 : Nat) = none
    · exact h
    · exact absurd (((hamounts 5).1.out 1 3).1 h) (by decide)
  obtain ⟨hrefused, hvalue, -, t', -, hpeek', -, -, hlen'⟩ :=
    hnegative (-3) (by decide)
  have hcde : w.startsWith "cde".toList = .ok true :=
    ((hstarts "cde".toList).out 0 1).2 rfl
  refine ⟨rfl, ⟨r, hadvance, hcd ▸ hconsumed⟩, hnone, hcde, hrefused, hvalue,
    rfl, t', hpeek', ?_⟩
  exact Int.ofNat.inj (hlen' (by decide))

end Window

end ParserKit
