/-
Reading numerals back.

A numeral does not show where it ends. In print it always stands before a
character that is in no numeral, and the first such character is its end
(`append_cons_inj`). Nothing is lost between there and the start: numbers that
are written differently look different (`Number.render_injective`), where a
truth value is not the number that it counts as.
-/
import ParserKit.Number

namespace ParserKit

variable {m n : Int} {c : Char}

namespace Text

variable {s s' t u : Text}

/-- A text ends where a character first stands that is not in it. -/
theorem append_cons_inj (hs : c ∉ s) (hs' : c ∉ s')
    (h : s ++ c :: t = s' ++ c :: u) : s = s' ∧ t = u := by
  induction s generalizing s' with
  | nil =>
      cases s' with
      | nil => exact ⟨rfl, (List.cons.inj h).2⟩
      | cons d s' =>
          obtain ⟨rfl, -⟩ := List.cons.inj h
          exact absurd (List.mem_cons_self ..) hs'
  | cons d s ih =>
      cases s' with
      | nil =>
          obtain ⟨rfl, -⟩ := List.cons.inj h
          exact absurd (List.mem_cons_self ..) hs
      | cons d' s' =>
          obtain ⟨rfl, hrest⟩ := List.cons.inj h
          obtain ⟨rfl, rfl⟩ := ih (List.not_mem_of_not_mem_cons hs)
            (List.not_mem_of_not_mem_cons hs') hrest
          exact ⟨rfl, rfl⟩

-- ================================================================ decimals

theorem digit_or_minus_of_mem_decimal (h : c ∈ decimal n) :
    c.isDigit = true ∨ c = '-' := by
  cases n with
  | ofNat n =>
      exact Or.inl (Nat.isDigit_of_mem_toDigits (by omega) (by omega) h)
  | negSucc n =>
      rcases List.mem_cons.1 h with hc | hc
      · exact Or.inr hc
      · exact Or.inl (Nat.isDigit_of_mem_toDigits (by omega) (by omega) hc)

theorem toDigits_injective {m n : Nat}
    (h : Nat.toDigits 10 m = Nat.toDigits 10 n) : m = n := by
  rw [← @Nat.ofDigitChars_ten_toDigits m, h, Nat.ofDigitChars_ten_toDigits]

theorem minus_notMem_toDigits (n : Nat) : '-' ∉ Nat.toDigits 10 n := by
  intro h
  cases Nat.isDigit_of_mem_toDigits (by omega) (by omega) h

theorem decimal_injective (h : decimal m = decimal n) : m = n := by
  have hminus : ∀ {n : Nat} {t : Text}, Nat.toDigits 10 n ≠ '-' :: t := by
    intro n t h
    exact minus_notMem_toDigits n (h ▸ List.mem_cons_self ..)
  cases m with
  | ofNat m =>
      cases n with
      | ofNat n => exact congrArg Int.ofNat (toDigits_injective h)
      | negSucc n => exact absurd h hminus
  | negSucc m =>
      cases n with
      | ofNat n => exact absurd h.symm hminus
      | negSucc n =>
          have hnext := toDigits_injective (List.cons.inj h).2
          rw [Nat.succ.inj hnext]

end Text

namespace Number

-- ================================================================= numbers

theorem notMem_render {n : Number} (hdigit : c.isDigit = false)
    (hletter : c.isAlpha = false) (hminus : c ≠ '-') : c ∉ n.render := by
  intro h
  cases n with
  | int n =>
      rcases Text.digit_or_minus_of_mem_decimal h with hc | hc
      · exact absurd (hc.symm.trans hdigit) (by decide)
      · exact hminus hc
  | truth b =>
      have hall : (renderTruth b).all Char.isAlpha = true := by
        cases b <;> rfl
      have hc := List.all_eq_true.1 hall c h
      exact absurd (hc.symm.trans hletter) (by decide)

/-- A number is what it counts as, and how it is written. -/
theorem eq_iff {m n : Number} :
    m = n ↔ m.toInt = n.toInt ∧ m.isTruth = n.isTruth := by
  refine ⟨fun h => by rw [h]; exact ⟨rfl, rfl⟩, fun h => ?_⟩
  obtain ⟨hcount, hwritten⟩ := h
  cases m with
  | int m =>
      cases n with
      | int n => exact congrArg int hcount
      | truth b => cases hwritten
  | truth b =>
      cases n with
      | int n => cases hwritten
      | truth b' =>
          have htruth : ∀ b b' : Bool, ofTruth b = ofTruth b' → b = b' := by
            decide
          exact congrArg truth (htruth b b' hcount)

/-- No truth value is written like a numeral. -/
theorem renderTruth_ne_decimal (b : Bool) (n : Int) :
    renderTruth b ≠ Text.decimal n := by
  intro h
  have hletter : ∃ c ∈ renderTruth b, c.isDigit = false ∧ c ≠ '-' := by
    cases b
    · exact ⟨'F', by decide⟩
    · exact ⟨'T', by decide⟩
  obtain ⟨c, hc, hdigit, hminus⟩ := hletter
  rw [h] at hc
  rcases Text.digit_or_minus_of_mem_decimal hc with hc | hc
  · exact absurd (hc.symm.trans hdigit) (by decide)
  · exact hminus hc

theorem render_injective {m n : Number} (h : m.render = n.render) : m = n := by
  cases m with
  | int m =>
      cases n with
      | int n => exact congrArg Number.int (Text.decimal_injective h)
      | truth b => exact absurd h.symm (renderTruth_ne_decimal b m)
  | truth b =>
      cases n with
      | int n => exact absurd h (renderTruth_ne_decimal b n)
      | truth b' =>
          have htruth : ∀ b b' : Bool,
              renderTruth b = renderTruth b' → b = b' := by
            decide
          exact congrArg Number.truth (htruth b b' h)

end Number

end ParserKit
