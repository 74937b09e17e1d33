/-
Windows over one source: moving along it, and the order that this makes.

Moving by one amount and then by another is moving by both at once, and fails
where that fails (`advance_advance_iff`). A window lies further along another
if the other can be moved to where it is. That is the case exactly if they
are over the same source and the positions are in order
(`isSuffixOf_iff_movesTo`), so the order is that of the positions, source by
source: total over one source, and with nothing to compare between two.

What lies between two windows in order is the one piece of text that the
earlier has left before what the later has left. Pieces that follow each
other therefore make up the piece from the first window to the last
(`consumedSince_consumedSince`).
-/
import ParserKit.Proofs.Window.Access

namespace ParserKit

namespace View

variable {v w x y : View} {e : Fault}

-- =============================================================== in order

theorem isSuffixOf_refl (v : View) : v.isSuffixOf v = true :=
  (v.isSuffixOf_iff v).2 ⟨rfl, Nat.le_refl _⟩

theorem isSuffixOf_antisymm (h : x.isSuffixOf y = true)
    (h' : y.isSuffixOf x = true) : x = y := by
  obtain ⟨hs, hp⟩ := (x.isSuffixOf_iff y).1 h
  obtain ⟨-, hp'⟩ := (y.isSuffixOf_iff x).1 h'
  exact ext_of hs (Nat.le_antisymm hp' hp)

/-- Views can be compared if they are over the same source, and not
otherwise. -/
theorem isSuffixOf_or_iff :
    (x.isSuffixOf y = true ∨ y.isSuffixOf x = true) ↔
      x.source = y.source := by
  rw [isSuffixOf_iff, isSuffixOf_iff]
  constructor
  · intro h
    rcases h with ⟨hs, -⟩ | ⟨hs, -⟩
    · exact hs
    · exact hs.symm
  · intro hs
    rcases Nat.le_total y.pos x.pos with hp | hp
    · exact Or.inl ⟨hs, hp⟩
    · exact Or.inr ⟨hs.symm, hp⟩

-- ============================================================ what is between

theorem consumedSince_eq_error_iff :
    x.consumedSince y = .error e ↔
      x.isSuffixOf y = false ∧ e = .notPreceding := by
  unfold consumedSince
  split
  case isTrue h => simp [h]
  case isFalse h => simp [h, eq_comm]

/-- What lies between the first of three views and the last is what lies
between the first two and then what lies between the last two. -/
theorem consumedSince_consumedSince (h : w.isSuffixOf x = true)
    (h' : x.isSuffixOf y = true) :
    ∃ s t, x.consumedSince y = .ok s ∧ w.consumedSince x = .ok t ∧
      w.consumedSince y = .ok (s ++ t) := by
  obtain ⟨s, hs, hsy⟩ := consumedSince_append h'
  obtain ⟨t, ht, htx⟩ := consumedSince_append h
  obtain ⟨u, hu, huy⟩ := consumedSince_append (isSuffixOf_trans h h')
  have hcut : u ++ w.unconsumed = s ++ t ++ w.unconsumed := by
    rw [huy, ← hsy, ← htx, List.append_assoc]
  rw [List.append_cancel_right hcut] at hu
  exact ⟨s, t, hs, ht, hu⟩

end View

namespace Window

variable {w x y r : Window}

-- ================================================================== moving

theorem length_skip (w : Window) (n : Nat) :
    (w.skip n).length = w.length - n := by
  show (w.skip n).view.length = w.view.length - n
  rw [← View.length_unconsumed, unconsumed_skip, List.length_drop,
    View.length_unconsumed]

/-- Moving twice is moving by the sum. -/
theorem advance_advance_iff (w r : Window) (a b : Nat) :
    (∃ u, w.advance (a : Nat) = .ok u ∧ u.advance (b : Nat) = .ok r) ↔
      w.advance ((a + b : Nat) : Nat) = .ok r := by
  rw [advance_natCast_eq_ok_iff]
  constructor
  · intro h
    obtain ⟨u, hu, hr⟩ := h
    obtain ⟨ha, rfl⟩ := advance_natCast_eq_ok_iff.1 hu
    obtain ⟨hb, rfl⟩ := advance_natCast_eq_ok_iff.1 hr
    rw [length_skip] at hb
    exact ⟨by omega, w.skip_skip a b⟩
  · intro h
    obtain ⟨hab, rfl⟩ := h
    have ha : a ≤ w.length := by omega
    refine ⟨w.skip a, w.advance_natCast ha, ?_⟩
    rw [advance_natCast_eq_ok_iff, length_skip, skip_skip]
    exact ⟨by omega, rfl⟩

-- ============================================================ further along

/-- Moving by that much leads to where the other window is. -/
def MovesTo (y : Window) (n : Nat) (x : Window) : Prop :=
  ∃ r, y.advance (n : Nat) = .ok r ∧ r.view.source = x.view.source ∧
    r.view.pos = x.view.pos

theorem movesTo_iff {n : Nat} :
    y.MovesTo n x ↔
      x.view.source = y.view.source ∧ x.view.pos = y.view.pos + n := by
  constructor
  · intro h
    obtain ⟨r, hr, hs, hp⟩ := h
    obtain ⟨hn, rfl⟩ := advance_natCast_eq_ok_iff.1 hr
    rw [source_skip] at hs
    rw [y.pos_skip_of_le hn] at hp
    exact ⟨hs.symm, hp.symm⟩
  · intro h
    obtain ⟨hs, hp⟩ := h
    have hx := x.view.pos_le
    have hn : n ≤ y.view.length := by
      rw [hs] at hx
      unfold View.length
      omega
    refine ⟨y.skip n, y.advance_natCast hn, ?_, ?_⟩
    · rw [source_skip, hs]
    · rw [y.pos_skip_of_le hn, hp]

/-- To be further along is to be where the other can be moved to. -/
theorem isSuffixOf_iff_movesTo :
    x.isSuffixOf y = true ↔ ∃ n : Nat, y.MovesTo n x := by
  simp only [movesTo_iff]
  refine (x.view.isSuffixOf_iff y.view).trans ?_
  constructor
  · intro h
    obtain ⟨hs, hp⟩ := h
    exact ⟨x.view.pos - y.view.pos, hs, by omega⟩
  · intro h
    obtain ⟨n, hs, hp⟩ := h
    exact ⟨hs, by omega⟩

/-- There is only one amount by which a window can be moved there. -/
theorem MovesTo.unique {m n : Nat} (hm : y.MovesTo m x) (hn : y.MovesTo n x) :
    m = n := by
  have hp := (movesTo_iff.1 hm).2
  have hp' := (movesTo_iff.1 hn).2
  omega

-- =============================================================== the result

/-- Windows along one source. To move twice is to move by the sum, with the
same end. One window is further along another exactly if the other moves to
where it is, by one amount and no other. This is an order, up to how a
position is written: it compares any two windows over one source, and none
over two sources, whatever their texts. The text between two windows is
refused if they are not in order. Otherwise it is what the earlier has left
before what the later has left, and the texts between one window and the next
make up the text between the first and the last. -/
theorem suffix_order :
    (∀ (w r : Window) (a b : Nat),
      (∃ u, w.advance (a : Nat) = .ok u ∧ u.advance (b : Nat) = .ok r) ↔
        w.advance ((a + b : Nat) : Nat) = .ok r) ∧
    (∀ x y : Window,
      (x.isSuffixOf y = true ↔ ∃ n : Nat, y.MovesTo n x) ∧
        ∀ m n : Nat, y.MovesTo m x → y.MovesTo n x → m = n) ∧
    (∀ x : Window, x.isSuffixOf x = true) ∧
    (∀ w x y : Window, w.isSuffixOf x = true → x.isSuffixOf y = true →
      w.isSuffixOf y = true) ∧
    (∀ x y : Window, x.isSuffixOf y = true → y.isSuffixOf x = true →
      x.view.source = y.view.source ∧ x.view.pos = y.view.pos) ∧
    (∀ x y : Window, (x.isSuffixOf y = true ∨ y.isSuffixOf x = true) ↔
      x.view.source = y.view.source) ∧
    (∀ (x y : Window) (e : Fault), x.view.consumedSince y.view = .error e ↔
      x.isSuffixOf y = false ∧ e = .notPreceding) ∧
    (∀ (x y : Window) (e : Fault), x.view.consumedSince y.view = .error e →
      e.className = "ValueError".toList) ∧
    (∀ x y : Window, x.medium = .text → y.medium = .text →
      x.isSuffixOf y = true → ∃ t s u,
        x.view.consumedSince y.view = .ok t ∧ x.text = .ok s ∧
          y.text = .ok u ∧ t ++ s = u) ∧
    ∀ w x y : Window, w.isSuffixOf x = true → x.isSuffixOf y = true →
      ∃ s t, x.view.consumedSince y.view = .ok s ∧
        w.view.consumedSince x.view = .ok t ∧
        w.view.consumedSince y.view = .ok (s ++ t) := by
  refine ⟨advance_advance_iff, fun x y => ?_,
    fun x => x.view.isSuffixOf_refl, fun w x y h h' => ?_,
    fun x y h h' => ?_, fun x y => View.isSuffixOf_or_iff,
    fun x y e => View.consumedSince_eq_error_iff, fun x y e he => ?_,
    fun x y hx hy h => ?_,
    fun w x y h h' => View.consumedSince_consumedSince h h'⟩
  · exact ⟨isSuffixOf_iff_movesTo, fun m n hm hn => hm.unique hn⟩
  · exact View.isSuffixOf_trans h h'
  · have hview : x.view = y.view := View.isSuffixOf_antisymm h h'
    rw [hview]
    exact ⟨rfl, rfl⟩
  · obtain ⟨-, rfl⟩ := View.consumedSince_eq_error_iff.1 he
    rfl
  · obtain ⟨t, ht, happ⟩ := View.consumedSince_append h
    exact ⟨t, _, _, ht, text_of_text hx, text_of_text hy, happ⟩

/-- Three windows along one text, the last of them at its end, and one over a
text with the same characters. -/
theorem suffix_order_three :
    let s : Source := ⟨.number 0, "abcde".toList⟩
    let y := Window.ofView ⟨s, 1, by decide⟩
    let x := Window.ofView ⟨s, 3, by decide⟩
    let w := Window.ofView ⟨s, 5, by decide⟩
    let z := Window.ofView ⟨⟨.number 1, "abcde".toList⟩, 3, by decide⟩
    x.medium = .text ∧ y.medium = .text ∧ w.isSuffixOf x = true ∧
      x.isSuffixOf y = true ∧ w.isSuffixOf y = true ∧
      (∀ n : Nat, y.MovesTo n x → n = 2) ∧
      y.advance (4 : Nat) = .ok w ∧
      w.view.consumedSince y.view = .ok ("bc".toList ++ "de".toList) ∧
      (∃ t s u, x.view.consumedSince y.view = .ok t ∧ x.text = .ok s ∧
        y.text = .ok u ∧ t ++ s = u) ∧
      z.view.unconsumed = x.view.unconsumed ∧
      z.view.consumedSince y.view = .error .notPreceding ∧
      Fault.notPreceding.className = "ValueError".toList ∧
      ¬ (z.isSuffixOf y = true ∨ y.isSuffixOf z = true) := by
  intro s y x w z
  obtain ⟨hmove, hleads, -, htrans, -, hcompare, hrefused, hvalue, htext,
    hpieces⟩ := suffix_order
  have hwx : w.isSuffixOf x = true := rfl
  have hxy : x.isSuffixOf y = true := rfl
  have htwo : y.MovesTo 2 x := ⟨x, rfl, rfl, rfl⟩
  obtain ⟨t, u, ht, hu, htu⟩ := hpieces w x y hwx hxy
  cases ht
  cases hu
  have hother : z.view.source ≠ y.view.source := by decide
  have hnot := (hrefused z y .notPreceding).2 ⟨rfl, rfl⟩
  refine ⟨rfl, rfl, hwx, hxy, htrans w x y hwx hxy, fun n hn => ?_, ?_, htu,
    htext x y rfl rfl hxy, rfl, hnot, hvalue z y _ hnot,
    mt (hcompare z y).1 hother⟩
  · exact (hleads x y).2 n 2 hn htwo
  · exact (hmove y w 2 2).1 ⟨x, rfl, rfl⟩

end Window

end ParserKit
