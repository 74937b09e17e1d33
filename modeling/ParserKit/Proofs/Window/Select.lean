/-
Indexing: what a window is asked for by a number or by a slice.

A number and a slice take two ways. A number is offset by what is left and
then counted from the position in the source; a slice is applied to the text
that is left. Both are the same as on that text alone: a number picks one of
its characters (`item_view`), a slice selects from it (`stretch_view`). So it
does not matter what lies before the window (`select_congr`).

What a slice gives may be known as a thing, if it is all of a text that is
known; values are compared here without that (`Value.unmarked`).
-/
import ParserKit.Proofs.Text.Walk
import ParserKit.Proofs.Value.Normal
import ParserKit.Proofs.Window.Access
import ParserKit.Value.Select

namespace ParserKit

variable {v w : Window} {t u : Text} {s : Slice} {i : Int} {key : Value}

-- ================================================================= a number

theorem View.index_eq (v : View) (i : Int) :
    v.index i = (Value.pick v.unconsumed i).elim (.error .indexOutside) .ok := by
  have hget : ∀ j : Nat, v.unconsumed[j]? = v.source.text[v.pos + j]? :=
    fun j => List.getElem?_drop
  unfold index Value.pick
  rw [length_unconsumed]
  dsimp only
  rw [hget]
  split
  · cases v.source.text[v.pos + (Slice.offset v.length i).toNat]? with
    | none => rfl
    | some c => rfl
  · rfl

namespace Value

/-- A number that is one of an item, from the start or from the end, picks
it: numbers count around. -/
theorem pick_of_inside {α : Type} {items : List α}
    (hlow : -(items.length : Int) ≤ i) (hhigh : i < items.length) :
    ∃ x, items[(i % (items.length : Int)).toNat]? = some x ∧
      pick items i = some x := by
  have hoffset : Slice.offset items.length i = i % (items.length : Int) := by
    unfold Slice.offset
    split
    · rw [← Int.add_emod_right, Int.emod_eq_of_lt (by omega) (by omega)]
    · rw [Int.emod_eq_of_lt (by omega) hhigh]
  have hnonneg := Int.emod_nonneg i (b := items.length) (by omega)
  have hlt := Int.emod_lt_of_pos i (b := items.length) (by omega)
  obtain ⟨x, hx⟩ : ∃ x, items[(i % (items.length : Int)).toNat]? = some x :=
    ⟨_, List.getElem?_eq_getElem (by omega)⟩
  refine ⟨x, hx, ?_⟩
  unfold pick
  rw [hoffset, if_pos hnonneg, hx]

theorem pick_of_outside {α : Type} {items : List α}
    (h : i < -(items.length : Int) ∨ (items.length : Int) ≤ i) :
    pick items i = .none := by
  have hoffset : Slice.offset items.length i < 0 ∨
      (items.length : Int) ≤ Slice.offset items.length i := by
    unfold Slice.offset
    omega
  unfold pick
  dsimp only
  split
  · exact List.getElem?_eq_none (by omega)
  · rfl

end Value

-- ================================================================ the window

/-- What was consumed between two places of a window. -/
theorem Window.consumedSince_between (w : Window) {m n : Nat} (hmn : m ≤ n)
    (hn : n ≤ w.length) : (w.skip n).view.consumedSince (w.skip m).view =
      .ok ((w.view.unconsumed.take n).drop m) := by
  have hlen : n - m ≤ (w.skip m).view.length := by
    rw [← View.length_unconsumed, unconsumed_skip, List.length_drop,
      View.length_unconsumed]
    exact Nat.sub_le_sub_right hn m
  have hskip : w.skip n = (w.skip m).skip (n - m) := by
    rw [skip_skip, Nat.add_sub_cancel' hmn]
  rw [hskip, consumedSince_skip _ hlen, unconsumed_skip, List.drop_take]

namespace Value

/-- A window is indexed by numbers as its text is. -/
theorem item_view (ht : w.text = .ok t) (i : Int) :
    (view w).item i =
      (pick t i).elim (.error .indexOutside) fun c => .ok (.text [c]) := by
  rw [item, View.index_eq, Window.unconsumed_of_text_eq ht]
  cases pick t i with
  | none => rfl
  | some c => rw [ht]; rfl

/-- A window is sliced as its text is. -/
theorem stretch_view (ht : w.text = .ok t) (s : Slice) :
    ((view w).stretch s).map unmarked =
      (s.select t).elim (.error .zeroStep) fun u => .ok (.text u) := by
  unfold stretch bare View.slice
  dsimp only
  rw [ht, Window.unconsumed_of_text_eq ht]
  cases s.select t with
  | none => rfl
  | some u =>
      show Except.ok (unmarked (if _ then _ else _)) = _
      split
      · rw [unmarked_ofStretch]
        rfl
      · rfl

/-- Whatever it is asked for, a window answers as any other does that has
the same text. -/
theorem select_congr (hv : v.text = .ok t) (hw : w.text = .ok t)
    (key : Value) : ((view v).select key).map unmarked =
      ((view w).select key).map unmarked := by
  show (selectThrough v key).map unmarked =
    (selectThrough w key).map unmarked
  unfold selectThrough
  split
  · rename_i x y z _
    rw [hv, hw]
    cases hs : asSlice x y z with
    | error e => rfl
    | ok s => exact (stretch_view hv s).trans (stretch_view hw s).symm
  · cases hi : key.bare.asIndex with
    | error e => rfl
    | ok i =>
        show ((view v).item i).map unmarked = ((view w).item i).map unmarked
        rw [item_view hv, item_view hw]

-- ================================================================== the keys

/-- The key is that slice: each member is a number, or left out. -/
def SliceOf (key : Value) (s : Slice) : Prop :=
  ∃ x y z, key.bare = .slice x y z ∧ x.asSliceMember = .ok s.start ∧
    y.asSliceMember = .ok s.stop ∧ z.asSliceMember = .ok s.step

/-- The outcome is that text, whatever it is known by. -/
def Gives (outcome : Except Fault Value) (t : Text) : Prop :=
  outcome.map unmarked = .ok (.text t)

theorem asIndex_of_number (h : key.number? = some i) :
    key.bare.asIndex = .ok i := by
  unfold asIndex
  rw [number?_bare, h]

theorem select_number (ht : w.text = .ok t) (h : key.number? = some i) :
    (view w).select key =
      (pick t i).elim (.error .indexOutside) fun c => .ok (.text [c]) := by
  rw [← item_view ht]
  show selectThrough w key = _
  unfold selectThrough
  split
  · rename_i x y z hkey
    rw [← number?_bare, hkey] at h
    cases h
  · rw [asIndex_of_number h]
    rfl

theorem select_slice_zero (ht : w.text = .ok t) (hkey : key.SliceOf s)
    (hs : s.step = some 0) : (view w).select key = .error .zeroStep := by
  obtain ⟨x, y, z, hbare, hx, hy, hz⟩ := hkey
  show selectThrough w key = _
  unfold selectThrough
  rw [hbare, ht]
  show ((asSlice x y z).bind _ : Except Fault Value) = _
  unfold asSlice
  rw [hz, hs]
  rfl

theorem select_slice (ht : w.text = .ok t) (hkey : key.SliceOf s)
    (hs : s.step ≠ some 0) :
    (view w).select key = (view w).stretch s := by
  obtain ⟨x, y, z, hbare, hx, hy, hz⟩ := hkey
  have hslice : asSlice x y z = .ok s := by
    unfold asSlice
    rw [hz, hx, hy]
    show (if s.step = some 0 then Except.error Fault.zeroStep
      else .ok s) = .ok s
    exact if_neg hs
  show selectThrough w key = _
  unfold selectThrough
  rw [hbare, ht]
  show ((asSlice x y z).bind _ : Except Fault Value) = _
  rw [hslice]
  rfl

/-- What a slice gives is what it selects from the text. -/
theorem gives_slice_iff (ht : w.text = .ok t) (hkey : key.SliceOf s) :
    Gives ((view w).select key) u ↔ s.select t = some u := by
  unfold Gives
  by_cases hs : s.step = some 0
  · rw [select_slice_zero ht hkey hs, (s.select_eq_none_iff t).2 hs]
    exact iff_of_false nofun nofun
  · rw [select_slice ht hkey hs, stretch_view ht]
    cases s.select t with
    | none => exact iff_of_false nofun nofun
    | some u' =>
        show Except.ok (Value.text u') = .ok (.text u) ↔ _
        rw [Except.ok.injEq, Value.text.injEq, Option.some.injEq]

theorem exists_gives_slice (ht : w.text = .ok t) (hkey : key.SliceOf s)
    (hs : s.step ≠ some 0) : ∃ u, Gives ((view w).select key) u := by
  obtain ⟨u, hu⟩ := Option.ne_none_iff_exists'.1
    (mt (s.select_eq_none_iff t).1 hs)
  exact ⟨u, (gives_slice_iff ht hkey).2 hu⟩

/-- A number that is refused is no index, -/
theorem className_of_select_number {e : Fault} (ht : w.text = .ok t)
    (hkey : key.number? = some i) (he : (view w).select key = .error e) :
    e.className = "IndexError".toList := by
  rw [select_number ht hkey] at he
  cases hpick : pick t i with
  | none =>
      rw [hpick] at he
      cases he
      rfl
  | some c =>
      rw [hpick] at he
      cases he

/-- and a slice that is refused has a wrong value. -/
theorem className_of_select_slice {e : Fault} (ht : w.text = .ok t)
    (hkey : key.SliceOf s) (he : (view w).select key = .error e) :
    e.className = "ValueError".toList := by
  by_cases hs : s.step = some 0
  · cases (select_slice_zero ht hkey hs).symm.trans he
    rfl
  · obtain ⟨u, hu⟩ := exists_gives_slice ht hkey hs
    rw [he] at hu
    cases hu

-- ================================================================ the result

/-- What a window is asked for by number or by slice depends on what is left
of its text alone. A number that is one of a character, from the start or from
the end, gives it, and another is refused. A slice gives the characters that
its walk visits, and is refused only if it steps by nothing. The same keys on
that text alone have the same outcomes. Cutting the text in two at any number
loses nothing, a stretch of one character is that character, and a stretch is
what was consumed between its ends. -/
theorem select_relative (ht : w.text = .ok t) :
    (∀ (key : Value) (i : Int), key.number? = some i →
      (-(w.length : Int) ≤ i → i < w.length →
        ∃ c, t[(i % (w.length : Int)).toNat]? = some c ∧
          (view w).select key = .ok (.text [c])) ∧
      (i < -(w.length : Int) ∨ (w.length : Int) ≤ i →
        (view w).select key = .error .indexOutside) ∧
      ∀ e, (view w).select key = .error e →
        e.className = "IndexError".toList) ∧
    (∀ (key : Value) (s : Slice), key.SliceOf s →
      ((view w).select key = .error .zeroStep ↔ s.step = some 0) ∧
      (∀ e, (view w).select key = .error e →
        e.className = "ValueError".toList) ∧
      (s.step ≠ some 0 → ∃ u, Gives ((view w).select key) u) ∧
      ∀ u, Gives ((view w).select key) u ↔
        ∃ step a b, s.Ends w.length step a b ∧ Slice.Walk t step b a u) ∧
    (∀ (key : Value) (id : Identity), ((view w).select key).map unmarked =
      ((view (Window.ofText id t)).select key).map unmarked) ∧
    (∀ (k : Int) (key key' : Value), key.SliceOf ⟨.none, some k, .none⟩ →
      key'.SliceOf ⟨some k, .none, .none⟩ →
        ∃ x y, Gives ((view w).select key) x ∧
          Gives ((view w).select key') y ∧ x ++ y = t) ∧
    (∀ (i : Int) (key key' : Value), key.number? = some i →
      key'.SliceOf ⟨some i, some (i + 1), .none⟩ → 0 ≤ i → i < w.length →
        ∃ c, (view w).select key = .ok (.text [c]) ∧
          Gives ((view w).select key') [c]) ∧
    ∀ (a b : Int) (key : Value), key.SliceOf ⟨some a, some b, .none⟩ →
      0 ≤ a → a ≤ b → b ≤ w.length →
        ∃ x y u, w.advance a = .ok x ∧ w.advance b = .ok y ∧
        y.view.consumedSince x.view = .ok u ∧
        Gives ((view w).select key) u := by
  rw [Window.length_of_text_eq ht]
  refine ⟨fun key i hkey => ⟨fun hlow hhigh => ?_, fun hout => ?_,
      fun e => className_of_select_number ht hkey⟩,
    fun key s hkey => ⟨?_, fun e => className_of_select_slice ht hkey,
      fun hs => ?_, fun u => ?_⟩,
    fun key id => select_congr ht rfl key, fun k key key' hkey hkey' => ?_,
    fun i key key' hkey hkey' hlow hhigh => ?_,
    fun a b key hkey ha hab hb => ?_⟩
  · obtain ⟨c, hc, hpick⟩ := pick_of_inside hlow hhigh
    refine ⟨c, hc, ?_⟩
    rw [select_number ht hkey, hpick]
    rfl
  · rw [select_number ht hkey, pick_of_outside hout]
    rfl
  · by_cases hs : s.step = some 0
    · exact iff_of_true (select_slice_zero ht hkey hs) hs
    · refine iff_of_false (fun hraised => ?_) hs
      obtain ⟨u, hu⟩ := exists_gives_slice ht hkey hs
      rw [hraised] at hu
      cases hu
  · exact exists_gives_slice ht hkey hs
  · rw [gives_slice_iff ht hkey, Slice.select_eq_some_iff]
  · obtain ⟨x, y, hx, hy, hxy⟩ := Slice.select_halves k t
    exact ⟨x, y, (gives_slice_iff ht hkey).2 hx,
      (gives_slice_iff ht hkey').2 hy, hxy⟩
  · obtain ⟨c, hc, hpick⟩ := pick_of_inside (by omega) hhigh
    rw [Int.emod_eq_of_lt hlow hhigh] at hc
    refine ⟨c, ?_, (gives_slice_iff ht hkey').2 (Slice.select_single hlow hc)⟩
    rw [select_number ht hkey, hpick]
    rfl
  · have hadvance : ∀ n : Int, 0 ≤ n → n ≤ t.length →
        w.advance n = .ok (w.skip n.toNat) := by
      intro n hn hn'
      rw [Window.advance_intCast, Window.length_of_text_eq ht]
      exact if_pos ⟨hn, hn'⟩
    refine ⟨_, _, _, hadvance a ha (by omega), hadvance b (by omega) hb,
      w.consumedSince_between (by omega) ?_, (gives_slice_iff ht hkey).2 ?_⟩
    · rw [Window.length_of_text_eq ht]
      omega
    · rw [Slice.select_within ha hab hb, Window.unconsumed_of_text_eq ht]

/-- Behind the first two of six characters: a number from the end and one that
reaches before the position; a walk down from the last character by twos; a
cut before the position; and two stretches in the middle. -/
theorem select_relative_midway :
    let w := Window.ofView ⟨⟨.number 0, "abcdef".toList⟩, 2, by decide⟩
    let down := slice (.int (-1)) .none (.int (-2))
    w.text = .ok "cdef".toList ∧
      (view w).select (.int (-1)) = .ok (.text "f".toList) ∧
      (view w).select (.int (-5)) = .error .indexOutside ∧
      Fault.indexOutside.className = "IndexError".toList ∧
      (view w).select (slice .none .none (.int 0)) = .error .zeroStep ∧
      Fault.zeroStep.className = "ValueError".toList ∧
      Gives ((view w).select down) "fd".toList ∧
      ((view (Window.ofText (.number 1) "cdef".toList)).select down).map
        unmarked = .ok (.text "fd".toList) ∧
      (∃ x y, Gives ((view w).select (slice .none (.int (-9)) .none)) x ∧
        Gives ((view w).select (slice (.int (-9)) .none .none)) y ∧
        x ++ y = "cdef".toList) ∧
      (view w).select (.int 1) = .ok (.text "d".toList) ∧
      Gives ((view w).select (slice (.int 1) (.int 2) .none)) "d".toList ∧
      ∃ x y, w.advance (1 : Int) = .ok x ∧ w.advance (3 : Int) = .ok y ∧
        y.view.consumedSince x.view = .ok "de".toList ∧
        Gives ((view w).select (slice (.int 1) (.int 3) .none)) "de".toList := by
  intro w down
  obtain ⟨hnumber, hslice, halone, hhalves, hsingle, hwithin⟩ :=
    select_relative (w := w) (t := "cdef".toList) rfl
  obtain ⟨f, hf, hlast⟩ := (hnumber (.int (-1)) (-1) rfl).1 (by decide)
    (by decide)
  obtain rfl := Option.some.inj (hf.symm.trans (by decide : _ = some 'f'))
  have hdown : down.SliceOf ⟨some (-1), .none, some (-2)⟩ :=
    ⟨_, _, _, rfl, rfl, rfl, rfl⟩
  -- From the last place, 3, down by two, and stopping before the first.
  have hwalk : Gives ((view w).select down) "fd".toList := by
    refine ((hslice down _ hdown).2.2.2 _).2 ⟨-2, 3, -1,
      .down rfl (by decide) (.fromEnd (by decide)) .leftOut, ?_⟩
    exact .visits (by decide) (by decide) rfl
      (.visits (by decide) (by decide) rfl (.stops (by decide)))
  obtain ⟨d, hd, hd'⟩ := hsingle 1 (.int 1) (slice (.int 1) (.int 2) .none) rfl
    ⟨_, _, _, rfl, rfl, rfl, rfl⟩ (by decide) (by decide)
  cases hd.symm.trans (rfl : _ = Except.ok (Value.text ['d']))
  obtain ⟨x, y, u, hx, hy, hu, hgives⟩ := hwithin 1 3
    (slice (.int 1) (.int 3) .none) ⟨_, _, _, rfl, rfl, rfl, rfl⟩ (by decide)
    (by decide) (by decide)
  cases hx
  cases hy
  cases hu.symm.trans (rfl : _ = Except.ok ['d', 'e'])
  have hout := (hnumber (.int (-5)) (-5) rfl).2.1 (Or.inl (by decide))
  obtain ⟨hzero, hvalue, -⟩ := hslice (slice .none .none (.int 0))
    ⟨.none, .none, some 0⟩ ⟨_, _, _, rfl, rfl, rfl, rfl⟩
  exact ⟨rfl, hlast, hout, (hnumber _ _ rfl).2.2 _ hout, hzero.2 rfl,
    hvalue _ (hzero.2 rfl), hwalk, (halone down (.number 1)).symm.trans hwalk,
    hhalves (-9) _ _ ⟨_, _, _, rfl, rfl, rfl, rfl⟩
      ⟨_, _, _, rfl, rfl, rfl, rfl⟩, hd, hd', _, _, rfl, rfl, rfl, hgives⟩

end Value

end ParserKit
