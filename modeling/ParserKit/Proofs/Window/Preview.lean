/-
What a message tells of the input that is left.

A message shows what is left in quotes, the whole of it or as much as the
limit allows and three dots. The dots are characters like any other, and a
text may end in them itself. Still no text that is shown whole looks like one
that is cut: it is at most as long as the limit, and a cut one, with its dots,
is longer. So two messages are the same exactly if the texts are, or are both
cut and begin alike (`ShownAlike`).

Nothing left has a message of its own. It is no preview, since a preview
begins with a mark.

A view in print shows its position, as it was written, and the length of its
source as well. They end at characters that are in no numeral, and the preview
ends where its quotes do.
-/
import Mathlib.Data.List.TFAE
import ParserKit.Proofs.Text.Numeral
import ParserKit.Proofs.Text.Quoted
import ParserKit.Proofs.Window.Skip
import ParserKit.Value.Obstacle

namespace ParserKit

variable {v w : Window} {t u : Text}

namespace View

-- ================================================================ previews

/-- The texts are the same, or go on beyond what is shown of them, which is
the same. -/
def ShownAlike (t u : Text) : Prop :=
  t = u ∨ previewLimit < t.length ∧ previewLimit < u.length ∧
    t.take previewLimit = u.take previewLimit

theorem length_previewText (t : Text) :
    (previewText t).length =
      if t.length ≤ previewLimit then t.length else previewLimit + 3 := by
  unfold previewText
  split
  · rfl
  · rw [List.length_append, List.length_take_of_le (by omega)]
    rfl

theorem previewText_eq_iff : previewText t = previewText u ↔ ShownAlike t u := by
  constructor
  · intro h
    have hlen := congrArg List.length h
    rw [length_previewText, length_previewText] at hlen
    unfold previewText at h
    by_cases ht : t.length ≤ previewLimit
    · by_cases hu : u.length ≤ previewLimit
      · rw [if_pos ht, if_pos hu] at h
        exact Or.inl h
      · rw [if_pos ht, if_neg hu] at hlen
        omega
    · by_cases hu : u.length ≤ previewLimit
      · rw [if_neg ht, if_pos hu] at hlen
        omega
      · rw [if_neg ht, if_neg hu] at h
        exact Or.inr ⟨by omega, by omega, List.append_cancel_right h⟩
  · intro h
    rcases h with rfl | ⟨ht, hu, htake⟩
    · rfl
    · unfold previewText
      rw [if_neg (by omega), if_neg (by omega), htake]

theorem shownAlike_comm : ShownAlike t u ↔ ShownAlike u t := by
  rw [← previewText_eq_iff, ← previewText_eq_iff]
  exact eq_comm

theorem shownAlike_nil_iff : ShownAlike t [] ↔ t = [] := by
  unfold ShownAlike
  constructor
  · intro h
    rcases h with h | ⟨-, hlong, -⟩
    · exact h
    · exact absurd hlong (Nat.not_lt_zero _)
  · exact Or.inl

theorem preview_append_eq_iff {v w : View} : v.preview ++ t = w.preview ++ u ↔
    ShownAlike v.unconsumed w.unconsumed ∧ t = u := by
  unfold preview
  rw [← previewText_eq_iff]
  constructor
  · exact Quoted.encode_append_inj
  · intro h
    rw [h.1, h.2]

theorem preview_eq_iff {v w : View} :
    v.preview = w.preview ↔ ShownAlike v.unconsumed w.unconsumed := by
  have h := @preview_append_eq_iff [] [] v w
  rw [List.append_nil, List.append_nil] at h
  exact h.trans (and_iff_left rfl)

/-- A preview begins with a mark, which is no letter. -/
theorem preview_ne_end (v : View) :
    v.preview ≠ "unexpected end of input".toList := by
  intro h
  obtain ⟨hmark, -⟩ := List.cons.inj h
  rcases Quoted.isMark_mark (previewText v.unconsumed) with hq | hq
  · exact absurd (hq.symm.trans hmark) (by decide)
  · exact absurd (hq.symm.trans hmark) (by decide)

end View

namespace Fault

-- ================================================================ messages

/-- What the message of a failed parse says of the input. -/
theorem message_unparsed_eq_end_iff :
    (unparsed w).message =
        "Could not parse input: unexpected end of input".toList ↔
      w.view.unconsumed = [] := by
  rw [← View.isEmpty_iff]
  show "Could not parse input: ".toList ++ _ =
    "Could not parse input: ".toList ++ "unexpected end of input".toList ↔ _
  rw [List.append_cancel_left_eq]
  by_cases h : w.isEmpty = true
  · rw [if_pos h]
    exact iff_of_true rfl h
  · rw [if_neg h]
    exact iff_of_false w.view.preview_ne_end h

theorem message_unparsed_of_ne_nil (h : w.view.unconsumed ≠ []) :
    (unparsed w).message =
      "Could not parse input: ".toList ++ w.view.preview := by
  have hempty : ¬ w.isEmpty = true := mt w.view.isEmpty_iff.1 h
  show "Could not parse input: ".toList ++ (if _ then _ else _) = _
  rw [if_neg hempty]

/-- The message of a failed parse tells what is left, as far as it is
shown. -/
theorem message_unparsed_eq_iff :
    (unparsed v).message = (unparsed w).message ↔
      View.ShownAlike v.view.unconsumed w.view.unconsumed := by
  have hnothing : ∀ {v w : Window}, w.view.unconsumed = [] →
      ((unparsed v).message = (unparsed w).message ↔
        View.ShownAlike v.view.unconsumed w.view.unconsumed) := by
    intro v w hw
    rw [message_unparsed_eq_end_iff.2 hw, hw, View.shownAlike_nil_iff]
    exact message_unparsed_eq_end_iff
  by_cases hw : w.view.unconsumed = []
  · exact hnothing hw
  by_cases hv : v.view.unconsumed = []
  · rw [eq_comm, View.shownAlike_comm]
    exact hnothing hv
  · rw [message_unparsed_of_ne_nil hv, message_unparsed_of_ne_nil hw,
      List.append_cancel_left_eq]
    exact View.preview_eq_iff

end Fault

namespace Value

-- ================================================================ in print

theorem render_failure_eq_iff :
    (failure (view v)).render = (failure (view w)).render ↔
      View.ShownAlike v.view.unconsumed w.view.unconsumed := by
  have hform : ∀ w : Window, (failure (view w)).render =
      "<Failure ".toList ++ (w.view.preview ++ ['>']) := by
    intro w
    exact List.append_assoc _ _ _
  rw [hform, hform, List.append_cancel_left_eq, View.preview_append_eq_iff]
  exact and_iff_left rfl

/-- A view in print tells its position as it is written, the length of its
source, and what it has left, as far as it is shown. -/
theorem render_view_eq_iff :
    (view v).render = (view w).render ↔
      View.ShownAlike v.view.unconsumed w.view.unconsumed ∧ v.pos = w.pos ∧
        v.view.source.text.length = w.view.source.text.length := by
  have hform : ∀ w : Window, (view w).render = "<StringView ".toList ++
      (w.pos.render ++ '.' :: '.' ::
        ((Number.int w.view.source.text.length).render ++
          ' ' :: (w.view.preview ++ ['>']))) := by
    intro w
    show w.view.renderFrom w.pos.render = _
    unfold View.renderFrom
    simp only [List.append_assoc, List.cons_append]
    rfl
  have hdot : ∀ n : Number, '.' ∉ n.render :=
    fun n => Number.notMem_render (by decide) (by decide) (by decide)
  have hblank : ∀ n : Number, ' ' ∉ n.render :=
    fun n => Number.notMem_render (by decide) (by decide) (by decide)
  rw [hform, hform, List.append_cancel_left_eq]
  constructor
  · intro h
    obtain ⟨hpos, h⟩ := Text.append_cons_inj (hdot _) (hdot _) h
    obtain ⟨hlen, h⟩ := Text.append_cons_inj (hblank _) (hblank _)
      (List.cons.inj h).2
    exact ⟨(View.preview_append_eq_iff.1 h).1, Number.render_injective hpos,
      Int.ofNat.inj (Number.int.inj (Number.render_injective hlen))⟩
  · intro h
    obtain ⟨hshown, hpos, hlen⟩ := h
    rw [View.preview_eq_iff.2 hshown, hpos, hlen]

end Value

namespace Window

/-- Nothing stands in the way of showing what is left of a text. -/
theorem previewFault?_of_text_eq (ht : w.text = .ok t) :
    w.previewFault? = none := by
  have hnone := textFault?_of_text_eq ht
  unfold previewFault?
  split
  case h_1 kind hitems =>
    unfold textFault? at hnone
    rw [hitems] at hnone
    cases kind <;> cases hnone
  case h_2 => exact hnone

-- =============================================================== the result

/-- What two messages, or two failures in print, have in common is what is
left of the inputs, up to what is cut. Two views in print have their positions
and the lengths of their sources in common as well, and whether the positions
are written as truth values. The end of the input has a message that nothing
else has. All of these can be printed. -/
theorem preview_decides (hv : v.text = .ok t) (hw : w.text = .ok u) :
    List.TFAE [(Fault.unparsed v).message = (Fault.unparsed w).message,
      (Value.failure (.view v)).render = (Value.failure (.view w)).render,
      View.ShownAlike t u] ∧
    ((Value.view v).render = (Value.view w).render ↔
      View.ShownAlike t u ∧ v.pos.toInt = w.pos.toInt ∧
        v.pos.isTruth = w.pos.isTruth ∧
          v.view.source.text.length = w.view.source.text.length) ∧
    List.TFAE [(Fault.unparsed v).message =
        "Could not parse input: unexpected end of input".toList,
      v.isEmpty = true, t = []] ∧
    (Value.failure (.view v)).printFault? = none ∧
    (Value.view v).printFault? = none := by
  have hprinted := previewFault?_of_text_eq hv
  obtain rfl := unconsumed_of_text_eq hv
  obtain rfl := unconsumed_of_text_eq hw
  refine ⟨?_, ?_, ?_, hprinted, hprinted⟩
  · apply List.tfae_of_forall
      (View.ShownAlike v.view.unconsumed w.view.unconsumed)
    simp only [List.forall_mem_cons]
    exact ⟨Fault.message_unparsed_eq_iff, Value.render_failure_eq_iff, trivial,
      List.forall_mem_nil _⟩
  · rw [Value.render_view_eq_iff, Number.eq_iff, and_assoc]
  · apply List.tfae_of_forall (v.view.unconsumed = [])
    simp only [List.forall_mem_cons]
    exact ⟨Fault.message_unparsed_eq_end_iff, v.view.isEmpty_iff, trivial,
      List.forall_mem_nil _⟩

/-- A text that ends in three dots behind as much as is shown, and one that
goes on differently, look alike, but not as views, since one is longer; and a
view at the end of its source says so. -/
theorem preview_decides_dots :
    let shown := List.replicate 40 'a'
    let v := ofView (Source.view ⟨.number 0, shown ++ "...".toList⟩)
    let w := ofView (Source.view ⟨.number 1, shown ++ ['b']⟩)
    let e := ofView ⟨⟨.number 2, ['a']⟩, 1, by decide⟩
    v.text = .ok (shown ++ "...".toList) ∧ w.text = .ok (shown ++ ['b']) ∧
      e.text = .ok [] ∧
      (Fault.unparsed v).message = (Fault.unparsed w).message ∧
      (Value.failure (.view v)).render = (Value.failure (.view w)).render ∧
      (Value.view v).render ≠ (Value.view w).render ∧
      (Fault.unparsed v).message ≠
        "Could not parse input: unexpected end of input".toList ∧
      (Fault.unparsed e).message =
        "Could not parse input: unexpected end of input".toList ∧
      (Fault.unparsed v).message ≠ (Fault.unparsed e).message := by
  intro shown v w e
  have hv : v.text = .ok (shown ++ "...".toList) := rfl
  have hw : w.text = .ok (shown ++ ['b']) := rfl
  have he : e.text = .ok [] := rfl
  obtain ⟨hsame, hviews, hend, -⟩ := preview_decides hv hw
  obtain ⟨hother, -⟩ := preview_decides hv he
  have hshown : View.ShownAlike (shown ++ "...".toList) (shown ++ ['b']) :=
    Or.inr (by decide)
  have hlen : v.view.source.text.length ≠ w.view.source.text.length := by
    decide
  have hdots : shown ++ "...".toList ≠ [] := by decide
  refine ⟨hv, hw, he, (hsame.out 0 2).2 hshown, (hsame.out 1 2).2 hshown,
    fun h => hlen (hviews.1 h).2.2.2, mt (hend.out 0 2).1 hdots,
    ((preview_decides he hw).2.2.1.out 0 2).2 rfl, fun h => ?_⟩
  exact hdots (View.shownAlike_nil_iff.1 ((hother.out 0 2).1 h))

/-- It is not enough that positions count alike: the second of two characters
is at one, and if that is written as a truth value, the view looks
different. -/
theorem render_view_not_by_count :
    let v := ofView ⟨⟨.number 0, ['a', 'b']⟩, 1, by decide⟩
    let w := { v with truth := true }
    v.text = .ok ['b'] ∧ w.text = .ok ['b'] ∧
      ¬ ((Value.view v).render = (Value.view w).render ↔
        View.ShownAlike ['b'] ['b'] ∧ v.pos.toInt = w.pos.toInt ∧
          v.view.source.text.length = w.view.source.text.length) := by
  intro v w
  refine ⟨rfl, rfl, fun h => ?_⟩
  have hprint := h.2 ⟨Or.inl rfl, rfl, rfl⟩
  have hpos : v.pos = w.pos := (Value.render_view_eq_iff.1 hprint).2.1
  cases hpos

end Window

end ParserKit
