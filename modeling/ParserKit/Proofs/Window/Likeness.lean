/-
When two runs are on the same text.

Two windows over two sources, at two positions, can have the same text left.
To say that a parser cannot tell them apart is to say which values count as
the same, and there is more than one good answer: a value tree can carry
marks that say what a part of it is known by (`Value.known`), a window may
know its source as such a thing, and whoever reads all of it gets the mark
as well. A theorem about two runs therefore takes a `Likeness`: windows that
are alike, values that are alike, and what the built-in leaves and `pair`
need to keep them so.

# Two answers

- `Likeness.views` relates windows that are views, and nothing is known of
  their sources. Alike values are equal, so there is no transform that could
  tell them apart.
- `Likeness.texts` relates all windows over a text. Alike values are equal
  but for their marks (`Value.unmarked`): two sources may be known as two
  things, and a transform from outside may look.
-/
import ParserKit.Proofs.Window.Skip
import ParserKit.Value.Equality

namespace ParserKit

-- ============================================================ the likeness

/-- Windows with the same text left, and values that are the same when read
through them. -/
structure Likeness where
  windows : Window → Window → Prop
  values : Value → Value → Prop
  left_medium : ∀ {v w}, windows v w → v.medium = .text
  right_medium : ∀ {v w}, windows v w → w.medium = .text
  unconsumed_eq : ∀ {v w}, windows v w →
    v.view.unconsumed = w.view.unconsumed
  skip : ∀ {v w} (n : Nat), windows v w → windows (v.skip n) (w.skip n)
  ofStretch : ∀ {v w} (t : Text), windows v w →
    values (.ofStretch v t) (.ofStretch w t)
  nothing : values .none .none
  /-- Pairs are alike if their parts are, and only then. -/
  pair_iff : ∀ {a x b y},
    values (.tuple [a, x]) (.tuple [b, y]) ↔ values a b ∧ values x y

-- ================================================================== views

namespace Window

/-- Skipping along a view ends on a view. -/
theorem skip_ofView (v : View) (n : Nat) :
    (ofView v).skip n = ofView ((ofView v).skip n).view := by
  unfold skip
  split <;> rfl

/-- Windows over texts compare equal exactly if they have the same text
left. -/
theorem beq_iff_of_text {v w : Window} (hv : v.medium = .text)
    (hw : w.medium = .text) :
    (Value.view v).beq (.view w) = true ↔
      v.view.unconsumed = w.view.unconsumed := by
  have htext : (Value.view w).text? = some w.view.unconsumed := by
    rw [Value.text?, text_of_text hw]
    rfl
  unfold Value.beq
  rw [text_of_text hv, htext]
  simp only [beq_iff_eq, Option.some.injEq]
  exact eq_comm

end Window

/-- Views with the same text left are alike, and so are equal values. -/
def Likeness.views : Likeness where
  windows v w := ∃ a b : View, v = a ∧ w = b ∧ a.unconsumed = b.unconsumed
  values := Eq
  left_medium := by
    intro v w ⟨a, b, ha, hb, h⟩
    rw [ha]
    rfl
  right_medium := by
    intro v w ⟨a, b, ha, hb, h⟩
    rw [hb]
    rfl
  unconsumed_eq := by
    intro v w ⟨a, b, ha, hb, h⟩
    rw [ha, hb]
    exact h
  skip := by
    intro v w n ⟨a, b, ha, hb, h⟩
    subst ha hb
    refine ⟨_, _, Window.skip_ofView a n, Window.skip_ofView b n, ?_⟩
    rw [Window.unconsumed_skip, Window.unconsumed_skip]
    exact congrArg (List.drop n) h
  ofStretch := by
    intro v w t ⟨a, b, ha, hb, h⟩
    rw [ha, hb, Value.ofStretch_ofView, Value.ofStretch_ofView]
  nothing := rfl
  pair_iff := by
    intro a x b y
    simp

-- ================================================================== texts

namespace Value

mutual

/-- A value with no part of it known by anything. -/
def unmarked : Value → Value
  | .known _ v => unmarked v
  | .tuple items => .tuple (unmarkedAll items)
  | .list items => .list (unmarkedAll items)
  | .slice x y z => .slice (unmarked x) (unmarked y) (unmarked z)
  | .success rest value => .success (unmarked rest) (unmarked value)
  | .failure rest => .failure (unmarked rest)
  | .element name attributes children =>
      .element (unmarked name) (unmarked attributes) (unmarked children)
  | .parser id name => .parser id (unmarked name)
  | v => v

/-- Several values with no part of them known by anything. -/
def unmarkedAll : List Value → List Value
  | [] => []
  | x :: xs => unmarked x :: unmarkedAll xs

end

/-- What is read through a window is the text that is read, but for what it
is known by. -/
theorem unmarked_ofStretch (w : Window) (t : Text) :
    (ofStretch w t).unmarked = .text t := by
  unfold ofStretch
  split
  · split <;> rfl
  · rfl

theorem text?_ofStretch (w : Window) (t : Text) :
    (ofStretch w t).text? = some t := by
  unfold ofStretch
  split
  · split <;> rfl
  · rfl

end Value

/-- Windows over the same text are alike, and so are values that differ in
marks only. -/
def Likeness.texts : Likeness where
  windows v w := v.medium = .text ∧ w.medium = .text ∧
    v.view.unconsumed = w.view.unconsumed
  values x y := x.unmarked = y.unmarked
  left_medium h := h.1
  right_medium h := h.2.1
  unconsumed_eq h := h.2.2
  skip := by
    intro v w n ⟨hv, hw, h⟩
    refine ⟨?_, ?_, ?_⟩
    · rw [Window.medium_skip, hv]
    · rw [Window.medium_skip, hw]
    · rw [Window.unconsumed_skip, Window.unconsumed_skip, h]
  ofStretch := by
    intro v w t h
    rw [Value.unmarked_ofStretch, Value.unmarked_ofStretch]
  nothing := rfl
  pair_iff := by
    intro a x b y
    simp [Value.unmarked, Value.unmarkedAll]

end ParserKit
