/-
Parsing depends on nothing but the text that is left.

A parser is determined by the text if two runs of it on alike windows end
alike. Neither where the text begins in its source nor what comes before it
can matter to such a parser. The built-in leaves are of this kind, since a
token is a function of the text, and every tree over such leaves is.

# What is asked of transforms

A transform is handed values that are alike, and `TransformsKeep` asks it to
end alike on those that its own part of the tree produces. Where alike
values are equal this asks nothing (`transformsKeep_views`).

# Where a run goes on

Alike windows have the same text left, and so what is left of them after two
runs is equally long. That settles the distance that the runs have covered,
if they went forward (`SameDistance`).
-/
import ParserKit.Proofs.Tree.Alike
import ParserKit.Proofs.Tree.Contract
import ParserKit.Proofs.Window.Likeness

namespace ParserKit

namespace View

-- ============================================================= distances

/-- As much as is left of a view, so far is its end from its position. -/
theorem pos_add_length (v : View) :
    v.pos + v.unconsumed.length = v.source.text.length := by
  have hp := v.pos_le
  rw [length_unconsumed, length]
  omega

/-- From two places with the same text left, it is equally far to two others
with the same text left. -/
theorem sub_pos_of_isSuffixOf {r v s w : View}
    (hr : r.isSuffixOf v = true) (hs : s.isSuffixOf w = true)
    (hrs : r.unconsumed = s.unconsumed)
    (hvw : v.unconsumed = w.unconsumed) :
    (r.pos : Int) - v.pos = s.pos - w.pos := by
  have hrv := ((r.isSuffixOf_iff v).1 hr).1
  have hsw := ((s.isSuffixOf_iff w).1 hs).1
  have h1 := r.pos_add_length
  have h2 := v.pos_add_length
  have h3 := s.pos_add_length
  have h4 := w.pos_add_length
  rw [hrs, hrv] at h1
  rw [hvw] at h2
  rw [hsw] at h3
  omega

/-- The same place in the text, with more text before it. -/
def behind (id : Identity) (pre : Text) (v : View) : View where
  source := ⟨id, pre ++ v.source.text⟩
  pos := pre.length + v.pos
  pos_le := by
    have hp := v.pos_le
    rw [List.length_append]
    omega

theorem unconsumed_behind (id : Identity) (pre : Text) (v : View) :
    (v.behind id pre).unconsumed = v.unconsumed := by
  unfold unconsumed behind
  rw [← List.drop_drop, List.drop_left]

end View

namespace Parser

variable {L : Likeness} {p q l : Parser} {v w : Window}

-- ========================================================== determinedness

/-- On windows that are alike, the parser ends alike. -/
def TextDetermined (L : Likeness) (p : Parser) : Prop :=
  ∀ v w, L.windows v w → EndsAlike L.windows L.values p v p w

/-- Every transform ends alike on alike values that its part of the tree
produces. -/
def TransformsKeep (L : Likeness) : Parser → Prop
  | .map p f =>
      p.TransformsKeep L ∧
        ∀ v w r s x y, L.windows v w → p.Succeeds v r x →
          p.Succeeds w s y → L.values x y → CallsAlike L.values f x f y
  | .pair p q => p.TransformsKeep L ∧ q.TransformsKeep L
  | _ => True

/-- Where nothing is known of the sources, all transforms keep values alike:
they are given the same. -/
theorem transformsKeep_views (p : Parser) :
    p.TransformsKeep Likeness.views := by
  induction p using tree_induction with
  | leaf l hl =>
      cases l with
      | map p f => cases hl
      | pair p q => cases hl
      | _ => trivial
  | map p f ih =>
      refine ⟨ih, ?_⟩
      intro v w r s x y _ _ _ hxy
      have hxy : x = y := hxy
      rw [hxy]
      exact callsAlike_self f y
  | pair p q ihp ihq => exact ⟨ihp, ihq⟩

-- ================================================================== leaves

/-- What a built-in leaf makes of a token is alike through alike windows. -/
theorem values_product (hl : l.BuiltIn) (hvw : L.windows v w) (x : Text) :
    L.values (l.product v x) (l.product w x) := by
  cases hl with
  | literal s => exact L.nothing
  | character c => exact L.nothing
  | identifier => exact L.ofStretch x hvw

/-- A built-in leaf is determined by the text, since its token is. -/
theorem BuiltIn.textDetermined (hl : l.BuiltIn) : l.TextDetermined L := by
  intro v w hvw
  have hv := run_builtIn hl (L.left_medium hvw)
  have hw := run_builtIn hl (L.right_medium hvw)
  -- From here on there is one token, or none, for both windows.
  rw [L.unconsumed_eq hvw] at hv
  cases ht : l.token? w.view.unconsumed with
  | some x =>
      rw [ht] at hv hw
      refine EndsAlike.success ?_ ?_ (L.skip x.length hvw)
        (values_product hl hvw x)
      · rw [Succeeds, hv]
        rfl
      · rw [Succeeds, hw]
        rfl
  | none =>
      rw [ht] at hv hw
      refine EndsAlike.failure ?_ ?_ hvw
      · rw [Fails, hv]
        rfl
      · rw [Fails, hw]
        rfl

-- =================================================================== trees

/-- A tree whose leaves are determined by the text is. -/
theorem textDetermined_of_leaves (hl : ∀ l ∈ p.leaves, l.TextDetermined L)
    (ht : p.TransformsKeep L) : p.TextDetermined L := by
  induction p using tree_induction with
  | leaf l h => exact forall_leaves_of_isLeaf h hl
  | map p f ih =>
      intro v w hvw
      apply (ih hl ht.1 v w hvw).map
      intro r s x y hx hy hxy
      exact ht.2 v w r s x y hvw hx hy hxy
  | pair p q ihp ihq =>
      obtain ⟨hlp, hlq⟩ := forall_leaves_pair.1 hl
      intro v w hvw
      apply (ihp hlp ht.1 v w hvw).pair
      · intro r s a b _ _ hrs
        exact ihq hlq ht.2 r s hrs
      · intro a b x y hab hxy
        exact L.pair_iff.2 ⟨hab, hxy⟩

-- ============================================================ distances

/-- Two runs have gone on from one window each to another, over the same
text and equally far. -/
structure SameDistance (L : Likeness) (v w r s : Window) : Prop where
  windows : L.windows r s
  left_suffix : r.isSuffixOf v = true
  right_suffix : s.isSuffixOf w = true
  distance : (r.view.pos : Int) - v.view.pos = s.view.pos - w.view.pos

/-- Two runs that go forward from alike windows, and end at alike windows,
go equally far. -/
theorem EndsAlike.sameDistance (hp : p.Forward) (hvw : L.windows v w)
    (h : EndsAlike L.windows L.values p v p w) :
    EndsAlike (SameDistance L v w) L.values p v p w := by
  apply h.imp
  intro o o' ho ho' hrest
  have hr := (hp v o (L.left_medium hvw) ho).2
  have hs := (hp w o' (L.right_medium hvw) ho').2
  exact ⟨hrest, hr, hs, View.sub_pos_of_isSuffixOf hr hs
    (L.unconsumed_eq hrest) (L.unconsumed_eq hvw)⟩

/-- A tree of built-in leaves goes equally far on alike windows. -/
theorem sameDistance_of_builtIn (hl : ∀ l ∈ p.leaves, l.BuiltIn)
    (ht : p.TransformsKeep L) (hvw : L.windows v w) :
    EndsAlike (SameDistance L v w) L.values p v p w := by
  have hdet : p.TextDetermined L :=
    textDetermined_of_leaves (fun l h => (hl l h).textDetermined) ht
  have hfor : p.Forward :=
    forward_of_leaves fun l h => (hl l h).wellBehaved.forward
  exact (hdet v w hvw).sameDistance hfor hvw

/-- Runs that have gone equally far, one of them behind more text, are still
that much apart. -/
theorem SameDistance.eq_behind {id : Identity} {pre : Text} {v : View}
    {r s : Window} (h : SameDistance .views (v.behind id pre) v r s) :
    ∃ u : View, r = u.behind id pre ∧ s = u := by
  obtain ⟨a, b, rfl, rfl, -⟩ := h.windows
  obtain ⟨hsa, -⟩ := (a.isSuffixOf_iff _).1 h.left_suffix
  obtain ⟨hsb, -⟩ := (b.isSuffixOf_iff _).1 h.right_suffix
  refine ⟨b, congrArg Window.ofView (View.ext_of ?_ ?_), rfl⟩
  · have hsb : b.source = v.source := hsb
    show a.source = ⟨id, pre ++ b.source.text⟩
    rw [hsa, hsb]
    rfl
  · have hd : (a.pos : Int) - (pre.length + v.pos : Nat) = b.pos - v.pos :=
      h.distance
    show a.pos = pre.length + b.pos
    omega

-- ============================================================== the result

/-- A run depends on the text that is left, and on nothing else. The
built-in leaves do not, and no tree does whose leaves do not: on views that
compare equal, it ends in the same fault, or at views that compare equal and
with the same value. If the leaves are built in, the two runs also go equally
far, so that a run on a text behind another is the run on the text alone,
moved by the length of the other. -/
theorem run_of_text (p : Parser) :
    (∀ (L : Likeness) (l : Parser), l.BuiltIn → l.TextDetermined L) ∧
    ((∀ l ∈ p.leaves, l.TextDetermined .views) →
      ∀ v w : View, (Value.view v).beq (.view w) = true →
        EndsAlike (fun r s => (Value.view r).beq (.view s) = true) Eq
          p v p w) ∧
    (∀ L : Likeness, (∀ l ∈ p.leaves, l.TextDetermined L) →
      p.TransformsKeep L → p.TextDetermined L) ∧
    (∀ L : Likeness, (∀ l ∈ p.leaves, l.BuiltIn) → p.TransformsKeep L →
      ∀ v w, L.windows v w →
        EndsAlike (SameDistance L v w) L.values p v p w) ∧
    ((∀ l ∈ p.leaves, l.BuiltIn) →
      ∀ (id : Identity) (pre : Text) (v : View),
        EndsAlike (fun r s => ∃ u : View, r = u.behind id pre ∧ s = u) Eq
          p (v.behind id pre) p v) := by
  refine ⟨fun L l hl => hl.textDetermined, ?_,
    fun L hl ht => textDetermined_of_leaves hl ht,
    fun L hl ht v w hvw => sameDistance_of_builtIn hl ht hvw, ?_⟩
  · intro hl v w hvw
    have htext := (Window.beq_iff_of_text (v := v) (w := w) rfl rfl).1 hvw
    have hdet := textDetermined_of_leaves hl (transformsKeep_views p)
    have hends := hdet v w ⟨v, w, rfl, rfl, htext⟩
    apply hends.imp
    intro o o' _ _ hrest
    exact (Window.beq_iff_of_text (Likeness.views.left_medium hrest)
      (Likeness.views.right_medium hrest)).2
      (Likeness.views.unconsumed_eq hrest)
  · intro hl id pre v
    have hends := sameDistance_of_builtIn hl (transformsKeep_views p)
      ⟨_, v, rfl, rfl, v.unconsumed_behind id pre⟩
    apply hends.imp
    intro o o' _ _ hrest
    exact hrest.eq_behind

end Parser

end ParserKit
