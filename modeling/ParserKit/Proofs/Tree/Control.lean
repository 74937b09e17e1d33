/-
What values are produced never decides where a run goes.

Two trees are under the same control (`SameControl`) if they have the same
shape and their leaves, taken in pairs, end in the same way on every window:
both succeed and go on at the same window, both fail at the same window, or
both end in the same fault. Nothing is said of the values of the leaves, nor
of the transforms, and wherever the one has a `pair`, a `left` or a `right`,
the other may have any of the three.

Runs of two such trees on one window run leaves in the same places on the
same windows in the same order, and end in the same way, as long as no
transform ends in a fault in either (`TransformsReturnOn`). A transform that
does so ends the run early, and whether it does can depend on a value.

# The proof

By induction on the shape. At a `map` nothing can change, since both
transforms return. At a `pair` the second parts are run in both trees or in
neither, and on the same window. A `left` and a `right` are first put down to
their `pair` (`Joins.visits_eq` and its companions): a projection of a pair
returns, makes no call and leaves the window alone.
-/
import ParserKit.Proofs.Tree.Alike
import ParserKit.Proofs.Tree.Visits

namespace ParserKit.Parser

open Moment

variable {p q p' q' t t' l : Parser} {f : Value → Run Value}
  {T : Value → Value → Prop} {w : Window}

-- =========================================================== the same end

/-- The runs on a window end in the same way, whatever their values. -/
def SameEnd (p q : Parser) (w : Window) : Prop :=
  EndsAlike Eq (fun _ _ => True) p w q w

theorem SameEnd.refl (p : Parser) (w : Window) : p.SameEnd p w :=
  endsAlike_self (fun _ => rfl) (fun _ => trivial) p w

theorem SameEnd.symm (h : p.SameEnd q w) : q.SameEnd p w :=
  EndsAlike.symm (fun _ _ => Eq.symm) (fun _ _ _ => trivial) h

theorem SameEnd.trans (h : p.SameEnd q w) (h' : q.SameEnd t w) :
    p.SameEnd t w :=
  EndsAlike.trans (fun _ _ _ => Eq.trans) (fun _ _ _ _ _ => trivial) h h'

theorem SameEnd.fails_iff {r : Window} (h : p.SameEnd q w) :
    p.Fails w r ↔ q.Fails w r := by
  have himp : ∀ {p q : Parser}, p.SameEnd q w → p.Fails w r →
      q.Fails w r := by
    intro p q h hf
    obtain ⟨s, hs, rfl⟩ := h.of_fails hf
    exact hs
  exact ⟨himp h, himp h.symm⟩

-- ============================================= transforms on one window

/-- No transform ends in a fault in the run on a window. -/
def TransformsReturnOn : Parser → Window → Prop
  | .map p f, w =>
      p.TransformsReturnOn w ∧
        ∀ r x, p.Succeeds w r x → ∃ y, (f x).exit = .ok y
  | .pair p q, w =>
      p.TransformsReturnOn w ∧
        ∀ u x, p.Succeeds w u x → q.TransformsReturnOn u
  | _, _ => True

theorem TransformsReturn.on (ht : p.TransformsReturn) (w : Window) :
    p.TransformsReturnOn w := by
  induction p using tree_induction generalizing w with
  | leaf l hl =>
      cases l with
      | map p f => cases hl
      | pair p q => cases hl
      | _ => trivial
  | map p f ih => exact ⟨ih ht.1 w, ht.2 w⟩
  | pair p q ihp ihq => exact ⟨ihp ht.1 w, fun u x _ => ihq ht.2 u⟩

-- ============================================ pairs and their projections

/-- The three ways to run two parsers in order. -/
inductive Joins (p q : Parser) : Parser → Prop
  | pair : Joins p q (.pair p q)
  | left : Joins p q (Parser.left p q)
  | right : Joins p q (Parser.right p q)

/-- A transform that returns on pairs and makes no call there adds nothing to
a run but its value. -/
theorem project_alike (hf : ∀ x y, ∃ z, f (.tuple [x, y]) = pure z ∧
      T z (.tuple [x, y])) (p q : Parser) (w : Window) :
    EndsAlike Eq T (map (pair p q) f) w (pair p q) w ∧
      ((map (pair p q) f).run w).trace = ((pair p q).run w).trace := by
  rcases (pair p q).ends w with ⟨r, a, hs⟩ | ⟨r, hr⟩ | ⟨e, he⟩
  · obtain ⟨u, x, y, -, -, rfl⟩ := succeeds_pair_iff.1 hs
    obtain ⟨z, hz, hT⟩ := hf x y
    have hexit : (f (.tuple [x, y])).exit = .ok z := by rw [hz]; rfl
    refine ⟨EndsAlike.success (succeeds_map_iff.2 ⟨_, hs, hexit⟩) hs rfl hT,
      ?_⟩
    rw [run_map_of_succeeds hs, hz]
    exact List.append_nil _
  · refine ⟨EndsAlike.failure (fails_map_iff.2 hr) hr rfl, ?_⟩
    rw [run_map_of_not_succeeds hr.not_succeeds]
  · refine ⟨EndsAlike.fault (raises_map_iff.2 (Or.inl he)) he, ?_⟩
    rw [run_map_of_not_succeeds he.not_succeeds]

/-- A `left` ends as its `pair` does, with the first of its two values, and
makes the same calls. -/
theorem left_alike (p q : Parser) (w : Window) :
    EndsAlike Eq (fun a c => ∃ b, c = .tuple [a, b]) (left p q) w
        (pair p q) w ∧
      ((left p q).run w).trace = ((pair p q).run w).trace :=
  project_alike (fun x y => ⟨x, rfl, y, rfl⟩) p q w

theorem right_alike (p q : Parser) (w : Window) :
    EndsAlike Eq (fun b c => ∃ a, c = .tuple [a, b]) (right p q) w
        (pair p q) w ∧
      ((right p q).run w).trace = ((pair p q).run w).trace :=
  project_alike (fun x y => ⟨y, rfl, x, rfl⟩) p q w

theorem Joins.sameEnd (ht : Joins p q t) (w : Window) :
    t.SameEnd (.pair p q) w := by
  have hany : ∀ f : Value → Run Value,
      (∀ x y, ∃ z, f (.tuple [x, y]) = pure z) →
        (map (.pair p q) f).SameEnd (.pair p q) w := by
    intro f hf
    refine (project_alike (fun x y => ?_) p q w).1
    obtain ⟨z, hz⟩ := hf x y
    exact ⟨z, hz, trivial⟩
  cases ht with
  | pair => exact SameEnd.refl _ w
  | left => exact hany first fun x y => ⟨x, rfl⟩
  | right => exact hany second fun x y => ⟨y, rfl⟩

theorem Joins.visits_eq (ht : Joins p q t) (w : Window) :
    t.visits w = (Parser.pair p q).visits w := by
  cases ht <;> rfl

theorem Joins.transformsReturnOn (ht : Joins p q t)
    (h : t.TransformsReturnOn w) :
    (Parser.pair p q).TransformsReturnOn w := by
  cases ht with
  | pair => exact h
  | left => exact h.1
  | right => exact h.1

-- ========================================================= the same control

/-- The trees have the same shape, but for the choice among `pair`, `left`
and `right`, and leaves that end in the same way. -/
inductive SameControl : Parser → Parser → Prop
  | leaf {l k : Parser} (hl : l.isLeaf = true) (hk : k.isLeaf = true)
      (h : ∀ w, l.SameEnd k w) : SameControl l k
  | map {p q : Parser} {f g : Value → Run Value} (h : SameControl p q) :
      SameControl (.map p f) (.map q g)
  | joined {p q p' q' t t' : Parser} (ht : Joins p q t)
      (ht' : Joins p' q' t') (hp : SameControl p p')
      (hq : SameControl q q') : SameControl t t'

/-- The runs end in the same way, and have been given the same windows. -/
def SameWay (p q : Parser) (w : Window) : Prop :=
  p.SameEnd q w ∧ (p.visits w).map Prod.snd = (q.visits w).map Prod.snd

theorem SameWay.map {g : Value → Run Value} (h : p.SameWay q w)
    (hf : (map p f).TransformsReturnOn w)
    (hg : (map q g).TransformsReturnOn w) :
    (map p f).SameWay (map q g) w := by
  refine ⟨EndsAlike.map h.1 ?_, h.2⟩
  intro r s x y hx hy _
  obtain ⟨a, ha⟩ := hf.2 r x hx
  obtain ⟨b, hb⟩ := hg.2 s y hy
  exact CallsAlike.value ha hb trivial

/-- The second parts are run in both or in neither. -/
theorem SameWay.pair (hp : p.SameWay p' w)
    (hq : ∀ u x y, p.Succeeds w u x → p'.Succeeds w u y →
      q.SameWay q' u) :
    (pair p q).SameWay (pair p' q') w := by
  obtain ⟨hend, hvisits⟩ := hp
  constructor
  · refine EndsAlike.pair hend ?_ fun _ _ _ _ _ _ => trivial
    intro r s a b hx hy hrs
    subst hrs
    exact (hq r a b hx hy).1
  · cases hend with
    | success hx hy hrest _ =>
        subst hrest
        rw [visits_pair_of_succeeds hx, visits_pair_of_succeeds hy,
          List.map_append, List.map_append, hvisits, (hq _ _ _ hx hy).2]
    | failure hx hy _ =>
        rw [visits_pair_of_not_succeeds hx.not_succeeds,
          visits_pair_of_not_succeeds hy.not_succeeds, hvisits]
    | fault hx hy =>
        rw [visits_pair_of_not_succeeds hx.not_succeeds,
          visits_pair_of_not_succeeds hy.not_succeeds, hvisits]

theorem Joins.sameWay (ht : Joins p q t) (ht' : Joins p' q' t')
    (h : (Parser.pair p q).SameWay (.pair p' q') w) : t.SameWay t' w := by
  obtain ⟨hend, hvisits⟩ := h
  constructor
  · exact (ht.sameEnd w).trans (hend.trans (ht'.sameEnd w).symm)
  · rw [ht.visits_eq, ht'.visits_eq, hvisits]

/-- Trees under the same control go the same way. -/
theorem SameControl.sameWay (h : SameControl p q)
    (hp : p.TransformsReturnOn w) (hq : q.TransformsReturnOn w) :
    p.SameWay q w := by
  -- The window stays free, since a second part starts where the first ended.
  induction h generalizing w with
  | leaf hl hk h =>
      refine ⟨h w, ?_⟩
      rw [visits_of_isLeaf hl, visits_of_isLeaf hk]
      rfl
  | map h ih => exact (ih hp.1 hq.1).map hp hq
  | joined ht ht' _ _ ihp ihq =>
      -- Both are put down to their `pair`s, whose parts are compared.
      have hp := ht.transformsReturnOn hp
      have hq := ht'.transformsReturnOn hq
      apply ht.sameWay ht'
      apply (ihp hp.1 hq.1).pair
      intro u x y hx hy
      exact ihq (hp.2 u x hx) (hq.2 u y hy)

-- ============================================================== the result

/-- The windows that leaves are given in a course. -/
def given (h : List Moment) : List Window :=
  (h.filterMap visit?).map Prod.snd

/-- Values do not decide where a run goes. Trees of the same shape, whose
leaves end in the same way on every window, end in the same way on every
window, as long as no transform ends in a fault there: their runs run as many
of their leaves, in order, and on the same windows. The transforms and the
values play no part, nor does the choice among `pair`, `left` and `right`;
where that is all the difference, the runs make the same calls as well, and the
value is the pair or one of its two parts. -/
theorem run_control :
    (∀ p q, SameControl p q → ∀ w, p.TransformsReturnOn w →
      q.TransformsReturnOn w →
        EndsAlike Eq (fun _ _ => True) p w q w ∧
        ∃ h k n, p.CourseOn w h ∧ q.CourseOn w k ∧ given h = given k ∧
          h.filterMap leaf? = p.leaves.take n ∧
          k.filterMap leaf? = q.leaves.take n) ∧
    (∀ p q w,
      EndsAlike Eq (fun a c => ∃ b, c = .tuple [a, b]) (left p q) w
        (pair p q) w ∧
      EndsAlike Eq (fun b c => ∃ a, c = .tuple [a, b]) (right p q) w
        (pair p q) w ∧
      ((left p q).run w).trace = ((pair p q).run w).trace ∧
      ((right p q).run w).trace = ((pair p q).run w).trace) := by
  constructor
  · intro p q hpq w hp hq
    obtain ⟨hend, hvisits⟩ := hpq.sameWay hp hq
    obtain ⟨h, hh⟩ := p.exists_courseOn w
    obtain ⟨k, hk⟩ := q.exists_courseOn w
    have hgiven : given h = given k := by
      unfold given
      rw [hh.visits, hk.visits, hvisits]
    have hlen : (h.filterMap leaf?).length = (k.filterMap leaf?).length := by
      have hcount := congrArg List.length hgiven
      rw [given, given, List.length_map, List.length_map] at hcount
      rw [filterMap_leaf?, filterMap_leaf?, List.length_map,
        List.length_map, hcount]
    refine ⟨hend, h, k, (h.filterMap leaf?).length, hh, hk, hgiven, ?_, ?_⟩
    · exact List.prefix_iff_eq_take.1 hh.leaves
    · rw [hlen]
      exact List.prefix_iff_eq_take.1 hk.leaves
  · intro p q w
    exact ⟨(left_alike p q w).1, (right_alike p q w).1,
      (left_alike p q w).2, (right_alike p q w).2⟩

/-- Leaves that succeed on the spot, with zero in one tree and an empty list
in the other, and a name that one tree keeps and the other forgets. -/
theorem run_control_falsy :
    let zero := leaf (.named "zero".toList) fun w =>
      pure (.success w (.int 0))
    let empty := leaf (.named "empty".toList) fun w =>
      pure (.success w (.list []))
    let p := pair (left zero letterA) (map identifier pure)
    let q := right (pair empty letterA)
      (map identifier fun _ => pure (.bool false))
    let w := Window.ofView ⟨⟨.number 0, "(ab-c)".toList⟩, 1, by decide⟩
    SameControl p q ∧ p.TransformsReturnOn w ∧ q.TransformsReturnOn w ∧
      p.SameEnd q w ∧
      ∃ h k, p.CourseOn w h ∧ q.CourseOn w k ∧ given h = given k := by
  intro zero empty p q w
  have hletter : SameControl letterA letterA :=
    SameControl.leaf rfl rfl (SameEnd.refl _)
  have hname : SameControl identifier identifier :=
    SameControl.leaf rfl rfl (SameEnd.refl _)
  have hspot : SameControl zero empty :=
    SameControl.leaf rfl rfl fun w =>
      EndsAlike.success rfl rfl (Eq.refl w) trivial
  have hpq : SameControl p q :=
    SameControl.joined Joins.pair Joins.right
      (SameControl.joined Joins.left Joins.pair hspot hletter)
      (SameControl.map hname)
  have hp : p.TransformsReturn :=
    ⟨transformsReturn_left.2 ⟨trivial, trivial⟩, trivial,
      fun _ _ x _ => ⟨x, rfl⟩⟩
  have hq : q.TransformsReturn :=
    transformsReturn_right.2 ⟨⟨trivial, trivial⟩, trivial,
      fun _ _ _ _ => ⟨.bool false, rfl⟩⟩
  obtain ⟨hend, h, k, n, hh, hk, hgiven, -⟩ :=
    run_control.1 p q hpq w (hp.on w) (hq.on w)
  exact ⟨hpq, hp.on w, hq.on w, hend, h, k, hh, hk, hgiven⟩

end ParserKit.Parser
