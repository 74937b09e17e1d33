/-
The course of a run: what is done, on what, in which order, and what ends
it.

A run of a tree does two kinds of things. It runs a leaf on a window, and
it calls a transform on a value; each time is a `Moment`. The course of a
run is the list of its moments, and `run_course` says that it is the one
that the tree prescribes.

# What the tree prescribes

`Completes p h x` is the course `h` of a whole tree, and `x` its value:
a leaf is run once; what is below a `map` comes before its transform, which
is called on the value of just that; the first part of a `pair` comes before
the second. `Reaches p h` is a course of the same tree that may end early,
at any moment. Both go by the tree alone and know nothing of windows.

# What goes from moment to moment

Windows are threaded along the list without regard to the tree. `Leads w h
r` says that the moments of `h` all pass, one after another, on the way from
`w` to `r`: each leaf is given what the leaf before it left, whatever that
is, and a transform leaves the window alone. `Stops` says how the last
moment of a run that ends early ends it.

What a leaf does at its moment is its own affair: a function from outside is
called, and a built-in leaf over a text skips its token (`run_of_mem_leaves`).

# The proof

By induction on the tree, for every window. The courses of the two parts of
a `pair` are put end to end; the second exists only if the first completes,
and the window it starts from is the one that the first leads to.
-/
import ParserKit.Proofs.Leaf.Token

namespace ParserKit

-- ============================================================== moments

/-- One thing that is done in the course of a run. -/
inductive Moment where
  /-- A leaf is run on a window. -/
  | leaf (l : Parser) (given : Window)
  /-- A transform is called on a value. -/
  | transform (f : Value → Run Value) (given : Value)

namespace Moment

/-- The calls that are made at a moment. -/
def calls : Moment → List Call
  | .leaf l w => (l.run w).trace
  | .transform f x => (f x).trace

/-- The leaf that is run at a moment, if one is. -/
def leaf? : Moment → Option Parser
  | .leaf l _ => some l
  | .transform _ _ => none

/-- The moment passes: the run goes on, from the first window to the
second. -/
inductive Passes : Window → Moment → Window → Prop
  | leaf {l : Parser} {w r : Window} {x : Value} (h : l.Succeeds w r x) :
      Passes w (.leaf l w) r
  | transform {f : Value → Run Value} {w : Window} {x y : Value}
      (h : (f x).exit = .ok y) : Passes w (.transform f x) w

/-- The moment does not pass: at that window the run ends with it. -/
inductive Stops : Window → Moment → Except Fault (Outcome Value) → Prop
  | failure {l : Parser} {w r : Window} (h : l.Fails w r) :
      Stops w (.leaf l w) (.ok (.failure r))
  | leafFault {l : Parser} {w : Window} {e : Fault} (h : l.Raises w e) :
      Stops w (.leaf l w) (.error e)
  | transformFault {f : Value → Run Value} {w : Window} {x : Value}
      {e : Fault} (h : (f x).exit = .error e) :
      Stops w (.transform f x) (.error e)

/-- All the moments pass, on the way from the first window to the
second. -/
inductive Leads : Window → List Moment → Window → Prop
  | nil {w : Window} : Leads w [] w
  | cons {w u r : Window} {m : Moment} {h : List Moment}
      (hm : Passes w m u) (hh : Leads u h r) : Leads w (m :: h) r

theorem Leads.append {w u r : Window} {h k : List Moment}
    (hh : Leads w h u) (hk : Leads u k r) : Leads w (h ++ k) r := by
  induction hh with
  | nil => exact hk
  | cons hm _ ih => exact Leads.cons hm (ih hk)

theorem Leads.snoc {w u r : Window} {h : List Moment} {m : Moment}
    (hh : Leads w h u) (hm : Passes u m r) : Leads w (h ++ [m]) r :=
  hh.append (Leads.cons hm Leads.nil)

end Moment

namespace Parser

open Moment

-- ============================================================== courses

/-- The course of the whole tree, and its value. -/
inductive Completes : Parser → List Moment → Value → Prop
  | leaf {l : Parser} {w r : Window} {x : Value} (hl : l.isLeaf = true)
      (h : l.Succeeds w r x) : Completes l [.leaf l w] x
  | map {p : Parser} {f : Value → Run Value} {h : List Moment}
      {x y : Value} (hp : Completes p h x) (hf : (f x).exit = .ok y) :
      Completes (.map p f) (h ++ [.transform f x]) y
  | pair {p q : Parser} {h k : List Moment} {x y : Value}
      (hp : Completes p h x) (hq : Completes q k y) :
      Completes (.pair p q) (h ++ k) (.tuple [x, y])

/-- A course through the tree up to some moment. -/
inductive Reaches : Parser → List Moment → Prop
  | leaf {l : Parser} (hl : l.isLeaf = true) (w : Window) :
      Reaches l [.leaf l w]
  | inside {p : Parser} {f : Value → Run Value} {h : List Moment}
      (hp : Reaches p h) : Reaches (.map p f) h
  | transform {p : Parser} {f : Value → Run Value} {h : List Moment}
      {x : Value} (hp : Completes p h x) :
      Reaches (.map p f) (h ++ [.transform f x])
  | first {p q : Parser} {h : List Moment} (hp : Reaches p h) :
      Reaches (.pair p q) h
  | second {p q : Parser} {h k : List Moment} {x : Value}
      (hp : Completes p h x) (hq : Reaches q k) :
      Reaches (.pair p q) (h ++ k)

/-- The leaves that are run in the course of a whole tree are its leaves. -/
theorem Completes.leaves {p : Parser} {h : List Moment} {x : Value}
    (hp : Completes p h x) : h.filterMap leaf? = p.leaves := by
  induction hp with
  | leaf hl h => rw [leaves_of_isLeaf hl]; rfl
  | map _ _ ih => rw [List.filterMap_append, ih]; exact List.append_nil _
  | pair _ _ ihp ihq => rw [List.filterMap_append, ihp, ihq]; rfl

/-- The leaves that are run up to some moment are the first ones of the
tree. -/
theorem Reaches.leaves {p : Parser} {h : List Moment} (hp : Reaches p h) :
    h.filterMap leaf? <+: p.leaves := by
  induction hp with
  | leaf hl w => rw [leaves_of_isLeaf hl]; exact List.prefix_refl _
  | inside _ ih => exact ih
  | transform hp =>
      rw [List.filterMap_append, hp.leaves]
      exact (List.append_nil _).symm ▸ List.prefix_refl _
  | first _ ih => exact ih.trans (List.prefix_append _ _)
  | second hp _ ih =>
      rw [List.filterMap_append, hp.leaves]
      exact (List.prefix_append_right_inj _).2 ih

-- ============================================================== the run

/-- The run completes: its course leads from the window that it is given to
the one that it goes on at. -/
def CompletesOn (p : Parser) (w : Window) : Prop :=
  ∃ h r x, p.Completes h x ∧ Leads w h r ∧
    p.run w = ⟨h.flatMap calls, .ok (.success r x)⟩

/-- The run ends early: all its moments but the last pass, and the last one
ends it. -/
def StopsOn (p : Parser) (w : Window) : Prop :=
  ∃ h m u exit, p.Reaches (h ++ [m]) ∧ Leads w h u ∧ Stops u m exit ∧
    p.run w = ⟨(h ++ [m]).flatMap calls, exit⟩

/-- A run that ends early does not succeed. -/
theorem StopsOn.not_succeeds {p : Parser} {w : Window} (h : p.StopsOn w) :
    ¬ ∃ r x, p.Succeeds w r x := by
  intro h
  obtain ⟨r, x, hs⟩ := h
  obtain ⟨k, m, u, exit, -, -, hstop, hp⟩ := h
  rw [Succeeds, hp] at hs
  cases hs
  cases hstop

/-- The course of a leaf is one moment. -/
theorem course_leaf {l : Parser} (hl : l.isLeaf = true) (w : Window) :
    l.CompletesOn w ∨ l.StopsOn w := by
  have hcalls : [Moment.leaf l w].flatMap calls = (l.run w).trace :=
    List.append_nil _
  rcases l.ends w with ⟨r, x, h⟩ | ⟨r, h⟩ | ⟨e, h⟩
  · refine Or.inl ⟨[.leaf l w], r, x, Completes.leaf hl h,
      Leads.cons (Passes.leaf h) Leads.nil, ?_⟩
    rw [hcalls, ← h]
  · refine Or.inr ⟨[], .leaf l w, w, _, Reaches.leaf hl w, Leads.nil,
      Stops.failure h, ?_⟩
    rw [List.nil_append, hcalls, ← h]
  · refine Or.inr ⟨[], .leaf l w, w, _, Reaches.leaf hl w, Leads.nil,
      Stops.leafFault h, ?_⟩
    rw [List.nil_append, hcalls, ← h]

/-- The course of a `map`: that of what is below it, and if it completes,
the call of the transform. -/
theorem course_map {p : Parser} {f : Value → Run Value} {w : Window}
    (hp : p.CompletesOn w ∨ p.StopsOn w) :
    (map p f).CompletesOn w ∨ (map p f).StopsOn w := by
  rcases hp with ⟨h, r, x, hc, hlead, hrun⟩ | hstop
  · have hs : p.Succeeds w r x := by rw [Succeeds, hrun]
    have hmap := run_map_of_succeeds (f := f) hs
    have hcalls : (h ++ [Moment.transform f x]).flatMap calls
        = (p.run w).trace ++ (f x).trace := by
      rw [hrun, List.flatMap_append]
      exact congrArg _ (List.append_nil _)
    rcases hf : (f x).exit with e | y
    · refine Or.inr ⟨h, .transform f x, r, .error e, Reaches.transform hc,
        hlead, Stops.transformFault hf, ?_⟩
      rw [hmap, hcalls, hf]
      rfl
    · refine Or.inl ⟨h ++ [.transform f x], r, y, Completes.map hc hf,
        hlead.snoc (Passes.transform hf), ?_⟩
      rw [hmap, hcalls, hf]
      rfl
  · have hns := hstop.not_succeeds
    obtain ⟨h, m, u, exit, hreach, hlead, hm, hrun⟩ := hstop
    exact Or.inr ⟨h, m, u, exit, Reaches.inside hreach, hlead, hm,
      (run_map_of_not_succeeds hns).trans hrun⟩

/-- The course of a `pair`: that of the first part, and if it completes,
that of the second on what the first left. -/
theorem course_pair {p q : Parser} {w : Window}
    (hp : p.CompletesOn w ∨ p.StopsOn w)
    (hq : ∀ u, q.CompletesOn u ∨ q.StopsOn u) :
    (pair p q).CompletesOn w ∨ (pair p q).StopsOn w := by
  rcases hp with ⟨h, u, x, hc, hlead, hrun⟩ | hstop
  · have hs : p.Succeeds w u x := by rw [Succeeds, hrun]
    have hpair := run_pair_of_succeeds (q := q) hs
    rw [hrun] at hpair
    rcases hq u with ⟨k, r, y, hk, hlead', hrun'⟩ |
      ⟨k, m, v, exit, hk, hlead', hm, hrun'⟩
    · refine Or.inl ⟨h ++ k, r, .tuple [x, y], Completes.pair hc hk,
        hlead.append hlead', ?_⟩
      rw [hpair, hrun', List.flatMap_append]
      rfl
    · have hcalls : (h ++ k ++ [m]).flatMap calls
          = h.flatMap calls ++ (k ++ [m]).flatMap calls := by
        rw [List.append_assoc]
        exact List.flatMap_append
      -- An early end carries no value, so there is nothing to pair up.
      have hexit : exit.map (paired x) = exit := by
        cases hm <;> rfl
      refine Or.inr ⟨h ++ k, m, v, exit, ?_, hlead.append hlead', hm, ?_⟩
      · rw [List.append_assoc]
        exact Reaches.second hc hk
      · rw [hpair, hrun', hcalls, hexit]
  · have hns := hstop.not_succeeds
    obtain ⟨h, m, v, exit, hreach, hlead, hm, hrun⟩ := hstop
    exact Or.inr ⟨h, m, v, exit, Reaches.first hreach, hlead, hm,
      (run_pair_of_not_succeeds hns).trans hrun⟩

/-- Every run has a course. -/
theorem completesOn_or_stopsOn (p : Parser) (w : Window) :
    p.CompletesOn w ∨ p.StopsOn w := by
  induction p using tree_induction generalizing w with
  | leaf l hl => exact course_leaf hl w
  | map p f ih => exact course_map (ih w)
  | pair p q ihp ihq => exact course_pair (ihp w) ihq

/-- The leaves of a tree are functions from outside, which are run by calling
them, and built-in leaves, which take a token from a text and nothing else. -/
theorem run_of_mem_leaves {l p : Parser} (hl : l ∈ p.leaves) :
    (∃ label body, l = leaf label body ∧ ∀ u, l.run u = body u) ∨
    (l.BuiltIn ∧ ∀ u : Window, u.medium = .text → l.run u =
      match l.token? u.view.unconsumed with
      | some x => pure (.success (u.skip x.length) (l.product u x))
      | none => pure (.failure u)) := by
  cases l with
  | literal s => exact Or.inr ⟨.literal s, fun u => run_builtIn (.literal s)⟩
  | character c =>
      exact Or.inr ⟨.character c, fun u => run_builtIn (.character c)⟩
  | identifier => exact Or.inr ⟨.identifier, fun u => run_builtIn .identifier⟩
  | leaf label body => exact Or.inl ⟨label, body, rfl, fun _ => rfl⟩
  | map q f => cases isLeaf_of_mem_leaves hl
  | pair q k => cases isLeaf_of_mem_leaves hl

/-- A run follows its tree. Either all leaves are run, or the first ones up
to the one at which the run stops; the first is given the window of the run
and each later one what the leaf before it left. To run a leaf from outside is
to call it, and a built-in one over a text takes its token. A transform is
called once, right after its part of the tree has completed and on the value of
that part. The calls of the run are those of its moments. A run that completes
goes on where the last leaf left off, and any other ends as its last moment
does. -/
theorem run_course (p : Parser) (w : Window) :
    (∀ l ∈ p.leaves,
      (∃ label body, l = leaf label body ∧ ∀ u, l.run u = body u) ∨
      (l.BuiltIn ∧ ∀ u : Window, u.medium = .text → l.run u =
        match l.token? u.view.unconsumed with
        | some x => pure (.success (u.skip x.length) (l.product u x))
        | none => pure (.failure u))) ∧
    ((∃ h r x, p.Completes h x ∧ Leads w h r ∧
      h.filterMap leaf? = p.leaves ∧
      p.run w = ⟨h.flatMap calls, .ok (.success r x)⟩) ∨
    (∃ h m u exit, p.Reaches (h ++ [m]) ∧ Leads w h u ∧ Stops u m exit ∧
      (h ++ [m]).filterMap leaf? <+: p.leaves ∧
      p.run w = ⟨(h ++ [m]).flatMap calls, exit⟩)) := by
  refine ⟨fun l => run_of_mem_leaves, ?_⟩
  rcases p.completesOn_or_stopsOn w with ⟨h, r, x, hc, hlead, hrun⟩ |
    ⟨h, m, u, exit, hreach, hlead, hstop, hrun⟩
  · exact Or.inl ⟨h, r, x, hc, hlead, hc.leaves, hrun⟩
  · exact Or.inr ⟨h, m, u, exit, hreach, hlead, hstop, hreach.leaves, hrun⟩

end Parser

end ParserKit
