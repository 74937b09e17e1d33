/-
Visits: the leaves that a run runs, each with the window that it is given.

The course of a run is a list of moments of which no part says where it comes
from in the tree. To compare two runs, node by node, a function of the tree is
wanted: `visits` collects the leaves that are run and asks at a `pair` only
whether the first part succeeds, and where. `CourseOn.visits` says that it
collects what the course has, so what is proved of `visits` is proved of every
course.

The proof is by induction on how the course goes through the tree. The window
on which the second part of a `pair` starts is in the course only as the one
that the moments of the first part lead to; that the first part ends there is
part of the induction (`Completes.visits`).
-/
import ParserKit.Proofs.Tree.Course

namespace ParserKit

namespace Moment

/-- The leaf that is run at a moment, with its window, if one is. -/
def visit? : Moment → Option (Parser × Window)
  | .leaf l w => some (l, w)
  | .transform _ _ => none

theorem filterMap_leaf? (h : List Moment) :
    h.filterMap leaf? = (h.filterMap visit?).map Prod.fst := by
  rw [List.map_filterMap]
  congr 1
  funext m
  cases m with
  | leaf l w => rfl
  | transform f x => rfl

theorem leads_append_iff {w r : Window} {h k : List Moment} :
    Leads w (h ++ k) r ↔ ∃ u, Leads w h u ∧ Leads u k r := by
  constructor
  · intro hl
    induction h generalizing w with
    | nil => exact ⟨w, Leads.nil, hl⟩
    | cons m h ih =>
        cases hl with
        | cons hm hl =>
            obtain ⟨u, hh, hk⟩ := ih hl
            exact ⟨u, Leads.cons hm hh, hk⟩
  · intro hl
    obtain ⟨u, hh, hk⟩ := hl
    exact hh.append hk

theorem leads_singleton_iff {w r : Window} {m : Moment} :
    Leads w [m] r ↔ Passes w m r := by
  constructor
  · intro hl
    cases hl with
    | cons hm hl =>
        cases hl
        exact hm
  · intro hm
    exact Leads.cons hm Leads.nil

end Moment

namespace Parser

open Moment

variable {p q l : Parser} {w u r : Window} {x : Value}
  {h k : List Moment} {m : Moment}

-- =============================================================== visits

/-- The leaves that the run on a window runs, with their windows. -/
def visits : Parser → Window → List (Parser × Window)
  | .map p _, w => p.visits w
  | .pair p q, w =>
      match (p.run w).exit with
      | .ok (.success u _) => p.visits w ++ q.visits u
      | _ => p.visits w
  | l, w => [(l, w)]

theorem visits_of_isLeaf (hl : l.isLeaf = true) (w : Window) :
    l.visits w = [(l, w)] := by
  cases l with
  | map p f => cases hl
  | pair p q => cases hl
  | _ => rfl

theorem visits_pair_of_succeeds (hs : p.Succeeds w u x) :
    (pair p q).visits w = p.visits w ++ q.visits u := by
  rw [visits, hs]

theorem visits_pair_of_not_succeeds (hs : ¬ ∃ r x, p.Succeeds w r x) :
    (pair p q).visits w = p.visits w := by
  rw [visits]
  split
  case h_1 u x hp => exact absurd ⟨u, x, hp⟩ hs
  case h_2 => rfl

-- ============================================================== courses

/-- The moments of the run on a window: either all of them pass, or all but
the last, which ends the run. -/
def CourseOn (p : Parser) (w : Window) (h : List Moment) : Prop :=
  (∃ r x, p.Completes h x ∧ Leads w h r ∧
    p.run w = ⟨h.flatMap calls, .ok (.success r x)⟩) ∨
  (∃ k m u exit, h = k ++ [m] ∧ p.Reaches h ∧ Leads w k u ∧
    Stops u m exit ∧ p.run w = ⟨h.flatMap calls, exit⟩)

theorem exists_courseOn (p : Parser) (w : Window) : ∃ h, p.CourseOn w h := by
  rcases p.completesOn_or_stopsOn w with ⟨h, r, x, hc, hlead, hrun⟩ |
    ⟨h, m, u, exit, hreach, hlead, hstop, hrun⟩
  · exact ⟨h, Or.inl ⟨r, x, hc, hlead, hrun⟩⟩
  · exact ⟨h ++ [m],
      Or.inr ⟨h, m, u, exit, rfl, hreach, hlead, hstop, hrun⟩⟩

theorem CourseOn.leaves (hc : p.CourseOn w h) :
    h.filterMap leaf? <+: p.leaves := by
  rcases hc with ⟨r, x, hc, -, -⟩ | ⟨k, m, u, exit, -, hreach, -, -, -⟩
  · exact ⟨[], (List.append_nil _).trans hc.leaves⟩
  · exact hreach.leaves

theorem Reaches.ne_nil (h' : p.Reaches h) : h ≠ [] := by
  induction h' with
  | leaf _ _ => exact List.cons_ne_nil _ _
  | inside _ ih => exact ih
  | transform _ =>
      exact List.append_ne_nil_of_right_ne_nil _ (List.cons_ne_nil _ _)
  | first _ ih => exact ih
  | second _ _ ih => exact List.append_ne_nil_of_right_ne_nil _ ih

/-- A whole course leads to where the run succeeds, and has its visits. -/
theorem Completes.visits (hc : p.Completes h x) (hlead : Leads w h r) :
    p.Succeeds w r x ∧ h.filterMap visit? = p.visits w := by
  induction hc generalizing w r with
  | leaf hl hs =>
      cases leads_singleton_iff.1 hlead with
      | leaf hs' =>
          cases hs.symm.trans hs'
          exact ⟨hs, (visits_of_isLeaf hl _).symm⟩
  | map hp hf ih =>
      obtain ⟨u, hlead, hm⟩ := leads_append_iff.1 hlead
      obtain ⟨hs, hv⟩ := ih hlead
      cases leads_singleton_iff.1 hm with
      | transform _ =>
          refine ⟨succeeds_map_iff.2 ⟨_, hs, hf⟩, ?_⟩
          rw [List.filterMap_append, hv]
          exact List.append_nil _
  | pair hp hq ihp ihq =>
      obtain ⟨u, hlead, hlead'⟩ := leads_append_iff.1 hlead
      obtain ⟨hs, hv⟩ := ihp hlead
      obtain ⟨hs', hv'⟩ := ihq hlead'
      refine ⟨succeeds_pair_iff.2 ⟨u, _, _, hs, hs', rfl⟩, ?_⟩
      rw [List.filterMap_append, hv, hv', visits_pair_of_succeeds hs]

/-- A course that ends at a moment which does not pass has the visits of the
run, and the run does not succeed. -/
theorem Reaches.visits {exit : Except Fault (Outcome Value)}
    (hreach : p.Reaches h) (hh : h = k ++ [m]) (hlead : Leads w k u)
    (hstop : Stops u m exit) :
    (¬ ∃ r x, p.Succeeds w r x) ∧ h.filterMap visit? = p.visits w := by
  induction hreach generalizing w k with
  | leaf hl v =>
      have hh : [] ++ [Moment.leaf _ v] = k ++ [m] := hh
      obtain ⟨rfl, hm⟩ := List.append_inj' hh rfl
      cases hm
      cases hlead
      cases hstop with
      | failure hf =>
          exact ⟨hf.not_succeeds, (visits_of_isLeaf hl _).symm⟩
      | leafFault he =>
          exact ⟨he.not_succeeds, (visits_of_isLeaf hl _).symm⟩
  | inside _ ih =>
      obtain ⟨hns, hv⟩ := ih hh hlead
      refine ⟨?_, hv⟩
      rintro ⟨r, x, hs⟩
      obtain ⟨y, hs, -⟩ := succeeds_map_iff.1 hs
      exact hns ⟨r, y, hs⟩
  | transform hc =>
      -- What is below has run to its end, so only the transform can stop.
      obtain ⟨rfl, hm⟩ := List.append_inj' hh rfl
      cases hm
      obtain ⟨hs, hv⟩ := hc.visits hlead
      cases hstop with
      | transformFault hf =>
          refine ⟨?_, ?_⟩
          · rintro ⟨r, y, hs'⟩
            obtain ⟨x, hx, hy⟩ := succeeds_map_iff.1 hs'
            cases hs.symm.trans hx
            cases hf.symm.trans hy
          · rw [List.filterMap_append, hv]
            exact List.append_nil _
  | first _ ih =>
      obtain ⟨hns, hv⟩ := ih hh hlead
      refine ⟨?_, hv.trans (visits_pair_of_not_succeeds hns).symm⟩
      rintro ⟨r, x, hs⟩
      obtain ⟨u, y, z, hs, -, -⟩ := succeeds_pair_iff.1 hs
      exact hns ⟨u, y, hs⟩
  | second hc hq ih =>
      -- The last moment of the whole is the last one of the second part.
      have hlast := List.dropLast_concat_getLast hq.ne_nil
      rw [← hlast] at hh ih ⊢
      rw [← List.append_assoc] at hh
      obtain ⟨rfl, hm⟩ := List.append_inj' hh rfl
      cases hm
      obtain ⟨v, hlead, hlead'⟩ := leads_append_iff.1 hlead
      obtain ⟨hs, hv⟩ := hc.visits hlead
      obtain ⟨hns, hv'⟩ := ih rfl hlead'
      refine ⟨?_, ?_⟩
      · rintro ⟨r, x, hpair⟩
        obtain ⟨u, y, z, hs', hq', -⟩ := succeeds_pair_iff.1 hpair
        cases hs.symm.trans hs'
        exact hns ⟨r, z, hq'⟩
      · rw [List.filterMap_append, hv, hv', visits_pair_of_succeeds hs]

theorem CourseOn.visits (hc : p.CourseOn w h) :
    h.filterMap visit? = p.visits w := by
  rcases hc with ⟨r, x, hc, hlead, -⟩ |
    ⟨k, m, u, exit, hh, hreach, hlead, hstop, -⟩
  · exact (hc.visits hlead).2
  · exact (hreach.visits hh hlead hstop).2

end Parser

end ParserKit
