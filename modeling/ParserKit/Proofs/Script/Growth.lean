/-
How elements grow.

The elements of a family are made and then changed, in any order, so that none
gets below itself (`Session.growing`). At any time the session presents them as
they are by then (`Session.Presents`), and a step takes one change and no other
(`Session.Takes`).

# What is read

Reading goes down as many levels as there are cells. If no element is below
itself, that is enough to come to the end of every way down, and what is read of
an element is the node that it is in the family as it is by then
(`Carries.read_eq`).

# What is left of the order

A run leads from a session that carries a family to one that carries it as it
has grown, by induction over the steps. In what order the changes of different
lists were made can no longer be told, since the family does not depend on it
(`grown_congr`). That an element is the child of one other at most is not needed
for any of this.
-/
import ParserKit.Proofs.Script.Carrying
import ParserKit.Proofs.Value.Normal

namespace ParserKit.Script

variable {s s' : Session} {fam : Family} {ms : List Draft} {q : Change}
  {cs : List Change} {base first e : Nat} {x v : Value}

-- =============================================================== what is seen

namespace Session

/-- The session after several steps. -/
def through (s : Session) (steps : List Step) : Session :=
  steps.foldl (fun s step => (runOne step.perform s).2) s

/-- The session after several elements were made. -/
def making (s : Session) (ms : List Draft) : Session :=
  s.through (ms.map (Step.make s.results.length))

/-- The session after they were made and then changed. -/
def growing (s : Session) (ms : List Draft) (cs : List Change) : Session :=
  (s.making ms).through (cs.map (Step.change s.results.length))

/-- The present items of a list that is in the store. -/
def itemsOf (s : Session) (v : Value) : List Value :=
  match v.bare with
  | .cell id => s.store.items id
  | _ => []

/-- The name of a result, if it is an element. -/
def nameOf (s : Session) (n : Nat) : Value :=
  match (s.result n).bare with
  | .element name _ _ => name
  | _ => .none

/-- The present attributes of a result, if it is an element. -/
def attributesOf (s : Session) (n : Nat) : List Value :=
  match (s.result n).bare with
  | .element _ attributes _ => s.itemsOf attributes
  | _ => []

/-- The present children of a result, if it is an element. -/
def childrenOf (s : Session) (n : Nat) : List Value :=
  match (s.result n).bare with
  | .element _ _ children => s.itemsOf children
  | _ => []

/-- The results from `base` on are the elements of that family as it is. A child
is the element itself, and reading an element is reading all that is below
it. -/
structure Presents (s : Session) (base : Nat) (fam : Family) : Prop where
  name : ∀ e o, fam[e]? = some o →
    (s.nameOf (base + e)).unmarked = .text o.name
  attributes : ∀ e o, fam[e]? = some o →
    (s.attributesOf (base + e)).map Value.unmarked = o.attributes.map Node.pair
  children : ∀ e o, fam[e]? = some o →
    s.childrenOf (base + e) = o.children.map fun c => s.result (base + c)
  read : ∀ e < fam.length,
    (s.store.read (s.result (base + e))).unmarked = (fam.node e).value

/-- Among that many elements, the change has been made and no other: they are
what they were, names and all, and only the list that it appends to has other
items than before. -/
structure Takes (s s' : Session) (base size : Nat) (q : Change) : Prop where
  result : ∀ e < size, s'.result (base + e) = s.result (base + e)
  attributes : ∀ e < size, q.attributeTo? e = none →
    s'.attributesOf (base + e) = s.attributesOf (base + e)
  children : ∀ e < size, q.childTo? e = none →
    s'.childrenOf (base + e) = s.childrenOf (base + e)
  attribute_added : ∀ e < size, ∀ a, q.attributeTo? e = some a →
    ∃ x, x.unmarked = Node.pair a ∧
      s'.attributesOf (base + e) = s.attributesOf (base + e) ++ [x]
  child_added : ∀ e < size, ∀ c, q.childTo? e = some c →
    s'.childrenOf (base + e) =
      s.childrenOf (base + e) ++ [s.result (base + c)]

end Session

-- ==================================================================== reading

namespace Session

namespace Carries

theorem attributesOf_eq (h : s.Carries base first fam)
    (he : e < fam.length) :
    s.attributesOf (base + e) = s.store.items (first + 2 * e) := by
  obtain ⟨name, -, hresult⟩ := h.exists_element he
  unfold attributesOf
  rw [hresult]
  rfl

theorem childrenOf_eq (h : s.Carries base first fam) (he : e < fam.length) :
    s.childrenOf (base + e) = s.store.items (first + 2 * e + 1) := by
  obtain ⟨name, -, hresult⟩ := h.exists_element he
  unfold childrenOf
  rw [hresult]
  rfl

/-- Nothing else has changed among its elements. -/
theorem takes (h : s.Carries base first fam) (hclosed : fam.Closed)
    (hq : q.Within fam.length) (happends : s.Appends s' (cellOf first q) x)
    (hx : s.IsAddedBy base x q) : s.Takes s' base fam.length q := by
  have h' := h.grown hclosed hq happends hx
  have hlength := fam.length_grown [q]
  refine ⟨fun e he => h.result_eq happends he, fun e he hnone => ?_,
    fun e he hnone => ?_, fun e he a hsome => ?_, fun e he c hsome => ?_⟩
  · rw [h'.attributesOf_eq (hlength ▸ he), h.attributesOf_eq he]
    rcases attributes_appended happends hx e with ⟨-, hitems⟩ |
      ⟨a, hsome, -⟩
    · exact hitems
    · cases hnone.symm.trans hsome
  · rw [h'.childrenOf_eq (hlength ▸ he), h.childrenOf_eq he]
    rcases children_appended happends hx e with ⟨-, hitems⟩ | ⟨c, hsome, -⟩
    · exact hitems
    · cases hnone.symm.trans hsome
  · rw [h'.attributesOf_eq (hlength ▸ he), h.attributesOf_eq he]
    rcases attributes_appended happends hx e with ⟨hnone, -⟩ |
      ⟨a', hsome', hattribute, hitems⟩
    · cases hnone.symm.trans hsome
    · cases hsome.symm.trans hsome'
      exact ⟨x, hattribute.unmarked, hitems⟩
  · rw [h'.childrenOf_eq (hlength ▸ he), h.childrenOf_eq he]
    rcases children_appended happends hx e with ⟨hnone, -⟩ |
      ⟨c', hsome', hitems⟩
    · cases hnone.symm.trans hsome
    · cases hsome.symm.trans hsome'
      exact hitems

/-- As far down as every way goes, reading an element gives its node. -/
theorem readTo_eq {depth : Nat} (h : s.Carries base first fam)
    (hclosed : fam.Closed) (he : e < fam.length)
    (hends : fam.EndsWithin depth e) :
    (s.store.readTo depth (s.result (base + e))).unmarked =
      (fam.nodeTo depth e).value := by
  -- On the depth, with the element free: a child may have any number.
  induction depth generalizing e with
  | zero => cases hends
  | succ depth ih =>
      have ho := List.getElem?_eq_getElem he
      obtain ⟨name, hname, hresult⟩ := h.element e _ ho
      have hbelow : ∀ c ∈ fam[e].children,
          (s.store.readTo depth (s.result (base + c))).unmarked =
            (fam.nodeTo depth c).value := by
        intro c hc
        have hchild : fam.IsChild c e := ⟨_, ho, hc⟩
        exact ih (hclosed c e hchild) (hends c hchild)
      rw [hresult, Store.readTo_elementAt hname (h.attributes e _ ho),
        h.children e _ ho, Family.nodeTo_succ depth ho, List.map_map]
      show _ = Value.element _ _ (.list (Node.values _))
      rw [Node.values_eq_map, List.map_map]
      exact congrArg (fun cs => Value.element _ _ (.list cs))
        (List.map_congr_left hbelow)

/-- Reading an element gives its node. -/
theorem read_eq (h : s.Carries base first fam) (hacyclic : fam.Acyclic)
    (hclosed : fam.Closed) (he : e < fam.length) :
    (s.store.read (s.result (base + e))).unmarked = (fam.node e).value := by
  have hends := hacyclic.endsWithin hclosed he
  have hle : fam.length ≤ s.store.cells.length := by
    have hcells := h.cells_le
    omega
  unfold Store.read Family.node
  rw [h.readTo_eq hclosed he (hends.mono hle), hends.nodeTo_eq hclosed he hle]

/-- And so there is nothing in the way of showing it. -/
theorem shown_eq (h : s.Carries base first fam) (hacyclic : fam.Acyclic)
    (hclosed : fam.Closed) (he : e < fam.length) :
    shown (s.store.read (s.result (base + e))) =
      .ok (s.store.read (s.result (base + e))) := by
  unfold shown
  rw [Value.displayFault?_of_isData
    (Node.isData_of_unmarked_eq (h.read_eq hacyclic hclosed he))]

theorem presents (h : s.Carries base first fam) (hacyclic : fam.Acyclic)
    (hclosed : fam.Closed) : s.Presents base fam := by
  have hlt : ∀ {e : Nat} {o : Outline}, fam[e]? = some o → e < fam.length :=
    fun ho => (List.getElem?_eq_some_iff.1 ho).1
  refine ⟨fun e o ho => ?_, fun e o ho => ?_, fun e o ho => ?_,
    fun e he => h.read_eq hacyclic hclosed he⟩
  · obtain ⟨name, hname, hresult⟩ := h.element e o ho
    unfold nameOf
    rw [hresult]
    exact hname.unmarked
  · rw [h.attributesOf_eq (hlt ho)]
    exact Value.map_unmarked_attributes (h.attributes e o ho)
  · rw [h.childrenOf_eq (hlt ho)]
    exact h.children e o ho

end Carries

end Session

-- ======================================================================= runs

/-- The step came to something that can be shown, and nothing was logged or
called. -/
def Record.Plain (r : Record) : Prop :=
  ∃ v, r = ⟨.ok v, [], []⟩

theorem Record.plain_of_shown (h : shown v = .ok x) :
    (Record.of (shown v) []).Plain := by
  rw [h]
  exact ⟨x, rfl⟩

namespace Session

theorem through_append (s : Session) (as bs : List Step) :
    s.through (as ++ bs) = (s.through as).through bs :=
  List.foldl_append

/-- The records of the first steps, and then those of the others. -/
theorem runFrom_append (s : Session) (as bs : List Step) :
    runFrom s (as ++ bs) = runFrom s as ++ runFrom (s.through as) bs := by
  induction as generalizing s with
  | nil => rfl
  | cons a as ih => exact congrArg (_ :: ·) (ih _)

theorem through_cons {step : Step} {r : Record} (steps : List Step)
    (h : runOne step.perform s = (r, s')) :
    s.through (step :: steps) = s'.through steps := by
  show (runOne step.perform s).2.through steps = _
  rw [h]

theorem runFrom_cons {step : Step} {r : Record} (steps : List Step)
    (h : runOne step.perform s = (r, s')) :
    runFrom s (step :: steps) = r :: runFrom s' steps := by
  show (runOne step.perform s).1 :: runFrom (runOne step.perform s).2 steps = _
  rw [h]

/-- Making the rest of a family. -/
theorem CarriesLast.through_make {todo : List Draft}
    (h : s.CarriesLast base first fam)
    (hordered : Family.Ordered (fam ++ Family.made todo)) :
    (s.through (todo.map (Step.make base))).CarriesLast base first
        (fam ++ Family.made todo) ∧
      s.Spares (s.through (todo.map (Step.make base))) first ∧
      ∀ r ∈ runFrom s (todo.map (Step.make base)), r.Plain := by
  induction todo generalizing s fam with
  | nil =>
      rw [Family.append_made_nil]
      exact ⟨h, .refl s first, List.forall_mem_nil _⟩
  | cons d todo ih =>
      rw [Family.append_made_cons] at hordered ⊢
      have hfront : Family.Ordered (fam ++ [d.outline]) := hordered.of_append
      have hlast : (fam ++ [d.outline])[fam.length]? = some d.outline :=
        List.getElem?_concat_length
      obtain ⟨s', hone, h', hspares⟩ := h.make hfront.of_append.closed
        fun c hc => hfront c _ ⟨d.outline, hlast, hc⟩
      have hlt : fam.length < (fam ++ [d.outline]).length :=
        (List.getElem?_eq_some_iff.1 hlast).1
      have hshown := h'.shown_eq hfront.acyclic hfront.closed hlt
      obtain ⟨hcarries, hspares', hrecords⟩ := ih h' hordered
      rw [List.map_cons, through_cons _ hone, runFrom_cons _ hone]
      exact ⟨hcarries, hspares.trans hspares',
        List.forall_mem_cons.2 ⟨Record.plain_of_shown hshown, hrecords⟩⟩

/-- Making several changes. -/
theorem Carries.through_change (h : s.Carries base first fam)
    (hclosed : fam.Closed) (hcs : ∀ q ∈ cs, q.Within fam.length)
    (hacyclic : (fam.grown cs).Acyclic) :
    (s.through (cs.map (Step.change base))).Carries base first
        (fam.grown cs) ∧
      s.Spares (s.through (cs.map (Step.change base))) first ∧
      ∀ r ∈ runFrom s (cs.map (Step.change base)), r.Plain := by
  -- Session and family stay free, and what is kept is that the one carries the
  -- other. That no cycle comes up on the way follows from the end.
  induction cs generalizing s fam with
  | nil =>
      rw [Family.grown_nil]
      exact ⟨h, .refl s first, List.forall_mem_nil _⟩
  | cons q cs ih =>
      obtain ⟨hq, hcs⟩ := List.forall_mem_cons.1 hcs
      obtain ⟨x, s', hone, happends, hx⟩ := h.change hq
      have h' := h.grown hclosed hq happends hx
      have hspares : s.Spares s' first := happends.spares (le_cellOf first q)
      have hclosed' : (fam.grown [q]).Closed :=
        hclosed.grown (List.forall_mem_singleton.2 hq)
      have hlength := fam.length_grown [q]
      have hfirst : (fam.grown [q]).Acyclic := hacyclic.of_grown_append
      have hshown := h'.shown_eq hfirst hclosed' (hlength ▸ hq.element_lt)
      rw [← List.singleton_append, Family.grown_append] at hacyclic ⊢
      obtain ⟨hcarries, hspares', hrecords⟩ :=
        ih h' hclosed' (by rwa [hlength]) hacyclic
      rw [List.singleton_append, List.map_cons, through_cons _ hone,
        runFrom_cons _ hone]
      exact ⟨hcarries, hspares.trans hspares',
        List.forall_mem_cons.2 ⟨Record.plain_of_shown hshown, hrecords⟩⟩

-- ==================================================================== growing

/-- Nothing has been made. -/
theorem carriesLast_nil (s : Session) :
    s.CarriesLast s.results.length s.store.cells.length [] :=
  ⟨⟨nofun, nofun, nofun, Nat.le_refl _, Nat.le_refl _⟩, rfl, rfl⟩

/-- A family that grows is carried as it is by then, what there was before is
spared, and every step comes to something. -/
theorem growing_carries (s : Session) (hms : Family.made ms = fam)
    (hfam : fam.Ordered) (hcs : ∀ q ∈ cs, q.Within fam.length)
    (hacyclic : (fam.grown cs).Acyclic) :
    (s.growing ms cs).Carries s.results.length s.store.cells.length
        (fam.grown cs) ∧
      s.Spares (s.growing ms cs) s.store.cells.length ∧
      ∀ r ∈ runFrom s (ms.map (Step.make s.results.length) ++
        cs.map (Step.change s.results.length)), r.Plain := by
  subst hms
  have hordered : Family.Ordered ([] ++ Family.made ms) := hfam
  obtain ⟨hmade, hspares, hrecords⟩ :=
    s.carriesLast_nil.through_make hordered
  obtain ⟨hcarries, hspares', hrecords'⟩ :=
    hmade.through_change hfam.closed hcs hacyclic
  refine ⟨hcarries, hspares.trans hspares', ?_⟩
  rw [runFrom_append]
  exact List.forall_mem_append.2 ⟨hrecords, hrecords'⟩

/-- A change that is one of several is made after those before it. -/
theorem growing_take_succ {k : Nat} (s : Session) (ms : List Draft)
    (h : cs[k]? = some q) :
    s.growing ms (cs.take (k + 1)) =
      (runOne (Step.change s.results.length q).perform
        (s.growing ms (cs.take k))).2 := by
  unfold growing
  rw [List.take_add_one, h, List.map_append, through_append]
  rfl

/-- If the family has no cycle in the end, it is carried all the way. -/
theorem growing_take_carries (s : Session) (hms : Family.made ms = fam)
    (hfam : fam.Ordered) (hcs : ∀ q ∈ cs, q.Within fam.length)
    (hacyclic : (fam.grown cs).Acyclic) (k : Nat) :
    (s.growing ms (cs.take k)).Carries s.results.length s.store.cells.length
        (fam.grown (cs.take k)) ∧
      (fam.grown (cs.take k)).Acyclic ∧ (fam.grown (cs.take k)).Closed := by
  have hk : ∀ q ∈ cs.take k, q.Within fam.length :=
    fun q hq => hcs q (List.mem_of_mem_take hq)
  rw [← List.take_append_drop k cs] at hacyclic
  have hacyclic' := hacyclic.of_grown_append
  exact ⟨(s.growing_carries hms hfam hk hacyclic').1, hacyclic',
    hfam.closed.grown hk⟩

/-- A change shows the element as it is after it, and nothing else happens. -/
theorem growing_takes {k : Nat} (s : Session) (hms : Family.made ms = fam)
    (hfam : fam.Ordered) (hcs : ∀ q ∈ cs, q.Within fam.length)
    (hacyclic : (fam.grown cs).Acyclic) (h : cs[k]? = some q) :
    (s.growing ms (cs.take k)).Takes (s.growing ms (cs.take (k + 1)))
        s.results.length fam.length q ∧
      ∃ v, v.unmarked =
          ((fam.grown (cs.take (k + 1))).node q.element).value ∧
        runOne (Step.change s.results.length q).perform
            (s.growing ms (cs.take k)) =
          (⟨.ok v, [], []⟩, s.growing ms (cs.take (k + 1))) := by
  obtain ⟨hcarries, -, hclosed⟩ :=
    s.growing_take_carries hms hfam hcs hacyclic k
  obtain ⟨hcarries', hacyclic', hclosed'⟩ :=
    s.growing_take_carries hms hfam hcs hacyclic (k + 1)
  have hq : q.Within fam.length := hcs q (List.mem_of_getElem? h)
  have he : q.element < (fam.grown (cs.take (k + 1))).length := by
    rw [Family.length_grown]
    exact hq.element_lt
  rw [← fam.length_grown (cs.take k)] at hq
  obtain ⟨x, s', hone, happends, hx⟩ := hcarries.change hq
  have htakes := hcarries.takes hclosed hq happends hx
  obtain rfl : s' = s.growing ms (cs.take (k + 1)) := by
    rw [s.growing_take_succ ms h, hone]
  rw [Family.length_grown] at htakes
  refine ⟨htakes, _, hcarries'.read_eq hacyclic' hclosed' he, ?_⟩
  rw [hone, hcarries'.shown_eq hacyclic' hclosed' he]
  rfl

namespace Carries

/-- Two sessions that carry the same family agree on it. -/
theorem compare_eq {base' first' : Nat} (h : s.Carries base first fam)
    (h' : s'.Carries base' first' fam) (hacyclic : fam.Acyclic)
    (hclosed : fam.Closed) (he : e < fam.length) :
    (s.store.read (s.result (base + e))).compare
      (s'.store.read (s'.result (base' + e))) = .ok true := by
  have hread := h.read_eq hacyclic hclosed he
  have hread' := h'.read_eq hacyclic hclosed he
  rw [Value.compare_of_isData (Node.isData_of_unmarked_eq hread)
    (Node.isData_of_unmarked_eq hread')]
  exact congrArg Except.ok ((Node.beq_iff_of_unmarked_eq hread hread').2 rfl)

/-- Carried twice by one session, it is equal to itself there. -/
theorem run_equal {base' first' : Nat} (h : s.Carries base first fam)
    (h' : s.Carries base' first' fam) (hacyclic : fam.Acyclic)
    (hclosed : fam.Closed) (he : e < fam.length) :
    (Step.equal (.ref (base + e)) (.ref (base' + e))).perform.run s =
      pure (.bool true, s) := by
  have hcompare := h.compare_eq h' hacyclic hclosed he
  show (Value.bool <$> Eval.ofExcept
    ((s.store.read (s.result (base + e))).compare
      (s.store.read (s.result (base' + e))))).run s = _
  rw [hcompare]
  rfl

end Carries

end Session

-- ================================================================= the result

/-- Elements are made one after another, with lists of their own or with some
left out, and then changed, in any order, so that none gets below itself. Then
every step comes to something, with nothing logged and nothing called. At any
time the session has the elements as they are by then: the lists of each have
what they were made with, which is nothing if they were left out, and behind
that what was appended to them, in order, and what is read of a child is the
child as it is now. A step changes the one list that it appends to; the other
lists, and the elements themselves with their names, are what they were. If the
changes are made in another order, but for each list in the same, the elements
end equal: to those of any other session, and to those that the same session has
made before. -/
theorem elements_grow (s : Session) (hms : Family.made ms = fam)
    (hfam : fam.Ordered) (hcs : ∀ q ∈ cs, q.Within fam.length)
    (hacyclic : (fam.grown cs).Acyclic) :
    (∀ r ∈ runFrom s (ms.map (Step.make s.results.length) ++
      cs.map (Step.change s.results.length)), r.Plain) ∧
    (∀ k, (s.growing ms (cs.take k)).Presents s.results.length
      (fam.grown (cs.take k))) ∧
    (∀ e m, ms[e]? = some m → (fam.grown cs).node e =
      .node m.name (m.attributes?.getD [] ++ Change.attributesTo cs e)
        ((m.children?.getD [] ++ Change.childrenTo cs e).map
          (fam.grown cs).node)) ∧
    (∀ k q, cs[k]? = some q →
      (s.growing ms (cs.take k)).Takes (s.growing ms (cs.take (k + 1)))
          s.results.length fam.length q ∧
        ∃ v, v.unmarked =
            ((fam.grown (cs.take (k + 1))).node q.element).value ∧
          runOne (Step.change s.results.length q).perform
              (s.growing ms (cs.take k)) =
            (⟨.ok v, [], []⟩, s.growing ms (cs.take (k + 1)))) ∧
    ∀ ds : List Change, (∀ q ∈ ds, q.Within fam.length) →
      (∀ e < fam.length,
        Change.attributesTo ds e = Change.attributesTo cs e ∧
          Change.childrenTo ds e = Change.childrenTo cs e) →
      ∀ ms' : List Draft, Family.made ms' = fam → ∀ e < fam.length,
        (∀ s' : Session,
          ((s.growing ms cs).store.read
              ((s.growing ms cs).result (s.results.length + e))).compare
            ((s'.growing ms' ds).store.read
              ((s'.growing ms' ds).result (s'.results.length + e))) =
            .ok true) ∧
        (Step.equal (.ref (s.results.length + e))
            (.ref ((s.growing ms cs).results.length + e))).perform.run
              ((s.growing ms cs).growing ms' ds) =
          pure (.bool true, (s.growing ms cs).growing ms' ds) := by
  obtain ⟨hcarries, -, hrecords⟩ := s.growing_carries hms hfam hcs hacyclic
  have hclosed : (fam.grown cs).Closed := hfam.closed.grown hcs
  refine ⟨hrecords, fun k => ?_, fun e m hm => ?_,
    fun k q => s.growing_takes hms hfam hcs hacyclic,
    fun ds hds hlists ms' hms' e he => ?_⟩
  · obtain ⟨hcarriesk, hacyclick, hclosedk⟩ :=
      s.growing_take_carries hms hfam hcs hacyclic k
    exact hcarriesk.presents hacyclick hclosedk
  · have ho : fam[e]? = some m.outline := by
      rw [← hms, Family.made, List.getElem?_map, hm]
      rfl
    exact Family.node_eq hacyclic hclosed (Family.getElem?_grown ho cs)
  · -- The second run carries the same family: it shows nothing of the order.
    have hsame : fam.grown ds = fam.grown cs := Family.grown_congr hlists
    have he' : e < (fam.grown cs).length := by
      rw [Family.length_grown]
      exact he
    have hagain := fun s' : Session =>
      s'.growing_carries hms' hfam hds (hsame ▸ hacyclic)
    rw [hsame] at hagain
    constructor
    · intro s'
      exact hcarries.compare_eq (hagain s').1 hacyclic hclosed he'
    · obtain ⟨hsecond, hspares, -⟩ := hagain (s.growing ms cs)
      exact (hcarries.extend hclosed hspares hcarries.cells_le).run_equal
        hsecond hacyclic hclosed he'

/-- Three elements: the first without children, the second with the first in it
and the third with nothing but a name; the first then gets the third, which is
changed before and after that. The changes are made once more to three others,
each list by itself, with empty lists written down where before there were
none. -/
theorem elements_grow_shuffled :
    let ms : List Draft := [⟨['a'], some [(['x'], ['y'])], none⟩,
      ⟨['b'], none, some [0]⟩, ⟨['c'], none, none⟩]
    let ms' : List Draft := [⟨['a'], some [(['x'], ['y'])], some []⟩,
      ⟨['b'], some [], some [0]⟩, ⟨['c'], some [], none⟩]
    let fam := Family.made ms
    let cs : List Change := [.addAttribute 2 ['u'] ['1'], .addChild 0 2,
      .addAttribute 0 ['x'] ['z'], .addAttribute 2 ['u'] ['2']]
    let ds : List Change := [.addAttribute 0 ['x'] ['z'],
      .addAttribute 2 ['u'] ['1'], .addAttribute 2 ['u'] ['2'], .addChild 0 2]
    let c : Node := .node ['c'] [(['u'], ['1']), (['u'], ['2'])] []
    let a : Node := .node ['a'] [(['x'], ['y']), (['x'], ['z'])] [c]
    let t := Session.start.growing ms cs
    Family.made ms' = fam ∧ fam.Ordered ∧ (∀ q ∈ cs, q.Within fam.length) ∧
      (fam.grown cs).Acyclic ∧
      (t.store.read (t.result 1)).unmarked = (Node.node ['b'] [] [a]).value ∧
      ∀ e < 3, (Step.equal (.ref e)
          (.ref (t.results.length + e))).perform.run (t.growing ms' ds) =
        pure (.bool true, t.growing ms' ds) := by
  intro ms ms' fam cs ds c a t
  have hms' : Family.made ms' = fam := rfl
  have hfam : fam.Ordered := by decide
  have hcs : ∀ q ∈ cs, q.Within fam.length := by decide
  have hds : ∀ q ∈ ds, q.Within fam.length := by decide
  have hacyclic : (fam.grown cs).Acyclic :=
    Family.acyclic_of_rank (fun e => (e + 1) % 3)
      (Family.forall_isChild_iff.2 (by decide))
  have hlists : ∀ e < fam.length,
      Change.attributesTo ds e = Change.attributesTo cs e ∧
        Change.childrenTo ds e = Change.childrenTo cs e := by decide
  obtain ⟨-, hpresents, -, -, hruns⟩ :=
    elements_grow Session.start (rfl : Family.made ms = fam) hfam hcs hacyclic
  have hread : (t.store.read (t.result 1)).unmarked =
      (Node.node ['b'] [] [a]).value :=
    (hpresents cs.length).read 1 (by decide)
  refine ⟨hms', hfam, hcs, hacyclic, hread, fun e he => ?_⟩
  have hequal := (hruns ds hds hlists ms' hms' e he).2
  rwa [show Session.start.results.length = 0 from rfl, Nat.zero_add] at hequal

end ParserKit.Script
