/-
Families: elements that have each other as children.

An element that others have as a child is the same element for all of them, so
it cannot be written down once for each. A `Family` is a list of outlines, and
in an outline the children are numbers, which say where in the family they are.
An element may be made without one of its lists, or both (`Draft`), and begins
with none of what the list would hold.

What is appended to an element, an attribute or a child, is a `Change`, and
`Family.grown` is what several changes make of a family: each element has,
behind what it had, what the changes append to it, in order.

# The node that an element is

If no element lies below itself, there is a node for each element, whose
children are the nodes of its children as they are in that family
(`node_eq`). It is found by going down as many levels as the family has elements
(`Family.node`). That is deep enough: a child has fewer elements below it than
the element that it is in (`card_below_lt`), so every way down ends in time
(`Acyclic.endsWithin`).
-/
import Mathlib.Data.Finset.Card
import Mathlib.Logic.Relation
import ParserKit.Proofs.Value.Node

namespace ParserKit

-- ================================================================ families

/-- An element, with its children by their numbers. -/
structure Outline where
  name : Text
  attributes : List (Text × Text)
  children : List Nat
  deriving DecidableEq, Repr

/-- What an element is made from. Its lists may be left out. -/
structure Draft where
  name : Text
  attributes? : Option (List (Text × Text))
  children? : Option (List Nat)
  deriving DecidableEq, Repr

/-- The element that is made. -/
def Draft.outline (d : Draft) : Outline :=
  ⟨d.name, d.attributes?.getD [], d.children?.getD []⟩

/-- Elements that have each other as children. -/
abbrev Family := List Outline

namespace Family

/-- The elements that are made from several drafts. -/
def made (ds : List Draft) : Family :=
  ds.map Draft.outline

theorem append_made_nil (fam : Family) : fam ++ made [] = fam :=
  List.append_nil fam

theorem append_made_cons (fam : Family) (d : Draft) (ds : List Draft) :
    fam ++ made (d :: ds) = fam ++ [d.outline] ++ made ds :=
  List.append_cons fam d.outline (made ds)

variable {fam : Family} {o : Outline} {c d e depth depth' : Nat}

/-- One element is a child of another. -/
def IsChild (fam : Family) (c e : Nat) : Prop :=
  ∃ o, fam[e]? = some o ∧ c ∈ o.children

/-- No element lies below itself. -/
def Acyclic (fam : Family) : Prop :=
  ∀ e, ¬ Relation.TransGen fam.IsChild e e

/-- Children are elements of the family. -/
def Closed (fam : Family) : Prop :=
  ∀ c e, fam.IsChild c e → c < fam.length

/-- Children come before the elements that have them. -/
def Ordered (fam : Family) : Prop :=
  ∀ c e, fam.IsChild c e → c < e

theorem IsChild.lt_length (h : fam.IsChild c e) : e < fam.length := by
  obtain ⟨o, ho, -⟩ := h
  exact (List.getElem?_eq_some_iff.1 ho).1

/-- All children are found by going through the family once. -/
theorem forall_isChild_iff {P : Nat → Nat → Prop} :
    (∀ c e, fam.IsChild c e → P c e) ↔
      ∀ p ∈ fam.zipIdx, ∀ c ∈ p.1.children, P c p.2 := by
  constructor
  · intro h p hp c hc
    exact h c p.2 ⟨p.1, List.mem_zipIdx_iff_getElem?.1 hp, hc⟩
  · intro h c e hce
    obtain ⟨o, ho, hc⟩ := hce
    exact h (o, e) (List.mem_zipIdx_iff_getElem?.2 ho) c hc

instance (fam : Family) : Decidable fam.Ordered :=
  decidable_of_iff _ forall_isChild_iff.symm

/-- What holds of the elements of a family, and of one more, holds of those of
the longer family. -/
theorem forall_concat {P : Nat → Outline → Prop}
    (h : ∀ e o, fam[e]? = some o → P e o) (ho : P fam.length o) :
    ∀ e o', (fam ++ [o])[e]? = some o' → P e o' := by
  intro e o' he
  rcases Nat.lt_trichotomy e fam.length with hlt | rfl | hlt
  · rw [List.getElem?_append_left hlt] at he
    exact h e o' he
  · rw [List.getElem?_concat_length] at he
    cases he
    exact ho
  · rw [List.getElem?_eq_none (by rw [List.length_append]; exact hlt)] at he
    cases he

theorem Ordered.closed (h : fam.Ordered) : fam.Closed :=
  fun c e hc => (h c e hc).trans hc.lt_length

theorem Ordered.of_append {fam' : Family} (h : Ordered (fam ++ fam')) :
    fam.Ordered := by
  intro c e hc
  have he := hc.lt_length
  obtain ⟨o, ho, hmem⟩ := hc
  rw [← List.getElem?_append_left he] at ho
  exact h c e ⟨o, ho, hmem⟩

/-- If children rank lower than what they are in, there is no way back. -/
theorem acyclic_of_rank (rank : Nat → Nat)
    (h : ∀ c e, fam.IsChild c e → rank c < rank e) : fam.Acyclic := by
  have hlt : ∀ c e, Relation.TransGen fam.IsChild c e → rank c < rank e := by
    intro c e hce
    induction hce with
    | single hc => exact h _ _ hc
    | tail _ hc ih => exact ih.trans (h _ _ hc)
  exact fun e he => Nat.lt_irrefl (rank e) (hlt e e he)

theorem Ordered.acyclic (h : fam.Ordered) : fam.Acyclic :=
  acyclic_of_rank id h

-- ========================================================= what lies below

open Classical in
/-- The elements below one. -/
noncomputable def below (fam : Family) (e : Nat) : Finset Nat :=
  (Finset.range fam.length).filter fun c => Relation.TransGen fam.IsChild c e

theorem mem_below_iff (h : fam.Closed) :
    c ∈ fam.below e ↔ Relation.TransGen fam.IsChild c e := by
  classical
  unfold below
  rw [Finset.mem_filter, Finset.mem_range, and_iff_right_iff_imp]
  intro hce
  obtain ⟨d, hcd, -⟩ := Relation.TransGen.head'_iff.1 hce
  exact h c d hcd

/-- Fewer elements lie below a child. -/
theorem card_below_lt (h : fam.Acyclic) (hclosed : fam.Closed)
    (hc : fam.IsChild c e) : (fam.below c).card < (fam.below e).card := by
  have hmem : c ∈ fam.below e := (mem_below_iff hclosed).2 (.single hc)
  have hnot : c ∉ fam.below c := fun hcc => h c ((mem_below_iff hclosed).1 hcc)
  have hsub : fam.below c ⊆ fam.below e := by
    intro d hd
    rw [mem_below_iff hclosed] at hd ⊢
    exact hd.tail hc
  exact Finset.card_lt_card ⟨hsub, fun hsup => hnot (hsup hmem)⟩

/-- Not all of the family lie below one of it. -/
theorem card_below_lt_length (h : fam.Acyclic) (hclosed : fam.Closed)
    (he : e < fam.length) : (fam.below e).card < fam.length := by
  classical
  have hnot : e ∉ fam.below e := fun hee => h e ((mem_below_iff hclosed).1 hee)
  have hsub : fam.below e ⊆ Finset.range fam.length := by
    unfold below
    exact Finset.filter_subset _ _
  rw [← Finset.card_range fam.length]
  exact Finset.card_lt_card
    ⟨hsub, fun hsup => hnot (hsup (Finset.mem_range.2 he))⟩

/-- Every way down from an element ends within that many elements. -/
def EndsWithin (fam : Family) : Nat → Nat → Prop
  | 0, _ => False
  | depth + 1, e => ∀ c, fam.IsChild c e → fam.EndsWithin depth c

theorem EndsWithin.mono (h : fam.EndsWithin depth e) (hle : depth ≤ depth') :
    fam.EndsWithin depth' e := by
  induction depth generalizing e depth' with
  | zero => cases h
  | succ depth ih =>
      obtain ⟨k, rfl⟩ : ∃ k, depth' = k + 1 := ⟨depth' - 1, by omega⟩
      exact fun c hc => ih (h c hc) (by omega)

theorem Acyclic.endsWithin (h : fam.Acyclic) (hclosed : fam.Closed)
    (he : e < fam.length) : fam.EndsWithin fam.length e := by
  -- On how many lie below: the numbers of the elements need not go down.
  have hbelow : ∀ n e, (fam.below e).card = n →
      fam.EndsWithin (n + 1) e := by
    intro n
    induction n using Nat.strong_induction_on with
    | _ n ih =>
        intro e he c hc
        have hlt := card_below_lt h hclosed hc
        rw [he] at hlt
        exact (ih _ hlt c rfl).mono hlt
  exact (hbelow _ e rfl).mono (card_below_lt_length h hclosed he)

-- ================================================================== nodes

/-- The node that an element is, as far down as that many levels. -/
def nodeTo (fam : Family) : Nat → Nat → Node
  | 0, _ => .node [] [] []
  | depth + 1, e =>
      let o := fam[e]?.getD ⟨[], [], []⟩
      .node o.name o.attributes (o.children.map (fam.nodeTo depth))

/-- The node that an element is. -/
def node (fam : Family) (e : Nat) : Node :=
  fam.nodeTo fam.length e

theorem nodeTo_succ (depth : Nat) (ho : fam[e]? = some o) :
    fam.nodeTo (depth + 1) e =
      .node o.name o.attributes (o.children.map (fam.nodeTo depth)) := by
  unfold nodeTo
  rw [ho]
  rfl

/-- Going down further than to the end makes no difference. -/
theorem EndsWithin.nodeTo_eq (h : fam.EndsWithin depth e)
    (hclosed : fam.Closed) (he : e < fam.length) (hle : depth ≤ depth') :
    fam.nodeTo depth' e = fam.nodeTo depth e := by
  induction depth generalizing e depth' with
  | zero => cases h
  | succ depth ih =>
      obtain ⟨k, rfl⟩ : ∃ k, depth' = k + 1 := ⟨depth' - 1, by omega⟩
      have ho := List.getElem?_eq_getElem he
      have hchildren : ∀ c ∈ fam[e].children,
          fam.nodeTo k c = fam.nodeTo depth c := by
        intro c hc
        have hchild : fam.IsChild c e := ⟨_, ho, hc⟩
        exact ih (h c hchild) (hclosed c e hchild) (by omega)
      rw [nodeTo_succ k ho, nodeTo_succ depth ho,
        List.map_congr_left hchildren]

/-- The node of an element has those of its children as children. -/
theorem node_eq (h : fam.Acyclic) (hclosed : fam.Closed)
    (ho : fam[e]? = some o) :
    fam.node e = .node o.name o.attributes (o.children.map fam.node) := by
  have he : e < fam.length := (List.getElem?_eq_some_iff.1 ho).1
  have hends := h.endsWithin hclosed he
  unfold node
  rw [← hends.nodeTo_eq hclosed he (Nat.le_succ _), nodeTo_succ _ ho]

end Family

-- ================================================================= changes

/-- What can be appended to an element of a family. -/
inductive Change where
  | addAttribute (e : Nat) (name value : Text)
  | addChild (e c : Nat)
  deriving DecidableEq, Repr

namespace Change

variable {cs ds : List Change} {e : Nat}

/-- The element that is changed. -/
def element : Change → Nat
  | .addAttribute e _ _ | .addChild e _ => e

/-- The elements that it names are among that many. -/
def Within (size : Nat) : Change → Prop
  | .addAttribute e _ _ => e < size
  | .addChild e c => e < size ∧ c < size

instance (size : Nat) (q : Change) : Decidable (q.Within size) :=
  match q with
  | .addAttribute e _ _ => inferInstanceAs (Decidable (e < size))
  | .addChild e c => inferInstanceAs (Decidable (e < size ∧ c < size))

/-- The attribute that an element gets from the change. -/
def attributeTo? (e : Nat) : Change → Option (Text × Text)
  | .addAttribute e' name value => if e' = e then some (name, value) else none
  | .addChild _ _ => none

/-- The child that an element gets from the change. -/
def childTo? (e : Nat) : Change → Option Nat
  | .addAttribute _ _ _ => none
  | .addChild e' c => if e' = e then some c else none

/-- The attributes that an element gets from several changes, in order. -/
def attributesTo (cs : List Change) (e : Nat) : List (Text × Text) :=
  cs.filterMap (attributeTo? e)

/-- The children that an element gets from several changes, in order. -/
def childrenTo (cs : List Change) (e : Nat) : List Nat :=
  cs.filterMap (childTo? e)

theorem attributesTo_singleton (q : Change) (e : Nat) :
    attributesTo [q] e = (q.attributeTo? e).toList := by
  unfold attributesTo
  cases h : q.attributeTo? e with
  | none => exact List.filterMap_cons_none h
  | some a => exact List.filterMap_cons_some h

theorem childrenTo_singleton (q : Change) (e : Nat) :
    childrenTo [q] e = (q.childTo? e).toList := by
  unfold childrenTo
  cases h : q.childTo? e with
  | none => exact List.filterMap_cons_none h
  | some c => exact List.filterMap_cons_some h

theorem Within.element_lt {q : Change} {size : Nat} (h : q.Within size) :
    q.element < size := by
  cases q with
  | addAttribute e name value => exact h
  | addChild e c => exact h.1

/-- Children are among the elements that the changes name. -/
theorem lt_of_mem_childrenTo {c size : Nat} (hcs : ∀ q ∈ cs, q.Within size)
    (hc : c ∈ childrenTo cs e) : c < size := by
  obtain ⟨q, hq, hqc⟩ := List.mem_filterMap.1 hc
  have hwithin := hcs q hq
  cases q with
  | addAttribute e' name value => cases hqc
  | addChild e' c' =>
      obtain ⟨-, hc'⟩ := Option.ite_none_right_eq_some.1 hqc
      cases hc'
      exact hwithin.2

end Change

namespace Family

variable {fam : Family} {o : Outline} {cs ds : List Change} {c e : Nat}

/-- The family after several changes. -/
def grown (fam : Family) (cs : List Change) : Family :=
  fam.mapIdx fun e o =>
    { o with
      attributes := o.attributes ++ Change.attributesTo cs e
      children := o.children ++ Change.childrenTo cs e }

@[simp] theorem length_grown (fam : Family) (cs : List Change) :
    (fam.grown cs).length = fam.length :=
  List.length_mapIdx

theorem getElem?_grown (ho : fam[e]? = some o) (cs : List Change) :
    (fam.grown cs)[e]? = some
      { o with
        attributes := o.attributes ++ Change.attributesTo cs e
        children := o.children ++ Change.childrenTo cs e } := by
  unfold grown
  rw [List.getElem?_mapIdx, ho]
  rfl

/-- What holds of each element with what it gets holds of the family after the
changes. -/
theorem forall_grown {P : Nat → Outline → Prop}
    (h : ∀ e o, fam[e]? = some o → P e
      { o with
        attributes := o.attributes ++ Change.attributesTo cs e
        children := o.children ++ Change.childrenTo cs e }) :
    ∀ e o, (fam.grown cs)[e]? = some o → P e o := by
  intro e o' ho'
  have he := (List.getElem?_eq_some_iff.1 ho').1
  rw [length_grown] at he
  have ho := List.getElem?_eq_getElem he
  cases ho'.symm.trans (getElem?_grown ho cs)
  exact h e _ ho

theorem grown_nil (fam : Family) : fam.grown [] = fam := by
  apply List.ext_getElem?
  intro e
  unfold grown
  rw [List.getElem?_mapIdx]
  cases fam[e]? with
  | none => rfl
  | some o =>
      show some { o with
        attributes := o.attributes ++ [], children := o.children ++ [] } = _
      rw [List.append_nil, List.append_nil]

/-- Changes can be made one after another. -/
theorem grown_append (fam : Family) (cs ds : List Change) :
    fam.grown (cs ++ ds) = (fam.grown cs).grown ds := by
  apply List.ext_getElem?
  intro e
  unfold grown Change.attributesTo Change.childrenTo
  simp only [List.getElem?_mapIdx, List.filterMap_append, Option.map_map,
    Function.comp_def, List.append_assoc]

/-- Only the order of the attributes, and that of the children, of one element
matter. -/
theorem grown_congr (h : ∀ e < fam.length,
    Change.attributesTo ds e = Change.attributesTo cs e ∧
      Change.childrenTo ds e = Change.childrenTo cs e) :
    fam.grown ds = fam.grown cs := by
  apply List.ext_getElem?
  intro e
  cases ho : fam[e]? with
  | none =>
      unfold grown
      rw [List.getElem?_mapIdx, List.getElem?_mapIdx, ho]
      rfl
  | some o =>
      obtain ⟨ha, hc⟩ := h e (List.getElem?_eq_some_iff.1 ho).1
      rw [getElem?_grown ho, getElem?_grown ho, ha, hc]

theorem isChild_grown_iff :
    (fam.grown cs).IsChild c e ↔
      fam.IsChild c e ∨ e < fam.length ∧ c ∈ Change.childrenTo cs e := by
  have hcases : ∀ e o, (fam.grown cs)[e]? = some o → c ∈ o.children →
      fam.IsChild c e ∨ e < fam.length ∧ c ∈ Change.childrenTo cs e := by
    refine forall_grown fun e o ho hc => ?_
    rcases List.mem_append.1 hc with hc | hc
    · exact Or.inl ⟨o, ho, hc⟩
    · exact Or.inr ⟨(List.getElem?_eq_some_iff.1 ho).1, hc⟩
  constructor
  · intro h
    obtain ⟨o, ho, hc⟩ := h
    exact hcases e o ho hc
  · intro h
    rcases h with ⟨o, ho, hc⟩ | ⟨he, hc⟩
    · exact ⟨_, getElem?_grown ho cs, List.mem_append_left _ hc⟩
    · exact ⟨_, getElem?_grown (List.getElem?_eq_getElem he) cs,
        List.mem_append_right _ hc⟩

theorem Closed.grown (h : fam.Closed)
    (hcs : ∀ q ∈ cs, q.Within fam.length) : (fam.grown cs).Closed := by
  intro c e hc
  rw [length_grown]
  rcases isChild_grown_iff.1 hc with hc | ⟨-, hc⟩
  · exact h c e hc
  · exact Change.lt_of_mem_childrenTo hcs hc

/-- What has no cycle in the end had none on the way. -/
theorem Acyclic.of_grown_append (h : (fam.grown (cs ++ ds)).Acyclic) :
    (fam.grown cs).Acyclic := by
  have hsub : (fam.grown cs).IsChild ≤ (fam.grown (cs ++ ds)).IsChild := by
    intro c d hcd
    rw [grown_append]
    exact isChild_grown_iff.2 (Or.inl hcd)
  exact fun e he => h e (Relation.TransGen.mono hsub e e he)

end Family

end ParserKit
