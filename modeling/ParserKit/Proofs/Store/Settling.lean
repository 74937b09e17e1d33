/-
What settling does to elements, and what reading makes of them again.

An element is settled once, when it is made. Its texts are known by then, its
children are settled, and its two lists are new; so settling puts the lists into
two cells that did not exist and changes no other (`settle_element`). From then
on the element is kept as it is (`Settled`): to hand it on, or to put it into
the list of another, is to hand on the references to its cells.

Reading replaces the references again. An attribute has none in it, so it is
read as it is (`map_readTo_attributes`), and the reading of an element is made
of the attributes and of the readings of its children (`readTo_elementAt`).
-/
import Mathlib.Data.List.Forall2
import ParserKit.Proofs.Value.Family
import ParserKit.Store

namespace ParserKit

-- ======================================================= words and attributes

namespace Value

/-- A text that is known by something that lasts. -/
def IsWord (v : Value) (t : Text) : Prop :=
  ∃ id, v = .known id (.text t) ∧ ∀ path, id ≠ .place path

/-- A pair of two such texts. -/
def IsPair (v : Value) (a : Text × Text) : Prop :=
  ∃ x y, v = .tuple [x, y] ∧ x.IsWord a.1 ∧ y.IsWord a.2

/-- Such a pair, known itself. -/
def IsAttribute (v : Value) (a : Text × Text) : Prop :=
  ∃ id x, v = .known id x ∧ x.IsPair a

/-- An element whose lists are in that cell and in the next. -/
def elementAt (name : Value) (i : Nat) : Value :=
  .element name (.cell i) (.cell (i + 1))

variable {v : Value} {t : Text} {a : Text × Text}

theorem IsWord.unmarked (h : v.IsWord t) : v.unmarked = .text t := by
  obtain ⟨id, rfl, -⟩ := h
  rfl

theorem IsAttribute.unmarked (h : v.IsAttribute a) :
    v.unmarked = Node.pair a := by
  obtain ⟨id, x, rfl, y, z, rfl, ⟨i, rfl, -⟩, ⟨j, rfl, -⟩⟩ := h
  rfl

theorem map_unmarked_attributes {xs : List Value} {as : List (Text × Text)}
    (h : List.Forall₂ IsAttribute xs as) :
    xs.map Value.unmarked = as.map Node.pair := by
  induction h with
  | nil => rfl
  | cons hx _ ih => rw [List.map_cons, ih, hx.unmarked, List.map_cons]

end Value

namespace Store

variable {v n : Value} {t : Text} {a : Text × Text} {xs cs : List Value}
  {as : List (Text × Text)}

-- ============================================================ what is settled

/-- Settling keeps the value as it is. -/
def Settled (v : Value) : Prop :=
  ∀ s : Settling, settleIn v s = (v, s)

theorem Settled.settle_eq (h : Settled v) (s : Store) :
    s.settle v = (v, s) := by
  unfold settle
  rw [h]

theorem settled_of_isWord (h : v.IsWord t) : Settled v := by
  obtain ⟨id, rfl, hid⟩ := h
  intro s
  cases id with
  | place path => exact absurd rfl (hid path)
  | _ => rfl

/-- An element whose lists are in cells is settled if its name is. -/
theorem settled_elementAt (hn : Settled n) (i : Nat) :
    Settled (n.elementAt i) := by
  intro s
  show ((settleIn n s).1.elementAt i, (settleIn n s).2) = _
  rw [hn]

/-- The second of two things is settled where the first one leaves off. -/
theorem settleAllIn_cons {x y : Value} {ys : List Value} {s s' s'' : Settling}
    (hx : settleIn x s = (y, s')) (hxs : settleAllIn xs s' = (ys, s'')) :
    settleAllIn (x :: xs) s = (y :: ys, s'') := by
  simp only [settleAllIn, hx, hxs]

theorem settleAllIn_of_settled (h : ∀ x ∈ xs, Settled x) (s : Settling) :
    settleAllIn xs s = (xs, s) := by
  induction xs with
  | nil => rfl
  | cons x xs ih =>
      obtain ⟨hx, hxs⟩ := List.forall_mem_cons.1 h
      exact settleAllIn_cons (hx s) (ih hxs)

-- ================================================================== settling

/-- A pair becomes known, and no cell changes. -/
theorem settleIn_pair (h : v.IsPair a) (s : Settling) :
    ∃ x s', settleIn v s = (x, s') ∧ x.IsAttribute a ∧
      s'.store.cells = s.store.cells := by
  obtain ⟨x, y, rfl, hx, hy⟩ := h
  have hitems : settleAllIn [x, y] s = ([x, y], s) :=
    settleAllIn_of_settled (List.forall_mem_cons.2 ⟨settled_of_isWord hx,
      List.forall_mem_singleton.2 (settled_of_isWord hy)⟩) s
  have hsettle : settleIn (.tuple [x, y]) s =
      s.name none (.tuple [x, y]) := by
    simp only [settleIn, hitems]
    rfl
  exact ⟨_, _, hsettle, ⟨_, _, rfl, x, y, rfl, hx, hy⟩, rfl⟩

theorem settleAllIn_pairs (h : List.Forall₂ Value.IsPair xs as)
    (s : Settling) :
    ∃ ys s', settleAllIn xs s = (ys, s') ∧
      List.Forall₂ Value.IsAttribute ys as ∧
      s'.store.cells = s.store.cells := by
  induction h generalizing s with
  | nil => exact ⟨[], s, rfl, List.Forall₂.nil, rfl⟩
  | cons hx _ ih =>
      obtain ⟨y, s₁, hy, hattribute, hcells⟩ := settleIn_pair hx s
      obtain ⟨ys, s₂, hys, hattributes, hcells'⟩ := ih s₁
      exact ⟨y :: ys, s₂, settleAllIn_cons hy hys,
        hattributes.cons hattribute, hcells'.trans hcells⟩

/-- A pair on its own. -/
theorem settle_pair (h : v.IsPair a) (s : Store) :
    ∃ x s', s.settle v = (x, s') ∧ x.IsAttribute a ∧ s'.cells = s.cells := by
  obtain ⟨x, s', hx, hattribute, hcells⟩ := settleIn_pair h ⟨s, []⟩
  refine ⟨x, s'.store, ?_, hattribute, hcells⟩
  unfold settle
  rw [hx]

/-- An element gets two cells of its own, behind all that there are. -/
theorem settle_element (hn : n.IsWord t) (has : List.Forall₂ Value.IsPair xs as)
    (hcs : ∀ c ∈ cs, Settled c) (s : Store) :
    ∃ ys s', s.settle (.element n (.list xs) (.list cs)) =
        (n.elementAt s.cells.length, s') ∧
      List.Forall₂ Value.IsAttribute ys as ∧
      s'.cells = s.cells ++ [ys, cs] := by
  obtain ⟨ys, s₁, hys, hattributes, hcells⟩ := settleAllIn_pairs has ⟨s, []⟩
  have hname : settleIn n ⟨s, []⟩ = (n, ⟨s, []⟩) := settled_of_isWord hn _
  have hchildren : ∀ s, settleAllIn cs s = (cs, s) := settleAllIn_of_settled hcs
  refine ⟨ys, ⟨s₁.store.nextId, s.cells ++ [ys, cs]⟩, ?_, hattributes, rfl⟩
  simp only [settle, settleIn, hname, hys, hchildren, Settling.keep, alloc,
    hcells, List.length_append, List.length_singleton, List.append_assoc,
    List.singleton_append, Value.elementAt]

-- =================================================================== reading

/-- Attributes refer to no cell. -/
theorem map_readTo_attributes (h : List.Forall₂ Value.IsAttribute xs as)
    (s : Store) (depth : Nat) : xs.map (s.readTo depth) = xs := by
  induction h with
  | nil => rfl
  | cons hx _ ih =>
      obtain ⟨id, x, rfl, y, z, rfl, ⟨i, rfl, -⟩, ⟨j, rfl, -⟩⟩ := hx
      rw [List.map_cons, ih]
      cases depth with
      | zero => rfl
      | succ depth => rfl

/-- What there is to read of an element: its name, its attributes, and what
there is to read of its children. -/
theorem readTo_elementAt {s : Store} {i : Nat} (hn : n.IsWord t)
    (has : List.Forall₂ Value.IsAttribute (s.items i) as) (depth : Nat) :
    (s.readTo (depth + 1) (n.elementAt i)).unmarked =
      .element (.text t) (.list (as.map Node.pair)) (.list
        ((s.items (i + 1)).map fun c => (s.readTo depth c).unmarked)) := by
  obtain ⟨id, rfl, -⟩ := hn
  show Value.element (.text t)
    (.list (Value.unmarkedAll ((s.items i).map (s.readTo depth))))
    (.list (Value.unmarkedAll ((s.items (i + 1)).map (s.readTo depth)))) = _
  rw [map_readTo_attributes has, Value.unmarkedAll_eq_map,
    Value.map_unmarked_attributes has, Value.unmarkedAll_eq_map, List.map_map]
  rfl

end Store

end ParserKit
