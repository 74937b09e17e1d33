/-
Elements of texts, and how they are told apart.

A `Node` is what an element is whose names, attributes and values are texts,
at any depth. It says no more than the element (`Node.value`): what parts of an
element are known by does not matter for print or comparison.

# Reading a node back

From the printed form the node can be told, and also where the form ends,
whatever follows it (`Node.shown_append_inj`). Texts are quoted, so what a name
or a value contains cannot be taken for the form. A list ends at a bracket, and
no item begins with one (`joined_append_inj`). The rest is by induction on the
node, with both printed forms taken apart together.

# Equality

An element is data, and its normal form is the node's value. So elements are
equal if their nodes are the same, which they are if they print alike.
-/
import Mathlib.Data.List.Forall2
import Mathlib.Data.List.TFAE
import ParserKit.Proofs.Text.Quoted
import ParserKit.Proofs.Value.Unmarked

namespace ParserKit

-- ================================================================== lists

namespace Value

variable {α : Type} {f : α → Text} {xs ys : List α} {t u : Text}

theorem joined_cons (t : Text) (ts : List Text) :
    joined comma (t :: ts) = t ++ ts.flatMap fun t => comma ++ t := by
  induction ts generalizing t with
  | nil => exact (List.append_nil t).symm
  | cons t' ts ih =>
      show t ++ comma ++ joined comma (t' :: ts) = _
      rw [ih, List.flatMap_cons, List.append_assoc, List.append_assoc]

/-- Items that show their own ends are read back one after another, up to the
bracket behind the last. -/
theorem flatMap_comma_append_inj
    (hf : ∀ x ∈ xs, ∀ y t u, f x ++ t = f y ++ u → x = y ∧ t = u)
    (h : (xs.flatMap fun x => comma ++ f x) ++ ']' :: t =
      (ys.flatMap fun y => comma ++ f y) ++ ']' :: u) : xs = ys ∧ t = u := by
  induction xs generalizing ys with
  | nil =>
      cases ys with
      | nil => exact ⟨rfl, (List.cons.inj h).2⟩
      | cons y ys => exact absurd (List.cons.inj h).1 (by decide)
  | cons x xs ih =>
      obtain ⟨hx, hxs⟩ := List.forall_mem_cons.1 hf
      cases ys with
      | nil => exact absurd (List.cons.inj h).1 (by decide)
      | cons y ys =>
          simp only [List.flatMap_cons, List.append_assoc,
            List.append_cancel_left_eq] at h
          obtain ⟨rfl, hrest⟩ := hx y _ _ h
          obtain ⟨rfl, rfl⟩ := ih hxs hrest
          exact ⟨rfl, rfl⟩

/-- So are those of a list, unless one of them begins with the bracket. -/
theorem joined_append_inj
    (hf : ∀ x ∈ xs, ∀ y t u, f x ++ t = f y ++ u → x = y ∧ t = u)
    (hbracket : ∀ x t u, f x ++ t ≠ ']' :: u)
    (h : joined comma (xs.map f) ++ ']' :: t =
      joined comma (ys.map f) ++ ']' :: u) : xs = ys ∧ t = u := by
  cases xs with
  | nil =>
      cases ys with
      | nil => exact ⟨rfl, (List.cons.inj h).2⟩
      | cons y ys =>
          rw [List.map_cons, joined_cons, List.append_assoc] at h
          exact absurd h.symm (hbracket y _ _)
  | cons x xs =>
      obtain ⟨hx, hxs⟩ := List.forall_mem_cons.1 hf
      rw [List.map_cons, joined_cons, List.append_assoc] at h
      cases ys with
      | nil => exact absurd h (hbracket x _ _)
      | cons y ys =>
          rw [List.map_cons, joined_cons, List.append_assoc] at h
          obtain ⟨rfl, hrest⟩ := hx y _ _ h
          rw [List.flatMap_map, List.flatMap_map] at hrest
          obtain ⟨rfl, rfl⟩ := flatMap_comma_append_inj hxs hrest
          exact ⟨rfl, rfl⟩

end Value

-- ================================================================== nodes

/-- A named node with attributes and children. -/
inductive Node where
  | node (name : Text) (attributes : List (Text × Text))
      (children : List Node)

namespace Node

variable {m n : Node} {t u : Text}

def name : Node → Text
  | .node name _ _ => name

def attributes : Node → List (Text × Text)
  | .node _ attributes _ => attributes

def children : Node → List Node
  | .node _ _ children => children

/-- An attribute as a value. -/
def pair (a : Text × Text) : Value :=
  .tuple [.text a.1, .text a.2]

mutual

/-- The element that a node is. -/
def value : Node → Value
  | .node name attributes children =>
      .element (.text name) (.list (attributes.map pair))
        (.list (values children))

/-- The elements that several nodes are. -/
def values : List Node → List Value
  | [] => []
  | n :: ns => value n :: values ns

end

/-- Induction over a node: what holds of it if it holds of its children. -/
@[elab_as_elim]
theorem node_induction {motive : Node → Prop}
    (node : ∀ name attributes children, (∀ c ∈ children, motive c) →
      motive (.node name attributes children)) : ∀ n, motive n
  | .node name attributes children =>
      node name attributes children fun c _ => node_induction node c
termination_by n => sizeOf n
decreasing_by
  have hlt := List.sizeOf_lt_of_mem ‹c ∈ children›
  rw [Node.node.sizeOf_spec]
  omega

theorem values_eq_map (ns : List Node) : values ns = ns.map value := by
  induction ns with
  | nil => rfl
  | cons n ns ih =>
      show value n :: values ns = _
      rw [ih, List.map_cons]

-- ================================================================= in print

/-- The printed form of a node. -/
def shown (n : Node) : Text :=
  n.value.render

theorem pair_append_inj {a b : Text × Text}
    (h : (pair a).render ++ t = (pair b).render ++ u) : a = b ∧ t = u := by
  have hform : ∀ (a : Text × Text) (t : Text), (pair a).render ++ t =
      '(' :: (Quoted.encode a.1 ++ (Value.comma ++
        (Quoted.encode a.2 ++ ')' :: t))) := by
    intro a t
    show '(' :: (Quoted.encode a.1 ++ Value.comma ++ Quoted.encode a.2)
      ++ [')'] ++ t = _
    simp only [List.cons_append, List.append_assoc, List.nil_append]
  rw [hform, hform] at h
  obtain ⟨hname, h⟩ := Quoted.encode_append_inj (List.cons.inj h).2
  obtain ⟨hvalue, h⟩ := Quoted.encode_append_inj (List.append_cancel_left h)
  exact ⟨Prod.ext hname hvalue, (List.cons.inj h).2⟩

theorem shown_node_append (name : Text) (attributes : List (Text × Text))
    (children : List Node) (t : Text) :
    (node name attributes children).shown ++ t =
      "Element(name=".toList ++ (Quoted.encode name ++
        (", attributes=[".toList ++
          (Value.joined Value.comma
            (attributes.map fun a => (pair a).render) ++ ']' :: (", children=[".toList ++
              (Value.joined Value.comma (children.map shown) ++
                ']' :: ')' :: t))))) := by
  have hattributes : Value.renderAll (attributes.map pair) =
      attributes.map fun a => (pair a).render := by
    rw [Value.renderAll_eq_map, List.map_map]
    rfl
  have hchildren : Value.renderAll (values children) = children.map shown := by
    rw [Value.renderAll_eq_map, values_eq_map, List.map_map]
    rfl
  show "Element(name=".toList ++ Quoted.encode name ++ ", attributes=".toList ++
    ('[' :: Value.joined Value.comma (Value.renderAll (attributes.map pair))
      ++ [']']) ++ ", children=".toList ++
    ('[' :: Value.joined Value.comma (Value.renderAll (values children))
      ++ [']']) ++ [')'] ++ t = _
  rw [hattributes, hchildren]
  simp only [List.append_assoc, List.cons_append, List.nil_append]
  rfl

/-- A node can be told from its printed form and what follows it. -/
theorem shown_append_inj (h : m.shown ++ t = n.shown ++ u) :
    m = n ∧ t = u := by
  have hpair : ∀ a t u, (pair a).render ++ t ≠ ']' :: u :=
    fun a t u h => absurd (List.cons.inj h).1 (by decide)
  have hnode : ∀ (n : Node) t u, n.shown ++ t ≠ ']' :: u := by
    intro n t u h
    obtain ⟨name, attributes, children⟩ := n
    rw [shown_node_append] at h
    exact absurd (List.cons.inj h).1 (by decide)
  induction m using node_induction generalizing n t u with
  | node name attributes children ih =>
      obtain ⟨name', attributes', children'⟩ := n
      rw [shown_node_append, shown_node_append] at h
      obtain ⟨rfl, hname⟩ :=
        Quoted.encode_append_inj (List.append_cancel_left h)
      obtain ⟨rfl, hattributes⟩ := Value.joined_append_inj
        (fun a _ b t u => pair_append_inj) hpair
        (List.append_cancel_left hname)
      obtain ⟨rfl, hchildren⟩ := Value.joined_append_inj
        (fun c hc d t u => ih c hc) hnode
        (List.append_cancel_left hattributes)
      exact ⟨rfl, (List.cons.inj hchildren).2⟩

theorem shown_injective (h : m.shown = n.shown) : m = n := by
  have happend : m.shown ++ [] = n.shown ++ [] := by rw [h]
  exact (shown_append_inj happend).1

-- ================================================================= as data

theorem bare_value (n : Node) : n.value.bare = n.value := by
  cases n
  rfl

theorem datum_value (n : Node) : n.value.Datum := by
  induction n using node_induction with
  | node name attributes children ih =>
      refine Value.Datum.element (Value.Datum.text name)
        (Value.Datum.list (List.forall_mem_map.2 fun a _ => ?_))
        (Value.Datum.list ?_)
      · exact Value.Datum.tuple (List.forall_mem_cons.2
          ⟨Value.Datum.text a.1,
            List.forall_mem_singleton.2 (Value.Datum.text a.2)⟩)
      · rw [values_eq_map]
        refine List.forall_mem_map.2 fun c hc => ?_
        rw [bare_value]
        exact ih c hc

theorem normalAll_eq_self {xs : List Value} (h : ∀ x ∈ xs, x.normal = x) :
    Value.normalAll xs = xs := by
  rw [Value.normalAll_eq_map, List.map_congr_left h, List.map_id']

theorem normal_value (n : Node) : n.value.normal = n.value := by
  induction n using node_induction with
  | node name attributes children ih =>
      show Value.element (.text name)
        (.list (Value.normalAll (attributes.map pair)))
        (.list (Value.normalAll (values children))) = _
      rw [normalAll_eq_self (List.forall_mem_map.2 fun a _ => rfl),
        values_eq_map, normalAll_eq_self (List.forall_mem_map.2 ih),
        ← values_eq_map]
      rfl

/-- Nodes are told apart by comparing their values. -/
theorem beq_value_iff : m.value.beq n.value = true ↔ m = n := by
  rw [m.datum_value.beq_iff n.datum_value, normal_value, normal_value]
  constructor
  · intro h
    exact shown_injective (congrArg Value.render h)
  · intro h
    rw [h]

-- ================================================================ elements

section Elements

variable {e e' : Value} (he : e.unmarked = m.value)
  (he' : e'.unmarked = n.value)

include he in
theorem isData_of_unmarked_eq : e.IsData := by
  apply Value.isData_of_unmarked
  rw [he]
  exact m.datum_value

include he he' in
theorem beq_iff_of_unmarked_eq : e.beq e' = true ↔ m = n := by
  have hdata := isData_of_unmarked_eq he
  have hdata' := isData_of_unmarked_eq he'
  rw [Value.beq_iff hdata hdata', ← Value.normal_unmarked hdata,
    ← Value.normal_unmarked hdata', he, he',
    ← m.datum_value.beq_iff n.datum_value, beq_value_iff]

include he he' in
theorem render_eq_iff_of_unmarked_eq : e.render = e'.render ↔ m = n := by
  rw [← Value.render_unmarked (isData_of_unmarked_eq he),
    ← Value.render_unmarked (isData_of_unmarked_eq he'), he, he']
  constructor
  · exact shown_injective
  · intro h
    rw [h]

end Elements

-- =============================================================== the result

/-- Two elements of texts are equal exactly if they print alike, and exactly if
they have the same name, the same attributes in the same order, and as many
children, equal one by one. Comparing them is always possible, and so is
printing them. -/
theorem elements_decided {e e' : Value} (he : e.unmarked = m.value)
    (he' : e'.unmarked = n.value) :
    List.TFAE [e.beq e' = true, e.render = e'.render,
      m.name = n.name ∧ m.attributes = n.attributes ∧
        List.Forall₂ (fun c d => c.value.beq d.value = true)
          m.children n.children] ∧
    e.compare e' = .ok (e.beq e') ∧
    e.printFault? = none ∧ e'.printFault? = none := by
  have hdata := isData_of_unmarked_eq he
  have hdata' := isData_of_unmarked_eq he'
  refine ⟨?_, Value.compare_of_isData hdata hdata',
    Value.printFault?_of_isData hdata, Value.printFault?_of_isData hdata'⟩
  apply List.tfae_of_forall (m = n)
  simp only [List.forall_mem_cons]
  refine ⟨beq_iff_of_unmarked_eq he he', render_eq_iff_of_unmarked_eq he he',
    ?_, List.forall_mem_nil _⟩
  simp only [beq_value_iff, List.forall₂_eq_eq_eq]
  obtain ⟨name, attributes, children⟩ := m
  obtain ⟨name', attributes', children'⟩ := n
  exact Iff.of_eq (node.injEq ..).symm

/-- An element whose name looks like the form, with a child, once as a script
has made it and once plain, and one that has the attribute that the name
pretends to. -/
theorem elements_decided_lookalike :
    let name := "a', attributes=[('x', 'y')], children=[".toList
    let child := node ['b'] [(['\x27'], ['\x22'])] []
    let m := node name [] [child]
    let n := node ['a'] [(['x'], ['y'])] []
    let e := Value.known (.number 1) (.element (.known (.number 2) (.text name))
      (.known (.cell 0) (.list [])) (.known (.cell 1) (.list [child.value])))
    e.unmarked = m.value ∧ m.value.unmarked = m.value ∧
      n.value.unmarked = n.value ∧ e.beq m.value = true ∧
      e.render = m.value.render ∧ e.compare n.value = .ok false ∧
      e.render ≠ n.value.render := by
  intro name child m n e
  have he : e.unmarked = m.value := rfl
  have hm : m.value.unmarked = m.value := rfl
  have hn : n.value.unmarked = n.value := rfl
  obtain ⟨hsame, -⟩ := elements_decided he hm
  obtain ⟨hother, hcompare, -⟩ := elements_decided he hn
  have hequal : e.beq m.value = true := by
    apply (hsame.out 0 2).2
    exact ⟨rfl, rfl, List.Forall₂.cons (beq_value_iff.2 rfl) List.Forall₂.nil⟩
  have hprint : e.render = m.value.render := (hsame.out 0 1).1 hequal
  have hname : m.name ≠ n.name := by decide
  have hdiffer : ¬ e.beq n.value = true := by
    intro h
    have hparts := (hother.out 0 2).1 h
    exact hname hparts.1
  have hforms : e.render ≠ n.value.render := by
    intro h
    have hparts := (hother.out 1 2).1 h
    exact hname hparts.1
  refine ⟨he, hm, hn, hequal, hprint, ?_, hforms⟩
  rw [hcompare, Bool.eq_false_iff.2 hdiffer]

end Node

end ParserKit
