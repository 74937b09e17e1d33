/-
What a session carries: elements, each with two lists of its own.

A script makes the elements of a family one after another (`Step.make`), each
with lists that are written down for it or left out, and then appends to them
(`Step.change`). Elements are named by their numbers in the family, and the
first of them is the next result of the session. Once an element is made, it
can no longer be told which of its lists were left out (`Step.run_make`).

# Cells

Each element has two cells, one for its attributes and one for its children,
and no cell is that of two lists: the element with the number `e` has the cells
`2 e` and `2 e + 1`, counted from the first that was free (`Session.Carries`).
The cell of the children holds the elements themselves and not what they were.

# What changes them

Making an element adds two cells (`CarriesLast.make`). A change appends to one
cell and leaves all others as they are (`Session.Appends`), so the session
carries the family with that change made (`Carries.grown`). What is done to
later cells does not matter (`Carries.extend`).
-/
import ParserKit.Proofs.Script.Escalation
import ParserKit.Proofs.Store.Settling

namespace ParserKit.Script

variable {s s' s'' : Session} {fam : Family} {o : Outline} {d : Draft}
  {q : Change} {base first e n : Nat} {x v : Value}

-- =========================================================== making, changing

namespace Step

/-- The attributes of an element as they are written down. -/
def attributesExpr (as : List (Text × Text)) : Expr :=
  .list (as.map fun a => .tuple [.text a.1, .text a.2])

/-- The children of an element, which are among the results from `base`
on. -/
def childrenExpr (base : Nat) (cs : List Nat) : Expr :=
  .list (cs.map fun c => .ref (base + c))

/-- Makes an element. -/
def make (base : Nat) (d : Draft) : Step :=
  .eval (.element (.text d.name) (d.attributes?.map attributesExpr)
    (d.children?.map (childrenExpr base)))

/-- Makes a change. -/
def change (base : Nat) : Change → Step
  | .addAttribute e t u => .addAttribute (.ref (base + e)) (.text t) (.text u)
  | .addChild e c => .addChild (.ref (base + e)) (.ref (base + c))

end Step

-- ================================================================= evaluating

namespace Session

/-- The lists are the same, and so are the results. -/
def SameLists (s s' : Session) : Prop :=
  s'.store.cells = s.store.cells ∧ s'.results = s.results

theorem SameLists.trans (h : s.SameLists s') (h' : s'.SameLists s'') :
    s.SameLists s'' :=
  ⟨h'.1.trans h.1, h'.2.trans h.2⟩

theorem SameLists.result_eq (h : s.SameLists s') (n : Nat) :
    s'.result n = s.result n := by
  unfold result
  rw [h.2]

theorem sameLists_afterText (s : Session) (t : Text) :
    s.SameLists (s.afterText t) := by
  unfold afterText Store.identify
  cases Identity.ofSmallText? t with
  | some id => exact ⟨rfl, rfl⟩
  | none => exact ⟨rfl, rfl⟩

end Session

theorem Eval.run_settle {store : Store} (h : s.store.settle x = (v, store)) :
    (Eval.settle x).run s = pure (v, { s with store }) := by
  show pure ((s.store.settle x).1, { s with store := (s.store.settle x).2 }) =
    (_ : Traced Event (Value × Session))
  rw [h]

namespace Expr

theorem run_bind {α : Type} {x : Expr} (hx : x.eval.run s = pure (v, s'))
    (f : Value → Eval α) : (x.eval >>= f).run s = (f v).run s' := by
  rw [StateT.run_bind, hx, pure_bind]

theorem eval_word (s : Session) (t : Text) :
    ∃ v s', (Expr.text t).eval.run s = pure (v, s') ∧ v.IsWord t ∧
      s.SameLists s' :=
  ⟨_, _, Eval.run_text s t, ⟨_, rfl, s.textId_ne_place t⟩,
    s.sameLists_afterText t⟩

theorem run_evalAll_cons {x : Expr} {xs : List Expr} {vs : List Value}
    (hx : x.eval.run s = pure (v, s'))
    (hxs : (evalAll xs).run s' = pure (vs, s'')) :
    (evalAll (x :: xs)).run s = pure (v :: vs, s'') := by
  show (x.eval >>= fun v => evalAll xs >>= fun vs => pure (v :: vs)).run s = _
  rw [StateT.run_bind, hx, pure_bind, StateT.run_bind, hxs, pure_bind]
  rfl

theorem eval_pair (s : Session) (a : Text × Text) :
    ∃ v s', (Expr.tuple [.text a.1, .text a.2]).eval.run s = pure (v, s') ∧
      v.IsPair a ∧ s.SameLists s' := by
  obtain ⟨x, s₁, hx, hword, hsame⟩ := eval_word s a.1
  obtain ⟨y, s₂, hy, hword', hsame'⟩ := eval_word s₁ a.2
  refine ⟨.tuple [x, y], s₂, ?_, ⟨x, y, rfl, hword, hword'⟩,
    hsame.trans hsame'⟩
  show (evalAll [.text a.1, .text a.2] >>= fun vs =>
    pure (Value.tuple vs)).run s = _
  rw [StateT.run_bind, run_evalAll_cons hx (run_evalAll_cons hy rfl), pure_bind]
  rfl

theorem evalAll_pairs (s : Session) (as : List (Text × Text)) :
    ∃ vs s', (evalAll (as.map fun a => .tuple [.text a.1, .text a.2])).run s =
        pure (vs, s') ∧
      List.Forall₂ Value.IsPair vs as ∧ s.SameLists s' := by
  induction as generalizing s with
  | nil => exact ⟨[], s, rfl, List.Forall₂.nil, rfl, rfl⟩
  | cons a as ih =>
      obtain ⟨v, s₁, hv, hpair, hsame⟩ := eval_pair s a
      obtain ⟨vs, s₂, hvs, hpairs, hsame'⟩ := ih s₁
      exact ⟨v :: vs, s₂, run_evalAll_cons hv hvs, hpairs.cons hpair,
        hsame.trans hsame'⟩

theorem run_ref (s : Session) (n : Nat) :
    (Expr.ref n).eval.run s = pure (s.result n, s) := rfl

theorem evalAll_refs (s : Session) (base : Nat) (ns : List Nat) :
    (evalAll (ns.map fun n => .ref (base + n))).run s =
      pure (ns.map fun n => s.result (base + n), s) := by
  induction ns with
  | nil => rfl
  | cons n ns ih => exact run_evalAll_cons rfl ih

theorem run_list {xs : List Expr} {vs : List Value}
    (h : (evalAll xs).run s = pure (vs, s')) :
    (Expr.list xs).eval.run s = pure (.list vs, s') := by
  show (evalAll xs >>= fun vs => pure (Value.list vs)).run s = _
  rw [StateT.run_bind, h, pure_bind]
  rfl

/-- What is there is evaluated as it would be anywhere else. -/
theorem run_evalOption {x : Expr} (hx : x.eval.run s = pure (v, s')) :
    (evalOption (some x)).run s = pure (some v, s') :=
  run_bind hx fun v => pure (some v)

/-- Attributes that may be left out. The list is empty if they are. -/
theorem evalOption_attributes (s : Session)
    (as? : Option (List (Text × Text))) :
    ∃ v? vs s', (evalOption (as?.map Step.attributesExpr)).run s =
        pure (v?, s') ∧ v?.getD (.list []) = .list vs ∧
      List.Forall₂ Value.IsPair vs (as?.getD []) ∧ s.SameLists s' := by
  cases as? with
  | none => exact ⟨Option.none, [], s, rfl, rfl, List.Forall₂.nil, rfl, rfl⟩
  | some as =>
      obtain ⟨vs, s', hvs, hpairs, hsame⟩ := evalAll_pairs s as
      exact ⟨some (.list vs), vs, s', run_evalOption (run_list hvs), rfl,
        hpairs, hsame⟩

/-- Children that may be left out. -/
theorem evalOption_children (s : Session) (base : Nat)
    (ns? : Option (List Nat)) :
    ∃ v?, (evalOption (ns?.map (Step.childrenExpr base))).run s =
        pure (v?, s) ∧
      v?.getD (.list []) =
        .list ((ns?.getD []).map fun n => s.result (base + n)) := by
  cases ns? with
  | none => exact ⟨Option.none, rfl, rfl⟩
  | some ns =>
      have hlist := run_list (evalAll_refs s base ns)
      exact ⟨some (.list _), run_evalOption hlist, rfl⟩

end Expr

namespace Step

/-- Making an element adds its two lists to the store, left out or not. -/
theorem run_make
    (h : ∀ c ∈ d.outline.children, Store.Settled (s.result (base + c))) :
    ∃ (name : Value) (xs : List Value) (s' : Session),
      (make base d).perform.run s =
        pure (name.elementAt s.store.cells.length, s') ∧
      name.IsWord d.outline.name ∧
      List.Forall₂ Value.IsAttribute xs d.outline.attributes ∧
      s'.results = s.results ∧ s'.store.cells = s.store.cells ++
        [xs, d.outline.children.map fun c => s.result (base + c)] := by
  obtain ⟨name, s₁, hname, hword, hsame⟩ := Expr.eval_word s d.name
  obtain ⟨as?, vs, s₂, has, hvs, hpairs, hsame'⟩ :=
    Expr.evalOption_attributes s₁ d.attributes?
  have hlists : s.SameLists s₂ := hsame.trans hsame'
  obtain ⟨cs?, hcs, hchildren⟩ :=
    Expr.evalOption_children s₂ base d.children?
  simp only [hlists.result_eq] at hchildren
  obtain ⟨xs, store, hsettle, hattributes, hcells⟩ :=
    Store.settle_element hword hpairs (List.forall_mem_map.2 h) s₂.store
  rw [hlists.1] at hsettle hcells
  refine ⟨name, xs, { s₂ with store }, ?_, hword, hattributes, hlists.2,
    hcells⟩
  have hnew : Value.newElement name as? cs? = .element name (.list vs)
      (.list (d.outline.children.map fun c => s.result (base + c))) := by
    unfold Value.newElement
    rw [hvs, hchildren]
    rfl
  calc (make base d).perform.run s
    _ = (Expr.evalOption (d.attributes?.map attributesExpr) >>= fun as? =>
          Expr.evalOption (d.children?.map (childrenExpr base)) >>=
            fun cs? => Eval.settle (.newElement name as? cs?)).run s₁ :=
        Expr.run_bind hname _
    _ = (Expr.evalOption (d.children?.map (childrenExpr base)) >>=
          fun cs? => Eval.settle (.newElement name as? cs?)).run s₂ := by
        rw [StateT.run_bind, has, pure_bind]
    _ = (Eval.settle (.newElement name as? cs?)).run s₂ := by
        rw [StateT.run_bind, hcs, pure_bind]
    _ = _ := by
        rw [hnew]
        exact Eval.run_settle hsettle

end Step

-- ================================================================== appending

namespace Eval

/-- Whatever the pair is, it is appended to the attributes of the element. -/
theorem run_addAttribute {y z name children : Value} {id : Nat} {store : Store}
    (hv : v.bare = .element name (.cell id) children)
    (hsettle : s.store.settle (.tuple [y, z]) = (x, store)) :
    (addAttribute v y z).run s =
      pure (v, { s with store := store.append id x }) := by
  unfold addAttribute
  rw [hv]
  show (settle (.tuple [y, z]) >>= fun x =>
    append (.cell id) x >>= fun _ => pure v).run s = _
  rw [StateT.run_bind, run_settle hsettle, pure_bind]
  rfl

/-- Whatever the child is, it is appended to the children of the element. -/
theorem run_addChild {y name attributes : Value} {id : Nat} {store : Store}
    (hv : v.bare = .element name attributes (.cell id))
    (hsettle : s.store.settle y = (x, store)) :
    (addChild v y).run s = pure (v, { s with store := store.append id x }) := by
  unfold addChild
  rw [hv]
  show (settle y >>= fun x =>
    append (.cell id) x >>= fun _ => pure v).run s = _
  rw [StateT.run_bind, run_settle hsettle, pure_bind]
  rfl

end Eval

/-- What is settled becomes a result as it is. -/
theorem runOne_of_settled {m : Eval Value} (h : m.run s = pure (v, s'))
    (hv : Store.Settled v) :
    runOne m s = (Record.of (shown (s'.store.read v)) [],
      { s' with results := s'.results ++ [v] }) := by
  rw [runOne_of_ok h, hv.settle_eq]

namespace Session

/-- From one session to the other, results and lists are only added, and the
first lists have the same items as before. -/
structure Spares (s s' : Session) (size : Nat) : Prop where
  results : s.results <+: s'.results
  cells_le : s.store.cells.length ≤ s'.store.cells.length
  items : ∀ id < size, s'.store.items id = s.store.items id

theorem Spares.refl (s : Session) (size : Nat) : s.Spares s size :=
  ⟨List.prefix_rfl, Nat.le_refl _, fun _ _ => rfl⟩

theorem Spares.trans {size : Nat} (h : s.Spares s' size)
    (h' : s'.Spares s'' size) : s.Spares s'' size :=
  ⟨h.results.trans h'.results, h.cells_le.trans h'.cells_le,
    fun id hid => (h'.items id hid).trans (h.items id hid)⟩

theorem Spares.result_eq {size : Nat} (h : s.Spares s' size)
    (hn : n < s.results.length) : s'.result n = s.result n := by
  obtain ⟨vs, hvs⟩ := h.results
  unfold result
  rw [← hvs, List.getElem?_append_left hn]

/-- From one session to the other, an element with these lists was made. -/
structure Adds (s s' : Session) (name : Value) (xs ys : List Value) : Prop where
  results : s'.results = s.results ++ [name.elementAt s.store.cells.length]
  cells : s'.store.cells = s.store.cells ++ [xs, ys]

theorem Adds.result_last {name : Value} {xs ys : List Value}
    (h : s.Adds s' name xs ys) :
    s'.result s.results.length = name.elementAt s.store.cells.length := by
  unfold result
  rw [h.results, List.getElem?_concat_length]
  rfl

theorem Adds.items_last {name : Value} {xs ys : List Value}
    (h : s.Adds s' name xs ys) :
    s'.store.items s.store.cells.length = xs ∧
      s'.store.items (s.store.cells.length + 1) = ys := by
  unfold Store.items
  rw [h.cells, List.getElem?_append_right (Nat.le_refl _),
    List.getElem?_append_right (Nat.le_add_right _ 1), Nat.sub_self,
    Nat.add_sub_cancel_left]
  exact ⟨rfl, rfl⟩

/-- The lists that there were are not touched. -/
theorem Adds.spares {name : Value} {xs ys : List Value} {size : Nat}
    (h : s.Adds s' name xs ys) (hsize : size ≤ s.store.cells.length) :
    s.Spares s' size := by
  refine ⟨⟨_, h.results.symm⟩, ?_, fun id hid => ?_⟩
  · rw [h.cells]
    exact (List.prefix_append _ _).length_le
  · unfold Store.items
    rw [h.cells, List.getElem?_append_left (hid.trans_le hsize)]

/-- From one session to the other, one list has one more item, and results are
only added. -/
structure Appends (s s' : Session) (id : Nat) (x : Value) : Prop where
  items_self : s'.store.items id = s.store.items id ++ [x]
  items_of_ne : ∀ other, other ≠ id →
    s'.store.items other = s.store.items other
  cells_length : s'.store.cells.length = s.store.cells.length
  results : s.results <+: s'.results

/-- The lists before that one are not touched. -/
theorem Appends.spares {id size : Nat} (h : s.Appends s' id x)
    (hsize : size ≤ id) : s.Spares s' size :=
  ⟨h.results, h.cells_length.ge,
    fun other hother => h.items_of_ne other (hother.trans_le hsize).ne⟩

/-- A computation that appends and gives something settled. -/
theorem appends_of_run {m : Eval Value} {id : Nat} {store : Store}
    (h : m.run s = pure (v, { s' with store := store.append id x }))
    (hv : Store.Settled v) (hresults : s'.results = s.results)
    (hcells : store.cells = s.store.cells)
    (hid : id < s.store.cells.length) :
    ∃ s'', runOne m s = (Record.of (shown (s''.store.read v)) [], s'') ∧
      s.Appends s'' id x := by
  have hitems : ∀ i, store.items i = s.store.items i := by
    intro i
    unfold Store.items
    rw [hcells]
  refine ⟨{ s' with store := store.append id x, results := s'.results ++ [v] },
    runOne_of_settled h hv, ?_, fun other hne => ?_, ?_, [v], ?_⟩
  · exact (store.items_append_self x (hcells ▸ hid)).trans (by rw [hitems])
  · exact (store.items_append_of_ne x (Ne.symm hne)).trans (hitems other)
  · exact (store.length_cells_append id x).trans (by rw [hcells])
  · exact congrArg (· ++ [v]) hresults.symm

-- ============================================================ what is carried

/-- The results from `base` on are the elements of the family. Each has two
cells of its own, from `first` on, with its attributes and its children in
them. -/
structure Carries (s : Session) (base first : Nat) (fam : Family) : Prop where
  element : ∀ e o, fam[e]? = some o → ∃ name : Value, name.IsWord o.name ∧
    s.result (base + e) = name.elementAt (first + 2 * e)
  attributes : ∀ e o, fam[e]? = some o →
    List.Forall₂ Value.IsAttribute (s.store.items (first + 2 * e)) o.attributes
  children : ∀ e o, fam[e]? = some o →
    s.store.items (first + 2 * e + 1) =
      o.children.map fun c => s.result (base + c)
  results_le : base + fam.length ≤ s.results.length
  cells_le : first + 2 * fam.length ≤ s.store.cells.length

namespace Carries

theorem exists_element (h : s.Carries base first fam) (he : e < fam.length) :
    ∃ name : Value, Store.Settled name ∧
      s.result (base + e) = name.elementAt (first + 2 * e) := by
  obtain ⟨name, hname, hresult⟩ :=
    h.element e _ (List.getElem?_eq_getElem he)
  exact ⟨name, Store.settled_of_isWord hname, hresult⟩

theorem settled (h : s.Carries base first fam) (he : e < fam.length) :
    Store.Settled (s.result (base + e)) := by
  obtain ⟨name, hname, hresult⟩ := h.exists_element he
  rw [hresult]
  exact Store.settled_elementAt hname _

-- ===================================================================== making

/-- What is done to later lists changes nothing of a family. -/
theorem extend {size : Nat} (h : s.Carries base first fam)
    (hclosed : fam.Closed) (hspares : s.Spares s' size)
    (hsize : first + 2 * fam.length ≤ size) :
    s'.Carries base first fam := by
  have hle := h.results_le
  have hresult : ∀ e < fam.length,
      s'.result (base + e) = s.result (base + e) :=
    fun e he => hspares.result_eq (by omega)
  have hlt : ∀ {e o}, fam[e]? = some o → e < fam.length :=
    fun ho => (List.getElem?_eq_some_iff.1 ho).1
  refine ⟨fun e o ho => ?_, fun e o ho => ?_, fun e o ho => ?_,
    hle.trans hspares.results.length_le, h.cells_le.trans hspares.cells_le⟩
  · rw [hresult e (hlt ho)]
    exact h.element e o ho
  · have he := hlt ho
    rw [hspares.items _ (by omega)]
    exact h.attributes e o ho
  · have he := hlt ho
    rw [hspares.items _ (by omega), h.children e o ho]
    refine List.map_congr_left fun c hc => ?_
    exact (hresult c (hclosed c e ⟨o, ho, hc⟩)).symm

end Carries

/-- The session carries the family, and nothing has come after it. -/
structure CarriesLast (s : Session) (base first : Nat) (fam : Family) : Prop
    extends s.Carries base first fam where
  results_eq : s.results.length = base + fam.length
  cells_eq : s.store.cells.length = first + 2 * fam.length

namespace CarriesLast

/-- With one more element, a session carries a longer family. -/
theorem concat {name : Value} {xs : List Value}
    (h : s.CarriesLast base first fam) (hclosed : fam.Closed)
    (ho : ∀ c ∈ o.children, c < fam.length) (hname : name.IsWord o.name)
    (hxs : List.Forall₂ Value.IsAttribute xs o.attributes)
    (hadds : s.Adds s' name xs (o.children.map fun c => s.result (base + c))) :
    s'.CarriesLast base first (fam ++ [o]) := by
  have hold : s'.Carries base first fam :=
    h.extend hclosed (hadds.spares (Nat.le_refl _)) h.cells_le
  have hlast := hadds.result_last
  obtain ⟨hattributes, hchildren⟩ := hadds.items_last
  rw [h.results_eq, h.cells_eq] at hlast
  rw [h.cells_eq] at hattributes hchildren
  have hresults : s'.results.length = base + (fam ++ [o]).length := by
    rw [hadds.results, List.length_append, List.length_append, h.results_eq]
    rfl
  have hcells : s'.store.cells.length = first + 2 * (fam ++ [o]).length := by
    rw [hadds.cells, List.length_append, List.length_append, h.cells_eq]
    rfl
  refine ⟨⟨?_, ?_, ?_, hresults.ge, hcells.ge⟩, hresults, hcells⟩
  · exact Family.forall_concat hold.element ⟨name, hname, hlast⟩
  · refine Family.forall_concat hold.attributes ?_
    rw [hattributes]
    exact hxs
  · refine Family.forall_concat hold.children ?_
    rw [hchildren]
    refine List.map_congr_left fun c hc => ?_
    have hlt := ho c hc
    have hlength := h.results_eq
    exact ((hadds.spares (Nat.le_refl _)).result_eq (by omega)).symm

/-- Making an element makes the family longer by one. -/
theorem make (h : s.CarriesLast base first fam) (hclosed : fam.Closed)
    (hd : ∀ c ∈ d.outline.children, c < fam.length) :
    ∃ s', runOne (Step.make base d).perform s =
        (Record.of (shown (s'.store.read (s'.result (base + fam.length)))) [],
          s') ∧
      s'.CarriesLast base first (fam ++ [d.outline]) ∧
      s.Spares s' first := by
  obtain ⟨name, xs, s₁, hrun, hname, hxs, hresults, hcells⟩ :=
    Step.run_make fun c hc => h.settled (hd c hc)
  have hone := runOne_of_settled hrun
    (Store.settled_elementAt (Store.settled_of_isWord hname) _)
  rw [hresults] at hone
  have hadds : s.Adds { s₁ with
      results := s.results ++ [name.elementAt s.store.cells.length] } name xs
        (d.outline.children.map fun c => s.result (base + c)) :=
    ⟨rfl, hcells⟩
  have hfirst : first ≤ s.store.cells.length := by
    rw [h.cells_eq]
    exact Nat.le_add_right first _
  refine ⟨_, ?_, h.concat hclosed hd hname hxs hadds, hadds.spares hfirst⟩
  rw [hone, ← h.results_eq, hadds.result_last]

end CarriesLast

-- =================================================================== changing

/-- The cell that a change appends to. -/
def cellOf (first : Nat) : Change → Nat
  | .addAttribute e _ _ => first + 2 * e
  | .addChild e _ => first + 2 * e + 1

theorem le_cellOf (first : Nat) (q : Change) : first ≤ cellOf first q := by
  cases q with
  | addAttribute e t u => exact Nat.le_add_right _ _
  | addChild e c => exact (Nat.le_add_right _ _).trans (Nat.le_succ _)

/-- The value is what a change appends: an attribute, or the child itself. -/
def IsAddedBy (s : Session) (base : Nat) (x : Value) : Change → Prop
  | .addAttribute _ t u => x.IsAttribute (t, u)
  | .addChild _ c => x = s.result (base + c)

namespace Carries

theorem bare_result (h : s.Carries base first fam) (he : e < fam.length) :
    ∃ name : Value, (s.result (base + e)).bare = .element name
      (.cell (first + 2 * e)) (.cell (first + 2 * e + 1)) := by
  obtain ⟨name, -, hresult⟩ := h.exists_element he
  rw [hresult]
  exact ⟨name, rfl⟩

/-- A change gives the element that is changed. -/
theorem run_change (h : s.Carries base first fam)
    (hq : q.Within fam.length) :
    ∃ (x : Value) (s₁ : Session) (store : Store),
      (Step.change base q).perform.run s = pure (s.result (base + q.element),
        { s₁ with store := store.append (cellOf first q) x }) ∧
      s.IsAddedBy base x q ∧ s₁.results = s.results ∧
      store.cells = s.store.cells := by
  cases q with
  | addAttribute e t u =>
      have he : e < fam.length := hq
      obtain ⟨name, hbare⟩ := h.bare_result he
      obtain ⟨y, s₁, hy, hword, hsame⟩ := Expr.eval_word s t
      obtain ⟨z, s₂, hz, hword', hsame'⟩ := Expr.eval_word s₁ u
      have hlists : s.SameLists s₂ := hsame.trans hsame'
      have hpair : (Value.tuple [y, z]).IsPair (t, u) :=
        ⟨y, z, rfl, hword, hword'⟩
      obtain ⟨x, store, hsettle, hx, hcells⟩ := Store.settle_pair hpair s₂.store
      refine ⟨x, s₂, store, ?_, hx, hlists.2, hcells.trans hlists.1⟩
      calc (Step.change base (.addAttribute e t u)).perform.run s
        _ = (Step.two (.text t) (.text u)
              (Eval.addAttribute (s.result (base + e)))).run s :=
            Expr.run_bind (Expr.run_ref s _) _
        _ = (Step.one (.text u)
              (Eval.addAttribute (s.result (base + e)) y)).run s₁ :=
            Expr.run_bind hy _
        _ = (Eval.addAttribute (s.result (base + e)) y z).run s₂ :=
            Expr.run_bind hz _
        _ = _ := Eval.run_addAttribute hbare hsettle
  | addChild e c =>
      have he : e < fam.length := hq.1
      obtain ⟨name, hbare⟩ := h.bare_result he
      have hchild : Store.Settled (s.result (base + c)) := h.settled hq.2
      refine ⟨s.result (base + c), s, s.store, ?_, rfl, rfl, rfl⟩
      calc (Step.change base (.addChild e c)).perform.run s
        _ = (Step.one (.ref (base + c))
              (Eval.addChild (s.result (base + e)))).run s :=
            Expr.run_bind (Expr.run_ref s _) _
        _ = (Eval.addChild (s.result (base + e))
              (s.result (base + c))).run s :=
            Expr.run_bind (Expr.run_ref s _) _
        _ = _ := Eval.run_addChild hbare (hchild.settle_eq s.store)

theorem cellOf_lt (h : s.Carries base first fam) (hq : q.Within fam.length) :
    cellOf first q < s.store.cells.length := by
  have hle := h.cells_le
  have he := hq.element_lt
  cases q with
  | addAttribute e t u =>
      change e < fam.length at he
      show first + 2 * e < _
      omega
  | addChild e c =>
      change e < fam.length at he
      show first + 2 * e + 1 < _
      omega

/-- It appends to one list, and its record shows the element after that. -/
theorem change (h : s.Carries base first fam) (hq : q.Within fam.length) :
    ∃ x s', runOne (Step.change base q).perform s =
        (Record.of (shown (s'.store.read (s'.result (base + q.element)))) [],
          s') ∧
      s.Appends s' (cellOf first q) x ∧ s.IsAddedBy base x q := by
  obtain ⟨x, s₁, store, hrun, hx, hresults, hcells⟩ := h.run_change hq
  obtain ⟨s', hone, happends⟩ := appends_of_run hrun (h.settled hq.element_lt)
    hresults hcells (h.cellOf_lt hq)
  have hle := h.results_le
  have he := hq.element_lt
  refine ⟨x, s', ?_, happends, hx⟩
  rw [hone, (happends.spares (Nat.le_refl _)).result_eq (by omega)]

/-- The elements are what they were. -/
theorem result_eq (h : s.Carries base first fam)
    (happends : s.Appends s' (cellOf first q) x) (he : e < fam.length) :
    s'.result (base + e) = s.result (base + e) := by
  have hle := h.results_le
  exact (happends.spares (Nat.le_refl _)).result_eq (by omega)

/-- Attributes are appended to those of the element that gets one, and to no
others. -/
theorem attributes_appended (happends : s.Appends s' (cellOf first q) x)
    (hx : s.IsAddedBy base x q) (e : Nat) :
    (q.attributeTo? e = none ∧
      s'.store.items (first + 2 * e) = s.store.items (first + 2 * e)) ∨
    ∃ a, q.attributeTo? e = some a ∧ x.IsAttribute a ∧
      s'.store.items (first + 2 * e) =
        s.store.items (first + 2 * e) ++ [x] := by
  cases q with
  | addAttribute e' t u =>
      by_cases he : e' = e
      · subst he
        exact Or.inr ⟨(t, u), if_pos rfl, hx, happends.items_self⟩
      · refine Or.inl ⟨if_neg he, happends.items_of_ne _ ?_⟩
        show first + 2 * e ≠ first + 2 * e'
        omega
  | addChild e' c =>
      refine Or.inl ⟨rfl, happends.items_of_ne _ ?_⟩
      show first + 2 * e ≠ first + 2 * e' + 1
      omega

/-- And so are children. -/
theorem children_appended (happends : s.Appends s' (cellOf first q) x)
    (hx : s.IsAddedBy base x q) (e : Nat) :
    (q.childTo? e = none ∧
      s'.store.items (first + 2 * e + 1) =
        s.store.items (first + 2 * e + 1)) ∨
    ∃ c, q.childTo? e = some c ∧
      s'.store.items (first + 2 * e + 1) =
        s.store.items (first + 2 * e + 1) ++ [s.result (base + c)] := by
  cases q with
  | addAttribute e' t u =>
      refine Or.inl ⟨rfl, happends.items_of_ne _ ?_⟩
      show first + 2 * e + 1 ≠ first + 2 * e'
      omega
  | addChild e' c =>
      by_cases he : e' = e
      · subst he
        have hitems := happends.items_self
        rw [show x = s.result (base + c) from hx] at hitems
        exact Or.inr ⟨c, if_pos rfl, hitems⟩
      · refine Or.inl ⟨if_neg he, happends.items_of_ne _ ?_⟩
        show first + 2 * e + 1 ≠ first + 2 * e' + 1
        omega

/-- A session carries the family as it is after the change. -/
theorem grown (h : s.Carries base first fam) (hclosed : fam.Closed)
    (hq : q.Within fam.length) (happends : s.Appends s' (cellOf first q) x)
    (hx : s.IsAddedBy base x q) :
    s'.Carries base first (fam.grown [q]) := by
  have hclosed' : (fam.grown [q]).Closed :=
    hclosed.grown (List.forall_mem_singleton.2 hq)
  have hresult : ∀ e < fam.length,
      s'.result (base + e) = s.result (base + e) :=
    fun e he => h.result_eq happends he
  have hlinks : ∀ {e : Nat} {o : Outline}, (fam.grown [q])[e]? = some o →
      (o.children.map fun c => s'.result (base + c)) =
        o.children.map fun c => s.result (base + c) := by
    intro e o ho
    refine List.map_congr_left fun c hc => hresult c ?_
    have hlt := hclosed' c e ⟨o, ho, hc⟩
    rwa [Family.length_grown] at hlt
  refine ⟨?_, ?_, ?_, ?_, ?_⟩
  · refine Family.forall_grown fun e o ho => ?_
    rw [hresult e (List.getElem?_eq_some_iff.1 ho).1]
    exact h.element e o ho
  · refine Family.forall_grown fun e o ho => ?_
    rw [Change.attributesTo_singleton]
    rcases attributes_appended happends hx e with ⟨hnone, hitems⟩ |
      ⟨a, hsome, hattribute, hitems⟩
    · rw [hnone, hitems, Option.toList_none, List.append_nil]
      exact h.attributes e o ho
    · rw [hsome, hitems]
      exact List.rel_append (h.attributes e o ho)
        (List.Forall₂.nil.cons hattribute)
  · -- The links are to results, so they are first put back to the old session.
    intro e o' ho'
    rw [hlinks ho']
    revert e o' ho'
    refine Family.forall_grown fun e o ho => ?_
    rw [Change.childrenTo_singleton]
    rcases children_appended happends hx e with ⟨hnone, hitems⟩ |
      ⟨c, hsome, hitems⟩
    · rw [hnone, hitems, Option.toList_none, List.append_nil]
      exact h.children e o ho
    · rw [hsome, hitems, h.children e o ho, List.map_append]
      rfl
  · rw [Family.length_grown]
    exact h.results_le.trans happends.results.length_le
  · rw [Family.length_grown, happends.cells_length]
    exact h.cells_le

end Carries

end Session

end ParserKit.Script
