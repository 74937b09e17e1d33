/-
Comparing and filing data: what a script can rely on.

A script compares the values of two expressions as they are when both have
been evaluated. If the values are data then, the comparison is made, whether
it asks if they are equal or if they differ, and the one answer is the
opposite of the other (`Step.run_compared`). That these answers are those of a
lawful equality, and that keys and tables go by it, is put together in
`lawful_key`.
-/
import ParserKit.Proofs.Script.Entry
import ParserKit.Proofs.Value.Key

namespace ParserKit.Script

open Value

variable {s s' s'' : Session} {x y : Expr} {a b : Value}
  {tr tr' : List Event}

/-- Data are compared as they are at that moment. -/
theorem Eval.run_equal (ha : (s.store.read a).IsData)
    (hb : (s.store.read b).IsData) :
    (Eval.equal a b).run s =
      pure ((s.store.read a).beq (s.store.read b), s) := by
  show (Eval.ofExcept ((s.store.read a).compare (s.store.read b))).run s = _
  rw [compare_of_isData ha hb]
  rfl

/-- Whatever is made of the answer, a step that compares two expressions
gets one if their values are data. -/
theorem Step.run_compared (f : Bool → Value)
    (hx : x.eval.run s = ⟨tr, .ok (a, s')⟩)
    (hy : y.eval.run s' = ⟨tr', .ok (b, s'')⟩)
    (ha : (s''.store.read a).IsData) (hb : (s''.store.read b).IsData) :
    (f <$> two x y Eval.equal).run s = ⟨tr ++ tr',
      .ok (f ((s''.store.read a).beq (s''.store.read b)), s'')⟩ := by
  rw [StateT.run_map, run_two hx hy, Eval.run_equal ha hb]
  refine Traced.ext_of ?_ rfl
  show tr ++ (tr' ++ []) ++ [] = tr ++ tr'
  rw [List.append_nil, List.append_nil]

/-- Equality of data, as it is asked for and as tables use it. It is an
equivalence, and to differ is not to be equal. Views, and views and texts,
are equal if their texts are, which for a view and a text is to be as long
and to start with it. Equal data have the same key, or are refused one for
the same reason, and those are refused one that hold something that can
change. So a table numbers each of its values by the first that is equal to
it. -/
theorem lawful_key :
    (∀ a : Value, a.IsData → a.beq a = true) ∧
    (∀ a b : Value, a.IsData → b.IsData → a.beq b = b.beq a) ∧
    (∀ a b c : Value, a.IsData → b.IsData → c.IsData →
      a.beq b = true → b.beq c = true → a.beq c = true) ∧
    (∀ (s s' s'' : Session) (x y : Expr) (a b : Value) (tr tr' : List Event),
      x.eval.run s = ⟨tr, .ok (a, s')⟩ → y.eval.run s' = ⟨tr', .ok (b, s'')⟩ →
      (s''.store.read a).IsData → (s''.store.read b).IsData →
        (Step.equal x y).perform.run s = ⟨tr ++ tr',
          .ok (.bool ((s''.store.read a).beq (s''.store.read b)), s'')⟩ ∧
        (Step.differ x y).perform.run s = ⟨tr ++ tr',
          .ok (.bool (!(s''.store.read a).beq (s''.store.read b)), s'')⟩) ∧
    (∀ (a b : Value) (v w : Window), a.bare = .view v → b.bare = .view w →
      v.medium = .text → w.medium = .text →
        (a.beq b = true ↔ v.view.unconsumed = w.view.unconsumed)) ∧
    (∀ (a b : Value) (w : Window) (t : Text), a.bare = .view w →
      b.bare = .text t → w.medium = .text →
        (a.beq b = true ↔ w.view.unconsumed = t) ∧
        (b.beq a = true ↔ w.view.unconsumed = t) ∧
        (a.beq b = true ↔ w.length = t.length ∧ w.startsWith t = .ok true)) ∧
    (∀ a b : Value, a.IsData → b.IsData → a.beq b = true →
      (∃ key, a.hashKey = .ok key ∧ b.hashKey = .ok key) ∨
        ∃ kind, a.hashKey = .error (.unhashable kind) ∧
          b.hashKey = .error (.unhashable kind) ∧
          (Fault.unhashable kind).className = "TypeError".toList) ∧
    (∀ a : Value, a.IsData →
      ((∃ e, a.hashKey = .error e) ↔ a.HoldsChangeable)) ∧
    ∀ vs : List Value, (∀ v ∈ vs, v.IsData ∧ ∃ key, v.hashKey = .ok key) →
      groupFirst vs = .ok (vs.map fun v => vs.findIdx (·.beq v)) := by
  refine ⟨fun a => beq_refl, fun a b => beq_comm, fun a b c => beq_trans, ?_,
    ?_, ?_, ?_, ?_, fun vs => groupFirst_eq⟩
  · intro s s' s'' x y a b tr tr' hx hy ha hb
    exact ⟨Step.run_compared Value.bool hx hy ha hb,
      Step.run_compared (fun b => .bool (!b)) hx hy ha hb⟩
  · intro a b v w ha hb hv hw
    exact view_beq_view_iff ha hb hv hw
  · intro a b w t ha hb hw
    have hbeq := view_beq_text_iff ha hb hw
    have hcomm := beq_comm (isData_of_bare ha (.view hw))
      (isData_of_bare hb (.text t))
    rw [← hcomm, ← Window.unconsumed_eq_iff hw]
    exact ⟨hbeq, hbeq, hbeq⟩
  · intro a b ha hb hab
    refine (key_or_refused_of_beq ha hb hab).imp_right fun h => ?_
    obtain ⟨kind, hkind, hkind'⟩ := h
    exact ⟨kind, hkind, hkind', rfl⟩
  · intro a ha
    exact exists_hashKey_error_iff ha

/-- A chain of three: successes at views over two sources that hold a truth
value and a view, the number one and a text, and a truth value and a view
again; two tuples with a view, a text and two elements between them; and a
text that a script compares with a view over it. -/
theorem lawful_key_chain :
    let v := Window.ofView ⟨⟨.number 0, "xab".toList⟩, 1, by decide⟩
    let w := Window.ofView (Source.view ⟨.number 1, "ab".toList⟩)
    let a := Value.success (.view v) (.tuple [.bool true, .view v])
    let b := Value.success (.known (.number 2) (.view w))
      (.tuple [.int 1, .text "ab".toList])
    let c := Value.success (.view v) (.tuple [.bool true, .view w])
    let d := Value.tuple [.view w,
      .element (.text ['n']) (.list [.int 0]) (.list [])]
    let e := Value.tuple [.text "ab".toList,
      .element (.text ['n']) (.list [.bool false]) (.list [])]
    let s := Session.start
    let x := Expr.text "ab".toList
    let y := Expr.view x (some (.int 0))
    a.IsData ∧ b.IsData ∧ c.IsData ∧ d.IsData ∧ e.IsData ∧
      a.beq b = true ∧ b.beq c = true ∧ a.beq c = true ∧
      groupFirst [a, .int 0, b, c] = .ok [0, 1, 0, 0] ∧
      d.beq e = true ∧ d.HoldsChangeable ∧
      (∃ kind, d.hashKey = .error (.unhashable kind) ∧
        e.hashKey = .error (.unhashable kind) ∧
        (Fault.unhashable kind).className = "TypeError".toList) ∧
      ∃ s', (Step.differ x y).perform.run s = pure (.bool false, s') := by
  intro v w a b c d e s x y
  have hv : Datum (.view v) := .view rfl
  have hw : Datum (.view w) := .view rfl
  have hpair : ∀ {p q : Value}, p.IsData → q.IsData →
      Datum (.tuple [p, q]) := fun hp hq =>
    .tuple (List.forall_mem_cons.2 ⟨hp, List.forall_mem_singleton.2 hq⟩)
  have ha : a.IsData :=
    Datum.success rfl hv (hpair (Datum.bool true) hv)
  have hb : b.IsData :=
    Datum.success rfl hw (hpair (Datum.int 1) (Datum.text _))
  have hc : c.IsData :=
    Datum.success rfl hv (hpair (Datum.bool true) hw)
  have helement : ∀ {p : Value}, p.IsData →
      Datum (.element (.text ['n']) (.list [p]) (.list [])) := fun hp =>
    .element (Datum.text _) (Datum.list (List.forall_mem_singleton.2 hp))
      (Datum.list (List.forall_mem_nil _))
  have hd : d.IsData := hpair hw (helement (Datum.int 0))
  have he : e.IsData := hpair (Datum.text _) (helement (Datum.bool false))
  obtain ⟨-, -, htrans, hsteps, -, -, hkeys, hholds, hgroup⟩ := lawful_key
  have hab : a.beq b = true := by decide
  have hbc : b.beq c = true := by decide
  have hac : a.beq c = true := htrans a b c ha hb hc hab hbc
  have hde : d.beq e = true := by decide
  have hnumbers : groupFirst [a, .int 0, b, c] = .ok [0, 1, 0, 0] := by
    refine (hgroup [a, .int 0, b, c] ?_).trans rfl
    simp only [List.forall_mem_cons]
    exact ⟨⟨ha, _, rfl⟩, ⟨Datum.int 0, _, rfl⟩, ⟨hb, _, rfl⟩, ⟨hc, _, rfl⟩,
      List.forall_mem_nil _⟩
  have hchanges : d.HoldsChangeable := (hholds d hd).1 ⟨_, rfl⟩
  have hreason : ∃ kind, d.hashKey = .error (.unhashable kind) ∧
      e.hashKey = .error (.unhashable kind) ∧
      (Fault.unhashable kind).className = "TypeError".toList := by
    rcases hkeys d e hd he hde with ⟨key, hkey, -⟩ | h
    · cases hkey
    · exact h
  have hdiffer := (hsteps s _ _ x y _ _ [] [] (Eval.run_text s _)
    (Eval.run_view _ _ _ (by simp)) (Datum.text _) (Datum.view rfl)).2
  exact ⟨ha, hb, hc, hd, he, hab, hbc, hac, hnumbers, hde, hchanges, hreason,
    _, hdiffer⟩

end ParserKit.Script
