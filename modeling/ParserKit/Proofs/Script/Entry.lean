/-
How a session uses a parser.

A parser of this library can be given a text, or a view over one whose position
is written down or left out, and it can be asked to parse or be called. All of
these come to one run, that of the parser on the window at the start of the text
(`Step.run_entries`). A text that is written down is settled before it is looked
at, and looking at it settles nothing any more (`run_windowOn_known`), so they
leave the same session behind.

Coercing is done once. What a session is handed back is something that it
parses with as it is, and coercing that again hands back the thing itself
(`coerce_coerce`).

# Settings

An object is a function of its setting, and a session asks for it at the
setting of the moment. `Session.argumentOf` is what a value stands for before
it is asked, and `Session.argumentNow` after. What is a parser in one setting
need not be one in the next, as far as the type says; what was built without
a fault in every setting is (`Session.Holds`).
-/
import ParserKit.Script.Step

namespace ParserKit.Script

variable {s s' : Session} {v : Value} {t : Text} {id : Identity}

namespace Session

-- ================================================== what values stand for

/-- The setting of what is used at this moment and is no part of
anything. -/
def setting (s : Session) : Setting :=
  ⟨s.store, []⟩

/-- What a value stands for as an argument. -/
def argumentOf (s : Session) (v : Value) : Setting → Argument :=
  match v.bare with
  | .text t => fun _ => .text t
  | .object h => s.objects[h.id]?.getD fun _ => .other h.kind
  | .parser id name => fun σ =>
      Eval.renamed (s.store.read name).asText
        ((s.objects[id]?.getD fun _ => .other .parser) σ)
  | v => fun _ => .other v.kind

/-- What a value stands for at this moment. -/
def argumentNow (s : Session) (v : Value) : Argument :=
  s.argumentOf v s.setting

/-- The value can be coerced, whatever the setting is. -/
def Accepts (s : Session) (v : Value) : Prop :=
  ∀ σ, ∃ p, (s.argumentOf v σ).coerce.exit = .ok p

/-- The value is a parser of this library that was made in the session. -/
def Holds (s : Session) (v : Value) : Prop :=
  ∃ id name a, v.bare = .parser id name ∧ s.objects[id]? = some a ∧
    ∀ σ, ∃ p, a σ = .parser p

theorem Holds.argumentOf (h : s.Holds v) (σ : Setting) :
    ∃ p, s.argumentOf v σ = .parser p := by
  obtain ⟨id, name, a, hv, ha, hp⟩ := h
  obtain ⟨p, hp⟩ := hp σ
  refine ⟨p.rename (s.store.read name).asText, ?_⟩
  unfold Session.argumentOf
  rw [hv]
  show Eval.renamed _ ((s.objects[id]?.getD _) σ) = _
  rw [ha, Option.getD_some, hp]
  rfl

end Session

namespace Eval

theorem run_argument (s : Session) (v : Value) :
    (argument v).run s = pure (s.argumentOf v, s) := by
  unfold argument Session.argumentOf
  cases v.bare <;> rfl

theorem run_argumentNow (s : Session) (v : Value) :
    (argumentNow v).run s = pure (s.argumentNow v, s) := by
  unfold argumentNow
  rw [StateT.run_bind, run_argument]
  rfl

-- ================================================================ coercing

/-- What is a parser already is handed back as it is, and of anything else one
is built. -/
theorem run_coerce (s : Session) (v : Value) :
    (coerce v).run s =
      if (s.argumentNow v).isParser then pure (v, s)
      else (build fun σ => (s.argumentOf v σ).coerce).run s := by
  unfold coerce
  rw [StateT.run_bind, run_argument, pure_bind]
  show (if (s.argumentNow v).isParser = true then _ else _ :
    Eval Value).run s = _
  split <;> rfl

theorem run_ofBuild_of_ok {α : Type} {m : Build α} {a : α}
    (h : m.exit = .ok a) (s : Session) :
    (ofBuild m).run s = ⟨m.trace.map Event.log, .ok (a, s)⟩ := by
  obtain ⟨tr, ex⟩ := m
  cases h
  exact Traced.ext_of (List.append_nil _) rfl

/-- What a session makes under a name, it holds. -/
theorem run_registerParser {a : Setting → Argument}
    (ha : ∀ σ, ∃ p, a σ = .parser p) (name : Value) (s : Session) :
    ∃ v s', (registerParser name a).run s = pure (v, s') ∧ s'.Holds v :=
  ⟨_, _, rfl, s.objects.length, _, a, rfl, List.getElem?_concat_length, ha⟩

/-- What is built without a fault in every setting is held. -/
theorem run_build {m : Setting → Build Parser}
    (hm : ∀ σ, ∃ p, (m σ).exit = .ok p) (s : Session) :
    ∃ tr v s', (build m).run s = ⟨tr, .ok (v, s')⟩ ∧ s'.Holds v := by
  -- The object is built again in whatever setting it is used.
  have hbuilt : ∀ σ, ∃ p, built (m σ) = .parser p := by
    intro σ
    obtain ⟨q, hq⟩ := hm σ
    refine ⟨q, ?_⟩
    unfold built
    rw [hq]
  obtain ⟨p, hp⟩ := hm s.setting
  obtain ⟨v, s', hregister, hheld⟩ :=
    run_registerParser hbuilt (.text p.name) s
  refine ⟨(m s.setting).trace.map Event.log ++ [], v, s', ?_, hheld⟩
  show (ofBuild (m s.setting) >>= fun p =>
    registerParser (.text p.name) fun σ => built (m σ)).run s = _
  rw [StateT.run_bind, run_ofBuild_of_ok hp, Traced.bind_ok, hregister]
  rfl

/-- What coercing hands back is handed back by coercing it again, and nothing
is logged. -/
theorem coerce_coerce (h : s.Accepts v) :
    ∃ tr v' s', (coerce v).run s = ⟨tr, .ok (v', s')⟩ ∧
      (coerce v').run s' = pure (v', s') := by
  cases hparser : (s.argumentNow v).isParser with
  | true =>
      have hrun : (coerce v).run s = pure (v, s) := by
        rw [run_coerce, if_pos hparser]
      exact ⟨[], v, s, hrun, hrun⟩
  | false =>
      obtain ⟨tr, v', s', hbuild, hheld⟩ := run_build h s
      obtain ⟨p, hp⟩ : ∃ p, s'.argumentNow v' = .parser p :=
        hheld.argumentOf s'.setting
      refine ⟨tr, v', s', ?_, ?_⟩
      · rw [run_coerce, hparser]
        exact hbuild
      · rw [run_coerce, hp]
        rfl

-- ============================================================== entry points

/-- Looking at a text that is known changes nothing. -/
theorem run_windowOn_known (hid : ∀ path, id ≠ .place path) :
    (windowOn (.known id (.text t))).run s = pure (.ofText id t, s) := by
  -- What is known by its place would be settled, being doubled.
  cases id with
  | place path => exact absurd rfl (hid path)
  | _ => rfl

/-- The window at the start of a known text. -/
theorem run_windowAt_known (hid : ∀ path, id ≠ .place path)
    {pos? : Option Value} (hpos : pos?.getD (.int 0) = .int 0) :
    (windowAt (.known id (.text t)) pos?).run s =
      pure (.ofText id t, s) := by
  have hview : (Source.mk id t).viewAt (.int 0) = .ok (Source.mk id t).view :=
    dif_pos ⟨Int.le_refl 0, Int.natCast_nonneg _⟩
  unfold windowAt
  rw [hpos]
  show (windowOn (.known id (.text t)) >>= fun w => do
    let view ← ofExcept (w.view.source.viewAt (.int 0))
    return { w with view, truth := false }).run s = _
  rw [StateT.run_bind, run_windowOn_known hid, pure_bind]
  show (ofExcept ((Source.mk id t).viewAt (.int 0)) >>= fun view =>
    pure { Window.ofText id t with view, truth := false }).run s = _
  rw [hview]
  rfl

end Eval

namespace Session

/-- What a text that is written down is known by. -/
def textId (s : Session) (t : Text) : Identity :=
  (s.store.identify (Identity.ofSmallText? t)).1

/-- The session after a text was written down. -/
def afterText (s : Session) (t : Text) : Session :=
  { s with store := (s.store.identify (Identity.ofSmallText? t)).2 }

/-- What is known by its place was not written down. -/
theorem textId_ne_place (s : Session) (t : Text) (path : List Nat) :
    s.textId t ≠ .place path := by
  have hsmall : ∀ id, Identity.ofSmallText? t = some id →
      id ≠ .place path := by
    intro id hid hpath
    subst hpath
    unfold Identity.ofSmallText? at hid
    split at hid
    · cases hid
    · split at hid <;> cases hid
    · cases hid
  unfold textId Store.identify
  cases h : Identity.ofSmallText? t with
  | some id => exact hsmall id h
  | none => intro h; cases h

end Session

namespace Eval

/-- A text that is written down is known from then on. -/
theorem run_text (s : Session) (t : Text) :
    (Expr.text t).eval.run s =
      pure (.known (s.textId t) (.text t), s.afterText t) := rfl

/-- And so is the text that a view is made over, be its position written down
or not. -/
theorem run_view (s : Session) (t : Text) :
    ∀ pos? ∈ [none, some (Expr.int 0)],
      (Expr.view (.text t) pos?).eval.run s =
        pure (.view (.ofText (s.textId t) t), s.afterText t) := by
  have hview : ∀ pos? : Option Value, pos?.getD (.int 0) = .int 0 →
      ((Expr.text t).eval >>= fun t => windowAt t pos? >>= fun w =>
        pure (Value.view w)).run s =
          pure (.view (.ofText (s.textId t) t), s.afterText t) := by
    intro pos? hpos
    rw [StateT.run_bind, run_text, pure_bind, StateT.run_bind,
      run_windowAt_known (s.textId_ne_place t) hpos]
    rfl
  exact List.forall_mem_cons.2 ⟨hview none rfl,
    List.forall_mem_singleton.2 (hview (some (.int 0)) rfl)⟩

theorem run_ofRun {α : Type} (m : Run α) (s : Session) :
    (ofRun m).run s = ⟨m.trace.map Event.call, m.exit.map (·, s)⟩ := by
  obtain ⟨tr, e | a⟩ := m
  · rfl
  · exact Traced.ext_of (List.append_nil _) rfl

/-- A parser that is given something to parse is run on the window on it. -/
theorem run_parse {w : Value} {win : Window} {p : Parser}
    (hp : s.argumentNow v = .parser p)
    (hw : (input w).run s = pure (win, s)) :
    (parse v w).run s = ⟨(p.run win).trace.map Event.call,
      (p.run win).exit.map fun o => (.ofOutcome o, s)⟩ := by
  unfold parse
  rw [StateT.run_bind, run_argumentNow, pure_bind, hp]
  show (input w >>= fun win => ofRun (p.run win) >>= fun o =>
    pure (Value.ofOutcome o)).run s = _
  rw [StateT.run_bind, hw, pure_bind, StateT.run_bind, run_ofRun]
  rcases (p.run win).exit with e | o
  · rfl
  · exact Traced.ext_of (List.append_nil _) rfl

/-- Calling a parser is letting it parse, whatever it is given. -/
theorem run_call {p : Parser} (hp : s.argumentNow v = .parser p)
    (w : Value) : (call v w).run s = (parse v w).run s := by
  unfold call parse
  rw [StateT.run_bind, StateT.run_bind, run_argumentNow, pure_bind, pure_bind,
    hp]

end Eval

namespace Step

/-- A step of two expressions evaluates them and goes on with their
values. -/
theorem run_two {α : Type} {x y : Expr} {w : Value} {s'' : Session}
    {tr tr' : List Event} (hx : x.eval.run s = ⟨tr, .ok (v, s')⟩)
    (hy : y.eval.run s' = ⟨tr', .ok (w, s'')⟩)
    (f : Value → Value → Eval α) :
    (two x y f).run s = ⟨tr ++ (tr' ++ ((f v w).run s'').trace),
      ((f v w).run s'').exit⟩ := by
  unfold two
  rw [StateT.run_bind, hx, Traced.bind_ok, StateT.run_bind, hy,
    Traced.bind_ok]

/-- A parser that is given the window at an expression is run on it, whether
it is asked to parse or called. -/
theorem run_parse_call {x y : Expr} {w : Value} {win : Window} {p : Parser}
    {s'' : Session} {tr : List Event}
    (hx : x.eval.run s = ⟨tr, .ok (v, s')⟩)
    (hy : y.eval.run s' = pure (w, s''))
    (hp : s''.argumentNow v = .parser p)
    (hw : (Eval.input w).run s'' = pure (win, s'')) :
    ∀ step ∈ [parse x y, call x y], step.perform.run s =
      ⟨tr ++ (p.run win).trace.map Event.call,
        (p.run win).exit.map fun o => (.ofOutcome o, s'')⟩ := by
  refine List.forall_mem_cons.2 ⟨?_, List.forall_mem_singleton.2 ?_⟩
  · show (two x y Eval.parse).run s = _
    rw [run_two hx hy, Eval.run_parse hp hw, List.nil_append]
  · show (two x y Eval.call).run s = _
    rw [run_two hx hy, Eval.run_call hp, Eval.run_parse hp hw,
      List.nil_append]

/-- The ways to write down a text that is to be parsed: as it is, and in a
view. -/
def inputs (t : Text) : List Expr :=
  .text t :: [none, some (Expr.int 0)].map (Expr.view (.text t))

/-- The ways to give a text to a parser. -/
def entries (x : Expr) (t : Text) : List Step :=
  (inputs t).flatMap fun y => [parse x y, call x y]

/-- All are the run of the parser on the window at the start of the text. -/
theorem run_entries {x : Expr} {p : Parser} {tr : List Event}
    (hx : x.eval.run s = ⟨tr, .ok (v, s')⟩)
    (hp : (s'.afterText t).argumentNow v = .parser p) :
    ∀ step ∈ entries x t, step.perform.run s =
      ⟨tr ++ (p.run (.ofText (s'.textId t) t)).trace.map Event.call,
        (p.run (.ofText (s'.textId t) t)).exit.map fun o =>
          (.ofOutcome o, s'.afterText t)⟩ := by
  refine List.forall_mem_flatMap.2 (List.forall_mem_cons.2 ⟨?_, ?_⟩)
  · apply run_parse_call hx (Eval.run_text s' t) hp
    exact Eval.run_windowOn_known (s'.textId_ne_place t)
  · refine List.forall_mem_map.2 fun pos? hpos => ?_
    exact run_parse_call hx (Eval.run_view s' t pos? hpos) hp rfl

end Step

end ParserKit.Script
