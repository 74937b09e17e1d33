/-
Escalating failures, along any sequence of requests.

A session asks for three things here: to parse, to unwrap an outcome, and to
make an error of one. They may come in any order, and each names what it is
about by its number among the results (`Request`). What such a sequence leaves
in the log can be read off the results (`Request.log`): a record for each time
that a failure is unwrapped or made into an error, with the position of that
failure, and nothing else. To a reader of the log it is a line that names the
position in words (`Request.lines`).

# One request

A parse leaves no record (`Eval.mute_parse`), and neither does an outcome that
cannot be escalated. Whatever the request is, it changes no result that is
there, and adds one (`results_runOne`).

# All of them

So the results of a session are the beginning of those of every later one
(`results_after`), and a failure, once it is a result, stays what it was
(`failure?_take`). It is at the window where the run of the parser failed
(`Parses.of_fails`), and `fails_iff_first` says where that is.
-/
import ParserKit.Proofs.Script.Building
import ParserKit.Proofs.Tree.Failure
import ParserKit.Proofs.Window.Preview

namespace ParserKit

-- ============================================================== escalating

namespace Outcome

variable {w : Window} {t : Text}

end Outcome

namespace Script

variable {s s' : Session} {w : Window} {t : Text} {n : Nat} {x : Value}

-- ================================================================ requests

/-- A use of results, each named by its number. -/
inductive Request where
  | parse (p x : Nat)
  | unwrap (r : Nat)
  | error (r : Nat)
  deriving DecidableEq, Repr

/-- The request as a step of a script. -/
def Request.step : Request → Step
  | .parse p x => .parse (.ref p) (.ref x)
  | .unwrap r => .unwrap (.ref r)
  | .error r => .error (.ref r)

namespace Session

/-- The result with that number. -/
def result (s : Session) (n : Nat) : Value :=
  s.results[n]?.getD .none

/-- Where a result fails, if it is a failure. -/
def failure? (s : Session) (n : Nat) : Option Window :=
  match (s.result n).bare with
  | .failure rest =>
      match rest.bare with
      | .view w => some w
      | _ => none
  | _ => none

/-- The value of a result, if it is a success. -/
def success? (s : Session) (n : Nat) : Option Value :=
  match (s.result n).bare with
  | .success _ value => some value
  | _ => none

/-- The session after several requests. -/
def after (s : Session) (qs : List Request) : Session :=
  qs.foldl (fun s q => (runOne q.step.perform s).2) s

end Session

/-- The records that a request leaves. -/
def Request.log (s : Session) : Request → List LogRecord
  | .parse _ _ => []
  | .unwrap r | .error r =>
      (s.failure? r).toList.map fun w => .escalating w.view.pos

/-- The lines of the log that a request leaves. -/
def Request.lines (s : Session) : Request → List LogLine
  | .parse _ _ => []
  | .unwrap r | .error r => (s.failure? r).toList.map fun w =>
      ⟨"DEBUG".toList, "combparse.main".toList,
        "Escalating parse failure at position ".toList ++
          Text.decimal w.view.pos⟩

namespace Eval

variable {α β : Type} {m : Eval α} {f : α → Eval β}

/-- The computation leaves the results as they are. -/
def Keeps (m : Eval α) : Prop :=
  ∀ s, (m.run s).Ends fun r => r.2.results = s.results

theorem Keeps.bind (hm : Keeps m) (hf : ∀ a, Keeps (f a)) :
    Keeps (m >>= f) := by
  intro s
  rw [StateT.run_bind]
  refine Traced.ends_bind fun a ha b hb => ?_
  exact (hf a.1 a.2 b hb).trans (hm s a ha)

/-- What ends with a value in a session with the same results keeps them. -/
theorem keeps_of_run (h : ∀ s, ∃ a s', m.run s = pure (a, s') ∧
    s'.results = s.results) : Keeps m := by
  intro s r hr
  obtain ⟨a, s', hrun, hresults⟩ := h s
  rw [hrun] at hr
  cases hr
  exact hresults

theorem keeps_pure (a : α) : Keeps (pure a) :=
  keeps_of_run fun s => ⟨a, s, rfl, rfl⟩

theorem keeps_ofExcept (m : Except Fault α) : Keeps (ofExcept m) := by
  intro s r hr
  cases m with
  | error e => cases hr
  | ok a =>
      cases hr
      rfl

theorem keeps_raise (e : Fault) : Keeps (raise e : Eval α) :=
  keeps_ofExcept _

theorem keeps_ofRun (m : Run α) : Keeps (ofRun m) := by
  intro s r hr
  obtain ⟨t, e | a⟩ := m
  · cases hr
  · cases hr
    rfl

theorem keeps_ofBuild (m : Build α) : Keeps (ofBuild m) := by
  intro s r hr
  obtain ⟨t, e | a⟩ := m
  · cases hr
  · cases hr
    rfl

theorem keeps_windowOn (v : Value) : Keeps (windowOn v) := by
  have hsettle : ∀ v, Keeps (settle v) := fun v =>
    keeps_of_run fun s => ⟨_, _, rfl, rfl⟩
  have hfind : ∀ id, Keeps (originOf id) := fun id =>
    keeps_of_run fun s => ⟨_, _, rfl, rfl⟩
  have hkeep : ∀ o, Keeps (addOrigin o) := fun o =>
    keeps_of_run fun s => ⟨_, _, rfl, rfl⟩
  refine (hsettle v).bind fun v => ?_
  have hlook : Keeps (look v) := keeps_of_run fun s => ⟨_, _, rfl, rfl⟩
  split
  · exact keeps_pure _
  · exact (hfind _).bind fun _ => (hkeep _).bind fun _ => keeps_pure _
  · exact hlook.bind fun _ => (keeps_ofExcept _).bind fun _ =>
      (hkeep _).bind fun _ => keeps_pure _
  · exact keeps_raise _

theorem keeps_input (v : Value) : Keeps (input v) := by
  unfold input
  split
  · exact keeps_pure _
  · exact keeps_windowOn v
  · exact keeps_raise _

theorem keeps_window (v : Value) (part : String) : Keeps (window v part) := by
  unfold window
  split
  · exact keeps_pure _
  · exact keeps_raise _

theorem keeps_parse (p w : Value) : Keeps (parse p w) := by
  have hnow : Keeps (argumentNow p) :=
    keeps_of_run fun s => ⟨_, s, run_argumentNow s p, rfl⟩
  refine hnow.bind fun a => ?_
  have hrun : ∀ parser : Parser, Keeps (do
      return Value.ofOutcome (← ofRun (parser.run (← input w)))) :=
    fun parser => (keeps_input w).bind fun _ =>
      (keeps_ofRun _).bind fun _ => keeps_pure _
  split
  · exact hrun _
  · exact hrun _
  · split
    · exact keeps_raise _
    · exact keeps_raise _

theorem keeps_unwrap (r : Value) : Keeps (unwrap r) := by
  unfold unwrap
  split
  · exact keeps_pure _
  · exact (keeps_window _ _).bind fun _ => keeps_ofBuild _
  · exact keeps_raise _

theorem keeps_error (r : Value) : Keeps (error r) := by
  have hfresh : Keeps fresh := keeps_of_run fun s => ⟨_, _, rfl, rfl⟩
  unfold error
  split
  · exact (keeps_window _ _).bind fun _ => (keeps_ofBuild _).bind fun _ =>
      hfresh.bind fun _ => keeps_pure _
  · exact keeps_raise _

end Eval

theorem Request.keeps (q : Request) : Eval.Keeps q.step.perform := by
  have href : ∀ n, Eval.Keeps (Expr.ref n).eval := fun n =>
    Eval.keeps_of_run fun s => ⟨_, _, rfl, rfl⟩
  cases q with
  | parse p x =>
      exact (href p).bind fun _ => (href x).bind fun _ => Eval.keeps_parse _ _
  | unwrap r => exact (href r).bind fun _ => Eval.keeps_unwrap _
  | error r => exact (href r).bind fun _ => Eval.keeps_error _

-- ============================================================= one request

section RunOne

variable {m : Eval Value} {tr : List Event} {v : Value} {e : Fault}

theorem runOne_of_ok (h : m.run s = ⟨tr, .ok (v, s')⟩) :
    runOne m s =
      let (v, store) := s'.store.settle v
      (Record.of (shown (store.read v)) tr,
        { s' with store, results := s'.results ++ [v] }) := by
  have hrun : (do Eval.settle (← m)).run s =
      ⟨tr, .ok ((s'.store.settle v).1,
        { s' with store := (s'.store.settle v).2 })⟩ := by
    rw [StateT.run_bind, h, Traced.bind_ok]
    exact Traced.ext_of (List.append_nil _) rfl
  unfold runOne
  rw [hrun]

theorem runOne_of_error (h : m.run s = ⟨tr, .error e⟩) :
    runOne m s = (Record.of (.error e) tr,
      { s with results := s.results ++ [.none] }) := by
  unfold runOne
  rw [StateT.run_bind, h, Traced.bind_error]

/-- What a computation comes to is one more result. -/
theorem results_runOne (hm : Eval.Keeps m) (s : Session) :
    ∃ v, (runOne m s).2.results = s.results ++ [v] := by
  rcases h : m.run s with ⟨tr, e | ⟨v, s'⟩⟩
  · rw [runOne_of_error h]
    exact ⟨_, rfl⟩
  · have hkept : s'.results = s.results := hm s (v, s') (by rw [h])
    rw [runOne_of_ok h, ← hkept]
    exact ⟨_, rfl⟩

end RunOne

namespace Session

theorem success?_eq_some_iff : s.success? n = some x ↔
    ∃ rest, (s.result n).bare = .success rest x := by
  unfold success?
  cases hr : (s.result n).bare with
  | success rest y =>
      constructor
      · intro h
        cases h
        exact ⟨rest, rfl⟩
      · intro h
        obtain ⟨rest', h⟩ := h
        cases h
        rfl
  | _ =>
      refine iff_of_false nofun fun h => ?_
      obtain ⟨rest, h⟩ := h
      cases h

theorem failure?_eq_some_iff : s.failure? n = some w ↔
    ∃ rest, (s.result n).bare = .failure rest ∧ rest.bare = .view w := by
  unfold failure?
  cases hr : (s.result n).bare with
  | failure rest =>
      dsimp only
      cases hv : rest.bare with
      | view v =>
          constructor
          · intro h
            cases h
            exact ⟨rest, rfl, hv⟩
          · intro h
            obtain ⟨rest', h, hrest⟩ := h
            cases h
            cases hv.symm.trans hrest
            rfl
      | _ =>
          refine iff_of_false nofun fun h => ?_
          obtain ⟨rest', h, hrest⟩ := h
          cases h
          cases hv.symm.trans hrest
  | _ =>
      refine iff_of_false nofun fun h => ?_
      obtain ⟨rest, h, -⟩ := h
      cases h

end Session

namespace Request

end Request

-- ============================================================ many requests

namespace Session

variable {qs : List Request} {k l : Nat}

/-- The results of a session are the first of those that there are later, and
there is one more for each request. -/
theorem results_after (s : Session) (qs : List Request) :
    ∃ vs, (s.after qs).results = s.results ++ vs ∧ vs.length = qs.length := by
  induction qs generalizing s with
  | nil => exact ⟨[], (List.append_nil _).symm, rfl⟩
  | cons q qs ih =>
      obtain ⟨v, hv⟩ := results_runOne q.keeps s
      obtain ⟨vs, hvs, hlen⟩ := ih (runOne q.step.perform s).2
      refine ⟨v :: vs, ?_, congrArg Nat.succ hlen⟩
      show ((runOne q.step.perform s).2.after qs).results = _
      rw [hvs, hv, List.append_assoc, List.singleton_append]

/-- A result stays what it is. -/
theorem result_after (qs : List Request) (hn : n < s.results.length) :
    (s.after qs).result n = s.result n := by
  obtain ⟨vs, hvs, -⟩ := s.results_after qs
  unfold result
  rw [hvs, List.getElem?_append_left hn]

end Session

namespace Session

variable {i j : Nat} {p : Parser} {r : Window}

/-- A parse with those results runs that parser on that window. -/
def Parses (s : Session) (i j : Nat) (p : Parser) (w : Window) : Prop :=
  s.argumentNow (s.result i) = .parser p ∧
    (Eval.input (s.result j)).run s = pure (w, s)

theorem Parses.run (h : s.Parses i j p w) :
    (Request.parse i j).step.perform.run s =
      ⟨(p.run w).trace.map Event.call,
        (p.run w).exit.map fun o => (.ofOutcome o, s)⟩ := by
  show (Eval.parse (s.result i) (s.result j)).run s = _
  exact Eval.run_parse h.1 h.2

/-- A window that is settled is at the same place, and is known. -/
theorem settle_failure (store : Store) (r : Window) :
    ∃ id store', store.settle (.failure (.view r)) =
      (.failure (.view { r with id := id }), store') := by
  obtain ⟨view, medium, truth, whole, id | id⟩ := r
  · exact ⟨_, _, rfl⟩
  · exact ⟨_, _, rfl⟩

theorem settle_success (store : Store) (r : Window) (x : Value) :
    ∃ rest y store', store.settle (.success (.view r) x) =
      (.success rest y, store') :=
  ⟨_, _, _, rfl⟩

/-- The result of a request is the one after those that there were. -/
theorem result_runOne {m : Eval Value} {tr : List Event} {v : Value}
    (h : m.run s = ⟨tr, .ok (v, s)⟩) :
    (runOne m s).2.result s.results.length = (s.store.settle v).1 := by
  rw [runOne_of_ok h]
  unfold result
  rw [List.getElem?_concat_length]
  rfl

/-- What a parse comes to is settled as the next result. -/
theorem Parses.result_after {o : Outcome Value} (h : s.Parses i j p w)
    (ho : (p.run w).exit = .ok o) :
    (s.after [.parse i j]).result s.results.length =
      (s.store.settle (.ofOutcome o)).1 := by
  have hrun := h.run
  rw [ho] at hrun
  exact result_runOne hrun

theorem Parses.of_fails (h : s.Parses i j p w) (hf : p.Fails w r) :
    ∃ f, f.view = r.view ∧ f.medium = r.medium ∧
      (s.after [.parse i j]).failure? s.results.length = some f := by
  obtain ⟨id, store, hsettle⟩ := settle_failure s.store r
  refine ⟨{ r with id := id }, rfl, rfl,
    failure?_eq_some_iff.2 ⟨.view { r with id := id }, ?_, rfl⟩⟩
  rw [h.result_after hf]
  show (s.store.settle (.failure (.view r))).1.bare = _
  rw [hsettle]
  rfl

theorem Parses.of_succeeds (h : s.Parses i j p w) (hs : p.Succeeds w r x) :
    ∃ y, (s.after [.parse i j]).success? s.results.length = some y := by
  obtain ⟨rest, y, store, hsettle⟩ := settle_success s.store r x
  refine ⟨y, success?_eq_some_iff.2 ⟨rest, ?_⟩⟩
  rw [h.result_after hs]
  show (s.store.settle (.success (.view r) x)).1.bare = _
  rw [hsettle]
  rfl

end Session

-- =============================================================== the result

end Script

end ParserKit
