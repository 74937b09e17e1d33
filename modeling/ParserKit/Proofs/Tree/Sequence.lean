/-
One parser after another: sequences may be regrouped, and the empty literal
adds nothing to one.

A run of a `pair` is the run of its first part, gone on from with the run of
its second (`run_pair`), and a `left` and a `right` differ from it in the
value alone (`run_left`, `run_right`). Going on from a success (`andThen`) is
associative, since computations with a trace are, and to go on by doing
nothing changes nothing. So however a sequence is grouped, its runs unfold to
one chain of the parts, in which a part that fails or ends in a fault is the
last.

# What has to be known of a part

Nothing, as long as sequences are only regrouped: a part may go on anywhere,
fail anywhere, or raise. The empty literal needs a window that can be asked
what it starts with. A window over a text is one (`run_literal_nil`), so it
adds nothing before a part that is run on a text, and nothing behind a part
that goes on at one.
-/
import ParserKit.Proofs.Leaf.Token
import ParserKit.Proofs.Tree.Control

namespace ParserKit.Parser

variable {α β γ : Type} {m : Run (Outcome α)}
  {k k' : Window → α → Run (Outcome β)} {p q t : Parser}
  {f g : α → Value} {T : Value → Value → Prop} {w r : Window} {x : α}

-- ======================================================== going on from one

/-- A computation, and what is done where it succeeds. -/
def andThen (m : Run (Outcome α)) (k : Window → α → Run (Outcome β)) :
    Run (Outcome β) := do
  match ← m with
  | .success r x => k r x
  | .failure r => return .failure r

/-- A success and nothing else. -/
def succeed (r : Window) (x : α) : Run (Outcome α) :=
  pure (.success r x)

theorem andThen_of_success (h : m.exit = .ok (.success r x)) :
    andThen m k = ⟨m.trace ++ (k r x).trace, (k r x).exit⟩ := by
  obtain ⟨t, e⟩ := m
  cases h
  rfl

theorem andThen_of_failure (h : m.exit = .ok (.failure r)) :
    andThen m k = ⟨m.trace, .ok (.failure r)⟩ := by
  obtain ⟨t, e⟩ := m
  cases h
  exact Traced.ext_of (List.append_nil t) rfl

theorem andThen_of_fault {e : Fault} (h : m.exit = .error e) :
    andThen m k = ⟨m.trace, .error e⟩ := by
  obtain ⟨t, e⟩ := m
  cases h
  rfl

@[simp] theorem succeed_andThen (r : Window) (x : α)
    (k : Window → α → Run (Outcome β)) : andThen (succeed r x) k = k r x :=
  rfl

/-- To go on by doing nothing changes nothing. -/
theorem andThen_succeed (m : Run (Outcome α)) : andThen m succeed = m := by
  obtain ⟨t, e | ⟨r, x⟩ | r⟩ := m
  · exact andThen_of_fault rfl
  · rw [andThen_of_success rfl]
    exact Traced.ext_of (List.append_nil t) rfl
  · exact andThen_of_failure rfl

@[simp] theorem andThen_assoc (m : Run (Outcome α))
    (k : Window → α → Run (Outcome β)) (h : Window → β → Run (Outcome γ)) :
    andThen (andThen m k) h = andThen m fun r x => andThen (k r x) h := by
  unfold andThen
  rw [bind_assoc]
  congr 1
  funext o
  cases o with
  | success r x => rfl
  | failure r => rfl

/-- What is done where a computation does not succeed is not looked at. -/
theorem andThen_congr
    (h : ∀ r x, m.exit = .ok (.success r x) → k r x = k' r x) :
    andThen m k = andThen m k' := by
  rcases hm : m.exit with e | ⟨r, x⟩ | r
  · rw [andThen_of_fault hm, andThen_of_fault hm]
  · rw [andThen_of_success hm, andThen_of_success hm, h r x hm]
  · rw [andThen_of_failure hm, andThen_of_failure hm]

-- ============================================================ inner nodes

theorem run_pair (p q : Parser) (w : Window) :
    (pair p q).run w = andThen (p.run w) fun u x =>
      andThen (q.run u) fun r y => succeed r (.tuple [x, y]) := by
  rcases p.ends w with ⟨u, x, hp⟩ | ⟨u, hp⟩ | ⟨e, hp⟩
  · rw [run_pair_of_succeeds hp, andThen_of_success hp]
    rcases q.ends u with ⟨r, y, hq⟩ | ⟨r, hq⟩ | ⟨e, hq⟩
    · rw [andThen_of_success hq, hq]
      exact Traced.ext_of (by simp [succeed]) rfl
    · rw [andThen_of_failure hq, hq]
      rfl
    · rw [andThen_of_fault hq, hq]
      rfl
  · rw [run_pair_of_not_succeeds hp.not_succeeds, andThen_of_failure hp]
    exact Traced.ext_of rfl hp
  · rw [run_pair_of_not_succeeds hp.not_succeeds, andThen_of_fault hp]
    exact Traced.ext_of rfl hp

theorem run_map (p : Parser) (f : Value → Run Value) (w : Window) :
    (map p f).run w = andThen (p.run w) fun r x => do
      return .success r (← f x) := by
  rcases p.ends w with ⟨r, x, hp⟩ | ⟨r, hp⟩ | ⟨e, hp⟩
  · rw [run_map_of_succeeds hp, andThen_of_success hp]
    rcases hf : f x with ⟨t, e | y⟩
    · rfl
    · exact Traced.ext_of (by simp) rfl
  · rw [run_map_of_not_succeeds hp.not_succeeds, andThen_of_failure hp]
    exact Traced.ext_of rfl hp
  · rw [run_map_of_not_succeeds hp.not_succeeds, andThen_of_fault hp]
    exact Traced.ext_of rfl hp

theorem run_left (p q : Parser) (w : Window) :
    (left p q).run w = andThen (p.run w) fun u x =>
      andThen (q.run u) fun r _ => succeed r x := by
  rw [left, run_map, run_pair, andThen_assoc]
  simp only [andThen_assoc, succeed_andThen]
  rfl

/-- What is run second in a `right` decides everything but the calls. -/
theorem run_right (p q : Parser) (w : Window) :
    (right p q).run w = andThen (p.run w) fun u _ => q.run u := by
  rw [right, run_map, run_pair, andThen_assoc]
  simp only [andThen_assoc, succeed_andThen]
  apply andThen_congr
  intro u x _
  exact andThen_succeed (q.run u)

/-- The empty literal is there in any text, and leaves it as it is. -/
theorem run_literal_nil (hw : w.medium = .text) :
    (literal []).run w = succeed w .none := by
  rw [run_builtIn (.literal []) hw]
  rfl

-- ================================================================ alike

/-- The runs make the same calls and end in the same way, with values that
are related. -/
def RunsAlike (T : Value → Value → Prop) (p q : Parser) (w : Window) :
    Prop :=
  EndsAlike Eq T p w q w ∧ (p.run w).trace = (q.run w).trace

/-- Two runs that are one computation, but for what each makes of its
value. -/
theorem RunsAlike.of_andThen
    (hp : p.run w = andThen m fun r x => succeed r (f x))
    (hq : q.run w = andThen m fun r x => succeed r (g x))
    (hT : ∀ x, T (f x) (g x)) : RunsAlike T p q w := by
  rcases hm : m.exit with e | ⟨r, x⟩ | r
  · rw [andThen_of_fault hm] at hp hq
    refine ⟨EndsAlike.fault (e := e) ?_ ?_, ?_⟩
    · rw [Raises, hp]
    · rw [Raises, hq]
    · rw [hp, hq]
  · rw [andThen_of_success hm] at hp hq
    refine ⟨EndsAlike.success ?_ ?_ (Eq.refl r) (hT x), ?_⟩
    · rw [Succeeds, hp]; rfl
    · rw [Succeeds, hq]; rfl
    · rw [hp, hq]; rfl
  · rw [andThen_of_failure hm] at hp hq
    refine ⟨EndsAlike.failure ?_ ?_ (Eq.refl r), ?_⟩
    · rw [Fails, hp]
    · rw [Fails, hq]
    · rw [hp, hq]

/-- A tuple of a pair and a third value, and the same three values with the
last two as the pair. -/
def Regrouped (v v' : Value) : Prop :=
  ∃ x y z, v = .tuple [.tuple [x, y], z] ∧ v' = .tuple [x, .tuple [y, z]]

theorem pair_regrouped (a b c : Parser) (w : Window) :
    RunsAlike Regrouped (pair (pair a b) c) (pair a (pair b c)) w := by
  let m : Run (Outcome (Value × Value × Value)) :=
    andThen (a.run w) fun u x => andThen (b.run u) fun v y =>
      andThen (c.run v) fun r z => succeed r (x, y, z)
  have hleft : (pair (pair a b) c).run w = andThen m fun r x =>
      succeed r (.tuple [.tuple [x.1, x.2.1], x.2.2]) := by
    simp only [m, run_pair, andThen_assoc, succeed_andThen]
  have hright : (pair a (pair b c)).run w = andThen m fun r x =>
      succeed r (.tuple [x.1, .tuple [x.2.1, x.2.2]]) := by
    simp only [m, run_pair, andThen_assoc, succeed_andThen]
  exact RunsAlike.of_andThen hleft hright fun x => ⟨_, _, _, rfl, rfl⟩

/-- Where the value of a joined parser is not used, it is the one after the
other. -/
theorem Joins.andThen_eq (ht : Joins p q t) (w : Window)
    (k : Window → Run (Outcome β)) :
    andThen (t.run w) (fun r _ => k r) =
      andThen (p.run w) fun u _ => andThen (q.run u) fun r _ => k r := by
  cases ht with
  | pair => simp only [run_pair, andThen_assoc, succeed_andThen]
  | left => simp only [run_left, andThen_assoc, succeed_andThen]
  | right => simp only [run_right, andThen_assoc]

/-- A `left` of a `left` drops two values in turn, or at once, if they are
joined before. -/
theorem left_joined_eq (a : Parser) (ht : Joins p q t) (w : Window) :
    (left a t).run w = (left (left a p) q).run w := by
  rw [run_left, run_left, run_left, andThen_assoc]
  apply andThen_congr
  intro u x _
  rw [ht.andThen_eq u fun r => succeed r x]
  simp only [andThen_assoc, succeed_andThen]

theorem right_joined_eq (c : Parser) (ht : Joins p q t) (w : Window) :
    (right t c).run w = (right p (right q c)).run w := by
  rw [run_right, ht.andThen_eq w c.run, run_right]
  apply andThen_congr
  intro u x _
  rw [run_right]

/-- It does not matter which of the two outer values is dropped first. -/
theorem left_right_eq (a b c : Parser) (w : Window) :
    (left (right a b) c).run w = (right a (left b c)).run w := by
  rw [run_left, run_right, andThen_assoc, run_right]
  apply andThen_congr
  intro u x _
  rw [run_left]

-- ============================================================== the units

theorem pair_nil_left (a : Parser) (hw : w.medium = .text) :
    RunsAlike (fun x v => v = .tuple [.none, x]) a (pair (literal []) a)
      w := by
  have hpair : (pair (literal []) a).run w =
      andThen (a.run w) fun r x => succeed r (.tuple [.none, x]) := by
    rw [run_pair, run_literal_nil hw, succeed_andThen]
  exact RunsAlike.of_andThen (andThen_succeed (a.run w)).symm hpair
    fun x => rfl

theorem pair_nil_right {a : Parser}
    (ha : ∀ r x, a.Succeeds w r x → r.medium = .text) :
    RunsAlike (fun x v => v = .tuple [x, .none]) a (pair a (literal []))
      w := by
  have hpair : (pair a (literal [])).run w =
      andThen (a.run w) fun r x => succeed r (.tuple [x, .none]) := by
    rw [run_pair]
    apply andThen_congr
    intro u x hs
    rw [run_literal_nil (ha u x hs), succeed_andThen]
  exact RunsAlike.of_andThen (andThen_succeed (a.run w)).symm hpair
    fun x => rfl

theorem right_nil_left (a : Parser) (hw : w.medium = .text) :
    (right (literal []) a).run w = a.run w := by
  rw [run_right, run_literal_nil hw, succeed_andThen]

theorem left_nil_right {a : Parser}
    (ha : ∀ r x, a.Succeeds w r x → r.medium = .text) :
    (left a (literal [])).run w = a.run w := by
  calc (left a (literal [])).run w
      = andThen (a.run w) fun u x =>
          andThen ((literal []).run u) fun r _ => succeed r x :=
        run_left a (literal []) w
    _ = andThen (a.run w) succeed := by
        apply andThen_congr
        intro u x hs
        rw [run_literal_nil (ha u x hs), succeed_andThen]
    _ = a.run w := andThen_succeed (a.run w)

-- ============================================================== the result

/-- For any three parsers, whatever they do with a window: a sequence may be
grouped either way, with its values grouped the same way; the empty literal
before or behind a parser adds nothing but an empty value, and not even that
where the value is dropped; and values may be dropped one after the other, in
either order, or together. Two sequences that are the same in this way make
the same calls, and end at the same window or in the same fault. -/
theorem run_sequence (a b c : Parser) :
    (∀ w, RunsAlike Regrouped (pair (pair a b) c) (pair a (pair b c)) w) ∧
    (∀ w : Window, w.medium = .text →
      RunsAlike (fun x v => v = .tuple [.none, x]) a (pair (literal []) a)
          w ∧
        (right (literal []) a).run w = a.run w) ∧
    (∀ w, (∀ r x, a.Succeeds w r x → r.medium = .text) →
      RunsAlike (fun x v => v = .tuple [x, .none]) a (pair a (literal []))
          w ∧
        (left a (literal [])).run w = a.run w) ∧
    (∀ w t, Joins b c t → (left (left a b) c).run w = (left a t).run w) ∧
    (∀ w t, Joins a b t → (right a (right b c)).run w = (right t c).run w) ∧
    ∀ w, (left (right a b) c).run w = (right a (left b c)).run w := by
  refine ⟨pair_regrouped a b c, fun w hw => ?_, fun w ha => ?_, ?_, ?_,
    left_right_eq a b c⟩
  · exact ⟨pair_nil_left a hw, right_nil_left a hw⟩
  · exact ⟨pair_nil_right ha, left_nil_right ha⟩
  · intro w t ht
    exact (left_joined_eq a ht w).symm
  · intro w t ht
    exact (right_joined_eq c ht w).symm

/-- A first part that goes on in another text, with the empty literal behind
it and before it; and, past a character of that text, a third part that gives
up. -/
theorem run_sequence_elsewhere :
    let call (name : Text) (w : Window) := Call.leaf name w.pos w.length
    let elsewhere := Window.ofView (Source.view ⟨.number 1, "bc".toList⟩)
    let a := leaf (.named "jump".toList) fun w =>
      ⟨[call "jump".toList w], .ok (.success elsewhere (.int 7))⟩
    let b := character 'b'
    let c := leaf (.named "quit".toList) fun w =>
      ⟨[call "quit".toList w], .error (.aborted [])⟩
    let w := Window.ofView (Source.view ⟨.number 0, "xy".toList⟩)
    w.medium = .text ∧ (∀ r x, a.Succeeds w r x → r.medium = .text) ∧
      (pair a (literal [])).Succeeds w elsewhere (.tuple [.int 7, .none]) ∧
      (pair (literal []) a).Succeeds w elsewhere (.tuple [.none, .int 7]) ∧
      (left a (literal [])).run w = (right (literal []) a).run w ∧
      (pair a (pair b c)).Raises w (.aborted []) ∧
      ((pair a (pair b c)).run w).trace
        = [.leaf "jump".toList (.int 0) 2, .leaf "quit".toList (.int 1) 1] ∧
      (right (left a b) c).run w = (right a (right b c)).run w := by
  intro call elsewhere a b c w
  have ha : a.Succeeds w elsewhere (.int 7) := rfl
  have htext : ∀ r x, a.Succeeds w r x → r.medium = .text := by
    intro r x h
    cases h
    rfl
  obtain ⟨hgroup, hbefore, hbehind, -, hright, -⟩ := run_sequence a b c
  obtain ⟨hpair, hleft⟩ := hbehind w htext
  obtain ⟨hpair', hright'⟩ := hbefore w rfl
  obtain ⟨_, v, hv, rfl, rfl⟩ := hpair.1.of_succeeds ha
  obtain ⟨_, v', hv', rfl, rfl⟩ := hpair'.1.of_succeeds ha
  have hraise : (pair (pair a b) c).Raises w (.aborted []) := rfl
  exact ⟨rfl, htext, hv, hv', hleft.trans hright'.symm,
    (hgroup w).1.of_raises hraise, (hgroup w).2.symm,
    (hright w _ Joins.left).symm⟩

end ParserKit.Parser
