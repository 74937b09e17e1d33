/-
Transforms: what several of them come to, and when they are called.

A `map` over a `map` calls one transform right after the other, on the same
success, so the two are one `map` of the one transform after the other
(`run_map_map`). The runs agree in everything: calls, faults and values.

A transform of one part of a sequence can be moved behind the sequence, and
then the outcome stays and the calls do not. Where it stood it was called
before the next part was run (`early`); behind the sequence it is called when
all parts have succeeded (`late`). It is called on the same value, and as long
as it returns, nothing else depends on it, since the next part is run on the
window that the part before has left, whatever becomes of the value. A
transform of the last part is called at the same moment either way, and may
even raise.
-/
import ParserKit.Proofs.Tree.Sequence

namespace ParserKit.Parser

variable {α β γ : Type} {p q : Parser} {f g : Value → Run Value}
  {k : Value → Window → Value → Run (Outcome Value)}
  {calls : Value → List Call} {w u r : Window} {x y a : Value}

-- ======================================================= one after another

/-- What is done first is done before all that goes on from it. -/
@[simp] theorem bind_andThen (m : Run α) (k : α → Run (Outcome β))
    (h : Window → β → Run (Outcome γ)) :
    andThen (m >>= k) h = m >>= fun a => andThen (k a) h :=
  bind_assoc m k _

theorem run_map_map (p : Parser) (f g : Value → Run Value) (w : Window) :
    (map (map p f) g).run w = (map p (f >=> g)).run w := by
  rw [run_map, run_map, run_map, andThen_assoc]
  apply andThen_congr
  intro r x _
  show andThen (f x >>= succeed r) _ = (f x >>= g) >>= succeed r
  rw [bind_andThen, bind_assoc]
  rfl

theorem run_map_pure (p : Parser) (w : Window) :
    (map p pure).run w = p.run w := by
  rw [run_map]
  exact andThen_succeed (p.run w)

-- ================================================== moved behind a sequence

/-- Two parsers in order, with a transform that is called as soon as the first
has succeeded, and what is done with both values in the end. -/
def early (p q : Parser) (f : Value → Run Value)
    (k : Value → Window → Value → Run (Outcome Value)) (w : Window) :
    Run (Outcome Value) :=
  andThen (p.run w) fun u x => f x >>= fun a => andThen (q.run u) (k a)

/-- The same, but the transform is called when both have succeeded. -/
def late (p q : Parser) (f : Value → Run Value)
    (k : Value → Window → Value → Run (Outcome Value)) (w : Window) :
    Run (Outcome Value) :=
  andThen (p.run w) fun u x => andThen (q.run u) fun r y =>
    f x >>= fun a => k a r y

/-- Both of two transforms, on the two values of a pair. -/
def both (f g : Value → Run Value) (v : Value) : Run Value := do
  let x ← first v
  let y ← second v
  return .tuple [← f x, ← g y]

/-- A second transform, and then both values in a pair. -/
def thenPair (g : Value → Run Value) (a : Value) (r : Window) (y : Value) :
    Run (Outcome Value) :=
  g y >>= fun b => succeed r (.tuple [a, b])

theorem run_pair_maps (p q : Parser) (f g : Value → Run Value) (w : Window) :
    (pair (map p f) (map q g)).run w = early p q f (thenPair g) w := by
  simp only [run_pair, run_map, andThen_assoc, bind_andThen]
  rfl

theorem run_map_both (p q : Parser) (f g : Value → Run Value) (w : Window) :
    (map (pair p q) (both f g)).run w = late p q f (thenPair g) w := by
  rw [run_map, run_pair, andThen_assoc]
  apply andThen_congr
  intro u x _
  rw [andThen_assoc]
  apply andThen_congr
  intro r y _
  rw [succeed_andThen]
  show ((f x >>= fun a => g y >>= fun b => pure (Value.tuple [a, b])) >>=
    succeed r : Run (Outcome Value)) = _
  simp only [bind_assoc, pure_bind]
  rfl

theorem run_left_map (p q : Parser) (f : Value → Run Value) (w : Window) :
    (left (map p f) q).run w = early p q f (fun a r _ => succeed r a) w := by
  simp only [run_left, run_map, andThen_assoc, bind_andThen]
  rfl

theorem run_map_left (p q : Parser) (f : Value → Run Value) (w : Window) :
    (map (left p q) f).run w = late p q f (fun a r _ => succeed r a) w := by
  simp only [run_left, run_map, andThen_assoc, succeed_andThen]
  rfl

/-- The transform of what is run last is called last, wherever it stands. -/
theorem run_right_map (p q : Parser) (g : Value → Run Value) (w : Window) :
    (right p (map q g)).run w = (map (right p q) g).run w := by
  simp only [run_right, run_map, andThen_assoc]

-- ============================================================ the difference

/-- Two runs of `p` and then `q` that end in the same way, of which the second
calls the transform `f` later than the first. Past both parsers the same is
called in both. -/
structure Postpones (p q : Parser) (f : Value → Run Value)
    (calls : Value → List Call) (w : Window)
    (m n : Run (Outcome Value)) : Prop where
  exit_eq : m.exit = n.exit
  neither : (¬ ∃ u x, p.Succeeds w u x) → m = p.run w ∧ n = p.run w
  first : ∀ u x, p.Succeeds w u x → (¬ ∃ r y, q.Succeeds u r y) →
    m.trace = (p.run w).trace ++ (f x).trace ++ (q.run u).trace ∧
      n.trace = (p.run w).trace ++ (q.run u).trace
  second : ∀ u x r y, p.Succeeds w u x → q.Succeeds u r y →
    m.trace =
        (p.run w).trace ++ (f x).trace ++ (q.run u).trace ++ calls y ∧
      n.trace =
        (p.run w).trace ++ (q.run u).trace ++ (f x).trace ++ calls y

theorem andThen_of_not_succeeds {k : Window → Value → Run (Outcome Value)}
    (h : ¬ ∃ u x, p.Succeeds w u x) : andThen (p.run w) k = p.run w := by
  rcases p.ends w with ⟨u, x, hp⟩ | ⟨u, hp⟩ | ⟨e, hp⟩
  · exact absurd ⟨u, x, hp⟩ h
  · rw [andThen_of_failure hp]
    exact Traced.ext_of rfl hp.symm
  · rw [andThen_of_fault hp]
    exact Traced.ext_of rfl hp.symm

theorem bind_of_ok {m : Run α} {k : α → Run β} {a : α}
    (h : m.exit = .ok a) :
    m >>= k = ⟨m.trace ++ (k a).trace, (k a).exit⟩ := by
  obtain ⟨t, e⟩ := m
  cases h
  rfl

theorem early_of_succeeds (hp : p.Succeeds w u x)
    (ha : (f x).exit = .ok a) :
    early p q f k w =
      ⟨(p.run w).trace ++ ((f x).trace ++ (andThen (q.run u) (k a)).trace),
        (andThen (q.run u) (k a)).exit⟩ := by
  rw [early, andThen_of_success hp, bind_of_ok ha]

theorem late_of_succeeds (hp : p.Succeeds w u x) (hq : q.Succeeds u r y)
    (ha : (f x).exit = .ok a) :
    late p q f k w =
      ⟨(p.run w).trace ++
          ((q.run u).trace ++ ((f x).trace ++ (k a r y).trace)),
        (k a r y).exit⟩ := by
  rw [late, andThen_of_success hp, andThen_of_success hq, bind_of_ok ha]

theorem late_of_not_succeeds (hp : p.Succeeds w u x)
    (hq : ¬ ∃ r y, q.Succeeds u r y) :
    late p q f k w =
      ⟨(p.run w).trace ++ (q.run u).trace, (q.run u).exit⟩ := by
  rw [late, andThen_of_success hp, andThen_of_not_succeeds hq]

/-- As long as the transform returns, it can be moved behind the sequence. -/
theorem early_postpones (hk : ∀ a r y, (k a r y).trace = calls y)
    (hf : ∀ u x, p.Succeeds w u x → ∃ a, (f x).exit = .ok a) :
    Postpones p q f calls w (early p q f k w) (late p q f k w) := by
  have hneither : (¬ ∃ u x, p.Succeeds w u x) →
      early p q f k w = p.run w ∧ late p q f k w = p.run w := fun hp =>
    ⟨andThen_of_not_succeeds hp, andThen_of_not_succeeds hp⟩
  refine ⟨?_, hneither, ?_, ?_⟩
  · by_cases hp : ∃ u x, p.Succeeds w u x
    · obtain ⟨u, x, hp⟩ := hp
      obtain ⟨a, ha⟩ := hf u x hp
      rw [early_of_succeeds hp ha]
      by_cases hq : ∃ r y, q.Succeeds u r y
      · obtain ⟨r, y, hq⟩ := hq
        rw [late_of_succeeds hp hq ha, andThen_of_success hq]
      · rw [late_of_not_succeeds hp hq, andThen_of_not_succeeds hq]
    · rw [(hneither hp).1, (hneither hp).2]
  · intro u x hp hq
    obtain ⟨a, ha⟩ := hf u x hp
    rw [early_of_succeeds hp ha, late_of_not_succeeds hp hq,
      andThen_of_not_succeeds hq, List.append_assoc]
    exact ⟨rfl, rfl⟩
  · intro u x r y hp hq
    obtain ⟨a, ha⟩ := hf u x hp
    rw [early_of_succeeds hp ha, late_of_succeeds hp hq ha,
      andThen_of_success hq, hk]
    simp only [List.append_assoc, and_self]

theorem trace_thenPair (g : Value → Run Value) (a : Value) (r : Window)
    (y : Value) : (thenPair g a r y).trace = (g y).trace := by
  unfold thenPair
  rcases g y with ⟨t, e | b⟩
  · rfl
  · exact List.append_nil t

/-- The run of a sequence runs the same leaves wherever a transform of its
first part stands. -/
theorem visits_pair_map_left (p q : Parser) (f : Value → Run Value)
    (hf : ∀ u x, p.Succeeds w u x → ∃ a, (f x).exit = .ok a) :
    (pair (map p f) q).visits w = (pair p q).visits w := by
  by_cases hp : ∃ u x, p.Succeeds w u x
  · obtain ⟨u, x, hp⟩ := hp
    obtain ⟨a, ha⟩ := hf u x hp
    rw [visits_pair_of_succeeds hp,
      visits_pair_of_succeeds (succeeds_map_iff.2 ⟨x, hp, ha⟩)]
    rfl
  · rw [visits_pair_of_not_succeeds hp, visits_pair_of_not_succeeds]
    · rfl
    · intro hmap
      obtain ⟨r, y, hs⟩ := hmap
      obtain ⟨x, hs, -⟩ := succeeds_map_iff.1 hs
      exact hp ⟨r, x, hs⟩

-- ============================================================== the result

/-- Transforms one after the other are one transform, and a transform that
does nothing is none. The transform of the first part of a sequence may be
moved behind the sequence if it returns on what its part produces, whatever
the parts are and whatever the other transform does: the outcome or the fault
stays the same, and so do the leaves that are run and their windows. It is
then called when both parts have succeeded, and no longer before the second is
run. The transform of the second part of a `right` is called at the same
moment either way. -/
theorem run_map_laws :
    (∀ (p : Parser) (f g : Value → Run Value) (w : Window),
      (map (map p f) g).run w = (map p fun x => f x >>= g).run w ∧
        (map (map p f) g).visits w = (map p fun x => f x >>= g).visits w) ∧
    (∀ (p : Parser) (w : Window),
      (map p pure).run w = p.run w ∧ (map p pure).visits w = p.visits w) ∧
    (∀ (p q : Parser) (f g : Value → Run Value) (w : Window),
      (∀ u x, p.Succeeds w u x → ∃ a, (f x).exit = .ok a) →
        Postpones p q f (fun y => (g y).trace) w
            ((pair (map p f) (map q g)).run w)
            ((map (pair p q) (both f g)).run w) ∧
          (pair (map p f) (map q g)).visits w =
            (map (pair p q) (both f g)).visits w ∧
          Postpones p q f (fun _ => []) w ((left (map p f) q).run w)
            ((map (left p q) f).run w) ∧
          (left (map p f) q).visits w = (map (left p q) f).visits w) ∧
    ∀ (p q : Parser) (g : Value → Run Value) (w : Window),
      (right p (map q g)).run w = (map (right p q) g).run w ∧
        (right p (map q g)).visits w = (map (right p q) g).visits w := by
  refine ⟨?_, ?_, ?_, ?_⟩
  · intro p f g w
    exact ⟨run_map_map p f g w, rfl⟩
  · intro p w
    exact ⟨run_map_pure p w, rfl⟩
  · intro p q f g w hf
    have hvisits := visits_pair_map_left p q f hf
    rw [run_pair_maps, run_map_both, run_left_map, run_map_left]
    exact ⟨early_postpones (trace_thenPair g) hf, hvisits,
      early_postpones (fun _ _ _ => rfl) hf, hvisits⟩
  · intro p q g w
    exact ⟨run_right_map p q g w, rfl⟩

/-- A name and its length, before a leaf that gives up: the length is asked for
where it stands, and not behind the sequence. It could not be asked for of
anything but a text. -/
theorem run_map_laws_name :
    let f : Value → Run Value := fun v => do
      Traced.emit (.transform "len".toList)
      return .int (← v.length)
    let q := leaf (.named "quit".toList) fun w =>
      ⟨[.leaf "quit".toList w.pos w.length], .error (.aborted [])⟩
    let w := Window.ofView ⟨⟨.number 0, "(ab-c)".toList⟩, 1, by decide⟩
    (∀ u x, identifier.Succeeds w u x → ∃ a, (f x).exit = .ok a) ∧
      (f .none).exit = .error (.noLength .none) ∧
      ((pair (map identifier f) (map q pure)).run w).exit =
        ((map (pair identifier q) (both f pure)).run w).exit ∧
      ((pair (map identifier f) (map q pure)).run w).trace =
        [.transform "len".toList, .leaf "quit".toList (.int 5) 1] ∧
      ((map (pair identifier q) (both f pure)).run w).trace =
        [.leaf "quit".toList (.int 5) 1] ∧
      ((left (map identifier f) q).run w).exit =
        ((map (left identifier q) f).run w).exit := by
  intro f q w
  have hname : ∃ u, identifier.Succeeds w u (.text "ab-c".toList) ∧
      q.run u = ⟨[.leaf "quit".toList (.int 5) 1], .error (.aborted [])⟩ :=
    ⟨_, rfl, rfl⟩
  obtain ⟨u, hp, hq⟩ := hname
  have hf : ∀ u x, identifier.Succeeds w u x → ∃ a, (f x).exit = .ok a := by
    intro v x hs
    cases hp.symm.trans hs
    exact ⟨.int 4, rfl⟩
  have hnot : ¬ ∃ r y, q.Succeeds u r y := by
    apply Raises.not_succeeds (e := .aborted [])
    rw [Raises, hq]
  obtain ⟨hpair, -, hleft, -⟩ := run_map_laws.2.2.1 identifier q f pure w hf
  obtain ⟨hearly, hlate⟩ := hpair.first u _ hp hnot
  rw [hq] at hearly hlate
  exact ⟨hf, rfl, hpair.exit_eq, hearly, hlate, hleft.exit_eq⟩

end ParserKit.Parser
