/-
Whatever is coerced can be coerced beforehand.

A combinator makes its arguments into parsers, and so does a caller who
writes `literal` around a text, lifts a function, or coerces what will be
coerced anyway, once or several times. `Replaces` says which constructions
differ in nothing else: it allows these replacements at any number of
arguments, at any depth.

# The proof

Constructions that replace each other need not have the same value, since
the one may come to a text where the other comes to a parser. They have
values that are coerced to the same parser, or the same fault
(`Construction.Alike`). Each way of building keeps that (`Alike.map` and its
companions), because it looks at its arguments only through coercion. The
faults agree too: what is coerced beforehand has to be something that can be
(`Accepted`), or else its fault would come too soon.

From two values that are coerced to the same parser the same is built, so in
the end the parsers are equal, and with them how they print, what they do on
any window, and which calls they make there.
-/
import ParserKit.Proofs.Argument.Construction
import ParserKit.Proofs.Script.Entry

namespace ParserKit

open Traced

-- ====================================================== values once coerced

namespace Argument

/-- The arguments are coerced to the same parser, or with the same fault. -/
def SameParser (a b : Argument) : Prop :=
  a.coerce.exit = b.coerce.exit

/-- Coercing hands back something that is coerced to the parser that it was
coerced to. -/
theorem asParser_exitsAlike (a : Argument) :
    a.asParser.ExitsAlike (fun b p => b.coerce.exit = .ok p) a.coerce := by
  cases a with
  | other kind => exact ExitsAlike.fault rfl rfl
  | _ => exact ExitsAlike.value rfl rfl rfl

theorem SameParser.asParser {a b : Argument} (h : a.SameParser b) :
    a.asParser.ExitsAlike SameParser b.asParser := by
  cases a.asParser_exitsAlike with
  | value ha hap hp =>
      cases b.asParser_exitsAlike with
      | value hb hbp hq =>
          cases hap.symm.trans (h.trans hbp)
          exact ExitsAlike.value ha hb (hp.trans hq.symm)
      | fault hb hbp => cases hap.symm.trans (h.trans hbp)
  | fault ha hap =>
      cases b.asParser_exitsAlike with
      | value hb hbp hq => cases hap.symm.trans (h.trans hbp)
      | fault hb hbp =>
          cases hap.symm.trans (h.trans hbp)
          exact ExitsAlike.fault ha hb

end Argument

namespace Construction

variable {c d c' d' : Construction}

-- ============================================================== replacements

/-- The construction can be used as a parser. -/
def Accepted (c : Construction) : Prop :=
  ∃ p, c.parser.exit = .ok p

/-- The second construction is the first, with any number of its arguments
coerced beforehand. -/
inductive Replaces : Construction → Construction → Prop
  | refl (c : Construction) : Replaces c c
  | literal (t : Text) :
      Replaces (.given (.text t)) (.literal (.given (.text t)))
  | lift (f : ParserFunction) :
      Replaces (.given (.function f)) (.lift (.given (.function f)) none)
  | coerced {c d : Construction} (h : Replaces c d) (ha : c.Accepted) :
      Replaces c (.coerce d)
  | coerce {c d : Construction} (h : Replaces c d) :
      Replaces (.coerce c) (.coerce d)
  | map {c d : Construction} {f : Value → Run Value} (h : Replaces c d) :
      Replaces (.map c f) (.map d f)
  | join {joint : Script.Joint} {c d c' d' : Construction}
      (hc : Replaces c c') (hd : Replaces d d') :
      Replaces (.join joint c d) (.join joint c' d')

/-- The constructions come to arguments that are used as the same parser. -/
def Alike (c d : Construction) : Prop :=
  c.value.ExitsAlike Argument.SameParser d.value

theorem Alike.refl (c : Construction) : c.Alike c := by
  unfold Alike
  cases h : c.value.exit with
  | ok a => exact ExitsAlike.value h h rfl
  | error e => exact ExitsAlike.fault h h

theorem Alike.parser_exit (h : c.Alike d) : c.parser.exit = d.parser.exit :=
  exitsAlike_eq_iff.1 (h.bind fun _ _ hab => exitsAlike_eq_iff.2 hab)

theorem Alike.coerce (h : c.Alike d) : (coerce c).Alike (coerce d) :=
  h.bind fun _ _ hab => hab.asParser

/-- What is accepted may be coerced beforehand. -/
theorem Alike.coerced (h : c.Alike d) (ha : c.Accepted) :
    c.Alike (Construction.coerce d) := by
  obtain ⟨p, hp⟩ := ha
  cases h with
  | @value a b hc hd hab =>
      -- It is `a` that is known to be accepted, and `b` that is coerced.
      have hbp : b.coerce.exit = .ok p := by
        rw [← hab, ← exit_bind_of_ok hc]
        exact hp
      cases b.asParser_exitsAlike with
      | value hb hbq hq =>
          exact ExitsAlike.value hc ((exit_bind_of_ok hd).trans hb)
            (hab.trans (hbq.trans hq.symm))
      | fault hb hbe => cases hbp.symm.trans hbe
  | fault hc hd => cases (exit_bind_of_error hc).symm.trans hp

theorem built_exitsAlike {m n : Build Parser} (h : m.ExitsAlike Eq n) :
    (do return Argument.parser (← m) : Build Argument).ExitsAlike
      Argument.SameParser (do return .parser (← n)) := by
  refine h.bind fun p q hpq => ?_
  cases hpq
  exact exitsAlike_pure rfl

theorem Alike.map {f : Value → Run Value} (h : c.Alike d) :
    (map c f).Alike (map d f) := by
  refine h.bind fun a b hab => built_exitsAlike ?_
  refine (exitsAlike_eq_iff.2 hab).bind fun p q hpq => ?_
  cases hpq
  exact exitsAlike_pure rfl

/-- Both arguments are evaluated before either is coerced, so their faults
agree in this order too. -/
theorem Alike.join {joint : Script.Joint} (hc : c.Alike c')
    (hd : d.Alike d') : (join joint c d).Alike (join joint c' d') := by
  refine hc.bind fun a a' ha => hd.bind fun b b' hb => built_exitsAlike ?_
  -- The pair inside a `left` or a `right` is coerced once more, to itself.
  rw [joint.build_eq, joint.build_eq]
  refine (exitsAlike_eq_iff.2 ha).bind fun p p' hp => ?_
  refine (exitsAlike_eq_iff.2 hb).bind fun q q' hq => ?_
  cases hp
  cases hq
  exact exitsAlike_pure rfl

theorem Replaces.alike (h : Replaces c d) : c.Alike d := by
  induction h with
  | refl c => exact Alike.refl c
  | literal t => exact ExitsAlike.value rfl rfl rfl
  | lift f => exact ExitsAlike.value rfl rfl rfl
  | coerced _ ha ih => exact ih.coerced ha
  | coerce _ ih => exact ih.coerce
  | map _ ih => exact ih.map
  | join _ _ ihc ihd => exact ihc.join ihd

end Construction

-- ============================================================= lifting again

namespace Parser

/-- A parser that was lifted over and over, under these names or without
one. -/
def lifted (p : Parser) (names : List (Option Text)) : Parser :=
  names.foldl (fun q name? => (Argument.parser q).lift name?) p

theorem run_lifted (p : Parser) (names : List (Option Text)) (w : Window) :
    (p.lifted names).run w = p.run w := by
  induction names generalizing p with
  | nil => rfl
  | cons name? names ih =>
      show (lifted ((Argument.parser p).lift name?) names).run w = p.run w
      rw [ih]
      rfl

theorem render_lifted (p : Parser) (names : List (Option Text))
    (name? : Option Text) :
    (p.lifted (names ++ [name?])).render =
      Value.framed (name?.getD Kind.parser.name) := by
  unfold lifted
  rw [List.foldl_append]
  rfl

end Parser

-- ============================================================== the result

/-- Coerced arguments are interchangeable. A construction comes to the same
parser whatever arguments in it are coerced beforehand, and ends in the same
fault if it ends in one. What coercing hands back, coercing hands back as it
is, and logs nothing; in a session it is the thing itself. Lifting a parser
again changes no more than its name. And in a session a text can be given to
a parser to parse or in a call, as it is or in a view, all of which are one and
the same run, on the window at the start of the text. -/
theorem coerced_interchange :
    (∀ c d : Construction, c.Replaces d → c.parser.exit = d.parser.exit) ∧
    (∀ a b : Argument, a.asParser.exit = .ok b → b.asParser = pure b) ∧
    (∀ (s : Script.Session) (v : Value), s.Accepts v →
      ∃ tr v' s', (Script.Eval.coerce v).run s = ⟨tr, .ok (v', s')⟩ ∧
        (Script.Eval.coerce v').run s' = pure (v', s')) ∧
    (∀ (p : Parser) (names : List (Option Text)) (name? : Option Text),
      (∀ w, (p.lifted (names ++ [name?])).run w = p.run w) ∧
        (p.lifted (names ++ [name?])).render =
          Value.framed (name?.getD Kind.parser.name)) ∧
    ∀ (s s' : Script.Session) (x : Script.Expr) (v : Value) (t : Text)
      (p : Parser) (tr : List Script.Event),
        x.eval.run s = ⟨tr, .ok (v, s')⟩ →
        (s'.afterText t).argumentNow v = .parser p →
          ∀ step ∈ Script.Step.entries x t, step.perform.run s =
            ⟨tr ++ (p.run (.ofText (s'.textId t) t)).trace.map
                Script.Event.call,
              (p.run (.ofText (s'.textId t) t)).exit.map fun o =>
                (.ofOutcome o, s'.afterText t)⟩ := by
  refine ⟨?_, ?_, ?_, ?_, ?_⟩
  · intro c d h
    exact h.alike.parser_exit
  · intro a b h
    exact Argument.asParser_asParser h
  · intro s v h
    exact Script.Eval.coerce_coerce h
  · intro p names name?
    exact ⟨p.run_lifted _, p.render_lifted names name?⟩
  · intro s s' x v t p tr hx hp
    exact Script.Step.run_entries hx hp

/-- A text, a function that only looks like a parser and something with a
parse operation, each written in another way; a text coerced twice in a
session; and a tree that is made there and given a text. -/
theorem coerced_interchange_mixed :
    let f : ParserFunction := ⟨.misleadingFunction, none, "<fn fail>".toList,
      fun w => pure (.failure w)⟩
    let a := Argument.structural Parser.letterA
    let t := "a-b".toList
    let c := Construction.join .left (.given (.text t))
      (.map (.join .pair (.given (.function f)) (.given a)) pure)
    let d := Construction.join .left (.literal (.given (.text t)))
      (.map (.join .pair (.lift (.given (.function f)) none)
        (.coerce (.coerce (.given a)))) pure)
    let s := Script.Session.start
    let x := Script.Expr.join .left (.text ['a']) .identifier
    (c.Replaces d ∧ ∃ p, c.parser.exit = .ok p ∧ d.parser.exit = .ok p) ∧
      ((Argument.text t).asParser.exit = .ok (.parser (.literal t)) ∧
        (Argument.parser (.literal t)).asParser =
          pure (.parser (.literal t))) ∧
      (s.Accepts (.text t) ∧ ∃ tr v s',
        (Script.Eval.coerce (.text t)).run s = ⟨tr, .ok (v, s')⟩ ∧
          (Script.Eval.coerce v).run s' = pure (v, s')) ∧
      ∃ tr v s' r, x.eval.run s = ⟨tr, .ok (v, s')⟩ ∧
        (s'.afterText t).argumentNow v =
          .parser (.left (.literal ['a']) .identifier) ∧
        ∀ step ∈ Script.Step.entries x t, step.perform.run s = r := by
  intro f a t c d s x
  have hcd : c.Replaces d := by
    refine .join (.literal t) (.map (.join (.lift f) ?_))
    have ha : (Construction.given a).Accepted := ⟨_, rfl⟩
    exact .coerced (.coerced (.refl _) ha) ha
  have haccepts : s.Accepts (.text t) := fun _ => ⟨_, rfl⟩
  have hc : c.parser.exit = .ok (.left (.literal t)
      (.map (.pair f.lift Parser.letterA) pure)) := rfl
  obtain ⟨tr, v, s', hx, hv⟩ : ∃ tr v s', x.eval.run s = ⟨tr, .ok (v, s')⟩ ∧
      (s'.afterText t).argumentNow v =
        .parser (.left (.literal ['a']) .identifier) :=
    ⟨_, _, _, rfl, rfl⟩
  obtain ⟨hparser, hagain, hsession, -, hentries⟩ := coerced_interchange
  exact ⟨⟨hcd, _, hc, (hparser c d hcd).symm.trans hc⟩,
    ⟨rfl, hagain (.text t) _ rfl⟩, ⟨haccepts, hsession s _ haccepts⟩,
    tr, v, s', _, hx, hv, hentries s s' x v t _ tr hx hv⟩

end ParserKit
