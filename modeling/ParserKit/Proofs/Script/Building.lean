/-
How a session builds.

A session builds from expressions. An expression comes to a value, and a
value can be the argument of a combinator, now or later in the session; so
what is offered by it (`Expr.offer`), and how it prints, has to be known for
all sessions that the present one leads to (`Session.Stands`). With that, the
places that an
expression comes to can be read off it (`Expr.places`), as for a
construction: the parts of an expression are evaluated from left to right,
and only then are those coerced that have to be.

`Expr.eval_does` says that evaluation does what happens at these places and
nothing else. In particular it leaves records only, and no call: neither a
parser nor a transform is run by building. Conversely a run leaves calls only
(`Eval.Mute`).

# What is left out

Making a view can fail for reasons that have nothing to do with building, so
the expressions here do without (`Expr.Viewless`). A view can still be an
argument: it is the result of an earlier step.
-/
import ParserKit.Proofs.Argument.Places
import ParserKit.Proofs.Script.Entry
import ParserKit.Script.Record

namespace ParserKit

open Traced

namespace Script

-- ================================================== offers of expressions

/-- What something that carries an act offers. -/
def Style.offer (style : Style) (act : Act) : Offer :=
  match style with
  | .structural => .parse .structural
  | _ => .call style.kind (style.shown act)

theorem Style.argument_offer (style : Style) (act : Act) (id : Identity)
    (v : Value) : (style.argument act id v).offer = style.offer act := by
  cases style <;> rfl

/-- What carries an act prints as it is offered. -/
theorem Style.shown_of_offer (style : Style) (act : Act) (t : Text)
    (h : (style.offer act).shown? = some t) : style.shown act = t := by
  cases style with
  | structural => cases h
  | _ => exact Option.some.inj h

namespace Expr

/-- What the value of an expression offers. `env` says it of the results of
earlier steps. -/
def offer (env : Nat → Offer) : Expr → Offer
  | .none => .nothing .none
  | .bool _ => .nothing .bool
  | .int _ => .nothing .int
  | .text t => .text t
  | .bytes _ => .nothing .bytes
  | .dictionary => .nothing .dictionary
  | .tuple _ => .nothing .tuple
  | .list _ => .nothing .list
  | .ref step => env step
  | .slice _ _ _ => .nothing .slice
  | .view _ _ => .nothing .view
  | .success _ _ => .nothing .success
  | .failure _ => .nothing .failure
  | .element _ _ _ => .nothing .element
  | .callable style act _ => style.offer act
  | .inert => .nothing .inert
  | .literal _ | .character _ | .identifier | .letterA => .parse .parser
  | .map _ _ _ | .join _ _ _ => .parse .parser

mutual

/-- The places that an expression comes to, if it gets that far. -/
def places (env : Nat → Offer) : Expr → List Place
  | .tuple items | .list items => placesAll env items
  | .slice x y z => x.places env ++ (y.places env ++ z.places env)
  | .view x y? => x.places env ++ placesOption env y?
  | .success x y => x.places env ++ y.places env
  | .failure x => x.places env
  | .element x y? z? =>
      x.places env ++ (placesOption env y? ++ placesOption env z?)
  | .literal x => x.places env ++ [.literal (x.offer env)]
  | .character x => x.places env ++ [.character (x.offer env)]
  | .map p _ given =>
      p.places env ++ (given.places env ++ [.coercion (p.offer env)])
  | .join _ p q => p.places env ++ (q.places env ++
      [.coercion (p.offer env), .coercion (q.offer env)])
  | .callable _ _ value => value.places env
  | _ => []

/-- The places of an expression, if it is there. -/
def placesOption (env : Nat → Offer) : Option Expr → List Place
  | Option.none => []
  | Option.some x => x.places env

/-- The places of several expressions, from left to right. -/
def placesAll (env : Nat → Offer) : List Expr → List Place
  | [] => []
  | x :: xs => x.places env ++ placesAll env xs

/-- No view is made in the expression. -/
def Viewless : Expr → Prop
  | .tuple items | .list items => ViewlessAll items
  | .slice x y z => x.Viewless ∧ y.Viewless ∧ z.Viewless
  | .view _ _ => False
  | .success x y => x.Viewless ∧ y.Viewless
  | .failure x => x.Viewless
  | .element x y? z? => x.Viewless ∧ ViewlessOption y? ∧ ViewlessOption z?
  | .literal x | .character x => x.Viewless
  | .map p _ given => p.Viewless ∧ given.Viewless
  | .join _ p q => p.Viewless ∧ q.Viewless
  | .callable _ _ value => value.Viewless
  | _ => True

/-- No view is made in the expression, if it is there. -/
def ViewlessOption : Option Expr → Prop
  | Option.none => True
  | Option.some x => x.Viewless

/-- No view is made in any of the expressions. -/
def ViewlessAll : List Expr → Prop
  | [] => True
  | x :: xs => x.Viewless ∧ ViewlessAll xs

end

end Expr

-- ===================================================== sessions as they grow

namespace Session

variable {s s' s'' : Session} {v : Value} {o : Offer} {env : Nat → Offer}

/-- The later session has all objects of the earlier one, and its results. -/
def LeadsTo (s s' : Session) : Prop :=
  s.objects <+: s'.objects ∧ s'.results = s.results

theorem LeadsTo.refl (s : Session) : s.LeadsTo s :=
  ⟨List.prefix_refl _, rfl⟩

theorem LeadsTo.trans (h : s.LeadsTo s') (h' : s'.LeadsTo s'') :
    s.LeadsTo s'' :=
  ⟨h.1.trans h'.1, h'.2.trans h.2⟩

/-- The value offers that as an argument, in this session and in all that it
leads to, whatever the setting is; and if it is something to be converted, it
prints as the offer says. -/
structure Stands (s : Session) (v : Value) (o : Offer) : Prop where
  offers : ∀ s' : Session, s.objects <+: s'.objects →
    ∀ σ, (s'.argumentOf v σ).offer = o
  prints : ∀ t, o.shown? = some t → v.render = t

theorem Stands.later (h : s.Stands v o) (hs : s.LeadsTo s') :
    s'.Stands v o :=
  ⟨fun s'' hs' => h.offers s'' (hs.1.trans hs'), h.prints⟩

/-- The offer of a value in the session itself. -/
theorem Stands.offer_eq (h : s.Stands v o) (σ : Setting) :
    (s.argumentOf v σ).offer = o :=
  h.offers s (List.prefix_refl _) σ

/-- The session has the ready-made parsers, and the results of its steps
offer what `env` says. -/
structure Knows (s : Session) (env : Nat → Offer) : Prop where
  ready : start.objects <+: s.objects
  results : ∀ n, s.Stands (s.results[n]?.getD .none) (env n)

theorem Knows.later (h : s.Knows env) (hs : s.LeadsTo s') :
    s'.Knows env := by
  refine ⟨h.ready.trans hs.1, fun n => ?_⟩
  rw [hs.2]
  exact (h.results n).later hs

theorem getElem?_later {l l' : List (Setting → Argument)} {n : Nat}
    {a : Setting → Argument} (hl : l <+: l') (h : l[n]? = some a) :
    l'[n]? = some a := by
  obtain ⟨hn, rfl⟩ := List.getElem?_eq_some_iff.1 h
  exact List.prefix_iff_getElem?.1 hl n hn

/-- A parser goes by the name of the moment, and offers the same under any
name. -/
theorem offer_renamed (name : Text) (a : Argument) :
    (Eval.renamed name a).offer = a.offer := by
  cases a <;> rfl

theorem stands_made {id : Nat} {a : Setting → Argument} (name : Value)
    (h : s.objects[id]? = some a)
    (ha : ∀ σ, (a σ).offer = .parse .parser) :
    s.Stands (.parser id name) (.parse .parser) := by
  refine ⟨fun s' hs σ => ?_, nofun⟩
  show (Eval.renamed _ ((s'.objects[id]?.getD _) σ)).offer = _
  rw [offer_renamed, getElem?_later hs h]
  exact ha σ

theorem stands_added {h : Handle} {a : Setting → Argument}
    (hobj : s.objects[h.id]? = some a) (ha : ∀ σ, (a σ).offer = o)
    (hshown : ∀ t, o.shown? = some t → h.shown = t) :
    s.Stands (.object h) o := by
  refine ⟨fun s' hs σ => ?_, hshown⟩
  show ((s'.objects[h.id]?.getD _) σ).offer = o
  rw [getElem?_later hs hobj]
  exact ha σ

end Session

-- ================================================ what a computation does

namespace Eval

variable {α β : Type} {s s' : Session} {v w : Value} {o : Offer}
  {env : Nat → Offer} {ps qs : List Place} {m : Eval α} {f : α → Eval β}
  {R : α → Session → Prop} {S : β → Session → Prop}

/-- From that session on, the computation does what happens at the places and
nothing else. If it ends with a value, it has only added to the session, and
the value is as `R` says. -/
structure Does (m : Eval α) (s : Session) (ps : List Place)
    (R : α → Session → Prop) : Prop where
  effect : (m.run s).effect = (Place.passAll ps).mapTrace Event.log
  ends : (m.run s).Ends fun r => s.LeadsTo r.2 ∧ R r.1 r.2

/-- Only the run from that session matters. -/
theorem Does.of_run {m n : Eval α} (h : Does m s ps R)
    (hn : n.run s = m.run s) : Does n s ps R :=
  ⟨hn ▸ h.effect, hn ▸ h.ends⟩

theorem does_of_run {a : α} (h : m.run s = pure (a, s)) (hR : R a s) :
    Does m s [] R := by
  refine ⟨by rw [h]; rfl, ?_⟩
  rw [h]
  intro r hr
  cases hr
  exact ⟨.refl s, hR⟩

theorem does_pure {a : α} (h : R a s) : Does (pure a) s [] R :=
  does_of_run rfl h

/-- A value that is nothing else cannot be made into a parser. -/
theorem does_plain {kind : Kind}
    (h : ∀ (s : Session) σ, s.argumentOf v σ = .other kind) (s : Session) :
    Does (pure v) s [] fun v s' => s'.Stands v (.nothing kind) := by
  refine does_pure ⟨fun s' _ σ => ?_, nofun⟩
  rw [h]
  rfl

/-- One after the other, two computations come to the places of both. -/
theorem Does.bind (h : Does m s ps R)
    (hf : ∀ a s', s.LeadsTo s' → R a s' → Does (f a) s' qs S) :
    Does (m >>= f) s (ps ++ qs) S := by
  constructor
  · rw [StateT.run_bind, Place.passAll_append, mapTrace_bind]
    refine effect_bind h.effect fun r hr => ?_
    obtain ⟨hs, hR⟩ := h.ends r hr
    exact (hf r.1 r.2 hs hR).effect
  · rw [StateT.run_bind]
    refine ends_bind fun r hr r' hr' => ?_
    obtain ⟨hs, hR⟩ := h.ends r hr
    obtain ⟨hs', hS⟩ := (hf r.1 r.2 hs hR).ends r' hr'
    exact ⟨hs.trans hs', hS⟩

/-- What comes last may come to no places. -/
theorem Does.bind_nil (h : Does m s ps R)
    (hf : ∀ a s', s.LeadsTo s' → R a s' → Does (f a) s' [] S) :
    Does (m >>= f) s ps S :=
  List.append_nil ps ▸ h.bind hf

theorem Does.imp {R' : α → Session → Prop} (h : Does m s ps R)
    (hR : ∀ a s', R a s' → R' a s') : Does m s ps R' :=
  ⟨h.effect, fun r hr => ⟨(h.ends r hr).1, hR r.1 r.2 (h.ends r hr).2⟩⟩

-- ========================================================= the single steps

theorem does_settle (v : Value) (s : Session) :
    Does (settle v) s [] fun v' _ => v' = (s.store.settle v).1 := by
  refine ⟨rfl, fun r hr => ?_⟩
  cases hr
  exact ⟨⟨List.prefix_refl _, rfl⟩, rfl⟩

theorem does_otherSource (act : Act) (s : Session) :
    Does (otherSource act) s [] fun _ _ => True :=
  (does_settle _ s).bind_nil fun _ _ _ _ => does_pure trivial

theorem does_argument {f : (Setting → Argument) → Eval β}
    (h : Does (f (s.argumentOf v)) s ps S) :
    Does (argument v >>= f) s ps S :=
  h.of_run (by rw [StateT.run_bind, run_argument, pure_bind])

theorem does_register {a : Setting → Argument} {shown : Text} (kind : Kind)
    (ha : ∀ σ, (a σ).offer = o)
    (hshown : ∀ t, o.shown? = some t → shown = t) (s : Session) :
    Does (register kind shown a) s [] fun v s' => s'.Stands v o := by
  refine ⟨rfl, fun r hr => ?_⟩
  cases hr
  exact ⟨⟨List.prefix_append _ _, rfl⟩,
    Session.stands_added List.getElem?_concat_length ha hshown⟩

theorem does_registerParser {a : Setting → Argument} (name : Value)
    (ha : ∀ σ, (a σ).offer = .parse .parser) (s : Session) :
    Does (registerParser name a) s []
      fun v s' => s'.Stands v (.parse .parser) := by
  refine ⟨rfl, fun r hr => ?_⟩
  cases hr
  exact ⟨⟨List.prefix_append _ _, rfl⟩,
    Session.stands_made _ List.getElem?_concat_length ha⟩

theorem does_ofBuild {m : Build α} (h : m.effect = Place.passAll ps)
    (s : Session) :
    Does (ofBuild m) s ps fun a _ => m.exit = .ok a := by
  obtain ⟨t, e | a⟩ := m
  · exact ⟨h ▸ rfl, nofun⟩
  · refine ⟨?_, fun r hr => ?_⟩
    · rw [← h]
      exact Traced.ext_of (List.append_nil _) rfl
    · cases hr
      exact ⟨.refl s, rfl⟩

/-- Building comes to the same places in every setting, and what it comes to
is a parser in all of them or in none. -/
theorem does_build {m : Setting → Build Parser}
    (h : ∀ σ, (m σ).effect = Place.passAll ps) (s : Session) :
    Does (build m) s ps fun v s' => s'.Stands v (.parse .parser) := by
  refine Does.of_run (m := ofBuild (m s.setting) >>= fun p =>
    registerParser (.text p.name) fun σ => built (m σ)) ?_ rfl
  refine (does_ofBuild (h s.setting) s).bind_nil fun p s' _ hp => ?_
  refine does_registerParser _ (fun σ => ?_) s'
  have hσ : (m σ).effect.exit = .ok () := by
    rw [h σ, ← h s.setting]
    show (m s.setting).exit.map _ = _
    rw [hp]
    rfl
  unfold built
  cases hm : (m σ).exit with
  | ok q => rfl
  | error e =>
      rw [← exit_effect_error, hσ] at hm
      cases hm

/-- Coercing is the one place where it coerces. -/
theorem does_coerce (hv : s.Stands v o) :
    Does (coerce v) s [.coercion o] fun v' s' => s'.Stands v' o.coerced := by
  have ho : ∀ σ, (s.argumentOf v σ).offer = o := hv.offer_eq
  have hnow : (s.argumentNow v).offer = o := ho s.setting
  cases hp : (s.argumentNow v).isParser with
  | true =>
      obtain ⟨kind, rfl⟩ : ∃ kind, o = .parse kind := by
        subst hnow
        cases h : s.argumentNow v with
        | parser p => exact ⟨_, rfl⟩
        | structural p => exact ⟨_, rfl⟩
        | _ => rw [h] at hp; cases hp
      have hsame : Does (pure v) s [] fun v' s' =>
          s'.Stands v' (.parse kind) := does_pure hv
      refine Does.of_run (m := pure v) ⟨hsame.effect, hsame.ends⟩ ?_
      rw [run_coerce, if_pos hp]
      rfl
  | false =>
      have hmade : o.coerced = .parse .parser := by
        subst hnow
        cases h : s.argumentNow v with
        | parser p => rw [h] at hp; cases hp
        | structural p => rw [h] at hp; cases hp
        | _ => rfl
      rw [hmade]
      refine (does_build (fun σ => ?_) s).of_run (m := build fun σ =>
        (s.argumentOf v σ).coerce) ?_
      · rw [Place.passAll_singleton, ← ho σ, Argument.coerce_effect]
      · rw [run_coerce, hp]
        rfl

/-- Building from one value comes to one place. -/
theorem does_apply {place : Offer → Place}
    {m : (Setting → Argument) → Setting → Build Parser}
    (hm : ∀ a σ, (∀ σ, (a σ).offer = o) → (m a σ).effect = (place o).pass)
    (hv : s.Stands v o) :
    Does (argument v >>= fun a => build (m a)) s [place o]
      fun v' s' => s'.Stands v' (.parse .parser) := by
  refine does_argument (does_build (fun σ => ?_) s)
  rw [Place.passAll_singleton]
  exact hm _ σ hv.offer_eq

/-- Two values are coerced in order, whatever is built from them. -/
theorem does_join (joint : Joint) {o' : Offer} (hv : s.Stands v o)
    (hw : s.Stands w o') :
    Does (argument v >>= fun a => argument w >>= fun b =>
      build fun σ => joint.build (a (σ.part 0)) (b (σ.part 1))) s
      [.coercion o, .coercion o']
      fun v' s' => s'.Stands v' (.parse .parser) := by
  refine does_argument (does_argument (does_build (fun σ => ?_) s))
  rw [joint.build_effect, hv.offer_eq, hw.offer_eq]

end Eval

namespace Expr

open Eval

mutual

/-- Evaluating an expression does what happens at its places. -/
theorem eval_does (env : Nat → Offer) : ∀ (x : Expr) {s : Session},
    s.Knows env → x.Viewless →
      Does x.eval s (x.places env) fun v s' => s'.Stands v (x.offer env)
  | .none, s, _, _ => does_plain (fun _ _ => rfl) s
  | .bool _, s, _, _ => does_plain (fun _ _ => rfl) s
  | .int _, s, _, _ => does_plain (fun _ _ => rfl) s
  | .bytes _, s, _, _ => does_plain (fun _ _ => rfl) s
  | .dictionary, s, _, _ => does_plain (fun _ _ => rfl) s
  | .text t, s, _, _ => by
      refine (does_settle (.text t) s).imp fun v s' hv => ?_
      subst hv
      exact ⟨fun _ _ _ => rfl, fun t' ht => Option.some.inj ht⟩
  | .tuple items, s, hs, hx => by
      refine (evalAll_does env items hs hx).bind_nil fun vs s' _ _ => ?_
      exact does_plain (fun _ _ => rfl) s'
  | .list items, s, hs, hx => by
      refine (evalAll_does env items hs hx).bind_nil fun vs s' _ _ => ?_
      exact does_plain (fun _ _ => rfl) s'
  | .ref step, _, hs, _ => does_of_run rfl (hs.results step)
  | .slice x y z, s, hs, hx => by
      refine (eval_does env x hs hx.1).bind fun _ s₁ h₁ _ => ?_
      have hs₁ : s₁.Knows env := hs.later h₁
      refine (eval_does env y hs₁ hx.2.1).bind fun _ s₂ h₂ _ => ?_
      refine (eval_does env z (hs₁.later h₂) hx.2.2).bind_nil
        fun _ s₃ _ _ => ?_
      exact does_plain (fun _ _ => rfl) s₃
  | .success x y, s, hs, hx => by
      refine (eval_does env x hs hx.1).bind fun _ s₁ h₁ _ => ?_
      refine (eval_does env y (hs.later h₁) hx.2).bind_nil
        fun _ s₂ _ _ => ?_
      exact does_plain (fun _ _ => rfl) s₂
  | .failure x, s, hs, hx => by
      refine (eval_does env x hs hx).bind_nil fun _ s' _ _ => ?_
      exact does_plain (fun _ _ => rfl) s'
  | .element x y? z?, s, hs, hx => by
      refine (eval_does env x hs hx.1).bind fun n s₁ h₁ _ => ?_
      have hs₁ : s₁.Knows env := hs.later h₁
      refine (evalOption_does env y? hs₁ hx.2.1).bind fun a? s₂ h₂ _ => ?_
      refine (evalOption_does env z? (hs₁.later h₂) hx.2.2).bind_nil
        fun c? s₃ _ _ => ?_
      refine (does_settle (.newElement n a? c?) s₃).imp fun v s' hv => ?_
      subst hv
      exact ⟨fun _ _ _ => rfl, nofun⟩
  | .literal x, s, hs, hx => by
      refine (eval_does env x hs hx).bind fun v s' _ hv => ?_
      refine does_apply (fun a σ ha => ?_) hv
      rw [Build.literal_effect, ha]
  | .character x, s, hs, hx => by
      refine (eval_does env x hs hx).bind fun v s' _ hv => ?_
      refine does_apply (fun a σ ha => ?_) hv
      rw [Build.character_effect, ha]
  | .identifier, s, hs, _ => by
      have hready : s.objects[0]? = some _ :=
        Session.getElem?_later hs.ready rfl
      exact does_pure (Session.stands_made _ hready fun _ => rfl)
  | .letterA, s, hs, _ => by
      have hready : s.objects[1]? = some _ :=
        Session.getElem?_later hs.ready rfl
      exact does_pure (Session.stands_made _ hready fun _ => rfl)
  | .map p f given, s, hs, hx => by
      refine (eval_does env p hs hx.1).bind fun v s₁ h₁ hv => ?_
      refine (eval_does env given (hs.later h₁) hx.2).bind
        fun g s₂ h₂ _ => ?_
      refine (does_settle g s₂).bind fun g' s' h₃ _ => ?_
      -- Only now is `p` coerced, and it still offers what it did.
      refine does_apply (fun a σ ha => ?_) ((hv.later h₂).later h₃)
      rw [Build.map_effect, ha]
  | .join joint p q, s, hs, hx => by
      refine (eval_does env p hs hx.1).bind fun v s₁ h₁ hv => ?_
      refine (eval_does env q (hs.later h₁) hx.2).bind fun w s' h₂ hw => ?_
      exact does_join joint (hv.later h₂) hw
  | .callable style act value, s, hs, hx => by
      refine (eval_does env value hs hx).bind_nil fun v s₁ _ _ => ?_
      refine (does_settle v s₁).bind_nil fun v' s₂ _ _ => ?_
      refine (does_otherSource act s₂).bind_nil fun id s' _ _ => ?_
      exact does_register _ (fun _ => style.argument_offer act id v')
        (style.shown_of_offer act) s'
  | .inert, s, _, _ => by
      refine does_register _ (fun _ => rfl) (fun t ht => ?_) s
      cases ht

/-- Evaluating an expression that may be missing does what happens at its
places. -/
theorem evalOption_does (env : Nat → Offer) : ∀ (x? : Option Expr)
    {s : Session}, s.Knows env → ViewlessOption x? →
      Does (evalOption x?) s (placesOption env x?) fun _ _ => True
  | Option.none, _, _, _ => does_pure trivial
  | Option.some x, _, hs, hx => by
      refine (eval_does env x hs hx).bind_nil fun _ s₁ _ _ => ?_
      exact does_pure trivial

/-- Evaluating several expressions does what happens at the places of each,
from left to right. -/
theorem evalAll_does (env : Nat → Offer) : ∀ (xs : List Expr) {s : Session},
    s.Knows env → ViewlessAll xs →
      Does (evalAll xs) s (placesAll env xs) fun _ _ => True
  | [], _, _, _ => does_pure trivial
  | x :: xs, _, hs, hx => by
      refine (eval_does env x hs hx.1).bind fun _ s₁ h₁ _ => ?_
      refine (evalAll_does env xs (hs.later h₁) hx.2).bind_nil
        fun _ s₂ _ _ => ?_
      exact does_pure trivial

end

/-- Coercing what an expression comes to adds one place. -/
theorem coerce_does {s : Session} {env : Nat → Offer} {x : Expr}
    (hs : s.Knows env) (hx : x.Viewless) :
    Does (Step.coerce x).perform s
      (x.places env ++ [.coercion (x.offer env)])
      fun v s' => s'.Stands v (x.offer env).coerced :=
  (x.eval_does env hs hx).bind fun _ _ _ hv => does_coerce hv

end Expr

-- ================================================================ running

namespace Eval

variable {α β : Type} {m : Eval α} {f : α → Eval β}

/-- From whatever session on, the computation leaves no record. -/
def Mute (m : Eval α) : Prop :=
  ∀ s, Event.logOf (m.run s).trace = []

/-- What leaves nothing leaves no record. -/
theorem mute_of_still (h : ∀ s, (m.run s).trace = []) : Mute m :=
  fun s => (congrArg Event.logOf (h s)).trans rfl

theorem Mute.bind (hm : Mute m) (hf : ∀ a, Mute (f a)) : Mute (m >>= f) := by
  intro s
  have hlog := hm s
  rw [StateT.run_bind]
  rcases hrun : m.run s with ⟨t, e | ⟨a, s'⟩⟩
  · rw [hrun] at hlog
    exact hlog
  · rw [hrun] at hlog
    show Event.logOf (t ++ ((f a).run s').trace) = []
    rw [Event.logOf, List.filterMap_append]
    exact List.append_eq_nil_iff.2 ⟨hlog, hf a s'⟩

theorem mute_pure (a : α) : Mute (pure a) :=
  mute_of_still fun _ => rfl

theorem mute_ofExcept (m : Except Fault α) : Mute (ofExcept m) := by
  refine mute_of_still fun s => ?_
  cases m <;> rfl

theorem mute_raise (e : Fault) : Mute (raise e : Eval α) :=
  mute_ofExcept _

/-- A run of a parser makes calls. -/
theorem mute_ofRun (m : Run α) : Mute (ofRun m) := by
  intro s
  rw [run_ofRun]
  exact List.filterMap_eq_nil_iff.2 (List.forall_mem_map.2 fun _ _ => rfl)

theorem mute_argumentNow (v : Value) : Mute (argumentNow v) :=
  mute_of_still fun s => by rw [run_argumentNow]; rfl

theorem mute_windowOn (v : Value) : Mute (windowOn v) := by
  refine (mute_of_still fun _ => rfl : Mute (settle v)).bind fun v => ?_
  have hfind : ∀ id, Mute (originOf id) := fun id =>
    mute_of_still fun _ => rfl
  have hkeep : ∀ o, Mute (addOrigin o) := fun o =>
    mute_of_still fun _ => rfl
  have hlook : Mute (look v) := mute_of_still fun _ => rfl
  split
  · exact mute_pure _
  · exact (hfind _).bind fun _ => (hkeep _).bind fun _ => mute_pure _
  · exact hlook.bind fun _ => (mute_ofExcept _).bind fun _ =>
      (hkeep _).bind fun _ => mute_pure _
  · exact mute_raise _

theorem mute_input (v : Value) : Mute (input v) := by
  unfold input
  split
  · exact mute_pure _
  · exact mute_windowOn v
  · exact mute_raise _

theorem mute_window (v : Value) (part : String) : Mute (window v part) := by
  unfold window
  split
  · exact mute_pure _
  · exact mute_raise _

theorem mute_parse (p w : Value) : Mute (parse p w) := by
  refine (mute_argumentNow p).bind fun a => ?_
  have hrun : ∀ parser : Parser, Mute (do
      return Value.ofOutcome (← ofRun (parser.run (← input w)))) :=
    fun parser => (mute_input w).bind fun _ =>
      (mute_ofRun _).bind fun _ => mute_pure _
  split
  · exact hrun _
  · exact hrun _
  · split
    · exact mute_raise _
    · exact mute_raise _

theorem mute_call (p w : Value) : Mute (call p w) := by
  refine (mute_argumentNow p).bind fun a => ?_
  split
  · exact (mute_input w).bind fun _ =>
      (mute_ofRun _).bind fun _ => mute_pure _
  · exact (mute_window w _).bind fun _ =>
      (mute_ofRun _).bind fun _ => mute_pure _
  · exact mute_raise _

end Eval

-- ============================================================ the two phases

/-- Building is eager. Whatever is nested in what, it comes to the places
that can be read off beforehand, and these account for its log and for its
fault: there is one if and only if some place refuses what is offered there,
it is that of the first such place and of the class that is due there, and the
log has the records of the places before, each a line that shows in print what
was converted. So it is of a construction and of an expression in a session,
where building leaves nothing but these records: it makes no call. Running a
parser, in turn, leaves no record. -/
theorem building_eager :
    (∀ c : Construction,
      Place.AccountFor c.places c.value.trace c.value.exit ∧
      c.value.Ends fun a => a.offer = c.offer) ∧
    (∀ (env : Nat → Offer) (s : Session) (x : Expr), s.Knows env →
      x.Viewless →
      (∃ log, (x.eval.run s).trace = log.map Event.log ∧
        Place.AccountFor (x.places env) log (x.eval.run s).exit) ∧
      (∃ log, ((Step.coerce x).perform.run s).trace = log.map Event.log ∧
        Place.AccountFor (x.places env ++ [.coercion (x.offer env)]) log
          ((Step.coerce x).perform.run s).exit) ∧
      (x.eval.run s).Ends fun r => r.2.Stands r.1 (x.offer env)) ∧
    ∀ (p w : Value) (s : Session),
      Event.logOf ((Eval.parse p w).run s).trace = [] ∧
      Event.logOf ((Eval.call p w).run s).trace = [] := by
  refine ⟨fun c => ⟨c.value_accountFor, c.value_offer⟩,
    fun env s x hs hx => ?_,
    fun p w s => ⟨Eval.mute_parse p w s, Eval.mute_call p w s⟩⟩
  have heval := x.eval_does env hs hx
  have hcoerce := Expr.coerce_does hs hx
  exact ⟨Place.accountFor_of_effect heval.effect,
    Place.accountFor_of_effect hcoerce.effect,
    fun r hr => (heval.ends r hr).2⟩

/-- The inner pair is built first and leaves its two records. The text of two
characters is refused as a character before the outer arguments are
coerced. -/
theorem building_eager_two_characters :
    let f := Expr.callable (.function none) .rest .none
    let x := Expr.join .left (.join .pair (.text ['a']) f)
      (.map (.character (.text ['b', 'c'])) .same .none)
    x.Viewless ∧
    (∃ log, (x.eval.run .start).trace = log.map Event.log ∧
      log = [.converting ['a'], .lifting "<fn rest>".toList] ∧
      log.map LogRecord.line =
        [⟨"DEBUG".toList, "combparse.main".toList,
            "Converting string 'a' into a literal parser".toList⟩,
          ⟨"DEBUG".toList, "combparse.main".toList,
            "Lifting <fn rest> into a parser".toList⟩]) ∧
    ∃ e, (x.eval.run .start).exit = .error e ∧ e = .notOneCharacter 2 ∧
      e.className = "ValueError".toList := by
  intro f x
  have hstart : Session.start.Knows fun _ => .nothing .none :=
    ⟨List.prefix_refl _, fun _ => ⟨fun _ _ _ => rfl, nofun⟩⟩
  have hx : x.Viewless := by simp [x, f, Expr.Viewless]
  obtain ⟨log, htrace, hlog⟩ := (building_eager.2.1 _ .start x hstart hx).1
  have hrefused := (hlog.first (.notOneCharacter 2)).2 rfl
  exact ⟨hx, ⟨log, htrace, hlog.log, hlog.lines⟩, _, hrefused, rfl,
    (Option.some.inj (hlog.className _ hrefused)).symm⟩

end Script

end ParserKit
