/-
Places: where building looks at an argument.

Building comes to look at arguments one after another: wherever one is
coerced, and wherever one has to be a text. At each such place it may refuse
what it finds, which ends it; it may leave a record in the log; or it may
pass in silence. Which of these it does depends on what is offered there
(`Offer`), and not on what a parser, a function or a transform would do if it
were run.

What a construction offers in its turn, and the places it comes to, can be
read off it without building anything (`Construction.offer` and
`Construction.places`). Arguments come before what they are arguments of, so
their places do too, and of two arguments both are evaluated before the first
is coerced. The pair inside a `left` or a `right` is no place: it is coerced
to itself.

# What happens at places

`Place.passAll` does what happens at the places of a list in order, and
`Construction.value_effect` says that building does just that. How it ends and
what it logs is then a matter of the list (`Place.AccountFor`): the log has
the records of the places before the first refusal, and the fault is that of
the first refusal. What a reader of the log gets is said by the places too
(`Place.line?`): one line for each conversion, with what was converted in
print.
-/
import ParserKit.Proofs.Argument.Construction

namespace ParserKit

-- ======================================================= effects of building

namespace Traced

variable {ε δ α β : Type}

/-- What a computation does, whatever value it ends with. -/
def effect (m : Traced ε α) : Traced ε Unit :=
  ⟨m.trace, m.exit.map fun _ => ()⟩

/-- What is done after a value is the same for all values that can be
reached. -/
theorem effect_bind {m : Traced ε α} {f : α → Traced ε β}
    {n n' : Traced ε Unit} (hm : m.effect = n)
    (hf : ∀ a, m.exit = .ok a → (f a).effect = n') :
    (m >>= f).effect = n >>= fun _ => n' := by
  subst hm
  obtain ⟨t, e | a⟩ := m
  · rfl
  · rw [← hf a rfl]
    rfl

/-- Making something of the value does nothing. -/
theorem effect_bind_pure (m : Traced ε α) (f : α → β) :
    (m >>= fun a => pure (f a)).effect = m.effect := by
  obtain ⟨t, e | a⟩ := m
  · rfl
  · exact ext_of (List.append_nil t) rfl

theorem mapTrace_bind (g : ε → δ) (m : Traced ε α) (f : α → Traced ε β) :
    (m >>= f).mapTrace g = m.mapTrace g >>= fun a => (f a).mapTrace g := by
  obtain ⟨t, e | a⟩ := m
  · rfl
  · exact ext_of List.map_append rfl

theorem exit_effect_error (m : Traced ε α) (e : Fault) :
    m.effect.exit = .error e ↔ m.exit = .error e := by
  obtain ⟨t, e' | a⟩ := m <;> simp [effect, Except.map]

/-- A computation ends with a value of which the property holds, if it ends
with any. -/
def Ends (m : Traced ε α) (P : α → Prop) : Prop :=
  ∀ a, m.exit = .ok a → P a

theorem ends_bind {m : Traced ε α} {f : α → Traced ε β} {P : β → Prop}
    (h : ∀ a, m.exit = .ok a → (f a).Ends P) : (m >>= f).Ends P := by
  obtain ⟨t, e | a⟩ := m
  · exact nofun
  · exact h a rfl

end Traced

open Traced

-- ================================================================== offers

/-- What can be told of an argument without running anything. -/
inductive Offer where
  /-- It offers a parse operation. -/
  | parse (kind : Kind)
  | text (t : Text)
  /-- It can be called, and offers no parse operation. -/
  | call (kind : Kind) (shown : Text)
  | nothing (kind : Kind)
  deriving DecidableEq, Repr

namespace Offer

/-- The kind of what is offered. -/
def kind : Offer → Kind
  | .parse kind => kind
  | .text _ => .text
  | .call kind _ => kind
  | .nothing kind => kind

/-- What is offered, in print, if it is something to be converted. -/
def shown? : Offer → Option Text
  | .text t => some (Quoted.encode t)
  | .call _ shown => some shown
  | _ => none

/-- What is offered once it was coerced. -/
def coerced : Offer → Offer
  | .parse kind => .parse kind
  | _ => .parse .parser

end Offer

/-- What an argument offers. -/
def Argument.offer : Argument → Offer
  | .parser _ => .parse .parser
  | .structural _ => .parse .structural
  | .text t => .text t
  | .function f => .call f.kind f.shown
  | .other kind => .nothing kind

-- ================================================================== places

/-- Where an argument is looked at, with what it offers. -/
inductive Place where
  /-- The argument is coerced. -/
  | coercion (o : Offer)
  /-- The argument is to be matched literally. -/
  | literal (o : Offer)
  /-- The argument is to be matched as one character. -/
  | character (o : Offer)
  deriving DecidableEq, Repr

namespace Place

/-- The fault that ends building here, if what is offered is refused. -/
def refusal? : Place → Option Fault
  | .coercion (.nothing kind) => some (.notParser kind)
  | .coercion _ => none
  | .literal (.text _) => none
  | .literal o => some (.notLiteral o.kind)
  | .character (.text t) =>
      if t.length = 1 then none else some (.notOneCharacter t.length)
  | .character o => some (.notCharacter o.kind)

/-- The record that is left here, if any. Only making something into a parser
leaves one. -/
def record? : Place → Option LogRecord
  | .coercion (.text t) => some (.converting t)
  | .coercion (.call _ shown) => some (.lifting shown)
  | _ => none

/-- The class of the fault, if what is offered is refused: it is of another
kind, or a text of another length. -/
def refusedClass? : Place → Option Text
  | .coercion (.nothing _) => some "TypeError".toList
  | .coercion _ => none
  | .literal (.text _) => none
  | .literal _ => some "TypeError".toList
  | .character (.text t) =>
      if t.length = 1 then none else some "ValueError".toList
  | .character _ => some "TypeError".toList

/-- The line of the log that is left here, if any. It shows what is made into
a parser. -/
def line? : Place → Option LogLine
  | .coercion o => o.shown?.map fun shown =>
      let words := match o with
        | .text _ => "Converting string ".toList ++ shown ++
            " into a literal parser".toList
        | _ => "Lifting ".toList ++ shown ++ " into a parser".toList
      ⟨"DEBUG".toList, "combparse.main".toList, words⟩
  | _ => none

theorem map_className_refusal? (p : Place) :
    p.refusal?.map Fault.className = p.refusedClass? := by
  cases p with
  | coercion o => cases o <;> rfl
  | literal o => cases o <;> rfl
  | character o =>
      cases o with
      | text t => exact apply_ite (Option.map Fault.className) _ none _
      | _ => rfl

theorem map_line_record? (p : Place) :
    p.record?.map LogRecord.line = p.line? := by
  obtain ⟨hconverting, hlifting, -⟩ := LogRecord.line_eq
  cases p with
  | coercion o =>
      cases o with
      | text t => exact congrArg some (hconverting t)
      | call kind shown => exact congrArg some (hlifting shown)
      | _ => rfl
  | _ => rfl

/-- What is offered is not refused. -/
def Accepts (p : Place) : Prop :=
  p.refusal? = none

instance : DecidablePred Accepts :=
  fun p => inferInstanceAs (Decidable (p.refusal? = none))

/-- What happens at a place. -/
def pass (p : Place) : Build Unit :=
  match p.refusal? with
  | some e => Traced.raise e
  | none => ⟨p.record?.toList, .ok ()⟩

/-- What happens at places, one after another. -/
def passAll : List Place → Build Unit
  | [] => pure ()
  | p :: ps => do
      p.pass
      passAll ps

theorem passAll_append (ps qs : List Place) :
    passAll (ps ++ qs) = passAll ps >>= fun _ => passAll qs := by
  induction ps with
  | nil => exact (pure_bind () fun _ => passAll qs).symm
  | cons p ps ih =>
      show (p.pass >>= fun _ => passAll (ps ++ qs)) = _
      rw [ih]
      exact (Traced.bind_assoc p.pass _ _).symm

theorem passAll_singleton (p : Place) : passAll [p] = p.pass := by
  show (p.pass >>= fun _ => pure ()) = p.pass
  exact bind_pure_unit

-- ============================================================== first refusal

/-- The log and the fault, if any, are what the places make them: there is a
fault if and only if something is refused, it is that of the first refusal and
of the class that is due there, and the log has the records and the lines of
the places before that, in order. -/
structure AccountFor {α : Type} (ps : List Place) (log : List LogRecord)
    (exit : Except Fault α) : Prop where
  refused : (∃ e, exit = .error e) ↔ ∃ p ∈ ps, ¬ p.Accepts
  first : ∀ e, exit = .error e ↔ ps.findSome? refusal? = some e
  className : ∀ e, exit = .error e →
    ps.findSome? refusedClass? = some e.className
  lines : log.map LogRecord.line =
    (ps.takeWhile fun p => decide p.Accepts).filterMap line?
  log : log = (ps.takeWhile fun p => decide p.Accepts).filterMap record?

theorem passAll_trace (ps : List Place) : (passAll ps).trace =
    (ps.takeWhile fun p => decide p.Accepts).filterMap record? := by
  induction ps with
  | nil => rfl
  | cons p ps ih =>
      show (p.pass >>= fun _ => passAll ps).trace = _
      unfold pass
      cases h : p.refusal? with
      | some e =>
          have hp : ¬ p.Accepts := fun hn => by cases hn.symm.trans h
          rw [List.takeWhile_cons_of_neg (by simpa using hp)]
          rfl
      | none =>
          have hp : p.Accepts := h
          rw [List.takeWhile_cons_of_pos (by simpa using hp),
            List.filterMap_cons, bind_ok, ih]
          cases p.record? <;> rfl

theorem passAll_exit (ps : List Place) (e : Fault) :
    (passAll ps).exit = .error e ↔ ps.findSome? refusal? = some e := by
  induction ps with
  | nil => exact ⟨nofun, nofun⟩
  | cons p ps ih =>
      show (p.pass >>= fun _ => passAll ps).exit = _ ↔ _
      unfold pass
      rw [List.findSome?_cons]
      cases p.refusal? with
      | some e' =>
          show Except.error e' = _ ↔ _
          rw [Except.error.injEq, Option.some.injEq]
      | none => exact ih

/-- A computation that does what happens at places, in whatever form it leaves
the records, is accounted for by them. -/
theorem accountFor_of_effect {ε α : Type} {m : Traced ε α}
    {record : LogRecord → ε} {ps : List Place}
    (h : m.effect = (passAll ps).mapTrace record) :
    ∃ log, m.trace = log.map record ∧ AccountFor ps log m.exit := by
  have hfirst : ∀ e, m.exit = .error e ↔
      ps.findSome? refusal? = some e := fun e => by
    rw [← exit_effect_error, h]
    exact passAll_exit ps e
  refine ⟨(passAll ps).trace, congrArg trace h, ?_, hfirst, fun e he => ?_, ?_,
    passAll_trace ps⟩
  · rw [exists_congr hfirst, ← Option.isSome_iff_exists,
      List.findSome?_isSome_iff]
    refine exists_congr fun p => and_congr_right fun _ => ?_
    rw [← Option.ne_none_iff_isSome]
    rfl
  · rw [← funext map_className_refusal?]
    exact List.map_findSome?.symm.trans
      (congrArg (Option.map Fault.className) ((hfirst e).1 he))
  · rw [passAll_trace, List.map_filterMap, ← funext map_line_record?]

end Place

-- ============================================================ one argument

section Arguments

open Place

theorem Argument.coerce_effect (a : Argument) :
    a.coerce.effect = (coercion a.offer).pass := by
  cases a <;> rfl

theorem Argument.asParser_effect (a : Argument) :
    a.asParser.effect = (coercion a.offer).pass := by
  cases a <;> rfl

/-- What was coerced offers a parse operation. -/
theorem Argument.asParser_offer {a b : Argument}
    (h : a.asParser.exit = .ok b) : b.offer = a.offer.coerced := by
  cases a <;> cases h <;> rfl

theorem Build.literal_effect (a : Argument) :
    (Build.literal a).effect = (Place.literal a.offer).pass := by
  cases a <;> rfl

theorem Build.character_effect (a : Argument) :
    (Build.character a).effect = (Place.character a.offer).pass := by
  cases a with
  | text t =>
      match t with
      | [] => rfl
      | [c] => rfl
      | c :: d :: t => rfl
  | _ => rfl

theorem Build.map_effect (a : Argument) (f : Value → Run Value) :
    (Build.map a f).effect = (coercion a.offer).pass :=
  (effect_bind_pure a.coerce fun p => Parser.map p f).trans a.coerce_effect

theorem Script.Joint.build_effect (joint : Script.Joint) (a b : Argument) :
    (joint.build a b).effect =
      passAll [coercion a.offer, coercion b.offer] := by
  rw [joint.build_eq]
  refine effect_bind a.coerce_effect fun p _ => ?_
  rw [passAll_singleton, ← b.coerce_effect]
  exact effect_bind_pure b.coerce _

end Arguments

-- =========================================================== constructions

namespace Construction

/-- What a construction comes to, as far as it can be told. -/
def offer : Construction → Offer
  | .given a => a.offer
  | .coerce c => c.offer.coerced
  | _ => .parse .parser

/-- The places that a construction comes to, if it gets that far. -/
def places : Construction → List Place
  | .given _ => []
  | .literal c => c.places ++ [.literal c.offer]
  | .character c => c.places ++ [.character c.offer]
  | .lift c _ => c.places
  | .coerce c => c.places ++ [.coercion c.offer]
  | .map c _ => c.places ++ [.coercion c.offer]
  | .join _ c d =>
      c.places ++ (d.places ++ [.coercion c.offer, .coercion d.offer])

open Place

/-- What a construction comes to offers what can be told beforehand. -/
theorem value_offer (c : Construction) :
    c.value.Ends fun a => a.offer = c.offer := by
  -- All but two forms end in a parser of this library.
  have hparser : ∀ m : Build Parser,
      (do return Argument.parser (← m) : Build Argument).Ends
        fun a => a.offer = .parse .parser :=
    fun m => ends_bind fun p _ a ha => by cases ha; rfl
  induction c with
  | given a => exact fun b hb => by cases hb; rfl
  | literal c => exact ends_bind fun a _ => hparser (Build.literal a)
  | character c => exact ends_bind fun a _ => hparser (Build.character a)
  | lift c name? => exact ends_bind fun a _ b hb => by cases hb; rfl
  | coerce c ih =>
      refine ends_bind fun a ha b hb => ?_
      rw [Argument.asParser_offer hb, ih a ha]
      rfl
  | map c f => exact ends_bind fun a _ => hparser (Build.map a f)
  | join joint c d =>
      exact ends_bind fun a _ => ends_bind fun b _ =>
        hparser (joint.build a b)

/-- What looks at one argument comes to one more place than the argument. -/
theorem effect_apply {β : Type} {c : Construction}
    {m : Argument → Build β} {place : Offer → Place}
    (hc : c.value.effect = passAll c.places)
    (hm : ∀ a, (m a).effect = (place a.offer).pass) :
    (c.value >>= m).effect = passAll (c.places ++ [place c.offer]) := by
  rw [passAll_append, passAll_singleton]
  refine effect_bind hc fun a ha => ?_
  rw [← c.value_offer a ha, hm]

/-- Building a construction does what happens at its places, in order. -/
theorem value_effect (c : Construction) :
    c.value.effect = passAll c.places := by
  induction c with
  | given a => rfl
  | literal c ih =>
      refine effect_apply ih fun a => ?_
      exact (effect_bind_pure _ _).trans (Build.literal_effect a)
  | character c ih =>
      refine effect_apply ih fun a => ?_
      exact (effect_bind_pure _ _).trans (Build.character_effect a)
  | lift c name? ih => exact (effect_bind_pure _ _).trans ih
  | coerce c ih => exact effect_apply ih Argument.asParser_effect
  | map c f ih =>
      refine effect_apply ih fun a => ?_
      exact (effect_bind_pure _ _).trans (Build.map_effect a f)
  | join joint c d ihc ihd =>
      -- Both arguments are evaluated before the first is coerced.
      rw [places, passAll_append, passAll_append]
      refine effect_bind ihc fun a ha => effect_bind ihd fun b hb => ?_
      rw [← c.value_offer a ha, ← d.value_offer b hb, ← joint.build_effect]
      exact effect_bind_pure _ _

theorem value_accountFor (c : Construction) :
    AccountFor c.places c.value.trace c.value.exit := by
  have heffect : c.value.effect = (passAll c.places).mapTrace id := by
    rw [c.value_effect]
    exact ext_of (List.map_id _).symm rfl
  obtain ⟨log, htrace, hlog⟩ := accountFor_of_effect heffect
  rw [List.map_id] at htrace
  exact htrace ▸ hlog

end Construction

end ParserKit
