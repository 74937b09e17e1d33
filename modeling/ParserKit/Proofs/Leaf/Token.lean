/-
Tokens: what the built-in leaves take from a text.

A built-in leaf looks at nothing but the text that is left, takes a piece
from the front of it or nothing at all, and goes on after the piece.
`token?` is the piece as a function of the text, and `run_builtIn` says that
this is all there is to the run of such a leaf on a window over a text: it
makes no call, ends in no fault, and either fails where it stands or skips
its token. What later proofs know of the built-in leaves they know from
there.

# The grammar of a token

`Fits l x rest` says what a token of `l` is without saying how it is found.
A literal and a character are their own token, whatever follows. A name has
to be whole: it may not be followed by a character that could have gone on
with it, and so what is a name depends on one character after it.
`token?_eq_some_iff` puts the two together.
-/
import ParserKit.Proofs.Tree.Basic
import ParserKit.Proofs.Window.Skip

namespace ParserKit

namespace Parser

variable {l : Parser} {t x u : Text} {w : Window}

-- =============================================================== tokens

/-- What a built-in leaf takes from the front of a text. -/
def token? : Parser → Text → Option Text
  | .literal s, t => if s.isPrefixOf t then some s else none
  | .character c, t => if [c].isPrefixOf t then some [c] else none
  | .identifier, t => nameAt t
  | _, _ => none

/-- What a built-in leaf makes of its token, read through a window. -/
def product : Parser → Window → Text → Value
  | .identifier, w, x => .ofStretch w x
  | _, _, _ => .none

/-- Whether a text is a token of a leaf when the other text follows it. -/
inductive Fits : Parser → Text → Text → Prop
  | literal (s rest : Text) : Fits (.literal s) s rest
  | character (c : Char) (rest : Text) : Fits (.character c) [c] rest
  | identifier {c : Char} {cs rest : Text} (hc : isAlphabetic c = true)
      (hcs : ∀ d ∈ cs, continuesName d = true)
      (hrest : ∀ d ∈ rest.head?, continuesName d = false) :
      Fits .identifier (c :: cs) rest

/-- The longest stretch of characters with a property is cut off where the
next one lacks it. -/
private theorem takeWhile_eq_iff {α : Type} (p : α → Bool) (l xs : List α) :
    l.takeWhile p = xs ↔
      ∃ rest, l = xs ++ rest ∧ (∀ a ∈ xs, p a = true) ∧
        ∀ a ∈ rest.head?, p a = false := by
  constructor
  · intro h
    subst h
    refine ⟨l.dropWhile p, List.takeWhile_append_dropWhile.symm,
      List.all_eq_true.1 List.all_takeWhile, fun a ha => ?_⟩
    have hnot := List.head?_dropWhile_not p l
    rw [Option.mem_def.1 ha] at hnot
    simpa using hnot
  · intro h
    obtain ⟨rest, rfl, hxs, hrest⟩ := h
    rw [List.takeWhile_append_of_pos hxs]
    cases rest with
    | nil => exact List.append_nil xs
    | cons a rest =>
        have ha : p a = false := hrest a rfl
        rw [List.takeWhile_cons_of_neg (by simp [ha])]
        exact List.append_nil xs

/-- A text is cut off where another starts with it. -/
private theorem ite_isPrefixOf_eq_some_iff (s t x : Text) :
    (if s.isPrefixOf t then some s else none) = some x ↔
      x = s ∧ ∃ rest, t = x ++ rest := by
  constructor
  · intro h
    split at h
    case isFalse => cases h
    case isTrue hs =>
      obtain ⟨rest, rfl⟩ := List.isPrefixOf_iff_prefix.1 hs
      cases h
      exact ⟨rfl, rest, rfl⟩
  · intro h
    obtain ⟨rfl, rest, rfl⟩ := h
    have hpre := List.isPrefixOf_iff_prefix.2 (List.prefix_append x rest)
    rw [if_pos hpre]

/-- A built-in leaf takes what fits. -/
theorem token?_eq_some_iff (hl : l.BuiltIn) :
    l.token? t = some x ↔ ∃ rest, t = x ++ rest ∧ l.Fits x rest := by
  cases hl with
  | literal s =>
      rw [token?, ite_isPrefixOf_eq_some_iff]
      constructor
      · intro h
        obtain ⟨rfl, rest, ht⟩ := h
        exact ⟨rest, ht, Fits.literal x rest⟩
      · intro h
        obtain ⟨rest, ht, hfit⟩ := h
        cases hfit
        exact ⟨rfl, rest, ht⟩
  | character c =>
      rw [token?, ite_isPrefixOf_eq_some_iff]
      constructor
      · intro h
        obtain ⟨rfl, rest, ht⟩ := h
        exact ⟨rest, ht, Fits.character c rest⟩
      · intro h
        obtain ⟨rest, ht, hfit⟩ := h
        cases hfit
        exact ⟨rfl, rest, ht⟩
  | identifier =>
      simp only [token?]
      constructor
      · intro h
        cases t with
        | nil => cases h
        | cons c t =>
            simp only [nameAt] at h
            split at h
            case isFalse => cases h
            case isTrue hc =>
              cases h
              obtain ⟨rest, ht, hcs, hrest⟩ :=
                (takeWhile_eq_iff continuesName t _).1 rfl
              exact ⟨rest, congrArg (c :: ·) ht,
                Fits.identifier hc hcs hrest⟩
      · intro h
        obtain ⟨rest, rfl, hfit⟩ := h
        cases hfit with
        | identifier hc hcs hrest =>
            have ht := (takeWhile_eq_iff continuesName _ _).2
              ⟨rest, rfl, hcs, hrest⟩
            simp only [List.cons_append, nameAt, hc, if_true, ht]

theorem length_token?_le (hl : l.BuiltIn) (h : l.token? t = some x) :
    x.length ≤ t.length := by
  obtain ⟨rest, rfl, -⟩ := (token?_eq_some_iff hl).1 h
  rw [List.length_append]
  omega

-- ================================================================= runs

/-- A window over a text advances by any token that is there. -/
theorem advance_token? (hl : l.BuiltIn)
    (h : l.token? w.view.unconsumed = some x) :
    w.advance (x.length : Nat) = .ok (w.skip x.length) := by
  refine w.advance_natCast ?_
  rw [← View.length_unconsumed]
  exact length_token?_le hl h

/-- On a window over a text a built-in leaf makes no call. It skips its
token, if it has one, and fails where it stands, if it has none. -/
theorem run_builtIn (hl : l.BuiltIn) (hw : w.medium = .text) :
    l.run w =
      match l.token? w.view.unconsumed with
      | some x => pure (.success (w.skip x.length) (l.product w x))
      | none => pure (.failure w) := by
  cases hl with
  | literal s =>
      have hrun : (literal s).run w = Traced.ofExcept (Leaf.literal s w) :=
        rfl
      rw [hrun, Leaf.literal, Window.startsWith_of_text hw]
      by_cases h : s.isPrefixOf w.view.unconsumed = true
      · have ht : (literal s).token? w.view.unconsumed = some s := if_pos h
        have hv : w.view.startsWith s = true := h
        simp only [bind, Except.bind, hv, if_true, ht,
          advance_token? (.literal s) ht]
        rfl
      · have ht : (literal s).token? w.view.unconsumed = none := if_neg h
        have hv : w.view.startsWith s = false := Bool.eq_false_iff.2 h
        simp only [bind, Except.bind, hv, ht]
        rfl
  | character c =>
      have hrun : (character c).run w
          = Traced.ofExcept (Leaf.character c w) := rfl
      have hpeek : w.view.peek (1 : Nat) = some [c] ↔
          [c].isPrefixOf w.view.unconsumed = true := by
        rw [w.view.peek_one_eq_some_iff c, List.isPrefixOf_iff_prefix]
      rw [hrun, Leaf.character, Window.nextIs_of_text hw]
      by_cases h : [c].isPrefixOf w.view.unconsumed = true
      · have ht : (character c).token? w.view.unconsumed = some [c] :=
          if_pos h
        have hadv := advance_token? (.character c) ht
        simp only [List.length_singleton] at hadv
        simp only [bind, Except.bind, hpeek.2 h, decide_true, if_true, ht,
          hadv]
        rfl
      · have ht : (character c).token? w.view.unconsumed = none := if_neg h
        have hv : ¬ w.view.peek (1 : Nat) = some [c] := mt hpeek.1 h
        simp only [bind, Except.bind, hv, decide_false, ht]
        rfl
  | identifier =>
      have hrun : identifier.run w = Traced.ofExcept (Leaf.identifier w) :=
        rfl
      rw [hrun, Leaf.identifier, Window.nameAt_of_text hw]
      cases h : nameAt w.view.unconsumed with
      | none =>
          have ht : identifier.token? w.view.unconsumed = none := h
          rw [ht]
          rfl
      | some x =>
          have ht : identifier.token? w.view.unconsumed = some x := h
          obtain ⟨rest, hrest, -⟩ := (token?_eq_some_iff .identifier).1 ht
          have hx : w.view.unconsumed.take x.length = x := by
            rw [hrest, List.take_left]
          have hlen : x.length ≤ w.view.length := by
            rw [← View.length_unconsumed]
            exact length_token?_le .identifier ht
          have hcons := w.consumedSince_skip hlen
          rw [hx] at hcons
          simp only [bind, Except.bind, advance_token? .identifier ht, hcons,
            ht]
          rfl

end Parser

end ParserKit
