/-
Reading quoted text back.

A quoted text shows where it ends: whatever stands behind it, the text and
what stands behind can be told apart (`encode_append_inj`). So quoted texts
may be put anywhere inside a larger form without making it ambiguous, also
where they contain what looks like the form.

# One character at a time

`unescape` reads the spelling of one character from the front of a text and
gives the character and what follows. It needs to know nothing of the mark:
a backslash is always followed by something that says how much belongs to
it. `unescape_escape` says that it undoes `escape`, for either mark. The end
is the first place where the mark stands bare, since no spelling of a
character begins with it (`escape_append_ne`).
-/
import Mathlib.Algebra.Group.Nat.Defs
import ParserKit.Text.Quoted

namespace ParserKit

-- ============================================================ hexadecimals

namespace Text

/-- The number that hexadecimal digits stand for; a digit is known by its
place among the sixteen. -/
def ofHex (t : Text) : Nat :=
  t.foldl (fun n c => 16 * n + ((List.range 16).map Nat.digitChar).idxOf c) 0

theorem ofHex_append_digit (t : Text) {d : Nat} (hd : d < 16) :
    ofHex (t ++ [Nat.digitChar d]) = 16 * ofHex t + d := by
  have hdigit : ∀ d < 16,
      ((List.range 16).map Nat.digitChar).idxOf (Nat.digitChar d) = d := by
    decide
  unfold ofHex
  rw [List.foldl_append, List.foldl_cons, List.foldl_nil, hdigit d hd]

theorem ofHex_hex {width n : Nat} (h : n < 16 ^ width) :
    ofHex (hex width n) = n := by
  induction width generalizing n with
  | zero =>
      rw [Nat.pow_zero] at h
      have hn : n = 0 := by omega
      rw [hn]
      rfl
  | succ width ih =>
      have hdiv : n / 16 < 16 ^ width := by
        rw [Nat.pow_succ] at h
        omega
      have hmod : n % 16 < 16 := by omega
      rw [hex, ofHex_append_digit _ hmod, ih hdiv]
      omega

end Text

namespace Quoted

variable {q c d : Char} {s s' t u : Text}

-- =========================================================== one character

/-- Whether a character is one of the two marks. -/
def IsMark (q : Char) : Prop :=
  q = apostrophe ∨ q = doubleQuote

theorem isMark_mark (s : Text) : IsMark (mark s) := by
  unfold mark
  split
  · exact Or.inr rfl
  · exact Or.inl rfl

/-- Reads a character from its number in so many digits. -/
def readCode (width : Nat) (t : Text) : Char × Text :=
  (Char.ofNat (Text.ofHex (t.take width)), t.drop width)

/-- Reads a character from what follows a backslash. -/
def readEscape : Text → Option (Char × Text)
  | [] => none
  | c :: t =>
      if c = 't' then some ('\t', t)
      else if c = 'n' then some ('\n', t)
      else if c = 'r' then some ('\r', t)
      else if c = 'x' then some (readCode 2 t)
      else if c = 'u' then some (readCode 4 t)
      else if c = 'U' then some (readCode 8 t)
      else some (c, t)

/-- Reads one character of a quoted text. -/
def unescape : Text → Option (Char × Text)
  | [] => none
  | c :: t => if c = '\\' then readEscape t else some (c, t)

theorem readCode_hex {width : Nat} (h : c.toNat < 16 ^ width) (t : Text) :
    readCode width (Text.hex width c.toNat ++ t) = (c, t) := by
  have hlen := Text.length_hex width c.toNat
  unfold readCode
  rw [List.take_left' hlen, List.drop_left' hlen, Text.ofHex_hex h,
    Char.ofNat_toNat]

theorem toNat_lt_pow_eight (c : Char) : c.toNat < 16 ^ 8 := by
  rcases c.valid with h | h
  · have hc : c.toNat < 0xd800 := h
    omega
  · have hc : c.toNat < 0x110000 := h.2
    omega

theorem readEscape_escapeCode (c : Char) (t : Text) :
    readEscape (escapeCode c.toNat ++ t) = some (c, t) := by
  unfold escapeCode
  by_cases htwo : c.toNat < 0x100
  · have hwidth : c.toNat < 16 ^ 2 := by omega
    rw [if_pos htwo, ← readCode_hex hwidth t]
    rfl
  rw [if_neg htwo]
  by_cases hfour : c.toNat < 0x10000
  · have hwidth : c.toNat < 16 ^ 4 := by omega
    rw [if_pos hfour, ← readCode_hex hwidth t]
    rfl
  rw [if_neg hfour, ← readCode_hex (toNat_lt_pow_eight c) t]
  rfl

/-- The spelling of a character is read back, whichever the mark is. -/
theorem unescape_escape (hq : IsMark q) (c : Char) (t : Text) :
    unescape (escape q c ++ t) = some (c, t) := by
  unfold escape
  by_cases hself : c = q ∨ c = '\\'
  · rw [if_pos hself]
    rcases hself with rfl | rfl
    · rcases hq with rfl | rfl
      · rfl
      · rfl
    · rfl
  rw [if_neg hself]
  by_cases htab : c = '\t'
  · rw [if_pos htab, htab]
    rfl
  rw [if_neg htab]
  by_cases hline : c = '\n'
  · rw [if_pos hline, hline]
    rfl
  rw [if_neg hline]
  by_cases hreturn : c = '\r'
  · rw [if_pos hreturn, hreturn]
    rfl
  rw [if_neg hreturn]
  by_cases hprint : isPrintable c = true
  · rw [if_pos hprint]
    exact if_neg fun hc => hself (Or.inr hc)
  · rw [if_neg hprint]
    exact readEscape_escapeCode c t

theorem escape_append_inj (hq : IsMark q)
    (h : escape q c ++ t = escape q d ++ u) : c = d ∧ t = u := by
  have hread := unescape_escape hq c t
  rw [h, unescape_escape hq d u] at hread
  cases hread
  exact ⟨rfl, rfl⟩

/-- No spelling begins with the mark. -/
theorem escape_append_ne (hq : IsMark q) (c : Char) (t u : Text) :
    escape q c ++ t ≠ q :: u := by
  intro h
  -- What begins with the mark would be read as the mark.
  have hread := unescape_escape hq c t
  have hslash : q ≠ '\\' := by
    rcases hq with rfl | rfl
    · decide
    · decide
  rw [h, unescape, if_neg hslash] at hread
  cases hread
  unfold escape at h
  rw [if_pos (Or.inl rfl)] at h
  exact hslash (List.cons.inj h).1.symm

-- =============================================================== texts

/-- Up to the first bare mark, a text is read back. -/
theorem flatMap_escape_append_inj (hq : IsMark q)
    (h : s.flatMap (escape q) ++ q :: t = s'.flatMap (escape q) ++ q :: u) :
    s = s' ∧ t = u := by
  induction s generalizing s' with
  | nil =>
      cases s' with
      | nil => exact ⟨rfl, (List.cons.inj h).2⟩
      | cons d s' =>
          rw [List.flatMap_cons, List.append_assoc] at h
          exact absurd h.symm (escape_append_ne hq d _ _)
  | cons c s ih =>
      cases s' with
      | nil =>
          rw [List.flatMap_cons, List.append_assoc] at h
          exact absurd h (escape_append_ne hq c _ _)
      | cons d s' =>
          rw [List.flatMap_cons, List.flatMap_cons, List.append_assoc,
            List.append_assoc] at h
          obtain ⟨rfl, hrest⟩ := escape_append_inj hq h
          obtain ⟨rfl, rfl⟩ := ih hrest
          exact ⟨rfl, rfl⟩

/-- A quoted text can be told from what follows it. -/
theorem encode_append_inj (h : encode s ++ t = encode s' ++ u) :
    s = s' ∧ t = u := by
  unfold encode at h
  simp only [List.cons_append, List.append_assoc, List.nil_append] at h
  obtain ⟨hmark, hbody⟩ := List.cons.inj h
  rw [← hmark] at hbody
  exact flatMap_escape_append_inj (isMark_mark s) hbody

end Quoted

end ParserKit
