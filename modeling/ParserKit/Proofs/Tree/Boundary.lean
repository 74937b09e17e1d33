/-
Where a name ends: not before a character that could go on with it.

The leaf for names takes as much as it can. What it takes is the longest of
the names that its text begins with, and since a name that is cut short is a
name again, the others are the shorter beginnings of it (`prefix_iff`). So a
text alone shows which of its beginnings would be taken whole.

# No way back into a name

A name that was taken is not shortened later to help what comes next. Behind
a tree whose last leaf is the one for names, the text does not begin with a
character that goes on with a name (`Succeeds.ends_name`). A leaf that needs
such a character to begin with has no token there (`GoesOn.token?_eq_none`),
and a tree that begins with that leaf fails where it was started
(`Fails.of_first`): where the name ended.
-/
import ParserKit.Proofs.Tree.Contract
import ParserKit.Proofs.Tree.Control
import ParserKit.Proofs.Tree.Lookahead

namespace ParserKit.Parser

variable {l p q t : Parser} {s x y rest : Text} {u w r : Window} {a : Value}

-- ================================================================= names

/-- The text is a name, from its first character to its last. -/
def IsName (s : Text) : Prop :=
  ∃ c cs, s = c :: cs ∧ isAlphabetic c = true ∧
    ∀ d ∈ cs, continuesName d = true

theorem fits_identifier_iff :
    identifier.Fits x rest ↔
      IsName x ∧ ∀ c ∈ rest.head?, continuesName c = false := by
  constructor
  · intro h
    cases h with
    | identifier hc hcs hrest => exact ⟨⟨_, _, rfl, hc, hcs⟩, hrest⟩
  · intro h
    obtain ⟨⟨c, cs, rfl, hc, hcs⟩, hrest⟩ := h
    exact Fits.identifier hc hcs hrest

/-- A name that is cut short is a name, unless nothing is left of it. -/
theorem IsName.cut (hx : IsName x) (hy : y <+: x) (hne : y ≠ []) :
    IsName y := by
  obtain ⟨c, cs, rfl, hc, hcs⟩ := hx
  rcases List.prefix_cons_iff.1 hy with rfl | ⟨ds, rfl, hds⟩
  · exact absurd rfl hne
  · exact ⟨c, ds, rfl, hc, fun d hd => hcs d (hds.mem hd)⟩

theorem IsName.ne_nil (hx : IsName x) : x ≠ [] := by
  obtain ⟨c, cs, rfl, -, -⟩ := hx
  exact List.cons_ne_nil c cs

/-- Behind its first character a name has only characters that go on with
it. -/
theorem IsName.continues {c : Char} (h : IsName (x ++ c :: y))
    (hx : x ≠ []) : continuesName c = true := by
  obtain ⟨d, ds, hds, -, hall⟩ := h
  cases x with
  | nil => exact absurd rfl hx
  | cons e x =>
      rw [List.cons_append] at hds
      apply hall
      rw [← (List.cons.inj hds).2]
      simp

/-- A name that is found where another fits is no longer than it. -/
theorem IsName.prefix_of_fits (hy : IsName y) (hx : identifier.Fits x rest)
    (hpre : y <+: x ++ rest) : y <+: x := by
  obtain ⟨hname, hrest⟩ := fits_identifier_iff.1 hx
  rcases List.prefix_or_prefix_of_prefix hpre (List.prefix_append x rest)
    with h | h
  · exact h
  · obtain ⟨z, rfl⟩ := h
    cases z with
    | nil => simp
    | cons c z =>
        -- The character behind `x` would have gone on with it.
        have hc := hy.continues hname.ne_nil
        obtain ⟨v, hv⟩ := (List.prefix_append_right_inj x).1 hpre
        rw [hrest c (by rw [← hv]; rfl)] at hc
        cases hc

theorem prefix_iff (hx : identifier.Fits x rest) (hy : y <+: x ++ rest) :
    IsName y ↔ y ≠ [] ∧ y <+: x := by
  constructor
  · intro h
    exact ⟨h.ne_nil, h.prefix_of_fits hx hy⟩
  · intro h
    exact (fits_identifier_iff.1 hx).1.cut h.2 h.1

/-- Where no name fits, no beginning of the text is a name. -/
theorem not_isName_of_token?_eq_none (hs : identifier.token? s = none)
    (hy : y <+: s) : ¬ IsName y := by
  intro h
  obtain ⟨c, cs, rfl, hc, -⟩ := h
  obtain ⟨rest, rfl⟩ := hy
  have htoken : identifier.token? (c :: cs ++ rest)
      = some (c :: (cs ++ rest).takeWhile continuesName) := by
    show (if isAlphabetic c = true then _ else _) = _
    exact if_pos hc
  rw [htoken] at hs
  cases hs

-- ======================================================= a text on its own

/-- The run succeeds and leaves nothing. -/
def Exhausts (p : Parser) (u : Window) : Prop :=
  ∃ r a, p.Succeeds u r a ∧ r.text = .ok []

theorem exhausts_identifier_iff (hu : u.medium = .text) :
    identifier.Exhausts u ↔ IsName u.view.unconsumed := by
  constructor
  · intro h
    obtain ⟨r, a, hs, hr⟩ := h
    obtain ⟨xs, rest, hsplit, -, -, hrest⟩ :=
      hs.consumed (List.forall_mem_singleton.2 .identifier) hu
    cases hr.symm.trans hrest
    obtain ⟨x, -, htext, hfit⟩ := splits_singleton_iff.1 hsplit
    rw [htext, List.append_nil]
    exact (fits_identifier_iff.1 hfit).1
  · intro h
    have hfit : identifier.Fits u.view.unconsumed [] :=
      fits_identifier_iff.2 ⟨h, fun c hc => by cases hc⟩
    have hsplit : Splits identifier.leaves u.view.unconsumed
        [u.view.unconsumed] [] :=
      splits_singleton_iff.2 ⟨_, rfl, (List.append_nil _).symm, hfit⟩
    obtain ⟨r, a, hs, -, hr⟩ :=
      hsplit.succeedsLeaving (List.forall_mem_singleton.2 .identifier) hu
        (Yields.identifier _)
    exact ⟨r, a, hs, hr⟩

-- ==================================================== first and last leaves

/-- The tokens of the leaf begin with a character that goes on with a
name. -/
inductive GoesOn : Parser → Prop
  | literal {c : Char} (s : Text) (hc : continuesName c = true) :
      GoesOn (.literal (c :: s))
  | character {c : Char} (hc : continuesName c = true) :
      GoesOn (.character c)
  | identifier : GoesOn .identifier

theorem GoesOn.builtIn (h : l.GoesOn) : l.BuiltIn := by
  cases h with
  | literal s hc => exact BuiltIn.literal _
  | character hc => exact BuiltIn.character _
  | identifier => exact BuiltIn.identifier

/-- What fits such a leaf begins with such a character. -/
theorem GoesOn.of_fits (h : l.GoesOn) (hx : l.Fits x rest) :
    ∃ c y, x = c :: y ∧ continuesName c = true := by
  cases h with
  | literal s hc =>
      cases hx
      exact ⟨_, s, rfl, hc⟩
  | character hc =>
      cases hx
      exact ⟨_, [], rfl, hc⟩
  | identifier =>
      obtain ⟨⟨c, cs, rfl, hc, -⟩, -⟩ := fits_identifier_iff.1 hx
      refine ⟨c, cs, rfl, ?_⟩
      unfold continuesName
      rw [hc, Bool.true_or]

theorem GoesOn.token?_eq_none (h : l.GoesOn)
    (hs : ∀ c ∈ s.head?, continuesName c = false) : l.token? s = none := by
  cases htoken : l.token? s with
  | none => rfl
  | some x =>
      obtain ⟨rest, rfl, hfit⟩ := (token?_eq_some_iff h.builtIn).1 htoken
      obtain ⟨c, y, rfl, hc⟩ := h.of_fits hfit
      rw [hs c rfl] at hc
      cases hc

theorem leaves_ne_nil (p : Parser) : p.leaves ≠ [] := by
  induction p using tree_induction with
  | leaf l hl =>
      rw [leaves_of_isLeaf hl]
      exact List.cons_ne_nil l []
  | map p f ih => exact ih
  | pair p q ihp _ => exact List.append_ne_nil_of_left_ne_nil ihp _

/-- Where the first leaf fails, the tree fails. -/
theorem Fails.of_first (hq : q.leaves.head? = some l) (h : l.Fails w r) :
    q.Fails w r := by
  induction q using tree_induction with
  | leaf k hk =>
      rw [leaves_of_isLeaf hk] at hq
      cases hq
      exact h
  | map q f ih => exact fails_map_iff.2 (ih hq)
  | pair p q ihp _ =>
      refine fails_pair_iff.2 (Or.inl (ihp ?_))
      obtain ⟨k, ks, hks⟩ := List.exists_cons_of_ne_nil p.leaves_ne_nil
      rw [leaves, hks] at hq
      rw [hks]
      exact hq

/-- What a tree leaves whose last leaf is the one for names does not go on
with a name. -/
theorem Succeeds.ends_name (hl : ∀ l ∈ p.leaves, l.BuiltIn)
    (hlast : p.leaves.getLast? = some identifier) (hw : w.medium = .text)
    (hs : p.Succeeds w r a) :
    ∀ c ∈ r.view.unconsumed.head?, continuesName c = false := by
  obtain ⟨xs, rest, hsplit, rfl, -⟩ := (succeeds_iff_splits hl hw).1 hs
  obtain ⟨ls, hls⟩ := List.getLast?_eq_some_iff.1 hlast
  rw [hsplit.unconsumed_skip]
  rw [hls] at hsplit
  obtain ⟨ys, zs, v, -, -, hlast⟩ := splits_append_iff.1 hsplit
  obtain ⟨x, -, -, hfit⟩ := splits_singleton_iff.1 hlast
  exact (fits_identifier_iff.1 hfit).2

/-- Whatever is joined to a tree that ends with the leaf for names, and would
go on with the name, fails where the tree left off. -/
theorem Joins.fails_after_name (ht : Joins p q t)
    (hl : ∀ l ∈ p.leaves, l.BuiltIn)
    (hlast : p.leaves.getLast? = some identifier)
    (hfirst : q.leaves.head? = some l) (hgoes : l.GoesOn)
    (hw : w.medium = .text) (hs : p.Succeeds w r a) : t.Fails w r := by
  have hr : r.medium = .text :=
    ((forward_of_leaves fun l h => (hl l h).wellBehaved.forward) w _ hw hs).1
  have hnone := hgoes.token?_eq_none (hs.ends_name hl hlast hw)
  have hleaf : l.Fails r r :=
    (fails_builtIn_iff hgoes.builtIn hr).2 ⟨hnone, rfl⟩
  have hpair : (Parser.pair p q).Fails w r :=
    fails_pair_iff.2 (Or.inr ⟨r, a, hs, Fails.of_first hfirst hleaf⟩)
  exact (ht.sameEnd w).fails_iff.2 hpair

-- ============================================================== the result

/-- Names are taken whole. Of the beginnings of a text, the leaf for names
takes exactly those to their end that are beginnings of what it takes from the
whole text, except the empty one, and none if it fails there. A tree that ends
with that leaf cannot be followed by a tree whose first leaf would go on with
the name: joined in any of the three ways, they fail on every window over a
text, with the failure of the first, or else at the very window that the first
left. -/
theorem run_longest_name :
    (∀ (w r : Window) (a : Value), w.medium = .text →
      identifier.Succeeds w r a → ∃ x, a.text? = some x ∧
        ∀ y, y <+: w.view.unconsumed → ∀ u : Window, u.medium = .text →
          u.view.unconsumed = y →
            (identifier.Exhausts u ↔ y ≠ [] ∧ y <+: x)) ∧
    (∀ w r : Window, w.medium = .text → identifier.Fails w r →
      ∀ y, y <+: w.view.unconsumed → ∀ u : Window, u.medium = .text →
        u.view.unconsumed = y → ¬ identifier.Exhausts u) ∧
    (∀ p q t l : Parser, (∀ l ∈ p.leaves, l.BuiltIn) →
      p.TransformsReturn → p.leaves.getLast? = some identifier →
      q.leaves.head? = some l → l.GoesOn → Joins p q t →
        ∀ w : Window, w.medium = .text →
          (∃ r, p.Fails w r ∧ t.Fails w r) ∨
            ∃ r a, p.Succeeds w r a ∧ t.Fails w r) := by
  refine ⟨?_, ?_, ?_⟩
  · intro w r a hw hs
    obtain ⟨x, htoken, -, rfl⟩ := (succeeds_builtIn_iff .identifier hw).1 hs
    obtain ⟨rest, htext, hfit⟩ := (token?_eq_some_iff .identifier).1 htoken
    refine ⟨x, Value.text?_ofStretch w x, fun y hy u hu huy => ?_⟩
    rw [exhausts_identifier_iff hu, huy]
    rw [htext] at hy
    exact prefix_iff hfit hy
  · intro w r hw hf y hy u hu huy h
    obtain ⟨htoken, -⟩ := (fails_builtIn_iff .identifier hw).1 hf
    rw [exhausts_identifier_iff hu, huy] at h
    exact not_isName_of_token?_eq_none htoken hy h
  · intro p q t l hl hreturn hlast hfirst hgoes ht w hw
    have hbehaved :=
      wellBehaved_of_leaves (fun l h => (hl l h).wellBehaved) hreturn
    obtain ⟨o, ho⟩ := hbehaved.returns w hw
    cases o with
    | success r a =>
        exact Or.inr ⟨r, a, ho,
          ht.fails_after_name hl hlast hfirst hgoes hw ho⟩
    | failure r =>
        have hpair : (pair p q).Fails w r := fails_pair_iff.2 (Or.inl ho)
        exact Or.inl ⟨r, ho, (ht.sameEnd w).fails_iff.2 hpair⟩

/-- A name behind a bracket: its beginnings, one text that goes on behind it,
and one that begins before it; and a dash and a letter that are waited for
behind the name, though the name has just such a dash in it. -/
theorem run_longest_name_dash :
    let src : Source := ⟨.number 0, "<a-b c".toList⟩
    let v : View := ⟨src, 1, by decide⟩
    let alone (y : Text) : View := Source.view ⟨.number 1, y⟩
    let p := right (literal ['<']) identifier
    let q := pair (character '-') (literal ['b'])
    (∃ r a, identifier.Succeeds v r a) ∧
      identifier.Exhausts (alone "a-".toList) ∧
      ¬ identifier.Exhausts (alone "a-b ".toList) ∧
      (∃ r, identifier.Fails src.view r) ∧
      ¬ identifier.Exhausts (alone "<a".toList) ∧
      (∀ l ∈ p.leaves, l.BuiltIn) ∧ p.TransformsReturn ∧
      p.leaves.getLast? = some identifier ∧
      q.leaves.head? = some (character '-') ∧ (character '-').GoesOn ∧
      ∃ r a, p.Succeeds src.view r a ∧ (left p q).Fails src.view r := by
  intro src v alone p q
  obtain ⟨htaken, hnone, hjoined⟩ := run_longest_name
  have htoken : identifier.token? v.unconsumed = some "a-b".toList := by
    decide +kernel
  have hs : identifier.Succeeds v ((v : Window).skip 3)
      (.text "a-b".toList) :=
    (succeeds_builtIn_iff .identifier rfl).2 ⟨_, htoken, rfl, rfl⟩
  obtain ⟨x, hx, hall⟩ := htaken v _ _ rfl hs
  cases hx
  have hshort := hall "a-".toList (by decide) (alone "a-".toList) rfl rfl
  have hlong := hall "a-b ".toList (by decide) (alone "a-b ".toList) rfl rfl
  have hnoname : identifier.token? src.text = none := by decide +kernel
  have hf : identifier.Fails src.view src.view :=
    (fails_builtIn_iff .identifier rfl).2 ⟨hnoname, rfl⟩
  have hl : ∀ l ∈ p.leaves, l.BuiltIn :=
    forall_leaves_pair.2 ⟨List.forall_mem_singleton.2 (.literal ['<']),
      List.forall_mem_singleton.2 .identifier⟩
  have hreturn : p.TransformsReturn :=
    transformsReturn_right.2 ⟨trivial, trivial⟩
  have hgoes : (character '-').GoesOn := by
    apply GoesOn.character
    decide +kernel
  refine ⟨⟨_, _, hs⟩, hshort.2 (by decide), fun h => ?_, ⟨_, hf⟩,
    hnone _ _ rfl hf "<a".toList (by decide) _ rfl rfl, hl, hreturn, rfl,
    rfl, hgoes, ?_⟩
  · exact absurd (hlong.1 h).2 (by decide)
  · have hbracket : (literal ['<']).Succeeds src.view v .none :=
      (succeeds_builtIn_iff (.literal ['<']) rfl).2 ⟨['<'], rfl, rfl, rfl⟩
    have hp : p.Succeeds src.view _ (.text "a-b".toList) :=
      succeeds_map_iff.2
        ⟨_, succeeds_pair_iff.2 ⟨_, _, _, hbracket, hs, rfl⟩, rfl⟩
    rcases hjoined p q _ _ hl hreturn rfl rfl hgoes Joins.left src.view rfl
      with ⟨r, hpf, -⟩ | h
    · exact absurd hpf hp.not_fails
    · exact h

end ParserKit.Parser
