/-
How far a run looks: past the last token that it takes, by one character.

A token of a literal or a character fits whatever follows it, and a name
fits unless a character follows that could have gone on with it. So the
text behind the tokens of a run can be exchanged for any other text that
does not begin with such a character: the tokens are the same, and with them
the value. Where a tree has no leaf for names, it can be exchanged for any
text at all.

# Why the tokens stay

`Splits.replace_rest` goes along the leaves. A name in the middle is
followed by the next token, which has stayed; a name at the end, or one that
only empty literals come after, is followed by the text that was exchanged.
The new text may also begin as the old one did, since the old one did not go
on with the name either. That is the case of a text that grows at its end,
where nothing is asked of what was left of it.

# Why the value stays

Through a view the same tokens yield the same value wherever they are read.
Through windows that know their source as a thing, a value can carry marks
(`Likeness.texts`); those runs are compared with the runs on the views below
them.
-/
import ParserKit.Proofs.Tree.Acceptance
import ParserKit.Proofs.Tree.TextDetermined

namespace ParserKit.Parser

variable {l p : Parser} {ls : List Parser} {t x rest rest' : Text}
  {xs : List Text} {v u r : Window} {a : Value}

-- ====================================================== exchanging the rest

/-- The second text does not begin with a character that goes on with a
name, unless the first begins with it too. -/
def BeginsNoName (rest rest' : Text) : Prop :=
  ∀ c ∈ rest'.head?, c ∈ rest.head? ∨ continuesName c = false

theorem beginsNoName_append_left (y : Text) (h : BeginsNoName rest rest') :
    BeginsNoName (y ++ rest) (y ++ rest') := by
  cases y with
  | nil => exact h
  | cons c y =>
      intro d hd
      exact Or.inl hd

theorem beginsNoName_append_right
    (h : ∀ c ∈ t.head?, continuesName c = false) :
    BeginsNoName rest (rest ++ t) := by
  cases rest with
  | nil =>
      intro c hc
      exact Or.inr (h c hc)
  | cons d rest =>
      intro c hc
      exact Or.inl hc

/-- What a leaf took still fits. -/
theorem Fits.replace_rest (h : l.Fits x rest)
    (hrest : BeginsNoName rest rest' ∨ l ≠ .identifier) :
    l.Fits x rest' := by
  cases h with
  | literal => exact Fits.literal x rest'
  | character c => exact Fits.character c rest'
  | identifier hc hcs hend =>
      rcases hrest with hrest | hne
      · refine Fits.identifier hc hcs fun d hd => ?_
        rcases hrest d hd with hd' | hd'
        · exact hend d hd'
        · exact hd'
      · exact absurd rfl hne

/-- The tokens of a list of leaves can be split off as before. -/
theorem Splits.replace_rest (h : Splits ls t xs rest)
    (hrest : BeginsNoName rest rest' ∨ identifier ∉ ls) :
    Splits ls (xs.flatten ++ rest') xs rest' := by
  induction ls generalizing t xs with
  | nil =>
      obtain ⟨rfl, -⟩ := h
      exact ⟨rfl, rfl⟩
  | cons l ls ih =>
      obtain ⟨x, ys, u, rfl, rfl, hx, h⟩ := h
      -- A token is followed by the other tokens before the rest.
      have htail : BeginsNoName rest rest' ∨ identifier ∉ ls :=
        hrest.imp_right fun hls hmem => hls (List.mem_cons_of_mem _ hmem)
      rw [h.text_eq] at hx
      refine ⟨x, ys, ys.flatten ++ rest', rfl, ?_, ?_, ih h htail⟩
      · rw [List.flatten_cons, List.append_assoc]
      · refine hx.replace_rest ?_
        rcases hrest with hrest | hls
        · exact Or.inl (beginsNoName_append_left _ hrest)
        · refine Or.inr fun hl => hls ?_
          rw [hl]
          exact List.mem_cons_self ..

/-- A text can follow the tokens of a tree and leave them whole. -/
def MayPrecede (p : Parser) (t : Text) : Prop :=
  (∀ c ∈ t.head?, continuesName c = false) ∨ identifier ∉ p.leaves

/-- Such a text can take the place of what follows the tokens, or be put
after it. -/
theorem Splits.before {t' : Text} (h : Splits p.leaves t xs rest)
    (ht : p.MayPrecede t') :
    Splits p.leaves (xs.flatten ++ t') xs t' ∧
      Splits p.leaves (t ++ t') xs (rest ++ t') := by
  constructor
  · apply h.replace_rest
    exact ht.imp_left fun hends c hc => Or.inr (hends c hc)
  · rw [h.text_eq, List.append_assoc]
    apply h.replace_rest
    exact ht.imp_left beginsNoName_append_right

-- ========================================================== running again

/-- The run on a window succeeds with a value that `T` relates to `a`, and
leaves a text. -/
def SucceedsLeaving (T : Value → Value → Prop) (p : Parser) (w : Window)
    (a : Value) (t : Text) : Prop :=
  ∃ s b, p.Succeeds w s b ∧ T a b ∧ s.text = .ok t

/-- Through a view, tokens yield what they yield through any other. -/
theorem Yields.of_view {v u : View} (h : Yields v p xs a) :
    Yields u p xs a := by
  have hread : Value.ofStretch v = Value.ofStretch u := rfl
  exact h.of_ofStretch hread

/-- What a run has consumed and what it has left. -/
theorem Succeeds.consumed (hl : ∀ l ∈ p.leaves, l.BuiltIn)
    (hv : v.medium = .text) (hs : p.Succeeds v r a) :
    ∃ xs rest, Splits p.leaves v.view.unconsumed xs rest ∧
      Yields v p xs a ∧ r.view.consumedSince v.view = .ok xs.flatten ∧
      r.text = .ok rest := by
  obtain ⟨xs, rest, hsplit, rfl, hy⟩ := (succeeds_iff_splits hl hv).1 hs
  refine ⟨xs, rest, hsplit, hy, ?_, ?_⟩
  · have hlen : xs.flatten.length ≤ v.view.length := by
      rw [← View.length_unconsumed, hsplit.text_eq, List.length_append]
      omega
    rw [v.consumedSince_skip hlen, hsplit.text_eq, List.take_left]
  · rw [Window.text_of_text ((v.medium_skip _).trans hv),
      hsplit.unconsumed_skip]

/-- Tokens that are there are taken, with the value that they yield. -/
theorem Splits.succeedsLeaving (hl : ∀ l ∈ p.leaves, l.BuiltIn)
    (hu : u.medium = .text)
    (hsplit : Splits p.leaves u.view.unconsumed xs rest)
    (hy : Yields u p xs a) : p.SucceedsLeaving Eq u a rest := by
  have hs : p.Succeeds u (u.skip xs.flatten.length) a :=
    (succeeds_iff_splits hl hu).2 ⟨xs, rest, hsplit, rfl, hy⟩
  refine ⟨_, a, hs, rfl, ?_⟩
  rw [Window.text_of_text ((u.medium_skip _).trans hu),
    hsplit.unconsumed_skip]

/-- Windows on the same text, with marks or without, are left with the same
text and with values that differ in marks only. -/
theorem SucceedsLeaving.of_alike (hl : ∀ l ∈ p.leaves, l.BuiltIn)
    (ht : p.TransformsKeep .texts) (hvu : Likeness.texts.windows v u)
    (h : p.SucceedsLeaving Likeness.texts.values v a t) :
    p.SucceedsLeaving Likeness.texts.values u a t := by
  obtain ⟨r, b, hs, hab, hr⟩ := h
  have hdet : p.TextDetermined .texts :=
    textDetermined_of_leaves (fun l h => (hl l h).textDetermined) ht
  obtain ⟨r', b', hs', hrest, hvalue⟩ := (hdet v u hvu).of_succeeds hs
  refine ⟨r', b', hs', Eq.trans hab hvalue, ?_⟩
  rw [← hr, Window.text_of_text (Likeness.texts.left_medium hrest),
    Window.text_of_text (Likeness.texts.right_medium hrest),
    Likeness.texts.unconsumed_eq hrest]

/-- What a run on a window has taken yields a value that differs in marks
only wherever it is taken again. -/
theorem Succeeds.again_texts (hl : ∀ l ∈ p.leaves, l.BuiltIn)
    (ht : p.TransformsKeep .texts) (hv : v.medium = .text)
    (hu : u.medium = .text) (hs : p.Succeeds v r a)
    (hxs : Splits p.leaves v.view.unconsumed xs rest)
    (hsplit : Splits p.leaves u.view.unconsumed xs rest') :
    p.SucceedsLeaving Likeness.texts.values u a rest' := by
  -- From the window to the view below it, along to the other view, and up.
  have hfrom : p.SucceedsLeaving Likeness.texts.values v.view a rest := by
    obtain ⟨ys, z, hys, -, -, hz⟩ := hs.consumed hl hv
    obtain ⟨rfl, rfl⟩ := splits_unique hl hxs hys
    have hdown : Likeness.texts.windows v v.view := ⟨hv, rfl, rfl⟩
    exact SucceedsLeaving.of_alike hl ht hdown ⟨r, a, hs, rfl, hz⟩
  obtain ⟨s, b, hb, hab, -⟩ := hfrom
  have halong : p.SucceedsLeaving Likeness.texts.values u.view a rest' := by
    obtain ⟨ys, z, hys, hy, -, -⟩ := hb.consumed hl rfl
    obtain ⟨rfl, rfl⟩ := splits_unique hl hxs hys
    obtain ⟨s', c, hc, rfl, hz⟩ :=
      Splits.succeedsLeaving (u := u.view) hl rfl hsplit hy.of_view
    exact ⟨s', b, hc, hab, hz⟩
  have hup : Likeness.texts.windows u.view u := ⟨rfl, hu, rfl⟩
  exact SucceedsLeaving.of_alike hl ht hup halong

-- ============================================================== the result

/-- A run that has succeeded depends on its tokens and on one character
behind them. On a view: before the end, and before any text that does not go
on with a name, or any text at all if the tree has no leaf for names, what was
consumed is consumed again with the same value, and that text is left. The
same holds if such a text is put after all that there was, whatever was left
then. On windows that know their sources it holds but for the marks, if the
transforms do not look at them. -/
theorem run_lookahead (hl : ∀ l ∈ p.leaves, l.BuiltIn) :
    (∀ (v : View) (r : Window) (a : Value), p.Succeeds v r a →
      ∃ y z, r.view.consumedSince v = .ok y ∧ r.text = .ok z ∧
        (∀ id, p.SucceedsLeaving Eq (Source.view ⟨id, y⟩) a []) ∧
        ∀ t, p.MayPrecede t → ∀ u : View,
          (u.unconsumed = y ++ t → p.SucceedsLeaving Eq u a t) ∧
          (u.unconsumed = v.unconsumed ++ t →
            p.SucceedsLeaving Eq u a (z ++ t))) ∧
    (p.TransformsKeep .texts →
      ∀ (v r : Window) (a : Value), v.medium = .text → p.Succeeds v r a →
        ∃ y z, r.view.consumedSince v.view = .ok y ∧ r.text = .ok z ∧
          ∀ t, p.MayPrecede t → ∀ u : Window, u.medium = .text →
            (u.view.unconsumed = y ++ t →
              p.SucceedsLeaving Likeness.texts.values u a t) ∧
            (u.view.unconsumed = v.view.unconsumed ++ t →
              p.SucceedsLeaving Likeness.texts.values u a (z ++ t))) := by
  constructor
  · intro v r a hs
    obtain ⟨xs, rest, hsplit, hy, hcons, hrest⟩ := hs.consumed hl rfl
    have hagain : ∀ (u : View) (t : Text),
        Splits p.leaves u.unconsumed xs t → p.SucceedsLeaving Eq u a t :=
      fun u t hu => Splits.succeedsLeaving (u := u) hl rfl hu hy.of_view
    refine ⟨xs.flatten, rest, hcons, hrest, fun id => ?_,
      fun t ht u => ⟨fun hu => ?_, fun hu => ?_⟩⟩
    · have hend : p.MayPrecede [] := Or.inl fun c hc => by cases hc
      apply hagain
      rw [View.unconsumed_view, ← List.append_nil xs.flatten]
      exact (hsplit.before hend).1
    · apply hagain
      rw [hu]
      exact (hsplit.before ht).1
    · apply hagain
      rw [hu]
      exact (hsplit.before ht).2
  · intro hkeep v r a hv hs
    obtain ⟨xs, rest, hsplit, -, hcons, hrest⟩ := hs.consumed hl hv
    refine ⟨xs.flatten, rest, hcons, hrest,
      fun t ht u hu => ⟨fun htext => ?_, fun htext => ?_⟩⟩
    · apply hs.again_texts hl hkeep hv hu hsplit
      rw [htext]
      exact (hsplit.before ht).1
    · apply hs.again_texts hl hkeep hv hu hsplit
      rw [htext]
      exact (hsplit.before ht).2

/-- A name in the middle of a text, with an empty literal after it: before a
bracket instead of a blank, and with a bracket at the end of the text. -/
theorem run_lookahead_name :
    let p := pair identifier (literal [])
    let v : View := ⟨⟨.number 0, "<b-c d".toList⟩, 1, by decide⟩
    let a := Value.tuple [.text "b-c".toList, .none]
    let t := ">e".toList
    (∀ l ∈ p.leaves, l.BuiltIn) ∧ (∃ r, p.Succeeds v r a) ∧
      p.MayPrecede t ∧
      ∀ id, p.SucceedsLeaving Eq (Source.view ⟨id, "b-c>e".toList⟩) a t ∧
        p.SucceedsLeaving Eq (Source.view ⟨id, "b-c d>e".toList⟩) a
          " d>e".toList := by
  intro p v a t
  have hl : ∀ l ∈ p.leaves, l.BuiltIn :=
    forall_leaves_pair.2 ⟨List.forall_mem_singleton.2 .identifier,
      List.forall_mem_singleton.2 (.literal [])⟩
  have hname : identifier.token? "b-c d".toList = some "b-c".toList := by
    decide +kernel
  have hfirst : identifier.Succeeds v ((v : Window).skip 3)
      (.text "b-c".toList) :=
    (succeeds_builtIn_iff .identifier rfl).2 ⟨_, hname, rfl, rfl⟩
  have hsecond : (literal []).Succeeds ((v : Window).skip 3)
      (((v : Window).skip 3).skip 0) .none :=
    (succeeds_builtIn_iff (.literal []) rfl).2 ⟨[], rfl, rfl, rfl⟩
  have hs : p.Succeeds v (((v : Window).skip 3).skip 0) a :=
    succeeds_pair_iff.2 ⟨_, _, _, hfirst, hsecond, rfl⟩
  have ht : p.MayPrecede t := by
    refine Or.inl fun c hc => ?_
    cases hc
    show continuesName '>' = false
    decide +kernel
  obtain ⟨y, z, hy, hz, -, hagain⟩ := (run_lookahead hl).1 v _ a hs
  cases hy
  cases hz
  exact ⟨hl, ⟨_, hs⟩, ht, fun id =>
    ⟨(hagain t ht _).1 rfl, (hagain t ht _).2 rfl⟩⟩

end ParserKit.Parser
