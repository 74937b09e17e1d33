/-
What the printed form of a parser says about the parser.

A printed tree of built-in leaves shows its leaves and how they are nested,
and nothing else; trees that agree in that are alike but for their transforms
(`SameSkeleton`). Nothing is lost in print: from the printed form the tree can
be told, up to its transforms, and also where the form ends, whatever follows
it (`render_append_inj`). A literal may contain brackets, commas, quotes and
whole printed parsers. That does no harm, since it is quoted.

# The proof

Both trees are taken apart together, by induction on the one and by cases on
the other. What a node begins with says which of the five it is. Then come a
quoted text (`Quoted.encode_append_inj`) or printed parsers, each of which
shows its own end, so that what stands behind them can be compared in turn.

# What the skeleton decides

Transforms do not steer a run (`SameControl.sameWay`), so parsers that print
alike recognise the same texts.
-/
import ParserKit.Proofs.Text.Quoted
import ParserKit.Proofs.Tree.Contract
import ParserKit.Proofs.Tree.Control

namespace ParserKit.Parser

variable {p q p' q' l : Parser} {t u : Text}

-- ============================================================= skeletons

/-- The same leaves, nested in the same way, under any transforms. -/
inductive SameSkeleton : Parser → Parser → Prop
  | leaf {l : Parser} (hl : l.isLeaf = true) : SameSkeleton l l
  | map {p q : Parser} {f g : Value → Run Value} (h : SameSkeleton p q) :
      SameSkeleton (.map p f) (.map q g)
  | pair {p q p' q' : Parser} (hp : SameSkeleton p p')
      (hq : SameSkeleton q q') : SameSkeleton (.pair p q) (.pair p' q')

theorem SameSkeleton.sameControl (h : SameSkeleton p q) :
    SameControl p q := by
  induction h with
  | leaf hl => exact SameControl.leaf hl hl fun w => SameEnd.refl _ w
  | map _ ih => exact SameControl.map ih
  | pair _ _ ihp ihq =>
      exact SameControl.joined Joins.pair Joins.pair ihp ihq

theorem SameSkeleton.render_eq (h : SameSkeleton p q) :
    p.render = q.render := by
  induction h with
  | leaf hl => rfl
  | map _ ih =>
      show Value.framed ("map(".toList ++ render _ ++ [')']) = _
      rw [ih]
      rfl
  | pair _ _ ihp ihq =>
      show Value.framed
        ("pair(".toList ++ render _ ++ [',', ' '] ++ render _ ++ [')']) = _
      rw [ihp, ihq]
      rfl

-- ========================================================= forms of nodes

/-- What a node of a tree of built-in leaves can be. -/
inductive Form where
  | literal
  | character
  | identifier
  | map
  | pair
  deriving DecidableEq

/-- What the name of a node begins with. -/
def Form.opening : Form → Text
  | .literal => "match_literal(".toList
  | .character => "character(".toList
  | .identifier => "identifier".toList
  | .map => "map(".toList
  | .pair => "pair(".toList

/-- The form of a node, and the rest of its name. -/
inductive Shows : Parser → Form → Text → Prop
  | literal (s : Text) :
      Shows (.literal s) .literal (Quoted.encode s ++ [')'])
  | character (c : Char) :
      Shows (.character c) .character (Quoted.encode [c] ++ [')'])
  | identifier : Shows .identifier .identifier []
  | map (p : Parser) (f : Value → Run Value) :
      Shows (.map p f) .map (p.render ++ [')'])
  | pair (p q : Parser) :
      Shows (.pair p q) .pair (p.render ++ [',', ' '] ++ q.render ++ [')'])

theorem exists_shows (hl : ∀ l ∈ p.leaves, l.BuiltIn) :
    ∃ k b, Shows p k b := by
  induction p using tree_induction with
  | leaf l h =>
      have hb : l.BuiltIn := forall_leaves_of_isLeaf h hl
      cases hb with
      | literal s => exact ⟨_, _, Shows.literal s⟩
      | character c => exact ⟨_, _, Shows.character c⟩
      | identifier => exact ⟨_, _, Shows.identifier⟩
  | map p f _ => exact ⟨_, _, Shows.map p f⟩
  | pair p q _ _ => exact ⟨_, _, Shows.pair p q⟩

theorem Shows.render_eq {k : Form} {b : Text} (h : Shows p k b) :
    p.render = "<FnParser ".toList ++ (k.opening ++ (b ++ ['>'])) := by
  have hname : p.render = "<FnParser ".toList ++ p.name ++ ['>'] := by
    cases h <;> rfl
  have hopening : p.name = k.opening ++ b := by
    cases h with
    | literal s => exact List.append_assoc _ _ _
    | character c => exact List.append_assoc _ _ _
    | identifier => rfl
    | map p f => exact List.append_assoc _ _ _
    | pair p q =>
        show "pair(".toList ++ p.render ++ [',', ' '] ++ q.render ++ [')']
          = "pair(".toList ++ _
        simp only [List.append_assoc]
  rw [hname, hopening, List.append_assoc, List.append_assoc]

/-- The first three characters of a name say what the node is. -/
theorem Form.opening_append_inj {k k' : Form}
    (h : k.opening ++ t = k'.opening ++ u) : k = k' ∧ t = u := by
  have hlong : ∀ k : Form, 3 ≤ k.opening.length := by
    intro k
    cases k <;> decide +kernel
  have hthree : ∀ k k' : Form,
      k.opening.take 3 = k'.opening.take 3 → k = k' := by
    intro k k'
    cases k <;> cases k' <;> decide +kernel
  have htake := congrArg (List.take 3) h
  rw [List.take_append_of_le_length (hlong k),
    List.take_append_of_le_length (hlong k')] at htake
  obtain rfl := hthree k k' htake
  exact ⟨rfl, List.append_cancel_left h⟩

-- ===================================================== unique readability

/-- Nodes that print alike have one form, and the rests of their names agree
with what follows them. -/
theorem Shows.of_render_append_eq {k : Form} {b : Text} (hp : Shows p k b)
    (hl : ∀ l ∈ q.leaves, l.BuiltIn)
    (h : p.render ++ t = q.render ++ u) :
    ∃ b', Shows q k b' ∧ b ++ (['>'] ++ t) = b' ++ (['>'] ++ u) := by
  -- The other node is taken by its own form, which need not be `k` yet.
  obtain ⟨k', b', hq⟩ := exists_shows hl
  rw [hp.render_eq, hq.render_eq] at h
  simp only [List.append_assoc] at h
  obtain ⟨rfl, hbody⟩ := Form.opening_append_inj (List.append_cancel_left h)
  exact ⟨b', hq, hbody⟩

/-- A printed tree can be told from what follows it, up to its
transforms. -/
theorem render_append_inj (hp : ∀ l ∈ p.leaves, l.BuiltIn)
    (hq : ∀ l ∈ q.leaves, l.BuiltIn)
    (h : p.render ++ t = q.render ++ u) : SameSkeleton p q ∧ t = u := by
  -- The other tree and both rests stay free: what stands behind the first part
  -- of a `pair` is no rest of the whole.
  induction p using tree_induction generalizing q t u with
  | leaf l hl =>
      have hb : l.BuiltIn := forall_leaves_of_isLeaf hl hp
      cases hb with
      | literal s =>
          obtain ⟨b, hshow, hbody⟩ :=
            (Shows.literal s).of_render_append_eq hq h
          cases hshow with
          | literal s' =>
              rw [List.append_assoc, List.append_assoc] at hbody
              obtain ⟨rfl, hrest⟩ := Quoted.encode_append_inj hbody
              exact ⟨SameSkeleton.leaf rfl,
                List.append_cancel_left (List.append_cancel_left hrest)⟩
      | character c =>
          obtain ⟨b, hshow, hbody⟩ :=
            (Shows.character c).of_render_append_eq hq h
          cases hshow with
          | character d =>
              rw [List.append_assoc, List.append_assoc] at hbody
              obtain ⟨hcd, hrest⟩ := Quoted.encode_append_inj hbody
              cases hcd
              exact ⟨SameSkeleton.leaf rfl,
                List.append_cancel_left (List.append_cancel_left hrest)⟩
      | identifier =>
          obtain ⟨b, hshow, hbody⟩ :=
            Shows.identifier.of_render_append_eq hq h
          cases hshow with
          | identifier =>
              exact ⟨SameSkeleton.leaf rfl, List.append_cancel_left hbody⟩
  | map p f ih =>
      obtain ⟨b, hshow, hbody⟩ := (Shows.map p f).of_render_append_eq hq h
      cases hshow with
      | map q g =>
          rw [List.append_assoc, List.append_assoc] at hbody
          have hq : ∀ l ∈ q.leaves, l.BuiltIn := hq
          obtain ⟨hpq, hrest⟩ := ih hp hq hbody
          exact ⟨SameSkeleton.map hpq,
            List.append_cancel_left (List.append_cancel_left hrest)⟩
  | pair p p' ihp ihp' =>
      obtain ⟨b, hshow, hbody⟩ := (Shows.pair p p').of_render_append_eq hq h
      cases hshow with
      | pair q q' =>
          obtain ⟨hlp, hlp'⟩ := forall_leaves_pair.1 hp
          obtain ⟨hlq, hlq'⟩ := forall_leaves_pair.1 hq
          simp only [List.append_assoc] at hbody
          obtain ⟨hpq, hrest⟩ := ihp hlp hlq hbody
          obtain ⟨hpq', hrest⟩ :=
            ihp' hlp' hlq' (List.append_cancel_left hrest)
          exact ⟨SameSkeleton.pair hpq hpq',
            List.append_cancel_left (List.append_cancel_left hrest)⟩

-- ========================================================== the result

/-- Trees of built-in leaves that print alike have the same leaves, nested in
the same way, and only they print alike. If their transforms return, they
recognise the same: on a window over a text both succeed and go on at the same
window, or both fail at the same window. -/
theorem render_decides (hp : ∀ l ∈ p.leaves, l.BuiltIn)
    (hq : ∀ l ∈ q.leaves, l.BuiltIn) (htp : p.TransformsReturn)
    (htq : q.TransformsReturn) :
    (p.render = q.render ↔ SameSkeleton p q) ∧
    (p.render = q.render → ∀ w : Window, w.medium = .text →
      (∃ r x y, p.Succeeds w r x ∧ q.Succeeds w r y) ∨
        ∃ r, p.Fails w r ∧ q.Fails w r) := by
  have hskeleton : p.render = q.render ↔ SameSkeleton p q := by
    constructor
    · intro h
      have h : p.render ++ [] = q.render ++ [] := by rw [h]
      exact (render_append_inj hp hq h).1
    · exact SameSkeleton.render_eq
  refine ⟨hskeleton, fun h w hw => ?_⟩
  have hcontrol := (hskeleton.1 h).sameControl
  have hreturns := wellBehaved_of_leaves (fun l hl => (hp l hl).wellBehaved) htp
  obtain ⟨o, ho⟩ := hreturns.returns w hw
  cases (hcontrol.sameWay (htp.on w) (htq.on w)).1 with
  | success hx hy hrest _ =>
      subst hrest
      exact Or.inl ⟨_, _, _, hx, hy⟩
  | failure hx hy hrest =>
      subst hrest
      exact Or.inr ⟨_, hx, hy⟩
  | fault hx _ => cases ho.symm.trans hx

/-- A literal that reads like the end of one printed parser and the start of
another, under a `left` and under a `map` that wraps the pair: they print
alike, and recognise the same. -/
theorem render_decides_quotes :
    let l := literal "'), <FnParser pair(\"".toList
    let p := left l identifier
    let q := map (pair l identifier) fun x => pure (.tuple [x])
    let w := Window.ofView ⟨⟨.number 0, "'), <FnParser pair(\"ab-c;".toList⟩,
      0, by decide⟩
    (∀ k ∈ p.leaves, k.BuiltIn) ∧ (∀ k ∈ q.leaves, k.BuiltIn) ∧
      p.TransformsReturn ∧ q.TransformsReturn ∧ p.render = q.render ∧
      ((∃ r x y, p.Succeeds w r x ∧ q.Succeeds w r y) ∨
        ∃ r, p.Fails w r ∧ q.Fails w r) := by
  intro l p q w
  have hl : ∀ k ∈ (pair l identifier).leaves, k.BuiltIn :=
    forall_leaves_pair.2
      ⟨List.forall_mem_singleton.2 (BuiltIn.literal _),
        List.forall_mem_singleton.2 BuiltIn.identifier⟩
  have hp : p.TransformsReturn :=
    transformsReturn_left.2 ⟨trivial, trivial⟩
  have hq : q.TransformsReturn :=
    ⟨⟨trivial, trivial⟩, fun _ _ x _ => ⟨.tuple [x], rfl⟩⟩
  have hdecides := render_decides (p := p) (q := q) hl hl hp hq
  have hprint : p.render = q.render :=
    hdecides.1.2 (SameSkeleton.map (SameSkeleton.pair (SameSkeleton.leaf rfl)
      (SameSkeleton.leaf rfl)))
  exact ⟨hl, hl, hp, hq, hprint, hdecides.2 hprint w rfl⟩

end ParserKit.Parser
