/-
Equality as having one normal form.

Values are compared across kinds: a truth value with a number, a view with a
text. Over the values that have nothing in them but data (`IsData`) this is
equality of normal forms: in a normal form truth values are numbers, views
are texts, and no part is known by anything (`beq_iff`). That equality is an
equivalence, at any depth and along any chain, needs no further argument
then. Nor does a comparison of data ever end in a fault
(`compare_of_isData`).

# Data

Data are what a script can write down and what a parse of a text can give,
with nothing opaque in it: no parser, object or error, no slice, and no view
over anything but a text. What a value is known by does not matter, so
`Datum` is stated of what is left of a value without that, and `IsData` of
the value.
-/
import ParserKit.Proofs.Window.Likeness

namespace ParserKit.Value

variable {a b c v x y : Value} {xs ys : List Value} {w : Window}

-- ================================================================== data

/-- A value that is not just known, made of plain values, views over texts,
outcomes that go on at a view, and elements. -/
inductive Datum : Value → Prop
  | none : Datum .none
  | bool (b : Bool) : Datum (.bool b)
  | int (n : Int) : Datum (.int n)
  | text (t : Text) : Datum (.text t)
  | bytes (data : List UInt8) : Datum (.bytes data)
  | dictionary : Datum .dictionary
  | tuple {items : List Value} (h : ∀ x ∈ items, Datum x.bare) :
      Datum (.tuple items)
  | list {items : List Value} (h : ∀ x ∈ items, Datum x.bare) :
      Datum (.list items)
  | view {w : Window} (hw : w.medium = .text) : Datum (.view w)
  | success {rest value : Value} (hkind : rest.kind = .view)
      (hrest : Datum rest.bare) (hvalue : Datum value.bare) :
      Datum (.success rest value)
  | failure {rest : Value} (hkind : rest.kind = .view)
      (hrest : Datum rest.bare) : Datum (.failure rest)
  | element {name attributes children : Value} (hname : Datum name.bare)
      (hattributes : Datum attributes.bare)
      (hchildren : Datum children.bare) :
      Datum (.element name attributes children)

/-- The value has nothing in it but data. -/
def IsData (v : Value) : Prop :=
  v.bare.Datum

theorem isData_of_bare (hv : v.bare = x) (hx : x.Datum) : v.IsData := by
  unfold IsData
  rw [hv]
  exact hx

-- ========================================================= what is known

/-- What does not look at what a value is known by is the same without
it. -/
theorem apply_bare {α : Type} (f : Value → α)
    (h : ∀ id v, f (.known id v) = f v) (v : Value) : f v.bare = f v := by
  fun_induction bare v with
  | case1 id v ih => rw [ih, h]
  | case2 v _ => rfl

theorem bare_bare (v : Value) : v.bare.bare = v.bare :=
  apply_bare bare (fun _ _ => rfl) v

theorem kind_bare (v : Value) : v.bare.kind = v.kind :=
  apply_bare kind (fun _ _ => rfl) v

theorem number?_bare (v : Value) : v.bare.number? = v.number? :=
  apply_bare number? (fun _ _ => rfl) v

theorem text?_bare (v : Value) : v.bare.text? = v.text? :=
  apply_bare text? (fun _ _ => rfl) v

/-- What is said of a part by itself holds of it as it is. -/
theorem apply_of_bare {α : Type} {f : Value → α} {g : Value → Value}
    (hg : ∀ v, g v.bare = g v) (hf : ∀ v, f v.bare = f v)
    (h : f (g v.bare) = f v.bare) : f (g v) = f v := by
  rwa [hg, hf] at h

/-- What an outcome goes on at is a window, known or not. -/
theorem exists_bare_of_view (hkind : v.kind = .view) (h : v.IsData) :
    ∃ w : Window, w.medium = .text ∧ v.bare = view w := by
  rw [← kind_bare] at hkind
  unfold IsData at h
  generalize v.bare = c at hkind h
  cases h with
  | view hw => exact ⟨_, hw, rfl⟩
  | _ => cases hkind

theorem beq_bare_left (a b : Value) : a.bare.beq b = a.beq b :=
  apply_bare (beq · b) (fun _ _ => by rw [beq]) a

/-- What the right value is known by is not looked at. -/
theorem Datum.beq_bare (ha : a.Datum) (b : Value) :
    a.beq b.bare = a.beq b := by
  cases ha <;> simp only [beq, bare_bare, number?_bare, text?_bare]

-- =========================================================== normal forms

mutual

/-- A value in which truth values are numbers, views are texts, and nothing
is known by anything. -/
def normal : Value → Value
  | .bool b => .int (Number.ofTruth b)
  | .view w => .text w.view.unconsumed
  | .tuple items => .tuple (normalAll items)
  | .list items => .list (normalAll items)
  | .success rest value => .success (normal rest) (normal value)
  | .failure rest => .failure (normal rest)
  | .element name attributes children =>
      .element (normal name) (normal attributes) (normal children)
  | .known _ v => normal v
  | v => v

/-- The normal forms of several values. -/
def normalAll : List Value → List Value
  | [] => []
  | x :: xs => normal x :: normalAll xs

end

theorem normal_bare (v : Value) : v.bare.normal = v.normal :=
  apply_bare normal (fun _ _ => by rw [normal]) v

/-- On data a number is read exactly where the normal form is one. -/
theorem Datum.number?_iff (h : v.Datum) (n : Int) :
    v.number? = some n ↔ v.normal = .int n := by
  cases h <;> simp [number?, normal]

theorem Datum.text?_iff (h : v.Datum) (t : Text) :
    v.text? = some t ↔ v.normal = .text t := by
  cases h with
  | view hw =>
      simp [text?, normal, Window.text_of_text hw, Except.toOption]
  | _ => simp [text?, normal]

-- ============================================================== equality

/-- Two lists of values are equal item by item if their normal forms are. -/
theorem beqAll_iff
    (h : ∀ x ∈ xs, ∀ y ∈ ys, (x.beq y = true ↔ x.normal = y.normal)) :
    beqAll xs ys = true ↔ normalAll xs = normalAll ys := by
  induction xs generalizing ys with
  | nil => cases ys <;> simp [beqAll, normalAll]
  | cons x xs ih =>
      cases ys with
      | nil => simp [beqAll, normalAll]
      | cons y ys =>
          have hx := h x (List.mem_cons_self ..) y (List.mem_cons_self ..)
          have hxs := ih fun x hx y hy =>
            h x (List.mem_cons_of_mem _ hx) y (List.mem_cons_of_mem _ hy)
          simp only [beqAll, normalAll, Bool.and_eq_true, hx, hxs,
            List.cons.injEq]

/-- Comparing values is comparing what is left without what they are known
by. -/
theorem beq_bare_both (hx : x.bare.Datum) (y : Value) :
    x.bare.beq y.bare = x.beq y := by
  rw [hx.beq_bare y, beq_bare_left]

/-- What is said of parts by themselves holds of them as they are. -/
theorem beq_iff_of_bare (hx : x.bare.Datum)
    (h : x.bare.beq y.bare = true ↔ x.bare.normal = y.bare.normal) :
    x.beq y = true ↔ x.normal = y.normal := by
  rw [← beq_bare_both hx, ← normal_bare x, ← normal_bare y]
  exact h

theorem Datum.beq_iff (ha : a.Datum) (hb : b.Datum) :
    a.beq b = true ↔ a.normal = b.normal := by
  induction ha generalizing b with
  | none => cases hb <;> simp [beq, bare, normal]
  | bool x =>
      simp only [beq, beq_iff_eq, hb.number?_iff, normal]
      exact eq_comm
  | int n =>
      simp only [beq, beq_iff_eq, hb.number?_iff, normal]
      exact eq_comm
  | text t =>
      simp only [beq, beq_iff_eq, hb.text?_iff, normal]
      exact eq_comm
  | bytes data => cases hb <;> simp [beq, bare, normal]
  | dictionary => cases hb <;> simp [beq, bare, normal]
  | tuple h ih =>
      cases hb with
      | tuple h' =>
          simp only [beq, bare, normal, Value.tuple.injEq]
          exact beqAll_iff fun x hx y hy =>
            beq_iff_of_bare (h x hx) (ih x hx (h' y hy))
      | _ => simp [beq, bare, normal]
  | list h ih =>
      cases hb with
      | list h' =>
          simp only [beq, bare, normal, Value.list.injEq]
          exact beqAll_iff fun x hx y hy =>
            beq_iff_of_bare (h x hx) (ih x hx (h' y hy))
      | _ => simp [beq, bare, normal]
  | view hw =>
      simp only [beq, Window.text_of_text hw, beq_iff_eq, hb.text?_iff,
        normal]
      exact eq_comm
  | success _ hrest hvalue ihr ihv =>
      cases hb with
      | success _ hrest' hvalue' =>
          simp only [beq, bare, normal, Bool.and_eq_true,
            Value.success.injEq, beq_iff_of_bare hrest (ihr hrest'),
            beq_iff_of_bare hvalue (ihv hvalue')]
      | _ => simp [beq, bare, normal]
  | failure _ hrest ihr =>
      cases hb with
      | failure _ hrest' =>
          simp only [beq, bare, normal, Value.failure.injEq,
            beq_iff_of_bare hrest (ihr hrest')]
      | _ => simp [beq, bare, normal]
  | element hn has hcs ihn ihas ihcs =>
      cases hb with
      | element hn' has' hcs' =>
          simp only [beq, bare, normal, Bool.and_eq_true,
            Value.element.injEq, beq_iff_of_bare hn (ihn hn'),
            beq_iff_of_bare has (ihas has'),
            beq_iff_of_bare hcs (ihcs hcs'), and_assoc]
      | _ => simp [beq, bare, normal]

/-- Data are equal exactly if they have the same normal form. -/
theorem beq_iff (ha : a.IsData) (hb : b.IsData) :
    a.beq b = true ↔ a.normal = b.normal :=
  beq_iff_of_bare ha (Datum.beq_iff ha hb)

theorem beq_refl (ha : a.IsData) : a.beq a = true :=
  (beq_iff ha ha).2 rfl

theorem beq_comm (ha : a.IsData) (hb : b.IsData) : a.beq b = b.beq a := by
  rw [Bool.eq_iff_iff, beq_iff ha hb, beq_iff hb ha]
  exact eq_comm

theorem beq_trans (ha : a.IsData) (hb : b.IsData) (hc : c.IsData)
    (hab : a.beq b = true) (hbc : b.beq c = true) : a.beq c = true :=
  (beq_iff ha hc).2
    (((beq_iff ha hb).1 hab).trans ((beq_iff hb hc).1 hbc))

-- ============================================================ texts and views

theorem view_beq_view_iff {v : Window} (ha : a.bare = .view v)
    (hb : b.bare = .view w) (hv : v.medium = .text) (hw : w.medium = .text) :
    a.beq b = true ↔ v.view.unconsumed = w.view.unconsumed := by
  rw [← beq_bare_both (isData_of_bare ha (.view hv)), ha, hb]
  exact Window.beq_iff_of_text hv hw

theorem view_beq_text_iff {t : Text} (ha : a.bare = .view w)
    (hb : b.bare = .text t) (hw : w.medium = .text) :
    a.beq b = true ↔ w.view.unconsumed = t := by
  rw [← beq_bare_both (isData_of_bare ha (.view hw)), ha, hb,
    (Datum.view hw).beq_iff (Datum.text t)]
  simp only [normal, Value.text.injEq]

-- =============================================================== clashes

@[simp] theorem andThen_none (same : Bool) :
    andThen .none same .none = .none := by
  cases same <;> rfl

@[simp] theorem unlessSame_none (a b : Value) :
    unlessSame a b .none = .none :=
  ite_self Option.none

theorem clash?_of_bare (h : a.bare.clash? b = .none) :
    a.clash? b = .none := by
  fun_induction bare a with
  | case1 id a ih =>
      rw [clash?]
      split
      · rfl
      · exact ih h
  | case2 a _ => exact h

theorem clashAll?_eq_none (h : ∀ x ∈ xs, ∀ y ∈ ys, x.clash? y = .none) :
    clashAll? xs ys = .none := by
  induction xs generalizing ys with
  | nil => rw [clashAll?]
  | cons x xs ih =>
      cases ys with
      | nil => rw [clashAll?]
      | cons y ys =>
          have hx := h x (List.mem_cons_self ..) y (List.mem_cons_self ..)
          have hxs := ih fun x hx y hy =>
            h x (List.mem_cons_of_mem _ hx) y (List.mem_cons_of_mem _ hy)
          rw [clashAll?, hx, hxs, unlessSame_none, andThen_none]

theorem windowClash?_eq_none (hw : w.medium = .text) (hb : b.Datum) :
    windowClash? w b = .none := by
  cases hb with
  | text t => simp [windowClash?, Window.startFault?, hw]
  | view hv =>
      simp [windowClash?, Window.textFault?, Medium.textless?, hw, hv]
  | _ => rfl

/-- Nothing stands in the way of comparing data. -/
theorem Datum.clash?_eq_none (ha : a.Datum) (hb : b.IsData) :
    a.clash? b = .none := by
  unfold IsData at hb
  induction ha generalizing b with
  | text t =>
      rw [clash?]
      generalize b.bare = c at hb
      cases hb with
      | view hw => exact windowClash?_eq_none hw (.text t)
      | _ => rfl
  | view hw =>
      rw [clash?]
      exact windowClash?_eq_none hw hb
  | tuple h ih =>
      rw [clash?]
      generalize b.bare = c at hb
      cases hb with
      | tuple h' =>
          exact clashAll?_eq_none fun x hx y hy =>
            clash?_of_bare (ih x hx (h' y hy))
      | _ => rfl
  | list h ih =>
      rw [clash?]
      generalize b.bare = c at hb
      cases hb with
      | list h' =>
          have hall := clashAll?_eq_none fun x hx y hy =>
            clash?_of_bare (ih x hx (h' y hy))
          simp only [hall, ite_self]
      | _ => rfl
  | success _ hrest hvalue ihr ihv =>
      rw [clash?]
      generalize b.bare = c at hb
      cases hb with
      | success _ hrest' hvalue' =>
          simp only [clash?_of_bare (ihr hrest'),
            clash?_of_bare (ihv hvalue'), andThen_none]
      | _ => rfl
  | failure _ hrest ihr =>
      rw [clash?]
      generalize b.bare = c at hb
      cases hb with
      | failure _ hrest' => exact clash?_of_bare (ihr hrest')
      | _ => rfl
  | element hn has hcs ihn ihas ihcs =>
      rw [clash?]
      generalize b.bare = c at hb
      cases hb with
      | element hn' has' hcs' =>
          simp only [clash?_of_bare (ihn hn'), clash?_of_bare (ihas has'),
            clash?_of_bare (ihcs hcs'), unlessSame_none, andThen_none]
      | _ => rfl
  | _ => simp [clash?]

theorem clash?_eq_none (ha : a.IsData) (hb : b.IsData) :
    a.clash? b = .none :=
  clash?_of_bare (Datum.clash?_eq_none ha hb)

/-- A comparison of data is made, and finds whether they are equal. -/
theorem compare_of_isData (ha : a.IsData) (hb : b.IsData) :
    a.compare b = .ok (a.beq b) := by
  unfold compare
  rw [clash?_eq_none ha hb]

end ParserKit.Value
