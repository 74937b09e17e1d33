/-
What a value is known by does not show.

Parts of a value may be known as things, and what they are known by is no part
of what the value is. So a value with no such marks (`Value.unmarked`) is data
if the value is (`isData_of_unmarked`), has the same normal form
(`normal_unmarked`), and looks the same in print (`render_unmarked`). Data can
always be printed (`printFault?_of_isData`) and shown
(`displayFault?_of_isData`).
-/
import ParserKit.Proofs.Value.Normal
import ParserKit.Proofs.Window.Preview

namespace ParserKit.Value

variable {v : Value} {xs : List Value}

-- ================================================================== the top

theorem unmarked_bare (v : Value) : v.bare.unmarked = v.unmarked :=
  apply_bare unmarked (fun _ _ => by rw [unmarked]) v

/-- Without marks, nothing is known. -/
theorem bare_unmarked (v : Value) : v.unmarked.bare = v.unmarked := by
  rw [← unmarked_bare]
  fun_induction bare v with
  | case1 id v ih => exact ih
  | case2 v h =>
      cases v with
      | known id v => exact absurd rfl (h id v)
      | _ => rfl

theorem kind_unmarked (v : Value) : v.unmarked.kind = v.kind := by
  rw [← unmarked_bare, ← kind_bare v]
  fun_induction bare v with
  | case1 id v ih => exact ih
  | case2 v h =>
      cases v with
      | known id v => exact absurd rfl (h id v)
      | _ => rfl

theorem unmarkedAll_eq_map (xs : List Value) :
    unmarkedAll xs = xs.map unmarked := by
  induction xs with
  | nil => rw [unmarkedAll, List.map_nil]
  | cons x xs ih => rw [unmarkedAll, ih, List.map_cons]

/-- What does not depend on the marks of items is the same without them. -/
theorem map_unmarkedAll {α : Type} {f : Value → α}
    (h : ∀ x ∈ xs, f x.unmarked = f x) : (unmarkedAll xs).map f = xs.map f := by
  rw [unmarkedAll_eq_map, List.map_map]
  exact List.map_congr_left h

-- ==================================================================== data

mutual

/-- A value is data if it is without its marks. -/
theorem isData_of_unmarked : ∀ v : Value, v.unmarked.Datum → v.IsData
  | .known _ v, h => by
      rw [unmarked] at h
      exact isData_of_unmarked v h
  | .tuple items, h => by
      rw [unmarked] at h
      cases h with
      | tuple h => exact Datum.tuple (all_isData_of_unmarked items h)
  | .list items, h => by
      rw [unmarked] at h
      cases h with
      | list h => exact Datum.list (all_isData_of_unmarked items h)
  | .success rest value, h => by
      rw [unmarked] at h
      cases h with
      | success hkind hrest hvalue =>
          rw [bare_unmarked] at hrest hvalue
          rw [kind_unmarked] at hkind
          exact Datum.success hkind (isData_of_unmarked rest hrest)
            (isData_of_unmarked value hvalue)
  | .failure rest, h => by
      rw [unmarked] at h
      cases h with
      | failure hkind hrest =>
          rw [bare_unmarked] at hrest
          rw [kind_unmarked] at hkind
          exact Datum.failure hkind (isData_of_unmarked rest hrest)
  | .element name attributes children, h => by
      rw [unmarked] at h
      cases h with
      | element hn has hcs =>
          rw [bare_unmarked] at hn has hcs
          exact Datum.element (isData_of_unmarked name hn)
            (isData_of_unmarked attributes has)
            (isData_of_unmarked children hcs)
  | .slice _ _ _, h => by
      rw [unmarked] at h
      cases h
  | .parser _ _, h => by
      rw [unmarked] at h
      cases h
  | .none, h => h
  | .bool _, h => h
  | .int _, h => h
  | .text _, h => h
  | .bytes _, h => h
  | .dictionary, h => h
  | .cell _, h => h
  | .view _, h => h
  | .error _ _, h => h
  | .object _, h => h

theorem all_isData_of_unmarked : ∀ xs : List Value,
    (∀ x ∈ unmarkedAll xs, x.bare.Datum) → ∀ x ∈ xs, x.IsData
  | [], _ => List.forall_mem_nil _
  | x :: xs, h => by
      rw [unmarkedAll] at h
      obtain ⟨hx, hxs⟩ := List.forall_mem_cons.1 h
      rw [bare_unmarked] at hx
      exact List.forall_mem_cons.2
        ⟨isData_of_unmarked x hx, all_isData_of_unmarked xs hxs⟩

end

-- ============================================================= normal forms

theorem normalAll_eq_map (xs : List Value) : normalAll xs = xs.map normal := by
  induction xs with
  | nil => rw [normalAll, List.map_nil]
  | cons x xs ih => rw [normalAll, ih, List.map_cons]

theorem normalAll_unmarkedAll
    (h : ∀ x ∈ xs, x.unmarked.normal = x.normal) :
    normalAll (unmarkedAll xs) = normalAll xs := by
  rw [normalAll_eq_map, map_unmarkedAll h, normalAll_eq_map]

theorem normal_unmarked_of_bare
    (h : v.bare.unmarked.normal = v.bare.normal) :
    v.unmarked.normal = v.normal :=
  apply_of_bare unmarked_bare normal_bare h

theorem Datum.normal_unmarked (h : v.Datum) : v.unmarked.normal = v.normal := by
  induction h with
  | tuple _ ih =>
      rw [unmarked, normal, normal, normalAll_unmarkedAll fun x hx =>
        normal_unmarked_of_bare (ih x hx)]
  | list _ ih =>
      rw [unmarked, normal, normal, normalAll_unmarkedAll fun x hx =>
        normal_unmarked_of_bare (ih x hx)]
  | success _ _ _ ihr ihv =>
      rw [unmarked, normal, normal, normal_unmarked_of_bare ihr,
        normal_unmarked_of_bare ihv]
  | failure _ _ ihr =>
      rw [unmarked, normal, normal, normal_unmarked_of_bare ihr]
  | element _ _ _ ihn ihas ihcs =>
      rw [unmarked, normal, normal, normal_unmarked_of_bare ihn,
        normal_unmarked_of_bare ihas, normal_unmarked_of_bare ihcs]
  | _ => rfl

/-- The normal form of data is that of what is left without marks. -/
theorem normal_unmarked (h : v.IsData) : v.unmarked.normal = v.normal :=
  normal_unmarked_of_bare (Datum.normal_unmarked h)

-- ================================================================= in print

theorem render_bare (v : Value) : v.bare.render = v.render :=
  apply_bare render (fun _ _ => rfl) v

theorem renderAll_eq_map (xs : List Value) : renderAll xs = xs.map render := by
  induction xs with
  | nil => rfl
  | cons x xs ih =>
      show x.render :: renderAll xs = _
      rw [ih, List.map_cons]

theorem renderAll_unmarkedAll
    (h : ∀ x ∈ xs, x.unmarked.render = x.render) :
    renderAll (unmarkedAll xs) = renderAll xs := by
  rw [renderAll_eq_map, map_unmarkedAll h, renderAll_eq_map]

theorem render_unmarked_of_bare
    (h : v.bare.unmarked.render = v.bare.render) :
    v.unmarked.render = v.render :=
  apply_of_bare unmarked_bare render_bare h

/-- A tuple in print, given its items in print. -/
def tupled : List Text → Text
  | [t] => '(' :: t ++ [',', ')']
  | ts => '(' :: joined comma ts ++ [')']

theorem render_tuple (items : List Value) :
    (tuple items).render = tupled (renderAll items) := by
  match items with
  | [] => rfl
  | [x] => rfl
  | x :: y :: xs => rfl

theorem previewOr_of_bare {w : Window} (h : v.bare = view w) (s : Text) :
    v.previewOr s = w.view.preview := by
  rw [← apply_bare (previewOr s) (fun _ _ => rfl) v, h]
  rfl

theorem previewOr_unmarked (hkind : v.kind = .view) (h : v.bare.Datum)
    (s s' : Text) : v.unmarked.previewOr s = v.previewOr s' := by
  obtain ⟨w, -, hw⟩ := exists_bare_of_view hkind h
  rw [previewOr_of_bare hw, ← unmarked_bare, hw]
  rfl

theorem Datum.render_unmarked (h : v.Datum) : v.unmarked.render = v.render := by
  induction h with
  | tuple _ ih =>
      rw [unmarked, render_tuple, render_tuple, renderAll_unmarkedAll fun x hx =>
        render_unmarked_of_bare (ih x hx)]
  | @list items _ ih =>
      show '[' :: joined comma (renderAll (unmarkedAll items)) ++ [']'] = _
      rw [renderAll_unmarkedAll fun x hx => render_unmarked_of_bare (ih x hx)]
      rfl
  | @success rest value hkind hrest _ _ ihv =>
      show "<Success ".toList ++ rest.unmarked.previewOr rest.unmarked.render ++
        [' ', '\x7b'] ++ value.unmarked.render ++ ['\x7d', '>'] = _
      rw [previewOr_unmarked hkind hrest _ rest.render,
        render_unmarked_of_bare ihv]
      rfl
  | @failure rest hkind hrest _ =>
      show "<Failure ".toList ++ rest.unmarked.previewOr rest.unmarked.render ++
        ['>'] = _
      rw [previewOr_unmarked hkind hrest _ rest.render]
      rfl
  | @element name attributes children _ _ _ ihn ihas ihcs =>
      show "Element(name=".toList ++ name.unmarked.render ++
        ", attributes=".toList ++ attributes.unmarked.render ++
        ", children=".toList ++ children.unmarked.render ++ [')'] = _
      rw [render_unmarked_of_bare ihn, render_unmarked_of_bare ihas,
        render_unmarked_of_bare ihcs]
      rfl
  | _ => rfl

/-- What data are known by does not show in print. -/
theorem render_unmarked (h : v.IsData) : v.unmarked.render = v.render :=
  render_unmarked_of_bare (Datum.render_unmarked h)

-- =============================================================== obstacles

theorem printFault?_bare (v : Value) : v.bare.printFault? = v.printFault? :=
  apply_bare printFault? (fun _ _ => rfl) v

theorem printFaultAll?_eq_none (h : ∀ x ∈ xs, x.printFault? = .none) :
    printFaultAll? xs = .none := by
  induction xs with
  | nil => rfl
  | cons x xs ih =>
      obtain ⟨hx, hxs⟩ := List.forall_mem_cons.1 h
      show (x.printFault? <|> printFaultAll? xs) = _
      rw [hx, ih hxs]
      rfl

theorem previewFaultOr_eq_none (hkind : v.kind = .view) (h : v.bare.Datum)
    (printed : Option Fault) : v.previewFaultOr printed = .none := by
  obtain ⟨w, hw, hbare⟩ := exists_bare_of_view hkind h
  rw [← apply_bare (previewFaultOr printed) (fun _ _ => rfl) v, hbare]
  exact Window.previewFault?_of_text_eq (Window.text_of_text hw)

theorem Datum.printFault?_eq_none (h : v.Datum) : v.printFault? = .none := by
  have hbare : ∀ {x : Value}, x.bare.printFault? = .none →
      x.printFault? = .none := fun h => printFault?_bare _ ▸ h
  induction h with
  | tuple _ ih => exact printFaultAll?_eq_none fun x hx => hbare (ih x hx)
  | list _ ih => exact printFaultAll?_eq_none fun x hx => hbare (ih x hx)
  | view hw => exact Window.previewFault?_of_text_eq (Window.text_of_text hw)
  | @success rest value hkind hrest _ _ ihv =>
      show (rest.previewFaultOr _ <|> value.printFault?) = _
      rw [previewFaultOr_eq_none hkind hrest, hbare ihv]
      rfl
  | failure hkind hrest _ => exact previewFaultOr_eq_none hkind hrest _
  | @element name attributes children _ _ _ ihn ihas ihcs =>
      show (name.printFault? <|> attributes.printFault? <|>
        children.printFault?) = _
      rw [hbare ihn, hbare ihas, hbare ihcs]
      rfl
  | _ => rfl

/-- Data can be printed. -/
theorem printFault?_of_isData (h : v.IsData) : v.printFault? = .none :=
  printFault?_bare v ▸ Datum.printFault?_eq_none h

theorem displayFault?_bare (v : Value) :
    v.bare.displayFault? = v.displayFault? :=
  apply_bare displayFault? (fun _ _ => rfl) v

theorem displayFaultAll?_eq_none (h : ∀ x ∈ xs, x.displayFault? = .none) :
    displayFaultAll? xs = .none := by
  induction xs with
  | nil => rfl
  | cons x xs ih =>
      obtain ⟨hx, hxs⟩ := List.forall_mem_cons.1 h
      show (x.displayFault? <|> displayFaultAll? xs) = _
      rw [hx, ih hxs]
      rfl

theorem Datum.displayFault?_eq_none (h : v.Datum) :
    v.displayFault? = .none := by
  have hbare : ∀ {x : Value}, x.bare.displayFault? = .none →
      x.displayFault? = .none := fun h => displayFault?_bare _ ▸ h
  induction h with
  | tuple _ ih => exact displayFaultAll?_eq_none fun x hx => hbare (ih x hx)
  | list _ ih => exact displayFaultAll?_eq_none fun x hx => hbare (ih x hx)
  | view hw => exact Window.textFault?_of_text_eq (Window.text_of_text hw)
  | @success rest value _ _ _ ihr ihv =>
      show (value.displayFault? <|> rest.displayFault?) = _
      rw [hbare ihv, hbare ihr]
      rfl
  | @failure rest _ _ ihr =>
      show rest.displayFault? = _
      exact hbare ihr
  | @element name attributes children _ _ _ ihn ihas ihcs =>
      show (name.displayFault? <|> attributes.displayFault? <|>
        children.displayFault?) = _
      rw [hbare ihn, hbare ihas, hbare ihcs]
      rfl
  | _ => rfl

/-- And it can be shown part by part. -/
theorem displayFault?_of_isData (h : v.IsData) : v.displayFault? = .none :=
  displayFault?_bare v ▸ Datum.displayFault?_eq_none h

end ParserKit.Value
