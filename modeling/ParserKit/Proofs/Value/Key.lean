/-
Keys of data, and what a table makes of them.

A table finds a value by its key before it compares anything. That it finds
what it should comes down to three facts about data. A comparison of data
is always made; equal data have equal keys, or none for the same reason
(`hashKey_eq_of_beq`), because a key depends only on the normal form
(`hashKey_normal`); and equality is transitive, so that a value which is
equal to an entry is equal to all that the entry stands for.

# What has no key

A list, a dictionary and an element can change. So can a tuple that has one
of them as an item, and a success that has one as its value
(`HoldsChangeable`). The rest of an outcome is a view, and never in the way.

# The table

`Files` is what a table is to the values that were filed in it: each value is
found under the number of the first of them that is equal to it. Filing one
more value keeps it so, whether the value was found (`Files.found`) or became
an entry (`Files.add`).
-/
import ParserKit.Proofs.Value.Normal
import ParserKit.Value.Hash

namespace ParserKit

namespace HashKey

mutual

/-- Hashes are the same exactly if the keys are. -/
theorem beq_iff : ∀ k l : HashKey, k.beq l = true ↔ k = l
  | .number m, l => by cases l <;> simp [beq]
  | .stored x, l => by cases l <;> simp [beq]
  | .nothing, l => by cases l <;> simp [beq]
  | .object i, l => by cases l <;> simp [beq]
  | .error i, l => by cases l <;> simp [beq]
  | .tuple xs, l => by cases l <;> simp [beq, beqAll_iff xs]

theorem beqAll_iff : ∀ xs ys : List HashKey,
    beqAll xs ys = true ↔ xs = ys
  | [], ys => by cases ys <;> simp [beqAll]
  | x :: xs, ys => by
      cases ys <;> simp [beqAll, beq_iff x, beqAll_iff xs]

end

end HashKey

namespace Value

variable {a b u v w : Value} {us vs xs : List Value} {key : HashKey}
  {table : Table} {i : Nat}

-- ========================================================= keys of equals

theorem hashKey_bare (v : Value) : v.bare.hashKey = v.hashKey :=
  apply_bare hashKey (fun _ _ => by rw [hashKey]) v

theorem hashKeys_normalAll (h : ∀ x ∈ xs, x.normal.hashKey = x.hashKey) :
    hashKeys (normalAll xs) = hashKeys xs := by
  induction xs with
  | nil => rw [normalAll]
  | cons x xs ih =>
      obtain ⟨hx, hxs⟩ := List.forall_mem_cons.1 h
      rw [normalAll, hashKeys, hashKeys, hx, ih hxs]

theorem hashKey_normal_of_bare
    (h : v.bare.normal.hashKey = v.bare.hashKey) :
    v.normal.hashKey = v.hashKey :=
  apply_of_bare normal_bare hashKey_bare h

/-- The key of a datum is that of its normal form. -/
theorem Datum.hashKey_normal (h : v.Datum) :
    v.normal.hashKey = v.hashKey := by
  induction h with
  | tuple _ ih =>
      rw [normal, hashKey, hashKey, hashKeys_normalAll fun x hx =>
        hashKey_normal_of_bare (ih x hx)]
  | view hw =>
      rw [normal, hashKey, hashKey, Window.text_of_text hw]
      rfl
  | success _ _ _ ihr ihv =>
      rw [normal, hashKey, hashKey, hashKey_normal_of_bare ihr,
        hashKey_normal_of_bare ihv]
  | failure _ _ ihr =>
      rw [normal, hashKey, hashKey, hashKey_normal_of_bare ihr]
  | _ => rfl

theorem hashKey_normal (h : v.IsData) : v.normal.hashKey = v.hashKey :=
  hashKey_normal_of_bare (Datum.hashKey_normal h)

/-- Equal data have the same key, or no key for the same reason. -/
theorem hashKey_eq_of_beq (ha : a.IsData) (hb : b.IsData)
    (hab : a.beq b = true) : a.hashKey = b.hashKey := by
  rw [← hashKey_normal ha, ← hashKey_normal hb, (beq_iff ha hb).1 hab]

-- ====================================================== what has no key

/-- A list, a dictionary or an element is reached through items of tuples and
values of successes. -/
inductive HoldsChangeable : Value → Prop
  | dictionary : HoldsChangeable .dictionary
  | list (items : List Value) : HoldsChangeable (.list items)
  | element (name attributes children : Value) :
      HoldsChangeable (.element name attributes children)
  | tuple {items : List Value} {x : Value} (hx : x ∈ items)
      (h : HoldsChangeable x) : HoldsChangeable (.tuple items)
  | success (rest : Value) {value : Value} (h : HoldsChangeable value) :
      HoldsChangeable (.success rest value)
  | known (id : Identity) {v : Value} (h : HoldsChangeable v) :
      HoldsChangeable (.known id v)

theorem holdsChangeable_bare_iff :
    v.bare.HoldsChangeable ↔ v.HoldsChangeable := by
  fun_induction bare v with
  | case1 id v ih =>
      rw [ih]
      constructor
      · exact HoldsChangeable.known id
      · intro h
        cases h with
        | known _ h => exact h
  | case2 v _ => rfl

/-- What the value holds decides about its key: it has one if it holds nothing
that can change, and otherwise is refused one. -/
def KeyDecided (v : Value) : Prop :=
  (¬ v.HoldsChangeable ∧ ∃ key, v.hashKey = .ok key) ∨
    v.HoldsChangeable ∧ ∃ kind, v.hashKey = .error (.unhashable kind)

theorem KeyDecided.of_bare (h : v.bare.KeyDecided) : v.KeyDecided := by
  unfold KeyDecided at h
  rwa [holdsChangeable_bare_iff, hashKey_bare] at h

/-- The first item without a key is the one that is reported. -/
theorem hashKeys_cases (h : ∀ x ∈ xs, x.KeyDecided) :
    ((∀ x ∈ xs, ¬ x.HoldsChangeable) ∧ ∃ keys, hashKeys xs = .ok keys) ∨
      (∃ x ∈ xs, x.HoldsChangeable) ∧
        ∃ kind, hashKeys xs = .error (.unhashable kind) := by
  induction xs with
  | nil => exact Or.inl ⟨List.forall_mem_nil _, [], by rw [hashKeys]⟩
  | cons x xs ih =>
      obtain ⟨hx, hxs⟩ := List.forall_mem_cons.1 h
      rcases hx with ⟨hnot, key, hkey⟩ | ⟨hholds, kind, hkey⟩
      · rcases ih hxs with ⟨hnone, keys, hkeys⟩ | ⟨hsome, kind, hkeys⟩
        · refine Or.inl ⟨List.forall_mem_cons.2 ⟨hnot, hnone⟩, key :: keys,
            ?_⟩
          rw [hashKeys, hkey, hkeys]
        · obtain ⟨y, hy, hholds⟩ := hsome
          refine Or.inr ⟨⟨y, List.mem_cons_of_mem _ hy, hholds⟩, kind, ?_⟩
          rw [hashKeys, hkey, hkeys]
      · refine Or.inr ⟨⟨x, List.mem_cons_self .., hholds⟩, kind, ?_⟩
        rw [hashKeys, hkey]

/-- What an outcome goes on at has a key. -/
theorem exists_hashKey_of_view (hkind : v.kind = .view) (h : v.IsData) :
    ∃ key, v.hashKey = .ok key := by
  obtain ⟨w, hw, hbare⟩ := exists_bare_of_view hkind h
  rw [← hashKey_bare, hbare, hashKey, Window.text_of_text hw]
  exact ⟨_, rfl⟩

theorem Datum.keyDecided (h : v.Datum) : v.KeyDecided := by
  induction h with
  | tuple _ ih =>
      rcases hashKeys_cases fun x hx => (ih x hx).of_bare with
        ⟨hnone, keys, hkeys⟩ | ⟨hsome, kind, hkeys⟩
      · refine Or.inl ⟨fun h => ?_, .tuple keys, by rw [hashKey, hkeys]⟩
        cases h with
        | tuple hx h => exact hnone _ hx h
      · obtain ⟨x, hx, hholds⟩ := hsome
        exact Or.inr ⟨.tuple hx hholds, kind, by rw [hashKey, hkeys]⟩
  | list _ => exact Or.inr ⟨.list _, .list, by rw [hashKey]⟩
  | dictionary => exact Or.inr ⟨.dictionary, .dictionary, by rw [hashKey]⟩
  | element _ _ _ =>
      exact Or.inr ⟨.element _ _ _, .element, by rw [hashKey]⟩
  | view hw =>
      refine Or.inl ⟨nofun, ?_⟩
      rw [hashKey, Window.text_of_text hw]
      exact ⟨_, rfl⟩
  | success hkind hrest _ _ ihv =>
      obtain ⟨k, hk⟩ := exists_hashKey_of_view hkind hrest
      rcases ihv.of_bare with ⟨hnot, key, hkey⟩ | ⟨hholds, kind, hkey⟩
      · refine Or.inl ⟨fun h => ?_, .tuple [k, key], by
          rw [hashKey, hk, hkey]⟩
        cases h with
        | success _ h => exact hnot h
      · exact Or.inr ⟨.success _ hholds, kind, by rw [hashKey, hk, hkey]⟩
  | failure hkind hrest _ =>
      obtain ⟨k, hk⟩ := exists_hashKey_of_view hkind hrest
      exact Or.inl ⟨nofun, _, by rw [hashKey, hk]⟩
  | _ => exact Or.inl ⟨nofun, _, by rw [hashKey]⟩

/-- Data have a key unless they hold something that can change. -/
theorem keyDecided_of_isData (h : v.IsData) : v.KeyDecided :=
  (Datum.keyDecided h).of_bare

theorem exists_hashKey_error_iff (h : v.IsData) :
    (∃ e, v.hashKey = .error e) ↔ v.HoldsChangeable := by
  rcases keyDecided_of_isData h with ⟨hnot, key, hkey⟩ | ⟨hholds, kind, hkey⟩
  · refine iff_of_false (fun hraised => ?_) hnot
    obtain ⟨e, he⟩ := hraised
    cases hkey.symm.trans he
  · exact iff_of_true ⟨_, hkey⟩ hholds

theorem key_or_refused_of_beq (ha : a.IsData) (hb : b.IsData)
    (hab : a.beq b = true) :
    (∃ key, a.hashKey = .ok key ∧ b.hashKey = .ok key) ∨
      ∃ kind, a.hashKey = .error (.unhashable kind) ∧
        b.hashKey = .error (.unhashable kind) := by
  rw [← hashKey_eq_of_beq ha hb hab]
  rcases keyDecided_of_isData ha with ⟨-, key, hkey⟩ | ⟨-, kind, hkey⟩
  · exact Or.inl ⟨key, hkey, hkey⟩
  · exact Or.inr ⟨kind, hkey, hkey⟩

-- ============================================================ the table

/-- The table finds each value that has a key under the number of the first
of the values that is equal to it. -/
def Table.Files (table : Table) (us : List Value) : Prop :=
  ∀ v key, v.IsData → v.hashKey = .ok key →
    table.numberOf? key v = .ok (us.findIdx? (·.beq v))

theorem Table.files_nil : Table.Files [] [] := by
  intro v key _ _
  rfl

/-- A value that was found changes nothing, for whatever is equal to it is
equal to what was found. -/
theorem Table.Files.found (h : table.Files us) (hus : ∀ u ∈ us, u.IsData)
    (hv : v.IsData) (hfound : us.findIdx? (·.beq v) = some i) :
    table.Files (us ++ [v]) := by
  intro w key hw hkey
  rw [h w key hw hkey, List.findIdx?_append, List.findIdx?_singleton]
  by_cases hvw : v.beq w = true
  · -- What `v` was found as is found for `w` too.
    have hsome : (us.findIdx? (·.beq w)).isSome = true := by
      have hany : (us.findIdx? (·.beq v)).isSome = true := by
        rw [hfound]; rfl
      rw [List.findIdx?_isSome, List.any_eq_true] at hany ⊢
      obtain ⟨u, hu, huv⟩ := hany
      exact ⟨u, hu, beq_trans (hus u hu) hv hw huv hvw⟩
    obtain ⟨j, hj⟩ := Option.isSome_iff_exists.1 hsome
    rw [hj]
    rfl
  · rw [if_neg hvw]
    simp

/-- Entries are looked at in order. -/
theorem Table.numberOf?_append {o : Option Nat} (entries : Table)
    (h : table.numberOf? key v = .ok o) :
    Table.numberOf? key v (table ++ entries) =
      o.elim (entries.numberOf? key v) fun i => .ok (some i) := by
  induction table with
  | nil =>
      cases h
      rfl
  | cons entry table ih =>
      obtain ⟨k, u, n⟩ := entry
      rw [List.cons_append, numberOf?]
      rw [numberOf?] at h
      split at h
      case isFalse hk =>
        rw [if_neg hk]
        exact ih h
      case isTrue hk =>
        rw [if_pos hk]
        rcases hc : u.compare v with e | _ | _
        · rw [hc] at h
          cases h
        · rw [hc] at h
          exact ih h
        · rw [hc] at h
          cases h
          rfl

/-- An entry is what is looked for if it is equal to it, since then it has
the same key. -/
theorem Table.numberOf?_singleton {k : HashKey} (n : Nat) (hu : u.IsData)
    (hv : v.IsData) (hk : u.hashKey = .ok k) (hkey : v.hashKey = .ok key) :
    Table.numberOf? key v [(k, u, n)] =
      .ok (if u.beq v = true then some n else .none) := by
  rw [numberOf?, compare_of_isData hu hv]
  by_cases huv : u.beq v = true
  · have hsame : k = key := by
      rw [hashKey_eq_of_beq hu hv huv, hkey] at hk
      exact (Except.ok.inj hk).symm
    rw [if_pos ((HashKey.beq_iff k key).2 hsame), huv]
    rfl
  · rw [Bool.eq_false_iff.2 huv]
    exact ite_self _

/-- A value that was not found is filed under the next number. -/
theorem Table.Files.add (h : table.Files us) (hv : v.IsData)
    (hkey : v.hashKey = .ok key) :
    Table.Files (table ++ [(key, v, us.length)]) (us ++ [v]) := by
  intro w key' hw hkey'
  rw [Table.numberOf?_append _ (h w key' hw hkey'), List.findIdx?_append,
    List.findIdx?_singleton]
  cases us.findIdx? (·.beq w) with
  | some i => rfl
  | none =>
      show Table.numberOf? key' w _ = _
      rw [Table.numberOf?_singleton _ hv hw hkey hkey']
      split
      · simp
      · rfl

/-- Going on from a table that files the values before, each value is
numbered by the first of all that is equal to it. -/
theorem groupFrom_eq (h : table.Files us) (hus : ∀ u ∈ us, u.IsData)
    (hvs : ∀ v ∈ vs, v.IsData ∧ ∃ key, v.hashKey = .ok key) :
    groupFrom table us.length vs =
      .ok (vs.map fun v => (us ++ vs).findIdx (·.beq v)) := by
  induction vs generalizing table us with
  | nil => rfl
  | cons v vs ih =>
      obtain ⟨⟨hv, key, hkey⟩, hvs⟩ := List.forall_mem_cons.1 hvs
      have hall : ∀ u ∈ us ++ [v], u.IsData :=
        List.forall_mem_append.2 ⟨hus, List.forall_mem_singleton.2 hv⟩
      have hnext : us.length + 1 = (us ++ [v]).length := by simp
      rw [groupFrom, hkey]
      dsimp only
      rw [h v key hv hkey, hnext, List.map_cons, List.append_cons us v vs]
      -- The first that is equal to `v` is `v` itself, or comes before it.
      have hfirst : (us ++ [v] ++ vs).findIdx? (·.beq v) =
          some ((us.findIdx? (·.beq v)).getD us.length) := by
        rw [List.findIdx?_append, List.findIdx?_append,
          List.findIdx?_singleton, if_pos (beq_refl hv)]
        cases us.findIdx? (·.beq v) with
        | some i => rfl
        | none => simp
      rw [(List.findIdx?_eq_some_iff_findIdx_eq.1 hfirst).2]
      cases hfound : us.findIdx? (·.beq v) with
      | some i =>
          dsimp only
          rw [ih (h.found hus hv hfound) hall hvs]
          rfl
      | none =>
          dsimp only
          rw [ih (h.add hv hkey) hall hvs]
          rfl

/-- Grouping values that have keys numbers each of them by the first that is
equal to it. -/
theorem groupFirst_eq
    (hvs : ∀ v ∈ vs, v.IsData ∧ ∃ key, v.hashKey = .ok key) :
    groupFirst vs = .ok (vs.map fun v => vs.findIdx (·.beq v)) :=
  groupFrom_eq Table.files_nil (List.forall_mem_nil _) hvs

end Value

end ParserKit
