import Mathlib.Data.List.Nodup

/-!
Keyed tables: the rows of a relation with a primary key, in insertion order.

`Table κ ρ` carries the uniqueness of its keys as a field, so two rows with one
key cannot be built. The three writes are those of SQL: `insertNew` is
`INSERT .. ON CONFLICT (key) DO NOTHING`, `upsert` is
`INSERT .. ON CONFLICT (key) DO UPDATE`, `modify` is `UPDATE .. WHERE key = k`.
Each comes with what it does to `get?` at the written key and elsewhere; later
proofs read tables through these lemmas and never through the row list, except
where the order of insertion is itself the subject (`insertNew_rows`). `Storable`
says which texts a column takes.
-/

namespace Lib

/-- A text without U+0000, which a `text` or `jsonb` value cannot hold. -/
def Storable (text : String) : Prop := '\x00' ∉ text.toList

instance (text : String) : Decidable (Storable text) :=
  inferInstanceAs (Decidable (_ ∉ text.toList))

structure Table (κ ρ : Type) where
  rows : List (κ × ρ)
  keys_nodup : (rows.map Prod.fst).Nodup
deriving DecidableEq

namespace Table

variable {κ ρ : Type} [DecidableEq κ]

def empty : Table κ ρ := ⟨[], List.nodup_nil⟩

omit [DecidableEq κ] in
theorem ext_rows {t t' : Table κ ρ} (rows : t.rows = t'.rows) : t = t' := by
  cases t
  cases t'
  cases rows
  rfl

/-- The row at a key. -/
def get? (t : Table κ ρ) (k : κ) : Option ρ := t.rows.lookup k

def keys (t : Table κ ρ) : List κ := t.rows.map Prod.fst

/-- The row values, in insertion order. -/
def values (t : Table κ ρ) : List ρ := t.rows.map Prod.snd

@[simp] theorem get?_empty (k : κ) : (empty : Table κ ρ).get? k = none := rfl

omit [DecidableEq κ] in
@[simp] theorem values_empty : (empty : Table κ ρ).values = [] := rfl

theorem lookup_eq_none_iff {rows : List (κ × ρ)} {k : κ} :
    rows.lookup k = none ↔ k ∉ rows.map Prod.fst := by
  induction rows with
  | nil => simp
  | cons row rows ih =>
      obtain ⟨k', r⟩ := row
      by_cases same : k = k'
      · subst same
        simp
      · simp [List.lookup_cons, beq_eq_false_iff_ne.mpr same, same, ih]

theorem get?_eq_none_iff {t : Table κ ρ} {k : κ} : t.get? k = none ↔ k ∉ t.keys :=
  lookup_eq_none_iff

theorem isSome_get?_iff {t : Table κ ρ} {k : κ} : (t.get? k).isSome ↔ k ∈ t.keys := by
  rw [← not_iff_not, ← get?_eq_none_iff, Option.not_isSome_iff_eq_none]

theorem lookup_eq_some_iff {rows : List (κ × ρ)} (nodup : (rows.map Prod.fst).Nodup)
    {k : κ} {r : ρ} : rows.lookup k = some r ↔ (k, r) ∈ rows := by
  induction rows with
  | nil => simp
  | cons row rows ih =>
      obtain ⟨k', r'⟩ := row
      simp only [List.map_cons, List.nodup_cons] at nodup
      by_cases same : k = k'
      · subst same
        have absent : (k, r) ∉ rows := fun mem => nodup.1 (List.mem_map_of_mem mem)
        simp [absent, eq_comm]
      · simp [List.lookup_cons, beq_eq_false_iff_ne.mpr same, same, ih nodup.2]

theorem get?_eq_some_iff {t : Table κ ρ} {k : κ} {r : ρ} :
    t.get? k = some r ↔ (k, r) ∈ t.rows :=
  lookup_eq_some_iff t.keys_nodup

theorem mem_values_iff {t : Table κ ρ} {r : ρ} : r ∈ t.values ↔ ∃ k, t.get? k = some r := by
  simp [values, get?_eq_some_iff]

/-! ### `INSERT .. ON CONFLICT DO NOTHING` -/

/-- Append a row unless its key is taken. -/
def insertNew (t : Table κ ρ) (k : κ) (r : ρ) : Table κ ρ :=
  if h : t.get? k = none then
    ⟨t.rows ++ [(k, r)], by
      have absent := get?_eq_none_iff.mp h
      simpa [List.nodup_append, keys] using ⟨t.keys_nodup, fun a b mem eq => by
        subst eq
        exact absent (List.mem_map_of_mem mem)⟩⟩
  else t

theorem insertNew_of_some {t : Table κ ρ} {k : κ} {r r' : ρ} (present : t.get? k = some r') :
    t.insertNew k r = t := by
  simp [insertNew, present]

/-- An insertion of a free key is an append. -/
theorem insertNew_rows {t : Table κ ρ} {k : κ} {r : ρ} (free : t.get? k = none) :
    (t.insertNew k r).rows = t.rows ++ [(k, r)] := by
  simp [insertNew, free]

theorem mem_keys_insertNew {t : Table κ ρ} {k k' : κ} {r : ρ}
    (mem : k' ∈ (t.insertNew k r).keys) : k' ∈ t.keys ∨ k' = k := by
  cases held : t.get? k with
  | some old =>
      rw [insertNew_of_some held] at mem
      exact .inl mem
  | none =>
      unfold keys at mem
      rw [insertNew_rows held, List.map_append] at mem
      simpa [keys] using mem

theorem insertNew_values {t : Table κ ρ} {k : κ} {r : ρ} (free : t.get? k = none) :
    (t.insertNew k r).values = t.values ++ [r] := by
  simp [values, insertNew_rows free]

theorem get?_insertNew_self_of_none {t : Table κ ρ} {k : κ} {r : ρ} (free : t.get? k = none) :
    (t.insertNew k r).get? k = some r := by
  rw [get?_eq_some_iff, insertNew_rows free]
  simp

theorem get?_insertNew_of_some {t : Table κ ρ} {k k' : κ} {r r' : ρ}
    (present : t.get? k' = some r') : (t.insertNew k r).get? k' = some r' := by
  by_cases free : t.get? k = none
  · rw [get?_eq_some_iff, insertNew_rows free]
    exact List.mem_append_left _ (get?_eq_some_iff.mp present)
  · obtain ⟨old, taken⟩ := Option.ne_none_iff_exists'.mp free
    rw [insertNew_of_some taken]
    exact present

theorem get?_insertNew_ne {t : Table κ ρ} {k k' : κ} {r : ρ} (other : k' ≠ k) :
    (t.insertNew k r).get? k' = t.get? k' := by
  by_cases free : t.get? k = none
  · apply Option.ext
    intro r'
    rw [get?_eq_some_iff, get?_eq_some_iff, insertNew_rows free]
    simp [other]
  · obtain ⟨old, taken⟩ := Option.ne_none_iff_exists'.mp free
    rw [insertNew_of_some taken]

/-- A row after an insertion was there before or is the one inserted. -/
theorem get?_insertNew_eq_some {t : Table κ ρ} {k k' : κ} {r r' : ρ}
    (held : (t.insertNew k r).get? k' = some r') : t.get? k' = some r' ∨ (k' = k ∧ r' = r) := by
  by_cases same : k' = k
  · subst same
    cases before : t.get? k' with
    | some old =>
        rw [insertNew_of_some before] at held
        exact .inl (before.symm.trans held)
    | none =>
        rw [get?_insertNew_self_of_none before] at held
        exact .inr ⟨rfl, (Option.some.inj held).symm⟩
  · rw [get?_insertNew_ne same] at held
    exact .inl held

/-- Whatever the key held before, it holds a row after. -/
theorem isSome_get?_insertNew_self (t : Table κ ρ) (k : κ) (r : ρ) :
    ((t.insertNew k r).get? k).isSome := by
  cases held : t.get? k with
  | none => simp [get?_insertNew_self_of_none held]
  | some old => simp [get?_insertNew_of_some held]

/-! ### `UPDATE .. WHERE key = k` -/

/-- Rewrite the row at a key, if there is one. -/
def modify (t : Table κ ρ) (k : κ) (f : ρ → ρ) : Table κ ρ :=
  ⟨t.rows.map fun row => if row.1 = k then (row.1, f row.2) else row, by
    have same : (t.rows.map fun row => if row.1 = k then (row.1, f row.2) else row).map Prod.fst
        = t.rows.map Prod.fst := by
      rw [List.map_map]
      apply List.map_congr_left
      intro row _
      by_cases h : row.1 = k <;> simp [h]
    rw [same]
    exact t.keys_nodup⟩

theorem modify_rows (t : Table κ ρ) (k : κ) (f : ρ → ρ) : (t.modify k f).rows =
    t.rows.map fun row => if row.1 = k then (row.1, f row.2) else row := rfl

theorem lookup_modify (rows : List (κ × ρ)) (k k' : κ) (f : ρ → ρ) :
    (rows.map fun row => if row.1 = k then (row.1, f row.2) else row).lookup k' =
      if k' = k then (rows.lookup k').map f else rows.lookup k' := by
  induction rows with
  | nil => simp
  | cons row rows ih =>
      obtain ⟨k₀, r⟩ := row
      rw [List.map_cons]
      by_cases hit : k₀ = k
      · subst hit
        by_cases same : k' = k₀
        · subst same
          simp
        · have miss : (k' == k₀) = false := beq_eq_false_iff_ne.mpr same
          simpa [List.lookup_cons, miss, same] using ih
      · by_cases same : k' = k₀
        · subst same
          simp [hit]
        · have miss : (k' == k₀) = false := beq_eq_false_iff_ne.mpr same
          simpa [List.lookup_cons, miss, hit] using ih

@[simp] theorem get?_modify_self (t : Table κ ρ) (k : κ) (f : ρ → ρ) :
    (t.modify k f).get? k = (t.get? k).map f := by
  simp [modify, get?, lookup_modify]

theorem get?_modify_ne {t : Table κ ρ} {k k' : κ} {f : ρ → ρ} (other : k' ≠ k) :
    (t.modify k f).get? k' = t.get? k' := by
  simp [modify, get?, lookup_modify, other]

theorem get?_modify_eq_some {t : Table κ ρ} {k k' : κ} {f : ρ → ρ} {r' : ρ} :
    (t.modify k f).get? k' = some r' ↔ ∃ r, t.get? k' = some r ∧ r' = if k' = k then f r else r := by
  by_cases same : k' = k
  · subst same
    simp only [get?_modify_self, Option.map_eq_some_iff, if_true]
    exact exists_congr fun r => and_congr_right fun _ => eq_comm
  · rw [get?_modify_ne same]
    simp [same]

/-! ### `INSERT .. ON CONFLICT DO UPDATE` -/

/-- Append `fresh`, or rewrite the row that holds the key with `update`. -/
def upsert (t : Table κ ρ) (k : κ) (fresh : ρ) (update : ρ → ρ) : Table κ ρ :=
  match t.get? k with
  | none => t.insertNew k fresh
  | some _ => t.modify k update

@[simp] theorem get?_upsert_self (t : Table κ ρ) (k : κ) (fresh : ρ) (update : ρ → ρ) :
    (t.upsert k fresh update).get? k = some (((t.get? k).map update).getD fresh) := by
  unfold upsert
  cases held : t.get? k with
  | none => simp [get?_insertNew_self_of_none held]
  | some old => simp [held]

theorem get?_upsert_ne {t : Table κ ρ} {k k' : κ} {fresh : ρ} {update : ρ → ρ}
    (other : k' ≠ k) : (t.upsert k fresh update).get? k' = t.get? k' := by
  unfold upsert
  cases t.get? k with
  | none => exact get?_insertNew_ne other
  | some _ => exact get?_modify_ne other

/-- Writing the row a key already holds changes nothing. -/
theorem upsert_same {t : Table κ ρ} {k : κ} {r : ρ} (held : t.get? k = some r) :
    t.upsert k r (fun _ => r) = t := by
  have rows : (t.modify k fun _ => r).rows = t.rows := by
    have each : ∀ row ∈ t.rows, (if row.1 = k then (row.1, r) else row) = row := by
      intro row mem
      by_cases hit : row.1 = k
      · have stored : t.get? k = some row.2 := get?_eq_some_iff.mpr (hit ▸ mem)
        have same : r = row.2 := Option.some.inj (held.symm.trans stored)
        simp [hit, same, Prod.ext_iff]
      · simp [hit]
    exact (List.map_congr_left each).trans (List.map_id _)
  unfold upsert
  rw [held]
  exact ext_rows rows

/-- The row at a key, whatever it was before. -/
def set (t : Table κ ρ) (k : κ) (r : ρ) : Table κ ρ := t.upsert k r fun _ => r

@[simp] theorem get?_set_self (t : Table κ ρ) (k : κ) (r : ρ) : (t.set k r).get? k = some r := by
  unfold set
  rw [get?_upsert_self]
  cases t.get? k <;> rfl

theorem get?_set_ne {t : Table κ ρ} {k k' : κ} {r : ρ} (other : k' ≠ k) :
    (t.set k r).get? k' = t.get? k' :=
  get?_upsert_ne other

/-- `DELETE .. WHERE key = k`. -/
def erase (t : Table κ ρ) (k : κ) : Table κ ρ :=
  ⟨t.rows.filter fun row => row.1 ≠ k, t.keys_nodup.sublist (List.filter_sublist.map _)⟩

@[simp] theorem get?_erase_self (t : Table κ ρ) (k : κ) : (t.erase k).get? k = none := by
  rw [get?_eq_none_iff]
  intro mem
  obtain ⟨row, kept, same⟩ := List.mem_map.mp mem
  have other := (List.mem_filter.mp kept).2
  simp [same] at other

theorem get?_erase_ne {t : Table κ ρ} {k k' : κ} (other : k' ≠ k) :
    (t.erase k).get? k' = t.get? k' := by
  apply Option.ext
  intro r
  rw [get?_eq_some_iff, get?_eq_some_iff]
  simp [erase, other]

/-! ### Views -/

/-- The table with a function applied to every row value. -/
def mapValues {ρ' : Type} (t : Table κ ρ) (f : ρ → ρ') : Table κ ρ' :=
  ⟨t.rows.map fun row => (row.1, f row.2), by
    rw [List.map_map]
    exact t.keys_nodup⟩

omit [DecidableEq κ] in
theorem values_mapValues {ρ' : Type} (t : Table κ ρ) (f : ρ → ρ') :
    (t.mapValues f).values = t.values.map f := by
  unfold values mapValues
  rw [List.map_map, List.map_map]
  rfl

theorem get?_mapValues {ρ' : Type} (t : Table κ ρ) (f : ρ → ρ') (k : κ) :
    (t.mapValues f).get? k = (t.get? k).map f := by
  apply Option.ext
  intro r'
  rw [get?_eq_some_iff, Option.map_eq_some_iff]
  constructor
  · intro mem
    obtain ⟨row, held, same⟩ := List.mem_map.mp mem
    cases same
    exact ⟨row.2, get?_eq_some_iff.mpr held, rfl⟩
  · rintro ⟨r, held, rfl⟩
    exact List.mem_map.mpr ⟨(k, r), get?_eq_some_iff.mp held, rfl⟩

/-- A view of an insertion is an insertion of the view. -/
theorem mapValues_insertNew {ρ' : Type} (t : Table κ ρ) (f : ρ → ρ') (k : κ) (r : ρ) :
    (t.insertNew k r).mapValues f = (t.mapValues f).insertNew k (f r) := by
  cases held : t.get? k with
  | some old =>
      have view : (t.mapValues f).get? k = some (f old) := by
        rw [get?_mapValues, held]
        rfl
      rw [insertNew_of_some held, insertNew_of_some view]
  | none =>
      have view : (t.mapValues f).get? k = none := by
        rw [get?_mapValues, held]
        rfl
      have rows : ((t.insertNew k r).mapValues f).rows =
          ((t.mapValues f).insertNew k (f r)).rows := by
        rw [insertNew_rows view]
        simp only [mapValues, insertNew_rows held, List.map_append, List.map_cons, List.map_nil]
      exact ext_rows rows

end Table

end Lib
