import IndustrialReliability.Lib.Table
import Mathlib.Data.List.Forall2
import Mathlib.Data.List.Perm.Basic
import Mathlib.Logic.Equiv.Basic
import Mathlib.Order.Lattice

/-!
Lists and tables that differ by a renaming and a permutation.

`exists_places` gives the place in a permuted list of each element of the other,
as a permutation of all indices. `Table.Renamed` says that one table holds the rows of
another under renamed keys and values; `renamed_of_indexes` derives it for tables that
index lists.
-/

namespace Lib

universe u

/-! ### Places -/

/-- A permutation of the indices after the first. -/
def succPlace (place : Equiv.Perm Nat) : Equiv.Perm Nat where
  toFun
    | 0 => 0
    | i + 1 => place i + 1
  invFun
    | 0 => 0
    | i + 1 => place.symm i + 1
  left_inv i := by cases i <;> simp
  right_inv i := by cases i <;> simp

/-- Where the elements of a list are in another order of it. -/
theorem exists_places {α : Type u} {as bs : List α} (perm : as.Perm bs) :
    ∃ place : Equiv.Perm Nat, ∀ i, bs[place i]? = as[i]? := by
  induction perm with
  | nil => exact ⟨Equiv.refl _, fun _ => rfl⟩
  | @cons a as bs _ ih =>
      obtain ⟨place, there⟩ := ih
      refine ⟨succPlace place, fun i => ?_⟩
      cases i with
      | zero => rfl
      | succ i => exact there i
  | swap a b as =>
      refine ⟨Equiv.swap 0 1, fun i => ?_⟩
      match i with
      | 0 => simp
      | 1 => simp
      | i + 2 =>
          rw [Equiv.swap_apply_of_ne_of_ne (by omega) (by omega)]
          rfl
  | trans _ _ first second =>
      obtain ⟨place, there⟩ := first
      obtain ⟨place', there'⟩ := second
      exact ⟨place.trans place', fun i => (there' _).trans (there i)⟩

theorem map_getElem?_range {α : Type u} (as : List α) :
    (List.range as.length).map (as[·]?) = as.map some := by
  apply List.ext_getElem?
  intro i
  rw [List.getElem?_map, List.getElem?_map]
  by_cases inside : i < as.length
  · rw [List.getElem?_range inside, List.getElem?_eq_getElem inside]
    exact congrArg some (List.getElem?_eq_getElem inside)
  · rw [List.getElem?_eq_none (by simpa using inside), List.getElem?_eq_none (by simpa using inside)]
    rfl

/-- Conversely, places make a permutation. -/
theorem perm_of_places {α : Type u} {as bs : List α} {place : Equiv.Perm Nat}
    (places : ∀ i, bs[place i]? = as[i]?) : as.Perm bs := by
  have inside (i : Nat) : place i < bs.length ↔ i < as.length := by
    rw [← not_iff_not, not_lt, not_lt, ← List.getElem?_eq_none_iff, ← List.getElem?_eq_none_iff,
      places]
  have moved : ((List.range as.length).map place).Perm (List.range bs.length) := by
    refine (List.perm_ext_iff_of_nodup (List.nodup_range.map place.injective)
      List.nodup_range).mpr fun j => ?_
    obtain ⟨i, rfl⟩ := place.surjective j
    rw [List.mem_map_of_injective place.injective, List.mem_range, List.mem_range, inside]
  have images : (as.map some).Perm (bs.map some) := by
    rw [← map_getElem?_range as, ← map_getElem?_range bs]
    have renumbered : (List.range as.length).map (as[·]?) =
        ((List.range as.length).map place).map (bs[·]?) := by
      rw [List.map_map]
      exact List.map_congr_left fun i _ => (places i).symm
    rw [renumbered]
    exact moved.map _
  exact (List.map_perm_map_iff (Option.some_injective α)).mp images

section Related

variable {α β α' β' : Type} {r : α → β → Prop} {r' : α' → β' → Prop} {f : α → α'} {g : β → β'}
  {as : List α} {as' : List α'} {bs : List β} {bs' cs' : List β'}

theorem forall₂_unique (unique : ∀ a b c, r' a b → r' a c → b = c)
    (first : List.Forall₂ r' as' bs') (second : List.Forall₂ r' as' cs') : bs' = cs' := by
  induction first generalizing cs' with
  | nil =>
      cases second
      rfl
  | cons here _ ih =>
      cases second with
      | cons its rest => rw [unique _ _ _ here its, ih rest]

/-- Related lists stay related when both are renamed. -/
theorem forall₂_rename (respects : ∀ a b, r a b → r' (f a) (g b)) (first : List.Forall₂ r as bs) :
    List.Forall₂ r' (as.map f) (bs.map g) := by
  induction first with
  | nil => exact .nil
  | cons here _ ih => exact .cons (respects _ _ here) ih

/-- What is related to a renamed permutation of a list is a renamed permutation of what is
related to the list. -/
theorem perm_map_of_forall₂ (respects : ∀ a b, r a b → r' (f a) (g b))
    (unique : ∀ a b c, r' a b → r' a c → b = c) (perm : as'.Perm (as.map f))
    (first : List.Forall₂ r as bs) (second : List.Forall₂ r' as' bs') : bs'.Perm (bs.map g) := by
  obtain ⟨cs, there, back⟩ := List.perm_comp_forall₂ perm (forall₂_rename respects first)
  rw [forall₂_unique unique second there]
  exact back

end Related

/-! ### Tables -/

namespace Table

variable {κ ρ κ' ρ' : Type} [DecidableEq κ] [DecidableEq κ']

/-- A table holds the rows of another, with keys and values renamed. -/
def Renamed (t : Table κ ρ) (t' : Table κ' ρ') (key : κ → κ') (value : ρ → ρ') : Prop :=
  ∀ k' v', t'.get? k' = some v' ↔ ∃ k v, t.get? k = some v ∧ k' = key k ∧ v' = value v

/-- A row is found under its new key. -/
theorem Renamed.get? {t : Table κ ρ} {t' : Table κ' ρ'} {key : κ → κ'} {value : ρ → ρ'}
    (renamed : t.Renamed t' key value) {k : κ} {v : ρ} (held : t.get? k = some v) :
    t'.get? (key k) = some (value v) :=
  (renamed _ _).mpr ⟨k, v, held, rfl, rfl⟩

/-- Tables that index two lists, one a renamed permutation of the other. -/
theorem renamed_of_indexes {α α' : Type} {t : Table κ Nat} {t' : Table κ' Nat} {as : List α}
    {as' : List α'} {serves : α → κ → Prop} {serves' : α' → κ' → Prop} {f : α → α'}
    {key : κ → κ'} {place : Equiv.Perm Nat}
    (indexes : ∀ k i, t.get? k = some i ↔ ∃ a, as[i]? = some a ∧ serves a k)
    (indexes' : ∀ k i, t'.get? k = some i ↔ ∃ a, as'[i]? = some a ∧ serves' a k)
    (places : ∀ i, as'[place i]? = as[i]?.map f)
    (respects : ∀ a ∈ as, ∀ k', serves' (f a) k' ↔ ∃ k, serves a k ∧ k' = key k) :
    t.Renamed t' key place := by
  intro k' i'
  rw [indexes']
  constructor
  · rintro ⟨a', held, its⟩
    obtain ⟨i, rfl⟩ := place.surjective i'
    rw [places] at held
    obtain ⟨a, found, rfl⟩ := Option.map_eq_some_iff.mp held
    obtain ⟨k, own, rfl⟩ := (respects a (List.mem_of_getElem? found) k').mp its
    exact ⟨k, i, (indexes k i).mpr ⟨a, found, own⟩, rfl, rfl⟩
  · rintro ⟨k, i, held, rfl, rfl⟩
    obtain ⟨a, held, its⟩ := (indexes k i).mp held
    refine ⟨f a, ?_, (respects a (List.mem_of_getElem? held) _).mpr ⟨k, its, rfl⟩⟩
    rw [places, held]
    rfl

/-- A table of distinct numbers extends to a function that keeps numbers apart. -/
theorem exists_injective (t : Table Nat Nat)
    (distinct : ∀ k k' v, t.get? k = some v → t.get? k' = some v → k = k') :
    ∃ f : Nat → Nat, Function.Injective f ∧ ∀ k v, t.get? k = some v → f k = v := by
  let above := t.values.foldr max 0 + 1
  have below : ∀ v ∈ t.values, v < above := by
    intro v mem
    have le : ∀ vs : List Nat, v ∈ vs → v ≤ vs.foldr max 0 := by
      intro vs
      induction vs with
      | nil => nofun
      | cons w vs ih =>
          rintro (_ | ⟨_, mem⟩)
          · exact le_max_left _ _
          · exact (ih mem).trans (le_max_right _ _)
    exact Nat.lt_succ_of_le (le _ mem)
  refine ⟨fun k => (t.get? k).getD (above + k), ?_, fun k v held => by simp [held]⟩
  intro k k' same
  dsimp only at same
  cases first : t.get? k with
  | some v =>
      have mem := below v (mem_values_iff.mpr ⟨k, first⟩)
      cases second : t.get? k' with
      | some v' =>
          rw [first, second] at same
          exact distinct k k' v first (second.trans (congrArg some same.symm))
      | none =>
          rw [first, second] at same
          simp only [Option.getD_some, Option.getD_none] at same
          omega
  | none =>
      cases second : t.get? k' with
      | some v' =>
          have mem := below v' (mem_values_iff.mpr ⟨k', second⟩)
          rw [first, second] at same
          simp only [Option.getD_some, Option.getD_none] at same
          omega
      | none =>
          rw [first, second] at same
          simp only [Option.getD_none] at same
          omega

end Table

end Lib
