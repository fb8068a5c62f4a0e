import Mathlib.Data.List.Basic

/-!
Taking the items of a log one by one, with redelivery.

A step takes an item or refuses it; a refused item leaves the state as it is. What has
been taken is `takenUpTo` a position of the log. After a crash the log is delivered
again from an earlier position, behind which every item was refused, but for the last
one (`RefusedBut`). Where a state absorbs its last item, and a refused item stays without
effect after the next one taken (`Absorbs`), the redelivered items change nothing
(`Absorbs.redelivered`).
-/

namespace Lib

variable {σ α : Type} (take : σ → α → Option σ)

/-- The state after an item, taken or refused. -/
def afterItem (s : σ) (a : α) : σ := (take s a).getD s

/-- The state after a list of items. -/
def afterItems (s : σ) (items : List α) : σ := items.foldl (afterItem take) s

/-- The state after the items of a log below a position. -/
def takenUpTo (init : σ) (log : List α) (n : Nat) : σ := afterItems take init (log.take n)

/-- The items from `c` up to `n` were refused, but for the last one. -/
def RefusedBut (init : σ) (log : List α) (c n : Nat) : Prop :=
  ∀ i a, c ≤ i → i + 1 < n → log[i]? = some a → take (takenUpTo take init log i) a = none

/-- What redelivery relies on, over the states met in a log. -/
structure Absorbs (init : σ) (log : List α) : Prop where
  /-- The item taken last is taken again without effect. -/
  again : ∀ i a s, log[i]? = some a → take (takenUpTo take init log i) a = some s → take s a = some s
  /-- A refused item has no effect after a later one is taken. -/
  late : ∀ i j a b s, i < j → log[i]? = some a → log[j]? = some b →
    take (takenUpTo take init log j) a = none → take (takenUpTo take init log j) b = some s →
      afterItem take s a = s

variable {take} {init : σ} {log : List α} {c n i : Nat} {a : α}

theorem afterItem_none {s : σ} (refused : take s a = none) : afterItem take s a = s := by
  rw [afterItem, refused, Option.getD_none]

theorem afterItem_some {s s' : σ} (taken : take s a = some s') : afterItem take s a = s' := by
  rw [afterItem, taken, Option.getD_some]

theorem takenUpTo_succ (held : log[i]? = some a) :
    takenUpTo take init log (i + 1) = afterItem take (takenUpTo take init log i) a := by
  unfold takenUpTo afterItems
  rw [List.take_add_one, held, List.foldl_append]
  rfl

theorem takenUpTo_length : takenUpTo take init log log.length = afterItems take init log := by
  unfold takenUpTo
  rw [List.take_length]

theorem RefusedBut.self (n : Nat) : RefusedBut take init log n n := by
  intro i a from_n below
  omega

theorem RefusedBut.from (refused : RefusedBut take init log c n) {c' : Nat} (later : c ≤ c') :
    RefusedBut take init log c' n :=
  fun i a above below held => refused i a (Nat.le_trans later above) below held

/-- One more item, when all before it from `c` on were refused. -/
theorem RefusedBut.succ
    (refused : ∀ i a, c ≤ i → i < n → log[i]? = some a → take (takenUpTo take init log i) a = none) :
    RefusedBut take init log c (n + 1) :=
  fun i a above below held => refused i a above (Nat.lt_of_succ_lt_succ below) held

/-- Refused items leave the state where it was. -/
theorem takenUpTo_of_refused {m : Nat} (le : c ≤ m) (within : m ≤ log.length)
    (refused : ∀ i a, c ≤ i → i < m → log[i]? = some a → take (takenUpTo take init log i) a = none) :
    takenUpTo take init log m = takenUpTo take init log c := by
  induction m with
  | zero =>
      obtain rfl : c = 0 := by omega
      rfl
  | succ m ih =>
      rcases Nat.eq_or_lt_of_le le with rfl | less
      · rfl
      · have held : log[m]? = some log[m] := List.getElem?_eq_getElem within
        rw [takenUpTo_succ held, afterItem_none (refused m _ (by omega) (by omega) held)]
        exact ih (by omega) (by omega) fun i a above below => refused i a above (by omega)

/-- The redelivered items change nothing. -/
theorem Absorbs.redelivered (absorbs : Absorbs take init log) (refused : RefusedBut take init log c n)
    (within : n ≤ log.length) (above : c ≤ i) (below : i < n) (held : log[i]? = some a) :
    afterItem take (takenUpTo take init log n) a = takenUpTo take init log n := by
  obtain ⟨m, rfl⟩ : ∃ m, n = m + 1 := ⟨n - 1, by omega⟩
  have last : log[m]? = some log[m] := List.getElem?_eq_getElem within
  rw [takenUpTo_succ last]
  rcases Nat.lt_or_eq_of_le (Nat.le_of_lt_succ below) with earlier | rfl
  · -- An earlier item was refused in the state before the last one.
    have same : takenUpTo take init log m = takenUpTo take init log i := by
      refine takenUpTo_of_refused (Nat.le_of_lt earlier) (by omega) fun j b fromI belowM => ?_
      exact refused j b (Nat.le_trans above fromI) (by omega)
    have none : take (takenUpTo take init log m) a = none := by
      rw [same]
      exact refused i a above (by omega) held
    cases taken : take (takenUpTo take init log m) log[m] with
    | none => rw [afterItem_none taken, afterItem_none none]
    | some s =>
        rw [afterItem_some taken]
        exact absorbs.late i m a _ s earlier held last none taken
  · cases held.symm.trans last
    cases taken : take (takenUpTo take init log i) log[i] with
    | none => rw [afterItem_none taken, afterItem_none taken]
    | some s => rw [afterItem_some taken, afterItem_some (absorbs.again i _ s last taken)]

/-- Taking the item at `i`, the next one or one that comes again. -/
theorem Absorbs.advance (absorbs : Absorbs take init log) (refused : RefusedBut take init log c n)
    (before : ∀ j b, c ≤ j → j < i → log[j]? = some b → take (takenUpTo take init log j) b = none)
    (within : n ≤ log.length) (above : c ≤ i) (upTo : i ≤ n) (held : log[i]? = some a) :
    ∃ m, n ≤ m ∧ i < m ∧ m ≤ log.length ∧ RefusedBut take init log c m ∧
      afterItem take (takenUpTo take init log n) a = takenUpTo take init log m := by
  rcases Nat.lt_or_eq_of_le upTo with below | rfl
  · exact ⟨n, Nat.le_refl n, below, within, refused,
      absorbs.redelivered refused within above below held⟩
  · have inside := (List.getElem?_eq_some_iff.mp held).1
    exact ⟨i + 1, Nat.le_succ i, Nat.lt_succ_self i, inside, .succ before,
      (takenUpTo_succ held).symm⟩

/-- An item refused when it comes again was refused when it came first. -/
theorem Absorbs.refused_first (absorbs : Absorbs take init log)
    (refused : RefusedBut take init log c n) (within : n ≤ log.length) (above : c ≤ i)
    (upTo : i ≤ n) (held : log[i]? = some a) (again : take (takenUpTo take init log n) a = none) :
    take (takenUpTo take init log i) a = none := by
  rcases Nat.lt_or_eq_of_le upTo with below | rfl
  · rcases Nat.lt_or_eq_of_le below with earlier | rfl
    · exact refused i a above earlier held
    · cases taken : take (takenUpTo take init log i) a with
      | none => rfl
      | some s =>
          rw [takenUpTo_succ held, afterItem_some taken, absorbs.again i a s held taken] at again
          cases again
  · exact again

end Lib
