import Mathlib.Data.List.Induction

/-!
The last entry of a list that satisfies a test.

A list that is appended to and filtered is a store in the order of writing; reading the
last entry is reading the latest write.
-/

namespace Lib

variable {α : Type} {p q : α → Bool} {x : α} {xs : List α}

/-- The last entry that satisfies the test. -/
def latest (p : α → Bool) (xs : List α) : Option α := xs.reverse.find? p

@[simp] theorem latest_nil : latest p [] = none := rfl

theorem latest_concat (p : α → Bool) (xs : List α) (x : α) :
    latest p (xs ++ [x]) = if p x then some x else latest p xs := by
  unfold latest
  rw [List.reverse_concat, List.find?_cons]
  cases p x <;> simp

theorem latest_eq_none_iff : latest p xs = none ↔ ∀ x ∈ xs, ¬ p x := by
  simp [latest]

/-- Entries that the test refuses do not matter. -/
theorem latest_filter (kept : ∀ x ∈ xs, p x → q x) : latest p (xs.filter q) = latest p xs := by
  induction xs using List.reverseRecOn with
  | nil => rfl
  | append_singleton xs x ih =>
      have before := ih fun y mem => kept y (List.mem_append_left _ mem)
      rw [List.filter_append, latest_concat]
      by_cases holds : q x
      · simp [holds, latest_concat, before]
      · have refused : ¬ p x := fun accepted => holds (kept x (by simp) accepted)
        simp [holds, before, refused]

theorem latest_eq_some (read : latest p xs = some x) : x ∈ xs ∧ p x :=
  ⟨List.mem_reverse.mp (List.mem_of_find?_eq_some read), List.find?_some read⟩

theorem exists_latest (mem : x ∈ xs) (holds : p x) : ∃ y, latest p xs = some y := by
  rw [← Option.ne_none_iff_exists']
  exact fun absent => latest_eq_none_iff.mp absent x mem holds

end Lib
