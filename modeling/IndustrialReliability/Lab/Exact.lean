import IndustrialReliability.Lib.Laplacian
import IndustrialReliability.Lab.Numbers

/-!
Exact arithmetic: the numbers of an ordered field.
-/

namespace IndustrialReliability

/-- An ordered field, with a text for its numbers and some normal samples. -/
class ExactNumber (K : Type) extends Field K, LinearOrder K, IsStrictOrderedRing K where
  text : K → String
  sample : Nat → Nat → K

/-- The matrix of the first rows and columns. -/
def leading {K : Type} (size : Nat) (matrix : Nat → Nat → K) : Matrix (Fin size) (Fin size) K :=
  fun i j => matrix i j

instance {K : Type} [ExactNumber K] : LabNumber K where
  decidableLT := inferInstance
  decidableLE := inferInstance
  num q := (q : K)
  isFinite _ := true
  repr := ExactNumber.text
  solve size matrix rhs :=
    if (leading size matrix).det = 0 then none
    else some fun i => if inside : i < size then
      Lib.cramerSolution (leading size matrix) (fun j => rhs j) ⟨i, inside⟩ else 0
  sum := List.sum
  boxMuller := ExactNumber.sample

instance : ExactNumber ℚ where
  text := toString
  sample _ _ := 0

variable {K : Type} [ExactNumber K]

namespace LabNumber

theorem num_eq (q : ℚ) : (num q : K) = (q : K) := rfl

theorem pyMax_eq (a b : K) : pyMax a b = max a b := by
  unfold pyMax
  grind

theorem pyMin_eq (a b : K) : pyMin a b = min a b := by
  unfold pyMin
  grind

theorem pyAbs_eq (a : K) : pyAbs a = |a| := by
  have zero : (num 0 : K) = 0 := Rat.cast_zero
  unfold pyAbs
  rw [zero, zero_sub]
  by_cases negative : a < 0
  · rw [if_pos negative, abs_of_neg negative]
  · rw [if_neg negative, abs_of_nonneg (not_lt.mp negative)]

theorem between_eq_true {low high : ℚ} {a : K} :
    between low a high = true ↔ (low : K) ≤ a ∧ a ≤ (high : K) := decide_eq_true_iff

end LabNumber

theorem leading_det {size : Nat} {matrix : Nat → Nat → K} {rhs : Nat → K}
    (regular : (leading size matrix).det ≠ 0) : LabNumber.solve size matrix rhs =
      some fun i => if inside : i < size then
        Lib.cramerSolution (leading size matrix) (fun j => rhs j) ⟨i, inside⟩ else 0 := if_neg regular

end IndustrialReliability
