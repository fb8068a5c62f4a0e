import Mathlib.LinearAlgebra.Matrix.ToLinearEquiv
import Mathlib.Algebra.Order.Field.Basic
import Mathlib.Algebra.Order.BigOperators.Group.Finset

/-!
Weighted Laplacians and their maximum principle.

A Laplacian is symmetric, has no positive entry off its diagonal and rows that sum to
zero; the edges of a network with nonnegative conductances add up to one
(`IsLaplacian.edge`, `IsLaplacian.add`). With a positive diagonal added the system it
gives has exactly one solution, and the solution lies between any bounds that the
right-hand side has in proportion to the diagonal (`le_of_mulVec_eq`,
`ge_of_mulVec_eq`). No inverse is looked at: at an index where the solution is
greatest the Laplacian contributes nothing negative.
-/

namespace Lib

open Matrix

variable {ι K : Type} [Fintype ι] [DecidableEq ι] [Field K] [LinearOrder K] [IsStrictOrderedRing K]

structure IsLaplacian (L : Matrix ι ι K) : Prop where
  symm : ∀ i j, L i j = L j i
  off_diag : ∀ i j, i ≠ j → L i j ≤ 0
  row_sum : ∀ i, ∑ j, L i j = 0

namespace IsLaplacian

variable {L L' : Matrix ι ι K}

omit [DecidableEq ι] [IsStrictOrderedRing K] in
theorem zero : IsLaplacian (0 : Matrix ι ι K) :=
  ⟨fun _ _ => rfl, fun _ _ _ => le_refl _, fun _ => Finset.sum_const_zero⟩

omit [DecidableEq ι] in
theorem add (laplacian : IsLaplacian L) (laplacian' : IsLaplacian L') : IsLaplacian (L + L') := by
  constructor
  · intro i j
    rw [Matrix.add_apply, Matrix.add_apply, laplacian.symm i j, laplacian'.symm i j]
  · intro i j apart
    exact add_nonpos (laplacian.off_diag i j apart) (laplacian'.off_diag i j apart)
  · intro i
    simp only [Matrix.add_apply]
    rw [Finset.sum_add_distrib, laplacian.row_sum i, laplacian'.row_sum i, add_zero]

end IsLaplacian

/-- An edge of conductance `k`; the ends may be one. -/
def edgeMatrix (i j : ι) (k : K) : Matrix ι ι K :=
  Matrix.single i i k + Matrix.single j j k - Matrix.single i j k - Matrix.single j i k

theorem IsLaplacian.edge (i j : ι) {k : K} (nonneg : 0 ≤ k) : IsLaplacian (edgeMatrix i j k) := by
  unfold edgeMatrix
  constructor
  · intro a b
    simp only [Matrix.sub_apply, Matrix.add_apply, Matrix.single_apply]
    grind
  · intro a b apart
    simp only [Matrix.sub_apply, Matrix.add_apply, Matrix.single_apply]
    have first : ¬ (i = a ∧ i = b) := fun both => apart (both.1.symm.trans both.2)
    have second : ¬ (j = a ∧ j = b) := fun both => apart (both.1.symm.trans both.2)
    rw [if_neg first, if_neg second]
    split <;> split <;> simp [nonneg]
  · intro a
    simp only [Matrix.sub_apply, Matrix.add_apply, Finset.sum_sub_distrib, Finset.sum_add_distrib]
    have row : ∀ i j : ι, ∑ b, Matrix.single i j k a b = if i = a then k else 0 := by
      intro i j
      simp only [Matrix.single_apply]
      by_cases here : i = a
      · simp [here]
      · simp [here]
    rw [row, row, row, row]
    ring

/-! ### The maximum principle -/

section Principle

variable {L : Matrix ι ι K} {d x r : ι → K} {bound : K}

omit [DecidableEq ι] [IsStrictOrderedRing K] in
/-- A Laplacian sees differences only. -/
theorem IsLaplacian.mulVec_apply (laplacian : IsLaplacian L) (x : ι → K) (i : ι) :
    (L *ᵥ x) i = ∑ j, L i j * (x j - x i) := by
  have zero : ∑ j, L i j * x i = 0 := by rw [← Finset.sum_mul, laplacian.row_sum i, zero_mul]
  simp only [mul_sub, Finset.sum_sub_distrib]
  rw [zero, sub_zero]
  rfl

omit [DecidableEq ι] [IsStrictOrderedRing K] in
/-- What the nodes pass on adds up to nothing. -/
theorem IsLaplacian.sum_mulVec (laplacian : IsLaplacian L) (x : ι → K) : ∑ i, (L *ᵥ x) i = 0 := by
  show ∑ i, ∑ j, L i j * x j = 0
  rw [Finset.sum_comm]
  refine Finset.sum_eq_zero fun j _ => ?_
  rw [← Finset.sum_mul, Finset.sum_congr rfl fun i _ => laplacian.symm i j, laplacian.row_sum j, zero_mul]

omit [DecidableEq ι] in
/-- Where no neighbour is greater, the Laplacian contributes nothing negative. -/
theorem IsLaplacian.mulVec_nonneg_of_joined (laplacian : IsLaplacian L) {i : ι}
    (greatest : ∀ j, L i j ≠ 0 → x j ≤ x i) : 0 ≤ (L *ᵥ x) i := by
  rw [laplacian.mulVec_apply]
  refine Finset.sum_nonneg fun j _ => ?_
  by_cases here : i = j
  · rw [here, sub_self, mul_zero]
  · by_cases joined : L i j = 0
    · rw [joined, zero_mul]
    · exact mul_nonneg_of_nonpos_of_nonpos (laplacian.off_diag i j here) (sub_nonpos.mpr (greatest j joined))

omit [DecidableEq ι] in
theorem IsLaplacian.mulVec_nonneg (laplacian : IsLaplacian L) {i : ι} (greatest : ∀ j, x j ≤ x i) :
    0 ≤ (L *ᵥ x) i :=
  laplacian.mulVec_nonneg_of_joined fun j _ => greatest j

omit [DecidableEq ι] in
theorem IsLaplacian.term_nonpos (laplacian : IsLaplacian L) {i : ι} (least : ∀ j, x i ≤ x j) (j : ι) :
    L i j * (x j - x i) ≤ 0 := by
  by_cases here : i = j
  · rw [here, sub_self, mul_zero]
  · exact mul_nonpos_of_nonpos_of_nonneg (laplacian.off_diag i j here) (sub_nonneg.mpr (least j))

omit [DecidableEq ι] in
theorem IsLaplacian.mulVec_nonpos (laplacian : IsLaplacian L) {i : ι} (least : ∀ j, x i ≤ x j) :
    (L *ᵥ x) i ≤ 0 := by
  rw [laplacian.mulVec_apply]
  exact Finset.sum_nonpos fun j _ => laplacian.term_nonpos least j

omit [DecidableEq ι] in
/-- Where the vector is least and the Laplacian contributes nothing, all neighbours are as
small. -/
theorem IsLaplacian.eq_of_mulVec_eq_zero (laplacian : IsLaplacian L) {i : ι} (least : ∀ j, x i ≤ x j)
    (zero : (L *ᵥ x) i = 0) {j : ι} (joined : L i j ≠ 0) : x j = x i := by
  rw [laplacian.mulVec_apply] at zero
  have each := (Finset.sum_eq_zero_iff_of_nonpos fun j _ => laplacian.term_nonpos least j).mp zero
  have difference := (mul_eq_zero.mp (each j (Finset.mem_univ j))).resolve_left joined
  exact sub_eq_zero.mp difference

omit [LinearOrder K] [IsStrictOrderedRing K] in
theorem diagonal_add_mulVec (d x : ι → K) (L : Matrix ι ι K) (i : ι) :
    ((diagonal d + L) *ᵥ x) i = d i * x i + (L *ᵥ x) i := by
  rw [Matrix.add_mulVec, Pi.add_apply, Matrix.mulVec_diagonal]

/-- No solution exceeds a bound that holds of the right-hand side. -/
theorem IsLaplacian.le_of_mulVec_eq (laplacian : IsLaplacian L) (positive : ∀ i, 0 < d i)
    (solves : (diagonal d + L) *ᵥ x = r) (bounded : ∀ i, r i ≤ d i * bound) (i : ι) : x i ≤ bound := by
  have : Nonempty ι := ⟨i⟩
  obtain ⟨top, greatest⟩ := Finite.exists_max x
  have at_top : d top * x top + (L *ᵥ x) top = r top := by
    rw [← diagonal_add_mulVec, solves]
  have below : d top * x top ≤ d top * bound := by
    have rises := laplacian.mulVec_nonneg greatest
    have right := bounded top
    linarith
  exact (greatest i).trans (le_of_mul_le_mul_left below (positive top))

theorem IsLaplacian.ge_of_mulVec_eq (laplacian : IsLaplacian L) (positive : ∀ i, 0 < d i)
    (solves : (diagonal d + L) *ᵥ x = r) (bounded : ∀ i, d i * bound ≤ r i) (i : ι) : bound ≤ x i := by
  have : Nonempty ι := ⟨i⟩
  obtain ⟨bottom, least⟩ := Finite.exists_min x
  have at_bottom : d bottom * x bottom + (L *ᵥ x) bottom = r bottom := by
    rw [← diagonal_add_mulVec, solves]
  have above : d bottom * bound ≤ d bottom * x bottom := by
    have falls := laplacian.mulVec_nonpos least
    have right := bounded bottom
    linarith
  exact (le_of_mul_le_mul_left above (positive bottom)).trans (least i)

/-- The homogeneous system has no solution but zero. -/
theorem IsLaplacian.det_ne_zero (laplacian : IsLaplacian L) (positive : ∀ i, 0 < d i) :
    (diagonal d + L).det ≠ 0 := by
  intro singular
  obtain ⟨v, nonzero, kernel⟩ := Matrix.exists_mulVec_eq_zero_iff.mpr singular
  refine nonzero (funext fun i => le_antisymm ?_ ?_)
  · exact laplacian.le_of_mulVec_eq positive kernel (fun i => by simp) i
  · exact laplacian.ge_of_mulVec_eq positive kernel (fun i => by simp) i

/-- By Cramer's rule. -/
def cramerSolution (M : Matrix ι ι K) (r : ι → K) : ι → K := fun i => (M.updateCol i r).det / M.det

omit [LinearOrder K] [IsStrictOrderedRing K] in
theorem mulVec_cramerSolution {M : Matrix ι ι K} (regular : M.det ≠ 0) (r : ι → K) :
    M *ᵥ cramerSolution M r = r := by
  have solution : cramerSolution M r = M.det⁻¹ • M.cramer r := by
    funext i
    simp [cramerSolution, Matrix.cramer_apply, div_eq_inv_mul]
  rw [solution, Matrix.mulVec_smul, Matrix.mulVec_cramer, smul_smul, inv_mul_cancel₀ regular, one_smul]

omit [LinearOrder K] [IsStrictOrderedRing K] in
/-- A regular system has exactly one solution. -/
theorem eq_cramerSolution {M : Matrix ι ι K} (regular : M.det ≠ 0) {x r : ι → K} (solves : M *ᵥ x = r) :
    x = cramerSolution M r := by
  have injective := Matrix.mulVec_injective_of_isUnit ((Matrix.isUnit_iff_isUnit_det M).mpr
    (isUnit_iff_ne_zero.mpr regular))
  exact injective (solves.trans (mulVec_cramerSolution regular r).symm)

end Principle

end Lib
