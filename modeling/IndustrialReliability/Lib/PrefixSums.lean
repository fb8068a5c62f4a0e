import Mathlib.Algebra.Ring.Nat
import IndustrialReliability.Lib.Cuts

/-!
Prefix sums over windows.

A window of a list holds one pair of neighbours less than elements, so a test of
neighbours is written down one position late: at the second element of each pair.
The prefix sums of such a list, at the two ends of a window, differ by the number
of failing pairs in the window (`cumsum_marks`), and so does a rolling sum over one
position less than the window (`rollingSum_marks`).
-/

namespace Lib

variable {α : Type}

/-- `np.arange`. -/
def arange (start stop step : Nat) : List Nat :=
  (List.range ((stop - start + step - 1) / step)).map fun k => start + k * step

/-- `np.cumsum`: the sum up to and including each position. -/
def cumsum (counts : List Nat) : List Nat := (counts.scanl (· + ·) 0).tail

/-- The sum of the `size` positions up to and including one. -/
def rollingSum (size : Nat) (counts : List Nat) (position : Nat) : Nat :=
  ((counts.drop (position + 1 - size)).take size).sum

/-- The window of `size` elements up to and including a position. -/
def window (size : Nat) (xs : List α) (position : Nat) : List α :=
  (xs.drop (position + 1 - size)).take size

/-- The failing pairs of neighbours, each at its second element. -/
def marks (near : α → α → Bool) : List α → List Nat
  | [] => []
  | a :: xs => 0 :: (neighbours near (a :: xs)).map fun near => (!near).toNat

variable {near : α → α → Bool}

theorem mem_arange {start stop step i : Nat} (positive : 0 < step) :
    i ∈ arange start stop step ↔ start ≤ i ∧ i < stop ∧ step ∣ i - start := by
  have before : ∀ k, k < (stop - start + step - 1) / step ↔ start + k * step < stop := by
    intro k
    have bound : k + 1 ≤ (stop - start + step - 1) / step ↔ (k + 1) * step ≤ stop - start + step - 1 :=
      Nat.le_div_iff_mul_le positive
    rw [Nat.add_one_mul] at bound
    omega
  simp only [arange, List.mem_map, List.mem_range, before]
  constructor
  · rintro ⟨k, below, rfl⟩
    exact ⟨Nat.le_add_right _ _, below, k, by rw [Nat.add_sub_cancel_left, Nat.mul_comm]⟩
  · rintro ⟨after, below, k, its⟩
    have here : start + k * step = i := by
      rw [Nat.mul_comm]
      omega
    exact ⟨k, here ▸ below, here⟩

theorem getD_cumsum {counts : List Nat} {i : Nat} (within : i < counts.length) :
    (cumsum counts).getD i 0 = (counts.take (i + 1)).sum := by
  unfold cumsum
  rw [List.getD_eq_getElem?_getD, List.getElem?_tail, List.getElem?_scanl,
    if_pos (Nat.succ_le_of_lt within), Option.getD_some, List.sum_eq_foldl]

/-- The prefix sums at two positions differ by the sum between them. -/
theorem cumsum_sub {counts : List Nat} {i j : Nat} (ordered : i ≤ j) (within : j < counts.length) :
    ((cumsum counts).getD j 0 : Int) - (cumsum counts).getD i 0 =
      ((counts.drop (i + 1)).take (j - i)).sum := by
  rw [getD_cumsum within, getD_cumsum (lt_of_le_of_lt ordered within)]
  have upTo : counts.take (j + 1) = counts.take (i + 1) ++ (counts.drop (i + 1)).take (j - i) := by
    rw [← List.take_add]
    congr 1
    omega
  rw [upTo, List.sum_append]
  omega

theorem neighbours_drop (near : α → α → Bool) (xs : List α) (i : Nat) :
    neighbours near (xs.drop i) = (neighbours near xs).drop i := by
  unfold neighbours
  rw [List.drop_zipWith, List.tail_drop, ← List.drop_one, List.drop_drop, Nat.add_comm]

theorem neighbours_take (near : α → α → Bool) (xs : List α) (n : Nat) :
    neighbours near (xs.take (n + 1)) = (neighbours near xs).take n := by
  induction xs generalizing n with
  | nil => simp [neighbours]
  | cons a xs ih =>
      cases xs with
      | nil => simp [neighbours]
      | cons b xs =>
          cases n with
          | zero => simp [neighbours]
          | succ n =>
              have rest := ih n
              simp only [neighbours, List.take_succ_cons, List.tail_cons, List.zipWith_cons_cons] at rest ⊢
              rw [rest]

/-- The marks inside a window are those of its own pairs of neighbours. -/
theorem marks_in_window (near : α → α → Bool) (xs : List α) {n position : Nat} (full : n ≤ position) :
    ((marks near xs).drop (position - n + 1)).take n =
      (neighbours near (window (n + 1) xs position)).map fun near => (!near).toNat := by
  unfold window
  rw [neighbours_take, neighbours_drop, show position + 1 - (n + 1) = position - n by omega]
  cases xs with
  | nil => simp [marks, neighbours]
  | cons a xs => simp [marks, List.map_take, List.map_drop]

theorem window_map {β : Type} (f : α → β) (size : Nat) (xs : List α) (position : Nat) :
    window size (xs.map f) position = (window size xs position).map f := by
  unfold window
  rw [List.map_take, List.map_drop]

/-- The ends of a window. -/
theorem window_ends {size position : Nat} {xs : List α} (filled : 0 < size)
    (full : size ≤ position + 1) (within : position < xs.length) :
    (window size xs position).head? = xs[position + 1 - size]? ∧
      (window size xs position).getLast? = xs[position]? := by
  unfold window
  have length : ((xs.drop (position + 1 - size)).take size).length = size := by
    rw [List.length_take, List.length_drop]
    omega
  constructor
  · rw [List.head?_take, if_neg (by omega), List.head?_drop]
  · rw [List.getLast?_eq_getElem?, length, List.getElem?_take_of_lt (by omega), List.getElem?_drop]
    congr 1
    omega

theorem length_marks (near : α → α → Bool) (xs : List α) : (marks near xs).length = xs.length := by
  cases xs with
  | nil => rfl
  | cons a xs => simp [marks, neighbours]

/-- The number of pairs of neighbours in a list that fail a test. -/
def failures (near : α → α → Bool) (xs : List α) : Nat := (neighbours near xs).countP not

theorem failures_eq_countP (near : α → α → Bool) (xs : List α) :
    failures near xs = (xs.zip xs.tail).countP fun (a, b) => !near a b := by
  unfold failures neighbours
  rw [← List.map_uncurry_zip_eq_zipWith, List.countP_map]
  rfl

theorem failures_map {β : Type} (near : β → β → Bool) (f : α → β) (xs : List α) :
    failures near (xs.map f) = failures (fun a b => near (f a) (f b)) xs := by
  unfold failures neighbours
  rw [← List.map_tail, List.zipWith_map]

theorem sum_toNat (bs : List Bool) : (bs.map fun near => (!near).toNat).sum = bs.countP not := by
  induction bs with
  | nil => rfl
  | cons b bs ih => cases b <;> simp [ih, Nat.add_comm]

/-- The prefix sums of the marks at the ends of a window differ by its failures. -/
theorem cumsum_marks (near : α → α → Bool) {xs : List α} {n position : Nat} (full : n ≤ position)
    (within : position < xs.length) :
    ((cumsum (marks near xs)).getD position 0 : Int) - (cumsum (marks near xs)).getD (position - n) 0 =
      failures near (window (n + 1) xs position) := by
  rw [cumsum_sub (Nat.sub_le _ _) (by rwa [length_marks]), Nat.sub_sub_self full,
    marks_in_window near xs full, sum_toNat]
  rfl

/-- A rolling sum of the marks, one position shorter than a window, is its failures. -/
theorem rollingSum_marks (near : α → α → Bool) (xs : List α) {n position : Nat} (full : n ≤ position) :
    rollingSum n (marks near xs) position = failures near (window (n + 1) xs position) := by
  unfold rollingSum
  rw [show position + 1 - n = position - n + 1 by omega, marks_in_window near xs full, sum_toNat]
  rfl

/-- A list without failures is a chain. -/
theorem failures_eq_zero_iff {xs : List α} :
    failures near xs = 0 ↔ xs.IsChain fun a b => near a b = true := by
  induction xs with
  | nil => simp [failures, neighbours]
  | cons a xs ih =>
      cases xs with
      | nil => simp [failures, neighbours]
      | cons b xs =>
          rw [List.isChain_cons_cons, ← ih]
          cases meets : near a b <;> simp [failures, neighbours, meets]

end Lib
