import Mathlib.Data.List.SplitBy

/-!
Cutting a list where neighbours break, by positions.

An array program finds the positions at which a test of neighbours fails and
slices the array there. The slices are `List.splitBy`, the maximal runs of
neighbours that pass (`slices_breaks`), and the runs of a list that arrives in
chunks come from those of its chunks: the last open run goes on with the first of
the next chunk, or it is closed (`splitBy_append_of_near`, and `List.splitBy_append`
for a break).
-/

namespace Lib

variable {α : Type}

/-- `np.flatnonzero`: the positions that hold `true`. -/
def flatnonzero (bs : List Bool) : List Nat :=
  (List.range bs.length).filter fun i => bs[i]?.getD false

/-- The slices of a list from `start` to each bound in turn. -/
def slices (xs : List α) : Nat → List Nat → List (List α)
  | _, [] => []
  | start, stop :: bounds => (xs.drop start).take (stop - start) :: slices xs stop bounds

/-- The test of each pair of neighbours. -/
def neighbours (near : α → α → Bool) (xs : List α) : List Bool := xs.zipWith near xs.tail

/-- The positions before which a list breaks, and its length. -/
def breaks (near : α → α → Bool) (xs : List α) : List Nat :=
  (flatnonzero ((neighbours near xs).map not)).map (· + 1) ++ [xs.length]

variable {near : α → α → Bool}

theorem flatnonzero_cons (b : Bool) (bs : List Bool) :
    flatnonzero (b :: bs) = (if b then [0] else []) ++ (flatnonzero bs).map (· + 1) := by
  unfold flatnonzero
  rw [List.length_cons, List.range_succ_eq_map, List.filter_cons, List.filter_map]
  cases b <;> simp [Function.comp_def]

/-- A list breaks before its second element, or where its tail does. -/
theorem breaks_cons_cons (a b : α) (xs : List α) :
    breaks near (a :: b :: xs) =
      (if near a b then [] else [1]) ++ (breaks near (b :: xs)).map (· + 1) := by
  have pairs : neighbours near (a :: b :: xs) = near a b :: neighbours near (b :: xs) := rfl
  unfold breaks
  rw [pairs, List.map_cons, flatnonzero_cons]
  cases near a b <;> simp

/-- The slices of a tail, at shifted positions. -/
theorem slices_cons_succ (a : α) (xs : List α) (start : Nat) (bounds : List Nat) :
    slices (a :: xs) (start + 1) (bounds.map (· + 1)) = slices xs start bounds := by
  induction bounds generalizing start with
  | nil => rfl
  | cons stop bounds ih => simp [slices, ih]

/-- An element before the first slice joins it. -/
theorem slices_cons_zero (a : α) (xs : List α) (stop : Nat) (bounds : List Nat) :
    slices (a :: xs) 0 ((stop :: bounds).map (· + 1)) =
      (a :: xs.take stop) :: slices xs stop bounds := by
  simp [slices, slices_cons_succ]

theorem breaks_ne_nil (near : α → α → Bool) (xs : List α) : breaks near xs ≠ [] := by simp [breaks]

theorem pairwise_flatnonzero (bs : List Bool) : (flatnonzero bs).Pairwise (· < ·) :=
  List.pairwise_lt_range.filter _

theorem lt_length_of_mem_flatnonzero {bs : List Bool} {i : Nat} (mem : i ∈ flatnonzero bs) :
    i < bs.length := by
  simp only [flatnonzero, List.mem_filter, List.mem_range] at mem
  exact mem.1

/-- The bounds of the slices ascend from the start of the list to its end. -/
theorem breaks_ascend (near : α → α → Bool) {xs : List α} (nonempty : xs ≠ []) :
    (0 :: breaks near xs).Pairwise (· < ·) := by
  have filled : 0 < xs.length := List.length_pos_iff.mpr nonempty
  have inside : ∀ i ∈ flatnonzero ((neighbours near xs).map not), i + 1 < xs.length := by
    intro i mem
    have bound := lt_length_of_mem_flatnonzero mem
    simp only [neighbours, List.length_map, List.length_zipWith, List.length_tail] at bound
    omega
  refine List.pairwise_cons.mpr ⟨?_, List.pairwise_append.mpr ⟨?_, by simp, ?_⟩⟩
  · intro stop mem
    rcases List.mem_append.mp mem with cut | last
    · obtain ⟨i, -, rfl⟩ := List.mem_map.mp cut
      omega
    · rw [List.mem_singleton.mp last]
      exact filled
  · rw [List.pairwise_map]
    exact (pairwise_flatnonzero _).imp fun less => by omega
  · intro stop cut last mem
    obtain ⟨i, its, rfl⟩ := List.mem_map.mp cut
    rw [List.mem_singleton.mp mem]
    exact inside i its

theorem getLast?_breaks (near : α → α → Bool) (xs : List α) :
    (breaks near xs).getLast? = some xs.length := by simp [breaks]

/-- Bounds that ascend do not pass the last. -/
theorem le_of_ascend {bounds : List Nat} (ascend : bounds.Pairwise (· < ·)) {last : Nat}
    (closes : bounds.getLast? = some last) {stop : Nat} (mem : stop ∈ bounds) : stop ≤ last := by
  obtain ⟨before, rfl⟩ := List.getLast?_eq_some_iff.mp closes
  rcases List.mem_append.mp mem with earlier | same
  · exact ((List.pairwise_append.mp ascend).2.2 stop earlier last List.mem_cons_self).le
  · exact (List.mem_singleton.mp same).le

/-- The runs of a list whose halves meet without a break. -/
theorem splitBy_append_of_near {xs ys : List α} {runs rest : List (List α)} {run next : List α}
    (left : xs.splitBy near = runs ++ [run]) (right : ys.splitBy near = next :: rest)
    (meet : ∀ x ∈ xs.getLast?, ∀ y ∈ ys.head?, near x y = true) :
    (xs ++ ys).splitBy near = runs ++ (run ++ next) :: rest := by
  obtain ⟨flatLeft, filledLeft, nearLeft, breaksLeft⟩ := List.splitBy_eq_iff.mp left
  obtain ⟨flatRight, filledRight, nearRight, breaksRight⟩ := List.splitBy_eq_iff.mp right
  have runNonempty : run ≠ [] := fun empty => filledLeft (by simp [empty])
  have nextNonempty : next ≠ [] := fun empty => filledRight (by simp [empty])
  have lastOf : xs.getLast? = run.getLast? := by
    rw [flatLeft]
    simp [List.getLast?_append, List.getLast?_eq_getLast_of_ne_nil runNonempty]
  have headOf : ys.head? = next.head? := by
    rw [flatRight]
    simp [List.head?_append, List.head?_eq_some_head nextNonempty]
  refine List.splitBy_eq_iff.mpr ⟨?_, ?_, ?_, ?_⟩
  · rw [flatLeft, flatRight]
    simp
  · simp only [List.mem_append, List.mem_cons, not_or] at filledLeft filledRight ⊢
    exact ⟨filledLeft.1, by simp [runNonempty], filledRight.2⟩
  · intro m mem
    rcases List.mem_append.mp mem with before | after
    · exact nearLeft m (List.mem_append_left _ before)
    · rcases List.mem_cons.mp after with rfl | after
      · refine List.isChain_append.mpr ⟨nearLeft _ (by simp), nearRight _ (by simp), ?_⟩
        rw [← lastOf, ← headOf]
        exact meet
      · exact nearRight m (List.mem_cons_of_mem _ after)
  · obtain ⟨before, -, closing⟩ := List.isChain_append.mp breaksLeft
    refine List.isChain_append.mpr ⟨before, ?_, ?_⟩
    · refine List.isChain_cons.mpr ⟨?_, (List.isChain_cons.mp breaksRight).2⟩
      intro after mem
      obtain ⟨_, filled, broken⟩ := (List.isChain_cons.mp breaksRight).1 after mem
      refine ⟨List.append_ne_nil_of_left_ne_nil runNonempty _, filled, ?_⟩
      rw [List.getLast_append_of_right_ne_nil _ _ nextNonempty]
      exact broken
    · intro last mem first same
      obtain rfl : run ++ next = first := by simpa using same
      obtain ⟨filled, _, broken⟩ := closing last mem run (by simp)
      refine ⟨filled, List.append_ne_nil_of_left_ne_nil runNonempty _, ?_⟩
      rw [List.head_append_of_ne_nil runNonempty]
      exact broken

/-- The slices of a list at its breaks are its maximal runs. -/
theorem slices_breaks {xs : List α} (nonempty : xs ≠ []) :
    slices xs 0 (breaks near xs) = xs.splitBy near := by
  cases xs with
  | nil => exact absurd rfl nonempty
  | cons a xs =>
      induction xs generalizing a with
      | nil => simp [breaks, neighbours, flatnonzero, slices, List.splitBy_of_isChain]
      | cons b xs ih =>
          obtain ⟨stop, bounds, cut⟩ := List.exists_cons_of_ne_nil (breaks_ne_nil near (b :: xs))
          have tail := ih b (by simp)
          rw [breaks_cons_cons]
          rw [cut] at tail ⊢
          have alone : [a].splitBy near = [] ++ [[a]] := List.splitBy_of_isChain (by simp) (by simp)
          by_cases meets : near a b = true
          · have joined := splitBy_append_of_near alone tail.symm (by simpa using meets)
            rw [if_pos meets, List.nil_append, slices_cons_zero]
            simpa using joined.symm
          · have cutHere : ([a] ++ b :: xs).splitBy near = [a].splitBy near ++ (b :: xs).splitBy near :=
              List.splitBy_append (by simpa using meets)
            rw [if_neg meets, List.singleton_append, slices]
            rw [alone, List.nil_append, List.singleton_append] at cutHere
            rw [slices_cons_succ a (b :: xs) 0 (stop :: bounds), tail]
            simpa using cutHere.symm

end Lib
