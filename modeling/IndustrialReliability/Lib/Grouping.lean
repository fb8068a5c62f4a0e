import IndustrialReliability.Lib.Table
import Mathlib.Order.Lattice

/-!
Grouping by a key: a dictionary of lists against runs of equal keys.

`groupBy` collects the elements of a list under their keys, as a dictionary does.
`groups` cuts the list into runs of elements with one key. When the keys never
decrease the two are the same rows (`groupBy_rows`), the keys of the runs ascend
(`groups_ascending`), and the run of a key is the list filtered by it
(`mem_groups_iff`).
-/

namespace Lib

variable {α κ : Type} [LinearOrder κ]

/-- Add an element to the list of its key. -/
def addToGroup (key : α → κ) (groups : Table κ (List α)) (x : α) : Table κ (List α) :=
  groups.upsert (key x) [x] (· ++ [x])

/-- The elements under each key, in order of first occurrence of the keys. -/
def groupBy (key : α → κ) (xs : List α) : Table κ (List α) := xs.foldl (addToGroup key) .empty

/-- The runs of equal keys, the first of which has begun. -/
def groupsFrom (key : α → κ) : κ × List α → List α → List (κ × List α)
  | run, [] => [run]
  | (k, as), x :: xs =>
      if key x = k then groupsFrom key (k, as ++ [x]) xs
      else (k, as) :: groupsFrom key (key x, [x]) xs

/-- The runs of equal keys. -/
def groups (key : α → κ) : List α → List (κ × List α)
  | [] => []
  | x :: xs => groupsFrom key (key x, [x]) xs

variable {key : α → κ} {xs : List α}

/-- The first run of a list keeps its key. -/
theorem head?_groupsFrom (key : α → κ) (k : κ) (as xs : List α) :
    ∃ more rest, groupsFrom key (k, as) xs = (k, more) :: rest := by
  induction xs generalizing as with
  | nil => exact ⟨as, [], rfl⟩
  | cons x xs ih =>
      unfold groupsFrom
      split
      · exact ih (as ++ [x])
      · exact ⟨as, _, rfl⟩

theorem flatMap_groupsFrom (key : α → κ) (k : κ) (as xs : List α) :
    (groupsFrom key (k, as) xs).flatMap Prod.snd = as ++ xs := by
  induction xs generalizing k as with
  | nil => simp [groupsFrom]
  | cons x xs ih =>
      unfold groupsFrom
      split
      · simp [ih]
      · simp [ih]

/-- The runs of a list are the list. -/
theorem flatMap_groups (key : α → κ) (xs : List α) : (groups key xs).flatMap Prod.snd = xs := by
  cases xs with
  | nil => rfl
  | cons x xs => exact flatMap_groupsFrom key (key x) [x] xs

theorem groupsFrom_map {β : Type} (key : α → κ) (f : β → α) (k : κ) (bs xs : List β) :
    groupsFrom key (k, bs.map f) (xs.map f) =
      (groupsFrom (fun x => key (f x)) (k, bs) xs).map fun run => (run.1, run.2.map f) := by
  induction xs generalizing k bs with
  | nil => rfl
  | cons x xs ih =>
      rw [List.map_cons]
      unfold groupsFrom
      split
      · simpa using ih k (bs ++ [x])
      · simpa using ih (key (f x)) [x]

/-- The runs of what a function makes of a list. -/
theorem groups_map {β : Type} (key : α → κ) (f : β → α) (xs : List β) :
    groups key (xs.map f) = (groups (fun x => key (f x)) xs).map fun run => (run.1, run.2.map f) := by
  cases xs with
  | nil => rfl
  | cons x xs => exact groupsFrom_map key f (key (f x)) [x] xs

/-- One more element with the key of the last run extends it. -/
theorem groupsFrom_concat_same {run : κ × List α} {front : List (κ × List α)} {k : κ}
    {as : List α} {x : α} (split : groupsFrom key run xs = front ++ [(k, as)])
    (same : key x = k) : groupsFrom key run (xs ++ [x]) = front ++ [(k, as ++ [x])] := by
  induction xs generalizing run front with
  | nil =>
      obtain ⟨rfl, last⟩ := List.append_inj' (show [] ++ [run] = front ++ [(k, as)] from split) rfl
      obtain rfl := List.singleton_inj.mp last
      simp [groupsFrom, same]
  | cons y ys ih =>
      obtain ⟨j, bs⟩ := run
      rw [List.cons_append]
      unfold groupsFrom at split ⊢
      by_cases joins : key y = j
      · rw [if_pos joins] at split ⊢
        exact ih split
      · rw [if_neg joins] at split ⊢
        obtain ⟨more, rest, head⟩ := head?_groupsFrom key (key y) [y] ys
        rcases List.cons_eq_append_iff.mp split with ⟨rfl, last⟩ | ⟨front, rfl, tail⟩
        · rw [head] at last
          cases last
        · rw [ih tail, List.cons_append]

/-- An element with another key begins a run. -/
theorem groupsFrom_concat_new {run : κ × List α} {front : List (κ × List α)} {k : κ}
    {as : List α} {x : α} (split : groupsFrom key run xs = front ++ [(k, as)])
    (other : key x ≠ k) :
    groupsFrom key run (xs ++ [x]) = front ++ [(k, as)] ++ [(key x, [x])] := by
  induction xs generalizing run front with
  | nil =>
      obtain ⟨rfl, last⟩ := List.append_inj' (show [] ++ [run] = front ++ [(k, as)] from split) rfl
      obtain rfl := List.singleton_inj.mp last
      simp [groupsFrom, other]
  | cons y ys ih =>
      obtain ⟨j, bs⟩ := run
      rw [List.cons_append]
      unfold groupsFrom at split ⊢
      by_cases joins : key y = j
      · rw [if_pos joins] at split ⊢
        exact ih split
      · rw [if_neg joins] at split ⊢
        obtain ⟨more, rest, head⟩ := head?_groupsFrom key (key y) [y] ys
        rcases List.cons_eq_append_iff.mp split with ⟨rfl, last⟩ | ⟨front, rfl, tail⟩
        · rw [head] at last
          cases last
        · rw [ih tail, List.cons_append, List.cons_append]

theorem groups_concat_same {front : List (κ × List α)} {k : κ} {as : List α} {x : α}
    (split : groups key xs = front ++ [(k, as)]) (same : key x = k) :
    groups key (xs ++ [x]) = front ++ [(k, as ++ [x])] := by
  cases xs with
  | nil => simp [groups] at split
  | cons y ys => exact groupsFrom_concat_same split same

theorem groups_concat_new {front : List (κ × List α)} {k : κ} {as : List α} {x : α}
    (split : groups key xs = front ++ [(k, as)]) (other : key x ≠ k) :
    groups key (xs ++ [x]) = front ++ [(k, as)] ++ [(key x, [x])] := by
  cases xs with
  | nil => simp [groups] at split
  | cons y ys => exact groupsFrom_concat_new split other

/-- The list of a key grows by an element. -/
theorem addToGroup_same {t : Table κ (List α)} {closed : List (κ × List α)} {k : κ} {as : List α}
    {x : α} (rows : t.rows = closed ++ [(k, as)]) (below : ∀ g ∈ closed, g.1 < k)
    (same : key x = k) : (addToGroup key t x).rows = closed ++ [(k, as ++ [x])] := by
  have held : t.get? (key x) = some as := by
    rw [Table.get?_eq_some_iff, rows, same]
    simp
  have others : closed.map (fun row => if row.1 = key x then (row.1, row.2 ++ [x]) else row) =
      closed := by
    have each : ∀ g ∈ closed, (if g.1 = key x then (g.1, g.2 ++ [x]) else g) = g := by
      intro g mem
      rw [same, if_neg (below g mem).ne]
    exact (List.map_congr_left each).trans (List.map_id _)
  unfold addToGroup Table.upsert
  rw [held]
  dsimp only
  rw [Table.modify_rows, rows, List.map_append, others]
  simp [same]

/-- A greater key begins a list. -/
theorem addToGroup_new {t : Table κ (List α)} {x : α} (below : ∀ g ∈ t.rows, g.1 < key x) :
    (addToGroup key t x).rows = t.rows ++ [(key x, [x])] := by
  have free : t.get? (key x) = none := by
    rw [Table.get?_eq_none_iff]
    intro mem
    obtain ⟨g, held, same⟩ := List.mem_map.mp mem
    exact absurd same (below g held).ne
  unfold addToGroup Table.upsert
  rw [free]
  exact Table.insertNew_rows free

theorem foldl_addToGroup {t : Table κ (List α)} {closed : List (κ × List α)} {k : κ}
    {as : List α} (rows : t.rows = closed ++ [(k, as)]) (below : ∀ g ∈ closed, g.1 < k)
    (above : ∀ x ∈ xs, k ≤ key x) (ordered : xs.Pairwise fun a b => key a ≤ key b) :
    (xs.foldl (addToGroup key) t).rows = closed ++ groupsFrom key (k, as) xs := by
  induction xs generalizing t closed k as with
  | nil => exact rows
  | cons x xs ih =>
      obtain ⟨later, ordered⟩ := List.pairwise_cons.mp ordered
      obtain ⟨here, above⟩ := List.forall_mem_cons.mp above
      rw [List.foldl_cons]
      unfold groupsFrom
      by_cases same : key x = k
      · rw [if_pos same]
        exact ih (addToGroup_same rows below same) below above ordered
      · have less : k < key x := lt_of_le_of_ne here (Ne.symm same)
        have all : ∀ g ∈ closed ++ [(k, as)], g.1 < key x := by
          intro g mem
          rcases List.mem_append.mp mem with old | last
          · exact (below g old).trans less
          · rw [List.mem_singleton.mp last]
            exact less
        have begun := addToGroup_new (t := t) (x := x) (by rw [rows]; exact all)
        rw [rows] at begun
        rw [if_neg same, ih begun all later ordered]
        simp

/-- Keys that never decrease are grouped run by run. -/
theorem groupBy_rows (ordered : xs.Pairwise fun a b => key a ≤ key b) :
    (groupBy key xs).rows = groups key xs := by
  cases xs with
  | nil => rfl
  | cons x xs =>
      obtain ⟨later, ordered⟩ := List.pairwise_cons.mp ordered
      have first : (addToGroup key .empty x).rows = [] ++ [(key x, [x])] :=
        addToGroup_new (by simp [Table.empty])
      exact foldl_addToGroup first (by simp) later ordered

theorem groupsFrom_ascending {k : κ} {as : List α} (above : ∀ x ∈ xs, k ≤ key x)
    (ordered : xs.Pairwise fun a b => key a ≤ key b) :
    (groupsFrom key (k, as) xs).Pairwise (fun a b => a.1 < b.1) ∧
      ∀ g ∈ groupsFrom key (k, as) xs, k ≤ g.1 := by
  induction xs generalizing k as with
  | nil => simp [groupsFrom]
  | cons x xs ih =>
      obtain ⟨later, ordered⟩ := List.pairwise_cons.mp ordered
      obtain ⟨here, above⟩ := List.forall_mem_cons.mp above
      unfold groupsFrom
      by_cases same : key x = k
      · rw [if_pos same]
        exact ih above ordered
      · have less : k < key x := lt_of_le_of_ne here (Ne.symm same)
        obtain ⟨ascending, bound⟩ := @ih (key x) [x] later ordered
        rw [if_neg same]
        constructor
        · exact List.pairwise_cons.mpr ⟨fun g mem => less.trans_le (bound g mem), ascending⟩
        · intro g mem
          rcases List.mem_cons.mp mem with rfl | mem
          · exact le_refl _
          · exact less.le.trans (bound g mem)

theorem groups_ascending (ordered : xs.Pairwise fun a b => key a ≤ key b) :
    (groups key xs).Pairwise (fun a b => a.1 < b.1) := by
  cases xs with
  | nil => exact .nil
  | cons x xs =>
      obtain ⟨later, ordered⟩ := List.pairwise_cons.mp ordered
      exact (groupsFrom_ascending later ordered).1

/-- The elements with a key among runs that begin at or above `k`. -/
theorem filter_eq_nil_of_lt {k : κ} (above : ∀ x ∈ xs, k ≤ key x) {e : κ} (less : e < k) :
    xs.filter (fun x => decide (key x = e)) = [] := by
  rw [List.filter_eq_nil_iff]
  intro x mem same
  have := above x mem
  rw [of_decide_eq_true same] at this
  exact absurd less (not_lt.mpr this)

theorem filter_run {k : κ} {as : List α} (run : ∀ a ∈ as, key a = k) (e : κ) :
    as.filter (fun x => decide (key x = e)) = if e = k then as else [] := by
  split
  · rename_i same
    rw [List.filter_eq_self]
    intro a mem
    simp [run a mem, same]
  · rename_i other
    rw [List.filter_eq_nil_iff]
    intro a mem
    simp [run a mem, Ne.symm other]

theorem mem_groupsFrom_iff {k : κ} {as : List α} (begun : as ≠ []) (run : ∀ a ∈ as, key a = k)
    (above : ∀ x ∈ xs, k ≤ key x) (ordered : xs.Pairwise fun a b => key a ≤ key b)
    {g : κ × List α} :
    g ∈ groupsFrom key (k, as) xs ↔
      g.2 = (as ++ xs).filter (fun x => decide (key x = g.1)) ∧ g.2 ≠ [] := by
  obtain ⟨e, members⟩ := g
  induction xs generalizing k as with
  | nil =>
      simp only [groupsFrom, List.mem_singleton, List.append_nil, filter_run run, Prod.mk.injEq]
      constructor
      · rintro ⟨rfl, rfl⟩
        simp [begun]
      · rintro ⟨same, nonempty⟩
        by_cases here : e = k
        · simp_all
        · simp_all
  | cons x xs ih =>
      obtain ⟨later, ordered⟩ := List.pairwise_cons.mp ordered
      obtain ⟨here, above⟩ := List.forall_mem_cons.mp above
      unfold groupsFrom
      by_cases same : key x = k
      · have run' : ∀ a ∈ as ++ [x], key a = k := by
          intro a mem
          rcases List.mem_append.mp mem with old | last
          · exact run a old
          · rw [List.mem_singleton.mp last]
            exact same
        rw [if_pos same, ih (by simp) run' above ordered, List.append_assoc]
        rfl
      · have less : k < key x := lt_of_le_of_ne here (Ne.symm same)
        rw [if_neg same, List.mem_cons, ih (by simp) (by simp) later ordered, List.singleton_append,
          List.filter_append as, filter_run run]
        have fromX : ∀ y ∈ x :: xs, key x ≤ key y :=
          List.forall_mem_cons.mpr ⟨le_refl _, later⟩
        by_cases first : e = k
        · subst first
          rw [filter_eq_nil_of_lt fromX less]
          simp only [if_true, List.append_nil, Prod.mk.injEq, true_and, ne_eq]
          constructor
          · rintro (rfl | ⟨rfl, absent⟩)
            · exact ⟨rfl, begun⟩
            · exact absurd rfl absent
          · rintro ⟨rfl, -⟩
            exact .inl rfl
        · simp [first]

/-- The run of a key is the list filtered by it. -/
theorem mem_groups_iff (ordered : xs.Pairwise fun a b => key a ≤ key b) {g : κ × List α} :
    g ∈ groups key xs ↔ g.2 = xs.filter (fun x => decide (key x = g.1)) ∧ g.2 ≠ [] := by
  cases xs with
  | nil =>
      obtain ⟨e, members⟩ := g
      simp [groups]
  | cons x xs =>
      obtain ⟨later, ordered⟩ := List.pairwise_cons.mp ordered
      exact mem_groupsFrom_iff (by simp) (by simp) later ordered

end Lib
