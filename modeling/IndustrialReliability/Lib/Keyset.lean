import IndustrialReliability.Lib.Table
import Mathlib.Data.List.Sort
import Mathlib.Data.List.Perm.Subperm

/-!
Reading a table page by page, each page after the last key of the one before.

The table may change between two pages. A key that is stored all along is listed once
the listing has passed it, and no key is listed twice, whatever else is stored meanwhile.
-/

namespace Lib.Keyset

variable {κ ρ : Type} [LinearOrder κ] {table : Table κ ρ} {tables : List (Table κ ρ)}
  {cursor : Option κ} {limit : Nat} {k : κ} {row : κ × ρ} {rows : List (κ × ρ)}

/-! ### Pages -/

/-- The key comes after the cursor, if there is one. -/
def After (cursor : Option κ) (k : κ) : Prop := ∀ last ∈ cursor, last < k

instance (cursor : Option κ) (k : κ) : Decidable (After cursor k) :=
  match cursor with
  | none => isTrue fun _ held => absurd held (Option.not_mem_none _)
  | some last => decidable_of_iff (last < k) (by simp [After])

@[simp] theorem after_none : After none k :=
  fun _ held => absurd held (Option.not_mem_none _)

@[simp] theorem after_some {last : κ} : After (some last) k ↔ last < k := by simp [After]

theorem After.trans {k' : κ} (after : After cursor k) (le : k < k') : After cursor k' :=
  fun last held => (after last held).trans le

/-- `WHERE key > cursor ORDER BY key`. -/
def remaining (table : Table κ ρ) (cursor : Option κ) : List (κ × ρ) :=
  (table.rows.filter fun row => After cursor row.1).insertionSort fun a b => a.1 ≤ b.1

/-- `WHERE key > cursor ORDER BY key LIMIT limit`. -/
def page (table : Table κ ρ) (cursor : Option κ) (limit : Nat) : List (κ × ρ) :=
  (remaining table cursor).take limit

/-- The cursor of the page after these rows. -/
def next (cursor : Option κ) (rows : List (κ × ρ)) : Option κ :=
  match rows.getLast? with
  | some row => some row.1
  | none => cursor

theorem mem_remaining : row ∈ remaining table cursor ↔ row ∈ table.rows ∧ After cursor row.1 := by
  unfold remaining
  rw [List.mem_insertionSort, List.mem_filter, decide_eq_true_iff]

theorem remaining_ascending (table : Table κ ρ) (cursor : Option κ) :
    (remaining table cursor).Pairwise fun a b => a.1 < b.1 := by
  have total : Std.Total fun a b : κ × ρ => a.1 ≤ b.1 := ⟨fun a b => le_total a.1 b.1⟩
  have trans : IsTrans (κ × ρ) fun a b => a.1 ≤ b.1 := ⟨fun _ _ _ => le_trans⟩
  have sorted : (remaining table cursor).Pairwise fun a b => a.1 ≤ b.1 :=
    List.pairwise_insertionSort _ _
  have distinct : (remaining table cursor).Pairwise fun a b => a.1 ≠ b.1 := by
    refine List.pairwise_map.mp ?_
    have perm := (List.perm_insertionSort (fun a b : κ × ρ => a.1 ≤ b.1)
      (table.rows.filter fun row => After cursor row.1)).map Prod.fst
    refine perm.nodup_iff.mpr (table.keys_nodup.sublist ?_)
    exact List.filter_sublist.map Prod.fst
  exact sorted.imp₂ (fun _ _ le ne => lt_of_le_of_ne le ne) distinct

theorem mem_of_mem_page (mem : row ∈ page table cursor limit) :
    row ∈ table.rows ∧ After cursor row.1 :=
  mem_remaining.mp (List.mem_of_mem_take mem)

theorem page_ascending (table : Table κ ρ) (cursor : Option κ) (limit : Nat) :
    (page table cursor limit).Pairwise fun a b => a.1 < b.1 :=
  (remaining_ascending table cursor).sublist (List.take_sublist _ _)

/-- What the next page is read after. -/
theorem after_next_iff (ascending : rows.Pairwise fun a b => a.1 < b.1)
    (after : ∀ row ∈ rows, After cursor row.1) :
    After (next cursor rows) k ↔ After cursor k ∧ ∀ row ∈ rows, row.1 < k := by
  rcases List.eq_nil_or_concat rows with rfl | ⟨earlier, last, rfl⟩
  · simp [next]
  · rw [List.concat_eq_append] at *
    have its : last ∈ earlier ++ [last] := List.mem_append_right _ (List.mem_singleton_self last)
    have cursor_eq : next cursor (earlier ++ [last]) = some last.1 := by
      unfold next
      rw [List.getLast?_concat]
    rw [cursor_eq, after_some]
    constructor
    · intro less
      refine ⟨(after last its).trans less, fun row mem => ?_⟩
      rcases List.mem_append.mp mem with old | new
      · have before := (List.pairwise_append.mp ascending).2.2 row old
        exact (before last (List.mem_singleton_self last)).trans less
      · cases List.mem_singleton.mp new
        exact less
    · rintro ⟨-, above⟩
      exact above last its

/-- A stored key after the cursor is on the page or behind it, and then the page is full. -/
theorem page_covers (stored : k ∈ table.keys) (after : After cursor k) :
    (∃ row ∈ page table cursor limit, row.1 = k) ∨
      (page table cursor limit).length = limit ∧
        After (next cursor (page table cursor limit)) k := by
  obtain ⟨row, mem, rfl⟩ := List.mem_map.mp stored
  have whole : page table cursor limit ++ (remaining table cursor).drop limit =
      remaining table cursor := List.take_append_drop limit _
  have waits : row ∈ page table cursor limit ++ (remaining table cursor).drop limit := by
    rw [whole]
    exact mem_remaining.mpr ⟨mem, after⟩
  rcases List.mem_append.mp waits with here | behind
  · exact .inl ⟨row, here, rfl⟩
  · refine .inr ⟨?_, (after_next_iff (page_ascending table cursor limit)
      fun row mem => (mem_of_mem_page mem).2).mpr ⟨after, fun other its => ?_⟩⟩
    · have more := List.length_pos_of_mem behind
      rw [List.length_drop] at more
      exact List.length_take_of_le (by omega)
    · have ascending := remaining_ascending table cursor
      rw [← whole] at ascending
      exact (List.pairwise_append.mp ascending).2.2 other its row behind

/-! ### Listings -/

/-- The pages of a listing, each read from a table of its own. -/
def pages (limit : Nat) : Option κ → List (Table κ ρ) → List (List (κ × ρ))
  | _, [] => []
  | cursor, table :: later =>
      let rows := page table cursor limit
      rows :: pages limit (next cursor rows) later

/-- The cursor that a listing has reached. -/
def reached (limit : Nat) : Option κ → List (Table κ ρ) → Option κ
  | cursor, [] => cursor
  | cursor, table :: later => reached limit (next cursor (page table cursor limit)) later

theorem after_next_page_iff : After (next cursor (page table cursor limit)) k ↔
    After cursor k ∧ ∀ row ∈ page table cursor limit, row.1 < k :=
  after_next_iff (page_ascending table cursor limit) fun _ mem => (mem_of_mem_page mem).2

theorem mem_of_mem_pages (listed : row ∈ (pages limit cursor tables).flatten) :
    After cursor row.1 ∧ ∃ table ∈ tables, row ∈ table.rows := by
  induction tables generalizing cursor with
  | nil => cases listed
  | cons table later ih =>
      rcases List.mem_append.mp listed with here | rest
      · obtain ⟨stored, after⟩ := mem_of_mem_page here
        exact ⟨after, table, List.mem_cons_self, stored⟩
      · obtain ⟨after, other, mem, stored⟩ := ih rest
        exact ⟨(after_next_page_iff.mp after).1, other, List.mem_cons_of_mem _ mem, stored⟩

/-- The keys of a listing ascend: none is listed twice. -/
theorem pages_ascending (limit : Nat) (cursor : Option κ) (tables : List (Table κ ρ)) :
    (pages limit cursor tables).flatten.Pairwise fun a b => a.1 < b.1 := by
  induction tables generalizing cursor with
  | nil => exact .nil
  | cons table later ih =>
      refine List.pairwise_append.mpr ⟨page_ascending table cursor limit, ih _, ?_⟩
      intro row here other rest
      exact (after_next_page_iff.mp (mem_of_mem_pages rest).1).2 row here

theorem after_reached_iff : After (reached limit cursor tables) k ↔
    After cursor k ∧ ∀ row ∈ (pages limit cursor tables).flatten, row.1 < k := by
  induction tables generalizing cursor with
  | nil => simp [reached, pages]
  | cons table later ih =>
      rw [reached, ih, after_next_page_iff, and_assoc]
      refine and_congr_right fun _ => ?_
      rw [pages, List.flatten_cons, List.forall_mem_append]

/-- A key that is stored all along is listed, or all pages are full and have not
reached it. -/
theorem pages_cover (stored : ∀ table ∈ tables, k ∈ table.keys) (after : After cursor k) :
    (∃ row ∈ (pages limit cursor tables).flatten, row.1 = k) ∨
      (∀ rows ∈ pages limit cursor tables, rows.length = limit) ∧
        After (reached limit cursor tables) k := by
  induction tables generalizing cursor with
  | nil => exact .inr ⟨fun _ mem => absurd mem List.not_mem_nil, after⟩
  | cons table later ih =>
      obtain ⟨here, rest⟩ := List.forall_mem_cons.mp stored
      rcases page_covers here after with ⟨row, listed, same⟩ | ⟨full, behind⟩
      · exact .inl ⟨row, List.mem_append_left _ listed, same⟩
      · rcases ih rest behind with ⟨row, listed, same⟩ | ⟨all, beyond⟩
        · exact .inl ⟨row, List.mem_append_right _ listed, same⟩
        · exact .inr ⟨List.forall_mem_cons.mpr ⟨full, all⟩, beyond⟩

/-- Of the keys that are stored all along, a listing has those that it has passed. -/
theorem listed_iff (stored : ∀ table ∈ tables, k ∈ table.keys) (after : After cursor k) :
    (∃ row ∈ (pages limit cursor tables).flatten, row.1 = k) ↔
      ∃ row ∈ (pages limit cursor tables).flatten, k ≤ row.1 := by
  constructor
  · rintro ⟨row, mem, rfl⟩
    exact ⟨row, mem, le_rfl⟩
  · rintro ⟨row, mem, passed⟩
    refine (pages_cover stored after).resolve_right fun unlisted => ?_
    exact passed.not_gt ((after_reached_iff.mp unlisted.2).2 row mem)

/-- A page that is not full ends the listing. -/
theorem listed_of_short (stored : ∀ table ∈ tables, k ∈ table.keys) (after : After cursor k)
    (mem : rows ∈ pages limit cursor tables) (short : rows.length < limit) :
    ∃ row ∈ (pages limit cursor tables).flatten, row.1 = k :=
  (pages_cover stored after).resolve_right fun unlisted => short.ne (unlisted.1 rows mem)

/-- The full pages of a listing are of different keys. -/
theorem full_pages_le {last : Table κ ρ}
    (kept : ∀ table ∈ tables, ∀ k ∈ table.keys, k ∈ last.keys) :
    (pages limit cursor tables).countP (fun rows => rows.length = limit) * limit ≤
      last.rows.length := by
  have counted : ∀ lists : List (List (κ × ρ)),
      lists.countP (fun rows => rows.length = limit) * limit ≤ lists.flatten.length := by
    intro lists
    induction lists with
    | nil => simp
    | cons rows later ih =>
        rw [List.countP_cons, List.flatten_cons, List.length_append, Nat.add_mul]
        by_cases full : rows.length = limit
        · simp only [full, decide_true, if_true]
          omega
        · simp only [full, decide_false, Bool.false_eq_true, if_false]
          omega
  have distinct : ((pages limit cursor tables).flatten.map Prod.fst).Nodup :=
    List.pairwise_map.mpr ((pages_ascending limit cursor tables).imp fun less => less.ne)
  have inside : (pages limit cursor tables).flatten.map Prod.fst ⊆ last.keys := by
    intro k listed
    obtain ⟨row, mem, rfl⟩ := List.mem_map.mp listed
    obtain ⟨-, table, its, stored⟩ := mem_of_mem_pages mem
    exact kept table its row.1 (List.mem_map_of_mem stored)
  have fits := (List.subperm_of_subset distinct inside).length_le
  rw [List.length_map, Table.keys, List.length_map] at fits
  exact (counted _).trans fits

end Lib.Keyset
