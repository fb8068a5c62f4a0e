import Mathlib.Data.List.Infix

/-!
Append-only logs.

`Logged ok log` says that every entry of a log, the latest first, was in order when
it was written: `ok` holds of the entry and of the log before it. A property of a
history is one of these, and is kept by appending an entry that is in order
(`logged_cons_iff`). `Recorded` is the same of a log that is read forwards.
-/

namespace Lib

variable {α : Type} {ok ok' : α → List α → Prop} {entry : α} {log before : List α}

/-- Every entry was in order when it was written. -/
def Logged (ok : α → List α → Prop) (log : List α) : Prop :=
  ∀ entry before, (entry :: before) <:+ log → ok entry before

@[simp] theorem logged_nil : Logged ok [] := by
  intro entry before inside
  cases List.suffix_nil.mp inside

@[simp] theorem logged_cons_iff : Logged ok (entry :: log) ↔ ok entry log ∧ Logged ok log := by
  constructor
  · intro logged
    refine ⟨logged entry log (List.suffix_refl _), ?_⟩
    intro earlier before inside
    exact logged earlier before (inside.trans (List.suffix_cons entry log))
  · rintro ⟨here, rest⟩ earlier before inside
    rcases List.suffix_cons_iff.mp inside with same | inside
    · obtain ⟨rfl, rfl⟩ := List.cons_eq_cons.mp same
      exact here
    · exact rest earlier before inside

/-! ### Read forwards -/

section Forwards

variable {ok : List α → α → Prop}

/-- Every entry, the latest last, was in order when it was written. -/
def Recorded (ok : List α → α → Prop) (log : List α) : Prop :=
  ∀ before entry after, log = before ++ entry :: after → ok before entry

theorem recorded_nil : Recorded ok [] := by
  intro before entry after split
  simp at split

theorem recorded_concat_iff : Recorded ok (log ++ [entry]) ↔ Recorded ok log ∧ ok log entry := by
  constructor
  · intro recorded
    refine ⟨fun before earlier after split => ?_, recorded log entry [] rfl⟩
    exact recorded before earlier (after ++ [entry]) (by simp [split])
  · rintro ⟨rest, here⟩ before earlier after split
    rcases List.eq_nil_or_concat' after with rfl | ⟨after, last, rfl⟩
    · obtain ⟨rfl, same⟩ := List.append_inj' split rfl
      cases same
      exact here
    · rw [← List.cons_append, ← List.append_assoc] at split
      obtain ⟨rfl, -⟩ := List.append_inj' split rfl
      exact rest before earlier after rfl

/-- More entries that are in order wherever they are written. -/
theorem Recorded.append (recorded : Recorded ok log) {more : List α}
    (fine : ∀ before, ∀ entry ∈ more, ok before entry) : Recorded ok (log ++ more) := by
  induction more using List.reverseRecOn with
  | nil => rwa [List.append_nil]
  | append_singleton more entry ih =>
      rw [← List.append_assoc, recorded_concat_iff]
      refine ⟨ih fun before earlier mem => ?_, fine _ _ (by simp)⟩
      exact fine before earlier (List.mem_append_left _ mem)

/-- What was in order stays so when later entries are taken away. -/
theorem Recorded.of_append {more : List α} (recorded : Recorded ok (log ++ more)) : Recorded ok log := by
  rintro before entry after rfl
  exact recorded before entry (after ++ more) (by simp)

/-- Two conditions that agree at every entry. -/
theorem recorded_congr {ok' : List α → α → Prop}
    (same : ∀ before entry after, log = before ++ entry :: after → (ok before entry ↔ ok' before entry)) :
    Recorded ok log ↔ Recorded ok' log :=
  forall_congr' fun before => forall_congr' fun entry => forall_congr' fun after =>
    forall_congr' fun split => same before entry after split

/-- The log of what a function reads off the entries. -/
theorem recorded_map_iff {β : Type} {ok : List β → β → Prop} (f : α → β) (log : List α) :
    Recorded ok (log.map f) ↔ Recorded (fun before entry => ok (before.map f) (f entry)) log := by
  induction log using List.reverseRecOn with
  | nil => exact iff_of_true recorded_nil recorded_nil
  | append_singleton log entry ih =>
      rw [List.map_append, List.map_singleton, recorded_concat_iff, recorded_concat_iff, ih]

end Forwards

/-! ### What a log ends with -/

section Streaks

variable {a b : α} {streak : Nat}

theorem streak_concat_same (counts : ∀ n, List.replicate n b <:+ log ↔ n ≤ streak) (n : Nat) :
    List.replicate n b <:+ log ++ [b] ↔ n ≤ streak + 1 := by
  cases n with
  | zero => simp
  | succ n =>
      rw [List.replicate_succ', Nat.add_le_add_iff_right, ← counts n, List.suffix_concat_iff]
      constructor
      · rintro (empty | ⟨t, same, suffix⟩)
        · simp at empty
        · obtain ⟨rfl, -⟩ := List.append_inj' same rfl
          exact suffix
      · exact fun suffix => .inr ⟨_, rfl, suffix⟩

theorem streak_concat_other (other : a ≠ b) (n : Nat) :
    List.replicate n b <:+ log ++ [a] ↔ n ≤ 0 := by
  cases n with
  | zero => simp
  | succ n =>
      refine iff_of_false ?_ (by omega)
      rw [List.replicate_succ', List.suffix_concat_iff]
      rintro (empty | ⟨t, same, -⟩)
      · exact absurd empty (by simp)
      · obtain ⟨-, last⟩ := List.append_inj' same rfl
        exact other (by simpa using last.symm)

/-- Two lists that end differently do not end one list. -/
theorem not_suffix_of_last (first second : List α) (differ : a ≠ b)
    (one : first ++ [a] <:+ log) : ¬ second ++ [b] <:+ log := by
  obtain ⟨front, rfl⟩ := one
  rintro ⟨other, same⟩
  rw [← List.append_assoc, ← List.append_assoc] at same
  exact differ (List.append_inj_right' same rfl |> List.singleton_inj.mp).symm

end Streaks

/-- What is at a place of a list with one more entry. -/
theorem getElem?_concat_eq_some {β : Type} {entries : List β} {last entry : β} {index : Nat} :
    (entries ++ [last])[index]? = some entry ↔
      entries[index]? = some entry ∨ index = entries.length ∧ entry = last := by
  rw [List.getElem?_append]
  split
  · rename_i inside
    exact ⟨.inl, fun either => either.resolve_right fun ⟨here, _⟩ => absurd here (Nat.ne_of_lt inside)⟩
  · rename_i beyond
    have none : entries[index]? = none := List.getElem?_eq_none (Nat.le_of_not_lt beyond)
    rw [none, List.getElem?_singleton]
    constructor
    · intro held
      split at held
      · exact .inr ⟨by omega, (Option.some.inj held).symm⟩
      · cases held
    · rintro (impossible | ⟨rfl, rfl⟩)
      · cases impossible
      · simp

end Lib
