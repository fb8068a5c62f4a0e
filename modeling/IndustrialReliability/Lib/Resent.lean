import Mathlib.Data.List.Forall2
import Mathlib.Data.Nat.Init

/-!
Items sent in order by a sender that may forget whether the last one was sent.

`Resent item sent n r` says that `sent`, the latest first, are the items below `n` one
after another, and that `r` times an item came once more before the next one did.
-/

namespace Lib

variable {α : Type}

inductive Resent (item : Nat → α → Prop) : List α → Nat → Nat → Prop where
  | nil : Resent item [] 0 0
  | next {sent : List α} {n r : Nat} {a : α} :
      Resent item sent n r → item n a → Resent item (a :: sent) (n + 1) r
  | again {sent : List α} {n r : Nat} {a : α} :
      Resent item sent (n + 1) r → item n a → Resent item (a :: sent) (n + 1) (r + 1)

variable {item : Nat → α → Prop} {sent : List α} {n r : Nat}

/-- No more is sent than there are items. -/
theorem Resent.le {bound : Nat} (resent : Resent item sent n r) (inside : ∀ k a, item k a → k < bound) :
    n ≤ bound := by
  cases resent with
  | nil => exact Nat.zero_le _
  | next _ here => exact inside _ _ here
  | again _ here => exact inside _ _ here

/-- What carries the items was sent as they were. -/
theorem Resent.of_map {β : Type} {f : β → α} {carried : List β}
    (resent : Resent item (carried.map f) n r) : Resent (fun k b => item k (f b)) carried n r := by
  generalize same : carried.map f = sent at resent
  induction resent generalizing carried with
  | nil =>
      cases List.map_eq_nil_iff.mp same
      exact .nil
  | next _ here ih =>
      obtain ⟨b, rest, rfl, rfl, rfl⟩ := List.map_eq_cons_iff.mp same
      exact .next (ih rfl) here
  | again _ here ih =>
      obtain ⟨b, rest, rfl, rfl, rfl⟩ := List.map_eq_cons_iff.mp same
      exact .again (ih rfl) here

/-- What is carried one for one is carried in the order it was sent. -/
theorem Resent.of_forall₂ {β : Type} {item' : Nat → β → Prop} {R : β → α → Prop} {carried : List β}
    (resent : Resent item sent n r) (each : List.Forall₂ R carried sent)
    (carries : ∀ k a b, R b a → item k a → item' k b) : Resent item' carried n r := by
  induction resent generalizing carried with
  | nil =>
      cases each
      exact .nil
  | next _ here ih =>
      cases each with
      | cons its rest => exact .next (ih rest) (carries _ _ _ its here)
  | again _ here ih =>
      cases each with
      | cons its rest => exact .again (ih rest) (carries _ _ _ its here)

theorem Resent.length_eq (resent : Resent item sent n r) : sent.length = n + r := by
  induction resent with
  | nil => rfl
  | next _ _ ih =>
      rw [List.length_cons, ih]
      omega
  | again _ _ ih =>
      rw [List.length_cons, ih]
      omega

theorem Resent.of_mem {a : α} (resent : Resent item sent n r) (mem : a ∈ sent) : ∃ k, item k a := by
  induction resent with
  | nil => cases mem
  | next _ here ih | again _ here ih =>
      rcases List.mem_cons.mp mem with rfl | earlier
      · exact ⟨_, here⟩
      · exact ih earlier

/-- What was sent earlier are the items from the first on, too. -/
theorem Resent.earlier {later : List α} (resent : Resent item (later ++ sent) n r) :
    ∃ n r, Resent item sent n r := by
  generalize same : later ++ sent = all at resent
  induction resent generalizing later with
  | nil =>
      obtain ⟨-, rfl⟩ := List.append_eq_nil_iff.mp same
      exact ⟨0, 0, .nil⟩
  | next before here ih =>
      rcases List.append_eq_cons_iff.mp same with ⟨-, rfl⟩ | ⟨rest, -, split⟩
      · exact ⟨_, _, .next before here⟩
      · exact ih split.symm
  | again before here ih =>
      rcases List.append_eq_cons_iff.mp same with ⟨-, rfl⟩ | ⟨rest, -, split⟩
      · exact ⟨_, _, .again before here⟩
      · exact ih split.symm

/-- When no two items are alike, how many there were shows in what was sent last. -/
theorem Resent.unique {n' r' : Nat} (resent : Resent item sent n r) (resent' : Resent item sent n' r')
    (differ : ∀ k k' a, item k a → item k' a → k = k') : n = n' := by
  cases resent with
  | nil =>
      cases resent'
      rfl
  | next _ here | again _ here =>
      cases resent' with
      | next _ here' | again _ here' => rw [differ _ _ _ here here']

end Lib
