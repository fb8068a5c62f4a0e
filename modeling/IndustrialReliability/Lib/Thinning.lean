import Mathlib.Algebra.Order.Group.Defs
import Mathlib.Algebra.Order.Sub.Defs
import Mathlib.Data.List.Chain
import Mathlib.Logic.Function.Basic

/-!
Thinning a stream of timed arrivals.

An arrival passes when no arrival of its key has passed yet, or the last one that has
lies at least `gap` before it (`thin`). When the keys are shared by several owners,
thinning the whole stream gives every owner what thinning its own arrivals gives
exactly when the arrivals that pass for their owners alone are already spaced on every
key (`thin_apart_iff`).
-/

namespace Lib

universe u v w z

variable {α : Type u} {κ : Type v} {σ : Type w} {T : Type z} [DecidableEq κ] [DecidableEq σ]
  [AddCommGroup T] [LinearOrder T]

/-- A time is at least `gap` behind the last one, if there is one. -/
def Due (gap : T) (last : Option T) (time : T) : Prop :=
  ∀ before ∈ last, gap ≤ time - before

instance (gap : T) (last : Option T) (time : T) : Decidable (Due gap last time) := by
  unfold Due
  cases last with
  | none => exact .isTrue nofun
  | some before => exact decidable_of_iff (gap ≤ time - before) (by simp)

/-- The arrivals that pass, given when the last one of each key has passed. -/
def thin (gap : T) (key : α → κ) (time : α → T) : (κ → Option T) → List α → List α
  | _, [] => []
  | last, x :: xs =>
      if Due gap (last (key x)) (time x) then
        x :: thin gap key time (Function.update last (key x) (some (time x))) xs
      else thin gap key time last xs

section Thin

variable {gap : T} {key : α → κ} {owner : α → σ} {time : α → T} {last : κ → Option T}
  {own : σ × κ → Option T} {x : α} {xs : List α}

theorem thin_of_due (due : Due gap (last (key x)) (time x)) :
    thin gap key time last (x :: xs) =
      x :: thin gap key time (Function.update last (key x) (some (time x))) xs := by
  rw [thin, if_pos due]

theorem thin_of_not_due (early : ¬ Due gap (last (key x)) (time x)) :
    thin gap key time last (x :: xs) = thin gap key time last xs := by
  rw [thin, if_neg early]

variable (gap key time) in
theorem thin_sublist (last : κ → Option T) (xs : List α) :
    (thin gap key time last xs).Sublist xs := by
  induction xs generalizing last with
  | nil => exact .refl _
  | cons x xs ih =>
      by_cases due : Due gap (last (key x)) (time x)
      · rw [thin_of_due due]
        exact (ih _).cons_cons x
      · rw [thin_of_not_due due]
        exact (ih _).cons x

/-- What passes unchanged starts with an arrival that is due. -/
theorem thin_cons_eq_self_iff : thin gap key time last (x :: xs) = x :: xs ↔
    Due gap (last (key x)) (time x) ∧
      thin gap key time (Function.update last (key x) (some (time x))) xs = xs := by
  by_cases due : Due gap (last (key x)) (time x)
  · simp [thin_of_due due, due]
  · refine iff_of_false ?_ fun passes => due passes.1
    rw [thin_of_not_due due]
    intro same
    have shorter := (thin_sublist gap key time last xs).length_le
    rw [same, List.length_cons] at shorter
    omega

/-- All arrivals pass when those of each key are spaced. -/
theorem thin_eq_self_iff : thin gap key time last xs = xs ↔ ∀ k,
    ((last k).toList ++ (xs.filter (key · = k)).map time).IsChain fun a b => gap ≤ b - a := by
  induction xs generalizing last with
  | nil =>
      refine iff_of_true rfl fun k => ?_
      cases last k with
      | none => exact .nil
      | some t => exact .singleton t
  | cons x xs ih =>
      rw [thin_cons_eq_self_iff, ih]
      constructor
      · rintro ⟨due, spaced⟩ k
        have later := spaced k
        by_cases mine : key x = k
        · subst mine
          rw [Function.update_self] at later
          rw [List.filter_cons_of_pos (by simp), List.map_cons]
          cases held : last (key x) with
          | none => exact later
          | some t => exact .cons_cons (due t held) later
        · rw [Function.update_of_ne (Ne.symm mine)] at later
          rw [List.filter_cons_of_neg (by simpa using mine)]
          exact later
      · intro spaced
        constructor
        · intro t held
          have here := spaced (key x)
          have held : last (key x) = some t := held
          rw [held, List.filter_cons_of_pos (by simp), List.map_cons] at here
          exact (List.isChain_cons_cons.mp here).1
        · intro k
          have here := spaced k
          by_cases mine : key x = k
          · subst mine
            rw [Function.update_self]
            rw [List.filter_cons_of_pos (by simp), List.map_cons] at here
            exact here.right_of_append
          · rw [Function.update_of_ne (Ne.symm mine)]
            rw [List.filter_cons_of_neg (by simpa using mine)] at here
            exact here

omit [AddCommGroup T] [LinearOrder T] in
/-- The times an owner's arrivals have passed at, by key. -/
theorem own_update (s : σ) (p : σ × κ) (t : T) :
    (fun k => Function.update own p (some t) (s, k)) =
      if s = p.1 then Function.update (fun k => own (s, k)) p.2 (some t) else fun k => own (s, k) := by
  obtain ⟨s', k'⟩ := p
  funext k
  by_cases mine : s = s'
  · subst mine
    rw [if_pos rfl]
    by_cases same : k = k'
    · subst same
      simp
    · simp [same]
  · simp [mine]

end Thin

section Owners

variable [IsOrderedAddMonoid T] {gap : T} {key : α → κ} {owner : α → σ} {time : α → T}
  {last : κ → Option T} {own : σ × κ → Option T} {x : α} {xs : List α}

/-- The arrivals of every owner are in order, also after those that have passed. -/
structure InOrder (owner : α → σ) (key : α → κ) (time : α → T) (own : σ × κ → Option T)
    (xs : List α) : Prop where
  ordered : ∀ s, (xs.filter (owner · = s)).Pairwise fun a b => time a ≤ time b
  after : ∀ x ∈ xs, ∀ t ∈ own (owner x, key x), t ≤ time x

/-- The last arrival of a key to pass is no earlier than the last of each owner, when
passing takes time. -/
def Ahead (gap : T) (last : κ → Option T) (own : σ × κ → Option T) : Prop :=
  0 ≤ gap → ∀ s k, ∀ t ∈ own (s, k), ∃ t' ∈ last k, t ≤ t'

omit [DecidableEq κ] [AddCommGroup T] [IsOrderedAddMonoid T] in
theorem InOrder.tail (inOrder : InOrder owner key time own (x :: xs)) :
    InOrder owner key time own xs where
  ordered s := by
    have here := inOrder.ordered s
    by_cases mine : owner x = s
    · rw [List.filter_cons_of_pos (by simpa using mine)] at here
      exact here.of_cons
    · rwa [List.filter_cons_of_neg (by simpa using mine)] at here
  after y mem := inOrder.after y (List.mem_cons_of_mem x mem)

omit [AddCommGroup T] [IsOrderedAddMonoid T] in
theorem InOrder.pass (inOrder : InOrder owner key time own (x :: xs)) :
    InOrder owner key time (Function.update own (owner x, key x) (some (time x))) xs where
  ordered := inOrder.tail.ordered
  after y mem t passed := by
    by_cases same : (owner y, key y) = (owner x, key x)
    · rw [same, Function.update_self] at passed
      obtain rfl := Option.some.inj passed
      have here := inOrder.ordered (owner x)
      rw [List.filter_cons_of_pos (by simp)] at here
      refine (List.pairwise_cons.mp here).1 y (List.mem_filter.mpr ⟨mem, ?_⟩)
      simpa using (Prod.mk.inj same).1
    · rw [Function.update_of_ne same] at passed
      exact inOrder.after y (List.mem_cons_of_mem x mem) t passed

theorem Ahead.pass (ahead : Ahead gap last own) (due : Due gap (last (key x)) (time x)) :
    Ahead gap (Function.update last (key x) (some (time x)))
      (Function.update own (owner x, key x) (some (time x))) := by
  intro positive s k t passed
  by_cases sameKey : k = key x
  · subst sameKey
    refine ⟨time x, by simp, ?_⟩
    by_cases mine : (s, key x) = (owner x, key x)
    · rw [mine, Function.update_self] at passed
      exact (Option.some.inj passed).ge
    · rw [Function.update_of_ne mine] at passed
      obtain ⟨t', held, earlier⟩ := ahead positive s (key x) t passed
      exact earlier.trans (sub_nonneg.mp (positive.trans (due t' held)))
  · rw [Function.update_of_ne (by simp [sameKey])] at passed
    rw [Function.update_of_ne sameKey]
    exact ahead positive s k t passed

omit [DecidableEq κ] in
/-- What is too early for its owner is too early for its key. -/
theorem Ahead.early (ahead : Ahead gap last own) (inOrder : InOrder owner key time own (x :: xs))
    (early : ¬ Due gap (own (owner x, key x)) (time x)) : ¬ Due gap (last (key x)) (time x) := by
  unfold Due at early
  push Not at early
  obtain ⟨t, passed, close⟩ := early
  have apart := inOrder.after x List.mem_cons_self t passed
  have positive : 0 ≤ gap := (sub_nonneg.mpr apart).trans close.le
  obtain ⟨t', held, earlier⟩ := ahead positive (owner x) (key x) t passed
  intro due
  exact absurd ((due t' held).trans (sub_le_sub_left earlier _)) (not_le.mpr close)

/-- Arrivals of a key that pass do so `gap` after the last one. -/
theorem le_of_mem_thin (positive : 0 ≤ gap) {k : κ} {t : T} (held : last k = some t) {y : α}
    (mem : y ∈ thin gap key time last xs) (mine : key y = k) : gap ≤ time y - t := by
  induction xs generalizing last t with
  | nil => cases mem
  | cons x xs ih =>
      by_cases due : Due gap (last (key x)) (time x)
      · rw [thin_of_due due] at mem
        rcases List.mem_cons.mp mem with rfl | mem
        · exact due t (mine ▸ held)
        · by_cases same : k = key x
          · have later := ih (t := time x) (by rw [same, Function.update_self]) mem
            have here : gap ≤ time x - t := due t (same ▸ held)
            have forward : t ≤ time x := sub_nonneg.mp (positive.trans here)
            exact later.trans (sub_le_sub_left forward _)
          · exact ih (by rw [Function.update_of_ne same, held]) mem
      · rw [thin_of_not_due due] at mem
        exact ih held mem

/-- When passing takes no time, the arrivals of an owner all pass alone. -/
theorem thin_own_eq_self (negative : gap ≤ 0) (s : σ) (inOrder : InOrder owner key time own xs) :
    thin gap key time (fun k => own (s, k)) (xs.filter (owner · = s)) = xs.filter (owner · = s) := by
  induction xs generalizing own with
  | nil => rfl
  | cons x xs ih =>
      by_cases mine : owner x = s
      · subst mine
        rw [List.filter_cons_of_pos (by simp), thin_cons_eq_self_iff]
        constructor
        · intro t passed
          exact negative.trans (sub_nonneg.mpr (inOrder.after x List.mem_cons_self t passed))
        · have rest := ih inOrder.pass
          rw [own_update, if_pos rfl] at rest
          exact rest
      · rw [List.filter_cons_of_neg (by simpa using mine)]
        exact ih inOrder.tail

/-- An arrival that passes alone and not among the others is missed. -/
theorem thin_missed (inOrder : InOrder owner key time own (x :: xs))
    (alone : Due gap (own (owner x, key x)) (time x)) (early : ¬ Due gap (last (key x)) (time x)) :
    (thin gap key time last (x :: xs)).filter (owner · = owner x) ≠
      thin gap key time (fun k => own (owner x, k)) ((x :: xs).filter (owner · = owner x)) := by
  rw [thin_of_not_due early, List.filter_cons_of_pos (by simp), thin_of_due alone]
  intro same
  rcases le_total 0 gap with positive | negative
  · have missed : x ∈ thin gap key time last xs := by
      refine List.mem_of_mem_filter (p := (owner · = owner x)) ?_
      rw [same]
      exact List.mem_cons_self
    refine early fun t held => ?_
    exact le_of_mem_thin positive held missed rfl
  · have rest := thin_own_eq_self negative (owner x) inOrder.pass
    rw [own_update, if_pos rfl] at rest
    rw [rest] at same
    have shorter := ((thin_sublist gap key time last xs).filter
      (owner · = owner x)).length_le
    rw [same, List.length_cons] at shorter
    omega

/-- Every owner gets what it would get alone exactly when what passes for the owners alone
also passes together. -/
theorem thin_apart (inOrder : InOrder owner key time own xs) (ahead : Ahead gap last own) :
    (∀ s, (thin gap key time last xs).filter (owner · = s) =
        thin gap key time (fun k => own (s, k)) (xs.filter (owner · = s))) ↔
      thin gap key time last (thin gap (fun x => (owner x, key x)) time own xs) =
        thin gap (fun x => (owner x, key x)) time own xs := by
  induction xs generalizing last own with
  | nil => simp [thin]
  | cons x xs ih =>
      by_cases alone : Due gap (own (owner x, key x)) (time x)
      · have passed : thin gap (fun x => (owner x, key x)) time own (x :: xs) = x ::
            thin gap (fun x => (owner x, key x)) time
              (Function.update own (owner x, key x) (some (time x))) xs := thin_of_due alone
        rw [passed, thin_cons_eq_self_iff]
        by_cases due : Due gap (last (key x)) (time x)
        · rw [thin_of_due due, ← ih inOrder.pass (ahead.pass due), and_iff_right due]
          refine forall_congr' fun s => ?_
          rw [own_update]
          by_cases mine : owner x = s
          · subst mine
            rw [if_pos rfl, List.filter_cons_of_pos (by simp), List.filter_cons_of_pos (by simp),
              thin_of_due alone, List.cons.injEq, and_iff_right rfl]
          · rw [if_neg (Ne.symm mine), List.filter_cons_of_neg (by simpa using mine),
              List.filter_cons_of_neg (by simpa using mine)]
        · exact iff_of_false (fun apart => thin_missed inOrder alone due (apart (owner x)))
            fun passes => due passes.1
      · have early := ahead.early inOrder alone
        have dropped : thin gap (fun x => (owner x, key x)) time own (x :: xs) =
            thin gap (fun x => (owner x, key x)) time own xs := thin_of_not_due alone
        rw [thin_of_not_due early, dropped, ← ih inOrder.tail ahead]
        refine forall_congr' fun s => ?_
        by_cases mine : owner x = s
        · subst mine
          rw [List.filter_cons_of_pos (by simp), thin_of_not_due alone]
        · rw [List.filter_cons_of_neg (by simpa using mine)]

/-- From the start, every owner gets what it would get alone exactly when the arrivals
that pass for their owners alone are spaced on every key. -/
theorem thin_apart_iff
    (ordered : ∀ s, (xs.filter (owner · = s)).Pairwise fun a b => time a ≤ time b) :
    (∀ s, (thin gap key time (fun _ => none) xs).filter (owner · = s) =
        thin gap key time (fun _ => none) (xs.filter (owner · = s))) ↔
      ∀ k, (((thin gap (fun x => (owner x, key x)) time (fun _ => none) xs).filter
        (key · = k)).map time).IsChain fun a b => gap ≤ b - a := by
  have inOrder : InOrder owner key time (fun _ => none) xs := ⟨ordered, nofun⟩
  rw [thin_apart inOrder nofun, thin_eq_self_iff]
  exact forall_congr' fun k => .rfl

end Owners

end Lib
