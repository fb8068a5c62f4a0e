import Mathlib.Data.List.Basic

/-!
Guarded runs of a partial step function.

A system is a step function `σ → α → Option σ`: `none` says the action is not
enabled. `Run step guard s as s'` is a finite run from `s` to `s'` taking the
actions `as` in order, every step of which is enabled and meets `guard`. The
guard is a condition on the state before the step and the action taken, so
`guard = Always` is the run with no condition at all and a stronger guard
describes fewer runs (`Run.mono`).

The rules below are the only inductions over runs: `Run.invariant` for state
predicates, `Run.related` for reflexive and transitive relations between the
two ends. `exec` is the executable run, used to exhibit concrete ones.
-/

namespace Lib

universe u v

variable {σ : Type u} {α : Type v}

/-- The guard every step meets. -/
def Always : σ → α → Prop := fun _ _ => True

/-- A finite run, every step enabled and meeting the guard. -/
inductive Run (step : σ → α → Option σ) (guard : σ → α → Prop) : σ → List α → σ → Prop where
  | nil (s : σ) : Run step guard s [] s
  | cons {s s' s'' : σ} {a : α} {as : List α} :
      guard s a → step s a = some s' → Run step guard s' as s'' → Run step guard s (a :: as) s''

variable {step : σ → α → Option σ} {guard guard' : σ → α → Prop} {s s' s'' : σ}

theorem Run.single {a : α} (meets : guard s a) (taken : step s a = some s') :
    Run step guard s [a] s' :=
  .cons meets taken (.nil s')

theorem Run.append {as bs : List α} (first : Run step guard s as s')
    (second : Run step guard s' bs s'') : Run step guard s (as ++ bs) s'' := by
  induction first with
  | nil s => exact second
  | cons meets taken _ ih => exact .cons meets taken (ih second)

/-- An action of a run is taken somewhere in it. -/
theorem Run.of_mem {a : α} {as : List α} (run : Run step guard s as s') (mem : a ∈ as) :
    ∃ t t' before after, Run step guard s before t ∧ guard t a ∧ step t a = some t' ∧
      Run step guard t after s' := by
  induction run with
  | nil => cases mem
  | @cons s next last b as meets taken rest ih =>
      rcases List.mem_cons.mp mem with rfl | later
      · exact ⟨s, next, [], a :: as, .nil s, meets, taken, .cons meets taken rest⟩
      · obtain ⟨t, t', before, after, first, there, here, last⟩ := ih later
        exact ⟨t, t', b :: before, after, .cons meets taken first, there, here, last⟩

/-- Weakening the guard keeps the run. -/
theorem Run.mono {as : List α} (weaker : ∀ s a, guard s a → guard' s a)
    (run : Run step guard s as s') : Run step guard' s as s' := by
  induction run with
  | nil s => exact .nil s
  | cons meets taken _ ih => exact .cons (weaker _ _ meets) taken ih

/-- The actions of a run meet a guard that asks for nothing else. -/
theorem Run.meeting {as : List α} (run : Run step guard s as s') (meets : ∀ a ∈ as, ∀ s, guard' s a) :
    Run step guard' s as s' := by
  induction run with
  | nil s => exact .nil s
  | cons _ taken _ ih =>
      obtain ⟨here, rest⟩ := List.forall_mem_cons.mp meets
      exact .cons (here _) taken (ih rest)

/-- A predicate kept by every guarded step is kept by every guarded run. -/
theorem Run.invariant {P : σ → Prop} {as : List α}
    (keeps : ∀ s a s', P s → guard s a → step s a = some s' → P s')
    (run : Run step guard s as s') (start : P s) : P s' := by
  induction run with
  | nil s => exact start
  | cons meets taken _ ih => exact ih (keeps _ _ _ start meets taken)

/-- A reflexive and transitive relation that every guarded step respects, from
states with an invariant, relates the two ends of every guarded run. -/
theorem Run.related {P : σ → Prop} {R : σ → σ → Prop} {as : List α}
    (refl : ∀ s, R s s) (trans : ∀ s s' s'', R s s' → R s' s'' → R s s'')
    (keeps : ∀ s a s', P s → guard s a → step s a = some s' → P s' ∧ R s s')
    (run : Run step guard s as s') (start : P s) : P s' ∧ R s s' := by
  induction run with
  | nil s => exact ⟨start, refl s⟩
  | cons meets taken _ ih =>
      obtain ⟨next, here⟩ := keeps _ _ _ start meets taken
      obtain ⟨last, there⟩ := ih next
      exact ⟨last, trans _ _ _ here there⟩

/-- When good steps keep `P`, bad ones break it and nothing mends it, `P` holds after a
run exactly when every step of it was good. -/
theorem Run.holds_iff_good {I P : σ → Prop} {good : σ → α → Prop} {as : List α}
    (keeps : ∀ s a s', I s → guard s a → step s a = some s' → I s')
    (kept : ∀ s a s', I s → guard s a → step s a = some s' → good s a → P s → P s')
    (breaks : ∀ s a s', I s → guard s a → step s a = some s' → ¬ good s a → ¬ P s')
    (broken : ∀ s a s', I s → guard s a → step s a = some s' → ¬ P s → ¬ P s')
    (run : Run step guard s as s') (start : I s) (holds : P s) :
    P s' ↔ Run step (fun s a => guard s a ∧ good s a) s as s' := by
  induction run with
  | nil s => exact ⟨fun _ => .nil s, fun _ => holds⟩
  | @cons s next last a as meets taken rest ih =>
      have there := keeps s a next start meets taken
      by_cases fine : good s a
      · rw [ih there (kept s a next start meets taken fine holds)]
        refine ⟨.cons ⟨meets, fine⟩ taken, fun run => ?_⟩
        cases run with
        | cons _ again later =>
            cases taken.symm.trans again
            exact later
      · have stays := rest.invariant (P := fun s => I s ∧ ¬ P s)
          (fun s a s' both meets taken =>
            ⟨keeps s a s' both.1 meets taken, broken s a s' both.1 meets taken both.2⟩)
          ⟨there, breaks s a next start meets taken fine⟩
        refine ⟨fun holds => absurd holds stays.2, fun run => ?_⟩
        cases run with
        | cons both _ _ => exact absurd both.2 fine

instance (s : σ) (a : α) : Decidable (Always s a) := inferInstanceAs (Decidable True)

/-- The executable run: take the actions in order, failing at one that is not
enabled or does not meet the guard. -/
def exec (step : σ → α → Option σ) (guard : σ → α → Prop) [∀ s a, Decidable (guard s a)] :
    σ → List α → Option σ
  | s, [] => some s
  | s, a :: as => if guard s a then (step s a).bind fun s' => exec step guard s' as else none

theorem Run.of_exec [∀ s a, Decidable (guard s a)] {as : List α}
    (computed : exec step guard s as = some s') : Run step guard s as s' := by
  induction as generalizing s with
  | nil =>
      cases computed
      exact .nil _
  | cons a as ih =>
      unfold exec at computed
      split at computed
      · rename_i meets
        obtain ⟨next, taken, rest⟩ := Option.bind_eq_some_iff.mp computed
        exact .cons meets taken (ih rest)
      · cases computed

/-- A concrete run that ends in a state with a property. -/
theorem exists_run_of_exec (step : σ → α → Option σ) (guard : σ → α → Prop)
    [∀ s a, Decidable (guard s a)] (s : σ) (as : List α) (P : σ → Prop) [DecidablePred P]
    (computed : (exec step guard s as).any (fun s' => decide (P s')) = true) :
    ∃ s', Run step guard s as s' ∧ P s' := by
  obtain ⟨s', ran, holds⟩ := (Option.any_eq_true _ _).mp computed
  exact ⟨s', .of_exec ran, of_decide_eq_true holds⟩

/-- A state is reachable when some run with no condition leads to it. -/
def Reachable (step : σ → α → Option σ) (start s : σ) : Prop :=
  ∃ as, Run step Always start as s

theorem Reachable.invariant {P : σ → Prop}
    (keeps : ∀ s a s', P s → step s a = some s' → P s')
    (start : P s) (reach : Reachable step s s') : P s' := by
  obtain ⟨as, run⟩ := reach
  exact run.invariant (fun s a s' h _ taken => keeps s a s' h taken) start

end Lib
