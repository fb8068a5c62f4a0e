import IndustrialReliability.Lib.Logs

/-!
Latches over a history.

A latch is set by some histories and reset by others, never by the same. It is on
after a history when a beginning of it sets the latch and no longer beginning resets
it (`Latch.On`); `Latch.on_concat_iff` says what one more entry does. A latch that is
set and reset more readily than another one changes together with it exactly when its
changes are those of the other (`Latch.sound_iff`, `Latch.Sound.on_iff`).
-/

namespace Lib

structure Latch (α : Type) where
  sets : List α → Prop
  resets : List α → Prop
  apart : ∀ log, sets log → ¬ resets log

namespace Latch

variable {α : Type} {latch strict : Latch α} {log before : List α} {entry : α}

/-- Some beginning sets the latch, and no longer one resets it. -/
def On (latch : Latch α) (log : List α) : Prop :=
  ∃ before after, log = before ++ after ∧ latch.sets before ∧
    ∀ later, later <+: after → later ≠ [] → ¬ latch.resets (before ++ later)

theorem on_nil_iff : latch.On [] ↔ latch.sets [] := by
  constructor
  · rintro ⟨before, after, split, sets, -⟩
    obtain ⟨rfl, rfl⟩ := List.append_eq_nil_iff.mp split.symm
    exact sets
  · intro sets
    refine ⟨[], [], rfl, sets, ?_⟩
    intro later inside nonempty
    exact absurd (List.prefix_nil.mp inside) nonempty

theorem on_concat_iff : latch.On (log ++ [entry]) ↔
    latch.sets (log ++ [entry]) ∨ latch.On log ∧ ¬ latch.resets (log ++ [entry]) := by
  constructor
  · rintro ⟨before, after, split, sets, kept⟩
    rcases List.eq_nil_or_concat' after with rfl | ⟨after, last, rfl⟩
    · left
      rwa [split, List.append_nil]
    · right
      have whole := kept (after ++ [last]) (List.prefix_refl _) (by simp)
      rw [← split] at whole
      rw [← List.append_assoc] at split
      obtain ⟨rfl, -⟩ := List.append_inj' split rfl
      exact ⟨⟨before, after, rfl, sets, fun later inside =>
        kept later (inside.trans (List.prefix_append _ _))⟩, whole⟩
  · rintro (sets | ⟨⟨before, after, rfl, sets, kept⟩, stays⟩)
    · refine ⟨log ++ [entry], [], by simp, sets, ?_⟩
      intro later inside nonempty
      exact absurd (List.prefix_nil.mp inside) nonempty
    · refine ⟨before, after ++ [entry], by simp, sets, ?_⟩
      intro later inside nonempty
      rcases List.prefix_concat_iff.mp inside with rfl | shorter
      · rwa [← List.append_assoc]
      · exact kept later shorter nonempty

/-- What one more entry does to a latch that is on. -/
theorem On.concat_iff (on : latch.On log) :
    latch.On (log ++ [entry]) ↔ ¬ latch.resets (log ++ [entry]) := by
  rw [on_concat_iff]
  constructor
  · rintro (sets | ⟨-, stays⟩)
    · exact latch.apart _ sets
    · exact stays
  · exact fun stays => .inr ⟨on, stays⟩

/-- What one more entry does to a latch that is off. -/
theorem concat_iff_of_not_on (off : ¬ latch.On log) :
    latch.On (log ++ [entry]) ↔ latch.sets (log ++ [entry]) := by
  rw [on_concat_iff]
  exact ⟨fun either => either.resolve_right fun ⟨on, _⟩ => off on, .inl⟩

/-! ### Two latches -/

/-- One entry changes the latch, which is on or not before it, as it changes the
strict one. -/
def Changes (latch strict : Latch α) (on : Prop) (log : List α) : Prop :=
  (¬ on → latch.sets log → strict.sets log) ∧ (on → latch.resets log → strict.resets log)

/-- Every change of the latch is one of the strict latch. -/
def Sound (latch strict : Latch α) (log : List α) : Prop :=
  Recorded (fun before entry => Changes latch strict (latch.On before) (before ++ [entry])) log

/-- A latch is set and reset wherever the strict one is. -/
structure Looser (latch strict : Latch α) : Prop where
  sets : ∀ log, strict.sets log → latch.sets log
  resets : ∀ log, strict.resets log → latch.resets log
  nil : ¬ latch.sets []

theorem Looser.on_concat_iff (looser : Looser latch strict) (same : latch.On log ↔ strict.On log)
    (changes : Changes latch strict (strict.On log) (log ++ [entry])) :
    latch.On (log ++ [entry]) ↔ strict.On (log ++ [entry]) := by
  by_cases on : strict.On log
  · rw [(same.mpr on).concat_iff, on.concat_iff]
    exact not_congr ⟨changes.2 on, looser.resets _⟩
  · rw [concat_iff_of_not_on (mt same.mp on), concat_iff_of_not_on on]
    exact ⟨changes.1 on, looser.sets _⟩

/-- The changes of a latch are those of the strict latch exactly when they are such
wherever the strict latch is on or off; and then the two are on together. -/
theorem sound_iff (looser : Looser latch strict) (log : List α) :
    (Sound latch strict log ↔
      Recorded (fun before entry => Changes latch strict (strict.On before) (before ++ [entry])) log) ∧
      (Sound latch strict log → (latch.On log ↔ strict.On log)) := by
  induction log using List.reverseRecOn with
  | nil =>
      refine ⟨iff_of_true recorded_nil recorded_nil, fun _ => ?_⟩
      rw [on_nil_iff, on_nil_iff]
      exact iff_of_false looser.nil fun sets => looser.nil (looser.sets _ sets)
  | append_singleton log entry ih =>
      obtain ⟨ih, together⟩ := ih
      unfold Sound at *
      rw [recorded_concat_iff, recorded_concat_iff]
      refine ⟨⟨?_, ?_⟩, ?_⟩
      · rintro ⟨rest, here⟩
        exact ⟨ih.mp rest, by rwa [together rest] at here⟩
      · rintro ⟨rest, here⟩
        have sound := ih.mpr rest
        exact ⟨sound, by rwa [together sound]⟩
      · rintro ⟨rest, here⟩
        rw [together rest] at here
        exact looser.on_concat_iff (together rest) here

end Latch

end Lib
