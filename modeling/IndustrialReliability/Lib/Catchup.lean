import IndustrialReliability.Lib.Logs

/-!
Following an append-only log through a channel that may lose entries.

A reader is sent entries of the log and, where entries may be missing, a `reset`.
`GapFree log flow` says that whoever reads `flow` from its beginning never meets an
entry with an earlier one missing, unless a reset came before; `Covers log flow`
that no entry is missing altogether. The two are kept by sending an entry when all
but that one have been sent (`GapFree.item`), and by an entry that is appended to
the log before it is sent (`GapFree.log_concat`).
-/

namespace Lib

variable {α : Type}

inductive Delivery (α : Type) where
  | item (entry : α)
  | reset
deriving DecidableEq, Repr

/-- An entry comes after every earlier one of the log, or after a reset. -/
def InTurn (log : List α) (before : List (Delivery α)) (delivery : Delivery α) : Prop :=
  ∀ entry, delivery = .item entry → .reset ∈ before ∨
    ∀ earlier later, log = earlier ++ entry :: later → ∀ other ∈ earlier, .item other ∈ before

def GapFree (log : List α) (flow : List (Delivery α)) : Prop := Recorded (InTurn log) flow

/-- Every entry of the log has been sent, or a reset. -/
def Covers (log : List α) (flow : List (Delivery α)) : Prop :=
  .reset ∈ flow ∨ ∀ entry ∈ log, .item entry ∈ flow

variable {log : List α} {flow flow' : List (Delivery α)} {entry : α}

theorem gapFree_nil : GapFree log ([] : List (Delivery α)) := recorded_nil

/-- What has been sent first is gap free on its own. -/
theorem GapFree.of_append (gapFree : GapFree log (flow ++ flow')) : GapFree log flow :=
  fun before delivery after split => gapFree before delivery (after ++ flow') (by simp [split])

theorem GapFree.reset (gapFree : GapFree log flow) : GapFree log (flow ++ [.reset]) := by
  refine recorded_concat_iff.mpr ⟨gapFree, ?_⟩
  intro entry same
  cases same

/-- The next entry may be sent when all others have been. -/
theorem GapFree.item (gapFree : GapFree log flow) (nodup : log.Nodup)
    (others : .reset ∈ flow ∨ ∀ other ∈ log, other ≠ entry → .item other ∈ flow) :
    GapFree log (flow ++ [.item entry]) := by
  refine recorded_concat_iff.mpr ⟨gapFree, ?_⟩
  intro sent same
  cases same
  refine others.imp_right fun all earlier later split other mem => ?_
  apply all other
  · rw [split]
    exact List.mem_append_left _ mem
  · rintro rfl
    rw [split] at nodup
    exact (List.nodup_append.mp nodup).2.2 _ mem _ List.mem_cons_self rfl

/-- An entry behind those sent before it. -/
theorem GapFree.log_concat (gapFree : GapFree log flow) (unsent : .item entry ∉ flow) :
    GapFree (log ++ [entry]) flow := by
  intro before delivery after split sent same
  refine (gapFree before delivery after split sent same).imp_right
    fun all earlier later grown other mem => ?_
  subst same
  rcases List.eq_nil_or_concat' later with rfl | ⟨later, last, rfl⟩
  · obtain ⟨-, last⟩ := List.append_inj' grown rfl
    cases last
    refine absurd ?_ unsent
    rw [split]
    exact List.mem_append_right _ List.mem_cons_self
  · rw [← List.cons_append, ← List.append_assoc] at grown
    exact all earlier later (List.append_inj' grown rfl).1 other mem

/-- A log sent from its beginning, entry by entry, has no gap. -/
theorem gapFree_items (nodup : log.Nodup) : GapFree log (log.map .item) := by
  induction log using List.reverseRecOn with
  | nil => exact gapFree_nil
  | append_singleton log entry ih =>
      obtain ⟨before, -, apart⟩ := List.nodup_append.mp nodup
      have unsent : .item entry ∉ log.map Delivery.item := by
        intro sent
        obtain ⟨other, mem, same⟩ := List.mem_map.mp sent
        cases same
        exact apart _ mem _ List.mem_cons_self rfl
      rw [List.map_append]
      refine ((ih before).log_concat unsent).item nodup (.inr fun other mem differs => ?_)
      rcases List.mem_append.mp mem with mem | last
      · exact List.mem_map_of_mem mem
      · exact absurd (List.mem_singleton.mp last) differs

end Lib
