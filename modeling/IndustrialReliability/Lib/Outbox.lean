import Mathlib.Data.List.Nodup
import Mathlib.Order.Lattice

/-!
An outbox that is drained by least id first.

`recorded` are the ids of one stream of messages in the order they were written,
`sent` those delivered so far in the order of their first delivery, `inFlight`
the one a drainer has taken and not yet delivered. Taking the least id first
delivers in the order of writing as long as the ids left waiting ascend in that
order: `InStep` says that they do, and what has been delivered is then a prefix
of what was written. The rules below are the four moves: a message is written, a
message is taken, delivered, or given up.
-/

namespace Lib.Outbox

variable {κ : Type} [LinearOrder κ]

/-- The ids written, not delivered and not in flight, in the order of writing. -/
def waiting (recorded sent : List κ) (inFlight : Option κ) : List κ :=
  recorded.filter fun id => decide (id ∉ sent ∧ inFlight ≠ some id)

structure InStep (recorded sent : List κ) (inFlight : Option κ) : Prop where
  nodup : recorded.Nodup
  sentFirst : sent <+: recorded
  ascending : (waiting recorded sent inFlight).Pairwise (· < ·)
  next : ∀ id ∈ inFlight, id ∈ recorded → id ∉ sent → sent ++ [id] <+: recorded

variable {recorded sent : List κ} {inFlight : Option κ} {id : κ}

theorem inStep_nil (inFlight : Option κ) : InStep ([] : List κ) [] inFlight :=
  ⟨List.nodup_nil, List.prefix_rfl, List.Pairwise.nil, fun _ _ mem => absurd mem List.not_mem_nil⟩

/-- Behind the delivered prefix, everything not in flight waits. -/
theorem waiting_append {rest : List κ} (nodup : (sent ++ rest).Nodup) :
    waiting (sent ++ rest) sent inFlight = rest.filter fun id => decide (inFlight ≠ some id) := by
  unfold waiting
  have delivered : ∀ id ∈ sent, ¬ decide (id ∉ sent ∧ inFlight ≠ some id) = true :=
    fun id mem kept => (of_decide_eq_true kept).1 mem
  rw [List.filter_append, List.filter_eq_nil_iff.mpr delivered, List.nil_append]
  apply List.filter_congr
  intro id mem
  have fresh : id ∉ sent := fun old => (List.nodup_append.mp nodup).2.2 id old id mem rfl
  simp [fresh]

namespace InStep

/-- A message is written: its id must exceed those that wait. -/
theorem record (held : InStep recorded sent inFlight) (fresh : id ∉ recorded)
    (other : inFlight ≠ some id) (above : ∀ w ∈ waiting recorded sent inFlight, w < id) :
    InStep (recorded ++ [id]) sent inFlight := by
  have unsent : id ∉ sent := fun mem => fresh (held.sentFirst.subset mem)
  refine ⟨?_, held.sentFirst.trans (List.prefix_append _ _), ?_, fun taken here mem new => ?_⟩
  · simpa [List.nodup_append] using ⟨held.nodup, fun a mem same => fresh (same ▸ mem)⟩
  · have grown : waiting (recorded ++ [id]) sent inFlight =
        waiting recorded sent inFlight ++ [id] := by
      simp [waiting, List.filter_append, unsent, other]
    rw [grown, List.pairwise_append]
    refine ⟨held.ascending, List.pairwise_singleton _ _, fun w mem b last => ?_⟩
    rw [List.mem_singleton.mp last]
    exact above w mem
  · have inside : taken ∈ recorded := by
      rcases List.mem_append.mp mem with inside | last
      · exact inside
      · obtain rfl := List.mem_singleton.mp last
        exact absurd here other
    exact (held.next taken here inside new).trans (List.prefix_append _ _)

/-- A message is taken: it is the least of those not delivered, or was delivered
before. -/
theorem select (held : InStep recorded sent none)
    (least : id ∈ recorded → id ∉ sent → ∀ w ∈ recorded, w ∉ sent → id ≤ w) :
    InStep recorded sent (some id) := by
  obtain ⟨rest, rfl⟩ := held.sentFirst
  have all : waiting (sent ++ rest) sent none = rest := by
    rw [waiting_append held.nodup]
    simp
  have ascending := held.ascending
  rw [all] at ascending
  refine ⟨held.nodup, held.sentFirst, ?_, fun taken same mem new => ?_⟩
  · rw [waiting_append held.nodup]
    exact ascending.filter _
  · obtain rfl := Option.some.inj same
    have inRest : id ∈ rest := (List.mem_append.mp mem).resolve_left new
    obtain ⟨first, tail, rfl⟩ := List.exists_cons_of_ne_nil (List.ne_nil_of_mem inRest)
    have firstNew : first ∉ sent := fun old =>
      (List.nodup_append.mp held.nodup).2.2 first old first List.mem_cons_self rfl
    have le := least mem new first (by simp) firstNew
    -- The list ascends, so its least element is its first.
    rcases List.mem_cons.mp inRest with rfl | later
    · exact ⟨tail, by simp⟩
    · exact absurd ((List.pairwise_cons.mp ascending).1 id later) (not_lt.mpr le)

/-- The message in flight is delivered. -/
theorem deliver (held : InStep recorded sent (some id)) (mem : id ∈ recorded) (new : id ∉ sent) :
    InStep recorded (sent ++ [id]) none := by
  obtain ⟨rest, rfl⟩ := held.next id rfl mem new
  refine ⟨held.nodup, List.prefix_append _ _, ?_, nofun⟩
  have nodup := held.nodup
  have ascending := held.ascending
  have same : waiting (sent ++ [id] ++ rest) (sent ++ [id]) none =
      waiting (sent ++ [id] ++ rest) sent (some id) := by
    unfold waiting
    apply List.filter_congr
    intro other _
    simp [eq_comm]
  rw [same]
  exact ascending

/-- The message in flight had been delivered before. -/
theorem redeliver (held : InStep recorded sent (some id)) (old : id ∈ recorded → id ∈ sent) :
    InStep recorded sent none := by
  refine ⟨held.nodup, held.sentFirst, ?_, nofun⟩
  have same : waiting recorded sent none = waiting recorded sent (some id) := by
    unfold waiting
    apply List.filter_congr
    intro other mem
    by_cases here : id = other
    · subst here
      simp [old mem]
    · simp [here]
  rw [same]
  exact held.ascending

/-- The message in flight is given up: those that wait must exceed it. -/
theorem abandon (held : InStep recorded sent (some id)) (mem : id ∈ recorded) (new : id ∉ sent)
    (below : ∀ w ∈ waiting recorded sent (some id), id < w) : InStep recorded sent none := by
  obtain ⟨rest, rfl⟩ := held.next id rfl mem new
  have nodup := held.nodup
  have ascending := held.ascending
  rw [List.append_assoc] at nodup ascending below ⊢
  rw [waiting_append nodup] at ascending below
  have absent : id ∉ rest := by
    have := (List.nodup_append.mp nodup).2.1
    exact (List.nodup_cons.mp this).1
  have others : ([id] ++ rest).filter (fun w => decide (some id ≠ some w)) = rest := by
    rw [List.filter_append, List.filter_eq_nil_iff.mpr (by simp), List.nil_append]
    rw [List.filter_eq_self]
    intro w mem'
    have : id ≠ w := fun same => absent (same ▸ mem')
    simp [this]
  rw [others] at ascending below
  refine ⟨nodup, List.prefix_append _ _, ?_, nofun⟩
  rw [waiting_append nodup]
  simpa using ⟨below, ascending⟩

end InStep

end Lib.Outbox
