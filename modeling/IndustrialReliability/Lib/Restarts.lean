import Mathlib.Data.List.Basic
import Mathlib.Data.Nat.Init

/-!
Emission by a worker that restarts.

A worker emits the elements of a list in order, but may at any time start over
from an earlier index: what it has emitted then comes again. `Emits items k out`
says that a worker that is to emit the element at `k` next may emit `out` until
it has emitted the last element.
-/

namespace Lib

variable {α : Type}

inductive Emits (items : List α) : Nat → List α → Prop where
  | finished : Emits items items.length []
  | emit {k : Nat} {out : List α} (inside : k < items.length) :
      Emits items (k + 1) out → Emits items k (items[k] :: out)
  | restart {k j : Nat} {out : List α} : j ≤ k → Emits items j out → Emits items k out

/-- A worker that never restarts emits what is left. -/
theorem Emits.once {items : List α} {k : Nat} (inside : k ≤ items.length) :
    Emits items k (items.drop k) := by
  induction inside using Nat.decreasingInduction with
  | self =>
      rw [List.drop_length]
      exact .finished
  | of_succ k inside ih =>
      rw [List.drop_eq_getElem_cons inside]
      exact .emit inside ih

theorem Emits.mem {items out : List α} {k : Nat} (emits : Emits items k out) :
    ∀ a ∈ out, a ∈ items := by
  induction emits with
  | finished => exact nofun
  | emit inside _ ih => exact List.forall_mem_cons.mpr ⟨List.getElem_mem inside, ih⟩
  | restart _ _ ih => exact ih

end Lib
