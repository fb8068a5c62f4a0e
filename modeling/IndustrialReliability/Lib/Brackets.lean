import Mathlib.Computability.Language
import Mathlib.Order.CompletePartialOrder

/-!
Words of brackets.

A bracket of kind `b` is an opening, any number of inner items and a closing, all
of kind `b`; `brackets` are sequences of whole brackets. `Reads` reads such a word
from the left and remembers the bracket that is open: whatever has been read can be
completed, by a closing at most (`Reads.completes`).
-/

namespace Lib

open Computability

variable {α β : Type} (opening inner closing : β → Language α)

def bracket (b : β) : Language α := opening b * (inner b)∗ * closing b

def brackets : Language α := (⨆ b, bracket opening inner closing b)∗

/-- Reading a word item by item, with the bracket left open. -/
inductive Reads : List α → Option β → Prop where
  | start : Reads [] none
  | opens {read item b} : Reads read none → item ∈ opening b → Reads (read ++ item) (some b)
  | stays {read item b} : Reads read (some b) → item ∈ inner b → Reads (read ++ item) (some b)
  | closes {read item b} : Reads read (some b) → item ∈ closing b → Reads (read ++ item) none

/-- The words that leave a given bracket open. -/
def unfinished : Option β → Language α
  | none => brackets opening inner closing
  | some b => brackets opening inner closing * (opening b * (inner b)∗)

variable {opening inner closing} {read : List α} {current : Option β}

/-- What is read is a word of brackets, and the open bracket as far as it goes. -/
theorem Reads.mem_unfinished (reads : Reads opening inner closing read current) :
    read ∈ unfinished opening inner closing current := by
  induction reads with
  | start => exact Language.nil_mem_kstar _
  | @opens read item b _ mem ih =>
      have begun : item ++ [] ∈ opening b * (inner b)∗ :=
        Language.append_mem_mul mem (Language.nil_mem_kstar _)
      rw [List.append_nil] at begun
      exact Language.append_mem_mul ih begun
  | @stays read item b _ mem ih =>
      obtain ⟨words, whole, rest, ⟨first, opened, others, inside, rfl⟩, same⟩ := ih
      have more : others ++ item ∈ (inner b)∗ :=
        kstar_mul_le_kstar (a := inner b) (Language.append_mem_mul inside mem)
      have extended := Language.append_mem_mul whole (Language.append_mem_mul opened more)
      have regrouped : words ++ (first ++ (others ++ item)) = read ++ item := by simp [← same]
      rwa [regrouped] at extended
  | @closes read item b _ mem ih =>
      obtain ⟨words, whole, rest, begun, same⟩ := ih
      have last : rest ++ item ∈ ⨆ b, bracket opening inner closing b :=
        Language.mem_iSup.mpr ⟨b, Language.append_mem_mul begun mem⟩
      have extended := Language.append_mem_mul whole last
      have regrouped : words ++ (rest ++ item) = read ++ item := by simp [← same]
      rw [regrouped] at extended
      exact kstar_mul_le_kstar (a := ⨆ b, bracket opening inner closing b) extended

/-- Whatever has been read is the beginning of a word of brackets. -/
theorem Reads.completes (reads : Reads opening inner closing read current)
    (closable : ∀ b, ∃ item, item ∈ closing b) :
    ∃ rest, read ++ rest ∈ brackets opening inner closing := by
  cases current with
  | none => exact ⟨[], (List.append_nil read).symm ▸ reads.mem_unfinished⟩
  | some b =>
      obtain ⟨item, closes⟩ := closable b
      exact ⟨item, (Reads.closes reads closes).mem_unfinished⟩

end Lib
