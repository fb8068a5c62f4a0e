import Mathlib.Data.List.Induction
import Mathlib.Data.List.ReduceOption

/-!
Messages that may be lost, with notices of it.

A reader is told messages and notices. It is told of every loss when a notice stands
for whatever was lost before it, and nothing is lost elsewhere (`Tells`). A queue that
cannot hold a message may drop it and all that waits, if it leaves a notice
(`Tells.overflow`). What is told is then found at ascending places of what was sent,
and from one place to the next unless a notice is between them (`Located`).
-/

namespace Lib.Losses

variable {α : Type} {sent : List α} {told read queue : List (Option α)} {x : α}

/-- A notice is `none`. -/
inductive Tells : List α → List (Option α) → Prop where
  | nil : Tells [] []
  | message {sent : List α} {told : List (Option α)} (before : Tells sent told) (x : α) :
      Tells (sent ++ [x]) (told ++ [some x])
  | notice {sent : List α} {told : List (Option α)} (before : Tells sent told) (lost : List α) :
      Tells (sent ++ lost) (told ++ [none])

/-- The beginning of what is told tells of a beginning. -/
theorem Tells.front (tells : Tells sent (read ++ queue)) : ∃ first lost, sent = first ++ lost ∧ Tells first read := by
  induction queue using List.reverseRecOn generalizing sent with
  | nil => exact ⟨sent, [], (List.append_nil sent).symm, List.append_nil read ▸ tells⟩
  | append_singleton queue last ih =>
      rw [← List.append_assoc] at tells
      generalize whole : read ++ queue ++ [last] = told at tells
      cases tells with
      | nil => simp at whole
      | message before x =>
          obtain ⟨rfl, -⟩ := List.append_inj' whole rfl
          obtain ⟨first, rest, rfl, tells⟩ := ih before
          exact ⟨first, rest ++ [x], List.append_assoc _ _ _, tells⟩
      | notice before lost =>
          obtain ⟨rfl, -⟩ := List.append_inj' whole rfl
          obtain ⟨first, rest, rfl, tells⟩ := ih before
          exact ⟨first, rest ++ lost, List.append_assoc _ _ _, tells⟩

/-- What waits is dropped with a message, and a notice is left. -/
theorem Tells.overflow (tells : Tells sent (read ++ queue)) (x : α) : Tells (sent ++ [x]) (read ++ [none]) := by
  obtain ⟨first, lost, rfl, before⟩ := tells.front
  rw [List.append_assoc]
  exact .notice before (lost ++ [x])

/-! ### Places -/

/-- A message may come at a place behind the last that was told: it is the next one,
the first of all, or comes behind a notice. -/
inductive Follows : Option (Option Nat) → Nat → Prop where
  | first : Follows none 0
  | next (i : Nat) : Follows (some (some i)) (i + 1)
  | noticed (i : Nat) : Follows (some none) i

/-- The places of what is told; a notice has none. -/
structure Located (sent : List α) (told : List (Option α)) (places : List (Option Nat)) : Prop where
  found : told.map (Option.map some) = places.map (Option.map (sent[·]?))
  ascending : places.reduceOption.Pairwise (· < ·)
  noticed : ∀ front i back, places = front ++ some i :: back → Follows front.getLast? i

theorem located_nil : Located ([] : List α) [] [] where
  found := rfl
  ascending := List.Pairwise.nil
  noticed front i back whole := by simp at whole

variable {places : List (Option Nat)}

/-- Every place is one of what was sent. -/
theorem Located.lt (located : Located sent told places) {i : Nat}
    (mem : i ∈ places.reduceOption) : i < sent.length := by
  have here : (some sent[i]?) ∈ places.map (Option.map (sent[·]?)) :=
    List.mem_map.mpr ⟨some i, List.reduceOption_mem_iff.mp mem, rfl⟩
  rw [← located.found] at here
  obtain ⟨entry, -, same⟩ := List.mem_map.mp here
  obtain ⟨x, -, found⟩ := Option.map_eq_some_iff.mp same
  exact (List.getElem?_eq_some_iff.mp found.symm).1

/-- More is sent. -/
theorem Located.append (located : Located sent told places) (more : List α) :
    Located (sent ++ more) told places where
  found := by
    rw [located.found]
    refine List.map_congr_left fun place mem => ?_
    cases place with
    | none => rfl
    | some i =>
        have inside := located.lt (List.reduceOption_mem_iff.mpr mem)
        simp [List.getElem?_append_left inside]
  ascending := located.ascending
  noticed := located.noticed

/-- A notice behind what is told. -/
theorem Located.notice (located : Located sent told places) (lost : List α) :
    Located (sent ++ lost) (told ++ [none]) (places ++ [none]) where
  found := by simpa using (located.append lost).found
  ascending := by simpa [List.reduceOption_append] using located.ascending
  noticed front i back whole := by
    rcases List.eq_nil_or_concat' back with rfl | ⟨back, last, rfl⟩
    · cases (List.append_inj' whole rfl).2
    · rw [← List.cons_append, ← List.append_assoc] at whole
      exact located.noticed front i back (List.append_inj' whole rfl).1

/-- The next message behind what is told. -/
theorem Located.message (located : Located sent told places) (follows : Follows places.getLast? sent.length) (x : α) :
    Located (sent ++ [x]) (told ++ [some x]) (places ++ [some sent.length]) where
  found := by simpa using (located.append [x]).found
  ascending := by
    rw [List.reduceOption_append, List.reduceOption_singleton]
    refine List.pairwise_append.mpr ⟨located.ascending, List.pairwise_singleton _ _, fun i mem j last => ?_⟩
    rw [List.mem_singleton.mp last]
    exact located.lt mem
  noticed front i back whole := by
    rcases List.eq_nil_or_concat' back with rfl | ⟨back, last, rfl⟩
    · obtain ⟨rfl, same⟩ := List.append_inj' whole rfl
      cases same
      exact follows
    · rw [← List.cons_append, ← List.append_assoc] at whole
      exact located.noticed front i back (List.append_inj' whole rfl).1

theorem Tells.exists_places (tells : Tells sent told) :
    ∃ places, Located sent told places ∧ Follows places.getLast? sent.length := by
  induction tells with
  | nil => exact ⟨[], located_nil, .first⟩
  | message before x ih =>
      obtain ⟨places, located, follows⟩ := ih
      refine ⟨_, located.message follows x, ?_⟩
      simpa using Follows.next _
  | notice before lost ih =>
      obtain ⟨places, located, -⟩ := ih
      refine ⟨_, located.notice lost, ?_⟩
      simpa using Follows.noticed _

/-- What is read of messages that are told of has its places. -/
theorem Tells.located (tells : Tells sent (read ++ queue)) : ∃ places, Located sent read places := by
  obtain ⟨first, lost, rfl, before⟩ := tells.front
  obtain ⟨places, located, -⟩ := before.exists_places
  exact ⟨places, located.append lost⟩

end Lib.Losses
