import Mathlib.Data.List.Infix
import Mathlib.Data.List.Sort
import Mathlib.Order.Defs.LinearOrder

/-!
Messages that must not overtake each other.

Messages are `recorded` once and for all, and delivered any number of times. `before`
relates a message to those it must be delivered before, such as the later ones of its
stream. A message is `Ready` when all of them that are before it have been delivered;
what is handed out in the order of `before` is ready when its turn comes (`Queued`), and
if only ready messages are delivered, each is preceded by those before it (`Closed`). A
message that is recorded later must not be before an old one, and changes none of this.
The first deliveries of a stream are then a prefix of its messages
(`Closed.firsts_prefix`).
-/

namespace Lib.Deliveries

variable {μ κ : Type} {recorded recorded' : μ → Prop} {before : μ → μ → Prop} {delivered : List μ} {m : μ}

/-- Whatever is before a recorded message has been delivered. -/
structure Ready (recorded : μ → Prop) (before : μ → μ → Prop) (delivered : List μ) (m : μ) : Prop where
  known : recorded m
  preceded : ∀ n, recorded n → before n m → n ∈ delivered

/-- Each delivery comes after one of every message before it. -/
def Closed (recorded : μ → Prop) (before : μ → μ → Prop) (delivered : List μ) : Prop :=
  ∀ first m rest, delivered = first ++ m :: rest → Ready recorded before first m

/-- Messages that are ready one after another. -/
def Queued (recorded : μ → Prop) (before : μ → μ → Prop) (delivered queue : List μ) : Prop :=
  ∀ first m rest, queue = first ++ m :: rest → Ready recorded before (delivered ++ first) m

/-! ### Recording -/

/-- What is recorded newly is before nothing old. -/
structure Extends (recorded recorded' : μ → Prop) (before : μ → μ → Prop) : Prop where
  kept : ∀ m, recorded m → recorded' m
  behind : ∀ n m, recorded' n → ¬ recorded n → recorded m → ¬ before n m

theorem Ready.extend (ready : Ready recorded before delivered m) (wider : Extends recorded recorded' before) :
    Ready recorded' before delivered m := by
  refine ⟨wider.kept m ready.known, fun n known precedes => ?_⟩
  by_cases old : recorded n
  · exact ready.preceded n old precedes
  · exact absurd precedes (wider.behind n m known old ready.known)

theorem Closed.extend (closed : Closed recorded before delivered) (wider : Extends recorded recorded' before) :
    Closed recorded' before delivered :=
  fun first m rest same => (closed first m rest same).extend wider

theorem Queued.extend {queue : List μ} (queued : Queued recorded before delivered queue)
    (wider : Extends recorded recorded' before) : Queued recorded' before delivered queue :=
  fun first m rest same => (queued first m rest same).extend wider

/-! ### Delivering -/

theorem Ready.mono {delivered' : List μ} (ready : Ready recorded before delivered m)
    (more : ∀ n ∈ delivered, n ∈ delivered') : Ready recorded before delivered' m :=
  ⟨ready.known, fun n known precedes => more n (ready.preceded n known precedes)⟩

theorem Queued.mono {delivered' queue : List μ} (queued : Queued recorded before delivered queue)
    (more : ∀ n ∈ delivered, n ∈ delivered') : Queued recorded before delivered' queue := by
  intro first m rest same
  refine (queued first m rest same).mono fun n mem => ?_
  rcases List.mem_append.mp mem with mem | mem
  · exact List.mem_append_left _ (more n mem)
  · exact List.mem_append_right _ mem

theorem closed_nil : Closed recorded before [] := by
  intro first m rest same
  simp at same

theorem queued_nil : Queued recorded before delivered [] := by
  intro first m rest same
  simp at same

/-- A message that is ready is delivered. -/
theorem Closed.deliver (closed : Closed recorded before delivered) (ready : Ready recorded before delivered m) :
    Closed recorded before (delivered ++ [m]) := by
  intro first n rest same
  rcases List.eq_nil_or_concat rest with rfl | ⟨rest, last, rfl⟩
  · obtain ⟨rfl, its⟩ := List.append_inj' same rfl
    obtain rfl := List.singleton_inj.mp its
    exact ready
  · rw [List.concat_eq_append, ← List.cons_append, ← List.append_assoc] at same
    exact closed first n rest (List.append_inj' same rfl).1

theorem Closed.known (closed : Closed recorded before delivered) (mem : m ∈ delivered) : recorded m := by
  obtain ⟨first, rest, same⟩ := List.append_of_mem mem
  exact (closed first m rest same).known

theorem Queued.head {queue : List μ} (queued : Queued recorded before delivered (m :: queue)) :
    Ready recorded before delivered m := by
  simpa using queued [] m queue rfl

/-- The head of a queue has been delivered. -/
theorem Queued.tail {queue : List μ} (queued : Queued recorded before delivered (m :: queue))
    (done : m ∈ delivered) : Queued recorded before delivered queue := by
  intro first n rest same
  refine (queued (m :: first) n rest (by rw [same]; rfl)).mono fun k mem => ?_
  rcases List.mem_append.mp mem with mem | mem
  · exact List.mem_append_left _ mem
  · rcases List.mem_cons.mp mem with rfl | mem
    · exact List.mem_append_left _ done
    · exact List.mem_append_right _ mem

/-- The first messages of all that wait, in an order that agrees with `before`. -/
theorem queued_take {le : μ → μ → Prop} {waiting : List μ} (sorted : waiting.Pairwise le)
    (refl : ∀ m, le m m) (agrees : ∀ n m, recorded n → recorded m → before n m → ¬ le m n)
    (known : ∀ m ∈ waiting, recorded m)
    (rest : ∀ m, recorded m → m ∈ delivered ∨ m ∈ waiting) (limit : Nat) :
    Queued recorded before delivered (waiting.take limit) := by
  intro first m later same
  have whole : waiting = first ++ m :: (later ++ waiting.drop limit) := by
    calc waiting = waiting.take limit ++ waiting.drop limit := (List.take_append_drop limit waiting).symm
      _ = first ++ m :: (later ++ waiting.drop limit) := by rw [same]; simp
  have its := known m (by rw [whole]; simp)
  refine ⟨its, fun n recorded precedes => ?_⟩
  rcases rest n recorded with done | waits
  · exact List.mem_append_left _ done
  · rw [whole] at waits sorted
    rcases List.mem_append.mp waits with mem | mem
    · exact List.mem_append_right _ mem
    · exfalso
      refine agrees n m recorded its precedes ?_
      rcases List.mem_cons.mp mem with rfl | mem
      · exact refl n
      · exact (List.pairwise_cons.mp (List.pairwise_append.mp sorted).2.1).1 n mem

/-! ### Streams -/

section Streams

/-- A list is ascending where each of its parts is. -/
theorem pairwise_of_parts [DecidableEq κ] {part : μ → κ} {P : μ → μ → Prop} {xs : List μ}
    (parts : ∀ k, (xs.filter fun x => part x = k).Pairwise P) :
    xs.Pairwise fun a b => part a = part b → P a b := by
  induction xs with
  | nil => exact List.Pairwise.nil
  | cons x xs ih =>
      refine List.pairwise_cons.mpr ⟨fun y mem same => ?_, ih fun k => ?_⟩
      · have here := parts (part x)
        rw [List.filter_cons_of_pos (by simp)] at here
        exact (List.pairwise_cons.mp here).1 y (List.mem_filter.mpr ⟨mem, decide_eq_true same.symm⟩)
      · exact (parts k).sublist ((List.sublist_cons_self x xs).filter _)

variable [LinearOrder κ]

/-- An ascending list is a prefix of one that it contains the smaller entries of. -/
theorem prefix_of_ascending {xs ys : List κ} (ascending : xs.Pairwise (· < ·)) (ascending' : ys.Pairwise (· < ·))
    (inside : ∀ x ∈ xs, x ∈ ys) (smaller : ∀ x ∈ xs, ∀ y ∈ ys, y < x → y ∈ xs) : xs <+: ys := by
  induction xs generalizing ys with
  | nil => exact List.nil_prefix
  | cons x xs ih =>
      obtain ⟨above, rest⟩ := List.pairwise_cons.mp ascending
      cases ys with
      | nil => exact absurd (inside x List.mem_cons_self) List.not_mem_nil
      | cons y ys =>
          obtain ⟨above', rest'⟩ := List.pairwise_cons.mp ascending'
          have same : x = y := by
            rcases List.mem_cons.mp (inside x List.mem_cons_self) with same | later
            · exact same
            · have less := above' x later
              rcases List.mem_cons.mp (smaller x List.mem_cons_self y List.mem_cons_self less) with same | mem
              · exact same.symm
              · exact absurd (above y mem) (lt_asymm less)
          subst same
          refine List.cons_prefix_cons.mpr ⟨rfl, ih rest rest' (fun z mem => ?_) fun z mem w its less => ?_⟩
          · rcases List.mem_cons.mp (inside z (List.mem_cons_of_mem _ mem)) with rfl | its
            · exact absurd (above z mem) (lt_irrefl _)
            · exact its
          · rcases List.mem_cons.mp (smaller z (List.mem_cons_of_mem _ mem) w (List.mem_cons_of_mem _ its) less)
              with rfl | its'
            · exact absurd (above' w its) (lt_irrefl _)
            · exact its'

/-- The keys of a stream, in the order of their first deliveries. -/
def firsts (mine : μ → Bool) (key : μ → κ) (delivered : List μ) : List κ :=
  ((delivered.filter mine).map key).eraseDups

variable {mine : μ → Bool} {key : μ → κ}

theorem mem_firsts {k : κ} : k ∈ firsts mine key delivered ↔ ∃ m ∈ delivered, mine m ∧ key m = k := by
  simp [firsts, and_assoc]

theorem firsts_map {ν : Type} (f : ν → μ) (delivered : List ν) :
    firsts mine key (delivered.map f) = firsts (fun n => mine (f n)) (fun n => key (f n)) delivered := by
  unfold firsts
  rw [List.filter_map, List.map_map]
  rfl

theorem firsts_concat (delivered : List μ) (m : μ) : firsts mine key (delivered ++ [m]) =
    if mine m ∧ key m ∉ firsts mine key delivered then firsts mine key delivered ++ [key m]
    else firsts mine key delivered := by
  unfold firsts
  rw [List.filter_append, List.map_append, List.eraseDups_append]
  by_cases its : mine m
  · by_cases old : key m ∈ (delivered.filter mine).map key
    · simp [its, old, List.removeAll]
    · simp [its, old, List.removeAll, List.eraseDups_cons]
  · simp [its]

/-- The messages of a stream are first delivered in the order of their keys. -/
theorem Closed.firsts_ascending (closed : Closed recorded before delivered)
    (orders : ∀ n m, mine n → mine m → key n < key m → before n m) :
    (firsts mine key delivered).Pairwise (· < ·) := by
  induction delivered using List.reverseRecOn with
  | nil => exact List.Pairwise.nil
  | append_singleton delivered m ih =>
      have earlier : Closed recorded before delivered := fun first n rest same =>
        closed first n (rest ++ [m]) (by rw [same]; simp)
      have ascending := ih earlier
      rw [firsts_concat]
      split
      · rename_i first
        obtain ⟨its, new⟩ := first
        refine List.pairwise_append.mpr ⟨ascending, List.pairwise_singleton _ _, fun k mem k' last => ?_⟩
        rw [List.mem_singleton.mp last]
        obtain ⟨n, there, own, rfl⟩ := mem_firsts.mp mem
        refine lt_of_not_ge fun exceeds => ?_
        rcases exceeds.lt_or_eq with less | same
        · -- the message would have been delivered before the one of the greater key
          obtain ⟨front, back, rfl⟩ := List.append_of_mem there
          have known : recorded m := closed.known (by simp)
          have done := (earlier front n back rfl).preceded m known (orders m n its own less)
          exact new (mem_firsts.mpr ⟨m, by simp [done], its, rfl⟩)
        · exact new (same ▸ mem)
      · exact ascending

/-- They are the first messages of the stream. -/
theorem Closed.firsts_prefix (closed : Closed recorded before delivered)
    (orders : ∀ n m, mine n → mine m → key n < key m → before n m) {keys : List κ}
    (ascending : keys.Pairwise (· < ·)) (listed : ∀ k, k ∈ keys ↔ ∃ m, recorded m ∧ mine m ∧ key m = k) :
    firsts mine key delivered <+: keys := by
  refine prefix_of_ascending (closed.firsts_ascending orders) ascending (fun k mem => ?_) fun k mem j its less => ?_
  · obtain ⟨m, there, own, rfl⟩ := mem_firsts.mp mem
    exact (listed _).mpr ⟨m, closed.known there, own, rfl⟩
  · obtain ⟨m, there, own, rfl⟩ := mem_firsts.mp mem
    obtain ⟨n, known, own', rfl⟩ := (listed j).mp its
    obtain ⟨first, rest, rfl⟩ := List.append_of_mem there
    have done := (closed first m rest rfl).preceded n known (orders n m own' own less)
    exact mem_firsts.mpr ⟨n, List.mem_append_left _ done, own', rfl⟩

end Streams

end Lib.Deliveries
