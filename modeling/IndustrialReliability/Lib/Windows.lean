import Mathlib.Algebra.Order.Ring.Int
import Mathlib.Data.List.Chain
import Mathlib.Tactic.Linarith
import Mathlib.Tactic.Positivity

/-!
Sliding windows over a list of bins.

A bin has an end and is valid or not. Reading bins in order keeps a buffer: the
last `size` bins at most, all valid, each a stride after the one before. A buffer
of `size` bins is a window. `windowsFrom` lists the windows of a list of bins;
`promptFrom` lists only those whose last bin is followed by another within a
stride, or by none. The two agree exactly when no window is followed by a gap
(`promptFrom_eq_iff`), and over bins with ascending ends on a grid the buffer has
`n` bins exactly when the last `n` grid points carry valid bins
(`le_length_buffer_iff`).
-/

namespace Lib

structure Windowing (β : Type) where
  ends : β → Int
  valid : β → Bool
  stride : Int
  size : Nat

namespace Windowing

variable {β : Type} (w : Windowing β)

/-- The part of the buffer that a valid bin continues. -/
def continued (buf : List β) (b : β) : List β :=
  match buf.getLast? with
  | some last => if w.ends b - w.ends last = w.stride then buf else []
  | none => []

/-- The buffer after one more bin. -/
def push (buf : List β) (b : β) : List β :=
  if w.valid b then
    let grown := w.continued buf b ++ [b]
    if w.size < grown.length then grown.drop 1 else grown
  else []

def buffer (buf : List β) (bins : List β) : List β := bins.foldl w.push buf

def IsFull (buf : List β) : Prop := buf.length = w.size

instance (buf : List β) : Decidable (w.IsFull buf) := inferInstanceAs (Decidable (_ = _))

/-- The windows met while reading bins. -/
def windowsFrom : List β → List β → List (List β)
  | _, [] => []
  | buf, b :: rest =>
      (if w.IsFull (w.push buf b) then [w.push buf b] else []) ++ windowsFrom (w.push buf b) rest

/-- The next bin, if there is one, ends within a stride. -/
def Prompt (b : β) (rest : List β) : Prop := ∀ next ∈ rest.head?, w.ends next - w.ends b ≤ w.stride

instance (b : β) (rest : List β) : Decidable (w.Prompt b rest) := by
  unfold Prompt
  cases rest with
  | nil => exact .isTrue nofun
  | cons next rest =>
      exact decidable_of_iff (w.ends next - w.ends b ≤ w.stride) (by simp)

/-- The windows met while reading bins that are not followed by a gap. -/
def promptFrom : List β → List β → List (List β)
  | _, [] => []
  | buf, b :: rest =>
      (if w.IsFull (w.push buf b) ∧ w.Prompt b rest then [w.push buf b] else []) ++
        promptFrom (w.push buf b) rest

/-- There is a next bin, and it ends within a stride. -/
def Followed (b : β) (rest : List β) : Prop := ∃ next ∈ rest.head?, w.ends next - w.ends b ≤ w.stride

instance (b : β) (rest : List β) : Decidable (w.Followed b rest) := by
  unfold Followed
  infer_instance

/-- The windows met while reading bins that are followed by another bin within a
stride. -/
def followedFrom : List β → List β → List (List β)
  | _, [] => []
  | buf, b :: rest =>
      (if w.IsFull (w.push buf b) ∧ w.Followed b rest then [w.push buf b] else []) ++
        followedFrom (w.push buf b) rest

/-- The window of the last bin, if it completes one. -/
def lastFrom (buf bins : List β) : List (List β) :=
  if bins ≠ [] ∧ w.IsFull (w.buffer buf bins) then [w.buffer buf bins] else []

variable {w} {buf bins : List β} {b : β}

theorem windowsFrom_cons (buf : List β) (b : β) (rest : List β) : w.windowsFrom buf (b :: rest) =
    (if w.IsFull (w.push buf b) then [w.push buf b] else []) ++
      w.windowsFrom (w.push buf b) rest := rfl

theorem promptFrom_cons (buf : List β) (b : β) (rest : List β) : w.promptFrom buf (b :: rest) =
    (if w.IsFull (w.push buf b) ∧ w.Prompt b rest then [w.push buf b] else []) ++
      w.promptFrom (w.push buf b) rest := rfl

/-! ### Windows with and without a gap behind them -/

theorem promptFrom_sublist (buf bins : List β) :
    (w.promptFrom buf bins).Sublist (w.windowsFrom buf bins) := by
  induction bins generalizing buf with
  | nil => simp [promptFrom, windowsFrom]
  | cons b rest ih =>
      rw [promptFrom_cons, windowsFrom_cons]
      apply List.Sublist.append _ (ih _)
      by_cases full : w.IsFull (w.push buf b)
      · by_cases prompt : w.Prompt b rest
        · simp [full, prompt]
        · simp [prompt]
      · simp [full]

/-- No window is lost exactly when none is followed by a gap. -/
theorem promptFrom_eq_iff (buf bins : List β) :
    w.promptFrom buf bins = w.windowsFrom buf bins ↔
      ∀ before b after, bins = before ++ b :: after →
        w.IsFull (w.buffer buf (before ++ [b])) → w.Prompt b after := by
  induction bins generalizing buf with
  | nil => simp [promptFrom, windowsFrom]
  | cons b rest ih =>
      have sublist := promptFrom_sublist (w := w) (w.push buf b) rest
      have split : w.promptFrom buf (b :: rest) = w.windowsFrom buf (b :: rest) ↔
          (w.IsFull (w.push buf b) → w.Prompt b rest) ∧
            w.promptFrom (w.push buf b) rest = w.windowsFrom (w.push buf b) rest := by
        rw [promptFrom_cons, windowsFrom_cons]
        by_cases full : w.IsFull (w.push buf b)
        · by_cases prompt : w.Prompt b rest
          · simp [full, prompt]
          · simp only [full, prompt, and_false, if_false, if_true, List.nil_append, true_implies,
              false_and, iff_false]
            intro same
            have shorter := sublist.length_le
            rw [same] at shorter
            simp at shorter
        · simp [full]
      rw [split, ih]
      constructor
      · rintro ⟨here, there⟩ before c after same
        rcases List.cons_eq_append_iff.mp same with ⟨rfl, same⟩ | ⟨front, rfl, inRest⟩
        · cases same
          exact here
        · exact there front c after inRest
      · intro all
        refine ⟨all [] b rest rfl, fun before c after same => ?_⟩
        exact all (b :: before) c after (by rw [same]; rfl)

theorem mem_windowsFrom_iff {window : List β} :
    window ∈ w.windowsFrom buf bins ↔ ∃ before b after, bins = before ++ b :: after ∧
      window = w.buffer buf (before ++ [b]) ∧ w.IsFull window := by
  induction bins generalizing buf with
  | nil => simp [windowsFrom]
  | cons b rest ih =>
      have here : window ∈ (if w.IsFull (w.push buf b) then [w.push buf b] else []) ↔
          window = w.push buf b ∧ w.IsFull window := by
        by_cases full : w.IsFull (w.push buf b)
        · simp only [full, if_true, List.mem_singleton, iff_self_and]
          rintro rfl
          exact full
        · simp only [full, if_false, List.not_mem_nil, false_iff, not_and]
          rintro rfl
          exact full
      rw [windowsFrom_cons, List.mem_append, here, ih]
      constructor
      · rintro (⟨rfl, full⟩ | ⟨before, c, after, rfl, same, full⟩)
        · exact ⟨[], b, rest, rfl, rfl, full⟩
        · exact ⟨b :: before, c, after, rfl, same, full⟩
      · rintro ⟨before, c, after, split, same, full⟩
        rcases List.cons_eq_append_iff.mp split with ⟨rfl, split⟩ | ⟨front, rfl, inRest⟩
        · cases split
          exact .inl ⟨same, full⟩
        · exact .inr ⟨front, c, after, inRest, same, full⟩

/-- Whatever the buffer holds, a gap before the next bin empties it. -/
theorem push_gap (gap : ∀ last ∈ buf.getLast?, w.ends b - w.ends last ≠ w.stride) :
    w.push buf b = w.push [] b := by
  have dropped : w.continued buf b = w.continued [] b := by
    unfold continued
    cases held : buf.getLast? with
    | none => rfl
    | some last => simp [gap last held]
  unfold push
  rw [dropped]

theorem promptFrom_gap (gap : ∀ next ∈ bins.head?, ∀ last ∈ buf.getLast?,
    w.ends next - w.ends last ≠ w.stride) : w.promptFrom buf bins = w.promptFrom [] bins := by
  cases bins with
  | nil => rfl
  | cons b rest => rw [promptFrom_cons, promptFrom_cons, push_gap (gap b rfl)]

theorem windowsFrom_gap (gap : ∀ next ∈ bins.head?, ∀ last ∈ buf.getLast?,
    w.ends next - w.ends last ≠ w.stride) : w.windowsFrom buf bins = w.windowsFrom [] bins := by
  cases bins with
  | nil => rfl
  | cons b rest => rw [windowsFrom_cons, windowsFrom_cons, push_gap (gap b rfl)]

/-! ### Reading one more bin -/

theorem followedFrom_cons (buf : List β) (b : β) (rest : List β) :
    w.followedFrom buf (b :: rest) =
      (if w.IsFull (w.push buf b) ∧ w.Followed b rest then [w.push buf b] else []) ++
        w.followedFrom (w.push buf b) rest := rfl

theorem buffer_concat (buf bins : List β) (b : β) :
    w.buffer buf (bins ++ [b]) = w.push (w.buffer buf bins) b := by
  simp [buffer]

theorem followedFrom_sublist (buf bins : List β) :
    (w.followedFrom buf bins).Sublist (w.windowsFrom buf bins) := by
  induction bins generalizing buf with
  | nil => simp [followedFrom, windowsFrom]
  | cons b rest ih =>
      rw [followedFrom_cons, windowsFrom_cons]
      apply List.Sublist.append _ (ih _)
      by_cases full : w.IsFull (w.push buf b)
      · by_cases followed : w.Followed b rest
        · simp [full, followed]
        · simp [followed]
      · simp [full]

/-- What is followed does not depend on the content of the last bin. -/
theorem followedFrom_concat_congr {c : β} (same : w.ends b = w.ends c) (buf bins : List β) :
    w.followedFrom buf (bins ++ [b]) = w.followedFrom buf (bins ++ [c]) := by
  induction bins generalizing buf with
  | nil => simp [followedFrom, Followed]
  | cons d rest ih =>
      rw [List.cons_append, List.cons_append, followedFrom_cons, followedFrom_cons, ih]
      have next : w.Followed d (rest ++ [b]) ↔ w.Followed d (rest ++ [c]) := by
        unfold Followed
        cases rest with
        | nil => simp [same]
        | cons e more => rfl
      rw [if_congr (and_congr_right fun _ => next) rfl rfl]

/-- One more bin makes the window of the last one followed, if it comes at once. -/
theorem followedFrom_concat (buf bins : List β) (b c : β) :
    w.followedFrom buf (bins ++ [b] ++ [c]) = w.followedFrom buf (bins ++ [b]) ++
      if w.IsFull (w.buffer buf (bins ++ [b])) ∧ w.ends c - w.ends b ≤ w.stride then
        [w.buffer buf (bins ++ [b])] else [] := by
  induction bins generalizing buf with
  | nil => simp [followedFrom, Followed, buffer]
  | cons d rest ih =>
      have next : w.Followed d (rest ++ [b] ++ [c]) ↔ w.Followed d (rest ++ [b]) := by
        unfold Followed
        cases rest <;> rfl
      simp only [List.cons_append, followedFrom_cons] at ih ⊢
      rw [ih, if_congr (and_congr_right fun _ => next) rfl rfl, List.append_assoc]
      rfl

theorem mem_followedFrom_iff {window : List β} :
    window ∈ w.followedFrom buf bins ↔ ∃ before b after, bins = before ++ b :: after ∧
      window = w.buffer buf (before ++ [b]) ∧ w.IsFull window ∧ w.Followed b after := by
  induction bins generalizing buf with
  | nil => simp [followedFrom]
  | cons b rest ih =>
      have here : window ∈ (if w.IsFull (w.push buf b) ∧ w.Followed b rest then [w.push buf b]
          else []) ↔ window = w.push buf b ∧ w.IsFull window ∧ w.Followed b rest := by
        by_cases full : w.IsFull (w.push buf b) ∧ w.Followed b rest
        · simp only [full, and_self, if_true, List.mem_singleton, iff_self_and]
          rintro rfl
          exact ⟨full.1, trivial⟩
        · simp only [full, if_false, List.not_mem_nil, false_iff]
          rintro ⟨rfl, held⟩
          exact full held
      rw [followedFrom_cons, List.mem_append, here, ih]
      constructor
      · rintro (⟨rfl, full⟩ | ⟨before, c, after, rfl, same, full⟩)
        · exact ⟨[], b, rest, rfl, rfl, full⟩
        · exact ⟨b :: before, c, after, rfl, same, full⟩
      · rintro ⟨before, c, after, split, same, full⟩
        rcases List.cons_eq_append_iff.mp split with ⟨rfl, split⟩ | ⟨front, rfl, inRest⟩
        · cases split
          exact .inl ⟨same, full⟩
        · exact .inr ⟨front, c, after, inRest, same, full⟩

theorem prompt_cons_iff {next : β} {rest : List β} :
    w.Prompt b (next :: rest) ↔ w.Followed b (next :: rest) := by
  simp [Prompt, Followed]

/-- The windows without a gap behind them are those followed, and that of the last
bin. -/
theorem promptFrom_eq (buf bins : List β) :
    w.promptFrom buf bins = w.followedFrom buf bins ++ w.lastFrom buf bins := by
  induction bins generalizing buf with
  | nil => simp [promptFrom, followedFrom, lastFrom]
  | cons b rest ih =>
      rw [promptFrom_cons, followedFrom_cons, ih, List.append_assoc]
      cases rest with
      | nil => simp [Prompt, Followed, followedFrom, lastFrom, buffer]
      | cons next more =>
          have last : w.lastFrom buf (b :: next :: more) =
              w.lastFrom (w.push buf b) (next :: more) := by
            simp [lastFrom, buffer]
          rw [last, if_congr (and_congr_right fun _ => prompt_cons_iff) rfl rfl]

theorem mem_promptFrom_iff {window : List β} :
    window ∈ w.promptFrom buf bins ↔ ∃ before b after, bins = before ++ b :: after ∧
      window = w.buffer buf (before ++ [b]) ∧ w.IsFull window ∧ w.Prompt b after := by
  have last : window ∈ w.lastFrom buf bins ↔
      ∃ before b, bins = before ++ [b] ∧ window = w.buffer buf bins ∧ w.IsFull window := by
    unfold lastFrom
    split
    · rename_i completes
      rw [List.mem_singleton]
      constructor
      · rintro rfl
        obtain ⟨before, b, rfl⟩ := (List.eq_nil_or_concat' bins).resolve_left completes.1
        exact ⟨before, b, rfl, rfl, completes.2⟩
      · rintro ⟨_, _, -, rfl, -⟩
        rfl
    · rename_i incomplete
      simp only [List.not_mem_nil, false_iff]
      rintro ⟨before, b, rfl, rfl, full⟩
      exact incomplete ⟨by simp, full⟩
  rw [promptFrom_eq, List.mem_append, mem_followedFrom_iff, last]
  constructor
  · rintro (⟨before, b, after, rfl, rfl, full, followed⟩ | ⟨before, b, rfl, rfl, full⟩)
    · refine ⟨before, b, after, rfl, rfl, full, ?_⟩
      cases after with
      | nil => exact nofun
      | cons next rest => exact prompt_cons_iff.mpr followed
    · exact ⟨before, b, [], rfl, rfl, full, nofun⟩
  · rintro ⟨before, b, after, rfl, rfl, full, prompt⟩
    cases after with
    | nil => exact .inr ⟨before, b, rfl, rfl, full⟩
    | cons next rest => exact .inl ⟨before, b, _, rfl, rfl, full, prompt_cons_iff.mp prompt⟩

/-! ### What a buffer holds -/

/-- Valid bins, each a stride after the one before, no more than a window. -/
structure IsRun (w : Windowing β) (buf : List β) : Prop where
  valid : ∀ b ∈ buf, w.valid b = true
  contiguous : buf.IsChain fun a b => w.ends b = w.ends a + w.stride
  short : buf.length ≤ w.size

theorem isRun_nil : w.IsRun [] := ⟨by simp, by simp, by simp⟩

theorem mem_push {c : β} (mem : c ∈ w.push buf b) : c ∈ buf ∨ c = b := by
  have grown : c ∈ w.continued buf b ++ [b] := by
    unfold push at mem
    dsimp only at mem
    split at mem
    · split at mem
      · exact List.mem_of_mem_drop mem
      · exact mem
    · simp at mem
  rcases List.mem_append.mp grown with old | new
  · left
    unfold continued at old
    split at old
    · split at old
      · exact old
      · simp at old
    · simp at old
  · exact .inr (by simpa using new)

theorem mem_buffer {c : β} (mem : c ∈ w.buffer buf bins) : c ∈ buf ∨ c ∈ bins := by
  induction bins generalizing buf with
  | nil => exact .inl mem
  | cons b rest ih =>
      rcases ih mem with pushed | later
      · rcases mem_push pushed with old | rfl
        · exact .inl old
        · simp
      · simp [later]

theorem continued_suffix (buf : List β) (b : β) : w.continued buf b <:+ buf := by
  unfold continued
  split
  · split
    · exact List.suffix_refl _
    · exact List.nil_suffix
  · exact List.nil_suffix

theorem push_suffix (buf : List β) (b : β) : w.push buf b <:+ buf ++ [b] := by
  have grown : w.continued buf b ++ [b] <:+ buf ++ [b] :=
    List.suffix_append_self_iff.mpr (continued_suffix buf b)
  unfold push
  split
  · dsimp only
    split
    · exact (List.drop_suffix _ _).trans grown
    · exact grown
  · exact List.nil_suffix

/-- The buffer is the last of what was read. -/
theorem buffer_suffix (bins : List β) : w.buffer [] bins <:+ bins := by
  induction bins using List.reverseRecOn with
  | nil => exact List.suffix_refl _
  | append_singleton bins b ih =>
      rw [buffer_concat]
      exact (push_suffix _ b).trans (List.suffix_append_self_iff.mpr ih)

theorem IsRun.continued (run : w.IsRun buf) (b : β) :
    w.IsRun (w.continued buf b) ∧
      ∀ last ∈ (w.continued buf b).getLast?, w.ends b = w.ends last + w.stride := by
  unfold Windowing.continued
  cases held : buf.getLast? with
  | none => exact ⟨isRun_nil, by simp⟩
  | some last =>
      dsimp only
      split
      · rename_i follows
        refine ⟨run, fun last' same => ?_⟩
        rw [held] at same
        cases same
        omega
      · exact ⟨isRun_nil, by simp⟩

theorem IsRun.push (run : w.IsRun buf) (b : β) : w.IsRun (w.push buf b) := by
  unfold Windowing.push
  by_cases good : w.valid b = true
  · obtain ⟨kept, follows⟩ := run.continued b
    have valid : ∀ c ∈ w.continued buf b ++ [b], w.valid c = true := by
      intro c mem
      rcases List.mem_append.mp mem with old | new
      · exact kept.valid c old
      · rw [List.mem_singleton.mp new]
        exact good
    have contiguous : (w.continued buf b ++ [b]).IsChain
        fun a b => w.ends b = w.ends a + w.stride := by
      rw [List.isChain_append]
      refine ⟨kept.contiguous, by simp, fun last mem next same => ?_⟩
      simp only [List.head?_cons, Option.mem_def, Option.some.injEq] at same
      exact same ▸ follows last mem
    have short := kept.short
    simp only [good, if_true]
    split
    · refine ⟨fun c mem => valid c (List.mem_of_mem_drop mem), contiguous.drop 1, ?_⟩
      simp only [List.length_drop, List.length_append, List.length_singleton]
      omega
    · exact ⟨valid, contiguous, by omega⟩
  · simp only [good]
    exact isRun_nil

theorem IsRun.buffer (run : w.IsRun buf) (bins : List β) : w.IsRun (w.buffer buf bins) := by
  induction bins generalizing buf with
  | nil => exact run
  | cons b rest ih => exact ih (run.push b)

/-- The ends of contiguous bins. -/
theorem map_ends_of_contiguous {a : β} (contiguous : (a :: buf).IsChain
    fun a b => w.ends b = w.ends a + w.stride) :
    (a :: buf).map w.ends = (List.range (buf.length + 1)).map fun i => w.ends a + (i : Nat) * w.stride := by
  induction buf generalizing a with
  | nil => simp
  | cons b rest ih =>
      obtain ⟨next, contiguous⟩ := List.isChain_cons_cons.mp contiguous
      rw [List.map_cons, ih contiguous, List.length_cons, List.range_succ_eq_map (n := rest.length + 1),
        List.map_cons, List.map_map]
      refine List.cons_eq_cons.mpr ⟨by simp, List.map_congr_left fun i _ => ?_⟩
      simp only [Function.comp_apply]
      push_cast
      linarith

/-- The ends of contiguous bins span one stride a bin. -/
theorem ends_of_contiguous {a last : β} (contiguous : (a :: buf).IsChain
    fun a b => w.ends b = w.ends a + w.stride) (tail : (a :: buf).getLast? = some last) :
    w.ends last = w.ends a + buf.length * w.stride := by
  induction buf generalizing a with
  | nil =>
      cases tail
      simp
  | cons b rest ih =>
      obtain ⟨next, contiguous⟩ := List.isChain_cons_cons.mp contiguous
      rw [List.getLast?_cons_cons] at tail
      have reached := ih contiguous tail
      simp only [List.length_cons]
      push_cast
      linarith

/-! ### Bins on a grid -/

theorem length_push (short : buf.length ≤ w.size) : (w.push buf b).length =
    if w.valid b then min w.size ((w.continued buf b).length + 1) else 0 := by
  have kept : (w.continued buf b).length ≤ w.size := by
    unfold continued
    split
    · split
      · exact short
      · simp
    · simp
  unfold push
  by_cases good : w.valid b = true
  · simp only [good, if_true, List.length_append, List.length_singleton]
    split
    · simp only [List.length_drop, List.length_append, List.length_singleton]
      omega
    · simp only [List.length_append, List.length_singleton]
      omega
  · simp [good]

theorem getLast?_push {last : β}
    (held : (w.push buf b).getLast? = some last) : last = b := by
  unfold push at held
  dsimp only at held
  split at held
  · split at held
    · rw [List.getLast?_drop] at held
      split at held
      · cases held
      · rw [List.getLast?_concat] at held
        exact (Option.some.inj held).symm
    · rw [List.getLast?_concat] at held
      exact (Option.some.inj held).symm
  · cases held

/-- A valid bin ends the buffer. -/
theorem getLast?_push_of_valid (positive : 0 < w.size) (valid : w.valid b = true) :
    (w.push buf b).getLast? = some b := by
  unfold push
  simp only [valid, if_true]
  split
  · rw [List.getLast?_drop, if_neg (by omega), List.getLast?_concat]
  · rw [List.getLast?_concat]

/-- A window ends with a bin that was read. -/
theorem getLast?_of_mem_windowsFrom {window : List β} (mem : window ∈ w.windowsFrom buf bins) :
    ∀ last ∈ window.getLast?, last ∈ bins := by
  intro last held
  obtain ⟨before, c, after, rfl, rfl, -⟩ := mem_windowsFrom_iff.mp mem
  rw [buffer_concat] at held
  rw [getLast?_push held]
  simp

/-- Over ascending bins, the windows ascend. -/
theorem windowsFrom_ascending (ascending : bins.Pairwise fun a b => w.ends a < w.ends b) :
    (w.windowsFrom buf bins).Pairwise fun earlier later =>
      ∀ a ∈ earlier.getLast?, ∀ b ∈ later.getLast?, w.ends a < w.ends b := by
  induction bins generalizing buf with
  | nil => exact .nil
  | cons b rest ih =>
      obtain ⟨later, ascending⟩ := List.pairwise_cons.mp ascending
      rw [windowsFrom_cons, List.pairwise_append]
      refine ⟨?_, ih ascending, ?_⟩
      · split
        · exact List.pairwise_singleton _ _
        · exact .nil
      · intro window here window' there a last a' last'
        split at here
        · rw [List.mem_singleton.mp here] at last
          rw [getLast?_push last]
          exact later a' (getLast?_of_mem_windowsFrom there a' last')
        · cases here

/-- The bins end on the grid, in order. -/
structure OnGrid (w : Windowing β) (bins : List β) : Prop where
  ascending : bins.Pairwise fun a b => w.ends a < w.ends b
  grid : ∀ b ∈ bins, w.stride ∣ w.ends b

theorem OnGrid.prefix (onGrid : w.OnGrid (bins ++ [b])) : w.OnGrid bins where
  ascending := (List.pairwise_append.mp onGrid.ascending).1
  grid c mem := onGrid.grid c (List.mem_append_left _ mem)

/-- The last `n` grid points, down from the last bin, carry valid bins. -/
def Reaches (w : Windowing β) (bins : List β) (last : Int) (n : Nat) : Prop :=
  ∀ i < n, ∃ c ∈ bins, w.valid c = true ∧ w.ends c = last - i * w.stride

theorem OnGrid.eq_of_ends (onGrid : w.OnGrid bins) {a b : β} (ha : a ∈ bins) (hb : b ∈ bins)
    (same : w.ends a = w.ends b) : a = b := by
  obtain ⟨i, hi, rfl⟩ := List.mem_iff_getElem.mp ha
  obtain ⟨j, hj, rfl⟩ := List.mem_iff_getElem.mp hb
  have ascending := List.pairwise_iff_getElem.mp onGrid.ascending
  rcases Nat.lt_trichotomy i j with lt | rfl | gt
  · have := ascending i j hi hj lt
    omega
  · rfl
  · have := ascending j i hj hi gt
    omega

theorem reaches_succ_iff (onGrid : w.OnGrid (bins ++ [b])) (stride : 0 < w.stride) (n : Nat) :
    w.Reaches (bins ++ [b]) (w.ends b) (n + 1) ↔
      w.valid b = true ∧ w.Reaches bins (w.ends b - w.stride) n := by
  have last : b ∈ bins ++ [b] := by simp
  constructor
  · intro reaches
    constructor
    · obtain ⟨c, mem, valid, ends⟩ := reaches 0 (by omega)
      have same : c = b := onGrid.eq_of_ends mem last (by simpa using ends)
      exact same ▸ valid
    · intro i less
      obtain ⟨c, mem, valid, ends⟩ := reaches (i + 1) (by omega)
      push_cast at ends
      refine ⟨c, ?_, valid, by linarith⟩
      rcases List.mem_append.mp mem with inside | atEnd
      · exact inside
      · -- A grid point below the last bin is not the last bin.
        rw [List.mem_singleton.mp atEnd] at ends
        have : 0 ≤ (i : Int) * w.stride := by positivity
        linarith
  · rintro ⟨valid, reaches⟩ i less
    cases i with
    | zero => exact ⟨b, last, valid, by simp⟩
    | succ i =>
        obtain ⟨c, mem, validC, ends⟩ := reaches i (by omega)
        refine ⟨c, List.mem_append_left _ mem, validC, ?_⟩
        push_cast
        linarith

/-- Two grid points less than a stride apart are the same. -/
theorem eq_of_dvd_of_lt {stride a b : Int} (ha : stride ∣ a) (hb : stride ∣ b) (le : a ≤ b)
    (near : b < a + stride) : a = b := by
  have small : b - a < stride := by omega
  have := Int.eq_zero_of_dvd_of_nonneg_of_lt (by omega) small (Int.dvd_sub hb ha)
  omega

/-- What a bin continues reaches down from the grid point before it. -/
theorem le_length_continued_iff (onGrid : w.OnGrid (bins ++ [b]))
    (reach : ∀ p front, bins = front ++ [p] → ∀ n, n ≤ (w.buffer [] bins).length ↔
      n ≤ w.size ∧ w.Reaches bins (w.ends p) n) (n : Nat) (within : n ≤ w.size) :
    n ≤ (w.continued (w.buffer [] bins) b).length ↔ w.Reaches bins (w.ends b - w.stride) n := by
  have far : (∀ c ∈ bins, w.ends c ≠ w.ends b - w.stride) →
      (n ≤ 0 ↔ w.Reaches bins (w.ends b - w.stride) n) := by
    intro none
    constructor
    · intro zero i less
      omega
    · intro reaches
      by_contra positive
      obtain ⟨c, mem, -, ends⟩ := reaches 0 (by omega)
      exact none c mem (by simpa using ends)
  rcases List.eq_nil_or_concat' bins with rfl | ⟨front, p, rfl⟩
  · exact far (by simp)
  · have before : w.ends p < w.ends b :=
      (List.pairwise_append.mp onGrid.ascending).2.2 p (by simp) b (by simp)
    by_cases next : w.ends b - w.ends p = w.stride
    · have kept : w.continued (w.buffer [] (front ++ [p])) b = w.buffer [] (front ++ [p]) := by
        unfold continued
        cases held : (w.buffer [] (front ++ [p])).getLast? with
        | none =>
            rw [List.getLast?_eq_none_iff] at held
            rw [held]
        | some last =>
            have same : last = p := by
              rw [buffer, List.foldl_append] at held
              exact getLast?_push held
            rw [same]
            simp [next]
      have ends : w.ends b - w.stride = w.ends p := by omega
      rw [kept, ends, reach p front rfl n]
      simp [within]
    · have dropped : w.continued (w.buffer [] (front ++ [p])) b = [] := by
        unfold continued
        cases held : (w.buffer [] (front ++ [p])).getLast? with
        | none => rfl
        | some last =>
            have same : last = p := by
              rw [buffer, List.foldl_append] at held
              exact getLast?_push held
            rw [same]
            simp [next]
      rw [dropped]
      apply far
      intro c mem ends
      have le : w.ends c ≤ w.ends p := by
        rcases List.mem_append.mp mem with inside | atEnd
        · have ascending := onGrid.prefix.ascending
          exact ((List.pairwise_append.mp ascending).2.2 c inside p (by simp)).le
        · rw [List.mem_singleton.mp atEnd]
      have same := eq_of_dvd_of_lt (onGrid.grid c (List.mem_append_left _ mem))
        (onGrid.grid p (by simp)) le (by omega)
      omega

theorem le_length_push_iff (stride : 0 < w.stride) (onGrid : w.OnGrid (bins ++ [b]))
    (reach : ∀ p front, bins = front ++ [p] → ∀ n, n ≤ (w.buffer [] bins).length ↔
      n ≤ w.size ∧ w.Reaches bins (w.ends p) n) (n : Nat) :
    n ≤ (w.buffer [] (bins ++ [b])).length ↔
      n ≤ w.size ∧ w.Reaches (bins ++ [b]) (w.ends b) n := by
  have short : (w.buffer [] bins).length ≤ w.size := (isRun_nil.buffer bins).short
  have pushed : w.buffer [] (bins ++ [b]) = w.push (w.buffer [] bins) b := by
    simp [buffer]
  rw [pushed, length_push short]
  cases n with
  | zero => simp [Reaches]
  | succ n =>
      rw [reaches_succ_iff onGrid stride]
      by_cases good : w.valid b = true
      · by_cases within : n + 1 ≤ w.size
        · have continues := le_length_continued_iff onGrid reach n (by omega)
          simp only [good, if_true, true_and, within, ← continues]
          omega
        · simp only [good, if_true, within, false_and, iff_false]
          omega
      · simp [good]

/-- The buffer holds `n` bins exactly when the last `n` grid points carry valid
bins, up to the size of a window. -/
theorem le_length_buffer_iff (stride : 0 < w.stride) (onGrid : w.OnGrid (bins ++ [b])) (n : Nat) :
    n ≤ (w.buffer [] (bins ++ [b])).length ↔
      n ≤ w.size ∧ w.Reaches (bins ++ [b]) (w.ends b) n := by
  induction bins using List.reverseRecOn generalizing b n with
  | nil => exact le_length_push_iff stride onGrid (by simp) n
  | append_singleton bins p ih =>
      apply le_length_push_iff stride onGrid
      intro q front same n
      obtain ⟨rfl, last⟩ := List.append_inj' same rfl
      obtain rfl : p = q := by simpa using last
      exact ih onGrid.prefix n

end Windowing

end Lib
