import IndustrialReliability.Features.Offline
import IndustrialReliability.Features.Online
import Mathlib.Data.Int.Interval

/-!
The candidate windows of a stream.

A candidate window is six bins in a row with enough events each. The windows that
both sides make of the bins of a stream in order are its candidate windows
(`isFull_iff`, `windowOf_of_mem`), and the next bin comes at once exactly when the
stream goes on within a bin or ends there (`prompt_iff`).
-/

namespace IndustrialReliability

variable {F : Type} [PyFloat F]

/-- The number of events of a stream in the bin that ends at `e`. -/
def binCount (stream : List (Pushed F)) (e : Int) : Nat :=
  stream.countP fun pushed => decide (computeBinEnd pushed.2.val.sourceTimestamp = e)

/-- Six bins in a row, down from the one that ends at `windowEnd`, have at least 24
events each. -/
def CandidateWindow (stream : List (Pushed F)) (windowEnd : Int) : Prop :=
  ∀ i < 6, 24 ≤ binCount stream (windowEnd - (i : Nat) * Datetime.seconds 300)

/-- The stream ends with the window, or has an event in the bin after it. -/
def Continued (stream : List (Pushed F)) (windowEnd : Int) : Prop :=
  (∀ pushed ∈ stream, pushed.2.val.sourceTimestamp ≤ windowEnd) ∨
    ∃ pushed ∈ stream, windowEnd < pushed.2.val.sourceTimestamp ∧
      pushed.2.val.sourceTimestamp ≤ windowEnd + Datetime.seconds 300

section Bins

variable {config : BuilderConfig} {stream : List (Pushed F)}

/-- The bins of a stream. -/
def binsOf (config : BuilderConfig) (stream : List (Pushed F)) : List (Bin F) :=
  Lib.groups TelemetrySample.binEnd (samplesOf config stream)

theorem samplesOf_ordered (ordered : Ordered stream) :
    (samplesOf config stream).Pairwise fun a b => a.timestamp ≤ b.timestamp := by
  unfold samplesOf
  rw [List.pairwise_map]
  exact ordered

theorem samplesOf_byBin (config : BuilderConfig) (ordered : Ordered stream) :
    (samplesOf config stream).Pairwise fun a b => a.binEnd ≤ b.binEnd :=
  (samplesOf_ordered ordered).imp fun le => computeBinEnd_mono le

/-- The samples of a bin are those of its events. -/
theorem mem_binsOf_iff (ordered : Ordered stream) {bin : Bin F} :
    bin ∈ binsOf config stream ↔
      bin.2 = samplesOf config (stream.filter fun pushed =>
        decide (computeBinEnd pushed.2.val.sourceTimestamp = bin.1)) ∧ bin.2 ≠ [] := by
  unfold binsOf
  rw [Lib.mem_groups_iff (samplesOf_byBin _ ordered)]
  unfold samplesOf
  rw [List.filter_map]
  exact Iff.rfl

theorem length_of_mem_binsOf (ordered : Ordered stream) {bin : Bin F}
    (mem : bin ∈ binsOf config stream) : bin.2.length = binCount stream bin.1 := by
  rw [((mem_binsOf_iff ordered).mp mem).1]
  unfold samplesOf binCount
  rw [List.length_map, List.countP_eq_length_filter]

/-- A bin with events is there. -/
theorem exists_bin (config : BuilderConfig) (ordered : Ordered stream) {pushed : Pushed F} (mem : pushed ∈ stream) :
    ∃ bin ∈ binsOf config stream, bin.1 = computeBinEnd pushed.2.val.sourceTimestamp := by
  let e := computeBinEnd pushed.2.val.sourceTimestamp
  refine ⟨(e, samplesOf config (stream.filter fun pushed =>
    decide (computeBinEnd pushed.2.val.sourceTimestamp = e))), ?_, rfl⟩
  rw [mem_binsOf_iff ordered]
  refine ⟨rfl, ?_⟩
  intro empty
  have none := List.map_eq_nil_iff.mp empty
  have inside : pushed ∈ stream.filter fun pushed =>
      decide (computeBinEnd pushed.2.val.sourceTimestamp = e) := by
    simp [mem, e]
  rw [none] at inside
  simp at inside

theorem exists_event (ordered : Ordered stream) {bin : Bin F}
    (mem : bin ∈ binsOf config stream) :
    ∃ pushed ∈ stream, computeBinEnd pushed.2.val.sourceTimestamp = bin.1 := by
  obtain ⟨samples, nonempty⟩ := (mem_binsOf_iff ordered).mp mem
  rw [samples] at nonempty
  obtain ⟨pushed, inside⟩ := List.exists_mem_of_ne_nil _ (mt List.map_eq_nil_iff.mpr nonempty)
  rw [List.mem_filter] at inside
  exact ⟨pushed, inside.1, of_decide_eq_true inside.2⟩

/-- The bins of a stream end on the five-minute grid. -/
theorem binsOf_onGrid (config : BuilderConfig) (ordered : Ordered stream) (w : Lib.Windowing (Bin F))
    (ends : w.ends = Prod.fst) (stride : w.stride = binMicros) :
    w.OnGrid (binsOf config stream) := by
  constructor
  · rw [ends]
    exact Lib.groups_ascending (samplesOf_byBin _ ordered)
  · intro bin mem
    obtain ⟨pushed, -, same⟩ := exists_event ordered mem
    rw [ends, stride, ← same]
    exact computeBinEnd_dvd _

variable {before after : List (Bin F)} {bin : Bin F}

/-- The bins up to one are those with no later end. -/
theorem mem_upTo_iff (ordered : Ordered stream)
    (split : binsOf config stream = before ++ bin :: after) {c : Bin F}
    (mem : c ∈ binsOf config stream) : c ∈ before ++ [bin] ↔ c.1 ≤ bin.1 := by
  have order := Lib.groups_ascending (samplesOf_byBin config ordered)
  have order : (before ++ bin :: after).Pairwise fun a b => a.1 < b.1 := split ▸ order
  obtain ⟨-, fromBin, earlier⟩ := List.pairwise_append.mp order
  obtain ⟨later, -⟩ := List.pairwise_cons.mp fromBin
  constructor
  · intro upTo
    rcases List.mem_append.mp upTo with inBefore | same
    · exact (earlier c inBefore bin List.mem_cons_self).le
    · rw [List.mem_singleton.mp same]
  · intro le
    rw [split] at mem
    rcases List.mem_append.mp mem with inBefore | fromHere
    · exact List.mem_append_left _ inBefore
    · rcases List.mem_cons.mp fromHere with rfl | inAfter
      · simp
      · exact absurd (later c inAfter) (not_lt.mpr le)

/-- The buffer is a window exactly when the stream has a candidate window there. -/
theorem isFull_iff (ordered : Ordered stream)
    (split : binsOf config stream = before ++ bin :: after) :
    (PHASE1C.windowing F).IsFull ((PHASE1C.windowing F).buffer [] (before ++ [bin])) ↔
      CandidateWindow stream bin.1 := by
  have onGrid := binsOf_onGrid config ordered (PHASE1C.windowing F) rfl rfl
  rw [split, List.append_cons] at onGrid
  have onGrid : (PHASE1C.windowing F).OnGrid (before ++ [bin]) :=
    ⟨(List.pairwise_append.mp onGrid.ascending).1,
      fun c mem => onGrid.grid c (List.mem_append_left _ mem)⟩
  have short : ((PHASE1C.windowing F).buffer [] (before ++ [bin])).length ≤ 6 :=
    (Lib.Windowing.isRun_nil.buffer _).short
  have stride : 0 < (PHASE1C.windowing F).stride := by
    show 0 < Datetime.seconds 300
    decide
  have length := Lib.Windowing.le_length_buffer_iff stride onGrid 6
  have full : (PHASE1C.windowing F).IsFull ((PHASE1C.windowing F).buffer [] (before ++ [bin])) ↔
      6 ≤ ((PHASE1C.windowing F).buffer [] (before ++ [bin])).length := by
    constructor
    · intro full
      exact full.ge
    · exact le_antisymm short
  rw [full, length]
  constructor
  · rintro ⟨-, reaches⟩ i less
    obtain ⟨c, mem, valid, ends⟩ := reaches i less
    have inBins : c ∈ binsOf config stream := by
      rw [split, List.append_cons]
      exact List.mem_append_left _ mem
    have ends : c.1 = bin.1 - (i : Nat) * Datetime.seconds 300 := ends
    rw [← ends, ← length_of_mem_binsOf ordered inBins]
    exact of_decide_eq_true valid
  · intro candidate
    refine ⟨le_refl 6, fun i less => ?_⟩
    have enough := candidate i less
    obtain ⟨pushed, mem, same⟩ := List.countP_pos_iff.mp (Nat.lt_of_lt_of_le (by decide) enough)
    obtain ⟨c, inBins, ends⟩ := exists_bin config ordered mem
    rw [of_decide_eq_true same] at ends
    refine ⟨c, ?_, ?_, ends⟩
    · rw [mem_upTo_iff ordered split inBins, ends]
      have : 0 ≤ (i : Int) * Datetime.seconds 300 :=
        mul_nonneg (Int.natCast_nonneg i) (by decide)
      omega
    · apply decide_eq_true
      rw [length_of_mem_binsOf ordered inBins, ends]
      exact enough

/-- The next bin comes at once exactly when the stream goes on in it. -/
theorem prompt_iff (ordered : Ordered stream)
    (split : binsOf config stream = before ++ bin :: after) :
    (PHASE1C.windowing F).Prompt bin after ↔ Continued stream bin.1 := by
  have onGrid := binsOf_onGrid config ordered (PHASE1C.windowing F) rfl rfl
  have edge : ∀ c ∈ binsOf config stream, binMicros ∣ c.1 := onGrid.grid
  have here : bin ∈ binsOf config stream := by
    rw [split]
    simp
  have upTo := fun c (mem : c ∈ binsOf config stream) => mem_upTo_iff ordered split mem
  have order := onGrid.ascending
  rw [split] at order
  obtain ⟨-, fromBin, -⟩ := List.pairwise_append.mp order
  obtain ⟨later, ascendingAfter⟩ := List.pairwise_cons.mp fromBin
  constructor
  · intro prompt
    cases after with
    | nil =>
        left
        intro pushed mem
        obtain ⟨c, inBins, ends⟩ := exists_bin config ordered mem
        have le := (upTo c inBins).mp (by rw [split] at inBins; exact inBins)
        rw [ends] at le
        exact (le_computeBinEnd _).trans le
    | cons next rest =>
        right
        have inBins : next ∈ binsOf config stream := by
          rw [split]
          simp
        have close : next.1 - bin.1 ≤ Datetime.seconds 300 := prompt next rfl
        have less : bin.1 < next.1 := later next List.mem_cons_self
        obtain ⟨pushed, mem, same⟩ := exists_event ordered inBins
        refine ⟨pushed, mem, ?_, ?_⟩
        · rw [← not_le, ← computeBinEnd_le_iff (edge bin here), same]
          exact not_le.mpr less
        · have := le_computeBinEnd pushed.2.val.sourceTimestamp
          omega
  · intro continued next head
    obtain ⟨rest, rfl⟩ : ∃ rest, after = next :: rest := by
      cases after with
      | nil => cases head
      | cons first rest => exact ⟨rest, by cases head; rfl⟩
    have inBins : next ∈ binsOf config stream := by
      rw [split]
      simp
    have less : bin.1 < next.1 := later next List.mem_cons_self
    rcases continued with ended | ⟨pushed, mem, after, within⟩
    · obtain ⟨pushed, mem, same⟩ := exists_event ordered inBins
      have le := (computeBinEnd_le_iff (edge bin here)).mpr (ended pushed mem)
      rw [same] at le
      exact absurd less (not_lt.mpr le)
    · obtain ⟨c, inBinsC, ends⟩ := exists_bin config ordered mem
      have stride : binMicros ∣ bin.1 + Datetime.seconds 300 :=
        dvd_add (edge bin here) (by decide)
      have near := (computeBinEnd_le_iff stride).mpr within
      have beyond : bin.1 < c.1 := by
        rw [ends, ← not_le, computeBinEnd_le_iff (edge bin here)]
        exact not_le.mpr after
      have first : next.1 ≤ c.1 := by
        have inAfter : c ∈ next :: rest := by
          have inBinsC := inBinsC
          rw [split, List.append_cons] at inBinsC
          rcases List.mem_append.mp inBinsC with notLater | inAfter
          · exact absurd beyond (not_lt.mpr ((upTo c (by rw [split, List.append_cons]; simp_all)).mp notLater))
          · exact inAfter
        rcases List.mem_cons.mp inAfter with rfl | inRest
        · exact le_refl _
        · exact ((List.pairwise_cons.mp ascendingAfter).1 c inRest).le
      have : c.1 ≤ bin.1 + Datetime.seconds 300 := ends ▸ near
      show next.1 - bin.1 ≤ Datetime.seconds 300
      omega

/-! ### The windows of a stream -/

/-- What a window of a stream holds. -/
structure WindowOf (config : BuilderConfig) (stream : List (Pushed F)) (window : List (Bin F))
    (windowEnd : Int) : Prop where
  run : (PHASE1C.windowing F).IsRun window
  full : window.length = 6
  bins : ∀ bin ∈ window, bin ∈ binsOf config stream
  last : ∀ bin ∈ window.getLast?, bin.1 = windowEnd
  first : ∀ bin ∈ window.head?, bin.1 = windowEnd - Datetime.seconds 1500
  candidate : CandidateWindow stream windowEnd

theorem windowOf_of_mem (ordered : Ordered stream) {window : List (Bin F)}
    (mem : window ∈ (PHASE1C.windowing F).windowsFrom [] (binsOf config stream)) :
    ∃ windowEnd, WindowOf config stream window windowEnd := by
  obtain ⟨before, bin, after, split, rfl, full⟩ := Lib.Windowing.mem_windowsFrom_iff.mp mem
  have run : (PHASE1C.windowing F).IsRun ((PHASE1C.windowing F).buffer [] (before ++ [bin])) :=
    Lib.Windowing.isRun_nil.buffer _
  have candidate := (isFull_iff ordered split).mp full
  have last : ∀ c ∈ ((PHASE1C.windowing F).buffer [] (before ++ [bin])).getLast?, c = bin := by
    intro c held
    unfold Lib.Windowing.buffer at held
    rw [List.foldl_append] at held
    exact Lib.Windowing.getLast?_push held
  refine ⟨bin.1, run, full, fun c inside => ?_, fun c held => by rw [last c held],
    fun c held => ?_, candidate⟩
  · rcases Lib.Windowing.mem_buffer inside with none | upTo
    · cases none
    · rw [split, List.append_cons]
      exact List.mem_append_left _ upTo
  · have full : ((PHASE1C.windowing F).buffer [] (before ++ [bin])).length = 6 := full
    have contiguous := run.contiguous
    revert full contiguous last held
    generalize (PHASE1C.windowing F).buffer [] (before ++ [bin]) = window
    intro last held full contiguous
    cases window with
    | nil => cases held
    | cons first rest =>
        cases held
        obtain ⟨final, tail⟩ := Option.ne_none_iff_exists'.mp
          (mt List.getLast?_eq_none_iff.mp (List.cons_ne_nil c rest))
        have span := Lib.Windowing.ends_of_contiguous contiguous tail
        rw [last final tail] at span
        have length : rest.length = 5 := by simpa using full
        have span : bin.1 = c.1 + (rest.length : Int) * Datetime.seconds 300 := span
        rw [length] at span
        have : (5 : Int) * Datetime.seconds 300 = Datetime.seconds 1500 := by decide
        push_cast at span
        omega

/-- A window lies in the split of its candidate. -/
theorem WindowOf.inSplit {window : List (Bin F)} {windowEnd : Int}
    (windowOf : WindowOf config stream window windowEnd)
    (within : ∃ split ∈ PHASE1C.splits,
      split.start ≤ windowEnd - Datetime.seconds 1800 ∧ windowEnd ≤ split.stop) :
    InSplit PHASE1C window := by
  obtain ⟨split, mem, start, stop⟩ := within
  refine ⟨split, mem, fun first head last tail => ?_⟩
  rw [windowOf.first first head, windowOf.last last tail]
  refine ⟨?_, stop⟩
  have : Datetime.seconds 1500 + Datetime.seconds 300 = Datetime.seconds 1800 := by decide
  show split.start ≤ windowEnd - Datetime.seconds 1500 - Datetime.seconds 300
  omega

/-- The events of a window. -/
def windowEvents (stream : List (Pushed F)) (window : List (Bin F)) :
    List (Checked (TelemetryEventV1 F)) :=
  window.flatMap fun bin => (stream.filter fun pushed =>
    decide (computeBinEnd pushed.2.val.sourceTimestamp = bin.1)).map (·.2)

theorem WindowOf.samples (ordered : Ordered stream) {window : List (Bin F)} {windowEnd : Int}
    (windowOf : WindowOf config stream window windowEnd) :
    window.flatMap (fun bin => bin.2) = (windowEvents stream window).map fun event =>
      extractSample event.val config.analogCols config.digitalCols := by
  unfold windowEvents
  rw [List.map_flatMap]
  apply List.flatMap_congr
  intro bin mem
  rw [((mem_binsOf_iff ordered).mp (windowOf.bins bin mem)).1]
  unfold samplesOf
  rw [List.map_map]
  rfl

/-- No more events fit into a bin than it has microseconds. -/
theorem length_filter_bin_le (ascending : Ascending stream) (e : Int) :
    (stream.filter fun pushed =>
      decide (computeBinEnd pushed.2.val.sourceTimestamp = e)).length ≤ 300000000 := by
  set inBin := stream.filter fun pushed =>
    decide (computeBinEnd pushed.2.val.sourceTimestamp = e)
  have nodup : (inBin.map fun pushed => pushed.2.val.sourceTimestamp).Nodup := by
    unfold List.Nodup
    rw [List.pairwise_map]
    exact (ascending.sublist List.filter_sublist).imp fun less => less.ne
  have inside : (inBin.map fun pushed => pushed.2.val.sourceTimestamp).toFinset ⊆
      Finset.Ioc (e - binMicros) e := by
    intro ts mem
    rw [List.mem_toFinset] at mem
    obtain ⟨pushed, held, rfl⟩ := List.mem_map.mp mem
    have same := of_decide_eq_true (List.mem_filter.mp held).2
    rw [Finset.mem_Ioc, ← same]
    exact ⟨computeBinEnd_sub_lt _, le_computeBinEnd _⟩
  have card := Finset.card_le_card inside
  rw [List.toFinset_card_of_nodup nodup, List.length_map, Int.card_Ioc] at card
  have : (e - (e - binMicros)).toNat = 300000000 := by
    unfold binMicros
    omega
  omega

theorem WindowOf.length_events_le (ascending : Ascending stream) {window : List (Bin F)}
    {windowEnd : Int} (windowOf : WindowOf config stream window windowEnd) :
    (windowEvents stream window).length ≤ maxWindowSamples := by
  have each : ∀ n ∈ window.map (fun bin => ((stream.filter fun pushed =>
      decide (computeBinEnd pushed.2.val.sourceTimestamp = bin.1)).map (·.2)).length),
      n ≤ 300000000 := by
    intro n mem
    obtain ⟨bin, -, rfl⟩ := List.mem_map.mp mem
    rw [List.length_map]
    exact length_filter_bin_le ascending bin.1
  have bound := List.sum_le_card_nsmul _ _ each
  unfold windowEvents
  rw [List.length_flatMap]
  refine bound.trans ?_
  rw [List.length_map, windowOf.full]
  decide

theorem WindowOf.sampled (ordered : Ordered stream) {window : List (Bin F)} {windowEnd : Int}
    (windowOf : WindowOf config stream window windowEnd) :
    window.flatMap (fun bin => bin.2) ≠ [] := by
  have nonempty : window ≠ [] := by
    intro empty
    have full := windowOf.full
    rw [empty] at full
    cases full
  obtain ⟨bin, mem⟩ := List.exists_mem_of_ne_nil _ nonempty
  have sampled := ((mem_binsOf_iff ordered).mp (windowOf.bins bin mem)).2
  intro empty
  exact sampled (List.flatMap_eq_nil_iff.mp empty bin mem)

end Bins

end IndustrialReliability
