import IndustrialReliability.Features.Causal
import IndustrialReliability.Features.Contract
import IndustrialReliability.Lib.Grouping
import IndustrialReliability.Lib.Windows

/-!
Feature windows of a table, made offline.

`iterPhase1bWindowsWithStats` groups the samples of a table into bins, goes
through the bins in order of their ends, and makes a window of every full buffer
that lies in a split of the contract. On samples in order of time these are the
windows of their bins (`iterPhase1bWindowsWithStats_ok`), unless one crosses the
boundary of a split.
-/

namespace IndustrialReliability

variable {F : Type}

structure Phase1BWindow (F : Type) where
  split : String
  windowStart : Int
  windowEnd : Int
  featureNames : List String
  featureValues : List F
  coverage : CoverageEvidence

/-- A table of telemetry, one row a sample, or the samples themselves. -/
inductive FrameOrSamples (F : Type) where
  | frame (rows : List (TelemetrySample F))
  | samples (samples : List (TelemetrySample F))

/-- `_extract_samples_from_input`: the rows of a table are sorted by timestamp. -/
def extractSamplesFromInput : FrameOrSamples F → List (TelemetrySample F)
  | .frame rows => rows.mergeSort fun a b => decide (a.timestamp ≤ b.timestamp)
  | .samples samples => samples

/-- `_group_samples_into_bins`. -/
def groupSamplesIntoBins (samples : List (TelemetrySample F)) :
    Lib.Table Int (List (TelemetrySample F)) :=
  Lib.groupBy TelemetrySample.binEnd samples

inductive WindowError where
  | features (error : FeatureError)
  /-- `IndexError`, on a buffer without bins. -/
  | indexError
deriving DecidableEq, Repr

section Windows

variable [PyFloat F]

/-- `_create_window_from_buffer`. -/
def createWindowFromBuffer (validBinBuffer : List (Bin F)) (split : String)
    (candidateNames : List String) (analogCols : List AnalogColumn)
    (digitalCols : List DigitalColumn) (contract : Phase1BContract) :
    Except WindowError (Phase1BWindow F) :=
  match validBinBuffer.head?, validBinBuffer.getLast? with
  | some first, some last =>
      let windowEnd := last.1
      let windowStart := first.1 - Datetime.seconds contract.strideSeconds
      let coverage : CoverageEvidence := {
        binEnds := validBinBuffer.map fun bin => bin.1
        observationsByBin := validBinBuffer.map fun bin => bin.2.length }
      let windowSamples := validBinBuffer.flatMap fun bin => bin.2
      match computeFeatureValues windowSamples candidateNames analogCols digitalCols with
      | .ok featureValues => .ok {
          split
          windowStart
          windowEnd
          featureNames := candidateNames
          featureValues
          coverage }
      | .error error => .error (.features error)
  | _, _ => .error .indexError

omit [PyFloat F] in
/-- `_window_is_within_split`. -/
def windowIsWithinSplit (window : Phase1BWindow F) (split : Split) : Bool :=
  decide (split.start ≤ window.windowStart ∧ window.windowEnd ≤ split.stop)

/-- The variables of the loop over the bins. -/
structure WindowLoop (F : Type) where
  validBinBuffer : List (Bin F)
  prevBinEnd : Option Int
  invalidBinsSkipped : Nat
  crossSplitWindowsSkipped : Nat
  windows : List (Phase1BWindow F)

/-- The window of a full buffer, if it lies in a split. -/
def windowLoopEmit (contract : Phase1BContract) (loop : WindowLoop F) :
    Except WindowError (WindowLoop F) :=
  match loop.validBinBuffer.head?, loop.validBinBuffer.getLast? with
  | some first, some last =>
      let windowEnd := last.1
      let windowStart := first.1 - Datetime.seconds contract.strideSeconds
      match contract.splits.find? fun split =>
        decide (split.start ≤ windowStart ∧ windowEnd ≤ split.stop) with
      | none => .ok { loop with crossSplitWindowsSkipped := loop.crossSplitWindowsSkipped + 1 }
      | some matchedSplit => do
          let digitalCols := contract.predictorDigitalColumns
          let window ← createWindowFromBuffer loop.validBinBuffer matchedSplit.name
            (getCandidateFeatureNames contract.analogColumns digitalCols) contract.analogColumns
            digitalCols contract
          if windowIsWithinSplit window matchedSplit then
            return { loop with windows := loop.windows ++ [window] }
          else
            return { loop with crossSplitWindowsSkipped := loop.crossSplitWindowsSkipped + 1 }
  | _, _ => .error .indexError

/-- One turn of the loop over the bins. -/
def windowLoopStep (contract : Phase1BContract) (loop : WindowLoop F) (bin : Bin F) :
    Except WindowError (WindowLoop F) :=
  let (binEnd, binSamples) := bin
  if binSamples.length < contract.minBinObservations then
    .ok { loop with
      invalidBinsSkipped := loop.invalidBinsSkipped + 1
      validBinBuffer := []
      prevBinEnd := none }
  else
    let kept := match loop.prevBinEnd with
      | some prevBinEnd =>
          if binEnd - prevBinEnd ≠ Datetime.seconds contract.strideSeconds then []
          else loop.validBinBuffer
      | none => loop.validBinBuffer
    let grown := kept ++ [(binEnd, binSamples)]
    let buffer := if contract.lookbackBins < grown.length then grown.drop 1 else grown
    let loop := { loop with validBinBuffer := buffer, prevBinEnd := some binEnd }
    if buffer.length = contract.lookbackBins then windowLoopEmit contract loop else .ok loop

/-- `_iter_phase1b_windows_with_stats`: the windows, the bins without enough samples
and the windows that cross splits. -/
def iterPhase1bWindowsWithStats (frameOrSamples : FrameOrSamples F)
    (contract : Phase1BContract) : Except WindowError (List (Phase1BWindow F) × Nat × Nat) := do
  let samples := extractSamplesFromInput frameOrSamples
  let binMap := groupSamplesIntoBins samples
  let sortedBinEnds := binMap.keys.mergeSort fun a b => decide (a ≤ b)
  let bins := sortedBinEnds.map fun binEnd => (binEnd, (binMap.get? binEnd).getD [])
  let loop ← bins.foldlM (windowLoopStep contract) ⟨[], none, 0, 0, []⟩
  return (loop.windows, loop.invalidBinsSkipped, loop.crossSplitWindowsSkipped)

/-! ### The windows of samples in order -/

/-- The binning of the contract. -/
def Phase1BContract.windowing (F : Type) (contract : Phase1BContract) :
    Lib.Windowing (Bin F) where
  ends := Prod.fst
  valid bin := decide (contract.minBinObservations ≤ bin.2.length)
  stride := Datetime.seconds contract.strideSeconds
  size := contract.lookbackBins

/-- The names of the candidate features. -/
def Phase1BContract.candidateNames (contract : Phase1BContract) : List String :=
  getCandidateFeatureNames contract.analogColumns contract.predictorDigitalColumns

/-- The window is created from the bins, for a split of the contract. -/
def CreatedFrom (contract : Phase1BContract) (bins : List (Bin F)) (window : Phase1BWindow F) :
    Prop :=
  ∃ split ∈ contract.splits, createWindowFromBuffer bins split.name contract.candidateNames
    contract.analogColumns contract.predictorDigitalColumns contract = .ok window

/-- The bins lie in a split of the contract. -/
def InSplit (contract : Phase1BContract) (bins : List (Bin F)) : Prop :=
  ∃ split ∈ contract.splits, ∀ first ∈ bins.head?, ∀ last ∈ bins.getLast?,
    split.start ≤ first.1 - Datetime.seconds contract.strideSeconds ∧ last.1 ≤ split.stop

variable {contract : Phase1BContract}

/-- A window with samples can be created. -/
theorem createWindowFromBuffer_ok (contract : Phase1BContract) {bins : List (Bin F)} {first last : Bin F}
    (head : bins.head? = some first) (tail : bins.getLast? = some last)
    (sampled : bins.flatMap (fun bin => bin.2) ≠ []) (split : String) :
    ∃ window, createWindowFromBuffer bins split contract.candidateNames contract.analogColumns
        contract.predictorDigitalColumns contract = .ok window ∧
      window.windowStart = first.1 - Datetime.seconds contract.strideSeconds ∧
      window.windowEnd = last.1 := by
  have known : ∀ name ∈ contract.candidateNames, name ∈ getCandidateFeatureNames
      contract.analogColumns contract.predictorDigitalColumns := fun name mem => mem
  have computed := computeFeatureValues_eq_ok_iff.mpr ⟨sampled, known, rfl⟩
  unfold createWindowFromBuffer
  rw [head, tail]
  dsimp only
  rw [computed]
  exact ⟨_, rfl, rfl, rfl⟩

/-- A buffer with samples that lies in a split yields its window. -/
theorem windowLoopEmit_ok (loop : WindowLoop F)
    (sampled : loop.validBinBuffer.flatMap (fun bin => bin.2) ≠ [])
    (inSplit : InSplit contract loop.validBinBuffer) :
    ∃ window, windowLoopEmit contract loop =
        .ok { loop with windows := loop.windows ++ [window] } ∧
      CreatedFrom contract loop.validBinBuffer window := by
  have nonempty : loop.validBinBuffer ≠ [] := by
    intro empty
    rw [empty] at sampled
    exact sampled rfl
  obtain ⟨first, head⟩ := Option.ne_none_iff_exists'.mp (mt List.head?_eq_none_iff.mp nonempty)
  obtain ⟨last, tail⟩ := Option.ne_none_iff_exists'.mp (mt List.getLast?_eq_none_iff.mp nonempty)
  obtain ⟨inside, mem, within⟩ := inSplit
  have someSplit : (contract.splits.find? fun split => decide (split.start ≤ first.1 -
      Datetime.seconds contract.strideSeconds ∧ last.1 ≤ split.stop)).isSome := by
    rw [List.find?_isSome]
    exact ⟨inside, mem, decide_eq_true (within first head last tail)⟩
  obtain ⟨matched, found⟩ := Option.isSome_iff_exists.mp someSplit
  have bounds : matched.start ≤ first.1 - Datetime.seconds contract.strideSeconds ∧
      last.1 ≤ matched.stop := by
    simpa using List.find?_some found
  obtain ⟨window, created, start, stop⟩ :=
    createWindowFromBuffer_ok contract head tail sampled matched.name
  have fits : windowIsWithinSplit window matched = true := by
    unfold windowIsWithinSplit
    rw [start, stop]
    exact decide_eq_true bounds
  refine ⟨window, ?_, matched, List.mem_of_find?_eq_some found, created⟩
  unfold windowLoopEmit
  rw [head, tail]
  dsimp only
  rw [found]
  dsimp only
  refine Lib.bind_eq_ok_iff.mpr ⟨window, created, ?_⟩
  rw [if_pos fits]
  rfl

/-- The previous bin end is that of the buffer. -/
def WindowLoop.Tracks (loop : WindowLoop F) : Prop :=
  loop.prevBinEnd = loop.validBinBuffer.getLast?.map Prod.fst

omit [PyFloat F] in
theorem push_eq_of_tracks {loop : WindowLoop F} (tracks : loop.Tracks) (binEnd : Int)
    (samples : List (TelemetrySample F)) (valid : contract.minBinObservations ≤ samples.length) :
    (contract.windowing F).push loop.validBinBuffer (binEnd, samples) =
      let kept := match loop.prevBinEnd with
        | some prevBinEnd =>
            if binEnd - prevBinEnd ≠ Datetime.seconds contract.strideSeconds then []
            else loop.validBinBuffer
        | none => loop.validBinBuffer
      let grown := kept ++ [(binEnd, samples)]
      if contract.lookbackBins < grown.length then grown.drop 1 else grown := by
  unfold Lib.Windowing.push Lib.Windowing.continued Phase1BContract.windowing
  rw [tracks]
  simp only [decide_eq_true valid, if_true]
  cases held : loop.validBinBuffer.getLast? with
  | none =>
      rw [List.getLast?_eq_none_iff] at held
      rw [held]
      rfl
  | some previous =>
      by_cases next : binEnd - previous.1 = Datetime.seconds contract.strideSeconds
      · simp [next]
      · simp [next]

omit [PyFloat F] in
theorem push_of_invalid {buffer : List (Bin F)} {binEnd : Int} {samples : List (TelemetrySample F)}
    (invalid : ¬ contract.minBinObservations ≤ samples.length) :
    (contract.windowing F).push buffer (binEnd, samples) = [] := by
  unfold Lib.Windowing.push Phase1BContract.windowing
  simp [invalid]

/-- One turn of the loop pushes the bin and creates the window it completes. -/
theorem windowLoopStep_ok (positive : 0 < contract.lookbackBins) {loop : WindowLoop F}
    (tracks : loop.Tracks) (bin : Bin F)
    (emits : (contract.windowing F).IsFull ((contract.windowing F).push loop.validBinBuffer bin) →
      ((contract.windowing F).push loop.validBinBuffer bin).flatMap (fun bin => bin.2) ≠ [] ∧
        InSplit contract ((contract.windowing F).push loop.validBinBuffer bin)) :
    ∃ next created, windowLoopStep contract loop bin = .ok next ∧ next.Tracks ∧
      next.validBinBuffer = (contract.windowing F).push loop.validBinBuffer bin ∧
      next.windows = loop.windows ++ created ∧
      List.Forall₂ (CreatedFrom contract)
        (if (contract.windowing F).IsFull ((contract.windowing F).push loop.validBinBuffer bin)
          then [(contract.windowing F).push loop.validBinBuffer bin] else []) created := by
  obtain ⟨binEnd, samples⟩ := bin
  unfold windowLoopStep
  dsimp only
  by_cases valid : contract.minBinObservations ≤ samples.length
  · have pushed := push_eq_of_tracks tracks binEnd samples valid
    dsimp only at pushed
    rw [if_neg (not_lt.mpr valid), ← pushed]
    have last : (some binEnd : Option Int) =
        ((contract.windowing F).push loop.validBinBuffer (binEnd, samples)).getLast?.map Prod.fst := by
      rw [Lib.Windowing.getLast?_push_of_valid positive (decide_eq_true valid)]
      rfl
    by_cases full : (contract.windowing F).IsFull
        ((contract.windowing F).push loop.validBinBuffer (binEnd, samples))
    · have length : ((contract.windowing F).push loop.validBinBuffer (binEnd, samples)).length =
        contract.lookbackBins := full
      obtain ⟨sampled, inSplit⟩ := emits full
      rw [if_pos length, if_pos full]
      obtain ⟨window, emitted, created⟩ := windowLoopEmit_ok { loop with
        validBinBuffer := (contract.windowing F).push loop.validBinBuffer (binEnd, samples)
        prevBinEnd := some binEnd } sampled inSplit
      exact ⟨_, [window], emitted, last, rfl, rfl, .cons created .nil⟩
    · have length : ((contract.windowing F).push loop.validBinBuffer (binEnd, samples)).length ≠
        contract.lookbackBins := full
      rw [if_neg length, if_neg full]
      exact ⟨_, [], rfl, last, rfl, (List.append_nil _).symm, .nil⟩
  · rw [if_pos (not_le.mp valid), push_of_invalid valid,
      if_neg (by simp [Lib.Windowing.IsFull, Phase1BContract.windowing]; omega)]
    exact ⟨_, [], rfl, rfl, rfl, (List.append_nil _).symm, .nil⟩

/-- The loop creates the windows of the bins. -/
theorem windowLoop_ok (positive : 0 < contract.lookbackBins) {bins : List (Bin F)}
    {loop : WindowLoop F} (tracks : loop.Tracks)
    (emits : ∀ window ∈ (contract.windowing F).windowsFrom loop.validBinBuffer bins,
      window.flatMap (fun bin => bin.2) ≠ [] ∧ InSplit contract window) :
    ∃ done created, bins.foldlM (windowLoopStep contract) loop = .ok done ∧
      done.windows = loop.windows ++ created ∧
      List.Forall₂ (CreatedFrom contract)
        ((contract.windowing F).windowsFrom loop.validBinBuffer bins) created := by
  induction bins generalizing loop with
  | nil => exact ⟨loop, [], rfl, (List.append_nil _).symm, .nil⟩
  | cons bin rest ih =>
      rw [Lib.Windowing.windowsFrom_cons] at emits ⊢
      obtain ⟨next, here, step, tracksNext, buffer, windows, createdHere⟩ :=
        windowLoopStep_ok positive tracks bin fun full => emits _ (by simp [full])
      have emitsRest : ∀ window ∈ (contract.windowing F).windowsFrom next.validBinBuffer rest,
          window.flatMap (fun bin => bin.2) ≠ [] ∧ InSplit contract window := by
        rw [buffer]
        exact fun window mem => emits window (List.mem_append_right _ mem)
      obtain ⟨done, there, run, allWindows, createdThere⟩ := ih tracksNext emitsRest
      refine ⟨done, here ++ there, ?_, ?_, ?_⟩
      · rw [List.foldlM_cons]
        exact Lib.bind_eq_ok_iff.mpr ⟨next, step, run⟩
      · rw [allWindows, windows, List.append_assoc]
      · rw [buffer] at createdThere
        exact List.rel_append createdHere createdThere

omit [PyFloat F] in
/-- Samples in order of time are grouped run by run, the runs in order. -/
theorem sortedBins_eq_groups {samples : List (TelemetrySample F)}
    (ordered : samples.Pairwise fun a b => a.timestamp ≤ b.timestamp) :
    ((groupSamplesIntoBins samples).keys.mergeSort fun a b => decide (a ≤ b)).map
        (fun binEnd => (binEnd, ((groupSamplesIntoBins samples).get? binEnd).getD [])) =
      Lib.groups TelemetrySample.binEnd samples := by
  have byBin : samples.Pairwise fun a b => a.binEnd ≤ b.binEnd :=
    ordered.imp fun le => computeBinEnd_mono le
  have rows := Lib.groupBy_rows byBin
  have sorted : (groupSamplesIntoBins samples).keys.Pairwise fun a b => decide (a ≤ b) = true := by
    unfold groupSamplesIntoBins Lib.Table.keys
    rw [rows, List.pairwise_map]
    exact (Lib.groups_ascending byBin).imp fun less => decide_eq_true less.le
  rw [List.mergeSort_of_pairwise sorted]
  unfold Lib.Table.keys
  rw [List.map_map]
  have each : ∀ bin ∈ (groupSamplesIntoBins samples).rows,
      ((fun binEnd => (binEnd, ((groupSamplesIntoBins samples).get? binEnd).getD [])) ∘ Prod.fst)
        bin = bin := by
    intro bin mem
    have held := Lib.Table.get?_eq_some_iff.mpr mem
    simp [held]
  rw [List.map_congr_left each, List.map_id']
  exact rows

/-- Samples in order of time have the windows of their bins. -/
theorem iterPhase1bWindowsWithStats_ok (positive : 0 < contract.lookbackBins)
    (frameOrSamples : FrameOrSamples F)
    (ordered : (extractSamplesFromInput frameOrSamples).Pairwise
      fun a b => a.timestamp ≤ b.timestamp)
    (emits : ∀ window ∈ (contract.windowing F).windowsFrom []
      (Lib.groups TelemetrySample.binEnd (extractSamplesFromInput frameOrSamples)),
      window.flatMap (fun bin => bin.2) ≠ [] ∧ InSplit contract window) :
    ∃ windows invalid crossing,
      iterPhase1bWindowsWithStats frameOrSamples contract = .ok (windows, invalid, crossing) ∧
      List.Forall₂ (CreatedFrom contract) ((contract.windowing F).windowsFrom []
        (Lib.groups TelemetrySample.binEnd (extractSamplesFromInput frameOrSamples))) windows := by
  have initially : (⟨[], none, 0, 0, []⟩ : WindowLoop F).Tracks := rfl
  obtain ⟨done, created, run, windows, made⟩ := windowLoop_ok positive initially emits
  refine ⟨done.windows, done.invalidBinsSkipped, done.crossSplitWindowsSkipped, ?_, ?_⟩
  · unfold iterPhase1bWindowsWithStats
    dsimp only
    rw [sortedBins_eq_groups ordered]
    exact Lib.bind_eq_ok_iff.mpr ⟨done, run, rfl⟩
  · rw [windows]
    exact made

end Windows

end IndustrialReliability
