import IndustrialReliability.Features.Candidates

/-!
Online against offline feature windows.

Both sides bin the samples of a stream and make a window of every six valid bins
in a row. The builder emits the windows of the open bin when the next event falls
into another bin; when that bin is not the next one, it finalises the open bin and
drops what that emits. So the two lists are equal exactly when no window is
followed by such a gap (`online_eq_offline_iff`).
-/

namespace IndustrialReliability

variable {F : Type} [PyFloat F]

/-! ### The message of a window -/

/-- The coverage of a window. -/
def windowCoverage (window : List (Bin F)) : CoverageEvidenceV1 where
  observationsByBin := window.map fun bin => bin.2.length
  binEnds := window.map fun bin => bin.1

/-- The message of a window from bin `first` to bin `last`. -/
def windowVector [Uuid5] (config : BuilderConfig) (emittedAt : Instant) (window : List (Bin F))
    (first last : Bin F) (featureValues : List F) : FeatureVectorV1 F :=
  let windowId := runtimeId "window" config.replaySessionId (Datetime.isoformatSeconds "T" last.1)
  { messageId := windowId
    replaySessionId := config.replaySessionId
    sourceDatasetSha256 := config.sourceDatasetSha256
    contractSha256 := config.contractSha256
    sourceTimestamp := last.1
    emittedAt
    windowId
    machineId := config.machineId
    windowStart := first.1 - Datetime.seconds config.strideSeconds
    windowEnd := last.1
    featureNames := config.featureNames
    featureValues
    coverage := windowCoverage window }

theorem BuilderError.ofValidation_eq_ok_iff {α : Type} {x : Except ValidationError α} {a : α} :
    BuilderError.ofValidation x = .ok a ↔ x = .ok a := by
  cases x <;> simp [BuilderError.ofValidation]

theorem BuilderError.ofFeatures_eq_ok_iff {α : Type} {x : Except FeatureError α} {a : α} :
    BuilderError.ofFeatures x = .ok a ↔ x = .ok a := by
  cases x <;> simp [BuilderError.ofFeatures]

/-- The message of a window is emitted exactly when its coverage, its features and
the message itself pass. -/
theorem emitWindow_eq_ok_iff [Uuid5] {config : BuilderConfig} {emittedAt : Instant}
    {window : List (Bin F)} {vector : FeatureVectorV1 F} :
    OnlineFeatureBuilder.emitWindow config emittedAt window = .ok vector ↔
      ∃ first ∈ window.head?, ∃ last ∈ window.getLast?, ∃ values,
        Valid (windowCoverage window) ∧
        computeFeatureValues (window.flatMap fun bin => bin.2) config.featureNames
          config.analogCols config.digitalCols = .ok values ∧
        Valid (windowVector config emittedAt window first last values) ∧
        vector = windowVector config emittedAt window first last values := by
  unfold OnlineFeatureBuilder.emitWindow
  cases head : window.head? with
  | none => simp
  | some first =>
      cases tail : window.getLast? with
      | none => simp
      | some last =>
          simp only [Lib.bind_eq_ok_iff, BuilderError.ofValidation_eq_ok_iff,
            BuilderError.ofFeatures_eq_ok_iff, construct_eq_ok_iff]
          constructor
          · rintro ⟨coverage, ⟨covered, rfl⟩, values, computed, valid, rfl⟩
            exact ⟨first, rfl, last, rfl, values, covered, computed, valid, rfl⟩
          · rintro ⟨_, ⟨⟩, _, ⟨⟩, values, covered, computed, valid, rfl⟩
            exact ⟨_, ⟨covered, rfl⟩, values, computed, valid, rfl⟩

/-! ### Windows the builder can emit -/

/-- A builder of phase 1C windows, with a machine and features its messages
accept. -/
structure BuilderConfig.ForPhase1C (config : BuilderConfig) : Prop where
  strideSeconds : config.strideSeconds = PHASE1C.strideSeconds
  lookbackBins : config.lookbackBins = PHASE1C.lookbackBins
  minBinObservations : config.minBinObservations = PHASE1C.minBinObservations
  analogCols : config.analogCols = PHASE1C.analogColumns
  digitalCols : config.digitalCols = PHASE1C.predictorDigitalColumns
  machineId : 1 ≤ config.machineId.length ∧ config.machineId.length ≤ 128
  featured : config.featureNames ≠ []
  distinct : config.featureNames.Nodup
  known : ∀ name ∈ config.featureNames, name ∈ PHASE1C.candidateNames

/-- A builder that is given no windowing options builds phase 1C windows. -/
theorem BuilderConfig.forPhase1C_ofDefaults (replaySessionId : UUID) {machineId : String}
    (sourceDatasetSha256 contractSha256 : Sha256) {featureNames : List String}
    (named : 1 ≤ machineId.length ∧ machineId.length ≤ 128) (featured : featureNames ≠ [])
    (distinct : featureNames.Nodup) (known : ∀ name ∈ featureNames, name ∈ PHASE1C.candidateNames) :
    (BuilderConfig.ofDefaults replaySessionId machineId sourceDatasetSha256 contractSha256
      featureNames).ForPhase1C :=
  ⟨rfl, rfl, rfl, rfl, rfl, named, featured, distinct, known⟩

namespace BuilderConfig.ForPhase1C

variable {config : BuilderConfig} (forPhase1C : config.ForPhase1C)
include forPhase1C

omit [PyFloat F] in
theorem windowing : config.windowing F = PHASE1C.windowing F := by
  unfold BuilderConfig.windowing Phase1BContract.windowing
  rw [forPhase1C.strideSeconds, forPhase1C.lookbackBins, forPhase1C.minBinObservations]

theorem candidate {name : String} (mem : name ∈ config.featureNames) :
    name ∈ getCandidateFeatureNames config.analogCols config.digitalCols := by
  rw [forPhase1C.analogCols, forPhase1C.digitalCols]
  exact forPhase1C.known name mem

end BuilderConfig.ForPhase1C

section Emission

variable {config : BuilderConfig} {stream : List (Pushed F)} {window : List (Bin F)}
  {windowEnd : Int}

/-- Six valid bins in a row pass the coverage checks. -/
theorem windowCoverage_valid (windowOf : WindowOf config stream window windowEnd) :
    Valid (windowCoverage window) := by
  have enough : ∀ bin ∈ window, 24 ≤ bin.2.length := by
    intro bin mem
    exact of_decide_eq_true (windowOf.run.valid bin mem)
  have increasing : (window.map fun bin => bin.1).IsChain (· < ·) := by
    rw [List.isChain_map]
    refine windowOf.run.contiguous.imp ?_
    intro a b (next : b.1 = a.1 + Datetime.seconds 300)
    have stride : 0 < Datetime.seconds 300 := by decide
    omega
  rw [coverageEvidence_valid_iff]
  unfold windowCoverage
  dsimp only
  rw [List.length_map, List.length_map, List.forall_mem_map]
  exact ⟨windowOf.full, windowOf.full, enough, increasing⟩

variable (ordered : Ordered stream) (windowOf : WindowOf config stream window windowEnd) {n : Nat}
  (short : (windowEvents stream window).length ≤ n) (numpy : FiniteUpTo F n) (forPhase1C : config.ForPhase1C)
include ordered windowOf short numpy forPhase1C

/-- The features of a window are finite numbers. -/
theorem WindowOf.features_finite :
    ∀ value ∈ config.featureNames.map (featureValue (window.flatMap fun bin => bin.2)
      config.analogCols config.digitalCols), PyFloat.isFinite value = true := by
  intro value mem
  obtain ⟨name, named, rfl⟩ := List.mem_map.mp mem
  have sampled := windowOf.sampled ordered
  have stat := featureValue_mem (window.flatMap fun bin => bin.2) (forPhase1C.candidate named)
  rw [windowOf.samples ordered] at stat sampled ⊢
  have events : windowEvents stream window ≠ [] := mt List.map_eq_nil_iff.mpr sampled
  exact statistics_finite numpy events short _ stat

/-- The message of a candidate window passes its schema. -/
theorem WindowOf.emittable [Uuid5] :
    Emittable config window := by
  intro emittedAt
  have nonempty : window ≠ [] := by
    intro empty
    have full := windowOf.full
    rw [empty] at full
    cases full
  obtain ⟨first, head⟩ := Option.ne_none_iff_exists'.mp (mt List.head?_eq_none_iff.mp nonempty)
  obtain ⟨last, tail⟩ := Option.ne_none_iff_exists'.mp (mt List.getLast?_eq_none_iff.mp nonempty)
  have computed := computeFeatureValues_eq_ok_iff.mpr ⟨windowOf.sampled ordered,
    fun name mem => forPhase1C.candidate mem, rfl⟩
  have spans : first.1 - Datetime.seconds config.strideSeconds < last.1 := by
    rw [windowOf.first first head, windowOf.last last tail, forPhase1C.strideSeconds]
    show windowEnd - Datetime.seconds 1500 - Datetime.seconds 300 < windowEnd
    have : 0 < Datetime.seconds 1500 + Datetime.seconds 300 := by decide
    omega
  have finite := windowOf.features_finite ordered short numpy forPhase1C
  have named : 1 ≤ config.featureNames.length :=
    List.length_pos_of_ne_nil forPhase1C.featured
  have distinct := forPhase1C.distinct
  obtain ⟨machineShort, machineLong⟩ := forPhase1C.machineId
  refine ⟨_, emitWindow_eq_ok_iff.mpr ⟨first, head, last, tail, _,
    windowCoverage_valid windowOf, computed, ?_, rfl⟩⟩
  rw [featureVector_valid_iff]
  unfold windowVector
  dsimp only
  rw [List.length_map]
  exact ⟨machineShort, machineLong, named, named, ⟨spans, rfl⟩, rfl, distinct, finite⟩

end Emission

/-! ### The same windows on both sides -/

/-- The two windows have the same bounds, the same bins with the same samples, and
the same values of the features of the message. -/
structure SameWindow [Uuid5] (config : BuilderConfig) (vector : FeatureVectorV1 F)
    (window : Phase1BWindow F) : Prop where
  windowStart : vector.windowStart = window.windowStart
  windowEnd : vector.windowEnd = window.windowEnd
  observationsByBin : vector.coverage.observationsByBin = window.coverage.observationsByBin
  binEnds : vector.coverage.binEnds = window.coverage.binEnds
  bins : ∃ bins, MadeFrom config bins vector ∧ CreatedFrom PHASE1C bins window
  values : ∀ feature ∈ vector.featureNames.zip vector.featureValues,
    feature ∈ window.featureNames.zip window.featureValues

theorem mem_zip_map_iff {A B : Type} {f : A → B} {names : List A} {pair : A × B} :
    pair ∈ names.zip (names.map f) ↔ pair.1 ∈ names ∧ pair.2 = f pair.1 := by
  have zipped : names.zip (names.map f) = names.map fun name => (name, f name) := by
    simpa using List.zip_map' (f := id) (g := f) (l := names)
  rw [zipped, List.mem_map]
  constructor
  · rintro ⟨name, mem, rfl⟩
    exact ⟨mem, rfl⟩
  · rintro ⟨mem, value⟩
    exact ⟨pair.1, mem, by rw [← value]⟩

theorem sameWindow_of_bins [Uuid5] {config : BuilderConfig} (forPhase1C : config.ForPhase1C)
    {bins : List (Bin F)} {vector : FeatureVectorV1 F} {window : Phase1BWindow F}
    (made : MadeFrom config bins vector) (created : CreatedFrom PHASE1C bins window) :
    SameWindow config vector window := by
  have common : ∃ bins, MadeFrom config bins vector ∧ CreatedFrom PHASE1C bins window :=
    ⟨bins, made, created⟩
  obtain ⟨emittedAt, emitted⟩ := made
  obtain ⟨first, head, last, tail, values, -, computed, -, rfl⟩ := emitWindow_eq_ok_iff.mp emitted
  obtain ⟨split, -, created⟩ := created
  have head : bins.head? = some first := head
  have tail : bins.getLast? = some last := tail
  obtain ⟨sampled, -, rfl⟩ := computeFeatureValues_eq_ok_iff.mp computed
  have offline := computeFeatureValues_eq_ok_iff.mpr
    ⟨sampled, fun name (mem : name ∈ PHASE1C.candidateNames) => mem, rfl⟩
  unfold createWindowFromBuffer at created
  rw [head, tail] at created
  dsimp only at created
  rw [offline] at created
  obtain rfl := Except.ok.inj created
  refine ⟨?_, rfl, rfl, rfl, common, ?_⟩
  · show first.1 - _ = first.1 - _
    rw [forPhase1C.strideSeconds]
  · intro feature mem
    have mem : feature ∈ config.featureNames.zip (config.featureNames.map (featureValue
      (bins.flatMap fun bin => bin.2) config.analogCols config.digitalCols)) := mem
    obtain ⟨named, value⟩ := mem_zip_map_iff.mp mem
    rw [forPhase1C.analogCols, forPhase1C.digitalCols] at value
    exact mem_zip_map_iff.mpr ⟨forPhase1C.known _ named, value⟩

/-- The table has the samples as its rows, in any order, or is the samples. -/
def SameRows (samples : List (TelemetrySample F)) : FrameOrSamples F → Prop
  | .frame rows => rows.Perm samples
  | .samples given => given = samples

omit [PyFloat F] in
theorem sameRows_samples (samples : List (TelemetrySample F)) :
    SameRows samples (.samples samples) := by
  unfold SameRows
  rfl

omit [PyFloat F] in
theorem extractSamplesFromInput_eq {samples : List (TelemetrySample F)}
    (ascending : samples.Pairwise fun a b => a.timestamp < b.timestamp)
    {frameOrSamples : FrameOrSamples F} (same : SameRows samples frameOrSamples) :
    extractSamplesFromInput frameOrSamples = samples := by
  cases frameOrSamples with
  | samples given => exact same
  | frame rows =>
      have perm : (rows.mergeSort fun a b => decide (a.timestamp ≤ b.timestamp)).Perm samples :=
        (List.mergeSort_perm rows _).trans same
      have sorted : (rows.mergeSort fun a b => decide (a.timestamp ≤ b.timestamp)).Pairwise
          fun a b => a.timestamp ≤ b.timestamp := by
        refine (List.pairwise_mergeSort ?_ ?_ rows).imp of_decide_eq_true
        · intro a b c ab bc
          exact decide_eq_true ((of_decide_eq_true ab).trans (of_decide_eq_true bc))
        · intro a b
          simpa using le_total a.timestamp b.timestamp
      refine perm.eq_of_pairwise ?_ sorted (ascending.imp le_of_lt)
      have distinct : (samples.map TelemetrySample.timestamp).Nodup := by
        unfold List.Nodup
        rw [List.pairwise_map]
        exact ascending.imp fun less => less.ne
      intro a b inRows inSamples ab ba
      exact List.inj_on_of_nodup_map distinct (perm.subset inRows) inSamples (le_antisymm ab ba)

/-- The builder and the table yield the same list of windows. -/
def OnlineEqOffline [Uuid5] [Sha256Digest] (config : BuilderConfig) (stream : List (Pushed F))
    (completedAt : Instant) (frameOrSamples : FrameOrSamples F) : Prop :=
  ∃ vectors windows invalid crossing,
    onlineFeatures config .new stream completedAt (lastTimestamp stream) = .ok vectors ∧
    iterPhase1bWindowsWithStats frameOrSamples PHASE1C = .ok (windows, invalid, crossing) ∧
    List.Forall₂ (SameWindow config) vectors windows

section Parity

variable [Uuid5] [Sha256Digest] {config : BuilderConfig} {stream : List (Pushed F)}

/-- On a stream in order both sides run through: the builder emits the windows of
the bins that are not followed by a gap, the table yields all of them. -/
theorem both_ok (numpy : NumpyFinite F) (forPhase1C : config.ForPhase1C) {n : Int}
    (numbered : NumberedFrom n stream) (ascending : Ascending stream)
    (within : ∀ windowEnd, CandidateWindow stream windowEnd → ∃ split ∈ PHASE1C.splits,
      split.start ≤ windowEnd - Datetime.seconds 1800 ∧ windowEnd ≤ split.stop)
    (completedAt : Instant) {frameOrSamples : FrameOrSamples F}
    (same : SameRows (samplesOf config stream) frameOrSamples) :
    ∃ vectors windows invalid crossing,
      onlineFeatures config .new stream completedAt (lastTimestamp stream) = .ok vectors ∧
      iterPhase1bWindowsWithStats frameOrSamples PHASE1C = .ok (windows, invalid, crossing) ∧
      List.Forall₂ (MadeFrom config)
        ((PHASE1C.windowing F).promptFrom [] (binsOf config stream)) vectors ∧
      List.Forall₂ (CreatedFrom PHASE1C)
        ((PHASE1C.windowing F).windowsFrom [] (binsOf config stream)) windows := by
  have windowing := forPhase1C.windowing (F := F)
  have rows : extractSamplesFromInput frameOrSamples = samplesOf config stream := by
    refine extractSamplesFromInput_eq ?_ same
    unfold samplesOf
    rw [List.pairwise_map]
    exact ascending
  have emits : ∀ window ∈ (config.windowing F).windowsFrom []
      (Lib.groups TelemetrySample.binEnd (samplesOf config stream)), Emittable config window := by
    rw [windowing]
    intro window mem
    obtain ⟨windowEnd, windowOf⟩ := windowOf_of_mem ascending.ordered mem
    exact windowOf.emittable ascending.ordered (windowOf.length_events_le ascending) numpy forPhase1C
  have creates : ∀ window ∈ (PHASE1C.windowing F).windowsFrom []
      (Lib.groups TelemetrySample.binEnd (extractSamplesFromInput frameOrSamples)),
      window.flatMap (fun bin => bin.2) ≠ [] ∧ InSplit PHASE1C window := by
    rw [rows]
    intro window mem
    obtain ⟨windowEnd, windowOf⟩ := windowOf_of_mem ascending.ordered mem
    exact ⟨windowOf.sampled ascending.ordered, windowOf.inSplit (within windowEnd windowOf.candidate)⟩
  have ordered : (extractSamplesFromInput frameOrSamples).Pairwise
      fun a b => a.timestamp ≤ b.timestamp := by
    rw [rows]
    exact samplesOf_ordered ascending.ordered
  have positive : 0 < config.lookbackBins := by
    rw [forPhase1C.lookbackBins]
    decide
  obtain ⟨vectors, online, made⟩ :=
    onlineFeatures_ok positive completedAt numbered ascending emits
  obtain ⟨windows, invalid, crossing, offline, created⟩ :=
    iterPhase1bWindowsWithStats_ok (by decide) frameOrSamples ordered creates
  rw [windowing] at made
  rw [rows] at created
  exact ⟨vectors, windows, invalid, crossing, online, offline, made, created⟩

omit [Uuid5] [Sha256Digest] in
/-- No window of the bins is followed by a gap exactly when the stream goes on
behind every candidate window. -/
theorem promptFrom_eq_windowsFrom_iff (ascending : Ascending stream) :
    (PHASE1C.windowing F).promptFrom [] (binsOf config stream) =
        (PHASE1C.windowing F).windowsFrom [] (binsOf config stream) ↔
      ∀ windowEnd, CandidateWindow stream windowEnd → Continued stream windowEnd := by
  rw [Lib.Windowing.promptFrom_eq_iff]
  constructor
  · intro prompt windowEnd candidate
    have enough := candidate 0 (by omega)
    obtain ⟨pushed, mem, ends⟩ := List.countP_pos_iff.mp (Nat.lt_of_lt_of_le (by decide) enough)
    obtain ⟨bin, inBins, same⟩ := exists_bin config ascending.ordered mem
    have here : bin.1 = windowEnd := by
      rw [same, of_decide_eq_true ends]
      simp
    obtain ⟨before, after, split⟩ := List.append_of_mem inBins
    rw [← here] at candidate ⊢
    have full := (isFull_iff ascending.ordered split).mpr candidate
    exact (prompt_iff ascending.ordered split).mp (prompt before bin after split full)
  · intro continued before bin after split full
    have candidate := (isFull_iff ascending.ordered split).mp full
    exact (prompt_iff ascending.ordered split).mpr (continued bin.1 candidate)

/-- The two sides agree exactly when no window is followed by a gap. -/
theorem onlineEqOffline_iff_prompt (numpy : NumpyFinite F) (forPhase1C : config.ForPhase1C)
    (numbered : NumberedFrom 1 stream) (ascending : Ascending stream)
    (within : ∀ windowEnd, CandidateWindow stream windowEnd → ∃ split ∈ PHASE1C.splits,
      split.start ≤ windowEnd - Datetime.seconds 1800 ∧ windowEnd ≤ split.stop)
    (completedAt : Instant) {frameOrSamples : FrameOrSamples F}
    (same : SameRows (samplesOf config stream) frameOrSamples) :
    OnlineEqOffline config stream completedAt frameOrSamples ↔
      (PHASE1C.windowing F).promptFrom [] (binsOf config stream) =
        (PHASE1C.windowing F).windowsFrom [] (binsOf config stream) := by
  obtain ⟨vectors, windows, invalid, crossing, online, offline, made, created⟩ :=
    both_ok numpy forPhase1C numbered ascending within completedAt same
  constructor
  · rintro ⟨vectors', windows', invalid', crossing', online', offline', paired⟩
    rw [online] at online'
    rw [offline] at offline'
    obtain rfl := Except.ok.inj online'
    obtain ⟨rfl, -⟩ := Prod.mk.inj (Except.ok.inj offline')
    apply (Lib.Windowing.promptFrom_sublist _ _).eq_of_length
    rw [made.length_eq, paired.length_eq, created.length_eq]
  · intro noGap
    rw [noGap] at made
    refine ⟨vectors, windows, invalid, crossing, online, offline, ?_⟩
    apply Lib.forall₂_of_common _ made created
    intro bins vector window
    exact sameWindow_of_bins forPhase1C

/-- The builder and the table yield the same windows of a stream in order whose
candidate windows lie in the splits, exactly when each of these ends the stream or
is followed by an event within a bin. -/
theorem online_eq_offline_iff (numpy : NumpyFinite F) (forPhase1C : config.ForPhase1C)
    (numbered : NumberedFrom 1 stream) (ascending : Ascending stream)
    (within : ∀ windowEnd, CandidateWindow stream windowEnd → ∃ split ∈ PHASE1C.splits,
      split.start ≤ windowEnd - Datetime.seconds 1800 ∧ windowEnd ≤ split.stop)
    (completedAt : Instant) {frameOrSamples : FrameOrSamples F}
    (same : SameRows (samplesOf config stream) frameOrSamples) :
    OnlineEqOffline config stream completedAt frameOrSamples ↔
      ∀ windowEnd, CandidateWindow stream windowEnd → Continued stream windowEnd := by
  rw [onlineEqOffline_iff_prompt numpy forPhase1C numbered ascending within completedAt same]
  exact promptFrom_eq_windowsFrom_iff ascending

end Parity

/-! ### A window with and without a gap behind it -/

/-- The candidate windows of a stream inside a split lie in it. -/
theorem candidates_inSplit {stream : List (Pushed F)} {split : Split}
    (mem : split ∈ PHASE1C.splits) (starts : binMicros ∣ split.start) (stops : binMicros ∣ split.stop)
    (inside : ∀ pushed ∈ stream, split.start < pushed.2.val.sourceTimestamp ∧
      pushed.2.val.sourceTimestamp ≤ split.stop) (windowEnd : Int)
    (candidate : CandidateWindow stream windowEnd) :
    ∃ split ∈ PHASE1C.splits, split.start ≤ windowEnd - Datetime.seconds 1800 ∧
      windowEnd ≤ split.stop := by
  have bounds : ∀ i < 6, binMicros ∣ windowEnd - (i : Nat) * Datetime.seconds 300 ∧
      split.start < windowEnd - (i : Nat) * Datetime.seconds 300 ∧
      windowEnd - (i : Nat) * Datetime.seconds 300 ≤ split.stop := by
    intro i less
    obtain ⟨pushed, held, same⟩ :=
      List.countP_pos_iff.mp (Nat.lt_of_lt_of_le (by decide) (candidate i less))
    rw [← of_decide_eq_true same, ← not_le, computeBinEnd_le_iff starts,
      computeBinEnd_le_iff stops, not_le]
    exact ⟨computeBinEnd_dvd _, inside pushed held⟩
  obtain ⟨-, -, stop⟩ := bounds 0 (by omega)
  obtain ⟨grid, start, -⟩ := bounds 5 (by omega)
  refine ⟨split, mem, ?_, ?_⟩
  · simp only [binMicros, Datetime.seconds, Datetime.microsPerSecond] at *
    omega
  · simpa using stop

/-- An event with every signal at zero. -/
def steadyEvent (sequence : Nat) (sourceTimestamp : Int) : TelemetryEventV1 Int where
  messageId := 1000 + sequence
  replaySessionId := 1
  sourceDatasetSha256 := 2
  contractSha256 := 3
  sourceTimestamp
  emittedAt := ⟨0⟩
  machineId := "compressor"
  sequence
  analog _ := 0
  digital _ := 0

theorem steadyEvent_valid (n : Nat) (ts : Int) : Valid (steadyEvent (n + 1) ts) := by
  intro check mem
  simp only [FrozenMessage.checks, steadyEvent, List.mem_append, List.mem_cons, List.not_mem_nil,
    or_false, List.mem_map] at mem
  rcases mem with ((rfl | rfl | rfl) | ⟨column, -, rfl⟩) | ⟨column, -, rfl⟩
  · exact decide_eq_true (by decide)
  · exact decide_eq_true (by decide)
  · simp
  · simp
  · cases column <;> decide

/-- Steady events at the given times, numbered from `n + 1`. -/
def steadyStream : Nat → List Int → List (Pushed Int)
  | _, [] => []
  | n, ts :: rest =>
      (⟨0⟩, ⟨steadyEvent (n + 1) ts, steadyEvent_valid n ts⟩) :: steadyStream (n + 1) rest

theorem steadyStream_numbered (n : Nat) (stamps : List Int) :
    NumberedFrom (n + 1 : Nat) (steadyStream n stamps) := by
  induction stamps generalizing n with
  | nil => trivial
  | cons ts rest ih => exact ⟨rfl, ih (n + 1)⟩

theorem steadyStream_stamps (n : Nat) (stamps : List Int) :
    (steadyStream n stamps).map (fun pushed => pushed.2.val.sourceTimestamp) = stamps := by
  induction stamps generalizing n with
  | nil => rfl
  | cons ts rest ih =>
      unfold steadyStream
      rw [List.map_cons, ih]
      rfl

theorem steadyStream_ascending (n : Nat) {stamps : List Int} (ascending : stamps.Pairwise (· < ·)) :
    Ascending (steadyStream n stamps) := by
  rw [← steadyStream_stamps n stamps, List.pairwise_map] at ascending
  exact ascending

theorem forall_steadyStream_iff {n : Nat} {stamps : List Int} {P : Int → Prop} :
    (∀ pushed ∈ steadyStream n stamps, P pushed.2.val.sourceTimestamp) ↔ ∀ ts ∈ stamps, P ts := by
  conv_rhs => rw [← steadyStream_stamps n stamps]
  rw [List.forall_mem_map]

theorem exists_steadyStream_iff {n : Nat} {stamps : List Int} {P : Int → Prop} :
    (∃ pushed ∈ steadyStream n stamps, P pushed.2.val.sourceTimestamp) ↔ ∃ ts ∈ stamps, P ts := by
  conv_rhs => rw [← steadyStream_stamps n stamps]
  simp

theorem binCount_steadyStream (n : Nat) (stamps : List Int) (e : Int) :
    binCount (steadyStream n stamps) e = stamps.countP fun ts => decide (computeBinEnd ts = e) := by
  conv_rhs => rw [← steadyStream_stamps n stamps, List.countP_map]
  rfl

/-- A sample every ten seconds for four minutes in each of the first six bins of
the training split. -/
def denseStamps : List Int :=
  (List.range 144).map fun k =>
    PHASE1C.train.start + Datetime.seconds (300 * (k / 24 : Nat) + 10 * (k % 24 : Nat) + 10)

theorem denseStamps_ascending : denseStamps.Pairwise (· < ·) := by decide +kernel

theorem denseStamps_bounds : ∀ ts ∈ denseStamps,
    PHASE1C.train.start < ts ∧ ts < PHASE1C.train.start + Datetime.seconds 1800 := by
  decide +kernel

/-- The dense bins, and one more sample `late` seconds behind them. -/
def streamWithLast (late : Int) : List (Pushed Int) :=
  steadyStream 0 (denseStamps ++ [PHASE1C.train.start + Datetime.seconds (1800 + late)])

def steadyConfig : BuilderConfig := .ofDefaults 1 "compressor" 2 3 ["tp2_last", "oil_level_last"]

theorem steadyConfig_forPhase1C : steadyConfig.ForPhase1C :=
  BuilderConfig.forPhase1C_ofDefaults 1 2 3 (by decide) (by decide) (by decide) (by decide)

/-- A digest without collisions: the text itself, read as a number. -/
abbrev textDigest : Sha256Digest :=
  ⟨fun text => text.toList.foldl (fun n c => n * 0x110000 + c.toNat) 0⟩

/-- The id of the window of the dense bins. -/
abbrev windowNames : Uuid5 :=
  knownUuid5 [("window:00000000-0000-0000-0000-000000000001:2020-02-01T00:30:00",
    0x88fac15c4dce561a960a79ddf9d9f30b)]

/-- The stream is in order and in the training split when the last sample comes
within fifty minutes. -/
theorem streamWithLast_ok (late : Int) (after : 0 < late) (soon : late ≤ 3000) :
    NumberedFrom 1 (streamWithLast late) ∧ Ascending (streamWithLast late) ∧
      ∀ windowEnd, CandidateWindow (streamWithLast late) windowEnd → ∃ split ∈ PHASE1C.splits,
        split.start ≤ windowEnd - Datetime.seconds 1800 ∧ windowEnd ≤ split.stop := by
  refine ⟨steadyStream_numbered 0 _, steadyStream_ascending 0 ?_, ?_⟩
  · rw [List.pairwise_append]
    refine ⟨denseStamps_ascending, List.pairwise_singleton _ _, fun ts mem last same => ?_⟩
    rw [List.mem_singleton.mp same]
    have bounds := denseStamps_bounds ts mem
    simp only [Datetime.seconds, Datetime.microsPerSecond] at *
    omega
  · apply candidates_inSplit (show PHASE1C.train ∈ PHASE1C.splits by simp [Phase1BContract.splits])
      (by decide) (by decide)
    unfold streamWithLast
    rw [forall_steadyStream_iff
      (P := fun ts => PHASE1C.train.start < ts ∧ ts ≤ PHASE1C.train.stop)]
    have room : PHASE1C.train.start + Datetime.seconds 4800 ≤ PHASE1C.train.stop := by decide
    intro ts mem
    rcases List.mem_append.mp mem with dense | last
    · have bounds := denseStamps_bounds ts dense
      simp only [Datetime.seconds, Datetime.microsPerSecond] at *
      omega
    · rw [List.mem_singleton.mp last]
      simp only [Datetime.seconds, Datetime.microsPerSecond] at *
      omega

/-- Six dense bins and a sample within the next one: both sides yield the window of
the dense bins. -/
theorem continuedStream_agrees :
    letI := windowNames
    letI := textDigest
    OnlineEqOffline steadyConfig (streamWithLast 10) ⟨0⟩
      (.samples (samplesOf steadyConfig (streamWithLast 10))) := by
  let := windowNames
  let := textDigest
  obtain ⟨numbered, ascending, within⟩ := streamWithLast_ok 10 (by decide) (by decide)
  refine (online_eq_offline_iff exactIntegers_finite steadyConfig_forPhase1C numbered ascending
    within ⟨0⟩ (sameRows_samples _)).mpr ?_
  intro windowEnd candidate
  have starts : ∀ split ∈ PHASE1C.splits, PHASE1C.train.start ≤ split.start := by decide
  obtain ⟨split, mem, begins, -⟩ := within windowEnd candidate
  have begins := (starts split mem).trans begins
  unfold Continued streamWithLast
  rw [forall_steadyStream_iff (P := fun ts => ts ≤ windowEnd), exists_steadyStream_iff
    (P := fun ts => windowEnd < ts ∧ ts ≤ windowEnd + Datetime.seconds 300)]
  by_cases reached : PHASE1C.train.start + Datetime.seconds (1800 + 10) ≤ windowEnd
  · left
    intro ts held
    rcases List.mem_append.mp held with dense | last
    · have bounds := denseStamps_bounds ts dense
      simp only [Datetime.seconds, Datetime.microsPerSecond] at *
      omega
    · rw [List.mem_singleton.mp last]
      exact reached
  · right
    refine ⟨_, List.mem_append_right _ (List.mem_singleton_self _), not_le.mp reached, ?_⟩
    simp only [Datetime.seconds, Datetime.microsPerSecond] at *
    omega

/-- Six dense bins and a gap: the builder drops the window of the dense bins. -/
theorem gapStream_differs :
    letI := windowNames
    letI := textDigest
    NumberedFrom 1 (streamWithLast 600) ∧ Ascending (streamWithLast 600) ∧
      (∀ windowEnd, CandidateWindow (streamWithLast 600) windowEnd → ∃ split ∈ PHASE1C.splits,
        split.start ≤ windowEnd - Datetime.seconds 1800 ∧ windowEnd ≤ split.stop) ∧
      ¬ OnlineEqOffline steadyConfig (streamWithLast 600) ⟨0⟩
        (.samples (samplesOf steadyConfig (streamWithLast 600))) := by
  let := windowNames
  let := textDigest
  obtain ⟨numbered, ascending, within⟩ := streamWithLast_ok 600 (by decide) (by decide)
  refine ⟨numbered, ascending, within, ?_⟩
  rw [onlineEqOffline_iff_prompt exactIntegers_finite steadyConfig_forPhase1C numbered ascending
    within ⟨0⟩ (sameRows_samples _), promptFrom_eq_windowsFrom_iff ascending]
  intro continued
  have candidate : CandidateWindow (streamWithLast 600)
      (PHASE1C.train.start + Datetime.seconds 1800) := by
    unfold CandidateWindow streamWithLast
    simp only [binCount_steadyStream]
    decide +kernel
  have goesOn := continued _ candidate
  unfold Continued streamWithLast at goesOn
  rw [forall_steadyStream_iff (P := fun ts => ts ≤ PHASE1C.train.start + Datetime.seconds 1800),
    exists_steadyStream_iff (P := fun ts => PHASE1C.train.start + Datetime.seconds 1800 < ts ∧
      ts ≤ PHASE1C.train.start + Datetime.seconds 1800 + Datetime.seconds 300)] at goesOn
  exact absurd goesOn (by decide +kernel)

end IndustrialReliability
