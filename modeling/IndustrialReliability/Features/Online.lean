import IndustrialReliability.Features.Causal
import IndustrialReliability.Features.Contract
import IndustrialReliability.Lib.Grouping
import IndustrialReliability.Lib.Windows

/-!
The online feature builder.

`OnlineFeatureBuilder` keeps the open bin, the buffer of valid bins and what it
last accepted. `push` takes one telemetry event: it ignores an exact duplicate,
closes the segment on a conflicting duplicate, a sequence gap or a regression, and
finalises the open bin when the event falls into a later one. `complete` finalises
the last bin. A call fails when the message of a window does not pass its schema.
The clock of the builder is read once in a call, so its reading is an argument.
-/

namespace IndustrialReliability

variable {F : Type}

inductive SegmentCloseReason where
  | sequenceGap | conflictingDuplicate | timestampRegression | invalidBin | splitBoundary
deriving DecidableEq, Repr

structure BuilderResult (F : Type) where
  features : List (FeatureVectorV1 F)
  segmentClosedReason : Option SegmentCloseReason

inductive BuilderError where
  | validation (error : ValidationError)
  | features (error : FeatureError)
  /-- `IndexError`, on a buffer without bins. -/
  | indexError
  /-- `ValueError`. -/
  | completionPrecedes (detail : String)
deriving DecidableEq, Repr

def DEFAULT_ANALOG_COLS : List AnalogColumn := AnalogColumn.all

structure BuilderConfig where
  replaySessionId : UUID
  machineId : String
  sourceDatasetSha256 : Sha256
  contractSha256 : Sha256
  featureNames : List String
  strideSeconds : Int
  lookbackBins : Nat
  minBinObservations : Nat
  analogCols : List AnalogColumn
  digitalCols : List DigitalColumn
deriving DecidableEq, Repr

/-- The configuration of a builder that is given no windowing options. -/
def BuilderConfig.ofDefaults (replaySessionId : UUID) (machineId : String)
    (sourceDatasetSha256 contractSha256 : Sha256) (featureNames : List String) :
    BuilderConfig where
  replaySessionId
  machineId
  sourceDatasetSha256
  contractSha256
  featureNames
  strideSeconds := 300
  lookbackBins := 6
  minBinObservations := 24
  analogCols := DEFAULT_ANALOG_COLS
  digitalCols := PHASE1C.predictorDigitalColumns

structure OnlineFeatureBuilder (F : Type) where
  lastSequence : Option Int
  lastTimestamp : Option Int
  lastEventId : Option UUID
  lastPayloadHash : Option Sha256
  currentBinEnd : Option Int
  currentBinSamples : List (TelemetrySample F)
  validBinBuffer : List (Bin F)
  isComplete : Bool

def OnlineFeatureBuilder.new : OnlineFeatureBuilder F :=
  ⟨none, none, none, none, none, [], [], false⟩

/-- `repr` of a list. -/
def listRepr (items : List String) : String := "[" ++ ", ".intercalate items ++ "]"

section Builder

variable [PyFloat F]

def hashEventPayload [Sha256Digest] (event : TelemetryEventV1 F) : Sha256 :=
  let analogVals := AnalogColumn.all.map fun col => PyFloat.repr (event.analog col)
  let digitalVals := DigitalColumn.all.map fun col => toString (event.digital col)
  sha256 (toString event.sequence ++ ":" ++ Datetime.isoformat event.sourceTimestamp ++ ":" ++
    listRepr analogVals ++ ":" ++ listRepr digitalVals)

def BuilderError.ofValidation {α : Type} : Except ValidationError α → Except BuilderError α
  | .ok a => .ok a
  | .error e => .error (.validation e)

def BuilderError.ofFeatures {α : Type} : Except FeatureError α → Except BuilderError α
  | .ok a => .ok a
  | .error e => .error (.features e)

namespace OnlineFeatureBuilder

omit [PyFloat F] in
/-- `_reset_segment`. -/
def resetSegment (builder : OnlineFeatureBuilder F) : OnlineFeatureBuilder F :=
  { builder with currentBinEnd := none, currentBinSamples := [], validBinBuffer := [] }

/-- `_emit_window`. -/
def emitWindow [Uuid5] (config : BuilderConfig) (emittedAt : Instant) (buffer : List (Bin F)) :
    Except BuilderError (FeatureVectorV1 F) :=
  match buffer.head?, buffer.getLast? with
  | some first, some last => do
      let windowEnd := last.1
      let windowStart := first.1 - Datetime.seconds config.strideSeconds
      let coverage ← BuilderError.ofValidation (construct {
        observationsByBin := buffer.map fun bin => bin.2.length
        binEnds := buffer.map fun bin => bin.1 })
      let allSamples := buffer.flatMap fun bin => bin.2
      let featureValues ← BuilderError.ofFeatures (computeFeatureValues allSamples
        config.featureNames config.analogCols config.digitalCols)
      let windowId := runtimeId "window" config.replaySessionId
        (Datetime.isoformatSeconds "T" windowEnd)
      BuilderError.ofValidation (construct {
        messageId := windowId
        replaySessionId := config.replaySessionId
        sourceDatasetSha256 := config.sourceDatasetSha256
        contractSha256 := config.contractSha256
        sourceTimestamp := windowEnd
        emittedAt
        windowId
        machineId := config.machineId
        windowStart
        windowEnd
        featureNames := config.featureNames
        featureValues
        coverage })
  | _, _ => .error .indexError

/-- `_finalize_current_bin`. -/
def finalizeCurrentBin [Uuid5] (config : BuilderConfig) (emittedAt : Instant)
    (builder : OnlineFeatureBuilder F) :
    Except BuilderError (OnlineFeatureBuilder F × List (FeatureVectorV1 F)) :=
  match builder.currentBinEnd with
  | none => .ok (builder, [])
  | some currentBinEnd =>
      if config.minBinObservations ≤ builder.currentBinSamples.length then do
        let kept := match builder.validBinBuffer.getLast? with
          | some previous =>
              if currentBinEnd - previous.1 ≠ Datetime.seconds config.strideSeconds then []
              else builder.validBinBuffer
          | none => builder.validBinBuffer
        let grown := kept ++ [(currentBinEnd, builder.currentBinSamples)]
        let buffer := if config.lookbackBins < grown.length then grown.drop 1 else grown
        let emitted ← if buffer.length = config.lookbackBins then do
            let vector ← emitWindow config emittedAt buffer
            pure [vector]
          else pure []
        return ({ builder with validBinBuffer := buffer, currentBinSamples := [] }, emitted)
      else .ok ({ builder with validBinBuffer := [], currentBinSamples := [] }, [])

omit [PyFloat F] in
/-- `_check_sequence_and_ordering`: the builder after a possible reset, whether to
ignore the event, and why the segment was closed. -/
def checkSequenceAndOrdering (builder : OnlineFeatureBuilder F) (event : TelemetryEventV1 F)
    (payloadHash : Sha256) : OnlineFeatureBuilder F × Bool × Option SegmentCloseReason :=
  if builder.lastSequence = some event.sequence then
    if builder.lastEventId = some event.messageId ∧ builder.lastPayloadHash = some payloadHash then
      (builder, true, none)
    else (builder.resetSegment, true, some .conflictingDuplicate)
  else if ∃ last ∈ builder.lastSequence, event.sequence ≠ last + 1 then
    (builder.resetSegment, false, some .sequenceGap)
  else if ∃ last ∈ builder.lastTimestamp, event.sourceTimestamp < last then
    (builder.resetSegment, false, some .timestampRegression)
  else (builder, false, none)

/-- The bin boundary checks of `push`. -/
def crossBinBoundary [Uuid5] (config : BuilderConfig) (emittedAt : Instant) (eventBinEnd : Int)
    (closeReason : Option SegmentCloseReason) (builder : OnlineFeatureBuilder F) :
    Except BuilderError
      (OnlineFeatureBuilder F × List (FeatureVectorV1 F) × Option SegmentCloseReason) :=
  match builder.currentBinEnd with
  | none => .ok ({ builder with currentBinEnd := some eventBinEnd }, [], closeReason)
  | some currentBinEnd =>
      if eventBinEnd = currentBinEnd then .ok (builder, [], closeReason)
      else if eventBinEnd < currentBinEnd then
        .ok ({ builder.resetSegment with currentBinEnd := some eventBinEnd }, [],
          some .timestampRegression)
      else if Datetime.seconds config.strideSeconds < eventBinEnd - currentBinEnd then do
        -- The windows of the bin before the gap are dropped.
        let (builder, _) ← builder.finalizeCurrentBin config emittedAt
        return ({ builder with validBinBuffer := [], currentBinEnd := some eventBinEnd }, [],
          some .invalidBin)
      else do
        let (builder, emitted) ← builder.finalizeCurrentBin config emittedAt
        return ({ builder with currentBinEnd := some eventBinEnd }, emitted, closeReason)

omit [PyFloat F] in
/-- The end of `push`: the event is accepted. -/
def accept (config : BuilderConfig) (event : TelemetryEventV1 F) (payloadHash : Sha256)
    (builder : OnlineFeatureBuilder F) : OnlineFeatureBuilder F :=
  { builder with
    currentBinSamples :=
      builder.currentBinSamples ++ [extractSample event config.analogCols config.digitalCols]
    lastSequence := some event.sequence
    lastTimestamp := some event.sourceTimestamp
    lastEventId := some event.messageId
    lastPayloadHash := some payloadHash }

def push [Uuid5] [Sha256Digest] (config : BuilderConfig) (emittedAt : Instant)
    (builder : OnlineFeatureBuilder F) (event : TelemetryEventV1 F) :
    Except BuilderError (OnlineFeatureBuilder F × BuilderResult F) :=
  let payloadHash := hashEventPayload event
  match builder.checkSequenceAndOrdering event payloadHash with
  | (builder, true, closeReason) => .ok (builder, ⟨[], closeReason⟩)
  | (builder, false, closeReason) => do
      let (builder, emitted, closeReason) ← builder.crossBinBoundary config emittedAt
        (computeBinEnd event.sourceTimestamp) closeReason
      return (builder.accept config event payloadHash, ⟨emitted, closeReason⟩)

def complete [Uuid5] (config : BuilderConfig) (emittedAt : Instant) (sourceTimestamp : Int)
    (builder : OnlineFeatureBuilder F) :
    Except BuilderError (OnlineFeatureBuilder F × BuilderResult F) :=
  if ∃ last ∈ builder.lastTimestamp, sourceTimestamp < last then
    .error (.completionPrecedes "completion timestamp cannot precede last received telemetry")
  else do
    let (builder, emitted) ← builder.finalizeCurrentBin config emittedAt
    return ({ builder with isComplete := true }, ⟨emitted, none⟩)

end OnlineFeatureBuilder

/-! ### Pushing a stream -/

/-- A telemetry event and the reading of the clock when it is pushed. -/
abbrev Pushed (F : Type) [PyFloat F] := Instant × Checked (TelemetryEventV1 F)

variable [Uuid5] [Sha256Digest] {config : BuilderConfig}

/-- Push the events in order, collecting the features. -/
def pushAll (config : BuilderConfig) : OnlineFeatureBuilder F → List (Pushed F) →
    Except BuilderError (OnlineFeatureBuilder F × List (FeatureVectorV1 F))
  | builder, [] => .ok (builder, [])
  | builder, (emittedAt, event) :: rest => do
      let (builder, result) ← builder.push config emittedAt event.val
      let (builder, features) ← pushAll config builder rest
      return (builder, result.features ++ features)

/-- Push the events in order, then complete: all features emitted. -/
def onlineFeatures (config : BuilderConfig) (builder : OnlineFeatureBuilder F)
    (stream : List (Pushed F)) (completedAt : Instant) (lastTimestamp : Int) :
    Except BuilderError (List (FeatureVectorV1 F)) := do
  let (builder, features) ← pushAll config builder stream
  let (_, result) ← builder.complete config completedAt lastTimestamp
  return features ++ result.features

/-- The binning of the builder. -/
def BuilderConfig.windowing (F : Type) (config : BuilderConfig) : Lib.Windowing (Bin F) where
  ends := Prod.fst
  valid bin := decide (config.minBinObservations ≤ bin.2.length)
  stride := Datetime.seconds config.strideSeconds
  size := config.lookbackBins

/-- The vector is made from the bins, at some time. -/
def MadeFrom (config : BuilderConfig) (window : List (Bin F)) (vector : FeatureVectorV1 F) : Prop :=
  ∃ emittedAt, OnlineFeatureBuilder.emitWindow config emittedAt window = .ok vector

/-- The message of a window passes its schema, whenever it is made. -/
def Emittable (config : BuilderConfig) (window : List (Bin F)) : Prop :=
  ∀ emittedAt, ∃ vector, OnlineFeatureBuilder.emitWindow config emittedAt window = .ok vector

namespace OnlineFeatureBuilder

variable {builder : OnlineFeatureBuilder F} {e : Int}

omit [PyFloat F] [Uuid5] [Sha256Digest] in
/-- The buffer after finalising a bin is that of the binning. -/
theorem push_eq_of_valid (samples : List (TelemetrySample F)) (buffer : List (Bin F))
    (valid : config.minBinObservations ≤ samples.length) :
    (config.windowing F).push buffer (e, samples) =
      let kept := match buffer.getLast? with
        | some previous =>
            if e - previous.1 ≠ Datetime.seconds config.strideSeconds then [] else buffer
        | none => buffer
      let grown := kept ++ [(e, samples)]
      if config.lookbackBins < grown.length then grown.drop 1 else grown := by
  unfold Lib.Windowing.push Lib.Windowing.continued BuilderConfig.windowing
  simp only [decide_eq_true valid, if_true]
  cases held : buffer.getLast? with
  | none =>
      rw [List.getLast?_eq_none_iff] at held
      subst held
      rfl
  | some previous =>
      by_cases next : e - previous.1 = Datetime.seconds config.strideSeconds
      · simp [next]
      · simp [next]

/-- The builder when its open bin has gone to the buffer. -/
def closeBin (config : BuilderConfig) (builder : OnlineFeatureBuilder F) (e : Int) :
    OnlineFeatureBuilder F :=
  { builder with
    currentBinEnd := some e
    validBinBuffer :=
      (config.windowing F).push builder.validBinBuffer (e, builder.currentBinSamples)
    currentBinSamples := [] }

/-- The windows that finalising the open bin completes. -/
def completedWindow (config : BuilderConfig) (builder : OnlineFeatureBuilder F) (e : Int) :
    List (List (Bin F)) :=
  if (config.windowing F).IsFull (builder.closeBin config e).validBinBuffer then
    [(builder.closeBin config e).validBinBuffer] else []

omit [Sha256Digest] in
/-- Finalising the open bin pushes it to the buffer; a full buffer is emitted. -/
theorem finalizeCurrentBin_eq (emittedAt : Instant) (positive : 0 < config.lookbackBins)
    (binEnd : builder.currentBinEnd = some e) :
    builder.finalizeCurrentBin config emittedAt =
      ((builder.completedWindow config e).mapM (emitWindow config emittedAt)).map fun emitted =>
        (builder.closeBin config e, emitted) := by
  unfold finalizeCurrentBin completedWindow
  rw [binEnd]
  dsimp only
  by_cases valid : config.minBinObservations ≤ builder.currentBinSamples.length
  · rw [if_pos valid]
    have pushed := push_eq_of_valid (e := e) builder.currentBinSamples builder.validBinBuffer valid
    have closed : (builder.closeBin config e).validBinBuffer =
      (config.windowing F).push builder.validBinBuffer (e, builder.currentBinSamples) := rfl
    dsimp only at pushed ⊢
    rw [← pushed, ← closed]
    by_cases full : (config.windowing F).IsFull (builder.closeBin config e).validBinBuffer
    · have length : (builder.closeBin config e).validBinBuffer.length = config.lookbackBins := full
      rw [if_pos length, if_pos full, List.mapM_cons, List.mapM_nil]
      cases emitWindow config emittedAt (builder.closeBin config e).validBinBuffer <;> rfl
    · have length : (builder.closeBin config e).validBinBuffer.length ≠ config.lookbackBins := full
      rw [if_neg length, if_neg full]
      rfl
  · rw [if_neg valid]
    have emptied : (config.windowing F).push builder.validBinBuffer
        (e, builder.currentBinSamples) = [] := by
      unfold Lib.Windowing.push BuilderConfig.windowing
      simp [valid]
    unfold closeBin
    rw [emptied, if_neg (by simp [Lib.Windowing.IsFull, BuilderConfig.windowing]; omega)]
    rfl

/-- The open bin, what was last accepted and the buffer. -/
structure OpenAt (builder : OnlineFeatureBuilder F) (e q t : Int)
    (samples : List (TelemetrySample F)) (buffer : List (Bin F)) : Prop where
  binEnd : builder.currentBinEnd = some e
  sequence : builder.lastSequence = some q
  timestamp : builder.lastTimestamp = some t
  samples : builder.currentBinSamples = samples
  buffer : builder.validBinBuffer = buffer

variable {q t final : Int} {samples : List (TelemetrySample F)} {buffer : List (Bin F)}
  {event : TelemetryEventV1 F}

omit [Sha256Digest] in
/-- Finalising the open bin pushes it to the buffer and emits the window it
completes. -/
theorem finalizeCurrentBin_ok (emittedAt : Instant) (positive : 0 < config.lookbackBins)
    (opened : builder.OpenAt e q t samples buffer)
    (emits : (config.windowing F).IsFull ((config.windowing F).push buffer (e, samples)) →
      Emittable config ((config.windowing F).push buffer (e, samples))) :
    ∃ finalized emitted,
      builder.finalizeCurrentBin config emittedAt = .ok (finalized, emitted) ∧
        finalized.OpenAt e q t [] ((config.windowing F).push buffer (e, samples)) ∧
        List.Forall₂ (MadeFrom config)
          (if (config.windowing F).IsFull ((config.windowing F).push buffer (e, samples))
            then [(config.windowing F).push buffer (e, samples)] else []) emitted := by
  obtain ⟨binEnd, sequence, timestamp, rfl, rfl⟩ := opened
  have closed : (config.windowing F).push builder.validBinBuffer (e, builder.currentBinSamples) =
    (builder.closeBin config e).validBinBuffer := rfl
  rw [closed] at emits ⊢
  rw [finalizeCurrentBin_eq emittedAt positive binEnd, completedWindow]
  by_cases full : (config.windowing F).IsFull (builder.closeBin config e).validBinBuffer
  · obtain ⟨vector, made⟩ := emits full emittedAt
    rw [if_pos full, List.mapM_cons, List.mapM_nil, made]
    exact ⟨_, [vector], rfl, ⟨rfl, sequence, timestamp, rfl, rfl⟩, .cons ⟨emittedAt, made⟩ .nil⟩
  · rw [if_neg full]
    exact ⟨_, [], rfl, ⟨rfl, sequence, timestamp, rfl, rfl⟩, .nil⟩

omit [PyFloat F] [Uuid5] [Sha256Digest] in
/-- An event that continues the sequence is accepted. -/
theorem checkSequenceAndOrdering_next (payloadHash : Sha256)
    (opened : builder.OpenAt e q t samples buffer) (next : event.sequence = q + 1)
    (later : t < event.sourceTimestamp) :
    builder.checkSequenceAndOrdering event payloadHash = (builder, false, none) := by
  unfold checkSequenceAndOrdering
  rw [opened.sequence, opened.timestamp, if_neg, if_neg, if_neg]
  · simp only [Option.mem_def, Option.some.injEq, exists_eq_left', not_lt]
    exact later.le
  · simp [next]
  · intro same
    have := Option.some.inj same
    omega

/-- In the same bin, the event joins the open bin. -/
theorem push_same (config : BuilderConfig) (emittedAt : Instant)
    (opened : builder.OpenAt e q t samples buffer) (next : event.sequence = q + 1)
    (later : t < event.sourceTimestamp) (same : computeBinEnd event.sourceTimestamp = e) :
    ∃ joined, builder.push config emittedAt event = .ok (joined, ⟨[], none⟩) ∧
      joined.OpenAt e event.sequence event.sourceTimestamp
        (samples ++ [extractSample event config.analogCols config.digitalCols]) buffer := by
  refine ⟨builder.accept config event (hashEventPayload event), ?_, opened.binEnd, rfl, rfl, ?_,
    opened.buffer⟩
  · unfold push crossBinBoundary
    dsimp only
    rw [checkSequenceAndOrdering_next _ opened next later]
    dsimp only
    rw [opened.binEnd]
    dsimp only
    rw [if_pos same]
    rfl
  · unfold accept
    rw [← opened.samples]

/-- In a later bin, the event finalises the open bin and opens its own; after a
gap the buffer and what was emitted are dropped. -/
theorem push_crossing (emittedAt : Instant) (positive : 0 < config.lookbackBins)
    (opened : builder.OpenAt e q t samples buffer) (next : event.sequence = q + 1)
    (later : t < event.sourceTimestamp) (beyond : e < computeBinEnd event.sourceTimestamp)
    (emits : (config.windowing F).IsFull ((config.windowing F).push buffer (e, samples)) →
      Emittable config ((config.windowing F).push buffer (e, samples))) :
    ∃ crossed result, builder.push config emittedAt event = .ok (crossed, result) ∧
      if Datetime.seconds config.strideSeconds < computeBinEnd event.sourceTimestamp - e then
        crossed.OpenAt (computeBinEnd event.sourceTimestamp) event.sequence event.sourceTimestamp
            [extractSample event config.analogCols config.digitalCols] [] ∧
          result.features = []
      else
        crossed.OpenAt (computeBinEnd event.sourceTimestamp) event.sequence event.sourceTimestamp
            [extractSample event config.analogCols config.digitalCols]
            ((config.windowing F).push buffer (e, samples)) ∧
          List.Forall₂ (MadeFrom config)
            (if (config.windowing F).IsFull ((config.windowing F).push buffer (e, samples))
              then [(config.windowing F).push buffer (e, samples)] else []) result.features := by
  obtain ⟨finalized, emitted, closed, finished, made⟩ :=
    finalizeCurrentBin_ok emittedAt positive opened emits
  have joined : finalized.currentBinSamples ++
      [extractSample event config.analogCols config.digitalCols] =
      [extractSample event config.analogCols config.digitalCols] := by
    rw [finished.samples]
    rfl
  unfold push crossBinBoundary
  dsimp only
  rw [checkSequenceAndOrdering_next _ opened next later]
  dsimp only
  rw [opened.binEnd]
  dsimp only
  rw [if_neg beyond.ne', if_neg (not_lt.mpr beyond.le), closed]
  by_cases gap : Datetime.seconds config.strideSeconds < computeBinEnd event.sourceTimestamp - e
  · rw [if_pos gap]
    refine ⟨_, _, rfl, ?_⟩
    rw [if_pos gap]
    exact ⟨⟨rfl, rfl, rfl, joined, rfl⟩, rfl⟩
  · rw [if_neg gap]
    refine ⟨_, _, rfl, ?_⟩
    rw [if_neg gap]
    exact ⟨⟨rfl, rfl, rfl, joined, finished.buffer⟩, made⟩

omit [Sha256Digest] in
/-- Completing finalises the open bin. -/
theorem complete_ok (completedAt : Instant) (positive : 0 < config.lookbackBins)
    (opened : builder.OpenAt e q t samples buffer) (reached : t ≤ final)
    (emits : (config.windowing F).IsFull ((config.windowing F).push buffer (e, samples)) →
      Emittable config ((config.windowing F).push buffer (e, samples))) :
    ∃ completed result, builder.complete config completedAt final = .ok (completed, result) ∧
      List.Forall₂ (MadeFrom config)
        (if (config.windowing F).IsFull ((config.windowing F).push buffer (e, samples))
          then [(config.windowing F).push buffer (e, samples)] else []) result.features := by
  obtain ⟨finalized, emitted, closed, -, made⟩ :=
    finalizeCurrentBin_ok completedAt positive opened emits
  refine ⟨{ finalized with isComplete := true }, ⟨emitted, none⟩, ?_, made⟩
  unfold complete
  rw [opened.timestamp, if_neg, closed]
  · rfl
  · simpa using reached

end OnlineFeatureBuilder

/-- The sequence numbers count up from `n`. -/
def NumberedFrom : Int → List (Pushed F) → Prop
  | _, [] => True
  | n, pushed :: rest => pushed.2.val.sequence = n ∧ NumberedFrom (n + 1) rest

/-- The timestamps strictly increase. -/
def Ascending (stream : List (Pushed F)) : Prop :=
  stream.Pairwise fun a b => a.2.val.sourceTimestamp < b.2.val.sourceTimestamp

/-- The timestamps never decrease. -/
def Ordered (stream : List (Pushed F)) : Prop :=
  stream.Pairwise fun a b => a.2.val.sourceTimestamp ≤ b.2.val.sourceTimestamp

omit [Uuid5] [Sha256Digest] in
theorem Ascending.ordered {stream : List (Pushed F)} (ascending : Ascending stream) :
    Ordered stream :=
  ascending.imp fun less => less.le

/-- The samples of a stream. -/
def samplesOf (config : BuilderConfig) (stream : List (Pushed F)) : List (TelemetrySample F) :=
  stream.map fun pushed => extractSample pushed.2.val config.analogCols config.digitalCols

theorem onlineFeatures_cons {builder : OnlineFeatureBuilder F} (pushed : Pushed F)
    {rest : List (Pushed F)} {completedAt : Instant} {final : Int}
    {next : OnlineFeatureBuilder F} {result : BuilderResult F}
    {vectors : List (FeatureVectorV1 F)}
    (step : builder.push config pushed.1 pushed.2.val = .ok (next, result))
    (tail : onlineFeatures config next rest completedAt final = .ok vectors) :
    onlineFeatures config builder (pushed :: rest) completedAt final =
      .ok (result.features ++ vectors) := by
  obtain ⟨⟨last, features⟩, all, finish⟩ := Lib.bind_eq_ok_iff.mp tail
  obtain ⟨⟨done, completion⟩, completed, same⟩ := Lib.bind_eq_ok_iff.mp finish
  obtain rfl := Lib.pure_eq_ok_iff.mp same
  unfold onlineFeatures pushAll
  dsimp only at completed ⊢
  rw [step]
  refine Lib.bind_eq_ok_iff.mpr ⟨(last, result.features ++ features), ?_, ?_⟩
  · exact Lib.bind_eq_ok_iff.mpr ⟨_, rfl, Lib.bind_eq_ok_iff.mpr ⟨_, all, rfl⟩⟩
  · refine Lib.bind_eq_ok_iff.mpr ⟨_, completed, ?_⟩
    rw [List.append_assoc]
    rfl

/-- From an open bin, a stream in order emits the windows of its bins that are not
followed by a gap. -/
theorem onlineFeatures_open (positive : 0 < config.lookbackBins) {stream : List (Pushed F)}
    {builder : OnlineFeatureBuilder F} {e q t final : Int} {samples : List (TelemetrySample F)}
    {buffer : List (Bin F)} {completedAt : Instant}
    (opened : builder.OpenAt e q t samples buffer) (numbered : NumberedFrom (q + 1) stream)
    (later : ∀ pushed ∈ stream, t < pushed.2.val.sourceTimestamp)
    (beyond : ∀ pushed ∈ stream, e ≤ computeBinEnd pushed.2.val.sourceTimestamp)
    (ascending : Ascending stream) (reached : t ≤ final)
    (reachedAll : ∀ pushed ∈ stream, pushed.2.val.sourceTimestamp ≤ final)
    (emits : ∀ window ∈ (config.windowing F).windowsFrom buffer
      (Lib.groupsFrom TelemetrySample.binEnd (e, samples) (samplesOf config stream)),
      Emittable config window) :
    ∃ vectors, onlineFeatures config builder stream completedAt final = .ok vectors ∧
      List.Forall₂ (MadeFrom config) ((config.windowing F).promptFrom buffer
        (Lib.groupsFrom TelemetrySample.binEnd (e, samples) (samplesOf config stream))) vectors := by
  induction stream generalizing builder e q t samples buffer with
  | nil =>
      have emitsLast : (config.windowing F).IsFull
          ((config.windowing F).push buffer (e, samples)) →
          Emittable config ((config.windowing F).push buffer (e, samples)) := by
        intro full
        apply emits
        simp [samplesOf, Lib.groupsFrom, Lib.Windowing.windowsFrom, full]
      obtain ⟨completed, result, done, made⟩ :=
        builder.complete_ok completedAt positive opened reached emitsLast
      refine ⟨result.features, ?_, ?_⟩
      · unfold onlineFeatures pushAll
        exact Lib.bind_eq_ok_iff.mpr ⟨_, rfl, Lib.bind_eq_ok_iff.mpr ⟨_, done, rfl⟩⟩
      · simpa [samplesOf, Lib.groupsFrom, Lib.Windowing.promptFrom, Lib.Windowing.Prompt] using made
  | cons pushed rest ih =>
      obtain ⟨emittedAt, event, valid⟩ := pushed
      obtain ⟨next, numbered⟩ := numbered
      have next : event.sequence = q + 1 := next
      rw [← next] at numbered
      obtain ⟨laterHere, -⟩ := List.forall_mem_cons.mp later
      obtain ⟨beyondHere, -⟩ := List.forall_mem_cons.mp beyond
      obtain ⟨reachedHere, reachedRest⟩ := List.forall_mem_cons.mp reachedAll
      obtain ⟨laterRest, ascendingRest⟩ := List.pairwise_cons.mp ascending
      have beyondRest : ∀ pushed ∈ rest,
          computeBinEnd event.sourceTimestamp ≤ computeBinEnd pushed.2.val.sourceTimestamp :=
        fun pushed mem => computeBinEnd_mono (laterRest pushed mem).le
      set sample := extractSample event config.analogCols config.digitalCols
      have split : samplesOf config ((emittedAt, ⟨event, valid⟩) :: rest) =
        sample :: samplesOf config rest := rfl
      rw [split] at emits ⊢
      unfold Lib.groupsFrom at emits ⊢
      by_cases same : computeBinEnd event.sourceTimestamp = e
      · have binEnd : sample.binEnd = e := same
        rw [if_pos binEnd] at emits ⊢
        obtain ⟨joined, step, opened⟩ :=
          builder.push_same config emittedAt opened next laterHere same
        obtain ⟨vectors, run, made⟩ := ih opened numbered laterRest (same ▸ beyondRest)
          ascendingRest reachedHere reachedRest emits
        have all := onlineFeatures_cons (emittedAt, ⟨event, valid⟩) step run
        exact ⟨[] ++ vectors, all, made⟩
      · have binEnd : sample.binEnd ≠ e := same
        have crosses : e < computeBinEnd event.sourceTimestamp :=
          lt_of_le_of_ne beyondHere (Ne.symm same)
        rw [if_neg binEnd] at emits ⊢
        rw [Lib.Windowing.windowsFrom_cons] at emits
        rw [Lib.Windowing.promptFrom_cons]
        have emitsHere : (config.windowing F).IsFull
            ((config.windowing F).push buffer (e, samples)) →
            Emittable config ((config.windowing F).push buffer (e, samples)) := by
          intro full
          apply emits
          simp [full]
        have emitsRest : ∀ window ∈ (config.windowing F).windowsFrom
            ((config.windowing F).push buffer (e, samples))
            (Lib.groupsFrom TelemetrySample.binEnd (sample.binEnd, [sample])
              (samplesOf config rest)), Emittable config window :=
          fun window mem => emits window (List.mem_append_right _ mem)
        obtain ⟨more, after, head⟩ := Lib.head?_groupsFrom 
          TelemetrySample.binEnd sample.binEnd [sample] (samplesOf config rest)
        obtain ⟨crossed, result, step, outcome⟩ :=
          builder.push_crossing emittedAt positive opened next laterHere crosses emitsHere
        by_cases gap : Datetime.seconds config.strideSeconds < computeBinEnd event.sourceTimestamp - e
        · rw [if_pos gap] at outcome
          obtain ⟨opened, nothing⟩ := outcome
          have apart : ∀ first ∈ (Lib.groupsFrom TelemetrySample.binEnd (sample.binEnd, [sample])
              (samplesOf config rest)).head?,
              ∀ last ∈ ((config.windowing F).push buffer (e, samples)).getLast?,
              (config.windowing F).ends first - (config.windowing F).ends last ≠
                (config.windowing F).stride := by
            rw [head]
            intro first same last held
            cases same
            rw [Lib.Windowing.getLast?_push held]
            exact gap.ne'
          rw [Lib.Windowing.windowsFrom_gap apart] at emitsRest
          obtain ⟨vectors, run, made⟩ := ih opened numbered laterRest beyondRest ascendingRest
            reachedHere reachedRest emitsRest
          refine ⟨result.features ++ vectors, onlineFeatures_cons _ step run, ?_⟩
          have late : ¬ (config.windowing F).Prompt (e, samples)
              (Lib.groupsFrom TelemetrySample.binEnd (sample.binEnd, [sample])
                (samplesOf config rest)) := by
            rw [head]
            intro prompt
            exact absurd gap (not_lt.mpr (prompt _ rfl))
          rw [nothing, Lib.Windowing.promptFrom_gap apart]
          simp only [late, and_false, if_false, List.nil_append]
          exact made
        · rw [if_neg gap] at outcome
          obtain ⟨opened, made⟩ := outcome
          obtain ⟨vectors, run, madeRest⟩ := ih opened numbered laterRest beyondRest ascendingRest
            reachedHere reachedRest emitsRest
          refine ⟨result.features ++ vectors, onlineFeatures_cons _ step run, ?_⟩
          have prompt : (config.windowing F).Prompt (e, samples)
              (Lib.groupsFrom TelemetrySample.binEnd (sample.binEnd, [sample])
                (samplesOf config rest)) := by
            rw [head]
            intro first same
            cases same
            exact not_lt.mp gap
          simp only [prompt, and_true]
          exact List.rel_append made madeRest

/-- The timestamp of the last event; a stream without events has none to complete
with. -/
def lastTimestamp (stream : List (Pushed F)) : Int :=
  (stream.getLast?.map fun pushed => pushed.2.val.sourceTimestamp).getD 0

omit [Uuid5] [Sha256Digest] in
theorem Ascending.le_lastTimestamp {stream : List (Pushed F)} (ascending : Ascending stream) :
    ∀ pushed ∈ stream, pushed.2.val.sourceTimestamp ≤ lastTimestamp stream := by
  intro pushed mem
  rcases List.eq_nil_or_concat' stream with rfl | ⟨front, last, rfl⟩
  · simp at mem
  · have final : lastTimestamp (front ++ [last]) = last.2.val.sourceTimestamp := by
      simp [lastTimestamp]
    rw [final]
    rcases List.mem_append.mp mem with earlier | same
    · exact ((List.pairwise_append.mp ascending).2.2 pushed earlier last (by simp)).le
    · rw [List.mem_singleton.mp same]

/-- A stream in order emits the windows of its bins that are not followed by a gap. -/
theorem onlineFeatures_ok (positive : 0 < config.lookbackBins) {stream : List (Pushed F)}
    (completedAt : Instant) {n : Int} (numbered : NumberedFrom n stream)
    (ascending : Ascending stream)
    (emits : ∀ window ∈ (config.windowing F).windowsFrom []
      (Lib.groups TelemetrySample.binEnd (samplesOf config stream)), Emittable config window) :
    ∃ vectors, onlineFeatures config .new stream completedAt (lastTimestamp stream) = .ok vectors ∧
      List.Forall₂ (MadeFrom config) ((config.windowing F).promptFrom []
        (Lib.groups TelemetrySample.binEnd (samplesOf config stream))) vectors := by
  cases stream with
  | nil => exact ⟨[], rfl, .nil⟩
  | cons pushed rest =>
      have reached := ascending.le_lastTimestamp
      obtain ⟨emittedAt, event, valid⟩ := pushed
      obtain ⟨first, numbered⟩ := numbered
      have first : event.sequence = n := first
      rw [← first] at numbered
      obtain ⟨laterRest, ascendingRest⟩ := List.pairwise_cons.mp ascending
      obtain ⟨reachedHere, reachedRest⟩ := List.forall_mem_cons.mp reached
      have step : (OnlineFeatureBuilder.new : OnlineFeatureBuilder F).push config emittedAt event =
          .ok (({ OnlineFeatureBuilder.new with
            currentBinEnd := some (computeBinEnd event.sourceTimestamp)
            } : OnlineFeatureBuilder F).accept config event (hashEventPayload event),
            ⟨[], none⟩) := by
        unfold OnlineFeatureBuilder.push OnlineFeatureBuilder.checkSequenceAndOrdering
        simp [OnlineFeatureBuilder.new, OnlineFeatureBuilder.crossBinBoundary]
      have opened : (({ OnlineFeatureBuilder.new with
            currentBinEnd := some (computeBinEnd event.sourceTimestamp)
            } : OnlineFeatureBuilder F).accept config event (hashEventPayload event)).OpenAt
          (computeBinEnd event.sourceTimestamp) event.sequence event.sourceTimestamp
          [extractSample event config.analogCols config.digitalCols] [] :=
        ⟨rfl, rfl, rfl, rfl, rfl⟩
      have beyond : ∀ pushed ∈ rest,
          computeBinEnd event.sourceTimestamp ≤ computeBinEnd pushed.2.val.sourceTimestamp :=
        fun pushed mem => computeBinEnd_mono (laterRest pushed mem).le
      obtain ⟨vectors, run, made⟩ := onlineFeatures_open positive opened numbered laterRest beyond
        ascendingRest reachedHere reachedRest emits
      have all := onlineFeatures_cons (emittedAt, ⟨event, valid⟩) step run
      exact ⟨[] ++ vectors, all, made⟩

end Builder

end IndustrialReliability
