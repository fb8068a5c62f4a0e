import IndustrialReliability.Features.Candidates

/-!
The segments of a stream, and the windows the builder emits of them.

A stream of events of a session falls into segments: a sequence gap, a timestamp
regression and a conflicting duplicate close the segment before them. The builder
emits the windows of each segment that are followed by an event in the next bin, and,
when it is completed, the last window of the last segment (`pushAll_segments`,
`emittedFeatures_segments`).
-/

namespace IndustrialReliability

variable {F : Type} [PyFloat F]

section Fold

variable [Sha256Digest]

/-- The same event once more. -/
def Repeats (last event : TelemetryEventV1 F) : Prop :=
  event.sequence = last.sequence ∧ event.messageId = last.messageId ∧
    hashEventPayload event = hashEventPayload last

/-- The next event, not before the last one. -/
def Continues (last event : TelemetryEventV1 F) : Prop :=
  event.sequence = last.sequence + 1 ∧ last.sourceTimestamp ≤ event.sourceTimestamp

instance (last event : TelemetryEventV1 F) : Decidable (Repeats last event) :=
  inferInstanceAs (Decidable (_ ∧ _ ∧ _))

omit [Sha256Digest] in
instance (last event : TelemetryEventV1 F) : Decidable (Continues last event) :=
  inferInstanceAs (Decidable (_ ∧ _))

/-- A stream cut into segments: the closed ones, the event accepted last, and the
events of the segment that is open. -/
structure Segments (F : Type) [PyFloat F] where
  closed : List (List (Pushed F))
  last : Option (Pushed F)
  current : List (Pushed F)

namespace Segments

def empty : Segments F := ⟨[], none, []⟩

/-- One more event. An exact repetition changes nothing, another event under the
last sequence number closes the segment and is not part of the next one. -/
def push (segments : Segments F) (pushed : Pushed F) : Segments F :=
  match segments.last with
  | none => { segments with last := some pushed, current := segments.current ++ [pushed] }
  | some last =>
      if Repeats last.2.val pushed.2.val then segments
      else if pushed.2.val.sequence = last.2.val.sequence then
        { segments with closed := segments.closed ++ [segments.current], current := [] }
      else if Continues last.2.val pushed.2.val then
        { segments with last := some pushed, current := segments.current ++ [pushed] }
      else ⟨segments.closed ++ [segments.current], some pushed, [pushed]⟩

section Push

variable {segments : Segments F} {last pushed : Pushed F}

theorem push_first (pushed : Pushed F) (held : segments.last = none) : segments.push pushed =
    { segments with last := some pushed, current := segments.current ++ [pushed] } := by
  simp [push, held]

variable (held : segments.last = some last)
include held

theorem push_repeats (repeats : Repeats last.2.val pushed.2.val) :
    segments.push pushed = segments := by
  simp [push, held, repeats]

theorem push_conflicts (other : ¬ Repeats last.2.val pushed.2.val)
    (same : pushed.2.val.sequence = last.2.val.sequence) : segments.push pushed =
      { segments with closed := segments.closed ++ [segments.current], current := [] } := by
  simp [push, held, other, same]

theorem push_continues (continues : Continues last.2.val pushed.2.val) : segments.push pushed =
    { segments with last := some pushed, current := segments.current ++ [pushed] } := by
  have other : pushed.2.val.sequence ≠ last.2.val.sequence := by
    rw [continues.1]
    omega
  have fresh : ¬ Repeats last.2.val pushed.2.val := fun repeats => other repeats.1
  simp [push, held, fresh, other, continues]

theorem push_breaks (other : pushed.2.val.sequence ≠ last.2.val.sequence)
    (breaks : ¬ Continues last.2.val pushed.2.val) : segments.push pushed =
      ⟨segments.closed ++ [segments.current], some pushed, [pushed]⟩ := by
  have fresh : ¬ Repeats last.2.val pushed.2.val := fun repeats => other repeats.1
  simp [push, held, fresh, other, breaks]

end Push

end Segments

/-- The segments of a stream. -/
def segmentsOf (stream : List (Pushed F)) : Segments F := stream.foldl Segments.push .empty

end Fold

/-! ### The segments are in order -/

/-- Every segment is in order, and the open one ends with the event accepted last. -/
structure Segments.InOrder (segments : Segments F) : Prop where
  closed : ∀ segment ∈ segments.closed, Ordered segment
  current : Ordered segments.current
  last : ∀ pushed ∈ segments.current.getLast?, segments.last = some pushed

theorem Segments.inOrder_empty : (Segments.empty : Segments F).InOrder :=
  ⟨nofun, .nil, nofun⟩

/-- An event not before the last one of a segment extends it in order. -/
theorem Ordered.concat {segment : List (Pushed F)} {pushed : Pushed F} (ordered : Ordered segment)
    (later : ∀ last ∈ segment.getLast?, last.2.val.sourceTimestamp ≤
      pushed.2.val.sourceTimestamp) : Ordered (segment ++ [pushed]) := by
  refine List.pairwise_append.mpr ⟨ordered, List.pairwise_singleton _ _, fun a mem b single => ?_⟩
  rw [List.mem_singleton.mp single]
  obtain ⟨front, final, rfl⟩ := (List.eq_nil_or_concat' segment).resolve_left
    (List.ne_nil_of_mem mem)
  have reached := later final (by simp)
  rcases List.mem_append.mp mem with earlier | same
  · exact ((List.pairwise_append.mp ordered).2.2 a earlier final (by simp)).trans reached
  · rw [List.mem_singleton.mp same]
    exact reached

variable [Sha256Digest]

theorem Segments.InOrder.push {segments : Segments F} (inOrder : segments.InOrder)
    (pushed : Pushed F) : (segments.push pushed).InOrder := by
  have closing : ∀ segment ∈ segments.closed ++ [segments.current], Ordered segment := by
    intro segment mem
    rcases List.mem_append.mp mem with earlier | same
    · exact inOrder.closed segment earlier
    · rw [List.mem_singleton.mp same]
      exact inOrder.current
  have ends : ∀ (front : List (Pushed F)) (final : Pushed F),
      final ∈ (front ++ [pushed]).getLast? → some pushed = some final := by
    intro front final held
    rw [List.getLast?_concat] at held
    exact held
  unfold Segments.push
  cases held : segments.last with
  | none =>
      refine ⟨inOrder.closed, ?_, ends _⟩
      refine inOrder.current.concat fun last mem => ?_
      cases held.symm.trans (inOrder.last last mem)
  | some last =>
      dsimp only
      split
      · exact inOrder
      · split
        · exact ⟨closing, .nil, nofun⟩
        · split
          · rename_i continues
            refine ⟨inOrder.closed, ?_, ends _⟩
            refine inOrder.current.concat fun final mem => ?_
            obtain rfl : last = final :=
              Option.some.inj (held.symm.trans (inOrder.last final mem))
            exact continues.2
          · exact ⟨closing, List.pairwise_singleton _ _, ends []⟩

theorem segmentsOf_concat (stream : List (Pushed F)) (pushed : Pushed F) :
    segmentsOf (stream ++ [pushed]) = (segmentsOf stream).push pushed := by
  simp [segmentsOf]

theorem segmentsOf_inOrder (stream : List (Pushed F)) : (segmentsOf stream).InOrder := by
  induction stream using List.reverseRecOn with
  | nil => exact Segments.inOrder_empty
  | append_singleton stream pushed ih =>
      rw [segmentsOf_concat]
      exact ih.push pushed

/-- Events numbered on from the last one, in order, extend the open segment. -/
theorem Segments.foldl_continues {stream : List (Pushed F)} {segments : Segments F}
    {last : Pushed F} (held : segments.last = some last)
    (numbered : NumberedFrom (last.2.val.sequence + 1) stream)
    (later : ∀ pushed ∈ stream, last.2.val.sourceTimestamp ≤ pushed.2.val.sourceTimestamp)
    (ordered : Ordered stream) : stream.foldl Segments.push segments =
      ⟨segments.closed, (last :: stream).getLast?, segments.current ++ stream⟩ := by
  induction stream generalizing segments last with
  | nil =>
      obtain ⟨closed, _, current⟩ := segments
      obtain rfl : _ = some last := held
      simp
  | cons pushed rest ih =>
      obtain ⟨next, numbered⟩ := numbered
      obtain ⟨laterHere, -⟩ := List.forall_mem_cons.mp later
      obtain ⟨laterRest, orderedRest⟩ := List.pairwise_cons.mp ordered
      rw [← next] at numbered
      rw [List.foldl_cons, push_continues held ⟨next, laterHere⟩,
        ih rfl numbered laterRest orderedRest, List.getLast?_cons_cons]
      simp

omit [Sha256Digest] in
theorem NumberedFrom.of_prefix {front stream : List (Pushed F)} {n : Int}
    (within : front <+: stream) (numbered : NumberedFrom n stream) : NumberedFrom n front := by
  induction front generalizing stream n with
  | nil => trivial
  | cons pushed front ih =>
      obtain ⟨rest, rfl⟩ := within
      exact ⟨numbered.1, ih (List.prefix_append _ _) numbered.2⟩

omit [Sha256Digest] in
theorem NumberedFrom.last {stream : List (Pushed F)} {n : Int} (numbered : NumberedFrom n stream) :
    ∀ last ∈ stream.getLast?, last.2.val.sequence = n + stream.length - 1 := by
  induction stream generalizing n with
  | nil => exact nofun
  | cons pushed rest ih =>
      obtain ⟨first, numbered⟩ := numbered
      intro last held
      cases rest with
      | nil =>
          obtain rfl : pushed = last := Option.some.inj held
          simp [first]
      | cons next more =>
          rw [List.getLast?_cons_cons] at held
          rw [ih numbered last held]
          simp only [List.length_cons]
          push_cast
          omega

/-- A stream numbered on, in order, is one segment. -/
theorem segmentsOf_numbered {stream : List (Pushed F)} {n : Int} (numbered : NumberedFrom n stream)
    (ordered : Ordered stream) : segmentsOf stream = ⟨[], stream.getLast?, stream⟩ := by
  cases stream with
  | nil => rfl
  | cons pushed rest =>
      obtain ⟨first, numbered⟩ := numbered
      obtain ⟨laterRest, orderedRest⟩ := List.pairwise_cons.mp ordered
      rw [← first] at numbered
      unfold segmentsOf
      rw [List.foldl_cons, Segments.push_first _ rfl,
        Segments.foldl_continues rfl numbered laterRest orderedRest]
      rfl

/-- A stream that starts again is two segments. -/
theorem segmentsOf_restarted {stream again : List (Pushed F)} {n : Int}
    (numbered : NumberedFrom n stream) (ordered : Ordered stream) {last first : Pushed F}
    {rest : List (Pushed F)} (ends : stream.getLast? = some last) (starts : again = first :: rest)
    (other : first.2.val.sequence ≠ last.2.val.sequence)
    (breaks : ¬ Continues last.2.val first.2.val) {m : Int} (numberedAgain : NumberedFrom m again)
    (orderedAgain : Ordered again) :
    segmentsOf (stream ++ again) = ⟨[stream], again.getLast?, again⟩ := by
  subst starts
  obtain ⟨sequence, numberedAgain⟩ := numberedAgain
  obtain ⟨laterRest, orderedRest⟩ := List.pairwise_cons.mp orderedAgain
  rw [← sequence] at numberedAgain
  have before := segmentsOf_numbered numbered ordered
  unfold segmentsOf at before ⊢
  rw [List.foldl_append, before, List.foldl_cons, Segments.push_breaks ends other breaks,
    Segments.foldl_continues rfl numberedAgain laterRest orderedRest]
  rfl

/-! ### The builder reads the segments -/

variable {config : BuilderConfig}

/-- The windows emitted of a segment before the builder is completed. -/
def followedWindows (config : BuilderConfig) (segment : List (Pushed F)) : List (List (Bin F)) :=
  (config.windowing F).followedFrom [] (binsOf config segment)

/-- The windows emitted of the segments before the builder is completed. -/
def Segments.windows (config : BuilderConfig) (segments : Segments F) : List (List (Bin F)) :=
  segments.closed.flatMap (followedWindows config) ++ followedWindows config segments.current

namespace OnlineFeatureBuilder

/-- The open bin and the buffer of the builder are those of the open segment. After a
gap the buffer is empty, where the binning drops it only with the next bin. -/
structure HoldsBin (config : BuilderConfig) (builder : OnlineFeatureBuilder F)
    (segment : List (Pushed F)) (front : List (Bin F)) (e : Int) : Prop where
  bins : binsOf config segment = front ++ [(e, builder.currentBinSamples)]
  binEnd : builder.currentBinEnd = some e
  lastEvent : ∀ last ∈ segment.getLast?, computeBinEnd last.2.val.sourceTimestamp = e
  buffer : ∀ samples, (config.windowing F).push builder.validBinBuffer (e, samples) =
    (config.windowing F).push ((config.windowing F).buffer [] front) (e, samples)

/-- The builder has no open bin. -/
structure HoldsNone (builder : OnlineFeatureBuilder F) : Prop where
  binEnd : builder.currentBinEnd = none
  samples : builder.currentBinSamples = []
  buffer : builder.validBinBuffer = []

/-- The builder has read these segments. -/
structure Tracks (config : BuilderConfig) (builder : OnlineFeatureBuilder F)
    (segments : Segments F) : Prop where
  sequence : builder.lastSequence = segments.last.map fun last => last.2.val.sequence
  timestamp : builder.lastTimestamp = segments.last.map fun last => last.2.val.sourceTimestamp
  eventId : builder.lastEventId = segments.last.map fun last => last.2.val.messageId
  payloadHash : builder.lastPayloadHash =
    segments.last.map fun last => hashEventPayload last.2.val
  bins : segments.current = [] ∧ builder.HoldsNone ∨
    ∃ front e, builder.HoldsBin config segments.current front e

theorem tracks_new : (OnlineFeatureBuilder.new : OnlineFeatureBuilder F).Tracks config .empty :=
  ⟨rfl, rfl, rfl, rfl, .inl ⟨rfl, rfl, rfl, rfl⟩⟩

variable {builder : OnlineFeatureBuilder F} {segments : Segments F} {last pushed : Pushed F}

/-! What the checks make of an event. -/

theorem Tracks.check_first (tracks : builder.Tracks config segments) (held : segments.last = none)
    (event : TelemetryEventV1 F) (payloadHash : Sha256) :
    builder.checkSequenceAndOrdering event payloadHash = (builder, false, none) := by
  unfold checkSequenceAndOrdering
  rw [tracks.sequence, tracks.timestamp, held]
  simp

variable (tracks : builder.Tracks config segments) (held : segments.last = some last)
include tracks held

theorem Tracks.check_repeats {event : TelemetryEventV1 F} (repeats : Repeats last.2.val event) :
    builder.checkSequenceAndOrdering event (hashEventPayload event) = (builder, true, none) := by
  unfold checkSequenceAndOrdering
  rw [tracks.sequence, tracks.eventId, tracks.payloadHash, held]
  obtain ⟨sequence, eventId, payloadHash⟩ := repeats
  simp [sequence, eventId, payloadHash]

theorem Tracks.check_conflicts {event : TelemetryEventV1 F} (other : ¬ Repeats last.2.val event)
    (same : event.sequence = last.2.val.sequence) :
    builder.checkSequenceAndOrdering event (hashEventPayload event) =
      (builder.resetSegment, true, some .conflictingDuplicate) := by
  unfold checkSequenceAndOrdering
  rw [tracks.sequence, tracks.eventId, tracks.payloadHash, held]
  have differs : ¬ (last.2.val.messageId = event.messageId ∧
      hashEventPayload last.2.val = hashEventPayload event) :=
    fun ⟨eventId, payloadHash⟩ => other ⟨same, eventId.symm, payloadHash.symm⟩
  simp [same, differs]

theorem Tracks.check_continues {event : TelemetryEventV1 F} (continues : Continues last.2.val event)
    (payloadHash : Sha256) :
    builder.checkSequenceAndOrdering event payloadHash = (builder, false, none) := by
  obtain ⟨next, later⟩ := continues
  unfold checkSequenceAndOrdering
  rw [tracks.sequence, tracks.timestamp, held]
  simp [next, later]

theorem Tracks.check_breaks {event : TelemetryEventV1 F} (other : event.sequence ≠ last.2.val.sequence)
    (breaks : ¬ Continues last.2.val event) (payloadHash : Sha256) :
    ∃ reason, builder.checkSequenceAndOrdering event payloadHash =
      (builder.resetSegment, false, some reason) := by
  unfold checkSequenceAndOrdering
  rw [tracks.sequence, tracks.timestamp, held]
  by_cases next : event.sequence = last.2.val.sequence + 1
  · have earlier : event.sourceTimestamp < last.2.val.sourceTimestamp :=
      not_le.mp fun later => breaks ⟨next, later⟩
    exact ⟨.timestampRegression, by simp [next, earlier]⟩
  · exact ⟨.sequenceGap, by simp [next, Ne.symm other]⟩

omit tracks held

/-! What accepting an event does to the bins. -/

omit [PyFloat F] [Sha256Digest] in
theorem holdsNone_reset (builder : OnlineFeatureBuilder F) : builder.resetSegment.HoldsNone :=
  ⟨rfl, rfl, rfl⟩

omit [Sha256Digest] in
theorem followedWindows_singleton (config : BuilderConfig) (pushed : Pushed F) :
    followedWindows config [pushed] = [] := by
  simp [followedWindows, binsOf, samplesOf, Lib.groups, Lib.groupsFrom, Lib.Windowing.followedFrom,
    Lib.Windowing.Followed]

omit [Sha256Digest] in
/-- The first event of a segment opens its bin. -/
theorem HoldsNone.opens (none : builder.HoldsNone) (config : BuilderConfig) (pushed : Pushed F)
    (payloadHash : Sha256) :
    (({ builder with currentBinEnd := some (computeBinEnd pushed.2.val.sourceTimestamp) } :
      OnlineFeatureBuilder F).accept config pushed.2.val payloadHash).HoldsBin config [pushed] []
        (computeBinEnd pushed.2.val.sourceTimestamp) := by
  refine ⟨?_, rfl, fun last mem => ?_, fun samples => ?_⟩
  · unfold accept
    dsimp only
    rw [none.samples]
    rfl
  · obtain rfl : pushed = last := Option.some.inj mem
    rfl
  · unfold accept
    dsimp only
    rw [none.buffer]
    rfl

variable {segment : List (Pushed F)} {front : List (Bin F)} {e : Int}

omit [Sha256Digest] in
theorem HoldsBin.nonempty (holds : builder.HoldsBin config segment front e) : segment ≠ [] := by
  rintro rfl
  have bins := holds.bins
  simp [binsOf, samplesOf, Lib.groups] at bins

omit [Sha256Digest] in
/-- An event of the open bin joins it. -/
theorem HoldsBin.joins (holds : builder.HoldsBin config segment front e)
    (same : computeBinEnd pushed.2.val.sourceTimestamp = e) (payloadHash : Sha256) :
    (builder.accept config pushed.2.val payloadHash).HoldsBin config (segment ++ [pushed])
      front e := by
  refine ⟨?_, holds.binEnd, fun last mem => ?_, holds.buffer⟩
  · have bins := holds.bins
    unfold binsOf samplesOf at bins ⊢
    rw [List.map_append]
    exact Lib.groups_concat_same bins same
  · rw [List.getLast?_concat] at mem
    obtain rfl := Option.some.inj mem
    exact same

omit [Sha256Digest] in
theorem HoldsBin.followedWindows_joins (holds : builder.HoldsBin config segment front e)
    (same : computeBinEnd pushed.2.val.sourceTimestamp = e) :
    followedWindows config (segment ++ [pushed]) = followedWindows config segment := by
  have joined := (holds.joins same 0).bins
  unfold followedWindows
  rw [joined, holds.bins]
  apply Lib.Windowing.followedFrom_concat_congr
  rfl

omit [Sha256Digest] in
/-- The buffer after the open bin is finalised. -/
theorem HoldsBin.closeBin_buffer (holds : builder.HoldsBin config segment front e) :
    (builder.closeBin config e).validBinBuffer =
      (config.windowing F).buffer [] (front ++ [(e, builder.currentBinSamples)]) := by
  rw [Lib.Windowing.buffer_concat]
  exact holds.buffer _

omit [Sha256Digest] in
theorem HoldsBin.bins_crosses (holds : builder.HoldsBin config segment front e)
    (other : computeBinEnd pushed.2.val.sourceTimestamp ≠ e) :
    binsOf config (segment ++ [pushed]) = front ++ [(e, builder.currentBinSamples)] ++
      [(computeBinEnd pushed.2.val.sourceTimestamp,
        [extractSample pushed.2.val config.analogCols config.digitalCols])] := by
  have bins := holds.bins
  unfold binsOf samplesOf at bins ⊢
  rw [List.map_append]
  exact Lib.groups_concat_new bins other

/-- The builder when it goes from bin `e` to bin `eventBinEnd`. -/
def crossTo (config : BuilderConfig) (builder : OnlineFeatureBuilder F) (e : Int)
    (buffer : List (Bin F)) (eventBinEnd : Int) : OnlineFeatureBuilder F :=
  { builder.closeBin config e with validBinBuffer := buffer, currentBinEnd := some eventBinEnd }

omit [Sha256Digest] in
/-- An event of another bin opens it; the buffer may be dropped when the event is not
in the next bin. -/
theorem HoldsBin.crosses (holds : builder.HoldsBin config segment front e)
    (other : computeBinEnd pushed.2.val.sourceTimestamp ≠ e) (payloadHash : Sha256)
    {buffer : List (Bin F)} (kept : buffer = (builder.closeBin config e).validBinBuffer ∨
      buffer = [] ∧ Datetime.seconds config.strideSeconds <
        computeBinEnd pushed.2.val.sourceTimestamp - e) :
    ((builder.crossTo config e buffer (computeBinEnd pushed.2.val.sourceTimestamp)).accept config
      pushed.2.val payloadHash).HoldsBin config (segment ++ [pushed])
        (front ++ [(e, builder.currentBinSamples)])
        (computeBinEnd pushed.2.val.sourceTimestamp) := by
  refine ⟨holds.bins_crosses other, rfl, fun last mem => ?_, fun samples => ?_⟩
  · rw [List.getLast?_concat] at mem
    obtain rfl := Option.some.inj mem
    rfl
  · change (config.windowing F).push buffer _ = _
    rw [← holds.closeBin_buffer]
    rcases kept with rfl | ⟨rfl, gap⟩
    · rfl
    · refine (Lib.Windowing.push_gap fun final held => ?_).symm
      obtain rfl := Lib.Windowing.getLast?_push held
      exact gap.ne'

omit [Sha256Digest] in
theorem HoldsBin.followedWindows_crosses (holds : builder.HoldsBin config segment front e)
    (other : computeBinEnd pushed.2.val.sourceTimestamp ≠ e) :
    followedWindows config (segment ++ [pushed]) = followedWindows config segment ++
      if (config.windowing F).IsFull (builder.closeBin config e).validBinBuffer ∧
        computeBinEnd pushed.2.val.sourceTimestamp - e ≤ Datetime.seconds config.strideSeconds then
        [(builder.closeBin config e).validBinBuffer] else [] := by
  unfold followedWindows
  rw [holds.bins_crosses other, holds.bins, Lib.Windowing.followedFrom_concat,
    ← holds.closeBin_buffer]
  rfl

/-! ### One push -/

variable [Uuid5]

/-- What a push does: it makes the messages of some windows of the open segment and
returns them, or drops them. -/
structure Pushes (config : BuilderConfig) (builder next : OnlineFeatureBuilder F)
    (segments : Segments F) (pushed : Pushed F) (finalised : List (List (Bin F))) (keep : Bool)
    (reason : Option SegmentCloseReason) : Prop where
  call : builder.push config pushed.1 pushed.2.val =
    (finalised.mapM (emitWindow config pushed.1)).map fun vectors =>
      (next, ⟨if keep then vectors else [], reason⟩)
  tracks : next.Tracks config (segments.push pushed)
  windows : (segments.push pushed).windows config =
    segments.windows config ++ if keep then finalised else []
  inside : ∀ window ∈ finalised,
    window ∈ (config.windowing F).windowsFrom [] (binsOf config segments.current)

/-- A push of an event that is not ignored. -/
theorem push_of_crosses {builder' crossed : OnlineFeatureBuilder F}
    {reason reason' : Option SegmentCloseReason} {finalised : List (List (Bin F))} (keep : Bool)
    (checked : builder.checkSequenceAndOrdering pushed.2.val (hashEventPayload pushed.2.val) =
      (builder', false, reason))
    (crosses : builder'.crossBinBoundary config pushed.1
      (computeBinEnd pushed.2.val.sourceTimestamp) reason =
        (finalised.mapM (emitWindow config pushed.1)).map fun vectors =>
          (crossed, if keep then vectors else [], reason')) :
    builder.push config pushed.1 pushed.2.val =
      (finalised.mapM (emitWindow config pushed.1)).map fun vectors =>
        (crossed.accept config pushed.2.val (hashEventPayload pushed.2.val),
          ⟨if keep then vectors else [], reason'⟩) := by
  unfold push
  dsimp only
  rw [checked]
  dsimp only
  rw [crosses]
  cases finalised.mapM (emitWindow config pushed.1) <;> rfl

omit [Sha256Digest] in
theorem HoldsNone.crossBinBoundary (none : builder.HoldsNone) (emittedAt : Instant)
    (eventBinEnd : Int) (reason : Option SegmentCloseReason) :
    builder.crossBinBoundary config emittedAt eventBinEnd reason =
      (([] : List (List (Bin F))).mapM (emitWindow config emittedAt)).map fun vectors =>
        ({ builder with currentBinEnd := some eventBinEnd }, if true then vectors else [],
          reason) := by
  unfold OnlineFeatureBuilder.crossBinBoundary
  rw [none.binEnd]
  rfl

omit [Sha256Digest] in
theorem HoldsBin.crossBinBoundary_same (holds : builder.HoldsBin config segment front e)
    (emittedAt : Instant) (reason : Option SegmentCloseReason) :
    builder.crossBinBoundary config emittedAt e reason =
      (([] : List (List (Bin F))).mapM (emitWindow config emittedAt)).map fun vectors =>
        (builder, if true then vectors else [], reason) := by
  unfold crossBinBoundary
  rw [holds.binEnd]
  dsimp only
  rw [if_pos rfl]
  rfl

omit [Sha256Digest] in
/-- A later event finalises the open bin, and what that emits is dropped when the
event is not in the next bin. -/
theorem HoldsBin.crossBinBoundary_later (positive : 0 < config.lookbackBins)
    (holds : builder.HoldsBin config segment front e) (emittedAt : Instant) {eventBinEnd : Int}
    (beyond : e < eventBinEnd) :
    builder.crossBinBoundary config emittedAt eventBinEnd none =
      ((builder.completedWindow config e).mapM (emitWindow config emittedAt)).map fun vectors =>
        if Datetime.seconds config.strideSeconds < eventBinEnd - e then
          (builder.crossTo config e [] eventBinEnd, [], some .invalidBin)
        else (builder.crossTo config e (builder.closeBin config e).validBinBuffer eventBinEnd,
          vectors, none) := by
  unfold crossBinBoundary
  rw [holds.binEnd]
  dsimp only
  rw [if_neg beyond.ne', if_neg (not_lt.mpr beyond.le),
    finalizeCurrentBin_eq emittedAt positive holds.binEnd]
  split <;> cases (builder.completedWindow config e).mapM (emitWindow config emittedAt) <;> rfl

omit [Uuid5] in
/-- The state of a builder that has accepted the event of a segment. -/
theorem tracks_accept {builder' : OnlineFeatureBuilder F} {closed : List (List (Pushed F))}
    {current : List (Pushed F)} {front : List (Bin F)} {e : Int}
    (holds : (builder'.accept config pushed.2.val (hashEventPayload pushed.2.val)).HoldsBin config
      current front e) :
    (builder'.accept config pushed.2.val (hashEventPayload pushed.2.val)).Tracks config
      ⟨closed, some pushed, current⟩ :=
  ⟨rfl, rfl, rfl, rfl, .inr ⟨front, e, holds⟩⟩

omit [Sha256Digest] [Uuid5] in
@[simp] theorem followedWindows_nil (config : BuilderConfig) :
    followedWindows config ([] : List (Pushed F)) = [] := rfl

omit [Sha256Digest] [Uuid5] in
theorem windows_close (closed : List (List (Pushed F))) (segment : List (Pushed F))
    (last : Option (Pushed F)) :
    (⟨closed ++ [segment], last, []⟩ : Segments F).windows config =
      (⟨closed, last, segment⟩ : Segments F).windows config := by
  simp [Segments.windows]

/-- The event begins a segment. -/
theorem pushes_first {builder' : OnlineFeatureBuilder F} {reason : Option SegmentCloseReason}
    (checked : builder.checkSequenceAndOrdering pushed.2.val (hashEventPayload pushed.2.val) =
      (builder', false, reason)) (none : builder'.HoldsNone) {closed : List (List (Pushed F))}
    (target : segments.push pushed = ⟨closed, some pushed, [pushed]⟩)
    (same : closed.flatMap (followedWindows config) = segments.windows config) :
    ∃ next finalised keep reason,
      Pushes config builder next segments pushed finalised keep reason := by
  have holds := none.opens config pushed (hashEventPayload pushed.2.val)
  refine ⟨_, [], true, _, push_of_crosses true checked (none.crossBinBoundary _ _ _), ?_, ?_, nofun⟩
  · rw [target]
    exact tracks_accept holds
  · rw [target, ← same]
    simp [Segments.windows, followedWindows_singleton]

/-- The event continues the open bin or crosses into a later one. -/
theorem HoldsBin.pushes (positive : 0 < config.lookbackBins)
    (holds : builder.HoldsBin config segments.current front e)
    (checked : builder.checkSequenceAndOrdering pushed.2.val (hashEventPayload pushed.2.val) =
      (builder, false, none)) (reaches : e ≤ computeBinEnd pushed.2.val.sourceTimestamp)
    (target : segments.push pushed =
      ⟨segments.closed, some pushed, segments.current ++ [pushed]⟩) :
    ∃ next finalised keep reason,
      Pushes config builder next segments pushed finalised keep reason := by
  rcases reaches.eq_or_lt with same | beyond
  · have crosses := holds.crossBinBoundary_same pushed.1 none
    rw [same] at crosses
    refine ⟨_, [], true, _, push_of_crosses true checked crosses, ?_, ?_, nofun⟩
    · rw [target]
      exact tracks_accept (holds.joins same.symm _)
    · rw [target]
      unfold Segments.windows
      rw [holds.followedWindows_joins same.symm]
      simp
  · have inside : ∀ window ∈ builder.completedWindow config e,
        window ∈ (config.windowing F).windowsFrom [] (binsOf config segments.current) := by
      unfold completedWindow
      intro window mem
      split at mem
      · rename_i full
        rw [List.mem_singleton.mp mem, Lib.Windowing.mem_windowsFrom_iff]
        exact ⟨front, _, [], holds.bins, holds.closeBin_buffer, full⟩
      · cases mem
    have followed := holds.followedWindows_crosses beyond.ne'
    have crosses := holds.crossBinBoundary_later positive pushed.1 beyond
    by_cases gap : Datetime.seconds config.strideSeconds <
        computeBinEnd pushed.2.val.sourceTimestamp - e
    · simp only [if_pos gap] at crosses
      refine ⟨_, builder.completedWindow config e, false, _,
        push_of_crosses false checked crosses, ?_, ?_, inside⟩
      · rw [target]
        exact tracks_accept (holds.crosses beyond.ne' _ (.inr ⟨rfl, gap⟩))
      · rw [target]
        unfold Segments.windows
        rw [followed, if_neg fun held => absurd gap (not_lt.mpr held.2)]
        simp
    · simp only [if_neg gap] at crosses
      refine ⟨_, builder.completedWindow config e, true, _,
        push_of_crosses true checked crosses, ?_, ?_, inside⟩
      · rw [target]
        exact tracks_accept (holds.crosses beyond.ne' _ (.inl rfl))
      · rw [target]
        unfold Segments.windows completedWindow
        rw [followed, List.append_assoc]
        simp only [not_lt.mp gap, and_true, if_true]

/-- Every push does what its case says. -/
theorem exists_pushes (positive : 0 < config.lookbackBins) (tracks : builder.Tracks config segments)
    (inOrder : segments.InOrder) (pushed : Pushed F) :
    ∃ next finalised keep reason,
      Pushes config builder next segments pushed finalised keep reason := by
  cases held : segments.last with
  | none =>
      have empty : segments.current = [] := by
        rw [← List.getLast?_eq_none_iff, Option.eq_none_iff_forall_not_mem]
        intro last mem
        cases held.symm.trans (inOrder.last last mem)
      rcases tracks.bins with ⟨-, fresh⟩ | ⟨front, e, holds⟩
      · have target := Segments.push_first pushed held
        rw [empty] at target
        refine pushes_first (tracks.check_first held _ _) fresh target ?_
        simp [Segments.windows, empty]
      · exact absurd empty holds.nonempty
  | some last =>
      by_cases repeats : Repeats last.2.val pushed.2.val
      · have target := Segments.push_repeats held repeats
        refine ⟨builder, [], true, none, ?_, ?_, ?_, nofun⟩
        · unfold push
          dsimp only
          rw [tracks.check_repeats held repeats]
          rfl
        · rw [target]
          exact tracks
        · rw [target]
          simp
      · by_cases same : pushed.2.val.sequence = last.2.val.sequence
        · have target := Segments.push_conflicts held repeats same
          refine ⟨builder.resetSegment, [], true, some .conflictingDuplicate, ?_, ?_, ?_, nofun⟩
          · unfold push
            dsimp only
            rw [tracks.check_conflicts held repeats same]
            rfl
          · rw [target]
            exact ⟨tracks.sequence, tracks.timestamp, tracks.eventId, tracks.payloadHash,
              .inl ⟨rfl, holdsNone_reset builder⟩⟩
          · rw [target, windows_close]
            simp
        · by_cases continues : Continues last.2.val pushed.2.val
          · have target := Segments.push_continues held continues
            have checked := tracks.check_continues held continues
              (hashEventPayload pushed.2.val)
            rcases tracks.bins with ⟨empty, fresh⟩ | ⟨front, e, holds⟩
            · rw [empty] at target
              refine pushes_first checked fresh target ?_
              simp [Segments.windows, empty]
            · refine holds.pushes positive checked ?_ target
              obtain ⟨final, tail⟩ := Option.ne_none_iff_exists'.mp
                (mt List.getLast?_eq_none_iff.mp holds.nonempty)
              obtain rfl : last = final :=
                Option.some.inj (held.symm.trans (inOrder.last final tail))
              rw [← holds.lastEvent last tail]
              exact computeBinEnd_mono continues.2
          · have target := Segments.push_breaks held same continues
            obtain ⟨reason, checked⟩ := tracks.check_breaks held same continues
              (hashEventPayload pushed.2.val)
            refine pushes_first checked (holdsNone_reset builder) target ?_
            simp [Segments.windows]

theorem Pushes.made {next : OnlineFeatureBuilder F} {finalised : List (List (Bin F))} {keep : Bool}
    {reason : Option SegmentCloseReason}
    (pushes : Pushes config builder next segments pushed finalised keep reason)
    {next' : OnlineFeatureBuilder F} {result : BuilderResult F}
    (returned : builder.push config pushed.1 pushed.2.val = .ok (next', result)) :
    next' = next ∧
      List.Forall₂ (MadeFrom config) (if keep then finalised else []) result.features := by
  rw [pushes.call, Lib.map_eq_ok_iff] at returned
  obtain ⟨vectors, made, same⟩ := returned
  obtain ⟨rfl, rfl⟩ := Prod.mk.inj same
  refine ⟨rfl, ?_⟩
  cases keep with
  | false => exact .nil
  | true => exact (Lib.mapM_eq_ok_iff_forall₂.mp made).imp fun _ _ made => ⟨_, made⟩

/-- A push returns when the windows it finalises pass their schemas. -/
theorem Pushes.returns {next : OnlineFeatureBuilder F} {finalised : List (List (Bin F))}
    {keep : Bool} {reason : Option SegmentCloseReason}
    (pushes : Pushes config builder next segments pushed finalised keep reason)
    (emits : ∀ window ∈ (config.windowing F).windowsFrom [] (binsOf config segments.current),
      Emittable config window) :
    ∃ result, builder.push config pushed.1 pushed.2.val = .ok (next, result) := by
  obtain ⟨vectors, made⟩ : ∃ vectors, finalised.mapM (emitWindow config pushed.1) = .ok vectors := by
    simp only [Lib.mapM_eq_ok_iff_forall₂]
    have each : ∀ window ∈ finalised, ∃ vector, emitWindow config pushed.1 window = .ok vector :=
      fun window mem => emits window (pushes.inside window mem) pushed.1
    clear pushes
    induction finalised with
    | nil => exact ⟨[], .nil⟩
    | cons window rest ih =>
        obtain ⟨here, there⟩ := List.forall_mem_cons.mp each
        obtain ⟨vector, made⟩ := here
        obtain ⟨vectors, all⟩ := ih there
        exact ⟨vector :: vectors, .cons made all⟩
  rw [pushes.call, made]
  exact ⟨_, rfl⟩

end OnlineFeatureBuilder

/-! ### Whole streams -/

variable [Uuid5]

/-- The pushes of a stream emit the windows of its segments that are followed. -/
theorem pushAll_segments (positive : 0 < config.lookbackBins) {stream : List (Pushed F)}
    {builder final : OnlineFeatureBuilder F} {segments : Segments F}
    {vectors : List (FeatureVectorV1 F)} (tracks : builder.Tracks config segments)
    (inOrder : segments.InOrder) (returned : pushAll config builder stream = .ok (final, vectors)) :
    final.Tracks config (stream.foldl Segments.push segments) ∧
      ∃ windows, (stream.foldl Segments.push segments).windows config =
        segments.windows config ++ windows ∧ List.Forall₂ (MadeFrom config) windows vectors := by
  induction stream generalizing builder segments vectors with
  | nil =>
      obtain ⟨rfl, rfl⟩ := Prod.mk.inj (Except.ok.inj returned)
      exact ⟨tracks, [], by simp, .nil⟩
  | cons pushed rest ih =>
      obtain ⟨⟨next, result⟩, step, tail⟩ := Lib.bind_eq_ok_iff.mp returned
      obtain ⟨⟨last, more⟩, run, same⟩ := Lib.bind_eq_ok_iff.mp tail
      obtain ⟨rfl, rfl⟩ := Prod.mk.inj (Lib.pure_eq_ok_iff.mp same)
      obtain ⟨_, finalised, keep, reason, pushes⟩ :=
        OnlineFeatureBuilder.exists_pushes positive tracks inOrder pushed
      obtain ⟨rfl, made⟩ := pushes.made step
      obtain ⟨tracks, windows, grown, madeRest⟩ := ih pushes.tracks (inOrder.push pushed) run
      refine ⟨tracks, _, ?_, List.rel_append made madeRest⟩
      rw [List.foldl_cons, grown, pushes.windows, List.append_assoc]

/-- A stream is pushed to its end when the windows of its segments pass their
schemas. -/
theorem pushAll_returns (positive : 0 < config.lookbackBins) {stream : List (Pushed F)}
    {builder : OnlineFeatureBuilder F} {segments : Segments F}
    (tracks : builder.Tracks config segments) (inOrder : segments.InOrder)
    (emits : ∀ front, front <+: stream → ∀ window ∈ (config.windowing F).windowsFrom []
      (binsOf config (front.foldl Segments.push segments).current), Emittable config window) :
    ∃ final vectors, pushAll config builder stream = .ok (final, vectors) := by
  induction stream generalizing builder segments with
  | nil => exact ⟨builder, [], rfl⟩
  | cons pushed rest ih =>
      obtain ⟨next, finalised, keep, reason, pushes⟩ :=
        OnlineFeatureBuilder.exists_pushes positive tracks inOrder pushed
      obtain ⟨result, step⟩ := pushes.returns (emits [] List.nil_prefix)
      obtain ⟨final, vectors, run⟩ := ih pushes.tracks (inOrder.push pushed)
        fun front within => emits (pushed :: front) (List.cons_prefix_cons.mpr ⟨rfl, within⟩)
      refine ⟨final, result.features ++ vectors, ?_⟩
      exact Lib.bind_eq_ok_iff.mpr ⟨_, step, Lib.bind_eq_ok_iff.mpr ⟨_, run, rfl⟩⟩

/-- The windows emitted of the segments, when the builder is completed at the end or
not. -/
def Segments.emitted (config : BuilderConfig) (segments : Segments F) (completed : Bool) :
    List (List (Bin F)) :=
  segments.closed.flatMap (followedWindows config) ++
    if completed then (config.windowing F).promptFrom [] (binsOf config segments.current)
    else followedWindows config segments.current

omit [Sha256Digest] [Uuid5] in
/-- Completion adds the window of the last bin. -/
theorem Segments.emitted_true (config : BuilderConfig) (segments : Segments F) :
    segments.emitted config true = segments.windows config ++
      (config.windowing F).lastFrom [] (binsOf config segments.current) := by
  unfold Segments.emitted Segments.windows
  rw [if_pos rfl, Lib.Windowing.promptFrom_eq, List.append_assoc]
  rfl

namespace OnlineFeatureBuilder

variable {builder : OnlineFeatureBuilder F} {segments : Segments F}

omit [Sha256Digest] [Uuid5] in
theorem HoldsBin.completedWindow_eq {segment : List (Pushed F)} {front : List (Bin F)} {e : Int}
    (holds : builder.HoldsBin config segment front e) :
    builder.completedWindow config e = (config.windowing F).lastFrom [] (binsOf config segment) := by
  unfold completedWindow Lib.Windowing.lastFrom
  rw [holds.closeBin_buffer, holds.bins]
  simp

/-- Finalising the open bin makes the message of the window it completes. -/
theorem Tracks.finalizeCurrentBin (positive : 0 < config.lookbackBins)
    (tracks : builder.Tracks config segments) (emittedAt : Instant) :
    ∃ finalized, builder.finalizeCurrentBin config emittedAt =
      (((config.windowing F).lastFrom [] (binsOf config segments.current)).mapM
        (emitWindow config emittedAt)).map fun emitted => (finalized, emitted) := by
  rcases tracks.bins with ⟨empty, fresh⟩ | ⟨front, e, holds⟩
  · refine ⟨builder, ?_⟩
    unfold OnlineFeatureBuilder.finalizeCurrentBin
    rw [fresh.binEnd, empty]
    rfl
  · refine ⟨builder.closeBin config e, ?_⟩
    rw [finalizeCurrentBin_eq emittedAt positive holds.binEnd, holds.completedWindow_eq]

/-- Completing the builder emits the last window of the open segment. -/
theorem complete_segments (positive : 0 < config.lookbackBins)
    (tracks : builder.Tracks config segments) {completedAt : Instant} {sourceTimestamp : Int}
    {completed : OnlineFeatureBuilder F} {result : BuilderResult F}
    (returned : builder.complete config completedAt sourceTimestamp = .ok (completed, result)) :
    List.Forall₂ (MadeFrom config)
      ((config.windowing F).lastFrom [] (binsOf config segments.current)) result.features := by
  obtain ⟨finalized, finalises⟩ := tracks.finalizeCurrentBin positive completedAt
  unfold complete at returned
  split at returned
  · cases returned
  · obtain ⟨⟨closed, emitted⟩, finalised, same⟩ := Lib.bind_eq_ok_iff.mp returned
    obtain ⟨-, rfl⟩ := Prod.mk.inj (Lib.pure_eq_ok_iff.mp same)
    rw [finalises, Lib.map_eq_ok_iff] at finalised
    obtain ⟨vectors, made, same⟩ := finalised
    obtain ⟨-, rfl⟩ := Prod.mk.inj same
    exact (Lib.mapM_eq_ok_iff_forall₂.mp made).imp fun _ _ made => ⟨_, made⟩

/-- Completion returns when it is not before the last event and the last window
passes its schemas. -/
theorem complete_returns (positive : 0 < config.lookbackBins)
    (tracks : builder.Tracks config segments) (completedAt : Instant) {sourceTimestamp : Int}
    (reached : ∀ last ∈ segments.last, last.2.val.sourceTimestamp ≤ sourceTimestamp)
    (emits : ∀ window ∈ (config.windowing F).windowsFrom [] (binsOf config segments.current),
      Emittable config window) :
    ∃ completed result,
      builder.complete config completedAt sourceTimestamp = .ok (completed, result) := by
  obtain ⟨finalized, finalises⟩ := tracks.finalizeCurrentBin positive completedAt
  have made : ∃ vectors, ((config.windowing F).lastFrom [] (binsOf config segments.current)).mapM
      (emitWindow config completedAt) = .ok vectors := by
    unfold Lib.Windowing.lastFrom
    split
    · rename_i completes
      obtain ⟨front, bin, split⟩ := (List.eq_nil_or_concat' _).resolve_left completes.1
      have inside := Lib.Windowing.mem_windowsFrom_iff.mpr
        ⟨front, bin, [], split, congrArg _ split, completes.2⟩
      obtain ⟨vector, made⟩ := emits _ inside completedAt
      rw [List.mapM_cons, List.mapM_nil, made]
      exact ⟨_, rfl⟩
    · exact ⟨[], rfl⟩
  obtain ⟨vectors, made⟩ := made
  have notBefore : ¬ ∃ last ∈ builder.lastTimestamp, sourceTimestamp < last := by
    rw [tracks.timestamp]
    rintro ⟨t, held, before⟩
    obtain ⟨last, mem, rfl⟩ := Option.map_eq_some_iff.mp held
    exact absurd before (not_lt.mpr (reached last mem))
  unfold complete
  rw [if_neg notBefore, finalises, made]
  exact ⟨_, _, rfl⟩

end OnlineFeatureBuilder

/-- All features emitted for a stream, completed at the end or not. -/
def emittedFeatures (config : BuilderConfig) (stream : List (Pushed F)) :
    Option (Instant × Int) → Except BuilderError (List (FeatureVectorV1 F))
  | none => (pushAll config .new stream).map Prod.snd
  | some (completedAt, sourceTimestamp) =>
      onlineFeatures config .new stream completedAt sourceTimestamp

/-- The builder emits the windows of the segments of its stream. -/
theorem emittedFeatures_segments (positive : 0 < config.lookbackBins) {stream : List (Pushed F)}
    {completion : Option (Instant × Int)} {vectors : List (FeatureVectorV1 F)}
    (emitted : emittedFeatures config stream completion = .ok vectors) :
    List.Forall₂ (MadeFrom config) ((segmentsOf stream).emitted config completion.isSome)
      vectors := by
  cases completion with
  | none =>
      obtain ⟨⟨final, all⟩, run, rfl⟩ := Lib.map_eq_ok_iff.mp emitted
      obtain ⟨-, windows, grown, made⟩ :=
        pushAll_segments positive OnlineFeatureBuilder.tracks_new Segments.inOrder_empty run
      have same : (segmentsOf stream).emitted config false = windows := grown
      exact same ▸ made
  | some completion =>
      obtain ⟨completedAt, sourceTimestamp⟩ := completion
      obtain ⟨⟨final, front⟩, run, finish⟩ := Lib.bind_eq_ok_iff.mp emitted
      obtain ⟨⟨done, result⟩, completes, same⟩ := Lib.bind_eq_ok_iff.mp finish
      obtain rfl := Lib.pure_eq_ok_iff.mp same
      obtain ⟨tracks, windows, grown, made⟩ :=
        pushAll_segments positive OnlineFeatureBuilder.tracks_new Segments.inOrder_empty run
      have grown : (segmentsOf stream).windows config = windows := grown
      change List.Forall₂ _ ((segmentsOf stream).emitted config true) _
      rw [Segments.emitted_true, grown]
      exact List.rel_append made (OnlineFeatureBuilder.complete_segments positive tracks completes)

end IndustrialReliability
