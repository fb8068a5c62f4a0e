import IndustrialReliability.Features.Online
import IndustrialReliability.Lib.Resent

/-!
Telemetry that comes again.

An event that has been accepted last is ignored when it comes once more, even if it was
emitted at another time: the builder compares the sequence number, the message and its
payload (`push_again`). So a stream in which each event may be repeated before the next
one is as good as the stream without the repetitions (`pushAll_resent`). The clocks that
are read meanwhile show in the time of emission of the windows only (`push_clock`, `complete_clock`).
-/

namespace IndustrialReliability

open OnlineFeatureBuilder

variable {F : Type} [PyFloat F] {config : BuilderConfig} {builder builder' : OnlineFeatureBuilder F}
  {n r k : Nat}

/-! ### Repeated events -/

section Repeated

variable [Sha256Digest] {item : Nat → TelemetryEventV1 F → Prop}

/-- The items are numbered from one, and those of a number are one message with one
payload. -/
structure Repeatable (item : Nat → TelemetryEventV1 F → Prop) : Prop where
  sequence : ∀ {k event}, item k event → event.sequence = (k + 1 : Nat)
  again : ∀ {k event event'}, item k event → item k event' →
    event'.messageId = event.messageId ∧ hashEventPayload event' = hashEventPayload event

/-- The builder has accepted this event last. -/
structure LastAccepted (builder : OnlineFeatureBuilder F) (event : TelemetryEventV1 F) : Prop where
  sequence : builder.lastSequence = some event.sequence
  eventId : builder.lastEventId = some event.messageId
  payloadHash : builder.lastPayloadHash = some (hashEventPayload event)

/-- The builder has accepted the first `n` items, the last of them last. -/
def AcceptedUpTo (item : Nat → TelemetryEventV1 F → Prop) : Nat → OnlineFeatureBuilder F → Prop
  | 0, builder => builder.lastSequence = none
  | k + 1, builder => ∃ event, item k event ∧ LastAccepted builder event

variable [Uuid5]

/-- The event accepted last is ignored when it comes again. -/
theorem push_again (repeatable : Repeatable item) {event : TelemetryEventV1 F} (emittedAt : Instant)
    (accepted : AcceptedUpTo item (k + 1) builder) (again : item k event) :
    builder.push config emittedAt event = .ok (builder, ⟨[], none⟩) := by
  obtain ⟨last, its, sequence, eventId, payloadHash⟩ := accepted
  obtain ⟨sameId, sameHash⟩ := repeatable.again its again
  unfold push checkSequenceAndOrdering
  dsimp only
  rw [sequence, eventId, payloadHash, repeatable.sequence its, repeatable.sequence again, sameId,
    sameHash, if_pos rfl, if_pos ⟨rfl, rfl⟩]

/-- An event with a new sequence number is accepted, or the push fails. -/
theorem push_new {event : TelemetryEventV1 F} {emittedAt : Instant} {result : BuilderResult F}
    (new : builder.lastSequence ≠ some event.sequence)
    (pushed : builder.push config emittedAt event = .ok (builder', result)) :
    ∃ crossed, builder' = accept config event (hashEventPayload event) crossed := by
  have taken : (builder.checkSequenceAndOrdering event (hashEventPayload event)).2.1 = false := by
    unfold checkSequenceAndOrdering
    rw [if_neg new]
    split
    · rfl
    · split <;> rfl
  unfold push at pushed
  dsimp only at pushed
  split at pushed
  · rename_i checked
    rw [checked] at taken
    cases taken
  · obtain ⟨⟨crossed, emitted, closeReason⟩, -, accepted⟩ := Lib.bind_eq_ok_iff.mp pushed
    cases accepted
    exact ⟨crossed, rfl⟩

theorem push_next (repeatable : Repeatable item) {event : TelemetryEventV1 F} {emittedAt : Instant}
    {result : BuilderResult F} (accepted : AcceptedUpTo item n builder) (next : item n event)
    (pushed : builder.push config emittedAt event = .ok (builder', result)) :
    AcceptedUpTo item (n + 1) builder' := by
  have new : builder.lastSequence ≠ some event.sequence := by
    cases n with
    | zero =>
        rw [show builder.lastSequence = none from accepted]
        simp
    | succ k =>
        obtain ⟨last, its, sequence, -⟩ := accepted
        rw [sequence, repeatable.sequence its, repeatable.sequence next]
        simp
  obtain ⟨crossed, rfl⟩ := push_new new pushed
  exact ⟨event, next, rfl, rfl, rfl⟩

theorem pushAll_concat (stream : List (Pushed F)) (emittedAt : Instant)
    (event : Checked (TelemetryEventV1 F)) :
    pushAll config builder (stream ++ [(emittedAt, event)]) = (do
      let (builder, features) ← pushAll config builder stream
      let (builder, result) ← builder.push config emittedAt event.val
      return (builder, features ++ result.features)) := by
  induction stream generalizing builder with
  | nil =>
      show (builder.push config emittedAt event.val >>= _) = _
      cases pushed : builder.push config emittedAt event.val with
      | error e =>
          show _ = (builder.push config emittedAt event.val >>= _)
          rw [pushed]
          rfl
      | ok result =>
          show _ = (builder.push config emittedAt event.val >>= _)
          rw [pushed]
          show Except.ok (result.1, result.2.features ++ []) = Except.ok (result.1, result.2.features)
          rw [List.append_nil]
  | cons first rest ih =>
      obtain ⟨time, first⟩ := first
      rw [List.cons_append]
      unfold pushAll
      cases builder.push config time first.val with
      | error e => rfl
      | ok pushed =>
          show (pushAll config pushed.1 (rest ++ [(emittedAt, event)]) >>= _) =
            (pushAll config pushed.1 rest >>= _) >>= _
          rw [ih]
          cases pushAll config pushed.1 rest with
          | error e => rfl
          | ok later =>
              show (later.1.push config emittedAt event.val >>= _) >>= _ =
                (later.1.push config emittedAt event.val >>= _)
              cases later.1.push config emittedAt event.val with
              | error e => rfl
              | ok last =>
                  show Except.ok (last.1, pushed.2.features ++ (later.2 ++ last.2.features)) =
                    Except.ok (last.1, pushed.2.features ++ later.2 ++ last.2.features)
                  rw [List.append_assoc]

/-- What is sent again is as if it were sent once. -/
theorem pushAll_resent (repeatable : Repeatable item) {sent : List (Pushed F)}
    (resent : Lib.Resent (fun k (pushed : Pushed F) => item k pushed.2.val) sent n r) :
    ∃ once, once.Sublist sent ∧
      Lib.Resent (fun k (pushed : Pushed F) => item k pushed.2.val) once n 0 ∧
      pushAll config .new sent.reverse = pushAll config .new once.reverse ∧
      ∀ builder features, pushAll config .new once.reverse = .ok (builder, features) →
        AcceptedUpTo item n builder := by
  induction resent with
  | nil =>
      refine ⟨[], .slnil, .nil, rfl, fun builder features returned => ?_⟩
      cases returned
      rfl
  | @next sent n r pushed _ here ih =>
      obtain ⟨once, part, exactly, same, accepted⟩ := ih
      obtain ⟨emittedAt, event⟩ := pushed
      refine ⟨(emittedAt, event) :: once, part.cons_cons _, .next exactly here, ?_, ?_⟩
      · rw [List.reverse_cons, List.reverse_cons, pushAll_concat, pushAll_concat, same]
      · intro builder features returned
        rw [List.reverse_cons, pushAll_concat] at returned
        obtain ⟨⟨before, emitted⟩, first, rest⟩ := Lib.bind_eq_ok_iff.mp returned
        obtain ⟨⟨after, result⟩, step, last⟩ := Lib.bind_eq_ok_iff.mp rest
        cases last
        exact push_next repeatable (accepted before emitted first) here step
  | @again sent n r pushed _ here ih =>
      obtain ⟨once, part, exactly, same, accepted⟩ := ih
      obtain ⟨emittedAt, event⟩ := pushed
      refine ⟨once, part.cons _, exactly, ?_, accepted⟩
      rw [List.reverse_cons, pushAll_concat, same]
      cases first : pushAll config .new once.reverse with
      | error e => rfl
      | ok state =>
          obtain ⟨builder, features⟩ := state
          show (builder.push config emittedAt event.val >>= _) = _
          rw [push_again repeatable emittedAt (accepted builder features first) here]
          show Except.ok (builder, features ++ []) = _
          rw [List.append_nil]

end Repeated

/-! ### Clocks -/

section Clocks

/-- The vector as if it had been emitted at another time. -/
def FeatureVectorV1.emittedWhen (emittedAt : Instant) (vector : FeatureVectorV1 F) : FeatureVectorV1 F :=
  { vector with emittedAt }

def BuilderResult.emittedWhen (emittedAt : Instant) (result : BuilderResult F) : BuilderResult F :=
  { result with features := result.features.map (·.emittedWhen emittedAt) }

/-- The event as if it had been emitted at another time. -/
def TelemetryEventV1.emittedWhen (emittedAt : Instant) (event : TelemetryEventV1 F) :
    TelemetryEventV1 F :=
  { event with emittedAt }

variable [Uuid5]

omit [Uuid5] in
theorem construct_emittedWhen (emittedAt : Instant) (vector : FeatureVectorV1 F) :
    construct (vector.emittedWhen emittedAt) = (construct vector).map (·.emittedWhen emittedAt) := by
  unfold construct
  have same : FrozenMessage.checks (vector.emittedWhen emittedAt) = FrozenMessage.checks vector := rfl
  rw [same]
  split <;> rfl

omit [Uuid5] in
theorem ofValidation_emittedWhen {emittedAt : Instant} {vector vector' : FeatureVectorV1 F}
    (same : vector' = vector.emittedWhen emittedAt) : BuilderError.ofValidation (construct vector') =
      (BuilderError.ofValidation (construct vector)).map (·.emittedWhen emittedAt) := by
  rw [same, construct_emittedWhen]
  cases construct vector <;> rfl

theorem emitWindow_clock (emittedAt emittedAt' : Instant) (buffer : List (Bin F)) :
    emitWindow config emittedAt' buffer =
      (emitWindow config emittedAt buffer).map (·.emittedWhen emittedAt') := by
  unfold emitWindow
  split
  · rename_i first last _ _
    dsimp only
    generalize BuilderError.ofValidation (construct (X := CoverageEvidenceV1) _) = coverage
    cases coverage with
    | error e => rfl
    | ok coverage =>
        generalize BuilderError.ofFeatures (computeFeatureValues (buffer.flatMap fun bin => bin.2)
          config.featureNames config.analogCols config.digitalCols) = values
        cases values with
        | error e => rfl
        | ok values =>
            dsimp only [bind, Except.bind]
            exact ofValidation_emittedWhen rfl
  · rfl

theorem finalizeCurrentBin_clock (emittedAt emittedAt' : Instant) :
    builder.finalizeCurrentBin config emittedAt' = (builder.finalizeCurrentBin config emittedAt).map
      fun (builder, emitted) => (builder, emitted.map (·.emittedWhen emittedAt')) := by
  unfold finalizeCurrentBin
  split
  · rfl
  · split
    · dsimp only
      generalize (if config.lookbackBins < _ then _ else _) = buffer
      split
      · rw [emitWindow_clock emittedAt emittedAt']
        cases emitWindow config emittedAt buffer <;> rfl
      · rfl
    · rfl

theorem crossBinBoundary_clock (emittedAt emittedAt' : Instant) (eventBinEnd : Int)
    (closeReason : Option SegmentCloseReason) :
    builder.crossBinBoundary config emittedAt' eventBinEnd closeReason =
      (builder.crossBinBoundary config emittedAt eventBinEnd closeReason).map
        fun (builder, emitted, closeReason) =>
          (builder, emitted.map (·.emittedWhen emittedAt'), closeReason) := by
  unfold crossBinBoundary
  split
  · rfl
  · split
    · rfl
    · split
      · rfl
      · rw [finalizeCurrentBin_clock emittedAt emittedAt']
        split <;> cases builder.finalizeCurrentBin config emittedAt <;> rfl

variable [Sha256Digest]

/-- The clock shows in the vectors of a push only, and the time of emission of the event
nowhere. -/
theorem push_clock (emittedAt emittedAt' sentAt : Instant) (event : TelemetryEventV1 F) :
    builder.push config emittedAt' (event.emittedWhen sentAt) =
      (builder.push config emittedAt event).map fun (builder, result) =>
        (builder, result.emittedWhen emittedAt') := by
  have checks : ∀ digest, builder.checkSequenceAndOrdering (event.emittedWhen sentAt) digest =
    builder.checkSequenceAndOrdering event digest := fun _ => rfl
  have digest : hashEventPayload (event.emittedWhen sentAt) = hashEventPayload event := rfl
  unfold push
  dsimp only
  rw [digest, checks]
  split
  · rfl
  · rename_i taken closeReason _
    rw [crossBinBoundary_clock emittedAt emittedAt']
    show ((taken.crossBinBoundary config emittedAt (computeBinEnd event.sourceTimestamp) closeReason).map _ >>= _) = _
    cases taken.crossBinBoundary config emittedAt (computeBinEnd event.sourceTimestamp) closeReason <;> rfl

omit [Sha256Digest] in
theorem complete_clock (emittedAt emittedAt' : Instant) (sourceTimestamp : Int) :
    builder.complete config emittedAt' sourceTimestamp =
      (builder.complete config emittedAt sourceTimestamp).map fun (builder, result) =>
        (builder, result.emittedWhen emittedAt') := by
  unfold complete
  split
  · rfl
  · rw [finalizeCurrentBin_clock emittedAt emittedAt']
    cases builder.finalizeCurrentBin config emittedAt <;> rfl

end Clocks

end IndustrialReliability
