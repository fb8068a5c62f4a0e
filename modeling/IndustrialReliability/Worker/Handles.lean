import IndustrialReliability.Worker.Frames

/-!
What a call of a handler does.

`Handles` is the specification of `handle_record` that the runs of the worker rest on:
it publishes and scores what its builder returns, tracks the offset of its record under
the session of the record, blocks the partition of a record that does not decode, leaves
the other sessions as they are, and commits, if it does, the offsets of the session that
the record completes (`completedBy`), which is complete then.
-/

namespace IndustrialReliability

variable {F : Type}

/-! ### Sessions and their records -/

/-- The session of a record that decodes. -/
def WorkerRecord.session [PyFloat F] (record : WorkerRecord F) : Option UUID :=
  match record.value with
  | .telemetry (.ok event) => some event.val.replaySessionId
  | .status (.ok status) => some status.val.replaySessionId
  | _ => none

def WorkerRecord.topic [PyFloat F] (record : WorkerRecord F) : WorkerTopic :=
  match record.value with
  | .telemetry _ => .telemetry
  | .status _ => .replayStatus

/-- Nothing waits in the builder to be finalised. -/
def OnlineFeatureBuilder.Flushed (builder : OnlineFeatureBuilder F) : Prop :=
  builder.currentBinEnd = none ∨ builder.currentBinSamples = []

namespace WorkerMemory

/-- The session has reached the last sequence number of its terminal status, and its
builder is completed. -/
structure Complete (memory : WorkerMemory F) (session : UUID) : Prop where
  barrier : ∃ status ∈ memory.terminalStatus.get? session, ∃ last ∈ status.lastSequence,
    last ≤ (memory.lastSequence.get? session).getD 0
  builder : ∀ entry ∈ memory.builders.get? session,
    entry.2.isComplete = true ∧ entry.2.Flushed

/-- The session has failed or completed. -/
def Closed (memory : WorkerMemory F) (session : UUID) : Prop :=
  session ∈ memory.failedSessions ∨ memory.Complete session

/-- The offset to commit for a session on a partition. -/
def tracked (memory : WorkerMemory F) (session : UUID) (tp : TopicPartition) : Option Nat :=
  ((memory.sessionOffsets.get? session).getD .empty).get? tp

variable {memory memory' : WorkerMemory F} {session τ : UUID}

theorem Within.closed (within : memory.Within session memory') (other : τ ≠ session)
    (closed : memory.Closed τ) : memory'.Closed τ := by
  rcases closed with failed | complete
  · exact .inl (within.failed τ failed)
  · refine .inr ⟨?_, ?_⟩
    · rw [within.terminal τ other, within.sequence τ other]
      exact complete.barrier
    · rw [within.builders τ other]
      exact complete.builder

theorem tracked_congr (same : memory'.sessionOffsets = memory.sessionOffsets) (session : UUID) :
    memory'.tracked session = memory.tracked session := by
  unfold tracked
  rw [same]

theorem tracked_trackOffset_ne {tp : TopicPartition} {offset : Nat} (other : τ ≠ session) :
    (trackOffset session tp offset memory).tracked τ = memory.tracked τ := by
  unfold tracked trackOffset
  dsimp only
  rw [Lib.Table.get?_set_ne other]

theorem tracked_trackOffset_self {tp : TopicPartition} (offset : Nat) :
    (trackOffset session tp offset memory).tracked session tp = some (offset + 1) := by
  simp [tracked, trackOffset]

theorem tracked_trackOffset {tp tp' : TopicPartition} {offset n : Nat}
    (held : (trackOffset session tp offset memory).tracked τ tp' = some n) :
    tp' = tp ∧ n = offset + 1 ∨ memory.tracked τ tp' = some n := by
  by_cases mine : τ = session
  · subst mine
    by_cases here : tp' = tp
    · subst here
      rw [tracked_trackOffset_self] at held
      exact .inl ⟨rfl, (Option.some.inj held).symm⟩
    · right
      simpa [tracked, trackOffset, Lib.Table.get?_set_ne here] using held
  · right
    simpa [tracked, trackOffset, Lib.Table.get?_set_ne mine] using held

theorem trackOffset_closed {tp : TopicPartition} {offset : Nat} :
    (trackOffset session tp offset memory).Closed τ ↔ memory.Closed τ :=
  ⟨fun closed => closed.imp id fun complete => ⟨complete.barrier, complete.builder⟩,
    fun closed => closed.imp id fun complete => ⟨complete.barrier, complete.builder⟩⟩

end WorkerMemory

/-! ### Completing a session -/

/-- A commit is the last action of a handler that returns. -/
structure Handled.Commits (handled : Handled F) (offsets : List (TopicPartition × Nat)) :
    Prop where
  returned : handled.returned = .ok ()
  last : ∃ front, handled.actions = front ++ [.commit offsets] ∧ commitsOf front = []

theorem Handled.Commits.after {handled : Handled F} {offsets : List (TopicPartition × Nat)}
    {actions : List (WorkerAction F)} (commits : handled.Commits offsets)
    (none : commitsOf actions = []) :
    (Handled.mk (actions ++ handled.actions) handled.memory handled.returned).Commits offsets := by
  obtain ⟨returned, front, same, before⟩ := commits
  refine ⟨returned, actions ++ front, ?_, ?_⟩
  · dsimp only
    rw [List.append_assoc, same]
  · rw [commitsOf_append, none, before]
    rfl

section Completing

variable [PyFloat F] [Uuid5] {settings : WorkerSettings} {stamp : HandlerStamp F}
  {memory : WorkerMemory F} {status : ReplayStatusV1}

omit [PyFloat F] [Uuid5] in
/-- The end of `_complete_session` commits the offsets of the session, or there are
none. -/
theorem commitSession_cases (session : UUID) (memory : WorkerMemory F) :
    (commitSession session memory).memory = memory ∧
      ((commitSession session memory).actions = [] ∨
        ∃ offsets, memory.sessionOffsets.get? session = some offsets ∧
          (commitSession session memory).actions = [.commit offsets.rows]) ∧
      (commitSession session memory).returned = .ok () := by
  unfold commitSession
  split
  · exact ⟨rfl, .inl rfl, rfl⟩
  · rename_i offsets held
    split
    · exact ⟨rfl, .inl rfl, rfl⟩
    · exact ⟨rfl, .inr ⟨offsets, held, rfl⟩, rfl⟩

namespace OnlineFeatureBuilder

variable {config : BuilderConfig} {builder completed : OnlineFeatureBuilder F}

theorem finalizeCurrentBin_flushed {emittedAt : Instant} {emitted : List (FeatureVectorV1 F)}
    (returned : builder.finalizeCurrentBin config emittedAt = .ok (completed, emitted)) :
    completed.Flushed ∧ completed.isComplete = builder.isComplete := by
  unfold finalizeCurrentBin at returned
  split at returned
  · rename_i nothing
    cases returned
    exact ⟨.inl nothing, rfl⟩
  · split at returned
    · dsimp only at returned
      generalize (if config.lookbackBins < _ then _ else _) = buffer at returned
      split at returned
      · obtain ⟨vector, -, same⟩ := Lib.bind_eq_ok_iff.mp returned
        obtain ⟨rfl, -⟩ := Prod.mk.inj (Lib.pure_eq_ok_iff.mp same)
        exact ⟨.inr rfl, rfl⟩
      · obtain ⟨rfl, -⟩ := Prod.mk.inj (Lib.pure_eq_ok_iff.mp returned)
        exact ⟨.inr rfl, rfl⟩
    · cases returned
      exact ⟨.inr rfl, rfl⟩

/-- A completed builder has nothing left. -/
theorem complete_flushed {result : BuilderResult F} {completedAt : Instant}
    {sourceTimestamp : Int}
    (returned : builder.complete config completedAt sourceTimestamp = .ok (completed, result)) :
    completed.isComplete = true ∧ completed.Flushed := by
  unfold complete at returned
  split at returned
  · cases returned
  · obtain ⟨⟨closed, emitted⟩, finalised, same⟩ := Lib.bind_eq_ok_iff.mp returned
    obtain ⟨rfl, -⟩ := Prod.mk.inj (Lib.pure_eq_ok_iff.mp same)
    have flushed := (finalizeCurrentBin_flushed finalised).1
    exact ⟨rfl, flushed⟩

end OnlineFeatureBuilder

/-- What the first part of `_complete_session` does when it returns. -/
structure Finalises (status : ReplayStatusV1) (memory : WorkerMemory F) (handled : Handled F) :
    Prop where
  within : memory.Within status.replaySessionId handled.memory
  noCommit : commitsOf handled.actions = []
  scored : handled.returned = .ok () → AllScored handled.actions
  terminal : handled.returned = .ok () →
    handled.memory.terminalStatus = memory.terminalStatus
  sequence : handled.returned = .ok () → handled.memory.lastSequence = memory.lastSequence
  builder : handled.returned = .ok () →
    (∀ entry ∈ memory.builders.get? status.replaySessionId,
      entry.2.isComplete = true → entry.2.Flushed) →
    ∀ entry ∈ handled.memory.builders.get? status.replaySessionId,
      entry.2.isComplete = true ∧ entry.2.Flushed

theorem finaliseBuilder_finalises :
    Finalises status memory (finaliseBuilder settings stamp status memory) := by
  unfold finaliseBuilder
  split
  · rename_i absent
    refine ⟨.refl _ _, rfl, fun _ => allScored_nil, fun _ => rfl, fun _ => rfl, fun _ _ => ?_⟩
    intro entry held
    cases absent.symm.trans held
  · rename_i config builder present
    split
    · rename_i complete
      refine ⟨.refl _ _, rfl, fun _ => allScored_nil, fun _ => rfl, fun _ => rfl, ?_⟩
      intro _ flushed entry held
      obtain rfl := Option.some.inj (present.symm.trans held)
      exact ⟨complete, flushed _ held complete⟩
    · split
      · refine ⟨.refl _ _, rfl, nofun, nofun, nofun, nofun⟩
      · rename_i completed result returned
        obtain ⟨complete, flushed⟩ := OnlineFeatureBuilder.complete_flushed returned
        set finished : WorkerMemory F := { memory with
          builders := memory.builders.set status.replaySessionId (config, completed) }
        have within : memory.Within status.replaySessionId finished :=
          ⟨rfl, rfl, fun _ mem => mem, fun τ other => Lib.Table.get?_set_ne other,
            fun _ _ => rfl, fun _ _ => rfl, id⟩
        have emits : ((Handled.acts (.finalised status.replaySessionId result) finished).andThen
            (processFeatures settings stamp result.features)).Emits finished :=
          processFeatures_emits rfl rfl
        refine ⟨within.trans (emits.within _), emits.noCommit, fun ok => (emits.scored ok).2,
          fun ok => ?_, fun ok => ?_, fun ok _ => ?_⟩
        · rw [(emits.scored ok).1]
        · rw [(emits.scored ok).1]
        · rw [(emits.scored ok).1]
          intro entry held
          have held : finished.builders.get? status.replaySessionId = some entry := held
          rw [Lib.Table.get?_set_self] at held
          obtain rfl := Option.some.inj held
          exact ⟨complete, flushed⟩

/-- What `_complete_session` does: it commits the offsets of the session, or nothing. -/
structure Completes (status : ReplayStatusV1) (memory : WorkerMemory F) (handled : Handled F) :
    Prop where
  within : memory.Within status.replaySessionId handled.memory
  scored : handled.returned = .ok () → AllScored handled.actions
  commits : commitsOf handled.actions = [] ∨ status.replaySessionId ∉ memory.failedSessions ∧
    ∃ offsets, memory.sessionOffsets.get? status.replaySessionId = some offsets ∧
      handled.Commits offsets.rows ∧ handled.memory.terminalStatus = memory.terminalStatus ∧
      handled.memory.lastSequence = memory.lastSequence ∧
      ((∀ entry ∈ memory.builders.get? status.replaySessionId,
        entry.2.isComplete = true → entry.2.Flushed) →
        ∀ entry ∈ handled.memory.builders.get? status.replaySessionId,
          entry.2.isComplete = true ∧ entry.2.Flushed)

theorem completeSession_completes :
    Completes status memory (completeSession settings stamp status memory) := by
  unfold completeSession
  split
  · exact ⟨.refl _ _, fun _ => allScored_nil, .inl rfl⟩
  · rename_i alive
    have finalises : Finalises status memory (finaliseBuilder settings stamp status memory) :=
      finaliseBuilder_finalises
    have commit := commitSession_cases status.replaySessionId
      (finaliseBuilder settings stamp status memory).memory
    obtain ⟨kept, actions, ok⟩ := commit
    cases ended : (finaliseBuilder settings stamp status memory).returned with
    | error error =>
        rw [Handled.andThen_of_error ended]
        refine ⟨finalises.within, fun returned => ?_, .inl finalises.noCommit⟩
        cases ended.symm.trans returned
    | ok _ =>
        rw [Handled.andThen_of_ok ended]
        refine ⟨?_, fun _ => (finalises.scored ended).append ?_, ?_⟩
        · dsimp only
          rw [kept]
          exact finalises.within
        · refine allScored_of_quiet fun action mem => ?_
          rcases actions with none | ⟨offsets, -, one⟩
          · rw [none] at mem
            cases mem
          · rw [one] at mem
            rw [List.mem_singleton.mp mem]
            rfl
        · dsimp only
          rw [kept]
          rcases actions with none | ⟨offsets, held, one⟩
          · left
            rw [none, List.append_nil]
            exact finalises.noCommit
          · right
            rw [finalises.within.offsets] at held
            refine ⟨alive, offsets, held, ⟨ok, _, congrArg _ one, finalises.noCommit⟩,
              finalises.terminal ended, finalises.sequence ended, finalises.builder ended⟩

end Completing

/-! ### What a handler does -/

section Handlers

variable [PyFloat F]

def WorkerRecord.tp (record : WorkerRecord F) : TopicPartition := ⟨record.topic, record.partition⟩

/-- The session that a record completes. -/
def completedBy (settings : WorkerSettings) (memory : WorkerMemory F) (record : WorkerRecord F) :
    Option UUID :=
  match record.value with
  | .telemetry (.ok event) =>
      let session := event.val.replaySessionId
      if record.tp ∉ memory.blockedPartitions ∧ session ∉ memory.failedSessions ∧
          event.val.sourceDatasetSha256 = settings.sourceDatasetSha256 ∧
          event.val.contractSha256 = settings.contractSha256 ∧
          ∃ term ∈ memory.terminalStatus.get? session, term.state = .completed ∧
            term.lastSequence = some event.val.sequence then some session else none
  | .status (.ok status) =>
      let session := status.val.replaySessionId
      if status.val.messageId ∉ memory.selfEmittedStatusIds ∧ session ∉ memory.failedSessions ∧
          (status.val.state = .completed ∨ status.val.state = .stopped) ∧
          ∃ last ∈ status.val.lastSequence,
            last ≤ (memory.lastSequence.get? session).getD 0 then some session else none
  | _ => none

/-- The builder of a session that completed before has taken nothing since, and does not
with this record. -/
def NothingSince (memory : WorkerMemory F) (record : WorkerRecord F) (session : UUID) : Prop :=
  ∀ entry ∈ memory.builders.get? session, entry.2.isComplete = true → entry.2.Flushed ∧
    match record.value with
    | .telemetry (.ok event) => entry.2.lastSequence = some event.val.sequence
    | _ => True

structure Handles (settings : WorkerSettings) (memory : WorkerMemory F) (record : WorkerRecord F)
    (handled : Handled F) : Prop where
  scored : handled.returned = .ok () → AllScored handled.actions
  offsets : handled.memory.sessionOffsets = memory.sessionOffsets ∨
    ∃ session ∈ record.session, handled.memory.sessionOffsets =
        (trackOffset session record.tp record.offset memory).sessionOffsets ∧
      (record.topic = .telemetry → record.tp ∉ memory.blockedPartitions)
  blocked : ∀ tp ∈ memory.blockedPartitions, tp ∈ handled.memory.blockedPartitions
  poison : record.session = none → record.tp ∈ handled.memory.blockedPartitions
  closed : ∀ τ, record.session ≠ some τ → memory.Closed τ → handled.memory.Closed τ
  keyed : handled.memory.Keyed
  commits : commitsOf handled.actions = [] ∨
    ∃ session ∈ completedBy settings memory record, ∃ offsets,
      (trackOffset session record.tp record.offset memory).sessionOffsets.get? session =
          some offsets ∧ handled.Commits offsets.rows ∧
        (NothingSince memory record session → handled.memory.Complete session)

variable {settings : WorkerSettings} {stamp : HandlerStamp F} {memory memory' : WorkerMemory F}
  {record : WorkerRecord F} {handled : Handled F}

/-- A handler that only sends messages, from the memory it was called with. -/
theorem Handled.Sends.handles (sends : handled.Sends memory)
    (keyed : memory.Keyed)
    (decoded : record.session = none → record.tp ∈ memory.blockedPartitions) :
    Handles settings memory record handled where
  scored _ := allScored_of_messages sends.messages
  offsets := .inl (sends.within 0).offsets
  blocked _ mem := (sends.within 0).blocked ▸ mem
  poison none := (sends.within 0).blocked ▸ decoded none
  closed τ _ closed := (sends.within (τ + 1)).closed (Nat.succ_ne_self τ).symm closed
  keyed := (sends.within 0).keyed keyed
  commits := .inl (commitsOf_of_messages sends.messages)

/-- A record that does not decode blocks its partition. -/
theorem quarantined_handles (keyed : memory.Keyed) (errorCode errorDetail : String) :
    Handles settings memory record
      (publishWorkerQuarantine stamp record.payloadSha256 record.tp record.offset errorCode
        errorDetail
        { memory with blockedPartitions := memory.blockedPartitions.insert record.tp }) where
  scored _ := allScored_of_messages fun action mem => by
    rw [List.mem_singleton.mp mem]
    trivial
  offsets := .inl rfl
  blocked tp mem := List.mem_insert_of_mem mem
  poison _ := List.mem_insert_self
  closed τ _ closed := closed.imp id fun complete => ⟨complete.barrier, complete.builder⟩
  keyed := keyed
  commits := .inl rfl

/-- A handler that tracks the offset of its record and goes on with its session. -/
theorem handles_of_tracked {session : UUID} (keyed : memory.Keyed) (decoded : record.session = some session)
    (unblocked : record.topic = .telemetry → record.tp ∉ memory.blockedPartitions)
    (within : (trackOffset session record.tp record.offset memory).Within session handled.memory)
    (scored : handled.returned = .ok () → AllScored handled.actions)
    (commits : commitsOf handled.actions = [] ∨ completedBy settings memory record = some session ∧
      ∃ offsets, (trackOffset session record.tp record.offset memory).sessionOffsets.get? session =
          some offsets ∧ handled.Commits offsets.rows ∧
        (NothingSince memory record session → handled.memory.Complete session)) :
    Handles settings memory record handled where
  scored := scored
  offsets := .inr ⟨session, decoded, within.offsets, unblocked⟩
  blocked tp mem := within.blocked ▸ mem
  poison none := by cases decoded.symm.trans none
  closed τ other closed := by
    refine within.closed (fun same => other (same ▸ decoded)) ?_
    exact WorkerMemory.trackOffset_closed.mpr closed
  keyed := within.keyed keyed
  commits := commits.imp id fun ⟨completed, rest⟩ => ⟨session, completed, rest⟩

/-! Telemetry. -/

section Telemetry

variable [Uuid5] [Sha256Digest] {event : TelemetryEventV1 F}

namespace OnlineFeatureBuilder

variable {config : BuilderConfig} {emittedAt : Instant} {builder next : OnlineFeatureBuilder F}

omit [PyFloat F] [Uuid5] [Sha256Digest] in
theorem checkSequenceAndOrdering_isComplete [PyFloat F] (builder : OnlineFeatureBuilder F)
    (event : TelemetryEventV1 F) (payloadHash : Sha256) :
    (builder.checkSequenceAndOrdering event payloadHash).1.isComplete = builder.isComplete := by
  unfold checkSequenceAndOrdering
  repeat' split
  all_goals rfl

omit [Sha256Digest] in
theorem crossBinBoundary_isComplete {eventBinEnd : Int}
    {closeReason closeReason' : Option SegmentCloseReason} {emitted : List (FeatureVectorV1 F)}
    (returned : builder.crossBinBoundary config emittedAt eventBinEnd closeReason =
      .ok (next, emitted, closeReason')) : next.isComplete = builder.isComplete := by
  unfold crossBinBoundary at returned
  split at returned
  · cases returned
    rfl
  · split at returned
    · cases returned
      rfl
    · split at returned
      · cases returned
        rfl
      · split at returned
        · obtain ⟨⟨closed, dropped⟩, finalised, same⟩ := Lib.bind_eq_ok_iff.mp returned
          obtain ⟨rfl, -⟩ := Prod.mk.inj (Lib.pure_eq_ok_iff.mp same)
          exact (finalizeCurrentBin_flushed finalised).2
        · obtain ⟨⟨closed, kept⟩, finalised, same⟩ := Lib.bind_eq_ok_iff.mp returned
          obtain ⟨rfl, -⟩ := Prod.mk.inj (Lib.pure_eq_ok_iff.mp same)
          exact (finalizeCurrentBin_flushed finalised).2

/-- A push does not complete a builder, nor reopen it. -/
theorem push_isComplete {result : BuilderResult F}
    (returned : builder.push config emittedAt event = .ok (next, result)) :
    next.isComplete = builder.isComplete := by
  unfold push at returned
  dsimp only at returned
  have checks := checkSequenceAndOrdering_isComplete builder event (hashEventPayload event)
  split at returned
  · rename_i checked
    rw [checked] at checks
    cases returned
    exact checks
  · rename_i checked
    rw [checked] at checks
    obtain ⟨⟨crossed, emitted, reason⟩, boundary, same⟩ := Lib.bind_eq_ok_iff.mp returned
    obtain ⟨rfl, -⟩ := Prod.mk.inj (Lib.pure_eq_ok_iff.mp same)
    exact (crossBinBoundary_isComplete boundary).trans checks

/-- A builder takes no event under the sequence number it has seen last. -/
theorem push_same_flushed {result : BuilderResult F}
    (returned : builder.push config emittedAt event = .ok (next, result))
    (same : builder.lastSequence = some event.sequence) (flushed : builder.Flushed) :
    next.Flushed := by
  unfold push checkSequenceAndOrdering at returned
  dsimp only at returned
  rw [if_pos same] at returned
  split at returned
  · rename_i checked
    split at checked
    · cases checked
      cases returned
      exact flushed
    · cases checked
      cases returned
      exact .inl rfl
  · rename_i checked
    split at checked <;> cases checked

end OnlineFeatureBuilder

variable (settings stamp event) in
omit [Sha256Digest] in
/-- The barrier is reached and the session is completed, or neither. -/
theorem checkBarrier_cases {session : UUID} (mine : event.replaySessionId = session)
    (keyed : memory.Keyed) :
    (¬ ∃ term ∈ memory.terminalStatus.get? session, term.state = .completed ∧
        term.lastSequence = some event.sequence) ∧
      checkBarrier settings stamp event memory = .done memory ∨
    ∃ term ∈ memory.terminalStatus.get? session, (term.state = .completed ∧
      term.lastSequence = some event.sequence) ∧ term.replaySessionId = session ∧
      checkBarrier settings stamp event memory = completeSession settings stamp term memory := by
  subst mine
  unfold checkBarrier
  split
  · rename_i absent
    refine .inl ⟨?_, rfl⟩
    rintro ⟨term, held, -⟩
    cases absent.symm.trans held
  · rename_i term held
    split
    · rename_i reached
      exact .inr ⟨term, held, reached, keyed _ term held, rfl⟩
    · rename_i short
      refine .inl ⟨?_, rfl⟩
      rintro ⟨other, held', reached⟩
      obtain rfl := Option.some.inj (held.symm.trans held')
      exact short reached

/-- What the part behind the checks does. -/
structure PushesTelemetry (memory : WorkerMemory F) (event : TelemetryEventV1 F) (handled : Handled F) :
    Prop where
  within : memory.Within event.replaySessionId handled.memory
  scored : handled.returned = .ok () → AllScored handled.actions
  commits : commitsOf handled.actions = [] ∨ event.replaySessionId ∉ memory.failedSessions ∧
    (∃ term ∈ memory.terminalStatus.get? event.replaySessionId, term.state = .completed ∧
      term.lastSequence = some event.sequence) ∧
    ∃ offsets, memory.sessionOffsets.get? event.replaySessionId = some offsets ∧
      handled.Commits offsets.rows ∧
      ((∀ entry ∈ memory.builders.get? event.replaySessionId, entry.2.isComplete = true →
        entry.2.Flushed ∧ entry.2.lastSequence = some event.sequence) →
        handled.memory.Complete event.replaySessionId)

theorem pushTelemetry_pushes (keyed : memory.Keyed) :
    PushesTelemetry memory event (pushTelemetry settings stamp event memory) := by
  unfold pushTelemetry
  cases found : builderOf settings event memory with
  | mk config builder =>
  dsimp only
  cases pushed : builder.push config stamp.pushedAt event with
  | error error =>
      refine ⟨⟨rfl, rfl, fun _ mem => mem, fun τ other => Lib.Table.get?_set_ne other,
        fun _ _ => rfl, fun _ _ => rfl, id⟩, nofun, .inl rfl⟩
  | ok returned =>
      obtain ⟨next, result⟩ := returned
      dsimp only
      set session := event.replaySessionId
      set seen : WorkerMemory F := { memory with
        builders := memory.builders.set session (config, next)
        lastSequence := memory.lastSequence.set session event.sequence }
      have within : memory.Within session seen :=
        ⟨rfl, rfl, fun _ mem => mem, fun τ other => Lib.Table.get?_set_ne other, fun _ _ => rfl,
          fun τ other => Lib.Table.get?_set_ne other, id⟩
      have emits : ((Handled.acts (.pushed event result) seen).andThen
          (processFeatures settings stamp result.features)).Emits seen :=
        processFeatures_emits rfl rfl
      revert emits
      generalize (Handled.acts (.pushed event result) seen).andThen
        (processFeatures settings stamp result.features) = emitted
      intro emits
      cases sent : emitted.returned with
      | error error =>
          rw [Handled.andThen_of_error sent]
          refine ⟨within.trans (emits.within session), fun ok => ?_, .inl emits.noCommit⟩
          cases sent.symm.trans ok
      | ok _ =>
          obtain ⟨kept, scored⟩ := emits.scored sent
          rw [Handled.andThen_of_ok sent, kept]
          rcases checkBarrier_cases settings stamp event rfl (within.keyed keyed) with
            ⟨-, same⟩ | ⟨term, held, ⟨completed, last⟩, mine, same⟩
          · rw [same]
            dsimp only [Handled.done]
            rw [List.append_nil]
            exact ⟨within, fun _ => scored, .inl emits.noCommit⟩
          · rw [same]
            have spec : Completes term seen (completeSession settings stamp term seen) :=
              completeSession_completes
            revert spec
            generalize completeSession settings stamp term seen = closing
            intro spec
            have mine : term.replaySessionId = session := mine
            have inner := spec.within
            rw [mine] at inner
            refine ⟨within.trans inner, fun ok => scored.append (spec.scored ok), ?_⟩
            rcases spec.commits with none | ⟨alive, offsets, tracks, commits, terminal, sequence, flush⟩
            · left
              dsimp only
              rw [commitsOf_append, emits.noCommit, none]
              rfl
            · right
              rw [mine] at alive tracks flush
              refine ⟨alive, ⟨term, held, completed, last⟩, offsets, tracks,
                commits.after emits.noCommit, fun nothing => ⟨?_, ?_⟩⟩
              · dsimp only
                rw [terminal, sequence, Lib.Table.get?_set_self]
                exact ⟨term, held, event.sequence, last, le_refl _⟩
              · refine flush fun entry present complete => ?_
                rw [Lib.Table.get?_set_self] at present
                obtain rfl := Option.some.inj present
                have before := OnlineFeatureBuilder.push_isComplete pushed
                rw [complete] at before
                cases old : memory.builders.get? session with
                | none =>
                    unfold builderOf at found
                    rw [show memory.builders.get? event.replaySessionId = none from old] at found
                    cases found
                    cases before
                | some entry =>
                    unfold builderOf at found
                    rw [show memory.builders.get? event.replaySessionId = some entry from old] at found
                    obtain rfl : entry = (config, builder) := found
                    obtain ⟨flushed, same⟩ := nothing _ old before.symm
                    exact OnlineFeatureBuilder.push_same_flushed pushed same flushed

theorem handleTelemetryRecord_handles (keyed : memory.Keyed)
    {value : Except String (Checked (TelemetryEventV1 F))}
    (carries : record.value = .telemetry value) :
    Handles settings memory record
      (handleTelemetryRecord settings stamp record value memory) := by
  have topic : record.topic = .telemetry := by
    unfold WorkerRecord.topic
    rw [carries]
  have tp : (⟨.telemetry, record.partition⟩ : TopicPartition) = record.tp := by
    unfold WorkerRecord.tp
    rw [topic]
  unfold handleTelemetryRecord
  dsimp only
  rw [tp]
  split
  · rename_i blocked
    exact (done_sends memory).handles keyed fun _ => blocked
  · rename_i unblocked
    cases value with
    | error detail => exact quarantined_handles keyed _ _
    | ok event =>
        have decoded : record.session = some event.val.replaySessionId := by
          unfold WorkerRecord.session
          rw [carries]
        have decodes : record.session = none → record.tp ∈ memory.blockedPartitions := by
          intro none
          cases decoded.symm.trans none
        dsimp only
        split
        · exact (done_sends memory).handles keyed decodes
        · rename_i alive
          split
          · refine Handled.Sends.handles ?_ keyed decodes
            exact (publishWorkerQuarantine_sends _ _ _ _ _).andThen
              fun memory => failWorkerSession_sends _ _ _ _
          · rename_i identity
            rw [not_or, not_not, not_not] at identity
            have pushes : PushesTelemetry
                (trackOffset event.val.replaySessionId record.tp record.offset memory) event.val
                (pushTelemetry settings stamp event.val
                  (trackOffset event.val.replaySessionId record.tp record.offset memory)) :=
              pushTelemetry_pushes keyed
            refine handles_of_tracked keyed decoded (fun _ => unblocked) pushes.within
              pushes.scored (pushes.commits.imp id ?_)
            rintro ⟨-, term, offsets, tracks, commits, completes⟩
            refine ⟨?_, offsets, tracks, commits, fun nothing => completes fun entry held done => ?_⟩
            · unfold completedBy
              rw [carries]
              exact if_pos ⟨unblocked, alive, identity.1, identity.2, term⟩
            · have since := nothing entry held done
              rw [carries] at since
              exact since

end Telemetry

/-! Statuses. -/

section Status

variable [Uuid5] {status : ReplayStatusV1}

/-- What the end of the status handler does. -/
theorem handleTerminal_cases (settings : WorkerSettings) (stamp : HandlerStamp F)
    (memory : WorkerMemory F) (status : ReplayStatusV1) :
    memory.Within status.replaySessionId (handleTerminal settings stamp status memory).memory ∧
      ((handleTerminal settings stamp status memory).returned = .ok () →
        AllScored (handleTerminal settings stamp status memory).actions) ∧
      (commitsOf (handleTerminal settings stamp status memory).actions = [] ∨
        status.replaySessionId ∉ memory.failedSessions ∧
        (∃ last ∈ status.lastSequence,
          last ≤ (memory.lastSequence.get? status.replaySessionId).getD 0) ∧
        ∃ offsets, memory.sessionOffsets.get? status.replaySessionId = some offsets ∧
          (handleTerminal settings stamp status memory).Commits offsets.rows ∧
          ((∀ entry ∈ memory.builders.get? status.replaySessionId,
            entry.2.isComplete = true → entry.2.Flushed) →
            (handleTerminal settings stamp status memory).memory.Complete
              status.replaySessionId)) := by
  set seen : WorkerMemory F := { memory with
    terminalStatus := memory.terminalStatus.set status.replaySessionId status }
  have within : memory.Within status.replaySessionId seen := by
    refine ⟨rfl, rfl, fun _ mem => mem, fun _ _ => rfl,
      fun τ other => Lib.Table.get?_set_ne other, fun _ _ => rfl, fun keyed τ term held => ?_⟩
    by_cases mine : τ = status.replaySessionId
    · subst mine
      have held : seen.terminalStatus.get? status.replaySessionId = some term := held
      rw [Lib.Table.get?_set_self] at held
      obtain rfl := Option.some.inj held
      rfl
    · have held : seen.terminalStatus.get? τ = some term := held
      rw [Lib.Table.get?_set_ne mine] at held
      exact keyed τ term held
  unfold handleTerminal
  dsimp only
  split
  · rename_i reached
    have spec : Completes status seen (completeSession settings stamp status seen) :=
      completeSession_completes
    refine ⟨within.trans spec.within, spec.scored, spec.commits.imp id ?_⟩
    rintro ⟨alive, offsets, tracks, commits, terminal, sequence, flush⟩
    refine ⟨alive, reached, offsets, tracks, commits, fun flushed => ⟨?_, flush flushed⟩⟩
    obtain ⟨last, named, below⟩ := reached
    rw [terminal, sequence]
    exact ⟨status, Lib.Table.get?_set_self _ _ _, last, named, below⟩
  · exact ⟨within, fun _ => allScored_nil, .inl rfl⟩

theorem handleStatusRecord_handles (keyed : memory.Keyed)
    {value : Except String (Checked ReplayStatusV1)} (carries : record.value = .status value) :
    Handles settings memory record (handleStatusRecord settings stamp record value memory) := by
  have topic : record.topic = .replayStatus := by
    unfold WorkerRecord.topic
    rw [carries]
  have tp : (⟨.replayStatus, record.partition⟩ : TopicPartition) = record.tp := by
    unfold WorkerRecord.tp
    rw [topic]
  unfold handleStatusRecord
  dsimp only
  rw [tp]
  cases value with
  | error detail => exact quarantined_handles keyed _ _
  | ok status =>
      have decoded : record.session = some status.val.replaySessionId := by
        unfold WorkerRecord.session
        rw [carries]
      have other : record.topic = .telemetry → record.tp ∉ memory.blockedPartitions := by
        rw [topic]
        exact nofun
      dsimp only
      split
      · refine (done_sends memory).handles keyed fun none => ?_
        cases decoded.symm.trans none
      · rename_i foreign
        set seen := trackOffset status.val.replaySessionId record.tp record.offset memory
        have quiet : ∀ memory' : WorkerMemory F,
            seen.Within status.val.replaySessionId memory' →
              Handles settings memory record (.done memory') := fun memory' within =>
          handles_of_tracked keyed decoded other within (fun _ => allScored_nil) (.inl rfl)
        have terminal : (status.val.state = .completed ∨ status.val.state = .stopped) →
            Handles settings memory record (handleTerminal settings stamp status.val seen) := by
          intro closes
          obtain ⟨within, scored, commits⟩ := handleTerminal_cases settings stamp seen status.val
          refine handles_of_tracked keyed decoded other within scored (commits.imp id ?_)
          rintro ⟨alive, reached, offsets, tracks, commits, completes⟩
          refine ⟨?_, offsets, tracks, commits, fun nothing => completes fun entry held done => ?_⟩
          · unfold completedBy
            rw [carries]
            exact if_pos ⟨foreign, alive, closes, reached⟩
          · exact (nothing entry held done).1
        split
        · refine quiet _ ⟨rfl, rfl, fun _ mem => List.mem_insert_of_mem mem, fun _ _ => rfl,
            fun _ _ => rfl, fun _ _ => rfl, id⟩
        · rename_i completed
          exact terminal (.inl completed)
        · rename_i stopped
          exact terminal (.inr stopped)
        · exact quiet _ (.refl _ _)

end Status

theorem handleRecord_handles [Uuid5] [Sha256Digest] (keyed : memory.Keyed) :
    Handles settings memory record (handleRecord settings stamp record memory) := by
  unfold handleRecord
  split
  · rename_i value carries
    exact handleTelemetryRecord_handles keyed carries
  · rename_i value carries
    exact handleStatusRecord_handles keyed carries

end Handlers

end IndustrialReliability
