import IndustrialReliability.Worker.Records

/-!
What a process recalls of the sessions.

`Recalls` is the agreement of the memory of a process with the records that it has read: its
blocked partitions, its failed sessions and, for a session that has not failed, the status
and the sequence number seen last, the offsets to commit and the state of its builder.
Every handler that returns keeps it (`Recalls.handled`).
-/

namespace IndustrialReliability

variable {F : Type}

/-- What the memory of a process holds of a session that has not failed. -/
structure RecallsSession [PyFloat F] (settings : WorkerSettings) (heard : List (WorkerRecord F)) (session : UUID)
    (memory : WorkerMemory F) : Prop where
  terminal : memory.terminalStatus.get? session = lastTerminal heard session
  sequence : memory.lastSequence.get? session = lastSequenceOf heard session
  tracked : ∀ tp, memory.tracked session tp = (lastOffsetOf heard session tp).map (· + 1)
  noBuilder : memory.builders.get? session = none ↔ lastSequenceOf heard session = none
  builder : ∀ entry ∈ memory.builders.get? session,
    entry.2.lastSequence = lastSequenceOf heard session ∧
    (entry.2.isComplete = true ↔ Ended settings heard session) ∧
    (Ended settings heard session → ¬ Reopened settings heard session → entry.2.Flushed)

/-- The memory of a process that has read these records, and drawn these ids. -/
structure Recalls [PyFloat F] (settings : WorkerSettings) (heard : List (WorkerRecord F)) (drawn : List UUID)
    (memory : WorkerMemory F) : Prop where
  keyed : memory.Keyed
  blocked : ∀ tp, tp ∈ memory.blockedPartitions ↔ Blocked heard tp
  failed : ∀ session, session ∈ memory.failedSessions ↔ FailedBy settings heard session
  own : ∀ id ∈ memory.selfEmittedStatusIds, id ∈ drawn
  session : ∀ session, ¬ FailedBy settings heard session → RecallsSession settings heard session memory

section Knowing

variable [PyFloat F] {settings : WorkerSettings} {heard : List (WorkerRecord F)} {drawn : List UUID}
  {memory memory' : WorkerMemory F} {record : WorkerRecord F} {session τ : UUID} {stamp : HandlerStamp F}

theorem Recalls.session_of_alive (recalls : Recalls settings heard drawn memory)
    (alive : ¬ FailedBy settings (record :: heard) session) : RecallsSession settings heard session memory :=
  recalls.session session fun failed => alive (failedBy_cons.mpr (.inr failed))

/-- A session that has not failed, and does not with the record. -/
theorem Recalls.alive (recalls : Recalls settings heard drawn memory) (fine : ¬ record.Fails settings session)
    (alive : session ∉ memory.failedSessions) : ¬ FailedBy settings (record :: heard) session := by
  rw [failedBy_cons, not_or, ← recalls.failed]
  exact ⟨fine, alive⟩

theorem recalls_empty : Recalls settings ([] : List (WorkerRecord F)) drawn .empty where
  keyed := nofun
  blocked _ := ⟨nofun, nofun⟩
  failed _ := ⟨nofun, nofun⟩
  own := nofun
  session _ _ := ⟨rfl, rfl, fun _ => rfl, ⟨fun _ => rfl, fun _ => rfl⟩, nofun⟩

/-- The entries of a session are the same in both memories. -/
structure WorkerMemory.SameSession (session : UUID) (memory memory' : WorkerMemory F) : Prop where
  terminal : memory'.terminalStatus.get? session = memory.terminalStatus.get? session
  sequence : memory'.lastSequence.get? session = memory.lastSequence.get? session
  tracked : memory'.tracked session = memory.tracked session
  builders : memory'.builders.get? session = memory.builders.get? session

/-- A record says nothing of the other sessions. -/
theorem RecallsSession.cons_of_ne (recalls : RecallsSession settings heard τ memory)
    (other : record.session ≠ some τ) (same : memory.SameSession τ memory') :
    RecallsSession settings (record :: heard) τ memory' := by
  have sequence : lastSequenceOf (record :: heard) τ = lastSequenceOf heard τ := by
    rw [lastSequenceOf_cons, WorkerRecord.sequenceOf_eq_none other]
    rfl
  have terminal : lastTerminal (record :: heard) τ = lastTerminal heard τ := by
    rw [lastTerminal_cons, WorkerRecord.terminalOf_eq_none other]
    rfl
  have reopened : Reopened settings (record :: heard) τ ↔ Reopened settings heard τ :=
    reopened_cons_of_silent (WorkerRecord.sequenceOf_eq_none other)
  constructor
  · rw [same.terminal, terminal, recalls.terminal]
  · rw [same.sequence, sequence, recalls.sequence]
  · intro tp
    rw [same.tracked, lastOffsetOf_cons, if_neg fun here => other here.1]
    exact recalls.tracked tp
  · rw [same.builders, sequence]
    exact recalls.noBuilder
  · rw [same.builders, sequence, ended_cons_of_ne other, reopened]
    exact recalls.builder

omit [PyFloat F] in
theorem WorkerMemory.Within.sameSession (within : memory.Within session memory') (other : τ ≠ session) :
    memory.SameSession τ memory' where
  terminal := within.terminal τ other
  sequence := within.sequence τ other
  tracked := WorkerMemory.tracked_congr within.offsets τ
  builders := within.builders τ other

/-- The memory behind a record, from the memory before it. -/
theorem Recalls.cons (recalls : Recalls settings heard drawn memory) (keyed : memory'.Keyed)
    (blocked : ∀ tp, tp ∈ memory'.blockedPartitions ↔
      (record.session = none ∧ record.tp = tp) ∨ tp ∈ memory.blockedPartitions)
    (failed : ∀ τ, τ ∈ memory'.failedSessions ↔ record.Fails settings τ ∨ τ ∈ memory.failedSessions)
    (own : ∀ id ∈ memory'.selfEmittedStatusIds, id = stamp.statusId ∨ id ∈ memory.selfEmittedStatusIds)
    (others : ∀ τ, record.session ≠ some τ → memory.SameSession τ memory')
    (mine : ∀ τ, record.session = some τ → ¬ FailedBy settings (record :: heard) τ →
      RecallsSession settings (record :: heard) τ memory') :
    Recalls settings (record :: heard) (stamp.statusId :: drawn) memory' where
  keyed := keyed
  blocked tp := by
    rw [blocked, recalls.blocked, blocked_cons]
  failed τ := by rw [failed, recalls.failed, failedBy_cons]
  own id mem := by
    rcases own id mem with rfl | before
    · exact List.mem_cons_self
    · exact List.mem_cons_of_mem _ (recalls.own id before)
  session τ alive := by
    by_cases about : record.session = some τ
    · exact mine τ about alive
    · rw [failedBy_cons_of_ne about] at alive
      exact (recalls.session τ alive).cons_of_ne about (others τ about)

/-- A record that decodes blocks nothing. -/
theorem blocks_iff_of_decoded (decoded : record.session = some session) (tp : TopicPartition) (p : Prop) :
    (record.session = none ∧ record.tp = tp) ∨ p ↔ p :=
  or_iff_right fun silent => by cases silent.1.symm.trans decoded

/-! ### The end of a session -/

namespace OnlineFeatureBuilder

variable [Uuid5] {config : BuilderConfig} {builder next : OnlineFeatureBuilder F} {emittedAt : Instant}

theorem finalizeCurrentBin_lastSequence {emitted : List (FeatureVectorV1 F)}
    (returned : builder.finalizeCurrentBin config emittedAt = .ok (next, emitted)) :
    next.lastSequence = builder.lastSequence := by
  unfold finalizeCurrentBin at returned
  split at returned
  · cases returned
    rfl
  · split at returned
    · dsimp only at returned
      generalize (if config.lookbackBins < _ then _ else _) = buffer at returned
      split at returned
      · obtain ⟨vector, -, same⟩ := Lib.bind_eq_ok_iff.mp returned
        obtain ⟨rfl, -⟩ := Prod.mk.inj (Lib.pure_eq_ok_iff.mp same)
        rfl
      · obtain ⟨rfl, -⟩ := Prod.mk.inj (Lib.pure_eq_ok_iff.mp returned)
        rfl
    · cases returned
      rfl

theorem complete_lastSequence {result : BuilderResult F} {sourceTimestamp : Int}
    (returned : builder.complete config emittedAt sourceTimestamp = .ok (next, result)) :
    next.lastSequence = builder.lastSequence := by
  unfold complete at returned
  split at returned
  · cases returned
  · obtain ⟨⟨closed, emitted⟩, finalised, same⟩ := Lib.bind_eq_ok_iff.mp returned
    obtain ⟨rfl, -⟩ := Prod.mk.inj (Lib.pure_eq_ok_iff.mp same)
    have kept : closed.lastSequence = builder.lastSequence := finalizeCurrentBin_lastSequence finalised
    exact kept

/-- The sequence number seen last is that of the event that has been pushed. -/
theorem push_lastSequence [Sha256Digest] {event : TelemetryEventV1 F} {result : BuilderResult F}
    (returned : builder.push config emittedAt event = .ok (next, result)) :
    next.lastSequence = some event.sequence := by
  unfold push at returned
  dsimp only at returned
  split at returned
  · rename_i checked
    cases returned
    unfold checkSequenceAndOrdering at checked
    split at checked
    · rename_i same
      split at checked <;> cases checked <;> exact same
    · split at checked
      · cases checked
      · split at checked <;> cases checked
  · obtain ⟨⟨crossed, emitted, reason⟩, boundary, same⟩ := Lib.bind_eq_ok_iff.mp returned
    obtain ⟨rfl, -⟩ := Prod.mk.inj (Lib.pure_eq_ok_iff.mp same)
    rfl

end OnlineFeatureBuilder

/-- What a completion that returns leaves: the builder of the session is completed, and
flushed unless it was completed before. -/
structure Finished (session : UUID) (memory memory' : WorkerMemory F) : Prop where
  same : memory' = { memory with builders := memory'.builders }
  others : ∀ τ, τ ≠ session → memory'.builders.get? τ = memory.builders.get? τ
  noBuilder : memory'.builders.get? session = none ↔ memory.builders.get? session = none
  builder : ∀ entry' ∈ memory'.builders.get? session, ∃ entry ∈ memory.builders.get? session,
    entry'.2.isComplete = true ∧ entry'.2.lastSequence = entry.2.lastSequence ∧
      ((entry.2.isComplete = true → entry.2.Flushed) → entry'.2.Flushed)

theorem finaliseBuilder_finished [Uuid5] {status : ReplayStatusV1}
    (ok : (finaliseBuilder settings stamp status memory).returned = .ok ()) :
    Finished status.replaySessionId memory (finaliseBuilder settings stamp status memory).memory := by
  unfold finaliseBuilder at ok ⊢
  split at ok
  · rename_i absent
    exact ⟨rfl, fun _ _ => rfl, .rfl, fun entry held => by cases absent.symm.trans held⟩
  · rename_i config builder present
    split at ok
    · rename_i complete
      rw [if_pos complete]
      refine ⟨rfl, fun _ _ => rfl, .rfl, fun entry held => ?_⟩
      obtain rfl := Option.some.inj (present.symm.trans held)
      exact ⟨_, present, complete, rfl, fun flushed => flushed complete⟩
    · rename_i incomplete
      rw [if_neg incomplete]
      split at ok
      · cases ok
      · rename_i completed result returned
        obtain ⟨complete, flushed⟩ := OnlineFeatureBuilder.complete_flushed returned
        have sequence := OnlineFeatureBuilder.complete_lastSequence returned
        set completing : WorkerMemory F := { memory with
          builders := memory.builders.set status.replaySessionId (config, completed) }
        have emits : ((Handled.acts (.finalised status.replaySessionId result) completing).andThen
            (processFeatures settings stamp result.features)).Emits completing :=
          processFeatures_emits rfl rfl
        rw [(emits.scored ok).1]
        refine ⟨rfl, fun τ other => Lib.Table.get?_set_ne other, ?_, fun entry held => ?_⟩
        · rw [Lib.Table.get?_set_self, present]
          exact ⟨nofun, nofun⟩
        · have held : completing.builders.get? status.replaySessionId = some entry := held
          rw [Lib.Table.get?_set_self] at held
          obtain rfl := Option.some.inj held
          exact ⟨_, present, complete, sequence, fun _ => flushed⟩

theorem completeSession_finished [Uuid5] {status : ReplayStatusV1}
    (alive : status.replaySessionId ∉ memory.failedSessions)
    (ok : (completeSession settings stamp status memory).returned = .ok ()) :
    Finished status.replaySessionId memory (completeSession settings stamp status memory).memory := by
  unfold completeSession at ok ⊢
  rw [if_neg alive] at ok ⊢
  obtain ⟨first, -⟩ := Handled.andThen_returned ok
  rw [Handled.andThen_of_ok first]
  dsimp only
  rw [(commitSession_cases _ _).1]
  exact finaliseBuilder_finished first

/-- What the memory holds of the session of a record before the record ends it, if it
does. -/
structure BeforeEnd (settings : WorkerSettings) (heard : List (WorkerRecord F)) (record : WorkerRecord F)
    (session : UUID) (memory : WorkerMemory F) : Prop where
  terminal : memory.terminalStatus.get? session = lastTerminal (record :: heard) session
  sequence : memory.lastSequence.get? session = lastSequenceOf (record :: heard) session
  tracked : ∀ tp, memory.tracked session tp = (lastOffsetOf (record :: heard) session tp).map (· + 1)
  noBuilder : memory.builders.get? session = none ↔ lastSequenceOf (record :: heard) session = none
  builder : ∀ entry ∈ memory.builders.get? session,
    entry.2.lastSequence = lastSequenceOf (record :: heard) session ∧
    (entry.2.isComplete = true ↔ Ended settings heard session) ∧
    (Ended settings heard session → ¬ Reopened settings (record :: heard) session → entry.2.Flushed)

theorem BeforeEnd.stays (before : BeforeEnd settings heard record session memory)
    (stays : ¬ Ends settings heard record session) :
    RecallsSession settings (record :: heard) session memory := by
  have ended : Ended settings (record :: heard) session ↔ Ended settings heard session :=
    or_iff_right fun here => stays here.1
  refine ⟨before.terminal, before.sequence, before.tracked, before.noBuilder, ?_⟩
  rw [ended]
  exact before.builder

theorem BeforeEnd.ends (before : BeforeEnd settings heard record session memory)
    (ends : Ends settings heard record session) (finished : Finished session memory memory') :
    RecallsSession settings (record :: heard) session memory' := by
  have same := finished.same
  constructor
  · rw [same]
    exact before.terminal
  · rw [same]
    exact before.sequence
  · rw [same]
    exact before.tracked
  · rw [finished.noBuilder]
    exact before.noBuilder
  · intro entry' held'
    obtain ⟨entry, held, complete, sequence, flushed⟩ := finished.builder entry' held'
    obtain ⟨last, completed, kept⟩ := before.builder entry held
    have some : lastSequenceOf (record :: heard) session ≠ none := by
      intro none
      rw [before.noBuilder.mpr none] at held
      cases held
    refine ⟨sequence.trans last, ⟨fun _ => .inl ⟨ends, some⟩, fun _ => complete⟩, fun _ closed => ?_⟩
    exact flushed fun before => kept (completed.mp before) closed

/-! ### Records of telemetry -/

theorem WorkerRecord.fails_of_event {event : TelemetryEventV1 F} (held : record.event? = some event) :
    record.Fails settings τ ↔ event.replaySessionId = τ ∧
      (event.sourceDatasetSha256 ≠ settings.sourceDatasetSha256 ∨
        event.contractSha256 ≠ settings.contractSha256) := by
  unfold WorkerRecord.Fails
  rw [held, (WorkerRecord.session_of_event held).2.2]
  simp

theorem WorkerRecord.fails_of_status {status : ReplayStatusV1} (held : record.status? = some status) :
    record.Fails settings τ ↔ status.replaySessionId = τ ∧ status.state = .failed := by
  unfold WorkerRecord.Fails
  rw [held, (WorkerRecord.session_of_status held).2.2]
  simp

/-- A status that closes its session does not fail it. -/
theorem WorkerRecord.not_fails_of_closes {status : ReplayStatusV1} (held : record.status? = some status)
    (closes : status.state = .completed ∨ status.state = .stopped) : ¬ record.Fails settings τ := by
  rw [WorkerRecord.fails_of_status held]
  rintro ⟨-, failed⟩
  rw [failed] at closes
  rcases closes with closes | closes <;> cases closes

theorem WorkerRecord.not_fails_of_silent (silent : record.session = none) : ¬ record.Fails settings τ :=
  fun fails => by cases silent.symm.trans (WorkerRecord.session_of_fails fails)

theorem Recalls.draw (recalls : Recalls settings heard drawn memory) (id : UUID) :
    Recalls settings heard (id :: drawn) memory where
  keyed := recalls.keyed
  blocked := recalls.blocked
  failed := recalls.failed
  own id mem := List.mem_cons_of_mem _ (recalls.own id mem)
  session := recalls.session

omit [PyFloat F] in
theorem WorkerMemory.SameSession.refl (session : UUID) (memory : WorkerMemory F) :
    memory.SameSession session memory := ⟨rfl, rfl, rfl, rfl⟩

omit [PyFloat F] in
theorem failWorkerSession_memory (errorCode : String) (lastSeq sourceTs : Int) :
    (failWorkerSession settings stamp session errorCode lastSeq sourceTs memory).memory = { memory with
      failedSessions := memory.failedSessions.insert session
      selfEmittedStatusIds := memory.selfEmittedStatusIds.insert stamp.statusId } := by
  unfold failWorkerSession
  dsimp only
  split <;> rfl

/-- A record that does not decode blocks its partition, and that is all. -/
theorem Recalls.quarantined (recalls : Recalls settings heard drawn memory) (silent : record.session = none) :
    Recalls settings (record :: heard) (stamp.statusId :: drawn)
      { memory with blockedPartitions := memory.blockedPartitions.insert record.tp } := by
  refine recalls.cons recalls.keyed (fun tp => ?_) (fun τ => ?_) (fun id mem => .inr mem)
    (fun τ _ => ⟨rfl, rfl, rfl, rfl⟩) (fun τ about => ?_)
  · dsimp only
    rw [List.mem_insert_iff, and_iff_right silent, eq_comm]
  · exact (or_iff_right (WorkerRecord.not_fails_of_silent silent)).symm
  · cases silent.symm.trans about

/-- A record of a session that has failed before. -/
theorem Recalls.ignored (recalls : Recalls settings heard drawn memory) (decoded : record.session = some session)
    (failed : session ∈ memory.failedSessions) :
    Recalls settings (record :: heard) (stamp.statusId :: drawn) memory := by
  refine recalls.cons recalls.keyed (fun tp => ?_) (fun τ => ?_) (fun id mem => .inr mem)
    (fun τ _ => .refl τ memory) (fun τ about alive => ?_)
  · exact (blocks_iff_of_decoded decoded tp _).symm
  · refine (or_iff_right_of_imp fun fails => ?_).symm
    obtain rfl := Option.some.inj (decoded.symm.trans (WorkerRecord.session_of_fails fails))
    exact failed
  · obtain rfl := Option.some.inj (decoded.symm.trans about)
    exact absurd (failedBy_cons.mpr (.inr ((recalls.failed _).mp failed))) alive

/-- A record that makes its session fail. -/
theorem Recalls.fails (recalls : Recalls settings heard drawn memory) (decoded : record.session = some session)
    (fails : record.Fails settings session) (keyed : memory'.Keyed)
    (blocked : memory'.blockedPartitions = memory.blockedPartitions)
    (failed : memory'.failedSessions = memory.failedSessions.insert session)
    (own : ∀ id ∈ memory'.selfEmittedStatusIds, id = stamp.statusId ∨ id ∈ memory.selfEmittedStatusIds)
    (others : ∀ τ, τ ≠ session → memory.SameSession τ memory') :
    Recalls settings (record :: heard) (stamp.statusId :: drawn) memory' := by
  refine recalls.cons keyed (fun tp => ?_) (fun τ => ?_) own (fun τ other => others τ ?_)
    (fun τ about alive => ?_)
  · rw [blocked]
    exact (blocks_iff_of_decoded decoded tp _).symm
  · rw [failed, List.mem_insert_iff]
    refine or_congr_left ⟨fun same => same ▸ fails, fun fails => ?_⟩
    exact (Option.some.inj (decoded.symm.trans (WorkerRecord.session_of_fails fails))).symm
  · rintro rfl
    exact other decoded
  · obtain rfl := Option.some.inj (decoded.symm.trans about)
    exact absurd (failedBy_cons.mpr (.inl fails)) alive

/-- A record that goes to its session: nothing else changes. -/
theorem Recalls.goes (recalls : Recalls settings heard drawn memory) (decoded : record.session = some session)
    (fine : ¬ record.Fails settings session)
    (within : (trackOffset session record.tp record.offset memory).Within session memory')
    (failed : memory'.failedSessions = memory.failedSessions)
    (own : memory'.selfEmittedStatusIds = memory.selfEmittedStatusIds)
    (mine : ¬ FailedBy settings (record :: heard) session →
      RecallsSession settings (record :: heard) session memory') :
    Recalls settings (record :: heard) (stamp.statusId :: drawn) memory' := by
  refine recalls.cons (within.keyed recalls.keyed) (fun tp => ?_) (fun τ => ?_) (fun id mem => .inr (own ▸ mem))
    (fun τ other => ?_) (fun τ about => ?_)
  · rw [within.blocked]
    exact (blocks_iff_of_decoded decoded tp _).symm
  · rw [failed]
    refine (or_iff_right fun fails => ?_).symm
    obtain rfl := Option.some.inj (decoded.symm.trans (WorkerRecord.session_of_fails fails))
    exact fine fails
  · have other : τ ≠ session := fun same => other (same ▸ decoded)
    refine ⟨within.terminal τ other, within.sequence τ other, ?_, within.builders τ other⟩
    rw [WorkerMemory.tracked_congr within.offsets, WorkerMemory.tracked_trackOffset_ne other]
  · obtain rfl := Option.some.inj (decoded.symm.trans about)
    exact mine

/-- The offset of the record is tracked for its session. -/
theorem RecallsSession.tracked_trackOffset (recalls : RecallsSession settings heard session memory)
    (decoded : record.session = some session) (tp : TopicPartition) :
    (trackOffset session record.tp record.offset memory).tracked session tp =
      (lastOffsetOf (record :: heard) session tp).map (· + 1) := by
  rw [lastOffsetOf_cons]
  by_cases here : record.tp = tp
  · subst here
    rw [if_pos ⟨decoded, rfl⟩]
    exact WorkerMemory.tracked_trackOffset_self record.offset
  · rw [if_neg fun both => here both.2, ← recalls.tracked]
    simp [WorkerMemory.tracked, trackOffset, Lib.Table.get?_set_ne (Ne.symm here)]

section Telemetry

variable {event : TelemetryEventV1 F}

theorem sequenceOf_event (held : record.event? = some event) :
    record.sequenceOf event.replaySessionId = some event.sequence := by
  unfold WorkerRecord.sequenceOf
  rw [held]
  simp

theorem terminalOf_event (held : record.event? = some event) : record.terminalOf τ = none := by
  unfold WorkerRecord.terminalOf
  rw [(WorkerRecord.session_of_event held).2.2]
  rfl

/-- By the records, an event of a session that has not failed ends it at the barrier. -/
theorem ends_event_iff (held : record.event? = some event)
    (alive : ¬ FailedBy settings (record :: heard) event.replaySessionId) :
    Ends settings heard record event.replaySessionId ↔
      ∃ term ∈ lastTerminal heard event.replaySessionId,
        term.state = .completed ∧ term.lastSequence = some event.sequence := by
  unfold Ends
  rw [sequenceOf_event held, terminalOf_event held]
  simp [alive]

variable [Uuid5] [Sha256Digest]

/-- The event is in the builder of its session. -/
theorem RecallsSession.pushed (recalls : RecallsSession settings heard event.replaySessionId memory)
    (held : record.event? = some event) {config : BuilderConfig} {builder next : OnlineFeatureBuilder F}
    {result : BuilderResult F}
    (found : builderOf settings event memory = (config, builder))
    (pushed : builder.push config stamp.pushedAt event = .ok (next, result)) :
    BeforeEnd settings heard record event.replaySessionId
      { trackOffset event.replaySessionId record.tp record.offset memory with
        builders := memory.builders.set event.replaySessionId (config, next)
        lastSequence := memory.lastSequence.set event.replaySessionId event.sequence } := by
  have sequence : lastSequenceOf (record :: heard) event.replaySessionId = some event.sequence := by
    rw [lastSequenceOf_cons, sequenceOf_event held]
    rfl
  have terminal : lastTerminal (record :: heard) event.replaySessionId =
      lastTerminal heard event.replaySessionId := by
    rw [lastTerminal_cons, terminalOf_event held]
    rfl
  constructor
  · rw [terminal]
    exact recalls.terminal
  · rw [sequence]
    exact Lib.Table.get?_set_self _ _ _
  · exact recalls.tracked_trackOffset (WorkerRecord.session_of_event held).1
  · rw [sequence]
    dsimp only
    rw [Lib.Table.get?_set_self]
    exact ⟨nofun, nofun⟩
  · intro entry here
    dsimp only at here
    rw [Lib.Table.get?_set_self] at here
    obtain rfl := Option.some.inj here
    dsimp only
    rw [sequence, OnlineFeatureBuilder.push_isComplete pushed]
    refine ⟨OnlineFeatureBuilder.push_lastSequence pushed, ?_⟩
    unfold builderOf at found
    cases old : memory.builders.get? event.replaySessionId with
    | none =>
        rw [old] at found
        obtain ⟨-, rfl⟩ := Prod.mk.inj found
        have none := recalls.noBuilder.mp old
        have unended : ¬ Ended settings heard event.replaySessionId :=
          fun ended => lastSequenceOf_of_ended ended none
        exact ⟨⟨nofun, fun ended => absurd ended unended⟩, fun ended => absurd ended unended⟩
    | some entry =>
        rw [old] at found
        obtain rfl : entry = (config, builder) := found
        obtain ⟨last, completed, kept⟩ := recalls.builder _ old
        refine ⟨completed, fun ended closed => ?_⟩
        have same : lastSequenceOf heard event.replaySessionId = some event.sequence := by
          by_contra other
          exact closed (.inl ⟨ended, _, sequenceOf_event held, other⟩)
        exact OnlineFeatureBuilder.push_same_flushed pushed (last.trans same)
          (kept ended fun before => closed (.inr before))

theorem pushTelemetry_recalls (recalls : Recalls settings heard drawn memory) (held : record.event? = some event)
    (fine : ¬ record.Fails settings event.replaySessionId)
    (alive : event.replaySessionId ∉ memory.failedSessions)
    (ok : (pushTelemetry settings stamp event
      (trackOffset event.replaySessionId record.tp record.offset memory)).returned = .ok ()) :
    Recalls settings (record :: heard) (stamp.statusId :: drawn) (pushTelemetry settings stamp event
      (trackOffset event.replaySessionId record.tp record.offset memory)).memory := by
  have pushes : PushesTelemetry (trackOffset event.replaySessionId record.tp record.offset memory) event
      (pushTelemetry settings stamp event
        (trackOffset event.replaySessionId record.tp record.offset memory)) :=
    pushTelemetry_pushes recalls.keyed
  have within := pushes.within
  have decoded := (WorkerRecord.session_of_event held).1
  have alive' := recalls.alive fine alive
  have known := recalls.session_of_alive alive'
  revert ok within
  unfold pushTelemetry
  cases found : builderOf settings event (trackOffset event.replaySessionId record.tp record.offset memory) with
  | mk config builder =>
  dsimp only
  cases pushed : builder.push config stamp.pushedAt event with
  | error error =>
      intro ok
      cases ok
  | ok returned =>
      obtain ⟨next, result⟩ := returned
      dsimp only
      set tracked := trackOffset event.replaySessionId record.tp record.offset memory
      set seen : WorkerMemory F := { tracked with
        builders := tracked.builders.set event.replaySessionId (config, next)
        lastSequence := tracked.lastSequence.set event.replaySessionId event.sequence }
      have before : BeforeEnd settings heard record event.replaySessionId seen := known.pushed held found pushed
      have emits : ((Handled.acts (.pushed event result) seen).andThen
          (processFeatures settings stamp result.features)).Emits seen :=
        processFeatures_emits rfl rfl
      intro ok within
      obtain ⟨sent, -⟩ := Handled.andThen_returned ok
      obtain ⟨kept, -⟩ := emits.scored sent
      rw [Handled.andThen_of_ok sent, kept] at ok within ⊢
      dsimp only at ok within ⊢
      have keyed : seen.Keyed := recalls.keyed
      have term : seen.terminalStatus.get? event.replaySessionId =
          lastTerminal heard event.replaySessionId := known.terminal
      rcases checkBarrier_cases settings stamp event rfl keyed with
        ⟨short, same⟩ | ⟨status, named, reached, mine, same⟩
      · rw [same] at within ⊢
        refine recalls.goes decoded fine within rfl rfl fun _ => before.stays ?_
        rwa [ends_event_iff held alive', ← term]
      · rw [same] at ok within ⊢
        rw [← mine] at alive
        have finished : Finished status.replaySessionId seen
            (completeSession settings stamp status seen).memory := completeSession_finished alive ok
        rw [mine] at finished
        have left := finished.same
        refine recalls.goes decoded fine within ?_ ?_ fun _ => before.ends ?_ finished
        · rw [left]
          rfl
        · rw [left]
          rfl
        · rw [ends_event_iff held alive', ← term]
          exact ⟨status, named, reached⟩

theorem handleTelemetryRecord_recalls (recalls : Recalls settings heard drawn memory)
    {value : Except String (Checked (TelemetryEventV1 F))} (carries : record.value = .telemetry value)
    (ok : (handleTelemetryRecord settings stamp record value memory).returned = .ok ()) :
    Recalls settings (hear heard record) (stamp.statusId :: drawn)
      (handleTelemetryRecord settings stamp record value memory).memory := by
  have topic : record.topic = .telemetry := by
    unfold WorkerRecord.topic
    rw [carries]
  have tp : (⟨.telemetry, record.partition⟩ : TopicPartition) = record.tp := by
    unfold WorkerRecord.tp
    rw [topic]
  unfold handleTelemetryRecord at ok ⊢
  dsimp only at ok ⊢
  rw [tp] at ok ⊢
  unfold hear
  by_cases blocked : record.tp ∈ memory.blockedPartitions
  · rw [if_pos blocked, if_pos ⟨topic, (recalls.blocked _).mp blocked⟩]
    exact recalls.draw _
  · rw [if_neg fun unheard : Unheard heard record => blocked ((recalls.blocked _).mpr unheard.2)]
    rw [if_neg blocked] at ok ⊢
    cases value with
    | error detail =>
        refine recalls.quarantined ?_
        unfold WorkerRecord.session
        rw [carries]
    | ok event =>
        have held := WorkerRecord.event?_eq_some carries
        have decoded := (WorkerRecord.session_of_event held).1
        have fails : record.Fails settings event.val.replaySessionId ↔ _ :=
          WorkerRecord.fails_of_event held
        dsimp only at ok ⊢
        by_cases failed : event.val.replaySessionId ∈ memory.failedSessions
        · rw [if_pos failed]
          exact recalls.ignored decoded failed
        · rw [if_neg failed] at ok ⊢
          by_cases mismatch : event.val.sourceDatasetSha256 ≠ settings.sourceDatasetSha256 ∨
              event.val.contractSha256 ≠ settings.contractSha256
          · rw [if_pos mismatch, Handled.andThen_of_ok rfl]
            show Recalls settings _ _ (failWorkerSession settings stamp _ _ _ _ memory).memory
            rw [failWorkerSession_memory]
            exact recalls.fails decoded (fails.mpr ⟨rfl, mismatch⟩) recalls.keyed rfl rfl
              (fun id mem => List.mem_insert_iff.mp mem) (fun τ _ => ⟨rfl, rfl, rfl, rfl⟩)
          · rw [if_neg mismatch] at ok ⊢
            exact pushTelemetry_recalls recalls held (fun bad => mismatch (fails.mp bad).2) failed ok

end Telemetry

/-! ### Status records -/

section Status

variable {status : ReplayStatusV1}

theorem sequenceOf_status (held : record.status? = some status) : record.sequenceOf τ = none := by
  unfold WorkerRecord.sequenceOf
  rw [(WorkerRecord.session_of_status held).2.2]
  rfl

theorem terminalOf_status (held : record.status? = some status)
    (closes : status.state = .completed ∨ status.state = .stopped) :
    record.terminalOf status.replaySessionId = some status := by
  unfold WorkerRecord.terminalOf
  rw [held]
  simp [closes]

theorem terminalOf_passing (held : record.status? = some status)
    (passing : ¬ (status.state = .completed ∨ status.state = .stopped)) :
    record.terminalOf τ = none := by
  unfold WorkerRecord.terminalOf
  rw [held, Option.filter_eq_none_iff]
  intro other mem mine
  obtain rfl := Option.some.inj mem
  exact passing (of_decide_eq_true mine).2

theorem ends_status_iff (held : record.status? = some status)
    (closes : status.state = .completed ∨ status.state = .stopped)
    (alive : ¬ FailedBy settings (record :: heard) status.replaySessionId) :
    Ends settings heard record status.replaySessionId ↔
      ∃ last ∈ status.lastSequence, last ≤ (lastSequenceOf heard status.replaySessionId).getD 0 := by
  unfold Ends
  rw [sequenceOf_status held, terminalOf_status held closes]
  simp [alive]

/-- A status is kept if it closes its session, and changes nothing else. -/
theorem RecallsSession.told (recalls : RecallsSession settings heard status.replaySessionId memory)
    (held : record.status? = some status)
    (terminal : memory'.terminalStatus.get? status.replaySessionId =
      lastTerminal (record :: heard) status.replaySessionId)
    (sequence : memory'.lastSequence = memory.lastSequence)
    (offsets : memory'.sessionOffsets =
      (trackOffset status.replaySessionId record.tp record.offset memory).sessionOffsets)
    (builders : memory'.builders = memory.builders) :
    BeforeEnd settings heard record status.replaySessionId memory' := by
  have same : lastSequenceOf (record :: heard) status.replaySessionId =
      lastSequenceOf heard status.replaySessionId := by
    rw [lastSequenceOf_cons, sequenceOf_status held]
    rfl
  constructor
  · exact terminal
  · rw [sequence, same]
    exact recalls.sequence
  · intro tp
    rw [← recalls.tracked_trackOffset (WorkerRecord.session_of_status held).1 tp, WorkerMemory.tracked_congr offsets]
  · rw [builders, same]
    exact recalls.noBuilder
  · rw [builders, same, reopened_cons_of_silent (sequenceOf_status held)]
    exact recalls.builder

variable [Uuid5]

/-- A status that closes its session. -/
theorem handleTerminal_recalls (recalls : Recalls settings heard drawn memory) (held : record.status? = some status)
    (closes : status.state = .completed ∨ status.state = .stopped)
    (ok : (handleTerminal settings stamp status
      (trackOffset status.replaySessionId record.tp record.offset memory)).returned = .ok ()) :
    Recalls settings (record :: heard) (stamp.statusId :: drawn) (handleTerminal settings stamp status
      (trackOffset status.replaySessionId record.tp record.offset memory)).memory := by
  have decoded := (WorkerRecord.session_of_status held).1
  have fine : ¬ record.Fails settings status.replaySessionId := WorkerRecord.not_fails_of_closes held closes
  have within := (handleTerminal_cases settings stamp
    (trackOffset status.replaySessionId record.tp record.offset memory) status).1
  revert ok within
  set tracked := trackOffset status.replaySessionId record.tp record.offset memory
  set seen : WorkerMemory F := { tracked with
    terminalStatus := tracked.terminalStatus.set status.replaySessionId status } with seen_eq
  have terminal : seen.terminalStatus.get? status.replaySessionId =
      lastTerminal (record :: heard) status.replaySessionId := by
    rw [lastTerminal_cons, terminalOf_status held closes]
    exact Lib.Table.get?_set_self _ _ _
  have before : ¬ FailedBy settings (record :: heard) status.replaySessionId →
      BeforeEnd settings heard record status.replaySessionId seen := by
    intro alive
    exact RecallsSession.told (recalls.session_of_alive alive) held terminal rfl rfl rfl
  have barrier (alive : ¬ FailedBy settings (record :: heard) status.replaySessionId) :
      Ends settings heard record status.replaySessionId ↔ ∃ last ∈ status.lastSequence,
        last ≤ (seen.lastSequence.get? status.replaySessionId).getD 0 := by
    rw [ends_status_iff held closes alive]
    have known := recalls.session_of_alive alive
    rw [← known.sequence]
    rfl
  unfold handleTerminal
  dsimp only
  split
  · rename_i reached
    intro ok within
    by_cases failed : status.replaySessionId ∈ memory.failedSessions
    · have quiet : completeSession settings stamp status seen = .done seen := if_pos failed
      rw [quiet] at within ⊢
      exact recalls.goes decoded fine within rfl rfl fun alive =>
        absurd (failedBy_cons.mpr (.inr ((recalls.failed _).mp failed))) alive
    · have finished : Finished status.replaySessionId seen
          (completeSession settings stamp status seen).memory := completeSession_finished failed ok
      have left := finished.same
      refine recalls.goes decoded fine within ?_ ?_ fun alive =>
        (before alive).ends ((barrier alive).mpr reached) finished
      · rw [left]
        rfl
      · rw [left]
        rfl
  · rename_i short
    intro _ within
    exact recalls.goes decoded fine within rfl rfl fun alive =>
      (before alive).stays fun ends => short ((barrier alive).mp ends)

theorem handleStatusRecord_recalls (recalls : Recalls settings heard drawn memory)
    (own : OwnOrForeign settings heard drawn record)
    {value : Except String (Checked ReplayStatusV1)} (carries : record.value = .status value)
    (ok : (handleStatusRecord settings stamp record value memory).returned = .ok ()) :
    Recalls settings (hear heard record) (stamp.statusId :: drawn)
      (handleStatusRecord settings stamp record value memory).memory := by
  have topic : record.topic = .replayStatus := by
    unfold WorkerRecord.topic
    rw [carries]
  have tp : (⟨.replayStatus, record.partition⟩ : TopicPartition) = record.tp := by
    unfold WorkerRecord.tp
    rw [topic]
  have heard' : hear heard record = record :: heard := by
    refine if_neg fun unheard => ?_
    cases topic.symm.trans unheard.1
  unfold handleStatusRecord at ok ⊢
  dsimp only at ok ⊢
  rw [tp] at ok ⊢
  rw [heard']
  cases value with
  | error detail =>
      refine recalls.quarantined ?_
      unfold WorkerRecord.session
      rw [carries]
  | ok status =>
      have held := WorkerRecord.status?_eq_some carries
      have decoded := (WorkerRecord.session_of_status held).1
      dsimp only at ok ⊢
      by_cases mine : status.val.messageId ∈ memory.selfEmittedStatusIds
      · rw [if_pos mine]
        have failed := (own _ held (recalls.own _ mine)).2
        exact recalls.ignored decoded ((recalls.failed _).mpr failed)
      · rw [if_neg mine] at ok ⊢
        have quiet (fine : status.val.state ≠ .failed)
            (passing : ¬ (status.val.state = .completed ∨ status.val.state = .stopped)) :
            Recalls settings (record :: heard) (stamp.statusId :: drawn)
              (trackOffset status.val.replaySessionId record.tp record.offset memory) := by
          refine recalls.goes decoded (fun fails => ?_) (.refl _ _) rfl rfl fun alive => ?_
          · exact fine ((WorkerRecord.fails_of_status held).mp fails).2
          · have known := recalls.session_of_alive alive
            have terminal := terminalOf_passing (τ := status.val.replaySessionId) held passing
            have before : BeforeEnd settings heard record status.val.replaySessionId
                (trackOffset status.val.replaySessionId record.tp record.offset memory) := by
              refine known.told held ?_ rfl rfl rfl
              rw [lastTerminal_cons, terminal]
              exact known.terminal
            refine before.stays fun ends => ?_
            unfold Ends at ends
            rw [sequenceOf_status held, terminal] at ends
            rcases ends.1 with ⟨_, here, -⟩ | ⟨_, here, -⟩ <;> cases here
        split at ok
        · rename_i failed
          exact recalls.fails decoded ((WorkerRecord.fails_of_status held).mpr ⟨rfl, failed⟩) recalls.keyed rfl rfl
            (fun id mem => .inr mem) fun τ other =>
              ⟨rfl, rfl, WorkerMemory.tracked_trackOffset_ne other, rfl⟩
        · rename_i completed
          exact handleTerminal_recalls recalls held (.inl completed) ok
        · rename_i stopped
          exact handleTerminal_recalls recalls held (.inr stopped) ok
        · rename_i notFailed notCompleted notStopped
          exact quiet notFailed (not_or.mpr ⟨notCompleted, notStopped⟩)

end Status

/-- A handler that returns leaves the process knowing what the records say. -/
theorem Recalls.handled [Uuid5] [Sha256Digest] (recalls : Recalls settings heard drawn memory)
    (own : OwnOrForeign settings heard drawn record)
    (ok : (handleRecord settings stamp record memory).returned = .ok ()) :
    Recalls settings (hear heard record) (stamp.statusId :: drawn)
      (handleRecord settings stamp record memory).memory := by
  unfold handleRecord at ok ⊢
  split at ok
  · rename_i value carries
    exact handleTelemetryRecord_recalls recalls carries ok
  · rename_i value carries
    exact handleStatusRecord_recalls recalls own carries ok

end Knowing

end IndustrialReliability
