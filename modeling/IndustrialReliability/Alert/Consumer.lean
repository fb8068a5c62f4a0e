import IndustrialReliability.Alert.Store

/-!
The consumer of score decisions.

`process` handles one record: it quarantines a record that does not decode,
skips one of a failed session, fails the session of one with another identity,
and otherwise loads the alert state, folds the decision in and records the
result. Every call out of the process can raise, with its effect done or not
(`ProcessFault`); the world after the call keeps what was done before.

The coroutine is one step here. It awaits only while it publishes, and what runs
meanwhile (the outbox dispatcher) touches nothing that it reads or writes there.
-/

namespace IndustrialReliability

variable {F : Type}

def SCORES_TOPIC : String := "irp.scores.v1"

/-- The value of a record of the scores topic: the digest of its bytes and what
decoding them returns. -/
structure ScorePayload (F : Type) [PyFloat F] where
  payloadSha256 : Sha256
  value : Except String (Checked (ScoreDecisionV1 F))

structure ScoreRecord (F : Type) [PyFloat F] extends ScorePayload F where
  partition : Nat
  offset : Nat

inductive ProcessOutcome where
  | committed | sessionFailed | quarantined | skipped
deriving DecidableEq, Repr

inductive ProcessError where
  | transition (error : TransitionError)
  | database (error : DatabaseError)
  /-- The database or the broker could not be reached. -/
  | unavailable
deriving DecidableEq, Repr

/-- The call that raises, and whether it took effect first. -/
inductive ProcessFault where
  | quarantineSend (delivered : Bool)
  | statusStore (committed : Bool)
  | statusSend (delivered : Bool)
  | loadState (committed : Bool)
  | recordTransition (committed : Bool)
  | metrics
deriving DecidableEq, Repr

/-- The random ids and clock readings of one call of `process`. -/
structure ProcessStamp where
  messageId : UUID
  emittedAt : Instant
  transition : TransitionStamp
deriving DecidableEq, Repr

structure AlertConsumerConfig (F : Type) where
  policy : LockedAlertPolicyV1 F
  machineId : String

/-- What `process` reads and writes: the database, the topics it publishes to and
the sessions it has failed. -/
structure ConsumerWorld (F : Type) where
  store : RuntimeStore F
  quarantined : List QuarantineRecordV1
  statuses : List ReplayStatusV1
  failedSessions : List UUID
deriving DecidableEq

def ConsumerWorld.empty : ConsumerWorld F := ⟨.empty, [], [], []⟩

/-- The text of an identity mismatch. -/
def mismatchDetail (what expected got : String) : String :=
  what ++ " mismatch: expected " ++ expected ++ ", got " ++ got

/-- `_assert_identity`. -/
def assertIdentity (policy : LockedAlertPolicyV1 F) (decision : ScoreDecisionV1 F) :
    Except String Unit :=
  if decision.sourceDatasetSha256 ≠ policy.sourceDatasetSha256 then
    .error (mismatchDetail "Source dataset SHA" (Sha256.hex policy.sourceDatasetSha256)
      (Sha256.hex decision.sourceDatasetSha256))
  else if decision.contractSha256 ≠ policy.contractSha256 then
    .error (mismatchDetail "Contract SHA" (Sha256.hex policy.contractSha256)
      (Sha256.hex decision.contractSha256))
  else if decision.modelVersion ≠ policy.modelVersion then
    .error (mismatchDetail "Model version" policy.modelVersion decision.modelVersion)
  else .ok ()

def failedStatus (policy : LockedAlertPolicyV1 F) (stamp : ProcessStamp) (sessionId : UUID)
    (sourceTs : Int) (errorCode : String) : ReplayStatusV1 where
  messageId := stamp.messageId
  replaySessionId := sessionId
  sourceDatasetSha256 := policy.sourceDatasetSha256
  contractSha256 := policy.contractSha256
  sourceTimestamp := sourceTs
  emittedAt := stamp.emittedAt
  state := .failed
  lastSequence := some 0
  errorCode := some errorCode

theorem failedStatus_valid (policy : LockedAlertPolicyV1 F) (stamp : ProcessStamp)
    (sessionId : UUID) (sourceTs : Int) :
    Valid (failedStatus policy stamp sessionId sourceTs "CONTRACT_MISMATCH") :=
  replayStatus_valid_iff.mpr ⟨fun _ => ⟨0, rfl, le_refl 0⟩, fun _ => ⟨_, rfl, by decide⟩,
    fun other => absurd rfl other⟩

/-- `_fail_session`: the session is failed in memory first, then in the database,
then on the status topic. -/
def failSession (config : AlertConsumerConfig F) (stamp : ProcessStamp)
    (fault : Option ProcessFault) (decision : ScoreDecisionV1 F) (world : ConsumerWorld F) :
    ConsumerWorld F × Except ProcessError ProcessOutcome :=
  let status := failedStatus config.policy stamp decision.replaySessionId decision.sourceTimestamp
    "CONTRACT_MISMATCH"
  let failed := { world with
    failedSessions := world.failedSessions.insert decision.replaySessionId }
  let recorded := { failed with store := failed.store.recordReplayStatus status }
  let published := { recorded with statuses := recorded.statuses ++ [status] }
  match fault with
  | some (.statusStore committed) =>
      (if committed then recorded else failed, .error .unavailable)
  | some (.statusSend delivered) =>
      (if delivered then published else recorded, .error .unavailable)
  | _ => (published, .ok .sessionFailed)

def quarantineRecord [PyFloat F] (stamp : ProcessStamp) (record : ScoreRecord F)
    (error : String) : QuarantineRecordV1 where
  messageId := stamp.messageId
  sourceDatasetSha256 := 0
  contractSha256 := 0
  sourceTimestamp := epoch2020
  emittedAt := stamp.emittedAt
  originalTopic := SCORES_TOPIC
  partition := record.partition
  offset := record.offset
  payloadSha256 := record.payloadSha256
  errorCode := "INVALID_SCORE_PAYLOAD"
  errorDetail := String.ofList (error.toList.take 1000)

/-- `_publish_quarantine`. -/
def publishQuarantine [PyFloat F] (stamp : ProcessStamp) (fault : Option ProcessFault)
    (record : ScoreRecord F) (error : String) (world : ConsumerWorld F) :
    ConsumerWorld F × Except ProcessError ProcessOutcome :=
  let published := { world with
    quarantined := world.quarantined ++ [quarantineRecord stamp record error] }
  match fault with
  | some (.quarantineSend delivered) =>
      (if delivered then published else world, .error .unavailable)
  | _ => (published, .ok .quarantined)

section Process

variable [PyFloat F] [Uuid5]

/-- The end of `process`: `record_decision_transition` of the result, then the
metrics of an emitted event. -/
def recordResult (fault : Option ProcessFault) (decision : ScoreDecisionV1 F)
    (result : TransitionResult F) (world : ConsumerWorld F) :
    ConsumerWorld F × Except ProcessError ProcessOutcome :=
  match world.store.recordDecisionTransition decision result with
  | .error error => (world, .error (.database error))
  | .ok store =>
      let recorded := { world with store }
      match fault with
      | some (.recordTransition committed) =>
          (if committed then recorded else world, .error .unavailable)
      | some .metrics =>
          (recorded, if result.event.isSome then .error .unavailable else .ok .committed)
      | _ => (recorded, .ok .committed)

/-- The last part of `process`: `load_alert_state`, `transition` and recording
the result. -/
def recordDecision (config : AlertConsumerConfig F) (stamp : ProcessStamp)
    (fault : Option ProcessFault) (decision : ScoreDecisionV1 F) (world : ConsumerWorld F) :
    ConsumerWorld F × Except ProcessError ProcessOutcome :=
  match world.store.loadAlertState decision.replaySessionId config.machineId config.policy with
  | .error error => (world, .error (.transition error))
  | .ok (state, store) =>
      let loaded := { world with store }
      match fault with
      | some (.loadState committed) => (if committed then loaded else world, .error .unavailable)
      | _ =>
          match transition stamp.transition state decision config.policy with
          | .error error => (loaded, .error (.transition error))
          | .ok result => recordResult fault decision result loaded

/-- `AlertConsumer.process`. -/
def process (config : AlertConsumerConfig F) (stamp : ProcessStamp) (fault : Option ProcessFault)
    (record : ScoreRecord F) (world : ConsumerWorld F) :
    ConsumerWorld F × Except ProcessError ProcessOutcome :=
  match record.value with
  | .error error => publishQuarantine stamp fault record error world
  | .ok decision =>
      if decision.val.replaySessionId ∈ world.failedSessions then (world, .ok .skipped)
      else
        match assertIdentity config.policy decision.val with
        | .error _ => failSession config stamp fault decision.val world
        | .ok () => recordDecision config stamp fault decision.val world

/-- The event the decision of a record would emit from the stored state. -/
def emittedEvent (config : AlertConsumerConfig F) (stamp : ProcessStamp) (record : ScoreRecord F)
    (store : RuntimeStore F) : Option AlertEventV1 :=
  match record.value with
  | .error _ => none
  | .ok decision =>
      match store.loadAlertState decision.val.replaySessionId config.machineId config.policy with
      | .error _ => none
      | .ok (state, _) =>
          match transition stamp.transition state decision.val config.policy with
          | .error _ => none
          | .ok result => result.event

/-! ### What one call does -/

variable {record : ScoreRecord F} {world : ConsumerWorld F}

/-- The world has lost no decision and no quarantined record. -/
structure ConsumerWorld.Grows (world world' : ConsumerWorld F) : Prop where
  decisions : ∀ id, (world.store.scoreDecisions.get? id).isSome →
    (world'.store.scoreDecisions.get? id).isSome
  quarantined : ∀ q ∈ world.quarantined, q ∈ world'.quarantined

omit [PyFloat F] [Uuid5] in
theorem ConsumerWorld.Grows.refl (world : ConsumerWorld F) : world.Grows world :=
  ⟨fun _ h => h, fun _ h => h⟩

omit [PyFloat F] [Uuid5] in
theorem ConsumerWorld.Grows.of_decisions {world' : ConsumerWorld F}
    (decisions : world'.store.scoreDecisions = world.store.scoreDecisions)
    (quarantined : world'.quarantined = world.quarantined) : world.Grows world' :=
  ⟨fun id h => by rw [decisions]; exact h, fun q h => by rw [quarantined]; exact h⟩

/-- What a call that leaves the decisions and the outbox alone, and raises, has
in common with one that commits `decision` and inserts `event` into the outbox:
it is one of the two. -/
def RaisesOrRecords (world : ConsumerWorld F) (decision : ScoreDecisionV1 F)
    (event : Option AlertEventV1)
    (called : ConsumerWorld F × Except ProcessError ProcessOutcome) : Prop :=
  called.1.quarantined = world.quarantined ∧
    ((called.1.store.scoreDecisions = world.store.scoreDecisions ∧
        called.1.store.alertOutbox = world.store.alertOutbox ∧ ∃ e, called.2 = .error e) ∨
      (called.1.store.scoreDecisions =
          world.store.scoreDecisions.insertNew decision.decisionId decision ∧
        called.1.store.alertOutbox = RuntimeStore.outboxAfter world.store.alertOutbox event))

omit [PyFloat F] [Uuid5] in
theorem recordResult_cases (fault : Option ProcessFault) (decision : ScoreDecisionV1 F)
    (result : TransitionResult F) (world : ConsumerWorld F) :
    RaisesOrRecords world decision result.event (recordResult fault decision result world) := by
  unfold recordResult
  cases recorded : world.store.recordDecisionTransition decision result with
  | error error => exact ⟨rfl, .inl ⟨rfl, rfl, _, rfl⟩⟩
  | ok store =>
      obtain ⟨decisions, -, -, outbox, -⟩ := RuntimeStore.recordDecisionTransition_eq_ok recorded
      dsimp only
      split
      · rename_i committed
        cases committed with
        | false => exact ⟨rfl, .inl ⟨rfl, rfl, _, rfl⟩⟩
        | true => exact ⟨rfl, .inr ⟨decisions, outbox⟩⟩
      · exact ⟨rfl, .inr ⟨decisions, outbox⟩⟩
      · exact ⟨rfl, .inr ⟨decisions, outbox⟩⟩

theorem recordDecision_cases (config : AlertConsumerConfig F) (stamp : ProcessStamp)
    (fault : Option ProcessFault) (world : ConsumerWorld F)
    {decision : Checked (ScoreDecisionV1 F)} (decoded : record.value = .ok decision) :
    RaisesOrRecords world decision.val (emittedEvent config stamp record world.store)
      (recordDecision config stamp fault decision.val world) := by
  unfold recordDecision emittedEvent
  rw [decoded]
  dsimp only
  cases loading : world.store.loadAlertState decision.val.replaySessionId config.machineId
      config.policy with
  | error error => exact ⟨rfl, .inl ⟨rfl, rfl, _, rfl⟩⟩
  | ok loaded =>
      obtain ⟨state, store⟩ := loaded
      obtain ⟨decisions, outbox⟩ := RuntimeStore.loadAlertState_eq_ok loading
      dsimp only
      cases transition stamp.transition state decision.val config.policy with
      | error error =>
          dsimp only
          split
          · rename_i committed
            cases committed with
            | false => exact ⟨rfl, .inl ⟨rfl, rfl, _, rfl⟩⟩
            | true => exact ⟨rfl, .inl ⟨decisions, outbox, _, rfl⟩⟩
          · exact ⟨rfl, .inl ⟨decisions, outbox, _, rfl⟩⟩
      | ok result =>
          dsimp only
          split
          · rename_i committed
            cases committed with
            | false => exact ⟨rfl, .inl ⟨rfl, rfl, _, rfl⟩⟩
            | true => exact ⟨rfl, .inl ⟨decisions, outbox, _, rfl⟩⟩
          · have spec := recordResult_cases fault decision.val result { world with store }
            simpa only [RaisesOrRecords, decisions, outbox] using spec

/-- A decision that is not recorded, skipped or failed raised; nothing is lost;
the outbox gains the emitted event at most. -/
structure Processed (config : AlertConsumerConfig F) (stamp : ProcessStamp)
    (record : ScoreRecord F) (world : ConsumerWorld F)
    (called : ConsumerWorld F × Except ProcessError ProcessOutcome) : Prop where
  grows : world.Grows called.1
  quarantines : ∀ detail, record.value = .error detail → ∀ outcome, called.2 = .ok outcome →
    ∃ q ∈ called.1.quarantined, q.partition = record.partition ∧ q.offset = record.offset
  records : ∀ decision, record.value = .ok decision → ∀ outcome, called.2 = .ok outcome →
    outcome = .skipped ∨ outcome = .sessionFailed ∨
      (called.1.store.scoreDecisions.get? decision.val.decisionId).isSome
  outbox : called.1.store.alertOutbox = world.store.alertOutbox ∨
    called.1.store.alertOutbox = RuntimeStore.outboxAfter world.store.alertOutbox
      (emittedEvent config stamp record world.store)

/-- A call that raises has not handled the record. -/
theorem processed_of_error {config : AlertConsumerConfig F} {stamp : ProcessStamp}
    {record : ScoreRecord F} {world world' : ConsumerWorld F} {error : ProcessError}
    (grows : world.Grows world')
    (outbox : world'.store.alertOutbox = world.store.alertOutbox ∨
      world'.store.alertOutbox = RuntimeStore.outboxAfter world.store.alertOutbox
        (emittedEvent config stamp record world.store)) :
    Processed config stamp record world (world', .error error) :=
  ⟨grows, fun _ _ _ returned => (by cases returned), fun _ _ _ returned => (by cases returned), outbox⟩

theorem process_spec (config : AlertConsumerConfig F) (stamp : ProcessStamp)
    (fault : Option ProcessFault) (record : ScoreRecord F) (world : ConsumerWorld F) :
    Processed config stamp record world (process config stamp fault record world) := by
  unfold process
  cases decoded : record.value with
  | error detail =>
      dsimp only
      unfold publishQuarantine
      have held : quarantineRecord stamp record detail ∈
          world.quarantined ++ [quarantineRecord stamp record detail] := by simp
      split
      · rename_i delivered
        refine processed_of_error ?_ (.inl ?_)
        · cases delivered with
          | false => exact .refl world
          | true => exact ⟨fun _ h => h, fun _ h => List.mem_append_left _ h⟩
        · cases delivered <;> rfl
      · exact ⟨⟨fun _ h => h, fun _ h => List.mem_append_left _ h⟩,
          fun _ _ _ _ => ⟨_, held, rfl, rfl⟩, by simp [decoded], .inl rfl⟩
  | ok decision =>
      dsimp only
      split
      · exact ⟨.refl world, by simp [decoded], fun _ _ outcome same => .inl (by cases same; rfl),
          .inl rfl⟩
      · cases assertIdentity config.policy decision.val with
        | error detail =>
            dsimp only
            unfold failSession
            split
            · rename_i committed
              cases committed <;> exact processed_of_error (.of_decisions rfl rfl) (.inl rfl)
            · rename_i delivered
              cases delivered <;> exact processed_of_error (.of_decisions rfl rfl) (.inl rfl)
            · exact ⟨.of_decisions rfl rfl, by simp [decoded],
                fun _ _ outcome same => .inr (.inl (by cases same; rfl)), .inl rfl⟩
        | ok _ =>
            obtain ⟨quarantined, spec⟩ := recordDecision_cases config stamp fault world decoded
            rcases spec with ⟨decisions, outbox, e, raised⟩ | ⟨decisions, outbox⟩
            · refine ⟨.of_decisions decisions quarantined, by simp [decoded], ?_, .inl outbox⟩
              intro _ _ outcome returned
              cases raised.symm.trans returned
            · refine ⟨⟨fun id held => ?_, fun q h => by rw [quarantined]; exact h⟩,
                by simp [decoded], ?_, .inr outbox⟩
              · obtain ⟨row, stored⟩ := Option.isSome_iff_exists.mp held
                rw [decisions, Lib.Table.get?_insertNew_of_some stored]
                rfl
              · intro decision' same _ _
                cases decoded.symm.trans same
                right; right
                rw [decisions]
                exact Lib.Table.isSome_get?_insertNew_self _ _ _

/-- The event a call appends to the outbox: the one the decision emits, unless the
call raises first or the outbox holds its id. -/
def insertedEvent (config : AlertConsumerConfig F) (stamp : ProcessStamp)
    (fault : Option ProcessFault) (record : ScoreRecord F) (world : ConsumerWorld F) :
    Option AlertEventV1 :=
  (emittedEvent config stamp record world.store).filter fun event =>
    (world.store.alertOutbox.get? event.messageId).isNone &&
      ((process config stamp fault record world).1.store.alertOutbox.get? event.messageId).isSome

theorem process_outbox (config : AlertConsumerConfig F) (stamp : ProcessStamp)
    (fault : Option ProcessFault) (record : ScoreRecord F) (world : ConsumerWorld F) :
    (process config stamp fault record world).1.store.alertOutbox =
      RuntimeStore.outboxAfter world.store.alertOutbox
        (insertedEvent config stamp fault record world) := by
  have spec := (process_spec config stamp fault record world).outbox
  unfold insertedEvent
  cases emitted : emittedEvent config stamp record world.store with
  | none =>
      rw [emitted] at spec
      rcases spec with same | same <;> exact same
  | some event =>
      rw [emitted] at spec
      cases held : world.store.alertOutbox.get? event.messageId with
      | some row =>
          rcases spec with same | same
          · simp [Option.filter, held, same, RuntimeStore.outboxAfter]
          · simp [Option.filter, held, same, RuntimeStore.outboxAfter,
              Lib.Table.insertNew_of_some held]
      | none =>
          rcases spec with same | same
          · simp [Option.filter, held, same, RuntimeStore.outboxAfter]
          · simp [Option.filter, held, same, RuntimeStore.outboxAfter,
              Lib.Table.get?_insertNew_self_of_none held]

theorem insertedEvent_free {config : AlertConsumerConfig F} {stamp : ProcessStamp}
    {fault : Option ProcessFault} {event : AlertEventV1}
    (inserted : insertedEvent config stamp fault record world = some event) :
    world.store.alertOutbox.get? event.messageId = none := by
  have free := (Option.filter_eq_some_iff.mp inserted).2
  rw [Bool.and_eq_true, Option.isNone_iff_eq_none] at free
  exact free.1

end Process

/-! ### Concrete values -/

def promptConsumer : AlertConsumerConfig Int := ⟨promptPolicy, "metropt3"⟩

def processStampAt (n : Nat) : ProcessStamp := ⟨500 + n, ⟨n⟩, stampAt n⟩

end IndustrialReliability
