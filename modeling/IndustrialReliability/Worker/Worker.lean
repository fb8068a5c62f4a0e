import IndustrialReliability.Features.Online
import IndustrialReliability.Lib.Table

/-!
The streaming worker: the handlers of telemetry and status records.

A handler is a function of the memory of the worker. It returns the memory it leaves,
what it did on the way in order (the pushes of a builder, its completion, the messages
published, a commit), and whether it raised. Between two of these actions, and only
there, the coroutine awaits, so a process that is lost in a handler has done a prefix
of them.

The drift statistics and the metrics are left out: nothing reads them back.
-/

namespace IndustrialReliability

variable {F : Type}

inductive WorkerTopic where
  | telemetry | replayStatus
deriving DecidableEq, Repr

def TELEMETRY_TOPIC : String := "irp.telemetry.v1"

def REPLAY_STATUS_TOPIC : String := "irp.replay.status.v1"

def WorkerTopic.name : WorkerTopic → String
  | .telemetry => TELEMETRY_TOPIC
  | .replayStatus => REPLAY_STATUS_TOPIC

structure TopicPartition where
  topic : WorkerTopic
  partition : Nat
deriving DecidableEq, Repr

/-- The value of a record: the digest of its bytes and what decoding them returns. -/
inductive WorkerValue (F : Type) [PyFloat F] where
  | telemetry (event : Except String (Checked (TelemetryEventV1 F)))
  | status (status : Except String (Checked ReplayStatusV1))

structure WorkerPayload (F : Type) [PyFloat F] where
  payloadSha256 : Sha256
  value : WorkerValue F

structure WorkerRecord (F : Type) [PyFloat F] extends WorkerPayload F where
  partition : Nat
  offset : Nat

structure WorkerSettings where
  modelVersion : String
  sourceDatasetSha256 : Sha256
  contractSha256 : Sha256
  featureNames : List String
deriving DecidableEq, Repr

inductive ScoringError where
  | permanent (detail : String)
  | retryable (detail : String)
deriving DecidableEq, Repr

inductive HandlerError where
  | builder (error : BuilderError)
  | validation (error : ValidationError)
  | sessionFailed (session : UUID) (error : ScoringError)
deriving DecidableEq, Repr

/-- The random ids and clock readings of one call of `handle_record`, and what the
scoring API answers in it once the retries are through. -/
structure HandlerStamp (F : Type) where
  pushedAt : Instant
  completedAt : Instant
  statusId : UUID
  quarantineId : UUID
  emittedAt : Instant
  answer : FeatureVectorV1 F → Except ScoringError (ScoreDecisionV1 F)

structure WorkerMemory (F : Type) where
  builders : Lib.Table UUID (BuilderConfig × OnlineFeatureBuilder F)
  terminalStatus : Lib.Table UUID ReplayStatusV1
  lastSequence : Lib.Table UUID Int
  sessionOffsets : Lib.Table UUID (Lib.Table TopicPartition Nat)
  failedSessions : List UUID
  blockedPartitions : List TopicPartition
  selfEmittedStatusIds : List UUID

def WorkerMemory.empty : WorkerMemory F := ⟨.empty, .empty, .empty, .empty, [], [], []⟩

/-- What a handler does. -/
inductive WorkerAction (F : Type) where
  /-- `builder.push` returned. -/
  | pushed (event : TelemetryEventV1 F) (result : BuilderResult F)
  /-- `builder.complete` returned. -/
  | finalised (session : UUID) (result : BuilderResult F)
  | feature (vector : FeatureVectorV1 F)
  | score (decision : ScoreDecisionV1 F)
  | status (status : ReplayStatusV1)
  | quarantine (record : QuarantineRecordV1)
  | commit (offsets : List (TopicPartition × Nat))

/-- What a handler has done, the memory after it, and whether it returned. -/
structure Handled (F : Type) where
  actions : List (WorkerAction F)
  memory : WorkerMemory F
  returned : Except HandlerError Unit

namespace Handled

def done (memory : WorkerMemory F) : Handled F := ⟨[], memory, .ok ()⟩

def acts (action : WorkerAction F) (memory : WorkerMemory F) : Handled F :=
  ⟨[action], memory, .ok ()⟩

def raised (error : HandlerError) (memory : WorkerMemory F) : Handled F :=
  ⟨[], memory, .error error⟩

/-- What comes next, unless the first part raised. -/
def andThen (first : Handled F) (next : WorkerMemory F → Handled F) : Handled F :=
  match first.returned with
  | .error _ => first
  | .ok () =>
      let second := next first.memory
      ⟨first.actions ++ second.actions, second.memory, second.returned⟩

end Handled

/-! ### Scoring -/

/-- The text of a decision that is not the one asked for. -/
def scoringMismatch (what expected got : String) : ScoringError :=
  .permanent ("Scoring API " ++ what ++ " mismatch: expected " ++ expected ++ ", got " ++ got)

/-- `_validated_decision` of an answer with a decision. -/
def validatedDecision (settings : WorkerSettings) (feature : FeatureVectorV1 F)
    (decision : ScoreDecisionV1 F) : Except ScoringError (ScoreDecisionV1 F) :=
  if decision.modelVersion ≠ settings.modelVersion then
    .error (scoringMismatch "model_version" settings.modelVersion decision.modelVersion)
  else if decision.windowId ≠ feature.windowId then
    .error (scoringMismatch "window_id" (UUID.str feature.windowId) (UUID.str decision.windowId))
  else if decision.replaySessionId ≠ feature.replaySessionId then
    .error (scoringMismatch "replay_session_id" (UUID.str feature.replaySessionId)
      (UUID.str decision.replaySessionId))
  else if decision.sourceDatasetSha256 ≠ feature.sourceDatasetSha256 then
    .error (scoringMismatch "source_dataset_sha256" (Sha256.hex feature.sourceDatasetSha256)
      (Sha256.hex decision.sourceDatasetSha256))
  else if decision.contractSha256 ≠ feature.contractSha256 then
    .error (scoringMismatch "contract_sha256" (Sha256.hex feature.contractSha256)
      (Sha256.hex decision.contractSha256))
  else .ok decision

/-- `ScoringClient.score`. -/
def scoringClientScore (settings : WorkerSettings) (stamp : HandlerStamp F)
    (feature : FeatureVectorV1 F) : Except ScoringError (ScoreDecisionV1 F) := do
  let decision ← stamp.answer feature
  validatedDecision settings feature decision

/-! ### Failing a session -/

/-- `_fail_session`. -/
def failWorkerSession (settings : WorkerSettings) (stamp : HandlerStamp F) (session : UUID)
    (errorCode : String) (lastSeq sourceTs : Int) (memory : WorkerMemory F) : Handled F :=
  let memory := { memory with
    failedSessions := memory.failedSessions.insert session
    selfEmittedStatusIds := memory.selfEmittedStatusIds.insert stamp.statusId }
  match construct {
    messageId := stamp.statusId
    replaySessionId := session
    sourceDatasetSha256 := settings.sourceDatasetSha256
    contractSha256 := settings.contractSha256
    sourceTimestamp := sourceTs
    emittedAt := stamp.emittedAt
    state := .failed
    lastSequence := some lastSeq
    errorCode := some errorCode } with
  | .error error => .raised (.validation error) memory
  | .ok status => .acts (.status status) memory

/-- `publish_quarantine`. -/
def publishWorkerQuarantine (stamp : HandlerStamp F) (payloadSha256 : Sha256)
    (tp : TopicPartition) (offset : Nat) (errorCode errorDetail : String)
    (memory : WorkerMemory F) : Handled F :=
  .acts (.quarantine {
    messageId := stamp.quarantineId
    sourceDatasetSha256 := 0
    contractSha256 := 0
    sourceTimestamp := epoch2020
    emittedAt := stamp.emittedAt
    originalTopic := tp.topic.name
    partition := tp.partition
    offset
    payloadSha256
    errorCode
    errorDetail := String.ofList (errorDetail.toList.take 1000) }) memory

/-! ### Features -/

def ScoringError.errorCode : ScoringError → String
  | .retryable _ => "SCORING_RETRY_EXHAUSTED"
  | .permanent _ => "SCORING_CONTRACT_MISMATCH"

/-- `_process_feature`. -/
def processFeature (settings : WorkerSettings) (stamp : HandlerStamp F)
    (feature : FeatureVectorV1 F) (memory : WorkerMemory F) : Handled F :=
  (Handled.acts (.feature feature) memory).andThen fun memory =>
    match scoringClientScore settings stamp feature with
    | .error error =>
        (failWorkerSession settings stamp feature.replaySessionId error.errorCode
          ((memory.lastSequence.get? feature.replaySessionId).getD 0) feature.sourceTimestamp
          memory).andThen (.raised (.sessionFailed feature.replaySessionId error))
    | .ok decision => .acts (.score decision) memory

/-- `for feature in res.features: await self._process_feature(feature)`. -/
def processFeatures (settings : WorkerSettings) (stamp : HandlerStamp F) :
    List (FeatureVectorV1 F) → WorkerMemory F → Handled F
  | [], memory => .done memory
  | feature :: rest, memory =>
      (processFeature settings stamp feature memory).andThen
        (processFeatures settings stamp rest)

section Handlers

variable [PyFloat F] [Uuid5]

/-- The end of `_complete_session`. -/
def commitSession (session : UUID) (memory : WorkerMemory F) : Handled F :=
  match memory.sessionOffsets.get? session with
  | none => .done memory
  | some offsets => if offsets.rows = [] then .done memory else .acts (.commit offsets.rows) memory

/-- The first part of `_complete_session`: the builder is completed once. -/
def finaliseBuilder (settings : WorkerSettings) (stamp : HandlerStamp F)
    (status : ReplayStatusV1) (memory : WorkerMemory F) : Handled F :=
  match memory.builders.get? status.replaySessionId with
  | none => .done memory
  | some (config, builder) =>
      if builder.isComplete then .done memory
      else
        match builder.complete config stamp.completedAt status.sourceTimestamp with
        | .error error => .raised (.builder error) memory
        | .ok (builder, result) =>
            (Handled.acts (.finalised status.replaySessionId result) { memory with
              builders := memory.builders.set status.replaySessionId (config, builder) }).andThen
              (processFeatures settings stamp result.features)

/-- `_complete_session`. -/
def completeSession (settings : WorkerSettings) (stamp : HandlerStamp F)
    (status : ReplayStatusV1) (memory : WorkerMemory F) : Handled F :=
  if status.replaySessionId ∈ memory.failedSessions then .done memory
  else
    (finaliseBuilder settings stamp status memory).andThen
      (commitSession status.replaySessionId)

/-- `self.session_offsets[session_id][tp] = OffsetAndMetadata(offset + 1, "")`. -/
def trackOffset (session : UUID) (tp : TopicPartition) (offset : Nat)
    (memory : WorkerMemory F) : WorkerMemory F :=
  let offsets := (memory.sessionOffsets.get? session).getD .empty
  { memory with
    sessionOffsets := memory.sessionOffsets.set session (offsets.set tp (offset + 1)) }

/-- The builder of a session; its first event makes it. -/
def builderOf (settings : WorkerSettings) (event : TelemetryEventV1 F)
    (memory : WorkerMemory F) : BuilderConfig × OnlineFeatureBuilder F :=
  (memory.builders.get? event.replaySessionId).getD
    (.ofDefaults event.replaySessionId event.machineId settings.sourceDatasetSha256
      settings.contractSha256 settings.featureNames, .new)

/-- The end of `_handle_telemetry_record`: the terminal status barrier. -/
def checkBarrier (settings : WorkerSettings) (stamp : HandlerStamp F)
    (event : TelemetryEventV1 F) (memory : WorkerMemory F) : Handled F :=
  match memory.terminalStatus.get? event.replaySessionId with
  | none => .done memory
  | some term =>
      if term.state = .completed ∧ term.lastSequence = some event.sequence then
        completeSession settings stamp term memory
      else .done memory

/-- The part of `_handle_telemetry_record` behind the checks. -/
def pushTelemetry [Sha256Digest] (settings : WorkerSettings) (stamp : HandlerStamp F)
    (event : TelemetryEventV1 F) (memory : WorkerMemory F) : Handled F :=
  let (config, builder) := builderOf settings event memory
  match builder.push config stamp.pushedAt event with
  | .error error => .raised (.builder error) { memory with
      builders := memory.builders.set event.replaySessionId (config, builder) }
  | .ok (builder, result) =>
      ((Handled.acts (.pushed event result) { memory with
        builders := memory.builders.set event.replaySessionId (config, builder)
        lastSequence := memory.lastSequence.set event.replaySessionId event.sequence }).andThen
          (processFeatures settings stamp result.features)).andThen
        (checkBarrier settings stamp event)

/-- `_handle_telemetry_record`. -/
def handleTelemetryRecord [Sha256Digest] (settings : WorkerSettings) (stamp : HandlerStamp F)
    (record : WorkerRecord F) (value : Except String (Checked (TelemetryEventV1 F)))
    (memory : WorkerMemory F) : Handled F :=
  let tp : TopicPartition := ⟨.telemetry, record.partition⟩
  if tp ∈ memory.blockedPartitions then .done memory
  else
    match value with
    | .error detail =>
        publishWorkerQuarantine stamp record.payloadSha256 tp record.offset
          "INVALID_TELEMETRY_PAYLOAD" detail
          { memory with blockedPartitions := memory.blockedPartitions.insert tp }
    | .ok ⟨event, _⟩ =>
        if event.replaySessionId ∈ memory.failedSessions then .done memory
        else if event.sourceDatasetSha256 ≠ settings.sourceDatasetSha256 ∨
            event.contractSha256 ≠ settings.contractSha256 then
          (publishWorkerQuarantine stamp record.payloadSha256 tp record.offset
            "TELEMETRY_IDENTITY_MISMATCH" "telemetry identity does not match scoring package"
            memory).andThen
            (failWorkerSession settings stamp event.replaySessionId
              "TELEMETRY_IDENTITY_MISMATCH"
              ((memory.lastSequence.get? event.replaySessionId).getD 0) event.sourceTimestamp)
        else
          pushTelemetry settings stamp event
            (trackOffset event.replaySessionId tp record.offset memory)

/-- The end of `_handle_status_record`: a status that closes the session. -/
def handleTerminal (settings : WorkerSettings) (stamp : HandlerStamp F)
    (status : ReplayStatusV1) (memory : WorkerMemory F) : Handled F :=
  let memory := { memory with
    terminalStatus := memory.terminalStatus.set status.replaySessionId status }
  let currentSeq := (memory.lastSequence.get? status.replaySessionId).getD 0
  if ∃ last ∈ status.lastSequence, last ≤ currentSeq then
    completeSession settings stamp status memory
  else .done memory

/-- `_handle_status_record`. It does not ask whether its partition is blocked. -/
def handleStatusRecord (settings : WorkerSettings) (stamp : HandlerStamp F)
    (record : WorkerRecord F) (value : Except String (Checked ReplayStatusV1))
    (memory : WorkerMemory F) : Handled F :=
  let tp : TopicPartition := ⟨.replayStatus, record.partition⟩
  match value with
  | .error detail =>
      publishWorkerQuarantine stamp record.payloadSha256 tp record.offset
        "INVALID_STATUS_PAYLOAD" detail
        { memory with blockedPartitions := memory.blockedPartitions.insert tp }
  | .ok ⟨status, _⟩ =>
      if status.messageId ∈ memory.selfEmittedStatusIds then .done memory
      else
        let memory := trackOffset status.replaySessionId tp record.offset memory
        match status.state with
        | .failed => .done { memory with
            failedSessions := memory.failedSessions.insert status.replaySessionId }
        | .completed | .stopped => handleTerminal settings stamp status memory
        | _ => .done memory

/-- `handle_record`. -/
def handleRecord [Sha256Digest] (settings : WorkerSettings) (stamp : HandlerStamp F)
    (record : WorkerRecord F) (memory : WorkerMemory F) : Handled F :=
  match record.value with
  | .telemetry value => handleTelemetryRecord settings stamp record value memory
  | .status value => handleStatusRecord settings stamp record value memory

end Handlers

end IndustrialReliability
