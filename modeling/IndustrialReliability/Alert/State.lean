import IndustrialReliability.Alert.Policy

/-!
The alert state machine.

`transition` folds one score decision into the alert state of a session. It
returns the next state with the lifecycle event and the evidence snapshot the
step emits, or fails: with an ordering violation when the decision is not newer
than the last one, and with a validation error when one of the messages it
builds does not pass its schema. The random message ids and the wall clock enter
as a `TransitionStamp`, so a transition is a function of its arguments.
-/

namespace IndustrialReliability

structure AlertState where
  replaySessionId : UUID
  machineId : String
  activeAlertId : Option UUID
  previousAlertId : Option UUID
  firstDetection : Option Int
  lastDetection : Option Int
  resolvedAt : Option Int
  anomalyDecisionIds : List UUID
  anomalyStreak : Nat
  normalStreak : Nat
  lastDecisionId : Option UUID
  lastSourceTimestamp : Option Int
deriving DecidableEq, Repr

def AlertState.empty (replaySessionId : UUID) (machineId : String) : AlertState where
  replaySessionId
  machineId
  activeAlertId := none
  previousAlertId := none
  firstDetection := none
  lastDetection := none
  resolvedAt := none
  anomalyDecisionIds := []
  anomalyStreak := 0
  normalStreak := 0
  lastDecisionId := none
  lastSourceTimestamp := none

structure TransitionResult (F : Type) where
  state : AlertState
  event : Option AlertEventV1
  evidence : Option (EvidenceSnapshotV1 F)
deriving DecidableEq, Repr

/-- The `uuid4()` and `datetime.now(UTC)` readings of one transition. -/
structure TransitionStamp where
  eventMessageId : UUID
  eventEmittedAt : Instant
  evidenceMessageId : UUID
  evidenceEmittedAt : Instant
deriving DecidableEq, Repr

inductive TransitionError where
  | orderingViolation (detail : String)
  | validation (error : ValidationError)
deriving DecidableEq, Repr

section Identity

variable [Uuid5]

def alertIdFor (replaySessionId firstDecisionId : UUID) : UUID :=
  uuid5 NAMESPACE_URL ("alert:" ++ replaySessionId.str ++ ":" ++ firstDecisionId.str)

def evidenceIdFor (alertId decisionId : UUID) : UUID :=
  uuid5 NAMESPACE_URL ("evidence:" ++ alertId.str ++ ":" ++ decisionId.str)

end Identity

variable {F : Type} [PyFloat F]

/-- The deviation recorded for one evidence value, before validation. -/
def EvidenceValueV1.deviation (ev : EvidenceValueV1 F) : FeatureDeviationV1 F where
  featureName := ev.featureName
  observedValue := ev.featureValue
  baselineValue := PyFloat.sub ev.featureValue ev.robustDeviation
  absoluteDeviation := PyFloat.abs ev.robustDeviation

variable [Uuid5]

/-! ### The messages of a transition -/

def evidenceSnapshot (stamp : TransitionStamp) (alertId : UUID) (decision : ScoreDecisionV1 F)
    (deviations : List (FeatureDeviationV1 F)) : EvidenceSnapshotV1 F where
  messageId := stamp.evidenceMessageId
  replaySessionId := decision.replaySessionId
  sourceDatasetSha256 := decision.sourceDatasetSha256
  contractSha256 := decision.contractSha256
  sourceTimestamp := decision.sourceTimestamp
  emittedAt := stamp.evidenceEmittedAt
  evidenceId := evidenceIdFor alertId decision.decisionId
  alertId
  decisionId := decision.decisionId
  windowId := decision.windowId
  modelVersion := decision.modelVersion
  featureDeviations := deviations
  dataQuality := [("status", .text "ok")]
  model := [("score", .number decision.score), ("threshold", .number decision.threshold)]
  systemHealth := [("is_anomaly", .flag decision.isAnomaly)]

def buildEvidenceSnapshot (stamp : TransitionStamp) (alertId : UUID)
    (decision : ScoreDecisionV1 F) : Except ValidationError (EvidenceSnapshotV1 F) := do
  let deviations ← decision.evidenceVector.mapM fun ev => construct ev.deviation
  construct (evidenceSnapshot stamp alertId decision deviations)

/-- The fields of an alert event, shared by the anomaly events and `RESOLVED`. -/
def alertEvent (stamp : TransitionStamp) (state : AlertState) (decision : ScoreDecisionV1 F)
    (policy : LockedAlertPolicyV1 F) (action : AlertAction) (alertId : UUID)
    (firstDetection lastDetection : Int) (decisionIds : List UUID) : AlertEventV1 where
  messageId := stamp.eventMessageId
  replaySessionId := decision.replaySessionId
  sourceDatasetSha256 := decision.sourceDatasetSha256
  contractSha256 := decision.contractSha256
  sourceTimestamp := decision.sourceTimestamp
  emittedAt := stamp.eventEmittedAt
  alertId
  machineId := state.machineId
  action
  firstDetection
  lastDetection
  decisionIds
  policySha256 := policy.policySha256

/-! ### The states of a transition -/

namespace AlertState

/-- After an anomaly event. -/
def raised (state : AlertState) (decision : ScoreDecisionV1 F) (alertId : UUID) (firstDet : Int)
    (newAnomalyStreak : Nat) (newAnomalyDecisionIds : List UUID) : AlertState :=
  { state with
    activeAlertId := some alertId
    firstDetection := some firstDet
    lastDetection := some decision.sourceTimestamp
    resolvedAt := none
    anomalyDecisionIds := newAnomalyDecisionIds
    anomalyStreak := newAnomalyStreak
    normalStreak := 0
    lastDecisionId := some decision.decisionId
    lastSourceTimestamp := some decision.sourceTimestamp }

/-- After an anomaly below the persistence count. -/
def pending (state : AlertState) (decision : ScoreDecisionV1 F) (newAnomalyStreak : Nat)
    (newAnomalyDecisionIds : List UUID) : AlertState :=
  { state with
    activeAlertId := none
    anomalyDecisionIds := newAnomalyDecisionIds
    anomalyStreak := newAnomalyStreak
    normalStreak := 0
    lastDecisionId := some decision.decisionId
    lastSourceTimestamp := some decision.sourceTimestamp }

/-- After the normal decision that completes the cooldown. -/
def resolved (state : AlertState) (decision : ScoreDecisionV1 F) (alertId : UUID)
    (firstDet lastDet : Int) (newNormalStreak : Nat) : AlertState :=
  { state with
    activeAlertId := none
    previousAlertId := some alertId
    firstDetection := some firstDet
    lastDetection := some lastDet
    resolvedAt := some decision.sourceTimestamp
    anomalyDecisionIds := []
    anomalyStreak := 0
    normalStreak := newNormalStreak
    lastDecisionId := some decision.decisionId
    lastSourceTimestamp := some decision.sourceTimestamp }

/-- After a normal decision inside the cooldown of an active alert. -/
def cooling (state : AlertState) (decision : ScoreDecisionV1 F) (newNormalStreak : Nat) :
    AlertState :=
  { state with
    anomalyStreak := 0
    normalStreak := newNormalStreak
    lastDecisionId := some decision.decisionId
    lastSourceTimestamp := some decision.sourceTimestamp }

/-- After a normal decision while no alert is active. -/
def idle (state : AlertState) (decision : ScoreDecisionV1 F) (newNormalStreak : Nat) :
    AlertState :=
  { state with
    activeAlertId := none
    anomalyDecisionIds := []
    anomalyStreak := 0
    normalStreak := newNormalStreak
    lastDecisionId := some decision.decisionId
    lastSourceTimestamp := some decision.sourceTimestamp }

end AlertState

/-! ### The handlers -/

def emitAnomalyResult (stamp : TransitionStamp) (state : AlertState)
    (decision : ScoreDecisionV1 F) (policy : LockedAlertPolicyV1 F) (action : AlertAction)
    (alertId : UUID) (firstDet : Int) (newAnomalyStreak : Nat)
    (newAnomalyDecisionIds : List UUID) : Except ValidationError (TransitionResult F) := do
  let lastDet := decision.sourceTimestamp
  let event ← construct (alertEvent stamp state decision policy action alertId firstDet lastDet
    newAnomalyDecisionIds)
  let evidence ← buildEvidenceSnapshot stamp alertId decision
  return {
    state := state.raised decision alertId firstDet newAnomalyStreak newAnomalyDecisionIds
    event := some event
    evidence := some evidence }

/-- Whether an onset reopens the alert resolved last. -/
def isReopen (state : AlertState) (ts : Int) (policy : LockedAlertPolicyV1 F) : Bool :=
  match state.previousAlertId, state.resolvedAt with
  | some _, some resolvedAt =>
      decide (0 < policy.mergeGapSeconds) && withinSeconds ts resolvedAt policy.mergeGapSeconds
  | _, _ => false

/-- An anomalous decision while no alert is active. -/
def handleAnomalyTrigger (stamp : TransitionStamp) (state : AlertState)
    (decision : ScoreDecisionV1 F) (policy : LockedAlertPolicyV1 F) (newAnomalyStreak : Nat)
    (newAnomalyDecisionIds : List UUID) : Except ValidationError (TransitionResult F) :=
  if (newAnomalyStreak : Int) < policy.persistenceDecisions then
    .ok ⟨state.pending decision newAnomalyStreak newAnomalyDecisionIds, none, none⟩
  else
    let reopen := isReopen state decision.sourceTimestamp policy
    let action : AlertAction := if reopen then .reopened else .opened
    let alertId :=
      match reopen, state.previousAlertId with
      | true, some previous => previous
      -- The list ends with the decision at hand, so its head is always there.
      | _, _ => alertIdFor decision.replaySessionId
          (newAnomalyDecisionIds.headD decision.decisionId)
    let firstDet :=
      if reopen then state.firstDetection.getD decision.sourceTimestamp
      else decision.sourceTimestamp
    emitAnomalyResult stamp state decision policy action alertId firstDet newAnomalyStreak
      newAnomalyDecisionIds

/-- An anomalous decision while an alert is active. -/
def handleAnomalyUpdate (stamp : TransitionStamp) (state : AlertState) (alertId : UUID)
    (decision : ScoreDecisionV1 F) (policy : LockedAlertPolicyV1 F) (newAnomalyStreak : Nat)
    (newAnomalyDecisionIds : List UUID) : Except ValidationError (TransitionResult F) :=
  let firstDet := state.firstDetection.getD decision.sourceTimestamp
  emitAnomalyResult stamp state decision policy .updated alertId firstDet newAnomalyStreak
    newAnomalyDecisionIds

def handleNormal (stamp : TransitionStamp) (state : AlertState)
    (decision : ScoreDecisionV1 F) (policy : LockedAlertPolicyV1 F) :
    Except ValidationError (TransitionResult F) :=
  let newNormalStreak := state.normalStreak + 1
  match state.activeAlertId with
  | some alertId =>
      if policy.cooldownDecisions ≤ newNormalStreak then do
        let firstDet := state.firstDetection.getD decision.sourceTimestamp
        let lastDet := state.lastDetection.getD decision.sourceTimestamp
        let event ← construct (alertEvent stamp state decision policy .resolved alertId firstDet
          lastDet state.anomalyDecisionIds)
        return ⟨state.resolved decision alertId firstDet lastDet newNormalStreak, some event, none⟩
      else .ok ⟨state.cooling decision newNormalStreak, none, none⟩
  | none => .ok ⟨state.idle decision newNormalStreak, none, none⟩

/-- The schema errors of a handler, raised out of `transition`. -/
def raising {α : Type} : Except ValidationError α → Except TransitionError α
  | .ok a => .ok a
  | .error e => .error (.validation e)

omit [Uuid5] in
theorem raising_eq_ok_iff {α : Type} {x : Except ValidationError α} {a : α} :
    raising x = .ok a ↔ x = .ok a := by
  cases x with
  | error e => exact ⟨nofun, nofun⟩
  | ok b => exact ⟨fun h => congrArg _ (Except.ok.inj h), fun h => congrArg _ (Except.ok.inj h)⟩

def transition (stamp : TransitionStamp) (state : AlertState) (decision : ScoreDecisionV1 F)
    (policy : LockedAlertPolicyV1 F) : Except TransitionError (TransitionResult F) :=
  if state.lastDecisionId = some decision.decisionId then
    .ok { state, event := none, evidence := none }
  else
    match state.lastSourceTimestamp.filter (decision.sourceTimestamp ≤ ·) with
    | some last => .error (.orderingViolation
        ("Decision timestamp " ++ Datetime.str decision.sourceTimestamp ++
          " is not strictly greater than " ++ Datetime.str last))
    | none =>
        if decision.isAnomaly then
          let newAnomalyStreak := state.anomalyStreak + 1
          let newAnomalyDecisionIds := state.anomalyDecisionIds ++ [decision.decisionId]
          match state.activeAlertId with
          | none => raising (handleAnomalyTrigger stamp state decision policy newAnomalyStreak
              newAnomalyDecisionIds)
          | some alertId => raising (handleAnomalyUpdate stamp state alertId decision policy
              newAnomalyStreak newAnomalyDecisionIds)
        else raising (handleNormal stamp state decision policy)

/-! ### Concrete values -/

/-- A policy that opens on the first anomaly. -/
def promptPolicy : LockedAlertPolicyV1 Int where
  sourceSplit := "calibration"
  sourceScoresSha256 := 1
  sourceDatasetSha256 := 2
  contractSha256 := 3
  modelId := "m2"
  modelVersion := "m2-v1"
  threshold := 5
  strideSeconds := 300
  persistenceDecisions := 1
  cooldownDecisions := 1
  mergeGapSeconds := 900
  calibrationFalseEpisodesPerDay := 0
  calibrationTimeInAlert := 0
  policySha256 := 4

/-- The decision of the window that ends `minute` minutes into 2020. -/
def scoredWindow (minute : Nat) (isAnomaly : Bool) (evidenceVector : List (EvidenceValueV1 Int)) :
    ScoreDecisionV1 Int where
  messageId := 100 + minute
  replaySessionId := 1
  sourceDatasetSha256 := 2
  contractSha256 := 3
  sourceTimestamp := epoch2020 + Datetime.minutes minute
  emittedAt := ⟨0⟩
  decisionId := minute
  windowId := 200 + minute
  modelVersion := "m2-v1"
  score := if isAnomaly then 7 else 1
  threshold := 5
  isAnomaly
  evidenceVector

omit [Uuid5] in
theorem scoredWindow_valid (minute : Nat) (isAnomaly : Bool)
    (evidenceVector : List (EvidenceValueV1 Int)) :
    Valid (scoredWindow minute isAnomaly evidenceVector) := by
  intro check mem
  rcases List.mem_append.mp mem with before | last
  · rcases List.mem_append.mp before with model | evidence
    · rcases List.mem_pair.mp model with rfl | rfl
      · exact decide_eq_true (by decide : 1 ≤ "m2-v1".length)
      · exact decide_eq_true (by decide : "m2-v1".length ≤ 200)
    · obtain ⟨value, -, its⟩ := List.mem_flatMap.mp evidence
      rw [List.mem_singleton.mp its]
      rfl
  · rw [List.mem_singleton.mp last]
    rfl

def checkedWindow (minute : Nat) (isAnomaly : Bool) (evidenceVector : List (EvidenceValueV1 Int)) :
    Checked (ScoreDecisionV1 Int) :=
  ⟨scoredWindow minute isAnomaly evidenceVector, scoredWindow_valid minute isAnomaly evidenceVector⟩

def stampAt (n : Nat) : TransitionStamp := ⟨1000 + 2 * n, ⟨n⟩, 1001 + 2 * n, ⟨n⟩⟩

/-- The ids of the alerts that the windows of minutes 5 and 10 open, and of their
evidence. -/
abbrev episodeNames : Uuid5 :=
  knownUuid5
   [("alert:00000000-0000-0000-0000-000000000001:00000000-0000-0000-0000-000000000005",
      0x7d02caee6a625a7c9e37894c2789fa34),
    ("evidence:7d02caee-6a62-5a7c-9e37-894c2789fa34:00000000-0000-0000-0000-000000000005",
      0xac594ec76e87500a8fb2fff3d058294a),
    ("evidence:7d02caee-6a62-5a7c-9e37-894c2789fa34:00000000-0000-0000-0000-00000000000a",
      0x6bfec90bdb7054e6a68c897f6b324bd6),
    ("evidence:7d02caee-6a62-5a7c-9e37-894c2789fa34:00000000-0000-0000-0000-00000000000f",
      0x5713d57fa7dc5bb9aaadc248340b3fec),
    ("alert:00000000-0000-0000-0000-000000000001:00000000-0000-0000-0000-00000000000a",
      0xeff53a88e32d5fb4ad30dca55935dbe0),
    ("evidence:eff53a88-e32d-5fb4-ad30-dca55935dbe0:00000000-0000-0000-0000-000000000005",
      0x285d53544dfd5db3bdf61a82d08ce08a),
    ("evidence:eff53a88-e32d-5fb4-ad30-dca55935dbe0:00000000-0000-0000-0000-00000000000a",
      0x446ad7750bbc5dbaa629b2c53ce7b263)]

end IndustrialReliability
