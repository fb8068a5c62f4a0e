import IndustrialReliability.Alert.State
import IndustrialReliability.Lib.Results
import IndustrialReliability.Lib.Table

/-!
The tables the alert service writes.

`RuntimeStore` holds the rows of the alert schema. A transaction is a function
from the store before to the store after, or the error the database raises, and
then nothing is written. `recordDecisionTransition` is the one transaction of a
processed decision: it is built from one function for each `INSERT`, so each
`ON CONFLICT` clause, unique constraint and foreign key can be checked against
the schema. Columns that only hold `now()` are left out.
-/

namespace IndustrialReliability

inductive DatabaseError where
  | uniqueViolation (constraint : String)
  | foreignKeyViolation (constraint : String)
  /-- `psycopg.DataError`: a text with U+0000, refused by the driver in a `text`
  column and by the server in a `jsonb` one. -/
  | dataError (table : String)
deriving DecidableEq, Repr

/-- Every text of the decision can be stored. -/
def ScoreDecisionV1.Storable {F : Type} (decision : ScoreDecisionV1 F) : Prop :=
  Lib.Storable decision.modelVersion ∧
    ∀ evidence ∈ decision.evidenceVector, Lib.Storable evidence.featureName

instance ScoreDecisionV1.decidableStorable {F : Type} (decision : ScoreDecisionV1 F) :
    Decidable decision.Storable :=
  inferInstanceAs (Decidable (_ ∧ _))

structure ReplaySessionRow where
  sourceDatasetSha256 : Sha256
  contractSha256 : Sha256
  modelVersion : String
  state : ReplayState
  lastSequence : Option Int
  sourceTimestamp : Int
  errorCode : Option String
deriving DecidableEq, Repr

inductive AlertRowState where
  | opened | resolved
deriving DecidableEq, Repr

structure AlertRow where
  replaySessionId : UUID
  machineId : String
  state : AlertRowState
  firstDetection : Int
  lastDetection : Int
  resolvedAt : Option Int
  latestDecisionId : UUID
  policySha256 : Sha256
deriving DecidableEq, Repr

structure AlertEventRow where
  alertId : UUID
  decisionId : UUID
  action : AlertAction
  payload : AlertEventV1
deriving DecidableEq, Repr

structure EvidenceRow (F : Type) where
  alertId : UUID
  decisionId : UUID
  payload : EvidenceSnapshotV1 F
deriving DecidableEq, Repr

structure OutboxRow where
  topic : String
  messageKey : String
  payload : AlertEventV1
  /-- `published_at IS NOT NULL`. -/
  published : Bool
deriving DecidableEq, Repr

/-- The JSON object of a stored alert state. UUIDs and timestamps are rendered
and read back by the standard library. -/
structure StatePayload where
  replaySessionId : UUID
  machineId : String
  activeAlertId : Option UUID
  previousAlertId : Option UUID
  firstDetection : Option Int
  lastDetection : Option Int
  resolvedAt : Option Int
  anomalyDecisionIds : List UUID
  anomalyStreak : Nat
  normalStreak : Nat
  lastDecisionId : Option UUID
  lastSourceTimestamp : Option Int
deriving DecidableEq, Repr

def statePayload (state : AlertState) : StatePayload where
  replaySessionId := state.replaySessionId
  machineId := state.machineId
  activeAlertId := state.activeAlertId
  previousAlertId := state.previousAlertId
  firstDetection := state.firstDetection
  lastDetection := state.lastDetection
  resolvedAt := state.resolvedAt
  anomalyDecisionIds := state.anomalyDecisionIds
  anomalyStreak := state.anomalyStreak
  normalStreak := state.normalStreak
  lastDecisionId := state.lastDecisionId
  lastSourceTimestamp := state.lastSourceTimestamp

def stateFromPayload (payload : StatePayload) : AlertState where
  replaySessionId := payload.replaySessionId
  machineId := payload.machineId
  activeAlertId := payload.activeAlertId
  previousAlertId := payload.previousAlertId
  firstDetection := payload.firstDetection
  lastDetection := payload.lastDetection
  resolvedAt := payload.resolvedAt
  anomalyDecisionIds := payload.anomalyDecisionIds
  anomalyStreak := payload.anomalyStreak
  normalStreak := payload.normalStreak
  lastDecisionId := payload.lastDecisionId
  lastSourceTimestamp := payload.lastSourceTimestamp

@[simp] theorem stateFromPayload_statePayload (state : AlertState) :
    stateFromPayload (statePayload state) = state := rfl

structure RuntimeStore (F : Type) where
  replaySessions : Lib.Table UUID ReplaySessionRow
  /-- Rows are the decision payloads; the other columns repeat their fields. -/
  scoreDecisions : Lib.Table UUID (ScoreDecisionV1 F)
  alerts : Lib.Table UUID AlertRow
  alertEvents : Lib.Table UUID AlertEventRow
  evidenceSnapshots : Lib.Table UUID (EvidenceRow F)
  alertOutbox : Lib.Table UUID OutboxRow
  alertRuntimeStates : Lib.Table (UUID × String) StatePayload
deriving DecidableEq

namespace RuntimeStore

variable {F : Type}

def empty : RuntimeStore F := ⟨.empty, .empty, .empty, .empty, .empty, .empty, .empty⟩

/-! ### The statements of a decision transaction -/

def ensureSessionExists (store : RuntimeStore F) (decision : ScoreDecisionV1 F) :
    RuntimeStore F :=
  { store with
    replaySessions := store.replaySessions.insertNew decision.replaySessionId {
      sourceDatasetSha256 := decision.sourceDatasetSha256
      contractSha256 := decision.contractSha256
      modelVersion := decision.modelVersion
      state := .running
      lastSequence := none
      sourceTimestamp := decision.sourceTimestamp
      errorCode := none } }

/-- `ON CONFLICT (decision_id) DO NOTHING`, with `window_id` unique. The values are
converted before any row is compared. -/
def insertScoreDecision (store : RuntimeStore F) (decision : ScoreDecisionV1 F) :
    Except DatabaseError (RuntimeStore F) :=
  if ¬ decision.Storable then .error (.dataError "score_decisions")
  else if (store.scoreDecisions.get? decision.decisionId).isSome then .ok store
  else if store.scoreDecisions.values.any fun row => row.windowId == decision.windowId then
    .error (.uniqueViolation "score_decisions_window_id_key")
  else .ok { store with
    scoreDecisions := store.scoreDecisions.insertNew decision.decisionId decision }

/-- `ON CONFLICT (alert_id) DO UPDATE`; the first detection, the machine, the
session and the policy of an existing row are kept. -/
def upsertAlertRow (alerts : Lib.Table UUID AlertRow) (decision : ScoreDecisionV1 F)
    (event : AlertEventV1) : Lib.Table UUID AlertRow :=
  let state : AlertRowState := if event.action = .resolved then .resolved else .opened
  let resolvedAt := if event.action = .resolved then some decision.sourceTimestamp else none
  alerts.upsert event.alertId
    { replaySessionId := event.replaySessionId
      machineId := event.machineId
      state
      firstDetection := event.firstDetection
      lastDetection := event.lastDetection
      resolvedAt
      latestDecisionId := decision.decisionId
      policySha256 := event.policySha256 }
    fun row => { row with
      state
      lastDetection := event.lastDetection
      resolvedAt
      latestDecisionId := decision.decisionId }

def upsertAlert (store : RuntimeStore F) (decision : ScoreDecisionV1 F) (event : AlertEventV1) :
    RuntimeStore F :=
  { store with alerts := upsertAlertRow store.alerts decision event }

/-- `ON CONFLICT (alert_id, decision_id, action) DO NOTHING`, keyed by
`message_id`. -/
def insertAlertEvent (store : RuntimeStore F) (decision : ScoreDecisionV1 F)
    (event : AlertEventV1) : Except DatabaseError (RuntimeStore F) :=
  if store.alertEvents.values.any fun row =>
      row.alertId == event.alertId && row.decisionId == decision.decisionId &&
        row.action == event.action then .ok store
  else if (store.alertEvents.get? event.messageId).isSome then
    .error (.uniqueViolation "alert_events_pkey")
  else .ok { store with
    alertEvents := store.alertEvents.insertNew event.messageId
      ⟨event.alertId, decision.decisionId, event.action, event⟩ }

/-- `ON CONFLICT (alert_id, decision_id) DO NOTHING`, keyed by `evidence_id`;
nothing when the event has no evidence. -/
def insertEvidence (store : RuntimeStore F) (decision : ScoreDecisionV1 F) :
    Option (EvidenceSnapshotV1 F) → Except DatabaseError (RuntimeStore F)
  | none => .ok store
  | some evidence =>
      if store.evidenceSnapshots.values.any fun row =>
          row.alertId == evidence.alertId && row.decisionId == decision.decisionId then .ok store
      else if (store.evidenceSnapshots.get? evidence.evidenceId).isSome then
        .error (.uniqueViolation "evidence_snapshots_pkey")
      else .ok { store with
        evidenceSnapshots := store.evidenceSnapshots.insertNew evidence.evidenceId
          ⟨evidence.alertId, decision.decisionId, evidence⟩ }

/-- The outbox row of an event. -/
def outboxRow (event : AlertEventV1) : OutboxRow where
  topic := "irp.alerts.v1"
  messageKey := event.alertId.str
  payload := event
  published := false

/-- `ON CONFLICT (message_id) DO NOTHING`, with `message_id` referencing
`alert_events`. -/
def insertOutbox (store : RuntimeStore F) (event : AlertEventV1) :
    Except DatabaseError (RuntimeStore F) :=
  if (store.alertOutbox.get? event.messageId).isSome then .ok store
  else if (store.alertEvents.get? event.messageId).isNone then
    .error (.foreignKeyViolation "alert_outbox_message_id_fkey")
  else .ok { store with
    alertOutbox := store.alertOutbox.insertNew event.messageId (outboxRow event) }

/-- The rows of an emitted event: alert, event, evidence and outbox. -/
def insertEvent (store : RuntimeStore F) (decision : ScoreDecisionV1 F) :
    Option AlertEventV1 → Option (EvidenceSnapshotV1 F) → Except DatabaseError (RuntimeStore F)
  | none, _ => .ok store
  | some event, evidence => do
      let store ← (store.upsertAlert decision event).insertAlertEvent decision event
      let store ← store.insertEvidence decision evidence
      store.insertOutbox event

/-- `ON CONFLICT (replay_session_id, machine_id) DO UPDATE`. -/
def upsertStateRow (states : Lib.Table (UUID × String) StatePayload) (state : AlertState) :
    Lib.Table (UUID × String) StatePayload :=
  states.upsert (state.replaySessionId, state.machineId) (statePayload state)
    fun _ => statePayload state

def upsertRuntimeState (store : RuntimeStore F) (state : AlertState) : RuntimeStore F :=
  { store with alertRuntimeStates := upsertStateRow store.alertRuntimeStates state }

/-- `record_decision_transition`. -/
def recordDecisionTransition (store : RuntimeStore F) (decision : ScoreDecisionV1 F)
    (result : TransitionResult F) : Except DatabaseError (RuntimeStore F) := do
  let store := store.ensureSessionExists decision
  let store ← store.insertScoreDecision decision
  let store ← store.insertEvent decision result.event result.evidence
  return store.upsertRuntimeState result.state

/-! ### Reading the alert state back -/

section Load

variable [PyFloat F] [Uuid5]

/-- `ORDER BY source_timestamp ASC, decision_id ASC`. -/
def decisionBefore (a b : ScoreDecisionV1 F) : Bool :=
  decide (a.sourceTimestamp < b.sourceTimestamp ∨
    (a.sourceTimestamp = b.sourceTimestamp ∧ a.decisionId ≤ b.decisionId))

/-- The state of a legacy session, folded from its persisted decisions. The
messages each transition builds are dropped, so their stamps do not matter. -/
def reconstructAlertState (store : RuntimeStore F) (replaySessionId : UUID) (machineId : String)
    (policy : LockedAlertPolicyV1 F) : Except TransitionError AlertState :=
  let decisions := (store.scoreDecisions.values.filter
    (·.replaySessionId == replaySessionId)).mergeSort decisionBefore
  decisions.foldlM
    (fun state decision => do
      let result ← transition ⟨0, ⟨0⟩, 0, ⟨0⟩⟩ state decision policy
      return result.state)
    (AlertState.empty replaySessionId machineId)

/-- `load_alert_state`: the stored state, the empty one of a session without
decisions, or the reconstructed one, which is stored. -/
def loadAlertState (store : RuntimeStore F) (replaySessionId : UUID) (machineId : String)
    (policy : LockedAlertPolicyV1 F) : Except TransitionError (AlertState × RuntimeStore F) :=
  match store.alertRuntimeStates.get? (replaySessionId, machineId) with
  | some payload => .ok (stateFromPayload payload, store)
  | none =>
      if store.scoreDecisions.values.any (·.replaySessionId == replaySessionId) then do
        let state ← store.reconstructAlertState replaySessionId machineId policy
        return (state, { store with
          alertRuntimeStates := store.alertRuntimeStates.insertNew (replaySessionId, machineId)
            (statePayload state) })
      else .ok (.empty replaySessionId machineId, store)

end Load

/-! ### Other statements -/

/-- `record_replay_status`. -/
def recordReplayStatus (store : RuntimeStore F) (status : ReplayStatusV1) : RuntimeStore F :=
  { store with
    replaySessions := store.replaySessions.upsert status.replaySessionId
      { sourceDatasetSha256 := status.sourceDatasetSha256
        contractSha256 := status.contractSha256
        modelVersion := "champion-statistical-v1"
        state := status.state
        lastSequence := status.lastSequence
        sourceTimestamp := status.sourceTimestamp
        errorCode := status.errorCode }
      fun row => { row with
        state := status.state
        lastSequence := status.lastSequence
        sourceTimestamp := status.sourceTimestamp
        errorCode := status.errorCode } }

/-- `next_unpublished_outbox`: the unpublished row with the least message id. -/
def nextUnpublishedOutbox (store : RuntimeStore F) : Option (UUID × OutboxRow) :=
  (store.alertOutbox.rows.filter fun row => !row.2.published).foldl
    (fun best row => match best with
      | some least => if row.1 < least.1 then some row else some least
      | none => some row) none

def markOutboxPublished (store : RuntimeStore F) (messageId : UUID) : RuntimeStore F :=
  { store with
    alertOutbox := store.alertOutbox.modify messageId fun row => { row with published := true } }

/-! ### What a decision transaction writes -/

variable {store store' : RuntimeStore F} {decision : ScoreDecisionV1 F}
  {result : TransitionResult F}

theorem insertScoreDecision_eq_ok (inserted : store.insertScoreDecision decision = .ok store') :
    store' = { store with
      scoreDecisions := store.scoreDecisions.insertNew decision.decisionId decision } := by
  unfold insertScoreDecision at inserted
  split at inserted
  · cases inserted
  · split at inserted
    · rename_i present
      obtain ⟨row, held⟩ := Option.isSome_iff_exists.mp present
      rw [Lib.Table.insertNew_of_some held]
      exact (Except.ok.inj inserted).symm
    · split at inserted
      · cases inserted
      · exact (Except.ok.inj inserted).symm

theorem insertAlertEvent_eq_ok {event : AlertEventV1}
    (inserted : store.insertAlertEvent decision event = .ok store') :
    ∃ events, store' = { store with alertEvents := events } ∧
      ∀ id, id ≠ event.messageId → events.get? id = store.alertEvents.get? id := by
  unfold insertAlertEvent at inserted
  split at inserted
  · cases inserted
    exact ⟨store.alertEvents, rfl, fun _ _ => rfl⟩
  · split at inserted
    · cases inserted
    · cases inserted
      exact ⟨_, rfl, fun _ other => Lib.Table.get?_insertNew_ne other⟩

theorem insertEvidence_eq_ok {evidence : Option (EvidenceSnapshotV1 F)}
    (inserted : store.insertEvidence decision evidence = .ok store') :
    ∃ snapshots, store' = { store with evidenceSnapshots := snapshots } := by
  cases evidence with
  | none =>
      cases inserted
      exact ⟨store.evidenceSnapshots, rfl⟩
  | some snapshot =>
      unfold insertEvidence at inserted
      dsimp only at inserted
      split at inserted
      · cases inserted
        exact ⟨store.evidenceSnapshots, rfl⟩
      · split at inserted
        · cases inserted
        · cases inserted
          exact ⟨_, rfl⟩

theorem insertOutbox_eq_ok {event : AlertEventV1}
    (inserted : store.insertOutbox event = .ok store') :
    store' = { store with
      alertOutbox := store.alertOutbox.insertNew event.messageId (outboxRow event) } := by
  unfold insertOutbox at inserted
  split at inserted
  · rename_i present
    obtain ⟨row, held⟩ := Option.isSome_iff_exists.mp present
    rw [Lib.Table.insertNew_of_some held]
    exact (Except.ok.inj inserted).symm
  · split at inserted
    · cases inserted
    · exact (Except.ok.inj inserted).symm

/-- The outbox after the event of a transition, if it emitted one. -/
def outboxAfter (outbox : Lib.Table UUID OutboxRow) : Option AlertEventV1 → Lib.Table UUID OutboxRow
  | none => outbox
  | some event => outbox.insertNew event.messageId (outboxRow event)

/-- The alerts after the event of a transition. -/
def alertsAfter (alerts : Lib.Table UUID AlertRow) (decision : ScoreDecisionV1 F) :
    Option AlertEventV1 → Lib.Table UUID AlertRow
  | none => alerts
  | some event => upsertAlertRow alerts decision event

theorem insertEvent_eq_ok {event : Option AlertEventV1} {evidence : Option (EvidenceSnapshotV1 F)}
    (inserted : store.insertEvent decision event evidence = .ok store') :
    ∃ events snapshots, store' = { store with
        alerts := alertsAfter store.alerts decision event
        alertEvents := events
        evidenceSnapshots := snapshots
        alertOutbox := outboxAfter store.alertOutbox event } ∧
      ∀ id, (∀ emitted ∈ event, id ≠ emitted.messageId) →
        events.get? id = store.alertEvents.get? id := by
  cases event with
  | none =>
      cases inserted
      exact ⟨_, _, rfl, fun _ _ => rfl⟩
  | some event =>
      obtain ⟨withEvent, first, inserted⟩ := Lib.bind_eq_ok_iff.mp inserted
      obtain ⟨withEvidence, second, last⟩ := Lib.bind_eq_ok_iff.mp inserted
      obtain ⟨events, rfl, kept⟩ := insertAlertEvent_eq_ok first
      obtain ⟨snapshots, rfl⟩ := insertEvidence_eq_ok second
      exact ⟨events, snapshots, insertOutbox_eq_ok last, fun id other => kept id (other event rfl)⟩

/-- What a committed transaction has written: the decision, the alert of the event
it emitted, the event into the outbox, and the state. -/
structure Wrote (store : RuntimeStore F) (decision : ScoreDecisionV1 F)
    (result : TransitionResult F) (store' : RuntimeStore F) : Prop where
  scoreDecisions : store'.scoreDecisions =
    store.scoreDecisions.insertNew decision.decisionId decision
  alerts : store'.alerts = alertsAfter store.alerts decision result.event
  alertEvents : ∀ id, (∀ event ∈ result.event, id ≠ event.messageId) →
    store'.alertEvents.get? id = store.alertEvents.get? id
  alertOutbox : store'.alertOutbox = outboxAfter store.alertOutbox result.event
  alertRuntimeStates : store'.alertRuntimeStates =
    upsertStateRow store.alertRuntimeStates result.state

theorem recordDecisionTransition_eq_ok
    (committed : store.recordDecisionTransition decision result = .ok store') :
    store.Wrote decision result store' := by
  obtain ⟨withDecision, first, committed⟩ := Lib.bind_eq_ok_iff.mp committed
  obtain ⟨withEvent, second, last⟩ := Lib.bind_eq_ok_iff.mp committed
  obtain rfl := Lib.pure_eq_ok_iff.mp last
  obtain rfl := insertScoreDecision_eq_ok first
  obtain ⟨events, snapshots, rfl, kept⟩ := insertEvent_eq_ok second
  exact ⟨rfl, rfl, kept, rfl, rfl⟩

/-- The events after a new event of a transition. -/
def eventsAfter (events : Lib.Table UUID AlertEventRow) (decision : ScoreDecisionV1 F) :
    Option AlertEventV1 → Lib.Table UUID AlertEventRow
  | none => events
  | some event => events.insertNew event.messageId
      ⟨event.alertId, decision.decisionId, event.action, event⟩

/-- The evidence after new evidence of a transition; without an event there is
none. -/
def evidenceAfter (snapshots : Lib.Table UUID (EvidenceRow F)) (decision : ScoreDecisionV1 F) :
    Option AlertEventV1 → Option (EvidenceSnapshotV1 F) → Lib.Table UUID (EvidenceRow F)
  | some _, some evidence => snapshots.insertNew evidence.evidenceId
      ⟨evidence.alertId, decision.decisionId, evidence⟩
  | _, _ => snapshots

/-! The rows these add, if any. -/

theorem get?_eventsAfter {events : Lib.Table UUID AlertEventRow} {event : Option AlertEventV1}
    {id : UUID} {row : AlertEventRow}
    (held : (eventsAfter events decision event).get? id = some row) :
    events.get? id = some row ∨
      ∃ emitted ∈ event, id = emitted.messageId ∧ row.decisionId = decision.decisionId := by
  cases event with
  | none => exact .inl held
  | some emitted =>
      rcases Lib.Table.get?_insertNew_eq_some held with before | ⟨rfl, rfl⟩
      · exact .inl before
      · exact .inr ⟨emitted, rfl, rfl, rfl⟩

theorem get?_outboxAfter {outbox : Lib.Table UUID OutboxRow} {event : Option AlertEventV1}
    {id : UUID} {row : OutboxRow} (held : (outboxAfter outbox event).get? id = some row) :
    outbox.get? id = some row ∨ ∃ emitted ∈ event, id = emitted.messageId := by
  cases event with
  | none => exact .inl held
  | some emitted =>
      rcases Lib.Table.get?_insertNew_eq_some held with before | ⟨rfl, rfl⟩
      · exact .inl before
      · exact .inr ⟨emitted, rfl, rfl⟩

theorem get?_evidenceAfter {snapshots : Lib.Table UUID (EvidenceRow F)}
    {event : Option AlertEventV1} {evidence : Option (EvidenceSnapshotV1 F)} {id : UUID}
    {row : EvidenceRow F} (held : (evidenceAfter snapshots decision event evidence).get? id =
      some row) :
    snapshots.get? id = some row ∨
      ∃ built ∈ evidence, id = built.evidenceId ∧ row.decisionId = decision.decisionId := by
  cases event with
  | none => exact .inl held
  | some emitted =>
      cases evidence with
      | none => exact .inl held
      | some built =>
          rcases Lib.Table.get?_insertNew_eq_some held with before | ⟨rfl, rfl⟩
          · exact .inl before
          · exact .inr ⟨built, rfl, rfl, rfl⟩

/-- The store after the transaction of a decision that is new to it. -/
def recorded (store : RuntimeStore F) (decision : ScoreDecisionV1 F)
    (result : TransitionResult F) : RuntimeStore F where
  replaySessions := (store.ensureSessionExists decision).replaySessions
  scoreDecisions := store.scoreDecisions.insertNew decision.decisionId decision
  alerts := alertsAfter store.alerts decision result.event
  alertEvents := eventsAfter store.alertEvents decision result.event
  evidenceSnapshots := evidenceAfter store.evidenceSnapshots decision result.event result.evidence
  alertOutbox := outboxAfter store.alertOutbox result.event
  alertRuntimeStates := upsertStateRow store.alertRuntimeStates result.state

/-- No row of the store stands in the way of the messages of a decision. -/
structure NewMessages (store : RuntimeStore F) (decision : ScoreDecisionV1 F)
    (result : TransitionResult F) : Prop where
  eventDecisions : ∀ row ∈ store.alertEvents.values, row.decisionId ≠ decision.decisionId
  evidenceDecisions : ∀ row ∈ store.evidenceSnapshots.values, row.decisionId ≠ decision.decisionId
  event : ∀ event ∈ result.event, store.alertEvents.get? event.messageId = none ∧
    store.alertOutbox.get? event.messageId = none
  evidence : ∀ evidence ∈ result.evidence,
    store.evidenceSnapshots.get? evidence.evidenceId = none

theorem insertAlertEvent_new (store : RuntimeStore F) {event : AlertEventV1}
    (decisions : ∀ row ∈ store.alertEvents.values, row.decisionId ≠ decision.decisionId)
    (free : store.alertEvents.get? event.messageId = none) :
    store.insertAlertEvent decision event = .ok { store with
      alertEvents := eventsAfter store.alertEvents decision (some event) } := by
  unfold insertAlertEvent
  rw [if_neg, if_neg]
  · rfl
  · simp [free]
  · rw [List.any_eq_true]
    rintro ⟨row, mem, same⟩
    simp only [Bool.and_eq_true, beq_iff_eq] at same
    exact decisions row mem same.1.2

theorem insertEvidence_new (store : RuntimeStore F) (event : AlertEventV1)
    {evidence : Option (EvidenceSnapshotV1 F)}
    (decisions : ∀ row ∈ store.evidenceSnapshots.values, row.decisionId ≠ decision.decisionId)
    (free : ∀ snapshot ∈ evidence, store.evidenceSnapshots.get? snapshot.evidenceId = none) :
    store.insertEvidence decision evidence = .ok { store with
      evidenceSnapshots := evidenceAfter store.evidenceSnapshots decision (some event) evidence } := by
  cases evidence with
  | none => rfl
  | some snapshot =>
      unfold insertEvidence
      dsimp only
      rw [if_neg, if_neg]
      · rfl
      · simp [free snapshot rfl]
      · rw [List.any_eq_true]
        rintro ⟨row, mem, same⟩
        simp only [Bool.and_eq_true, beq_iff_eq] at same
        exact decisions row mem same.2

theorem insertOutbox_new (store : RuntimeStore F) {event : AlertEventV1}
    (free : store.alertOutbox.get? event.messageId = none)
    (referenced : (store.alertEvents.get? event.messageId).isSome) :
    store.insertOutbox event = .ok { store with
      alertOutbox := outboxAfter store.alertOutbox (some event) } := by
  unfold insertOutbox
  rw [if_neg (by simp [free]), if_neg (by
    rw [Option.isNone_iff_eq_none]
    exact Option.isSome_iff_ne_none.mp referenced)]
  rfl

theorem insertEvent_new (store : RuntimeStore F) (new : store.NewMessages decision result) :
    store.insertEvent decision result.event result.evidence = .ok { store with
      alerts := alertsAfter store.alerts decision result.event
      alertEvents := eventsAfter store.alertEvents decision result.event
      evidenceSnapshots := evidenceAfter store.evidenceSnapshots decision result.event
        result.evidence
      alertOutbox := outboxAfter store.alertOutbox result.event } := by
  obtain ⟨state, event, evidence⟩ := result
  cases event with
  | none => rfl
  | some event =>
      obtain ⟨freeEvent, freeOutbox⟩ := new.event event rfl
      have freeEvidence : ∀ snapshot ∈ evidence,
          store.evidenceSnapshots.get? snapshot.evidenceId = none := new.evidence
      unfold insertEvent
      dsimp only
      rw [insertAlertEvent_new (store.upsertAlert decision event) new.eventDecisions freeEvent]
      refine Lib.bind_eq_ok_iff.mpr ⟨_, rfl, ?_⟩
      refine Lib.bind_eq_ok_iff.mpr ⟨_, insertEvidence_new _ event ?_ ?_, ?_⟩
      · exact new.evidenceDecisions
      · exact freeEvidence
      · exact insertOutbox_new _ freeOutbox (Lib.Table.isSome_get?_insertNew_self _ _ _)

/-- A new decision is inserted exactly when it is storable and its window is new. -/
theorem insertScoreDecision_new_iff (store : RuntimeStore F)
    (absent : store.scoreDecisions.get? decision.decisionId = none) :
    store.insertScoreDecision decision = .ok store' ↔
      decision.Storable ∧ (∀ row ∈ store.scoreDecisions.values, row.windowId ≠ decision.windowId) ∧
        store' = { store with
          scoreDecisions := store.scoreDecisions.insertNew decision.decisionId decision } := by
  unfold insertScoreDecision
  by_cases storable : decision.Storable
  · rw [if_neg (not_not.mpr storable), if_neg (by simp [absent])]
    by_cases taken : ∃ row ∈ store.scoreDecisions.values, row.windowId = decision.windowId
    · rw [if_pos (by simpa using taken)]
      obtain ⟨row, mem, same⟩ := taken
      exact ⟨fun h => (by cases h), fun h => absurd same (h.2.1 row mem)⟩
    · rw [if_neg (by simpa using taken)]
      simp only [not_exists, not_and] at taken
      exact ⟨fun h => ⟨storable, taken, (Except.ok.inj h).symm⟩, fun h => by rw [h.2.2]⟩
  · rw [if_pos storable]
    exact ⟨fun h => (by cases h), fun h => absurd h.1 storable⟩

/-- The transaction of a new decision commits exactly when it is storable and its
window is new. -/
theorem recordDecisionTransition_new_iff
    (absent : store.scoreDecisions.get? decision.decisionId = none)
    (new : store.NewMessages decision result) :
    store.recordDecisionTransition decision result = .ok store' ↔
      decision.Storable ∧ (∀ row ∈ store.scoreDecisions.values, row.windowId ≠ decision.windowId) ∧
        store' = store.recorded decision result := by
  let inserted : RuntimeStore F := { store.ensureSessionExists decision with
    scoreDecisions := store.scoreDecisions.insertNew decision.decisionId decision }
  have newHere : inserted.NewMessages decision result :=
    ⟨new.eventDecisions, new.evidenceDecisions, new.event, new.evidence⟩
  have events := insertEvent_new inserted newHere
  constructor
  · intro committed
    obtain ⟨withDecision, first, committed⟩ := Lib.bind_eq_ok_iff.mp committed
    obtain ⟨storable, windows, rfl⟩ :=
      (insertScoreDecision_new_iff (store.ensureSessionExists decision) absent).mp first
    obtain ⟨withEvent, second, last⟩ := Lib.bind_eq_ok_iff.mp committed
    obtain rfl := Except.ok.inj (events.symm.trans second)
    exact ⟨storable, windows, (Lib.pure_eq_ok_iff.mp last).symm⟩
  · rintro ⟨storable, windows, rfl⟩
    have first := (insertScoreDecision_new_iff (store.ensureSessionExists decision) absent).mpr
      ⟨storable, windows, rfl⟩
    exact Lib.bind_eq_ok_iff.mpr ⟨_, first, Lib.bind_eq_ok_iff.mpr ⟨_, events, rfl⟩⟩

/-- A decision delivered again, whose result changes nothing, writes nothing. -/
theorem recordDecisionTransition_again {state : AlertState} {row : ReplaySessionRow}
    {stored : ScoreDecisionV1 F} (storable : decision.Storable)
    (session : store.replaySessions.get? decision.replaySessionId = some row)
    (present : store.scoreDecisions.get? decision.decisionId = some stored)
    (held : store.alertRuntimeStates.get? (state.replaySessionId, state.machineId) =
      some (statePayload state)) :
    store.recordDecisionTransition decision ⟨state, none, none⟩ = .ok store := by
  have ensured : store.ensureSessionExists decision = store := by
    unfold ensureSessionExists
    rw [Lib.Table.insertNew_of_some session]
  have inserted : store.insertScoreDecision decision = .ok store := by
    unfold insertScoreDecision
    rw [if_neg (not_not.mpr storable), if_pos (by rw [present]; rfl)]
  have upserted : store.upsertRuntimeState state = store := by
    unfold upsertRuntimeState upsertStateRow
    rw [Lib.Table.upsert_same held]
  unfold recordDecisionTransition
  simp only [ensured, inserted]
  exact congrArg Except.ok upserted

theorem loadAlertState_eq_ok [PyFloat F] [Uuid5] {session : UUID} {machineId : String}
    {policy : LockedAlertPolicyV1 F} {state : AlertState}
    (loaded : store.loadAlertState session machineId policy = .ok (state, store')) :
    store'.scoreDecisions = store.scoreDecisions ∧ store'.alertOutbox = store.alertOutbox := by
  unfold loadAlertState at loaded
  split at loaded
  · cases loaded
    exact ⟨rfl, rfl⟩
  · split at loaded
    · obtain ⟨rebuilt, -, last⟩ := Lib.bind_eq_ok_iff.mp loaded
      cases last
      exact ⟨rfl, rfl⟩
    · cases loaded
      exact ⟨rfl, rfl⟩

/-! ### The outbox selection -/

/-- The selected row is unpublished and has the least id of all unpublished rows. -/
theorem nextUnpublishedOutbox_eq_some {selected : UUID × OutboxRow}
    (picked : store.nextUnpublishedOutbox = some selected) :
    selected ∈ store.alertOutbox.rows ∧ selected.2.published = false ∧
      ∀ row ∈ store.alertOutbox.rows, row.2.published = false → selected.1 ≤ row.1 := by
  have scan : ∀ (rows : List (UUID × OutboxRow)) (best : Option (UUID × OutboxRow)),
      rows.foldl (fun best row => match best with
        | some least => if row.1 < least.1 then some row else some least
        | none => some row) best = some selected →
      (selected ∈ rows ∨ best = some selected) ∧
        (∀ row ∈ rows, selected.1 ≤ row.1) ∧ ∀ least ∈ best, selected.1 ≤ least.1 := by
    intro rows
    induction rows with
    | nil =>
        rintro best rfl
        refine ⟨.inr rfl, nofun, fun least same => ?_⟩
        cases same
        exact le_refl _
    | cons row rows ih =>
        intro best found
        obtain ⟨origin, least, bound⟩ := ih _ found
        cases best with
        | none =>
            have here := bound row rfl
            refine ⟨.inl ?_, List.forall_mem_cons.mpr ⟨here, least⟩, nofun⟩
            rcases origin with mem | same
            · exact List.mem_cons_of_mem _ mem
            · cases same
              exact List.mem_cons_self
        | some old =>
            dsimp only at origin bound
            by_cases smaller : row.1 < old.1
            · rw [if_pos smaller] at origin bound
              have here := bound row rfl
              refine ⟨.inl ?_, List.forall_mem_cons.mpr ⟨here, least⟩, fun o same => ?_⟩
              · rcases origin with mem | same
                · exact List.mem_cons_of_mem _ mem
                · cases same
                  exact List.mem_cons_self
              · cases same
                exact here.trans smaller.le
            · rw [if_neg smaller] at origin bound
              have here := bound old rfl
              refine ⟨?_, List.forall_mem_cons.mpr ⟨here.trans (not_lt.mp smaller), least⟩,
                fun o same => ?_⟩
              · rcases origin with mem | same
                · exact .inl (List.mem_cons_of_mem _ mem)
                · exact .inr same
              · cases same
                exact here
  obtain ⟨origin, least, -⟩ := scan _ none picked
  rcases origin with mem | absent
  · obtain ⟨held, unpublished⟩ := List.mem_filter.mp mem
    refine ⟨held, by simpa using unpublished, fun row mem' pending => ?_⟩
    exact least row (List.mem_filter.mpr ⟨mem', by simpa using pending⟩)
  · cases absent

end RuntimeStore

end IndustrialReliability
