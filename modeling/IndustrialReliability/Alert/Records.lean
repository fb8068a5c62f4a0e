import IndustrialReliability.Alert.AlertsTable
import IndustrialReliability.Alert.Ledger

/-!
The decision path on records.

`AlertRecords` are the rows of a store without random ids and emission times.
`AlertRecords.apply` takes a decision on them: it is what is left of
`applyDecision` when the message ids are fresh (`applyDecision_records`), so two
services whose decisions are the same keep the same records, whatever their
stamps are (`applyDecisions_records`).
-/

namespace IndustrialReliability

variable {F : Type}

/-! ### The transaction -/

namespace AlertRecords

/-- The score decisions after `INSERT .. ON CONFLICT (decision_id) DO NOTHING`;
nothing when a text cannot be stored or the window is taken. -/
def insertDecision (records : AlertRecords F) (decision : ScoreDecisionV1 F) :
    Option (Lib.Table UUID (ScoreDecisionV1 F)) :=
  if ¬ decision.Storable then none
  else if (records.scoreDecisions.get? decision.decisionId).isSome then some records.scoreDecisions
  else if records.scoreDecisions.values.any fun row => row.windowId == decision.windowId then none
  else some (records.scoreDecisions.insertNew decision.decisionId decision.unstamped)

/-- The evidence after `INSERT .. ON CONFLICT (alert_id, decision_id) DO NOTHING`;
nothing when the evidence id is taken. -/
def insertEvidence (records : AlertRecords F) (decision : ScoreDecisionV1 F) :
    Option (EvidenceSnapshotV1 F) → Option (Lib.Table UUID (EvidenceRow F))
  | none => some records.evidenceSnapshots
  | some evidence =>
      if records.evidenceSnapshots.values.any fun row =>
          row.alertId == evidence.alertId && row.decisionId == decision.decisionId then
        some records.evidenceSnapshots
      else if (records.evidenceSnapshots.get? evidence.evidenceId).isSome then none
      else some (records.evidenceSnapshots.insertNew evidence.evidenceId
        ⟨evidence.alertId, decision.decisionId, evidence⟩)

/-- The event has a row already. Its `INSERT` then does nothing, and the outbox row
with its new message id has no event to refer to. -/
def hasEvent (records : AlertRecords F) (decision : ScoreDecisionV1 F) (event : AlertEventV1) :
    Bool :=
  records.alertEvents.any fun row =>
    row.alertId == event.alertId && row.decisionId == decision.decisionId &&
      row.action == event.action

/-- The rows of an event with a fresh message id. -/
def insertEvent (records : AlertRecords F) (decision : ScoreDecisionV1 F) :
    Option AlertEventV1 → Option (EvidenceSnapshotV1 F) → Option (AlertRecords F)
  | none, _ => some records
  | some event, evidence =>
      if records.hasEvent decision event then none
      else do
        let evidenceSnapshots ← records.insertEvidence decision evidence
        return { records with
          alerts := RuntimeStore.upsertAlertRow records.alerts decision event
          alertEvents := records.alertEvents ++
            [⟨event.alertId, decision.decisionId, event.action, event⟩]
          evidenceSnapshots }

/-- The transaction of a decision whose event has a fresh message id. -/
def transact (records : AlertRecords F) (decision : ScoreDecisionV1 F)
    (result : TransitionResult F) : Option (AlertRecords F) := do
  let scoreDecisions ← records.insertDecision decision
  let records ← { records with scoreDecisions }.insertEvent decision result.event result.evidence
  return { records with
    alertRuntimeStates := RuntimeStore.upsertStateRow records.alertRuntimeStates result.state }

end AlertRecords

/-- The message id of the event is not in use. -/
def RuntimeStore.FreshEvent (store : RuntimeStore F) (messageId : UUID) : Prop :=
  store.alertEvents.get? messageId = none ∧ store.alertOutbox.get? messageId = none

section Refines

variable {store : RuntimeStore F} {decision : ScoreDecisionV1 F}

theorem insertScoreDecision_records (store : RuntimeStore F) (decision : ScoreDecisionV1 F) :
    (store.insertScoreDecision decision).toOption.map (·.scoreDecisions.mapValues (·.unstamped)) =
        store.records.insertDecision decision := by
  have present : (store.records.scoreDecisions.get? decision.decisionId).isSome =
      (store.scoreDecisions.get? decision.decisionId).isSome := by
    unfold RuntimeStore.records
    rw [Lib.Table.get?_mapValues, Option.isSome_map]
  have windows : (store.records.scoreDecisions.values.any fun row =>
        row.windowId == decision.windowId) =
      store.scoreDecisions.values.any fun row => row.windowId == decision.windowId := by
    unfold RuntimeStore.records
    rw [Lib.Table.values_mapValues, List.any_map]
    rfl
  unfold RuntimeStore.insertScoreDecision AlertRecords.insertDecision
  rw [present, windows]
  split
  · rfl
  · split
    · rfl
    · split
      · rfl
      · exact congrArg some (Lib.Table.mapValues_insertNew _ _ _ _)

theorem hasEvent_unstamped (store : RuntimeStore F) (decision : ScoreDecisionV1 F)
    (event : AlertEventV1) : store.records.hasEvent decision event.unstamped =
      store.alertEvents.values.any fun row =>
        row.alertId == event.alertId && row.decisionId == decision.decisionId &&
          row.action == event.action := by
  unfold AlertRecords.hasEvent RuntimeStore.records
  rw [List.any_map]
  rfl

theorem insertEvidence_records (store : RuntimeStore F) (decision : ScoreDecisionV1 F)
    (evidence : Option (EvidenceSnapshotV1 F)) :
    (store.insertEvidence decision evidence).toOption.map
        (·.evidenceSnapshots.mapValues (·.unstamped)) =
      store.records.insertEvidence decision (evidence.map (·.unstamped)) := by
  cases evidence with
  | none => rfl
  | some snapshot =>
      have paired : (store.records.evidenceSnapshots.values.any fun row =>
            row.alertId == snapshot.unstamped.alertId && row.decisionId == decision.decisionId) =
          store.evidenceSnapshots.values.any fun row =>
            row.alertId == snapshot.alertId && row.decisionId == decision.decisionId := by
        unfold RuntimeStore.records
        rw [Lib.Table.values_mapValues, List.any_map]
        rfl
      have taken : (store.records.evidenceSnapshots.get? snapshot.unstamped.evidenceId).isSome =
          (store.evidenceSnapshots.get? snapshot.evidenceId).isSome := by
        unfold RuntimeStore.records
        rw [Lib.Table.get?_mapValues, Option.isSome_map]
        rfl
      unfold RuntimeStore.insertEvidence AlertRecords.insertEvidence
      rw [Option.map_some]
      dsimp only
      rw [paired, taken]
      split
      · rfl
      · split
        · rfl
        · exact congrArg some (Lib.Table.mapValues_insertNew _ _ _ _)

theorem insertEvent_records {event : Option AlertEventV1}
    {evidence : Option (EvidenceSnapshotV1 F)}
    (fresh : ∀ emitted ∈ event, store.FreshEvent emitted.messageId) :
    (store.insertEvent decision event evidence).toOption.map RuntimeStore.records =
      store.records.insertEvent decision (event.map (·.unstamped)) (evidence.map (·.unstamped)) := by
  cases event with
  | none => rfl
  | some event =>
      obtain ⟨freeEvent, freeOutbox⟩ := fresh event rfl
      let updated := store.upsertAlert decision event
      unfold RuntimeStore.insertEvent AlertRecords.insertEvent
      rw [Option.map_some]
      dsimp only
      rw [hasEvent_unstamped]
      split
      · rename_i present
        -- the event keeps its earlier row, so the outbox row refers to nothing
        have kept : updated.insertAlertEvent decision event = .ok updated := if_pos present
        change ((updated.insertAlertEvent decision event >>= _).toOption.map _) = none
        rw [kept]
        change ((updated.insertEvidence decision evidence >>= fun store =>
          store.insertOutbox event).toOption.map RuntimeStore.records) = none
        cases second : updated.insertEvidence decision evidence with
        | error refused => rfl
        | ok store' =>
            obtain ⟨snapshots, rfl⟩ := RuntimeStore.insertEvidence_eq_ok second
            have refused : ({ updated with evidenceSnapshots := snapshots }).insertOutbox event =
                .error (.foreignKeyViolation "alert_outbox_message_id_fkey") := by
              unfold RuntimeStore.insertOutbox
              rw [if_neg, if_pos]
              · exact Option.isNone_iff_eq_none.mpr freeEvent
              · simp [updated, RuntimeStore.upsertAlert, freeOutbox]
            change (Except.toOption (({ updated with
              evidenceSnapshots := snapshots }).insertOutbox event)).map _ = none
            rw [refused]
            rfl
      · rename_i absent
        let inserted : RuntimeStore F := { updated with
          alertEvents := RuntimeStore.eventsAfter store.alertEvents decision (some event) }
        have first : updated.insertAlertEvent decision event = .ok inserted := by
          refine (if_neg absent).trans (if_neg ?_)
          simp [updated, RuntimeStore.upsertAlert, freeEvent]
        have rows := eventsAfter_unstamped decision freeEvent
        change ((updated.insertAlertEvent decision event >>= _).toOption.map _) = _
        rw [first]
        change ((inserted.insertEvidence decision evidence >>= fun store =>
          store.insertOutbox event).toOption.map RuntimeStore.records) = _
        refine Lib.map_toOption_bind (insertEvidence_records inserted decision evidence)
          fun store' second => ?_
        obtain ⟨snapshots, rfl⟩ := RuntimeStore.insertEvidence_eq_ok second
        rw [RuntimeStore.insertOutbox_new]
        · simp only [Except.toOption, Option.map_some, RuntimeStore.records, inserted, rows]
          rfl
        · exact freeOutbox
        · exact Lib.Table.isSome_get?_insertNew_self _ _ _

/-- With a fresh message id the transaction does on the records what `transact` says. -/
theorem recordDecisionTransition_records (store : RuntimeStore F) (decision : ScoreDecisionV1 F)
    (result : TransitionResult F)
    (fresh : ∀ event ∈ result.event, store.FreshEvent event.messageId) :
    (store.recordDecisionTransition decision result).toOption.map RuntimeStore.records =
      store.records.transact decision result.unstamped := by
  unfold RuntimeStore.recordDecisionTransition AlertRecords.transact
  refine Lib.map_toOption_bind
    (insertScoreDecision_records (store.ensureSessionExists decision) decision)
    fun store' first => ?_
  obtain rfl := RuntimeStore.insertScoreDecision_eq_ok first
  refine Lib.map_toOption_bind (insertEvent_records fresh) fun store'' _ => ?_
  rfl

end Refines

/-! ### The state a decision is folded into -/

section Load

variable [PyFloat F] [Uuid5]

namespace AlertRecords

/-- The state folded from the persisted decisions of a session. -/
def reconstruct (records : AlertRecords F) (session : UUID) (machineId : String)
    (policy : LockedAlertPolicyV1 F) : Except TransitionError AlertState :=
  ((records.scoreDecisions.values.filter
      (·.replaySessionId == session)).mergeSort RuntimeStore.decisionBefore).foldlM
    (fun state decision => do
      let result ← transition blankStamp state decision policy
      return result.state)
    (AlertState.empty session machineId)

def load (records : AlertRecords F) (session : UUID) (machineId : String)
    (policy : LockedAlertPolicyV1 F) : Except TransitionError (AlertState × AlertRecords F) :=
  match records.alertRuntimeStates.get? (session, machineId) with
  | some payload => .ok (stateFromPayload payload, records)
  | none =>
      if records.scoreDecisions.values.any (·.replaySessionId == session) then do
        let state ← records.reconstruct session machineId policy
        return (state, { records with
          alertRuntimeStates := records.alertRuntimeStates.insertNew (session, machineId)
            (statePayload state) })
      else .ok (.empty session machineId, records)

/-- The records after a decision, and the event it records. -/
def apply (config : AlertConsumerConfig F) (records : AlertRecords F)
    (decision : ScoreDecisionV1 F) : AlertRecords F × Option AlertEventV1 :=
  match records.load decision.replaySessionId config.machineId config.policy with
  | .error _ => (records, none)
  | .ok (state, loaded) =>
      match transition blankStamp state decision config.policy with
      | .error _ => (loaded, none)
      | .ok result =>
          match loaded.transact decision result.unstamped with
          | none => (loaded, none)
          | some recorded => (recorded, result.unstamped.event)

/-- The records after a sequence of decisions, and the events recorded. -/
def applyAll (records : AlertRecords F) :
    List (AlertConsumerConfig F × ScoreDecisionV1 F) → AlertRecords F × List AlertEventV1
  | [] => (records, [])
  | (config, decision) :: rest =>
      let (next, event) := records.apply config decision
      let (last, events) := next.applyAll rest
      (last, event.toList ++ events)

end AlertRecords

variable {store store' : RuntimeStore F} {call : DecisionCall F}

theorem reconstructAlertState_records (store : RuntimeStore F) (session : UUID)
    (machineId : String) (policy : LockedAlertPolicyV1 F) :
    store.reconstructAlertState session machineId policy =
      store.records.reconstruct session machineId policy := by
  have rows : store.records.scoreDecisions.values.filter (·.replaySessionId == session) =
      (store.scoreDecisions.values.filter (·.replaySessionId == session)).map (·.unstamped) := by
    unfold RuntimeStore.records
    rw [Lib.Table.values_mapValues, List.filter_map]
    rfl
  have sorted := List.map_mergeSort (r := RuntimeStore.decisionBefore) (s := RuntimeStore.decisionBefore)
    (f := ScoreDecisionV1.unstamped)
    (l := store.scoreDecisions.values.filter (·.replaySessionId == session)) (by intros; rfl)
  unfold RuntimeStore.reconstructAlertState AlertRecords.reconstruct
  rw [rows, ← sorted, List.foldlM_map]
  rfl

/-- Loading does on the records what `load` says, and uses no message id. -/
theorem loadAlertState_records (store : RuntimeStore F) (session : UUID) (machineId : String)
    (policy : LockedAlertPolicyV1 F) :
    (store.loadAlertState session machineId policy).map (fun (state, loaded) =>
        (state, loaded.records)) = store.records.load session machineId policy := by
  unfold RuntimeStore.loadAlertState AlertRecords.load
  have seen : (store.records.scoreDecisions.values.any (·.replaySessionId == session)) =
      store.scoreDecisions.values.any (·.replaySessionId == session) := by
    unfold RuntimeStore.records
    rw [Lib.Table.values_mapValues, List.any_map]
    rfl
  rw [reconstructAlertState_records, seen]
  change _ = match store.alertRuntimeStates.get? (session, machineId) with
    | some payload => _
    | none => _
  cases store.alertRuntimeStates.get? (session, machineId) with
  | some payload => rfl
  | none =>
      dsimp only
      split
      · cases store.records.reconstruct session machineId policy <;> rfl
      · rfl

theorem loadAlertState_ids {session : UUID} {machineId : String} {policy : LockedAlertPolicyV1 F}
    {state : AlertState}
    (loaded : store.loadAlertState session machineId policy = .ok (state, store')) :
    store'.alertEvents = store.alertEvents ∧ store'.alertOutbox = store.alertOutbox := by
  unfold RuntimeStore.loadAlertState at loaded
  split at loaded
  · cases loaded
    exact ⟨rfl, rfl⟩
  · split at loaded
    · obtain ⟨rebuilt, -, last⟩ := Lib.bind_eq_ok_iff.mp loaded
      cases last
      exact ⟨rfl, rfl⟩
    · cases loaded
      exact ⟨rfl, rfl⟩

/-- With a fresh message id a decision does on the records what `apply` says. -/
theorem applyDecision_records (store : RuntimeStore F) (call : DecisionCall F)
    (fresh : store.FreshEvent call.stamp.eventMessageId) :
    ((store.applyDecision call).1.records, (store.applyDecision call).2.map (·.unstamped)) =
      store.records.apply call.config call.decision.val := by
  have loads := loadAlertState_records store call.session call.config.machineId call.config.policy
  unfold RuntimeStore.applyDecision AlertRecords.apply
  change _ = match store.records.load call.session call.config.machineId call.config.policy with
    | .error _ => _
    | .ok (state, loaded) => _
  cases loading : store.loadAlertState call.session call.config.machineId call.config.policy with
  | error refused =>
      rw [loading] at loads
      rw [← loads]
      rfl
  | ok loaded =>
      obtain ⟨state, loaded⟩ := loaded
      rw [loading] at loads
      rw [← loads]
      obtain ⟨events, outbox⟩ := loadAlertState_ids loading
      have transitions := transition_unstamped call.stamp blankStamp state call.decision.val
        call.config.policy
      dsimp only [Except.map]
      cases taken : transition call.stamp state call.decision.val call.config.policy with
      | error raised =>
          rw [taken] at transitions
          cases blank : transition blankStamp state call.decision.val call.config.policy with
          | error raised' => rfl
          | ok result => rw [blank] at transitions; cases transitions
      | ok result =>
          rw [taken] at transitions
          cases blank : transition blankStamp state call.decision.val call.config.policy with
          | error raised' => rw [blank] at transitions; cases transitions
          | ok result' =>
              rw [blank] at transitions
              have same : result.unstamped = result'.unstamped := Except.ok.inj transitions
              have records := recordDecisionTransition_records loaded call.decision.val result
                fun event emitted => by
                  rw [transition_messageId taken event emitted]
                  unfold RuntimeStore.FreshEvent
                  rw [events, outbox]
                  exact fresh
              dsimp only
              rw [← same, ← records]
              cases loaded.recordDecisionTransition call.decision.val result <;> rfl

/-- A message id that the stamp of the decision does not use stays fresh. -/
theorem applyDecision_fresh {messageId : UUID} (fresh : store.FreshEvent messageId)
    (other : messageId ≠ call.stamp.eventMessageId) :
    (store.applyDecision call).1.FreshEvent messageId := by
  unfold RuntimeStore.applyDecision
  cases loading : store.loadAlertState call.session call.config.machineId call.config.policy with
  | error refused => exact fresh
  | ok loaded =>
      obtain ⟨state, loaded⟩ := loaded
      obtain ⟨events, outbox⟩ := loadAlertState_ids loading
      have freshLoaded : loaded.FreshEvent messageId := by
        unfold RuntimeStore.FreshEvent
        rw [events, outbox]
        exact fresh
      dsimp only
      cases taken : transition call.stamp state call.decision.val call.config.policy with
      | error raised => exact freshLoaded
      | ok result =>
          dsimp only
          cases committed : loaded.recordDecisionTransition call.decision.val result with
          | error refused => exact freshLoaded
          | ok recorded =>
              have wrote := RuntimeStore.recordDecisionTransition_eq_ok committed
              have unused : ∀ event ∈ result.event, messageId ≠ event.messageId := by
                intro event emitted
                rw [transition_messageId taken event emitted]
                exact other
              refine ⟨(wrote.alertEvents _ unused).trans freshLoaded.1, ?_⟩
              dsimp only
              rw [wrote.alertOutbox]
              cases emitted : result.event with
              | none => exact freshLoaded.2
              | some event =>
                  exact (Lib.Table.get?_insertNew_ne (unused event emitted)).trans freshLoaded.2

theorem applyDecisions_fresh {calls : List (DecisionCall F)} {messageId : UUID}
    (fresh : store.FreshEvent messageId)
    (other : messageId ∉ calls.map (·.stamp.eventMessageId)) :
    (store.applyDecisions calls).1.FreshEvent messageId := by
  induction calls generalizing store with
  | nil => exact fresh
  | cons call rest ih =>
      rw [List.map_cons, List.mem_cons, not_or] at other
      exact ih (applyDecision_fresh fresh other.1) other.2

/-- A sequence of decisions, with message ids that are fresh and used once. -/
theorem applyDecisions_records (store : RuntimeStore F) {calls : List (DecisionCall F)}
    (once : (calls.map (·.stamp.eventMessageId)).Nodup)
    (fresh : ∀ call ∈ calls, store.FreshEvent call.stamp.eventMessageId) :
    ((store.applyDecisions calls).1.records,
        (store.applyDecisions calls).2.map (·.unstamped)) =
      store.records.applyAll (calls.map fun call => (call.config, call.decision.val)) := by
  induction calls generalizing store with
  | nil => rfl
  | cons call rest ih =>
      obtain ⟨notAgain, restOnce⟩ := List.nodup_cons.mp once
      have here := applyDecision_records store call (fresh call List.mem_cons_self)
      have there := @ih (store.applyDecision call).1 restOnce fun later mem => by
        refine applyDecision_fresh (fresh later (List.mem_cons_of_mem _ mem)) fun same => ?_
        exact notAgain (List.mem_map.mpr ⟨later, mem, same⟩)
      unfold RuntimeStore.applyDecisions
      rw [List.map_cons]
      unfold AlertRecords.applyAll
      rw [← here]
      dsimp only
      rw [← there]
      dsimp only
      rw [List.map_append]
      cases (store.applyDecision call).2 <;> rfl

end Load

end IndustrialReliability
