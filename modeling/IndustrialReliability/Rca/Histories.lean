import IndustrialReliability.Alert.Records
import IndustrialReliability.Rca.Evidence

/-!
Evidence and the history of an alert.

Two services take the same decisions, with message ids and emission times of their own.
What they store agrees but for these (`applyDecisions_records`), and a bundle depends on
the order of an alert's events alone among what may differ (`bundleOf_eq`). The events
of an alert are read in the order of their random ids, so they come in the order they
happened exactly when the ids happen to ascend (`history_only_iff`).
-/

namespace IndustrialReliability

variable {F : Type}

/-! ### Reading a detail -/

/-- What a bundle takes from a detail. -/
structure DetailContent (F : Type) where
  alert : AlertSummaryRecord
  action : Option AlertAction
  evidence : List (EvidenceSnapshotV1 F)
  decisions : List (ScoreDecisionV1 F)

/-- Without ids and emission times, and of the events only the first action. -/
def AlertDetailRecord.content (detail : AlertDetailRecord F) : DetailContent F where
  alert := detail.alert
  action := detail.events.head?.map (·.action)
  evidence := detail.evidence.map (·.unstamped)
  decisions := detail.decisions.map (·.unstamped)

/-- A detail with the content given. -/
def DetailContent.detail (content : DetailContent F) : AlertDetailRecord F where
  alert := content.alert
  events := (content.action.map fun action => {
    messageId := 0, replaySessionId := 0, sourceDatasetSha256 := 0, contractSha256 := 0,
    sourceTimestamp := 0, emittedAt := ⟨0⟩, alertId := 0, machineId := "", action,
    firstDetection := 0, lastDetection := 0, decisionIds := [], policySha256 := 0 }).toList
  evidence := content.evidence
  decisions := content.decisions
  rca := none

section Bundle

variable [PyFloat F] [Sha256Digest]

/-- A bundle depends on the content of the detail. -/
theorem bundleOf_content (manifest : Option (ChampionManifest F)) (alertId : UUID)
    (detail : AlertDetailRecord F) :
    bundleOf manifest alertId detail = bundleOf manifest alertId detail.content.detail := by
  obtain ⟨alert, events, evidence, decisions, rca⟩ := detail
  have alertItem : getAlertEvidence ⟨alert, events, evidence, decisions, rca⟩ = getAlertEvidence
      (AlertDetailRecord.content ⟨alert, events, evidence, decisions, rca⟩).detail := by
    unfold getAlertEvidence
    cases events <;> cases decisions <;>
      simp [AlertDetailRecord.content, DetailContent.detail, ScoreDecisionV1.unstamped, evidenceItem]
  have scoreItem : getScoreEvidence ⟨alert, events, evidence, decisions, rca⟩ = getScoreEvidence
      (AlertDetailRecord.content ⟨alert, events, evidence, decisions, rca⟩).detail := by
    unfold getScoreEvidence
    cases evidence <;> rfl
  have provenanceItem :
      getModelProvenanceEvidence manifest ⟨alert, events, evidence, decisions, rca⟩ =
        getModelProvenanceEvidence manifest
          (AlertDetailRecord.content ⟨alert, events, evidence, decisions, rca⟩).detail := by
    unfold getModelProvenanceEvidence
    cases decisions <;> rfl
  have healthItem : getSystemHealthEvidence ⟨alert, events, evidence, decisions, rca⟩ =
      getSystemHealthEvidence
        (AlertDetailRecord.content ⟨alert, events, evidence, decisions, rca⟩).detail := by
    unfold getSystemHealthEvidence
    cases evidence <;> rfl
  have ids : bundleIds decisions = bundleIds
      (AlertDetailRecord.content ⟨alert, events, evidence, decisions, rca⟩).detail.decisions := by
    cases decisions <;> rfl
  unfold bundleOf
  rw [alertItem, scoreItem, provenanceItem, healthItem, ids]

theorem bundleOf_eq {manifest : Option (ChampionManifest F)} {alertId : UUID}
    {detail detail' : AlertDetailRecord F} (same : detail.content = detail'.content) :
    bundleOf manifest alertId detail = bundleOf manifest alertId detail' := by
  rw [bundleOf_content, same, ← bundleOf_content]

end Bundle

/-! ### Stores with the same records -/

section Records

variable {store store' : RuntimeStore F} {reports reports' : RcaReports} {alertId : UUID}

theorem evidenceOf_records (same : store.records = store'.records) :
    (store.evidenceOf alertId).map (·.unstamped) = (store'.evidenceOf alertId).map (·.unstamped) := by
  have general (store : RuntimeStore F) : (store.evidenceOf alertId).map (·.unstamped) =
      ((store.records.evidenceSnapshots.rows.filter fun row => row.2.alertId = alertId).insertionSort
        fun a b => a.1 ≤ b.1).map (·.2.payload) := by
    unfold RuntimeStore.evidenceOf RuntimeStore.records Lib.Table.mapValues
    dsimp only
    rw [List.filter_map, ← List.map_insertionSort (fun a b => a.1 ≤ b.1) _ _ _ (by simp),
      List.map_map, List.map_map]
    rfl
  rw [general, general, same]

theorem decisionsOf_records (same : store.records = store'.records) :
    (store.decisionsOf alertId).map (·.unstamped) =
      (store'.decisionsOf alertId).map (·.unstamped) := by
  have general (store : RuntimeStore F) : (store.decisionsOf alertId).map (·.unstamped) =
      ((store.records.alertEvents.filter fun row => row.alertId = alertId).filterMap fun row =>
        store.records.scoreDecisions.get? row.decisionId).insertionSort
          fun a b => a.sourceTimestamp ≤ b.sourceTimestamp := by
    unfold RuntimeStore.decisionsOf RuntimeStore.records
    dsimp only
    rw [List.filter_map, List.filterMap_map,
      List.map_insertionSort _ (fun a b => a.sourceTimestamp ≤ b.sourceTimestamp) _ _
        (by intros; rfl), List.map_filterMap]
    simp only [Lib.Table.get?_mapValues]
    rfl
  rw [general, general, same]

end Records

/-! ### The events a run stores -/

/-- The rows of `alert_events` are the events of the run, in the order they happened. -/
structure Journal (store : RuntimeStore F) (events : List AlertEventV1) : Prop where
  rows : store.alertEvents.rows.map (fun row => (row.1, row.2.payload)) =
    events.map fun event => (event.messageId, event)
  owners : ∀ row ∈ store.alertEvents.rows, row.2.alertId = row.2.payload.alertId
  alerts : ∀ event ∈ events, (store.alerts.get? event.alertId).isSome

theorem journal_empty : Journal (RuntimeStore.empty : RuntimeStore F) [] where
  rows := rfl
  owners _ mem := absurd mem List.not_mem_nil
  alerts _ mem := absurd mem List.not_mem_nil

section Runs

variable {store store' : RuntimeStore F} {events : List AlertEventV1}
  {decision : ScoreDecisionV1 F} {result : TransitionResult F}

/-- A committed transaction whose event has a fresh id has stored it. -/
theorem committed_alertEvents (fresh : ∀ event ∈ result.event, store.FreshEvent event.messageId)
    (committed : store.recordDecisionTransition decision result = .ok store') :
    store'.alertEvents = RuntimeStore.eventsAfter store.alertEvents decision result.event := by
  obtain ⟨withDecision, first, committed⟩ := Lib.bind_eq_ok_iff.mp committed
  obtain ⟨withEvent, second, last⟩ := Lib.bind_eq_ok_iff.mp committed
  obtain rfl := Lib.pure_eq_ok_iff.mp last
  obtain rfl := RuntimeStore.insertScoreDecision_eq_ok first
  cases emitted : result.event with
  | none =>
      rw [emitted] at second
      cases second
      rfl
  | some event =>
      rw [emitted] at second
      obtain ⟨freeEvent, freeOutbox⟩ := fresh event emitted
      obtain ⟨inserted, stored, second⟩ := Lib.bind_eq_ok_iff.mp second
      obtain ⟨evidenced, evidence, outbox⟩ := Lib.bind_eq_ok_iff.mp second
      obtain ⟨snapshots, rfl⟩ := RuntimeStore.insertEvidence_eq_ok evidence
      obtain rfl := RuntimeStore.insertOutbox_eq_ok outbox
      unfold RuntimeStore.insertAlertEvent at stored
      split at stored
      · -- the outbox row would refer to no event
        cases stored
        unfold RuntimeStore.insertOutbox at outbox
        rw [if_neg (by
            simpa [RuntimeStore.upsertAlert, RuntimeStore.ensureSessionExists] using freeOutbox),
          if_pos (by
            simpa [RuntimeStore.upsertAlert, RuntimeStore.ensureSessionExists] using freeEvent)]
          at outbox
        cases outbox
      · split at stored
        · cases stored
        · cases stored
          rfl

theorem alertsAfter_isSome {alerts : Lib.Table UUID AlertRow} {event : Option AlertEventV1}
    {alertId : UUID}
    (held : (alerts.get? alertId).isSome ∨ ∃ emitted ∈ event, emitted.alertId = alertId) :
    ((RuntimeStore.alertsAfter alerts decision event).get? alertId).isSome := by
  cases event with
  | none =>
      rcases held with held | ⟨_, ⟨⟩, _⟩
      exact held
  | some event =>
      unfold RuntimeStore.alertsAfter RuntimeStore.upsertAlertRow
      by_cases same : alertId = event.alertId
      · rw [same, Lib.Table.get?_upsert_self]
        split <;> rfl
      · rw [Lib.Table.get?_upsert_ne same]
        rcases held with held | ⟨_, ⟨⟩, other⟩
        · exact held
        · exact absurd other.symm same

/-- A committed transaction adds its event to the journal. -/
theorem Journal.committed (journal : Journal store events)
    (fresh : ∀ event ∈ result.event, store.FreshEvent event.messageId)
    (committed : store.recordDecisionTransition decision result = .ok store') :
    Journal store' (events ++ result.event.toList) := by
  have stored := committed_alertEvents fresh committed
  have wrote := RuntimeStore.recordDecisionTransition_eq_ok committed
  have alerts : ∀ event ∈ events ++ result.event.toList,
      (store'.alerts.get? event.alertId).isSome := by
    intro event mem
    rw [wrote.alerts]
    refine alertsAfter_isSome ?_
    rcases List.mem_append.mp mem with before | new
    · exact .inl (journal.alerts event before)
    · exact .inr ⟨event, Option.mem_toList.mp new, rfl⟩
  cases emitted : result.event with
  | none =>
      rw [emitted] at stored alerts
      refine ⟨?_, ?_, alerts⟩
      · rw [stored]
        simpa [RuntimeStore.eventsAfter] using journal.rows
      · rw [stored]
        exact journal.owners
  | some event =>
      rw [emitted] at stored alerts
      have rows : store'.alertEvents.rows = store.alertEvents.rows ++
          [(event.messageId, ⟨event.alertId, decision.decisionId, event.action, event⟩)] := by
        rw [stored]
        exact Lib.Table.insertNew_rows (fresh event emitted).1
      refine ⟨?_, ?_, alerts⟩
      · rw [rows, List.map_append, journal.rows]
        simp
      · intro row mem
        rw [rows] at mem
        rcases List.mem_append.mp mem with before | new
        · exact journal.owners row before
        · rw [List.mem_singleton.mp new]

variable [PyFloat F] [Uuid5] {call : DecisionCall F} {calls : List (DecisionCall F)}

theorem Journal.loaded {session : UUID} {machineId : String} {policy : LockedAlertPolicyV1 F}
    {state : AlertState} (journal : Journal store events)
    (loaded : store.loadAlertState session machineId policy = .ok (state, store')) :
    Journal store' events := by
  have same : store'.alertEvents = store.alertEvents ∧ store'.alerts = store.alerts := by
    unfold RuntimeStore.loadAlertState at loaded
    split at loaded
    · cases loaded
      exact ⟨rfl, rfl⟩
    · split at loaded
      · obtain ⟨rebuilt, -, last⟩ := Lib.bind_eq_ok_iff.mp loaded
        cases last
        exact ⟨rfl, rfl⟩
      · cases loaded
        exact ⟨rfl, rfl⟩
  exact ⟨same.1 ▸ journal.rows, same.1 ▸ journal.owners, same.2 ▸ journal.alerts⟩

/-- A decision adds the event it records. -/
theorem Journal.applyDecision (journal : Journal store events)
    (fresh : store.FreshEvent call.stamp.eventMessageId) :
    Journal (store.applyDecision call).1 (events ++ (store.applyDecision call).2.toList) := by
  unfold RuntimeStore.applyDecision
  cases loading : store.loadAlertState call.session call.config.machineId call.config.policy with
  | error refused => simpa using journal
  | ok loaded =>
      obtain ⟨state, loaded⟩ := loaded
      have after := journal.loaded loading
      dsimp only
      cases taken : transition call.stamp state call.decision.val call.config.policy with
      | error raised => simpa using after
      | ok result =>
          dsimp only
          cases committed : loaded.recordDecisionTransition call.decision.val result with
          | error refused => simpa using after
          | ok recorded =>
              refine after.committed (fun event emitted => ?_) committed
              obtain ⟨sameEvents, sameOutbox⟩ := loadAlertState_ids loading
              rw [transition_messageId taken event emitted]
              unfold RuntimeStore.FreshEvent
              rw [sameEvents, sameOutbox]
              exact fresh

/-- A run adds the events it records. -/
theorem Journal.applyDecisions (journal : Journal store events)
    (once : (calls.map (·.stamp.eventMessageId)).Nodup)
    (fresh : ∀ call ∈ calls, store.FreshEvent call.stamp.eventMessageId) :
    Journal (store.applyDecisions calls).1 (events ++ (store.applyDecisions calls).2) := by
  induction calls generalizing store events with
  | nil => simpa [RuntimeStore.applyDecisions] using journal
  | cons call rest ih =>
      obtain ⟨notAgain, restOnce⟩ := List.nodup_cons.mp once
      have here := journal.applyDecision (fresh call List.mem_cons_self)
      have there := ih here restOnce fun later mem => by
        refine applyDecision_fresh (fresh later (List.mem_cons_of_mem _ mem)) fun same => ?_
        exact notAgain (List.mem_map.mpr ⟨later, mem, same⟩)
      rw [List.append_assoc] at there
      exact there

end Runs

/-! ### The order of the events of an alert -/

/-- The events of an alert. -/
def ofAlert (alertId : UUID) (events : List AlertEventV1) : List AlertEventV1 :=
  events.filter fun event => event.alertId = alertId

section Order

variable {store : RuntimeStore F} {events : List AlertEventV1} {alertId : UUID}

/-- The rows of an alert, as they were inserted. -/
theorem Journal.rowsOf (journal : Journal store events) (alertId : UUID) :
    (store.alertEvents.rows.filter fun row => row.2.alertId = alertId).map
        (fun row => (row.1, row.2.payload)) =
      (ofAlert alertId events).map fun event => (event.messageId, event) := by
  have owned : (store.alertEvents.rows.filter fun row => row.2.alertId = alertId) =
      store.alertEvents.rows.filter fun row => row.2.payload.alertId = alertId :=
    List.filter_congr fun row mem => by rw [journal.owners row mem]
  have selected := congrArg (List.filter fun row => row.2.alertId = alertId) journal.rows
  rw [List.filter_map, List.filter_map] at selected
  rw [owned]
  exact selected

/-- `ORDER BY message_id`. -/
abbrev ByMessageId (a b : UUID × AlertEventRow) : Prop := a.1 ≤ b.1

instance : Std.Total ByMessageId := ⟨fun a b => le_total a.1 b.1⟩

instance : IsTrans (UUID × AlertEventRow) ByMessageId := ⟨fun _ _ _ => le_trans⟩

/-- The events of an alert are read in the order they happened exactly when their ids
ascend. -/
theorem Journal.eventsOf_eq_iff (journal : Journal store events) :
    store.eventsOf alertId = ofAlert alertId events ↔
      ((ofAlert alertId events).map (·.messageId)).Pairwise (· < ·) := by
  have stored := journal.rowsOf alertId
  unfold RuntimeStore.eventsOf
  generalize inserted : (store.alertEvents.rows.filter fun row => row.2.alertId = alertId) = rows
  rw [inserted] at stored
  have ids : rows.map (·.1) = (ofAlert alertId events).map (·.messageId) := by
    have first := congrArg (List.map Prod.fst) stored
    rwa [List.map_map, List.map_map] at first
  have payloads : rows.map (·.2.payload) = ofAlert alertId events := by
    have second := congrArg (List.map Prod.snd) stored
    rw [List.map_map, List.map_map] at second
    exact second.trans (List.map_id _)
  have distinct : (rows.map (·.1)).Nodup := by
    rw [← inserted]
    exact store.alertEvents.keys_nodup.sublist (List.filter_sublist.map _)
  constructor
  · intro read
    have named : ∀ row ∈ rows, row.1 = row.2.payload.messageId := by
      intro row mem
      have paired : (row.1, row.2.payload) ∈ (ofAlert alertId events).map
          fun event => (event.messageId, event) := stored ▸ List.mem_map_of_mem mem
      obtain ⟨event, -, same⟩ := List.mem_map.mp paired
      obtain ⟨id, payload⟩ := Prod.mk.inj same
      rw [← id, payload]
    have sorted : (rows.insertionSort ByMessageId).Pairwise ByMessageId :=
      List.pairwise_insertionSort ByMessageId rows
    have perm := List.perm_insertionSort ByMessageId rows
    rw [← read, List.map_map, List.pairwise_map]
    have apart := List.pairwise_map.mp ((perm.map (·.1)).nodup_iff.mpr distinct)
    refine (sorted.and apart).imp_of_mem fun {a b} first second both => ?_
    have lt : a.1 < b.1 := lt_of_le_of_ne both.1 both.2
    rwa [named a (perm.mem_iff.mp first), named b (perm.mem_iff.mp second)] at lt
  · intro ascend
    rw [← ids, List.pairwise_map] at ascend
    have ordered : rows.Pairwise ByMessageId := ascend.imp fun lt => lt.le
    rw [ordered.insertionSort_eq, payloads]

end Order

/-! ### Two runs -/

section TwoRuns

variable [PyFloat F] [Uuid5] [Sha256Digest]

/-- The store of a service that has taken decisions from the start, and the events it has
recorded. -/
def alertRun (calls : List (DecisionCall F)) : RuntimeStore F × List AlertEventV1 :=
  RuntimeStore.empty.applyDecisions calls

/-- The events of every alert are read in the order they happened. -/
def EventsInOrder (reports : RcaReports) (calls : List (DecisionCall F)) : Prop :=
  ∀ alertId detail, (alertRun calls).1.getAlertDetail reports alertId = some detail →
    detail.events = ofAlert alertId (alertRun calls).2

/-- Two runs show the same history and the same evidence. -/
structure HistoryOnly (manifest : Option (ChampionManifest F)) (reports reports' : RcaReports)
    (calls calls' : List (DecisionCall F)) : Prop where
  inOrder : EventsInOrder reports calls
  inOrder' : EventsInOrder reports' calls'
  evidence : ∀ alertId, gatherEvidence manifest (alertRun calls).1 reports alertId =
    gatherEvidence manifest (alertRun calls').1 reports' alertId

/-- The message ids of the events of every alert ascend. -/
def EventIdsAscend (calls : List (DecisionCall F)) : Prop :=
  ∀ alertId, ((ofAlert alertId (alertRun calls).2).map (·.messageId)).Pairwise (· < ·)

/-- The calls agree but for their stamps. -/
def SameDecisions (calls calls' : List (DecisionCall F)) : Prop :=
  calls.map (fun call => (call.config, call.decision.val)) =
    calls'.map fun call => (call.config, call.decision.val)

variable {reports reports' : RcaReports} {calls calls' : List (DecisionCall F)}

omit [Sha256Digest] in
theorem alertRun_journal (once : (calls.map (·.stamp.eventMessageId)).Nodup) :
    Journal (alertRun calls).1 (alertRun calls).2 :=
  journal_empty.applyDecisions once fun _ _ => ⟨rfl, rfl⟩

omit [Sha256Digest] in
/-- Two runs over the same decisions agree but for ids and emission times. -/
theorem alertRun_records (same : SameDecisions calls calls')
    (once : (calls.map (·.stamp.eventMessageId)).Nodup)
    (once' : (calls'.map (·.stamp.eventMessageId)).Nodup) :
    (alertRun calls).1.records = (alertRun calls').1.records ∧
      (alertRun calls).2.map (·.unstamped) = (alertRun calls').2.map (·.unstamped) := by
  have applied := applyDecisions_records RuntimeStore.empty once fun _ _ => ⟨rfl, rfl⟩
  have applied' := applyDecisions_records RuntimeStore.empty once' fun _ _ => ⟨rfl, rfl⟩
  rw [same, ← applied'] at applied
  exact Prod.mk.inj applied

omit [Sha256Digest] in
theorem eventsInOrder_iff (once : (calls.map (·.stamp.eventMessageId)).Nodup) :
    EventsInOrder reports calls ↔ EventIdsAscend calls := by
  have journal := alertRun_journal once
  refine ⟨fun inOrder alertId => ?_, fun ascend alertId detail read => ?_⟩
  · cases happened : ofAlert alertId (alertRun calls).2 with
    | nil => exact .nil
    | cons event rest =>
        have mem : event ∈ ofAlert alertId (alertRun calls).2 := happened ▸ List.mem_cons_self
        obtain ⟨recorded, mine⟩ := List.mem_filter.mp mem
        have mine : event.alertId = alertId := of_decide_eq_true mine
        obtain ⟨row, held⟩ := Option.isSome_iff_exists.mp (journal.alerts event recorded)
        rw [mine] at held
        obtain ⟨detail, read, events⟩ : ∃ detail,
            (alertRun calls).1.getAlertDetail reports alertId = some detail ∧
              detail.events = (alertRun calls).1.eventsOf alertId := by
          unfold RuntimeStore.getAlertDetail
          rw [held]
          exact ⟨_, rfl, rfl⟩
        rw [← happened, ← journal.eventsOf_eq_iff, ← events]
        exact inOrder alertId detail read
  · obtain ⟨row, -, rfl⟩ := Option.map_eq_some_iff.mp read
    exact journal.eventsOf_eq_iff.mpr (ascend alertId)

/-- With ids that ascend in both runs, the evidence is the same. -/
theorem gatherEvidence_eq (manifest : Option (ChampionManifest F))
    (same : SameDecisions calls calls') (once : (calls.map (·.stamp.eventMessageId)).Nodup)
    (once' : (calls'.map (·.stamp.eventMessageId)).Nodup) (ascend : EventIdsAscend calls)
    (ascend' : EventIdsAscend calls') (alertId : UUID) :
    gatherEvidence manifest (alertRun calls).1 reports alertId =
      gatherEvidence manifest (alertRun calls').1 reports' alertId := by
  have journal := alertRun_journal once
  have journal' := alertRun_journal once'
  obtain ⟨records, events⟩ := alertRun_records same once once'
  have alerts : (alertRun calls).1.alerts = (alertRun calls').1.alerts :=
    congrArg AlertRecords.alerts records
  have actions : ((alertRun calls).1.eventsOf alertId).head?.map (·.action) =
      ((alertRun calls').1.eventsOf alertId).head?.map (·.action) := by
    rw [journal.eventsOf_eq_iff.mpr (ascend alertId), journal'.eventsOf_eq_iff.mpr (ascend' alertId)]
    have selected := congrArg (List.filter fun event => event.alertId = alertId) events
    rw [List.filter_map, List.filter_map] at selected
    have first := congrArg (fun events => events.head?.map AlertEventV1.action) selected
    rw [List.head?_map, List.head?_map, Option.map_map, Option.map_map] at first
    exact first
  unfold gatherEvidence RuntimeStore.getAlertDetail
  rw [alerts]
  cases (alertRun calls').1.alerts.get? alertId with
  | none => rfl
  | some row =>
      refine bundleOf_eq ?_
      unfold AlertDetailRecord.content
      dsimp only
      rw [actions, evidenceOf_records records, decisionsOf_records records]

/-- Two runs over the same decisions show the same history and the same evidence exactly
when the ids of each alert's events ascend in both. -/
theorem history_only_iff (manifest : Option (ChampionManifest F)) (reports reports' : RcaReports)
    (same : SameDecisions calls calls') (once : (calls.map (·.stamp.eventMessageId)).Nodup)
    (once' : (calls'.map (·.stamp.eventMessageId)).Nodup) :
    HistoryOnly manifest reports reports' calls calls' ↔ EventIdsAscend calls ∧ EventIdsAscend calls' := by
  constructor
  · intro historyOnly
    exact ⟨(eventsInOrder_iff once).mp historyOnly.inOrder,
      (eventsInOrder_iff once').mp historyOnly.inOrder'⟩
  · rintro ⟨ascend, ascend'⟩
    exact ⟨(eventsInOrder_iff once).mpr ascend, (eventsInOrder_iff once').mpr ascend',
      gatherEvidence_eq manifest same once once' ascend ascend'⟩

end TwoRuns

/-! ### An alert that is opened and updated -/

/-- Two anomalies, with the stamps given. -/
def twoAnomalies (first second : TransitionStamp) : List (DecisionCall Int) :=
  [⟨promptConsumer, first, checkedWindow 5 true []⟩,
    ⟨promptConsumer, second, checkedWindow 10 true []⟩]

/-- A digest that tells texts apart: a polynomial in their characters. -/
abbrev foldedDigest : Sha256Digest :=
  ⟨fun text => text.toList.foldl (fun n c => (n * 1000003 + c.toNat) % 2 ^ 256) 0⟩

/-- The alert of the two anomalies. -/
def anomalyAlert : UUID := 0x7d02caee6a625a7c9e37894c2789fa34

/-- The action that the evidence of the alert shows. -/
def shownAction [Uuid5] [Sha256Digest] (calls : List (DecisionCall Int)) :
    Option (JsonScalar Int) := do
  let bundle ← (gatherEvidence none (alertRun calls).1 .empty anomalyAlert).toOption
  let item ← bundle.items.head?
  item.facts.get? "action"

/-- Ids that ascend over the whole run ascend for every alert. -/
theorem eventIdsAscend_of_pairwise [PyFloat F] [Uuid5] {calls : List (DecisionCall F)}
    (ascend : ((alertRun calls).2.map (·.messageId)).Pairwise (· < ·)) : EventIdsAscend calls :=
  fun _ => ascend.sublist (List.filter_sublist.map _)

theorem ascending_history_only :
    letI := episodeNames
    letI := foldedDigest
    shownAction (twoAnomalies (stampAt 0) (stampAt 1)) = some (.text "OPENED") ∧
      HistoryOnly none .empty .empty (twoAnomalies (stampAt 0) (stampAt 1))
        (twoAnomalies (stampAt 3) (stampAt 7)) := by
  let := episodeNames
  let := foldedDigest
  have once : ((twoAnomalies (stampAt 0) (stampAt 1)).map (·.stamp.eventMessageId)).Nodup := by decide
  have once' : ((twoAnomalies (stampAt 3) (stampAt 7)).map (·.stamp.eventMessageId)).Nodup := by decide
  have ascend : EventIdsAscend (twoAnomalies (stampAt 0) (stampAt 1)) :=
    eventIdsAscend_of_pairwise (by decide +kernel)
  have ascend' : EventIdsAscend (twoAnomalies (stampAt 3) (stampAt 7)) :=
    eventIdsAscend_of_pairwise (by decide +kernel)
  have same : SameDecisions (twoAnomalies (stampAt 0) (stampAt 1))
      (twoAnomalies (stampAt 3) (stampAt 7)) := rfl
  exact ⟨by decide +kernel,
    (history_only_iff none .empty .empty same once once').mpr ⟨ascend, ascend'⟩⟩

/-- With the ids the other way round the alert was updated first, as far as its evidence
shows. -/
theorem descending_history_differs :
    letI := episodeNames
    letI := foldedDigest
    shownAction (twoAnomalies (stampAt 0) (stampAt 1)) = some (.text "OPENED") ∧
      shownAction (twoAnomalies (stampAt 1) (stampAt 0)) = some (.text "UPDATED") ∧
      ¬ HistoryOnly none .empty .empty (twoAnomalies (stampAt 0) (stampAt 1))
        (twoAnomalies (stampAt 1) (stampAt 0)) := by
  let := episodeNames
  let := foldedDigest
  refine ⟨by decide +kernel, by decide +kernel, fun historyOnly => ?_⟩
  have ascend := (eventsInOrder_iff (by decide)).mp historyOnly.inOrder' anomalyAlert
  revert ascend
  decide +kernel

end IndustrialReliability
