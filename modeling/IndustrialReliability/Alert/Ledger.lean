import IndustrialReliability.Alert.Consumer
import IndustrialReliability.Alert.Simulation
import IndustrialReliability.Alert.Stamps

/-!
What the alert pipeline is to leave behind: the ledger of a session.

The ledger is the abstract model of the pipeline. It is a function of the
decisions of a session, each taken once and in order: the alert state, and the
records without random ids and emission times. `Settled` says that the machine
has gone through a list of decisions; one more is taken exactly when it is
`Recordable` (`Settled.transition_ok`, `Settled.append`).
-/

namespace IndustrialReliability

variable {F : Type}

/-! ### The ledger -/

/-- A decision without its message id and emission time. -/
def ScoreDecisionV1.unstamped (decision : ScoreDecisionV1 F) : ScoreDecisionV1 F :=
  { decision with messageId := 0, emittedAt := ⟨0⟩ }

/-- The rows a session leaves behind, without random ids and emission times. -/
structure AlertRecords (F : Type) where
  scoreDecisions : Lib.Table UUID (ScoreDecisionV1 F)
  alerts : Lib.Table UUID AlertRow
  alertEvents : List AlertEventRow
  evidenceSnapshots : Lib.Table UUID (EvidenceRow F)
  alertRuntimeStates : Lib.Table (UUID × String) StatePayload

def AlertEventRow.unstamped (row : AlertEventRow) : AlertEventRow :=
  { row with payload := row.payload.unstamped }

def EvidenceRow.unstamped (row : EvidenceRow F) : EvidenceRow F :=
  { row with payload := row.payload.unstamped }

/-- The records a store holds. -/
def RuntimeStore.records (store : RuntimeStore F) : AlertRecords F where
  scoreDecisions := store.scoreDecisions.mapValues (·.unstamped)
  alerts := store.alerts
  alertEvents := store.alertEvents.values.map (·.unstamped)
  evidenceSnapshots := store.evidenceSnapshots.mapValues (·.unstamped)
  alertRuntimeStates := store.alertRuntimeStates

/-- The records after a decision and its result. -/
def AlertRecords.record (records : AlertRecords F) (decision : ScoreDecisionV1 F)
    (result : TransitionResult F) : AlertRecords F where
  scoreDecisions := records.scoreDecisions.insertNew decision.decisionId decision.unstamped
  alerts := RuntimeStore.alertsAfter records.alerts decision result.event
  alertEvents := match result.event with
    | some event => records.alertEvents ++
        [⟨event.alertId, decision.decisionId, event.action, event⟩]
    | none => records.alertEvents
  evidenceSnapshots :=
    RuntimeStore.evidenceAfter records.evidenceSnapshots decision result.event result.evidence
  alertRuntimeStates := RuntimeStore.upsertStateRow records.alertRuntimeStates result.state

structure Ledger (F : Type) where
  state : AlertState
  records : AlertRecords F

def Ledger.empty (session : UUID) (machineId : String) : Ledger F :=
  ⟨.empty session machineId, RuntimeStore.empty.records⟩

/-- The stamp of a transition whose messages lose it again. -/
def blankStamp : TransitionStamp := ⟨0, ⟨0⟩, 0, ⟨0⟩⟩

section Decide

variable [PyFloat F] [Uuid5]

/-- The ledger after one more decision. -/
def Ledger.decide (policy : LockedAlertPolicyV1 F) (ledger : Ledger F)
    (decision : ScoreDecisionV1 F) : Ledger F :=
  match transition blankStamp ledger.state decision policy with
  | .error _ => ledger
  | .ok result => ⟨result.state, ledger.records.record decision result.unstamped⟩

/-- The ledger of the decisions of a session, each taken once. -/
def ledgerOf (policy : LockedAlertPolicyV1 F) (session : UUID) (machineId : String)
    (decisions : List (ScoreDecisionV1 F)) : Ledger F :=
  decisions.foldl (Ledger.decide policy) (.empty session machineId)

theorem ledgerOf_append (policy : LockedAlertPolicyV1 F) (session : UUID) (machineId : String)
    (decisions : List (ScoreDecisionV1 F)) (decision : ScoreDecisionV1 F) :
    ledgerOf policy session machineId (decisions ++ [decision]) =
      (ledgerOf policy session machineId decisions).decide policy decision :=
  List.foldl_append

/-- A transition that succeeds under some stamp extends the ledger by it. -/
theorem Ledger.decide_of_ok {policy : LockedAlertPolicyV1 F} {ledger : Ledger F}
    {decision : ScoreDecisionV1 F} {stamp : TransitionStamp} {result : TransitionResult F}
    (taken : transition stamp ledger.state decision policy = .ok result) :
    ledger.decide policy decision =
      ⟨result.state, ledger.records.record decision result.unstamped⟩ := by
  have same := transition_unstamped stamp blankStamp ledger.state decision policy
  rw [taken] at same
  unfold Ledger.decide
  cases blank : transition blankStamp ledger.state decision policy with
  | error e =>
      rw [blank] at same
      cases same
  | ok result' =>
      rw [blank] at same
      have eq : result.unstamped = result'.unstamped := Except.ok.inj same
      have states : result.unstamped.state = result'.unstamped.state := by rw [eq]
      have states : result.state = result'.state := states
      simp only [states, eq]

/-- A transition does not read the message id and emission time of its decision. -/
theorem transition_unstamped_decision (stamp : TransitionStamp) (state : AlertState)
    (decision : ScoreDecisionV1 F) (policy : LockedAlertPolicyV1 F) :
    transition stamp state decision.unstamped policy = transition stamp state decision policy :=
  rfl

end Decide

/-! ### The records of a recorded decision -/

theorem eventsAfter_unstamped {events : Lib.Table UUID AlertEventRow}
    (decision : ScoreDecisionV1 F) {event : AlertEventV1}
    (free : events.get? event.messageId = none) :
    (RuntimeStore.eventsAfter events decision (some event)).values.map (·.unstamped) =
      events.values.map (·.unstamped) ++
        [⟨event.alertId, decision.decisionId, event.action, event.unstamped⟩] := by
  unfold RuntimeStore.eventsAfter
  rw [Lib.Table.insertNew_values free, List.map_append]
  rfl

theorem evidenceAfter_unstamped (snapshots : Lib.Table UUID (EvidenceRow F))
    (decision : ScoreDecisionV1 F) (event : Option AlertEventV1)
    (evidence : Option (EvidenceSnapshotV1 F)) :
    (RuntimeStore.evidenceAfter snapshots decision event evidence).mapValues (·.unstamped) =
      RuntimeStore.evidenceAfter (snapshots.mapValues (·.unstamped)) decision
        (event.map (·.unstamped)) (evidence.map (·.unstamped)) := by
  cases event with
  | none => rfl
  | some event =>
      cases evidence with
      | none => rfl
      | some evidence => exact Lib.Table.mapValues_insertNew _ _ _ _

/-- Recording a new decision records its result in the ledger. -/
theorem RuntimeStore.records_recorded {store : RuntimeStore F} {decision : ScoreDecisionV1 F}
    {result : TransitionResult F} (new : store.NewMessages decision result) :
    (store.recorded decision result).records =
      store.records.record decision result.unstamped := by
  have decisions := Lib.Table.mapValues_insertNew store.scoreDecisions (·.unstamped)
    decision.decisionId decision
  have evidence := evidenceAfter_unstamped store.evidenceSnapshots decision result.event
    result.evidence
  obtain ⟨state, event, snapshot⟩ := result
  unfold RuntimeStore.records RuntimeStore.recorded AlertRecords.record TransitionResult.unstamped
  dsimp only at evidence ⊢
  rw [decisions, evidence]
  cases event with
  | none => rfl
  | some event =>
      rw [eventsAfter_unstamped _ (new.event event rfl).1]
      rfl

/-! ### The decisions the machine goes through -/

section Settled

variable [PyFloat F]

/-- The decision can be recorded after those before it: its texts can be stored, its
window is new, and if it is anomalous and leaves an alert active, its evidence
converts. -/
structure Recordable (policy : LockedAlertPolicyV1 F) (before : List (ScoreDecisionV1 F))
    (decision : ScoreDecisionV1 F) : Prop where
  storable : decision.Storable
  window : ∀ earlier ∈ before, earlier.windowId ≠ decision.windowId
  converts : decision.isAnomaly = true →
    RaisedAndNotCooled (windowsOf policy.persistenceDecisions) (windowsOf policy.cooldownDecisions)
      ((before ++ [decision]).map (·.isAnomaly)) → EvidenceConverts decision

/-- Each decision can be recorded after those before it. -/
def Admissible (policy : LockedAlertPolicyV1 F) (decisions : List (ScoreDecisionV1 F)) : Prop :=
  ∀ before decision after, decisions = before ++ decision :: after →
    Recordable policy before decision

variable [Uuid5] {policy : LockedAlertPolicyV1 F} {session : UUID} {machineId : String}
  {seen : List (ScoreDecisionV1 F)} {decision : ScoreDecisionV1 F} {stamp : TransitionStamp}

omit [Uuid5] in
theorem admissible_append : Admissible policy (seen ++ [decision]) ↔
    Admissible policy seen ∧ Recordable policy seen decision := by
  constructor
  · intro admissible
    refine ⟨fun before earlier after split => ?_, admissible seen decision [] rfl⟩
    exact admissible before earlier (after ++ [decision]) (by rw [split]; simp)
  · rintro ⟨admissible, last⟩ before earlier after split
    rcases List.eq_nil_or_concat' after with rfl | ⟨front, final, rfl⟩
    · obtain ⟨rfl, same⟩ := List.append_inj' split rfl
      obtain rfl : decision = earlier := by simpa using same
      exact last
    · have split' : seen ++ [decision] = (before ++ earlier :: front) ++ [final] := by
        rw [split]
        simp
      obtain ⟨rfl, -⟩ := List.append_inj' split' rfl
      exact admissible before earlier front rfl

omit [Uuid5] in
/-- A decision of the list is recordable after those before it. -/
theorem Admissible.of_mem (admissible : Admissible policy seen) (mem : decision ∈ seen) :
    ∃ before, Recordable policy before decision := by
  obtain ⟨before, after, split⟩ := List.append_of_mem mem
  exact ⟨before, admissible before decision after split⟩

/-- The machine has gone through the decisions of the session. -/
structure Settled (policy : LockedAlertPolicyV1 F) (session : UUID) (machineId : String)
    (seen : List (ScoreDecisionV1 F)) : Prop where
  owner : (ledgerOf policy session machineId seen).state.replaySessionId = session
  machine : (ledgerOf policy session machineId seen).state.machineId = machineId
  wellFormed : (ledgerOf policy session machineId seen).state.WellFormed
  follows : ∃ s, Follows (ledgerOf policy session machineId seen).state s ∧
    Reflects (windowsOf policy.persistenceDecisions) (windowsOf policy.cooldownDecisions)
      (seen.map (·.isAnomaly)) s
  drawn : (ledgerOf policy session machineId seen).state.DrawnFrom
    (· ∈ seen.map (·.decisionId))
  decided : (ledgerOf policy session machineId seen).state.lastDecisionId =
    seen.getLast?.map (·.decisionId)
  timed : (ledgerOf policy session machineId seen).state.lastSourceTimestamp =
    seen.getLast?.map (·.sourceTimestamp)
  rows : (ledgerOf policy session machineId seen).records.scoreDecisions.rows =
    seen.map fun decision => (decision.decisionId, decision.unstamped)
  admissible : Admissible policy seen

theorem settled_empty (policy : LockedAlertPolicyV1 F) (session : UUID)
    (named : 1 ≤ machineId.length) : Settled policy session machineId [] := by
  refine ⟨rfl, rfl, AlertState.wellFormed_empty named, ⟨.initial, follows_empty _ _, ?_⟩,
    ⟨nofun, nofun, nofun⟩, rfl, rfl, rfl, fun before decision after split => ?_⟩
  · exact reflects_initial (windowsOf_pos _)
  · simp at split

/-- The decision is later than those the machine has gone through. -/
def Later (seen : List (ScoreDecisionV1 F)) (decision : ScoreDecisionV1 F) : Prop :=
  ∀ earlier ∈ seen, earlier.sourceTimestamp < decision.sourceTimestamp ∧
    earlier.decisionId ≠ decision.decisionId

theorem Settled.precedes (settled : Settled policy session machineId seen)
    (later : Later seen decision) :
    (ledgerOf policy session machineId seen).state.Precedes decision := by
  constructor
  · rw [settled.decided]
    intro same
    obtain ⟨last, held, same⟩ := Option.map_eq_some_iff.mp same
    exact (later last (List.mem_of_getLast? held)).2 same
  · rw [settled.timed]
    intro ts same
    obtain ⟨last, held, rfl⟩ := Option.map_eq_some_iff.mp same
    exact (later last (List.mem_of_getLast? held)).1

/-- A later decision whose evidence converts is taken. -/
theorem Settled.transition_ok (settled : Settled policy session machineId seen)
    (later : Later seen decision) (valid : Valid decision) (stamp : TransitionStamp)
    (recordable : Recordable policy seen decision) :
    ∃ result, transition stamp (ledgerOf policy session machineId seen).state decision policy =
      .ok result := by
  obtain ⟨s, follows, reflects⟩ := settled.follows
  obtain ⟨result, taken, -⟩ := transition_advances stamp follows settled.wellFormed
    (settled.precedes later) valid fun anomalous active => by
      refine recordable.converts anomalous ?_
      rw [List.map_append]
      exact (reflects.step decision.calibrationRow).active.mp active
  exact ⟨result, taken⟩

/-- A later decision that is taken settles. -/
theorem Settled.append (settled : Settled policy session machineId seen)
    (later : Later seen decision) (valid : Valid decision)
    (owned : decision.replaySessionId = session) (storable : decision.Storable)
    (window : ∀ earlier ∈ seen, earlier.windowId ≠ decision.windowId)
    {result : TransitionResult F}
    (taken : transition stamp (ledgerOf policy session machineId seen).state decision policy =
      .ok result) :
    Settled policy session machineId (seen ++ [decision]) := by
  obtain ⟨s, follows, reflects⟩ := settled.follows
  have precedes := settled.precedes later
  have converts := transition_converts follows settled.wellFormed precedes valid taken
  obtain ⟨result', taken', advances⟩ :=
    transition_advances stamp follows settled.wellFormed precedes valid converts
  cases taken.symm.trans taken'
  have drawn : (ledgerOf policy session machineId seen).state.DrawnFrom
      (· ∈ (seen ++ [decision]).map (·.decisionId)) :=
    settled.drawn.mono fun id mem => by
      rw [List.map_append]
      exact List.mem_append_left _ mem
  have shape := transition_shape drawn (by simp) (owned.trans settled.owner.symm) taken
  have ledger : ledgerOf policy session machineId (seen ++ [decision]) =
      ⟨result.state, (ledgerOf policy session machineId seen).records.record decision
        result.unstamped⟩ :=
    (ledgerOf_append _ _ _ _ _).trans (Ledger.decide_of_ok taken)
  have free : (ledgerOf policy session machineId seen).records.scoreDecisions.get?
      decision.decisionId = none := by
    rw [Lib.Table.get?_eq_none_iff]
    unfold Lib.Table.keys
    rw [settled.rows, List.map_map]
    intro mem
    obtain ⟨earlier, mem, same⟩ := List.mem_map.mp mem
    exact (later earlier mem).2 same
  constructor
  · rw [ledger]
    exact shape.session.trans settled.owner
  · rw [ledger]
    exact shape.machine.trans settled.machine
  · rw [ledger]
    exact advances.wellFormed
  · rw [ledger, List.map_append]
    exact ⟨_, advances.follows, reflects.step decision.calibrationRow⟩
  · rw [ledger]
    exact shape.drawn
  · rw [ledger, List.getLast?_concat]
    exact advances.decided
  · rw [ledger, List.getLast?_concat]
    exact advances.seen
  · rw [ledger, List.map_append, ← settled.rows]
    exact Lib.Table.insertNew_rows free
  · refine admissible_append.mpr ⟨settled.admissible, storable, window, fun anomalous raised => ?_⟩
    rw [List.map_append] at raised
    have next : Reflects (windowsOf policy.persistenceDecisions)
        (windowsOf policy.cooldownDecisions) (seen.map (·.isAnomaly) ++ [decision.isAnomaly])
        (policy.simStep s decision.calibrationRow) :=
      reflects.step decision.calibrationRow
    exact converts anomalous (next.active.mpr raised)

end Settled

end IndustrialReliability
