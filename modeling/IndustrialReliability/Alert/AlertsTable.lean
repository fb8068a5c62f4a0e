import IndustrialReliability.Alert.Consumer
import IndustrialReliability.Alert.Simulation
import IndustrialReliability.Alert.Stamps
import Mathlib.Data.Set.Function

/-!
The alerts table and the alert runtime states.

The life of an alert is stored twice: as the JSON state of its session, and as a
row of `alerts` that the events of the session update. `AlertsAgree` is what the two
have in common after any sequence of decisions, each loaded, folded in and recorded
(`applyDecision`).

The rows keep the first detection they were inserted with. It is that of the state as
long as an alert is opened once, for which a decision id has to come with one source
timestamp (`FirstDetectionsAgree`).
-/

namespace IndustrialReliability

variable {F : Type}

/-! ### Applying decisions -/

/-- A decision with the service that takes it. -/
structure DecisionCall (F : Type) [PyFloat F] where
  config : AlertConsumerConfig F
  stamp : TransitionStamp
  decision : Checked (ScoreDecisionV1 F)

/-- `SELECT COUNT(*) FROM alerts WHERE state = 'OPEN'`. -/
def RuntimeStore.countActiveAlerts (store : RuntimeStore F) : Nat :=
  store.alerts.values.countP (·.state = .opened)

namespace DecisionCall

variable [PyFloat F]

def session (call : DecisionCall F) : UUID := call.decision.val.replaySessionId

def decisionId (call : DecisionCall F) : UUID := call.decision.val.decisionId

end DecisionCall

section Apply

variable [PyFloat F] [Uuid5]

/-- `load_alert_state`, `transition` and `record_decision_transition` of one
decision: the store after it and the event it recorded. -/
def RuntimeStore.applyDecision (store : RuntimeStore F) (call : DecisionCall F) :
    RuntimeStore F × Option AlertEventV1 :=
  match store.loadAlertState call.session call.config.machineId call.config.policy with
  | .error _ => (store, none)
  | .ok (state, loaded) =>
      match transition call.stamp state call.decision.val call.config.policy with
      | .error _ => (loaded, none)
      | .ok result =>
          match loaded.recordDecisionTransition call.decision.val result with
          | .error _ => (loaded, none)
          | .ok recorded => (recorded, result.event)

/-- It is what the consumer does when no call out of it raises. -/
theorem recordDecision_store (config : AlertConsumerConfig F) (stamp : ProcessStamp)
    (decision : Checked (ScoreDecisionV1 F)) (world : ConsumerWorld F) :
    (recordDecision config stamp none decision.val world).1.store =
      (world.store.applyDecision ⟨config, stamp.transition, decision⟩).1 := by
  unfold recordDecision RuntimeStore.applyDecision recordResult DecisionCall.session
  dsimp only
  cases world.store.loadAlertState decision.val.replaySessionId config.machineId config.policy with
  | error raised => rfl
  | ok loaded =>
      obtain ⟨state, store⟩ := loaded
      dsimp only
      cases transition stamp.transition state decision.val config.policy with
      | error error => rfl
      | ok result =>
          dsimp only
          cases store.recordDecisionTransition decision.val result <;> rfl

/-- The store after a sequence of decisions, and the events recorded. -/
def RuntimeStore.applyDecisions (store : RuntimeStore F) :
    List (DecisionCall F) → RuntimeStore F × List AlertEventV1
  | [] => (store, [])
  | call :: rest =>
      let (next, event) := store.applyDecision call
      let (last, events) := next.applyDecisions rest
      (last, event.toList ++ events)

end Apply

/-! ### What agrees -/

/-- The last event of the events given that opened or reopened an alert of a session
and machine. -/
def lastOnset (session : UUID) (machineId : String) (events : List AlertEventV1) :
    Option AlertEventV1 :=
  (events.filter fun event => event.action.isOnset && event.replaySessionId == session &&
    event.machineId == machineId).getLast?

structure AlertsAgree (store : RuntimeStore F) (events : List AlertEventV1) : Prop where
  /-- The open rows of a session and machine are that of its active alert. -/
  openRows : ∀ session machineId alertId,
    (∃ row, store.alerts.get? alertId = some row ∧ row.replaySessionId = session ∧
        row.machineId = machineId ∧ row.state = .opened) ↔
      ∃ payload, store.alertRuntimeStates.get? (session, machineId) = some payload ∧
        (stateFromPayload payload).activeAlertId = some alertId
  counted : store.countActiveAlerts =
    store.alertRuntimeStates.values.countP fun payload =>
      (stateFromPayload payload).activeAlertId.isSome
  lastRaised : ∀ session machineId event, lastOnset session machineId events = some event →
    ∃ payload row, store.alertRuntimeStates.get? (session, machineId) = some payload ∧
      store.alerts.get? event.alertId = some row ∧
      (stateFromPayload payload).lastDetection = some row.lastDetection ∧
      (stateFromPayload payload).resolvedAt = row.resolvedAt

/-- The row of the alert last opened or reopened has the first detection of the
state. -/
def FirstDetectionsAgree (store : RuntimeStore F) (events : List AlertEventV1) : Prop :=
  ∀ session machineId event, lastOnset session machineId events = some event →
    ∃ payload row, store.alertRuntimeStates.get? (session, machineId) = some payload ∧
      store.alerts.get? event.alertId = some row ∧
      (stateFromPayload payload).firstDetection = some row.firstDetection

/-- The row of the alert last raised has another first detection than the state. -/
theorem not_firstDetectionsAgree {store : RuntimeStore F} {events : List AlertEventV1}
    (session : UUID) (machineId : String) (alertId : UUID) {first kept : Int}
    (raised : (lastOnset session machineId events).map (·.alertId) = some alertId)
    (stored : (store.alertRuntimeStates.get? (session, machineId)).map
      (fun payload => (stateFromPayload payload).firstDetection) = some (some first))
    (row : (store.alerts.get? alertId).map (·.firstDetection) = some kept) (other : first ≠ kept) :
    ¬ FirstDetectionsAgree store events := by
  intro agree
  obtain ⟨event, found, rfl⟩ := Option.map_eq_some_iff.mp raised
  obtain ⟨payload, row', held, heldRow, same⟩ := agree session machineId event found
  rw [held, Option.map_some, Option.some.injEq, same] at stored
  rw [heldRow, Option.map_some, Option.some.injEq] at row
  exact other ((Option.some.inj stored).symm.trans row)

/-- A state has an active alert whose row is another machine's. -/
theorem not_alertsAgree {store : RuntimeStore F} {events : List AlertEventV1}
    (session : UUID) {machineId owner : String} (alertId : UUID)
    (active : (store.alertRuntimeStates.get? (session, machineId)).map
      (fun payload => (stateFromPayload payload).activeAlertId) = some (some alertId))
    (row : (store.alerts.get? alertId).map (·.machineId) = some owner) (other : machineId ≠ owner) :
    ¬ AlertsAgree store events := by
  intro agree
  obtain ⟨payload, held, same⟩ := Option.map_eq_some_iff.mp active
  obtain ⟨row', heldRow, -, machine, -⟩ :=
    (agree.openRows session machineId alertId).mpr ⟨payload, held, same⟩
  rw [heldRow, Option.map_some, Option.some.injEq] at row
  exact other (machine.symm.trans row)

/-! ### One decision -/

section Step

variable [PyFloat F] [Uuid5]

/-- The state of a session that its machine loads. -/
def RuntimeStore.stateOf (store : RuntimeStore F) (machineOf : UUID → String) (session : UUID) :
    AlertState :=
  ((store.alertRuntimeStates.get? (session, machineOf session)).map stateFromPayload).getD
    (.empty session (machineOf session))

/-- The states are stored under their owners, each with the machine of its session,
and every session with decisions has one. -/
structure Loadable (machineOf : UUID → String) (store : RuntimeStore F) : Prop where
  owned : ∀ session machineId payload,
    store.alertRuntimeStates.get? (session, machineId) = some payload →
      machineId = machineOf session ∧ (stateFromPayload payload).replaySessionId = session ∧
        (stateFromPayload payload).machineId = machineId
  decided : ∀ decision ∈ store.scoreDecisions.values,
    (store.alertRuntimeStates.get?
      (decision.replaySessionId, machineOf decision.replaySessionId)).isSome

variable {machineOf : UUID → String} {store store' : RuntimeStore F} {call : DecisionCall F}
  {session : UUID} {decision : ScoreDecisionV1 F} {result : TransitionResult F}

omit [PyFloat F] [Uuid5] in
theorem Loadable.owner (loadable : Loadable machineOf store) (session : UUID) :
    (store.stateOf machineOf session).replaySessionId = session ∧
      (store.stateOf machineOf session).machineId = machineOf session := by
  unfold RuntimeStore.stateOf
  cases held : store.alertRuntimeStates.get? (session, machineOf session) with
  | none => exact ⟨rfl, rfl⟩
  | some payload => exact (loadable.owned _ _ _ held).2

/-- Loading finds the stored state, or the session is new. -/
theorem Loadable.load (loadable : Loadable machineOf store) (session : UUID)
    (policy : LockedAlertPolicyV1 F) :
    store.loadAlertState session (machineOf session) policy =
      .ok (store.stateOf machineOf session, store) := by
  unfold RuntimeStore.loadAlertState RuntimeStore.stateOf
  cases held : store.alertRuntimeStates.get? (session, machineOf session) with
  | some payload => rfl
  | none =>
      have unseen : ¬ store.scoreDecisions.values.any (·.replaySessionId == session) = true := by
        rw [List.any_eq_true]
        rintro ⟨decision, mem, same⟩
        have stored := loadable.decided decision mem
        rw [beq_iff_eq.mp same, held] at stored
        cases stored
      dsimp only
      rw [if_neg unseen]
      rfl

/-- The decision leaves the store as it is, or its transaction commits. -/
theorem Loadable.apply (loadable : Loadable machineOf store)
    (ofMachine : call.config.machineId = machineOf call.session) :
    store.applyDecision call = (store, none) ∨ ∃ result store',
      transition call.stamp (store.stateOf machineOf call.session) call.decision.val
          call.config.policy = .ok result ∧
        store.Wrote call.decision.val result store' ∧
        store.applyDecision call = (store', result.event) := by
  unfold RuntimeStore.applyDecision
  rw [ofMachine, loadable.load]
  dsimp only
  cases taken : transition call.stamp (store.stateOf machineOf call.session) call.decision.val
      call.config.policy with
  | error raised => exact .inl rfl
  | ok result =>
      dsimp only
      cases committed : store.recordDecisionTransition call.decision.val result with
      | error refused => exact .inl rfl
      | ok store' =>
          exact .inr ⟨result, store', rfl,
            RuntimeStore.recordDecisionTransition_eq_ok committed, rfl⟩

omit [PyFloat F] [Uuid5] in
/-- A transaction replaces the state of its session. -/
theorem RuntimeStore.Wrote.stateOf (wrote : store.Wrote decision result store')
    (owner : result.state.replaySessionId = session)
    (machine : result.state.machineId = machineOf session) (other : UUID) :
    store'.stateOf machineOf other =
      if other = session then result.state else store.stateOf machineOf other := by
  unfold RuntimeStore.stateOf
  rw [wrote.alertRuntimeStates]
  unfold RuntimeStore.upsertStateRow
  rw [owner, machine]
  by_cases same : other = session
  · subst same
    rw [Lib.Table.get?_upsert_self, if_pos rfl]
    cases store.alertRuntimeStates.get? (other, machineOf other) <;> rfl
  · rw [Lib.Table.get?_upsert_ne (by simp [same]), if_neg same]

omit [PyFloat F] [Uuid5] in
theorem Loadable.wrote (loadable : Loadable machineOf store)
    (wrote : store.Wrote decision result store')
    (owner : result.state.replaySessionId = decision.replaySessionId)
    (machine : result.state.machineId = machineOf decision.replaySessionId) :
    Loadable machineOf store' := by
  have states := wrote.alertRuntimeStates
  unfold RuntimeStore.upsertStateRow at states
  rw [owner, machine] at states
  constructor
  · intro session machineId payload held
    rw [states] at held
    by_cases same : (session, machineId) =
        (decision.replaySessionId, machineOf decision.replaySessionId)
    · rw [same, Lib.Table.get?_upsert_self] at held
      obtain ⟨rfl, rfl⟩ := Prod.mk.inj same
      have payload : statePayload result.state = payload := by
        cases before : store.alertRuntimeStates.get?
            (decision.replaySessionId, machineOf decision.replaySessionId) <;>
          simpa [before] using held
      subst payload
      exact ⟨rfl, owner, machine⟩
    · rw [Lib.Table.get?_upsert_ne same] at held
      exact loadable.owned session machineId payload held
  · intro row mem
    rw [states]
    by_cases same : row.replaySessionId = decision.replaySessionId
    · rw [same, Lib.Table.get?_upsert_self]
      cases store.alertRuntimeStates.get? _ <;> rfl
    · rw [Lib.Table.get?_upsert_ne (by simp [same])]
      rw [wrote.scoreDecisions] at mem
      obtain ⟨key, held⟩ := Lib.Table.mem_values_iff.mp mem
      rcases Lib.Table.get?_insertNew_eq_some held with before | ⟨-, rfl⟩
      · exact loadable.decided row (Lib.Table.mem_values_iff.mpr ⟨key, before⟩)
      · exact absurd rfl same

/-- The decision is one of the session that has been taken. -/
def Seen (calls : List (DecisionCall F)) (session decisionId : UUID) : Prop :=
  ∃ call ∈ calls, call.session = session ∧ call.decisionId = decisionId

/-- The ids of the alerts of the decisions are distinct. -/
def AlertIdsApart (calls : List (DecisionCall F)) : Prop :=
  Set.InjOn (fun named : UUID × UUID => alertIdFor named.1 named.2)
    {named | Seen calls named.1 named.2}

omit [Uuid5] in
theorem Seen.mono {calls more : List (DecisionCall F)} (sub : calls ⊆ more) {decisionId : UUID}
    (seen : Seen calls session decisionId) : Seen more session decisionId := by
  obtain ⟨call, mem, named⟩ := seen
  exact ⟨call, sub mem, named⟩

/-- The row of an alert as its session's state sees it. -/
structure RowOf (store : RuntimeStore F) (state : AlertState) (session alertId : UUID)
    (row : AlertRow) : Prop where
  held : store.alerts.get? alertId = some row
  session : row.replaySessionId = session
  lastDetection : state.lastDetection = some row.lastDetection
  resolvedAt : state.resolvedAt = row.resolvedAt
  alert : state.activeAlertId = some alertId ∨
    (state.activeAlertId = none ∧ state.previousAlertId = some alertId)

/-- The two tables and the events, after the decisions taken so far. -/
structure TablesAgree (machineOf : UUID → String) (calls : List (DecisionCall F))
    (store : RuntimeStore F) (events : List AlertEventV1) : Prop where
  loadable : Loadable machineOf store
  drawn : ∀ session, (store.stateOf machineOf session).DrawnFrom (Seen calls session)
  rows : ∀ alertId row, store.alerts.get? alertId = some row →
    row.machineId = machineOf row.replaySessionId ∧
      ∃ first, Seen calls row.replaySessionId first ∧ alertId = alertIdFor row.replaySessionId first
  openRows : ∀ session alertId, (∃ row, store.alerts.get? alertId = some row ∧
      row.replaySessionId = session ∧ row.state = .opened) ↔
    (store.stateOf machineOf session).activeAlertId = some alertId
  machines : ∀ event ∈ events, event.machineId = machineOf event.replaySessionId
  unraised : ∀ session, lastOnset session (machineOf session) events = none →
    (store.stateOf machineOf session).activeAlertId = none ∧
      (store.stateOf machineOf session).previousAlertId = none
  lastRaised : ∀ session event, lastOnset session (machineOf session) events = some event →
    ∃ row, RowOf store (store.stateOf machineOf session) session event.alertId row

variable {calls : List (DecisionCall F)} {events : List AlertEventV1}
  {policy : LockedAlertPolicyV1 F}

theorem tablesAgree_empty (machineOf : UUID → String) :
    TablesAgree (F := F) machineOf [] .empty [] where
  loadable := ⟨fun _ _ _ held => absurd held.symm (Option.some_ne_none _),
    fun _ mem => absurd mem List.not_mem_nil⟩
  drawn _ := ⟨nofun, nofun, nofun⟩
  rows _ _ held := nomatch held
  openRows session alertId := by
    refine iff_of_false ?_ (fun held => nomatch held)
    rintro ⟨row, held, -⟩
    cases held
  machines _ mem := nomatch mem
  unraised _ _ := ⟨rfl, rfl⟩
  lastRaised _ _ held := nomatch held

omit [PyFloat F] [Uuid5] in
/-- The row of an event's alert after its upsert. -/
theorem get?_upsertAlertRow_self (decision : ScoreDecisionV1 F) {alerts : Lib.Table UUID AlertRow}
    {event : AlertEventV1}
    (same : ∀ row, alerts.get? event.alertId = some row →
      row.replaySessionId = event.replaySessionId ∧ row.machineId = event.machineId) :
    ∃ row, (RuntimeStore.upsertAlertRow alerts decision event).get? event.alertId = some row ∧
      row.replaySessionId = event.replaySessionId ∧ row.machineId = event.machineId ∧
      row.state = (if event.action = .resolved then .resolved else .opened) ∧
      row.lastDetection = event.lastDetection ∧
      row.resolvedAt = (if event.action = .resolved then some decision.sourceTimestamp else none) ∧
      row.firstDetection =
        ((alerts.get? event.alertId).map (·.firstDetection)).getD event.firstDetection := by
  unfold RuntimeStore.upsertAlertRow
  rw [Lib.Table.get?_upsert_self]
  cases held : alerts.get? event.alertId with
  | none => exact ⟨_, rfl, rfl, rfl, rfl, rfl, rfl, rfl⟩
  | some row =>
      obtain ⟨session, machine⟩ := same row held
      exact ⟨_, rfl, session, machine, rfl, rfl, rfl, rfl⟩

omit [PyFloat F] [Uuid5] in
theorem get?_upsertAlertRow_ne {alerts : Lib.Table UUID AlertRow} {event : AlertEventV1}
    {alertId : UUID} (other : alertId ≠ event.alertId) :
    (RuntimeStore.upsertAlertRow alerts decision event).get? alertId = alerts.get? alertId :=
  Lib.Table.get?_upsert_ne other

omit [Uuid5] in
theorem lastOnset_concat {machineId : String} {event : AlertEventV1} :
    lastOnset session machineId (events ++ [event]) =
      if event.action.isOnset = true ∧ event.replaySessionId = session ∧
          event.machineId = machineId then some event
      else lastOnset session machineId events := by
  unfold lastOnset
  rw [List.filter_append]
  split
  · rename_i here
    obtain ⟨onset, rfl, rfl⟩ := here
    simp [onset]
  · rename_i elsewhere
    rw [List.filter_cons_of_neg, List.filter_nil, List.append_nil]
    simpa [and_assoc] using elsewhere

variable {state : AlertState} {stamp : TransitionStamp}

/-- A taken decision and its committed transaction. -/
structure Taken (machineOf : UUID → String) (store : RuntimeStore F) (call : DecisionCall F)
    (result : TransitionResult F) (store' : RuntimeStore F) : Prop where
  wrote : store.Wrote call.decision.val result store'
  owner : result.state.replaySessionId = call.session
  machine : result.state.machineId = machineOf call.session

theorem TablesAgree.taken (tables : TablesAgree machineOf calls store events)
    (taken : transition call.stamp (store.stateOf machineOf call.session) call.decision.val
      call.config.policy = .ok result)
    (wrote : store.Wrote call.decision.val result store') :
    Taken machineOf store call result store' ∧
      TransitionShape call.stamp (Seen (calls ++ [call]) call.session)
        (store.stateOf machineOf call.session) call.decision.val result := by
  obtain ⟨session, machine⟩ := tables.loadable.owner call.session
  have drawn := (tables.drawn call.session).mono fun _ => Seen.mono (List.subset_append_left calls [call])
  have shape := transition_shape drawn ⟨call, by simp, rfl, rfl⟩ session.symm taken
  exact ⟨⟨wrote, shape.session.trans session, shape.machine.trans machine⟩, shape⟩

omit [Uuid5] in
theorem Taken.stateOf_self (taken : Taken machineOf store call result store') :
    store'.stateOf machineOf call.session = result.state := by
  rw [taken.wrote.stateOf taken.owner taken.machine, if_pos rfl]

omit [Uuid5] in
theorem Taken.stateOf_ne (taken : Taken machineOf store call result store')
    (other : session ≠ call.session) :
    store'.stateOf machineOf session = store.stateOf machineOf session := by
  rw [taken.wrote.stateOf taken.owner taken.machine, if_neg other]

/-- A decision that leaves the alert of its session as it is. -/
theorem TablesAgree.silent (tables : TablesAgree machineOf calls store events)
    (taken : Taken machineOf store call result store')
    (drawn : result.state.DrawnFrom (Seen (calls ++ [call]) call.session))
    (noEvent : result.event = none)
    (same : (store.stateOf machineOf call.session).SameAlert result.state) :
    TablesAgree machineOf (calls ++ [call]) store' events := by
  have alerts : store'.alerts = store.alerts := by
    rw [taken.wrote.alerts, noEvent]
    rfl
  have sameAlert : ∀ session,
      (store.stateOf machineOf session).SameAlert (store'.stateOf machineOf session) := by
    intro session
    by_cases here : session = call.session
    · rw [here, taken.stateOf_self]
      exact same
    · rw [taken.stateOf_ne here]
      exact ⟨rfl, rfl, rfl, rfl, rfl⟩
  constructor
  case loadable => exact tables.loadable.wrote taken.wrote taken.owner taken.machine
  case drawn =>
    intro session
    by_cases here : session = call.session
    · rw [here, taken.stateOf_self]
      exact drawn
    · rw [taken.stateOf_ne here]
      exact (tables.drawn session).mono fun _ => Seen.mono (List.subset_append_left _ _)
  case rows =>
    intro alertId row held
    rw [alerts] at held
    obtain ⟨machine, first, seen, named⟩ := tables.rows alertId row held
    exact ⟨machine, first, seen.mono (List.subset_append_left _ _), named⟩
  case openRows =>
    intro session alertId
    rw [alerts, (sameAlert session).1]
    exact tables.openRows session alertId
  case machines => exact tables.machines
  case unraised =>
    intro session none
    obtain ⟨active, previous, -⟩ := sameAlert session
    rw [active, previous]
    exact tables.unraised session none
  case lastRaised =>
    intro session event last
    obtain ⟨row, seen⟩ := tables.lastRaised session event last
    obtain ⟨active, previous, -, lastDetection, resolvedAt⟩ := sameAlert session
    refine ⟨row, ?_, seen.session, ?_, ?_, ?_⟩
    · rw [alerts]
      exact seen.held
    · rw [lastDetection]
      exact seen.lastDetection
    · rw [resolvedAt]
      exact seen.resolvedAt
    · rw [active, previous]
      exact seen.alert

/-- A row with the id of a session's alert is a row of the session. -/
theorem TablesAgree.row_owner (tables : TablesAgree machineOf calls store events)
    (apart : AlertIdsApart (calls ++ [call])) {alertId : UUID}
    (named : ∃ first, Seen (calls ++ [call]) session first ∧ alertId = alertIdFor session first)
    {row : AlertRow} (held : store.alerts.get? alertId = some row) :
    row.replaySessionId = session ∧ row.machineId = machineOf session := by
  obtain ⟨first, seen, rfl⟩ := named
  obtain ⟨machine, other, seenOther, same⟩ := tables.rows _ row held
  have seenOther := seenOther.mono (List.subset_append_left calls [call])
  have sameNames : (session, first) = (row.replaySessionId, other) := apart seen seenOther same
  obtain ⟨rfl, -⟩ := Prod.mk.inj sameNames
  exact ⟨rfl, machine⟩

/-- The row of an event's alert is a row of the event's session after it. -/
theorem TablesAgree.get?_alerts_self (tables : TablesAgree machineOf calls store events)
    (taken : Taken machineOf store call result store')
    (shape : TransitionShape stamp (Seen (calls ++ [call]) call.session)
      (store.stateOf machineOf call.session) call.decision.val result)
    (apart : AlertIdsApart (calls ++ [call])) {event : AlertEventV1}
    (emitted : result.event = some event)
    (emits : Emits (store.stateOf machineOf call.session) call.decision.val result.state event) :
    ∃ row, store'.alerts.get? event.alertId = some row ∧ row.replaySessionId = call.session ∧
      row.machineId = machineOf call.session ∧
      row.state = (if event.action = .resolved then .resolved else .opened) ∧
      result.state.lastDetection = some row.lastDetection ∧
      result.state.resolvedAt = row.resolvedAt ∧
      row.firstDetection =
        ((store.alerts.get? event.alertId).map (·.firstDetection)).getD event.firstDetection := by
  obtain ⟨session, machine⟩ := tables.loadable.owner call.session
  have named := (shape.event event emitted).2
  rw [session] at named
  have alerts : store'.alerts = RuntimeStore.upsertAlertRow store.alerts call.decision.val event := by
    rw [taken.wrote.alerts, emitted]
    rfl
  have ofSession : event.replaySessionId = call.session := emits.session
  have ofMachine : event.machineId = machineOf call.session := emits.machine.trans machine
  have own : ∀ row, store.alerts.get? event.alertId = some row →
      row.replaySessionId = event.replaySessionId ∧ row.machineId = event.machineId := by
    intro row held
    rw [ofSession, ofMachine]
    exact tables.row_owner apart named held
  obtain ⟨row, held, session', machine', state, last, resolvedAt, first⟩ :=
    get?_upsertAlertRow_self call.decision.val own
  refine ⟨row, ?_, session'.trans ofSession, machine'.trans ofMachine, state, ?_, ?_, first⟩
  · rw [alerts]
    exact held
  · rw [emits.lastDetection, last]
  · rw [emits.resolvedAt, resolvedAt]

theorem TablesAgree.event (tables : TablesAgree machineOf calls store events)
    (taken : Taken machineOf store call result store')
    (shape : TransitionShape stamp (Seen (calls ++ [call]) call.session)
      (store.stateOf machineOf call.session) call.decision.val result)
    (apart : AlertIdsApart (calls ++ [call])) {event : AlertEventV1}
    (emitted : result.event = some event)
    (emits : Emits (store.stateOf machineOf call.session) call.decision.val result.state event) :
    TablesAgree machineOf (calls ++ [call]) store' (events ++ [event]) := by
  obtain ⟨session, machine⟩ := tables.loadable.owner call.session
  have named := (shape.event event emitted).2
  rw [session] at named
  obtain ⟨row, held, rowSession, rowMachine, rowState, rowLast, rowResolved, -⟩ :=
    tables.get?_alerts_self taken shape apart emitted emits
  have elsewhere : ∀ alertId, alertId ≠ event.alertId →
      store'.alerts.get? alertId = store.alerts.get? alertId := by
    intro alertId other
    rw [taken.wrote.alerts, emitted]
    exact get?_upsertAlertRow_ne other
  have ofSession : event.replaySessionId = call.session := emits.session
  have ofMachine : event.machineId = machineOf call.session := emits.machine.trans machine
  -- the row that the last onset of another session names is not the one written
  have otherRow : ∀ {session' alertId earlier}, session' ≠ call.session →
      store.alerts.get? alertId = some earlier → earlier.replaySessionId = session' →
      alertId ≠ event.alertId := by
    rintro _ _ earlier other before rfl rfl
    exact other (tables.row_owner apart named before).1
  constructor
  case loadable => exact tables.loadable.wrote taken.wrote taken.owner taken.machine
  case drawn =>
    intro session'
    by_cases here : session' = call.session
    · rw [here, taken.stateOf_self]
      exact shape.drawn
    · rw [taken.stateOf_ne here]
      exact (tables.drawn session').mono fun _ => Seen.mono (List.subset_append_left _ _)
  case rows =>
    intro alertId row' held'
    by_cases same : alertId = event.alertId
    · subst same
      cases held.symm.trans held'
      rw [rowSession]
      exact ⟨rowMachine, named⟩
    · rw [elsewhere alertId same] at held'
      obtain ⟨machine', first, seen, named'⟩ := tables.rows alertId row' held'
      exact ⟨machine', first, seen.mono (List.subset_append_left _ _), named'⟩
  case openRows =>
    intro session' alertId
    by_cases same : alertId = event.alertId
    · subst same
      by_cases here : session' = call.session
      · subst here
        rw [taken.stateOf_self, emits.active]
        simp only [held, Option.some.injEq, exists_eq_left', rowSession, rowState]
        by_cases resolved : event.action = .resolved <;> simp [resolved]
      · rw [taken.stateOf_ne here, ← tables.openRows session' event.alertId]
        constructor
        · rintro ⟨row', held', owner, -⟩
          cases held.symm.trans held'
          exact absurd (owner.symm.trans rowSession) here
        · rintro ⟨row', held', owner, -⟩
          exact absurd rfl (otherRow here held' owner)
    · rw [elsewhere alertId same, tables.openRows session' alertId]
      by_cases here : session' = call.session
      · subst here
        rw [taken.stateOf_self, emits.active]
        have different : event.alertId ≠ alertId := Ne.symm same
        have before : (store.stateOf machineOf call.session).activeAlertId ≠ some alertId := by
          cases onset : event.action.isOnset with
          | true => simp [emits.onset onset]
          | false => simp [emits.inner onset, different]
        refine iff_of_false before ?_
        split <;> simp [different]
      · rw [taken.stateOf_ne here]
  case machines =>
    intro each mem
    rcases List.mem_append.mp mem with earlier | new
    · exact tables.machines each earlier
    · rw [List.mem_singleton.mp new, ofSession]
      exact ofMachine
  case unraised =>
    intro session' none
    rw [lastOnset_concat] at none
    split at none
    · cases none
    · rename_i notOnset
      by_cases here : session' = call.session
      · subst here
        obtain ⟨active, previous⟩ := tables.unraised _ none
        have onset : event.action.isOnset = false := by
          simpa [ofSession, ofMachine] using notOnset
        rw [emits.inner onset] at active
        cases active
      · rw [taken.stateOf_ne here]
        exact tables.unraised _ none
  case lastRaised =>
    intro session' last found
    by_cases here : session' = call.session
    · subst here
      have sameAlert : last.alertId = event.alertId := by
        rw [lastOnset_concat] at found
        split at found
        · cases found
          rfl
        · rename_i notOnset
          have onset : event.action.isOnset = false := by
            simpa [ofSession, ofMachine] using notOnset
          obtain ⟨_, seen⟩ := tables.lastRaised _ last found
          rcases seen.alert with active | ⟨quiet, -⟩
          · exact Option.some.inj (active.symm.trans (emits.inner onset))
          · cases quiet.symm.trans (emits.inner onset)
      rw [sameAlert, taken.stateOf_self]
      refine ⟨row, held, rowSession, rowLast, rowResolved, ?_⟩
      rw [emits.active, emits.previous]
      by_cases resolved : event.action = .resolved <;> simp [resolved]
    · have before : lastOnset session' (machineOf session') events = some last := by
        rw [lastOnset_concat, if_neg (by simp [ofSession, Ne.symm here])] at found
        exact found
      obtain ⟨row', seen⟩ := tables.lastRaised session' last before
      have other := otherRow here seen.held seen.session
      rw [taken.stateOf_ne here]
      refine ⟨row', ?_, seen.session, seen.lastDetection, seen.resolvedAt, seen.alert⟩
      rw [elsewhere _ other]
      exact seen.held

/-- One decision more. -/
theorem TablesAgree.apply (tables : TablesAgree machineOf calls store events)
    (ofMachine : call.config.machineId = machineOf call.session)
    (apart : AlertIdsApart (calls ++ [call])) :
    TablesAgree machineOf (calls ++ [call]) (store.applyDecision call).1
      (events ++ (store.applyDecision call).2.toList) := by
  rcases tables.loadable.apply ofMachine with same | ⟨result, store', taken, wrote, applied⟩
  · rw [same, Option.toList_none, List.append_nil]
    have sub := List.subset_append_left calls [call]
    refine { tables with drawn := fun session => ?_, rows := fun alertId row held => ?_ }
    · exact (tables.drawn session).mono fun _ => Seen.mono sub
    · obtain ⟨machine, first, seen, named⟩ := tables.rows alertId row held
      exact ⟨machine, first, seen.mono sub, named⟩
  · rw [applied]
    obtain ⟨kept, shape⟩ := tables.taken taken wrote
    by_cases repeated : (store.stateOf machineOf call.session).lastDecisionId =
        some call.decision.val.decisionId
    · cases taken.symm.trans (transition_repeated repeated)
      rw [Option.toList_none, List.append_nil]
      exact tables.silent kept shape.drawn rfl ⟨rfl, rfl, rfl, rfl, rfl⟩
    · rcases (transition_outcome repeated taken).emits with ⟨event, emitted, emits⟩ | ⟨none, same⟩
      · rw [emitted]
        exact tables.event kept shape apart emitted emits
      · rw [none, Option.toList_none, List.append_nil]
        exact tables.silent kept shape.drawn none same

/-- Any sequence of decisions more. -/
theorem TablesAgree.applyAll {rest : List (DecisionCall F)}
    (tables : TablesAgree machineOf calls store events)
    (ofMachine : ∀ call ∈ rest, call.config.machineId = machineOf call.session)
    (apart : AlertIdsApart (calls ++ rest)) :
    TablesAgree machineOf (calls ++ rest) (store.applyDecisions rest).1
      (events ++ (store.applyDecisions rest).2) := by
  induction rest generalizing calls store events with
  | nil => simpa [RuntimeStore.applyDecisions] using tables
  | cons call rest ih =>
      have split : calls ++ call :: rest = (calls ++ [call]) ++ rest := by simp
      rw [split] at apart ⊢
      have next := tables.apply (ofMachine call List.mem_cons_self)
        (apart.mono fun _ seen => Seen.mono (List.subset_append_left _ _) seen)
      have all := ih next (fun later mem => ofMachine later (List.mem_cons_of_mem _ mem)) apart
      unfold RuntimeStore.applyDecisions
      rwa [List.append_assoc events] at all

/-! ### What the tables have in common -/

theorem TablesAgree.openRows_iff (tables : TablesAgree machineOf calls store events)
    (session : UUID) (machineId : String) (alertId : UUID) :
    (∃ row, store.alerts.get? alertId = some row ∧ row.replaySessionId = session ∧
        row.machineId = machineId ∧ row.state = .opened) ↔
      ∃ payload, store.alertRuntimeStates.get? (session, machineId) = some payload ∧
        (stateFromPayload payload).activeAlertId = some alertId := by
  have stored : (store.stateOf machineOf session).activeAlertId = some alertId ↔
      ∃ payload, store.alertRuntimeStates.get? (session, machineOf session) = some payload ∧
        (stateFromPayload payload).activeAlertId = some alertId := by
    unfold RuntimeStore.stateOf
    cases store.alertRuntimeStates.get? (session, machineOf session) <;> simp [AlertState.empty]
  constructor
  · rintro ⟨row, held, rfl, rfl, opened⟩
    have machine := (tables.rows alertId row held).1
    rw [machine]
    exact stored.mp ((tables.openRows _ alertId).mp ⟨row, held, rfl, opened⟩)
  · rintro ⟨payload, held, active⟩
    obtain ⟨rfl, -⟩ := tables.loadable.owned session machineId payload held
    obtain ⟨row, found, owner, opened⟩ :=
      (tables.openRows session alertId).mpr (stored.mpr ⟨payload, held, active⟩)
    exact ⟨row, found, owner, owner ▸ (tables.rows alertId row found).1, opened⟩

omit [PyFloat F] [Uuid5] in
/-- Tables whose open rows are those of the active alerts have as many of the one as
of the other. -/
theorem countActiveAlerts_eq
    (openRows : ∀ session machineId alertId,
      (∃ row, store.alerts.get? alertId = some row ∧ row.replaySessionId = session ∧
          row.machineId = machineId ∧ row.state = .opened) ↔
        ∃ payload, store.alertRuntimeStates.get? (session, machineId) = some payload ∧
          (stateFromPayload payload).activeAlertId = some alertId) :
    store.countActiveAlerts = store.alertRuntimeStates.values.countP fun payload =>
      (stateFromPayload payload).activeAlertId.isSome := by
  let opened := (store.alerts.rows.filter (·.2.state = .opened)).map Prod.fst
  let active := store.alertRuntimeStates.rows.filterMap fun row =>
    (stateFromPayload row.2).activeAlertId
  have openedNodup : opened.Nodup := store.alerts.keys_nodup.sublist (List.filter_sublist.map _)
  have isOpen : ∀ alertId, alertId ∈ opened ↔
      ∃ row, store.alerts.get? alertId = some row ∧ row.state = .opened := by
    intro alertId
    simp only [opened, List.mem_map, List.mem_filter, decide_eq_true_eq, Prod.exists]
    constructor
    · rintro ⟨_, row, ⟨mem, open'⟩, rfl⟩
      exact ⟨row, Lib.Table.get?_eq_some_iff.mpr mem, open'⟩
    · rintro ⟨row, held, open'⟩
      exact ⟨alertId, row, ⟨Lib.Table.get?_eq_some_iff.mp held, open'⟩, rfl⟩
  have isActive : ∀ alertId, alertId ∈ active ↔ ∃ session machineId payload,
      store.alertRuntimeStates.get? (session, machineId) = some payload ∧
        (stateFromPayload payload).activeAlertId = some alertId := by
    intro alertId
    simp only [active, List.mem_filterMap, Prod.exists]
    constructor
    · rintro ⟨session, machineId, payload, mem, held⟩
      exact ⟨session, machineId, payload, Lib.Table.get?_eq_some_iff.mpr mem, held⟩
    · rintro ⟨session, machineId, payload, mem, held⟩
      exact ⟨session, machineId, payload, Lib.Table.get?_eq_some_iff.mp mem, held⟩
  have activeNodup : active.Nodup := by
    refine List.pairwise_filterMap.mpr ?_
    have distinct := List.pairwise_map.mp store.alertRuntimeStates.keys_nodup
    refine List.Pairwise.imp_of_mem ?_ distinct
    rintro ⟨⟨session, machineId⟩, payload⟩ ⟨⟨session', machineId'⟩, payload'⟩ mem mem' other
      alertId held _ held' rfl
    obtain ⟨row, found, owner, machine, -⟩ := (openRows session machineId alertId).mpr
      ⟨payload, Lib.Table.get?_eq_some_iff.mpr mem, held⟩
    obtain ⟨row', found', owner', machine', -⟩ := (openRows session' machineId' alertId).mpr
      ⟨payload', Lib.Table.get?_eq_some_iff.mpr mem', held'⟩
    cases found.symm.trans found'
    exact other (Prod.ext (owner.symm.trans owner') (machine.symm.trans machine'))
  have sameMembers : ∀ alertId, alertId ∈ opened ↔ alertId ∈ active := by
    intro alertId
    rw [isOpen, isActive]
    constructor
    · rintro ⟨row, held, opened⟩
      exact ⟨_, _, (openRows _ _ alertId).mp ⟨row, held, rfl, rfl, opened⟩⟩
    · rintro ⟨session, machineId, payload⟩
      obtain ⟨row, held, -, -, opened⟩ := (openRows session machineId alertId).mpr payload
      exact ⟨row, held, opened⟩
  have sameLength :=
    ((List.perm_ext_iff_of_nodup openedNodup activeNodup).mpr sameMembers).length_eq
  unfold RuntimeStore.countActiveAlerts Lib.Table.values
  rw [List.countP_map, List.countP_map, List.countP_eq_length_filter]
  rw [List.length_map, List.length_filterMap_eq_countP] at sameLength
  exact sameLength

omit [PyFloat F] [Uuid5] in
theorem lastOnset_eq_some {machineId : String} {event : AlertEventV1}
    (found : lastOnset session machineId events = some event) :
    event ∈ events ∧ event.replaySessionId = session ∧ event.machineId = machineId := by
  obtain ⟨mem, kind⟩ := List.mem_filter.mp (List.mem_of_getLast? found)
  simp only [Bool.and_eq_true, beq_iff_eq] at kind
  exact ⟨mem, kind.1.2, kind.2⟩

/-- The row of the alert last raised, with the stored state. -/
theorem TablesAgree.lastRaised_stored (tables : TablesAgree machineOf calls store events)
    {machineId : String} {event : AlertEventV1}
    (found : lastOnset session machineId events = some event) :
    ∃ payload row, store.alertRuntimeStates.get? (session, machineId) = some payload ∧
      stateFromPayload payload = store.stateOf machineOf session ∧
      RowOf store (store.stateOf machineOf session) session event.alertId row := by
  obtain ⟨mem, rfl, rfl⟩ := lastOnset_eq_some found
  rw [tables.machines event mem] at found ⊢
  obtain ⟨row, seen⟩ := tables.lastRaised _ event found
  cases held : store.alertRuntimeStates.get?
      (event.replaySessionId, machineOf event.replaySessionId) with
  | none =>
      have unseen := seen.lastDetection
      unfold RuntimeStore.stateOf at unseen
      rw [held] at unseen
      cases unseen
  | some payload =>
      refine ⟨payload, row, rfl, ?_, seen⟩
      unfold RuntimeStore.stateOf
      rw [held]
      rfl

theorem TablesAgree.agree (tables : TablesAgree machineOf calls store events) :
    AlertsAgree store events where
  openRows := tables.openRows_iff
  counted := countActiveAlerts_eq tables.openRows_iff
  lastRaised session machineId event found := by
    obtain ⟨payload, row, held, same, seen⟩ := tables.lastRaised_stored found
    refine ⟨payload, row, held, seen.held, ?_, ?_⟩
    · rw [same]
      exact seen.lastDetection
    · rw [same]
      exact seen.resolvedAt

/-! ### First detections -/

/-- A decision id of a session comes with one source timestamp. -/
def OneTimestamp (calls : List (DecisionCall F)) : Prop :=
  ∀ call ∈ calls, ∀ again ∈ calls, call.session = again.session →
    call.decisionId = again.decisionId →
      call.decision.val.sourceTimestamp = again.decision.val.sourceTimestamp

/-- The decision has been folded into the state: it is no later than the last one. -/
def Folded (calls : List (DecisionCall F)) (state : AlertState) (session decisionId : UUID) :
    Prop :=
  ∃ call ∈ calls, call.session = session ∧ call.decisionId = decisionId ∧
    ∃ last ∈ state.lastSourceTimestamp, call.decision.val.sourceTimestamp ≤ last

/-- The first detections, while a decision id comes with one timestamp. Every alert is
named after a decision that was folded in, and the candidates of a quiet session name no
alert yet. -/
structure FirstDetections (machineOf : UUID → String) (calls : List (DecisionCall F))
    (store : RuntimeStore F) (events : List AlertEventV1) : Prop where
  first : ∀ session event, lastOnset session (machineOf session) events = some event →
    ∃ row, store.alerts.get? event.alertId = some row ∧
      (store.stateOf machineOf session).firstDetection = some row.firstDetection
  named : ∀ alertId row, store.alerts.get? alertId = some row →
    ∃ decisionId, alertId = alertIdFor row.replaySessionId decisionId ∧
      Folded calls (store.stateOf machineOf row.replaySessionId) row.replaySessionId decisionId
  folded : ∀ session, ∀ decisionId ∈ (store.stateOf machineOf session).anomalyDecisionIds,
    Folded calls (store.stateOf machineOf session) session decisionId
  unnamed : ∀ session, (store.stateOf machineOf session).activeAlertId = none →
    ∀ decisionId ∈ (store.stateOf machineOf session).anomalyDecisionIds,
      store.alerts.get? (alertIdFor session decisionId) = none

omit [Uuid5] in
theorem Folded.seen {decisionId : UUID} (folded : Folded calls state session decisionId) :
    Seen calls session decisionId := by
  obtain ⟨call, mem, owner, named, -⟩ := folded
  exact ⟨call, mem, owner, named⟩

omit [Uuid5] in
theorem Folded.mono {more : List (DecisionCall F)} {later : AlertState} {decisionId : UUID}
    (folded : Folded calls state session decisionId) (sub : calls ⊆ more)
    (grows : ∀ last ∈ state.lastSourceTimestamp, ∃ last' ∈ later.lastSourceTimestamp, last ≤ last') :
    Folded more later session decisionId := by
  obtain ⟨call, mem, owner, named, last, held, within⟩ := folded
  obtain ⟨last', held', beyond⟩ := grows last held
  exact ⟨call, sub mem, owner, named, last', held', within.trans beyond⟩

theorem firstDetections_empty (machineOf : UUID → String) :
    FirstDetections (F := F) machineOf [] .empty [] where
  first _ _ found := nomatch found
  named _ _ held := nomatch held
  folded _ _ mem := nomatch mem
  unnamed _ _ _ mem := nomatch mem

/-- A call that leaves the alerts and the states as they are. -/
theorem FirstDetections.unchanged (detections : FirstDetections machineOf calls store events)
    (alerts : store'.alerts = store.alerts)
    (states : ∀ session, store'.stateOf machineOf session = store.stateOf machineOf session) :
    FirstDetections machineOf (calls ++ [call]) store' events := by
  have keep : ∀ {session decisionId}, Folded calls (store.stateOf machineOf session) session
      decisionId → Folded (calls ++ [call]) (store.stateOf machineOf session) session decisionId :=
    fun folded => folded.mono (List.subset_append_left _ _) fun last held => ⟨last, held, le_rfl⟩
  constructor <;> simp only [alerts, states]
  · exact detections.first
  · intro alertId row held
    obtain ⟨decisionId, named, folded⟩ := detections.named alertId row held
    exact ⟨decisionId, named, keep folded⟩
  · exact fun session decisionId mem => keep (detections.folded session decisionId mem)
  · exact detections.unnamed

/-- A decision later than the state names no alert of its session yet. -/
theorem FirstDetections.fresh (detections : FirstDetections machineOf calls store events)
    (tables : TablesAgree machineOf calls store events)
    (apart : AlertIdsApart (calls ++ [call])) (once : OneTimestamp (calls ++ [call]))
    (precedes : (store.stateOf machineOf call.session).Precedes call.decision.val) :
    store.alerts.get? (alertIdFor call.session call.decisionId) = none := by
  have seen : Seen (calls ++ [call]) call.session call.decisionId := ⟨call, by simp, rfl, rfl⟩
  rw [Option.eq_none_iff_forall_ne_some]
  intro row held
  obtain ⟨owner, -⟩ := tables.row_owner apart ⟨_, seen, rfl⟩ held
  obtain ⟨decisionId, named, folded⟩ := detections.named _ row held
  rw [owner] at named folded
  obtain ⟨earlier, mem, ofSession, ofDecision, last, lastHeld, within⟩ := folded
  have seenEarlier : Seen (calls ++ [call]) call.session decisionId :=
    ⟨earlier, List.mem_append_left _ mem, ofSession, ofDecision⟩
  have sameNames : (call.session, call.decisionId) = (call.session, decisionId) :=
    apart seen seenEarlier named
  have sameId : call.decisionId = decisionId := (Prod.mk.inj sameNames).2
  have sameTime := once earlier (List.mem_append_left _ mem) call (by simp) ofSession
    (ofDecision.trans sameId.symm)
  have later := precedes.later last lastHeld
  omega

/-- What one decision later than the state keeps. -/
structure KeepsFolded (machineOf : UUID → String) (calls : List (DecisionCall F))
    (store : RuntimeStore F) (call : DecisionCall F) (store' : RuntimeStore F) : Prop where
  folded : ∀ {session decisionId},
    Folded calls (store.stateOf machineOf session) session decisionId →
      Folded (calls ++ [call]) (store'.stateOf machineOf session) session decisionId
  candidates : ∀ session, ∀ decisionId ∈ (store'.stateOf machineOf session).anomalyDecisionIds,
    Folded (calls ++ [call]) (store'.stateOf machineOf session) session decisionId

theorem FirstDetections.keeps (detections : FirstDetections machineOf calls store events)
    (taken : Taken machineOf store call result store')
    (precedes : (store.stateOf machineOf call.session).Precedes call.decision.val)
    (outcome : Outcome stamp (store.stateOf machineOf call.session) call.decision.val policy result) :
    KeepsFolded machineOf calls store call store' := by
  have sub : calls ⊆ calls ++ [call] := List.subset_append_left _ _
  have seen := outcome.seen.2
  have keep : ∀ {session decisionId},
      Folded calls (store.stateOf machineOf session) session decisionId →
        Folded (calls ++ [call]) (store'.stateOf machineOf session) session decisionId := by
    intro session decisionId folded
    by_cases here : session = call.session
    · subst here
      rw [taken.stateOf_self]
      exact folded.mono sub fun last held => ⟨_, seen, (precedes.later last held).le⟩
    · rw [taken.stateOf_ne here]
      exact folded.mono sub fun last held => ⟨last, held, le_rfl⟩
  refine ⟨keep, fun session decisionId mem => ?_⟩
  by_cases here : session = call.session
  · subst here
    rw [taken.stateOf_self] at mem
    rcases List.mem_append.mp (outcome.candidates decisionId mem) with earlier | last
    · exact keep (detections.folded _ _ earlier)
    · rw [List.mem_singleton.mp last, taken.stateOf_self]
      exact ⟨call, by simp, rfl, rfl, _, seen, le_rfl⟩
  · refine keep (detections.folded session decisionId ?_)
    rwa [taken.stateOf_ne here] at mem

theorem FirstDetections.candidates_unnamed
    (detections : FirstDetections machineOf calls store events)
    (free : store.alerts.get? (alertIdFor call.session call.decisionId) = none)
    (quiet : (store.stateOf machineOf call.session).activeAlertId = none) :
    ∀ decisionId ∈ (store.stateOf machineOf call.session).candidates call.decision.val,
      store.alerts.get? (alertIdFor call.session decisionId) = none := by
  intro decisionId mem
  rcases List.mem_append.mp mem with earlier | last
  · exact detections.unnamed _ quiet decisionId earlier
  · rw [List.mem_singleton.mp last]
    exact free

theorem FirstDetections.silent (detections : FirstDetections machineOf calls store events)
    (taken : Taken machineOf store call result store')
    (keeps : KeepsFolded machineOf calls store call store')
    (outcome : Outcome stamp (store.stateOf machineOf call.session) call.decision.val policy result)
    (free : store.alerts.get? (alertIdFor call.session call.decisionId) = none)
    (noEvent : result.event = none)
    (same : (store.stateOf machineOf call.session).SameAlert result.state) :
    FirstDetections machineOf (calls ++ [call]) store' events := by
  have alerts : store'.alerts = store.alerts := by
    rw [taken.wrote.alerts, noEvent]
    rfl
  constructor
  case first =>
    intro session event found
    obtain ⟨row, held, first⟩ := detections.first session event found
    rw [alerts]
    refine ⟨row, held, ?_⟩
    by_cases here : session = call.session
    · subst here
      rw [taken.stateOf_self, same.2.2.1]
      exact first
    · rw [taken.stateOf_ne here]
      exact first
  case named =>
    rw [alerts]
    intro alertId row held
    obtain ⟨decisionId, named, folded⟩ := detections.named alertId row held
    exact ⟨decisionId, named, keeps.folded folded⟩
  case folded => exact keeps.candidates
  case unnamed =>
    rw [alerts]
    intro session quiet decisionId mem
    by_cases here : session = call.session
    · subst here
      rw [taken.stateOf_self] at quiet mem
      have before := same.1.symm.trans quiet
      exact detections.candidates_unnamed free before decisionId (outcome.candidates _ mem)
    · rw [taken.stateOf_ne here] at quiet mem
      exact detections.unnamed session quiet decisionId mem

/-- The alert of a state is the one last raised. -/
theorem TablesAgree.lastOnset_of_alert (tables : TablesAgree machineOf calls store events)
    {alertId : UUID}
    (alert : (store.stateOf machineOf session).activeAlertId = some alertId ∨
      ((store.stateOf machineOf session).activeAlertId = none ∧
        (store.stateOf machineOf session).previousAlertId = some alertId)) :
    ∃ event, lastOnset session (machineOf session) events = some event ∧
      event.alertId = alertId := by
  cases found : lastOnset session (machineOf session) events with
  | none =>
      obtain ⟨active, previous⟩ := tables.unraised session found
      rcases alert with held | ⟨-, held⟩
      · cases active.symm.trans held
      · cases previous.symm.trans held
  | some event =>
      refine ⟨event, rfl, ?_⟩
      obtain ⟨row, seen⟩ := tables.lastRaised session event found
      rcases alert with held | ⟨quiet, held⟩ <;> rcases seen.alert with here | ⟨quiet', here⟩
      · exact Option.some.inj (here.symm.trans held)
      · cases quiet'.symm.trans held
      · cases quiet.symm.trans here
      · exact Option.some.inj (here.symm.trans held)

/-- The row of an event's alert has the first detection of the event. -/
theorem FirstDetections.event_first (detections : FirstDetections machineOf calls store events)
    (tables : TablesAgree machineOf calls store events)
    (free : store.alerts.get? (alertIdFor call.session call.decisionId) = none)
    {event : AlertEventV1}
    (emits : Emits (store.stateOf machineOf call.session) call.decision.val result.state event) :
    event.firstDetection =
        ((store.alerts.get? event.alertId).map (·.firstDetection)).getD event.firstDetection ∧
      ∃ decisionId, event.alertId = alertIdFor call.session decisionId ∧
        (decisionId = call.decisionId ∨
          Folded calls (store.stateOf machineOf call.session) call.session decisionId) := by
  cases action : decide (event.action = .opened) with
  | true =>
      have opened := of_decide_eq_true action
      have quiet := emits.onset (by simp [opened, AlertAction.isOnset])
      have named := emits.opened opened
      obtain ⟨first, mem, same⟩ : ∃ first ∈ (store.stateOf machineOf call.session).candidates
          call.decision.val, event.alertId = alertIdFor call.session first := by
        unfold AlertState.newAlertId at named
        cases held : (store.stateOf machineOf call.session).candidates call.decision.val with
        | nil => simp [AlertState.candidates] at held
        | cons first rest =>
            rw [held] at named
            exact ⟨first, List.mem_cons_self, named⟩
      have unnamed := detections.candidates_unnamed free quiet first mem
      rw [same, unnamed]
      refine ⟨rfl, first, rfl, ?_⟩
      rcases List.mem_append.mp mem with earlier | last
      · exact .inr (detections.folded _ _ earlier)
      · exact .inl (List.mem_singleton.mp last)
  | false =>
      have notOpened := of_decide_eq_false action
      have alert : (store.stateOf machineOf call.session).activeAlertId = some event.alertId ∨
          ((store.stateOf machineOf call.session).activeAlertId = none ∧
            (store.stateOf machineOf call.session).previousAlertId = some event.alertId) := by
        cases onset : event.action.isOnset with
        | false => exact .inl (emits.inner onset)
        | true =>
            have reopened : event.action = .reopened := by
              simpa [AlertAction.isOnset, notOpened] using onset
            exact .inr ⟨emits.onset onset, emits.reopened reopened⟩
      obtain ⟨last, found, same⟩ := tables.lastOnset_of_alert alert
      obtain ⟨row, held, first⟩ := detections.first _ last found
      obtain ⟨row', seen⟩ := tables.lastRaised _ last found
      cases held.symm.trans seen.held
      rw [same] at held
      have kept := emits.kept notOpened
      rw [first] at kept
      refine ⟨?_, ?_⟩
      · rw [held]
        exact kept
      · obtain ⟨decisionId, named, folded⟩ := detections.named _ row held
        rw [seen.session] at named folded
        exact ⟨decisionId, named, .inr folded⟩

theorem FirstDetections.event (detections : FirstDetections machineOf calls store events)
    (tables : TablesAgree machineOf calls store events)
    (taken : Taken machineOf store call result store')
    (shape : TransitionShape stamp (Seen (calls ++ [call]) call.session)
      (store.stateOf machineOf call.session) call.decision.val result)
    (apart : AlertIdsApart (calls ++ [call]))
    (keeps : KeepsFolded machineOf calls store call store')
    (outcome : Outcome stamp (store.stateOf machineOf call.session) call.decision.val policy result)
    (free : store.alerts.get? (alertIdFor call.session call.decisionId) = none)
    {event : AlertEventV1} (emitted : result.event = some event)
    (emits : Emits (store.stateOf machineOf call.session) call.decision.val result.state event) :
    FirstDetections machineOf (calls ++ [call]) store' (events ++ [event]) := by
  have next := tables.event taken shape apart emitted emits
  obtain ⟨row, held, rowSession, -, -, -, -, rowFirst⟩ :=
    tables.get?_alerts_self taken shape apart emitted emits
  obtain ⟨sameFirst, decisionId, named, origin⟩ := detections.event_first tables free emits
  have elsewhere : ∀ alertId, alertId ≠ event.alertId →
      store'.alerts.get? alertId = store.alerts.get? alertId := by
    intro alertId other
    rw [taken.wrote.alerts, emitted]
    exact get?_upsertAlertRow_ne other
  have foldedNow : Folded (calls ++ [call]) (store'.stateOf machineOf call.session) call.session
      decisionId := by
    rcases origin with rfl | before
    · rw [taken.stateOf_self]
      exact ⟨call, by simp, rfl, rfl, _, outcome.seen.2, le_rfl⟩
    · exact keeps.folded before
  constructor
  case first =>
    intro session last found
    obtain ⟨row', seen⟩ := next.lastRaised session last found
    by_cases here : session = call.session
    · subst here
      have sameAlert : last.alertId = event.alertId := by
        have alert := seen.alert
        rw [taken.stateOf_self, emits.active, emits.previous] at alert
        by_cases resolved : event.action = .resolved
        · simpa [resolved, eq_comm] using alert
        · simpa [resolved, eq_comm] using alert
      rw [sameAlert]
      refine ⟨row, held, ?_⟩
      rw [taken.stateOf_self, emits.firstDetection, rowFirst]
      exact congrArg some sameFirst
    · have before : lastOnset session (machineOf session) events = some last := by
        rw [lastOnset_concat, if_neg] at found
        · exact found
        · rintro ⟨-, owner, -⟩
          exact here (owner.symm.trans emits.session)
      have other : last.alertId ≠ event.alertId := by
        intro same
        have heldHere := seen.held
        rw [same] at heldHere
        cases held.symm.trans heldHere
        exact here (seen.session.symm.trans rowSession)
      obtain ⟨earlier, heldBefore, first⟩ := detections.first session last before
      rw [elsewhere _ other, taken.stateOf_ne here]
      exact ⟨earlier, heldBefore, first⟩
  case named =>
    intro alertId row' held'
    by_cases same : alertId = event.alertId
    · subst same
      cases held.symm.trans held'
      rw [rowSession]
      exact ⟨decisionId, named, foldedNow⟩
    · rw [elsewhere alertId same] at held'
      obtain ⟨first, named', folded⟩ := detections.named alertId row' held'
      exact ⟨first, named', keeps.folded folded⟩
  case folded => exact keeps.candidates
  case unnamed =>
    intro session quiet first mem
    have seen := (keeps.candidates session first mem).seen
    by_cases here : session = call.session
    · subst here
      rw [taken.stateOf_self] at quiet mem
      rw [emits.candidates quiet] at mem
      exact absurd mem List.not_mem_nil
    · have other : alertIdFor session first ≠ event.alertId := by
        intro same
        have sameNames : (session, first) = (call.session, decisionId) :=
          apart seen foldedNow.seen (same.trans named)
        exact here (Prod.mk.inj sameNames).1
      rw [taken.stateOf_ne here] at quiet mem
      rw [elsewhere _ other]
      exact detections.unnamed session quiet first mem

theorem FirstDetections.apply (detections : FirstDetections machineOf calls store events)
    (tables : TablesAgree machineOf calls store events)
    (ofMachine : call.config.machineId = machineOf call.session)
    (apart : AlertIdsApart (calls ++ [call])) (once : OneTimestamp (calls ++ [call])) :
    FirstDetections machineOf (calls ++ [call]) (store.applyDecision call).1
      (events ++ (store.applyDecision call).2.toList) := by
  rcases tables.loadable.apply ofMachine with same | ⟨result, store', taken, wrote, applied⟩
  · rw [same, Option.toList_none, List.append_nil]
    exact detections.unchanged rfl fun _ => rfl
  · rw [applied]
    obtain ⟨kept, shape⟩ := tables.taken taken wrote
    by_cases repeated : (store.stateOf machineOf call.session).lastDecisionId =
        some call.decision.val.decisionId
    · cases taken.symm.trans (transition_repeated repeated)
      rw [Option.toList_none, List.append_nil]
      refine detections.unchanged wrote.alerts fun session => ?_
      by_cases here : session = call.session
      · rw [here, kept.stateOf_self]
      · exact kept.stateOf_ne here
    · have precedes := precedes_of_transition repeated taken
      have outcome := transition_outcome repeated taken
      have keeps := detections.keeps kept precedes outcome
      have free := detections.fresh tables apart once precedes
      rcases outcome.emits with ⟨event, emitted, emits⟩ | ⟨none, same⟩
      · rw [emitted]
        exact detections.event tables kept shape apart keeps outcome free emitted emits
      · rw [none, Option.toList_none, List.append_nil]
        exact detections.silent kept keeps outcome free none same

theorem FirstDetections.applyAll {rest : List (DecisionCall F)}
    (detections : FirstDetections machineOf calls store events)
    (tables : TablesAgree machineOf calls store events)
    (ofMachine : ∀ call ∈ rest, call.config.machineId = machineOf call.session)
    (apart : AlertIdsApart (calls ++ rest)) (once : OneTimestamp (calls ++ rest)) :
    FirstDetections machineOf (calls ++ rest) (store.applyDecisions rest).1
      (events ++ (store.applyDecisions rest).2) := by
  induction rest generalizing calls store events with
  | nil => simpa [RuntimeStore.applyDecisions] using detections
  | cons call rest ih =>
      have split : calls ++ call :: rest = (calls ++ [call]) ++ rest := by simp
      rw [split] at apart once ⊢
      have here := ofMachine call List.mem_cons_self
      have apartHere : AlertIdsApart (calls ++ [call]) :=
        apart.mono fun _ seen => Seen.mono (List.subset_append_left _ _) seen
      have onceHere : OneTimestamp (calls ++ [call]) := fun a memA b memB =>
        once a (List.mem_append_left _ memA) b (List.mem_append_left _ memB)
      have all := ih (detections.apply tables here apartHere onceHere) (tables.apply here apartHere)
        (fun later mem => ofMachine later (List.mem_cons_of_mem _ mem)) apart once
      unfold RuntimeStore.applyDecisions
      rwa [List.append_assoc events] at all

/-- After any decisions of any sessions, each session taken by one machine, the alerts
table agrees with the alert runtime states; with one source timestamp to a decision id,
the first detections agree as well. -/
theorem alerts_agree (machineOf : UUID → String) (calls : List (DecisionCall F))
    (ofMachine : ∀ call ∈ calls, call.config.machineId = machineOf call.session)
    (apart : AlertIdsApart calls) :
    AlertsAgree (RuntimeStore.empty.applyDecisions calls).1
        (RuntimeStore.empty.applyDecisions calls).2 ∧
      (OneTimestamp calls → FirstDetectionsAgree (RuntimeStore.empty.applyDecisions calls).1
        (RuntimeStore.empty.applyDecisions calls).2) := by
  have tables : TablesAgree machineOf calls _ _ :=
    (tablesAgree_empty machineOf).applyAll ofMachine apart
  refine ⟨tables.agree, fun once session machineId event found => ?_⟩
  have detections : FirstDetections machineOf calls _ _ :=
    (firstDetections_empty machineOf).applyAll (tablesAgree_empty machineOf) ofMachine apart once
  obtain ⟨payload, row, held, same, seen⟩ := tables.lastRaised_stored found
  obtain ⟨mem, owner, machine⟩ := lastOnset_eq_some found
  have known := tables.machines event mem
  rw [owner, machine] at known
  subst known
  obtain ⟨row', heldRow, first⟩ := detections.first session event found
  exact ⟨payload, row', held, heldRow, same ▸ first⟩

omit [PyFloat F] in
theorem alertIdsApart_iff [PyFloat F] {calls : List (DecisionCall F)} : AlertIdsApart calls ↔
    ∀ a ∈ calls, ∀ b ∈ calls,
      alertIdFor a.session a.decisionId = alertIdFor b.session b.decisionId →
        a.session = b.session ∧ a.decisionId = b.decisionId := by
  constructor
  · intro apart a memA b memB same
    have sameNames : (a.session, a.decisionId) = (b.session, b.decisionId) :=
      apart ⟨a, memA, rfl, rfl⟩ ⟨b, memB, rfl, rfl⟩ same
    exact Prod.mk.inj sameNames
  · rintro apart ⟨_, _⟩ ⟨a, memA, rfl, rfl⟩ ⟨_, _⟩ ⟨b, memB, rfl, rfl⟩ same
    obtain ⟨session, decision⟩ := apart a memA b memB same
    exact Prod.ext session decision

instance {calls : List (DecisionCall F)} : Decidable (AlertIdsApart calls) :=
  decidable_of_iff' _ alertIdsApart_iff

omit [Uuid5] in
instance {calls : List (DecisionCall F)} : Decidable (OneTimestamp calls) := by
  unfold OneTimestamp
  infer_instance

end Step

/-! ### Concrete calls -/

/-- The calls of one session, decided by a machine with a policy. -/
def callsOf (policy : LockedAlertPolicyV1 Int) (machineId : String)
    (stream : List (TransitionStamp × Checked (ScoreDecisionV1 Int))) : List (DecisionCall Int) :=
  stream.map fun delivered => ⟨⟨policy, machineId⟩, delivered.1, delivered.2⟩

theorem reopenedStream_alerts_agree :
    letI := episodeNames
    AlertsAgree (RuntimeStore.empty.applyDecisions (callsOf promptPolicy "metropt3" reopenedStream)).1
        (RuntimeStore.empty.applyDecisions (callsOf promptPolicy "metropt3" reopenedStream)).2 ∧
      FirstDetectionsAgree
        (RuntimeStore.empty.applyDecisions (callsOf promptPolicy "metropt3" reopenedStream)).1
        (RuntimeStore.empty.applyDecisions (callsOf promptPolicy "metropt3" reopenedStream)).2 := by
  let := episodeNames
  have agree := alerts_agree (fun _ => "metropt3") (callsOf promptPolicy "metropt3" reopenedStream)
    (by decide) (by decide)
  exact ⟨agree.1, agree.2 (by decide)⟩

/-- Two anomalies that open an alert, its resolution, and two anomalies an hour later
of which the first reuses the id of the first decision. -/
def reusedStream : List (TransitionStamp × Checked (ScoreDecisionV1 Int)) :=
  [(stampAt 0, checkedWindow 5 true []),
   (stampAt 1, checkedWindow 10 true []),
   (stampAt 2, checkedWindow 15 false []),
   (stampAt 3, ⟨{ scoredWindow 70 true [] with decisionId := 5 }, by decide⟩),
   (stampAt 4, checkedWindow 75 true [])]

/-- A policy that opens on the second anomaly in a row. -/
def secondPolicy : LockedAlertPolicyV1 Int := { promptPolicy with persistenceDecisions := 2 }

/-- The ids of the alerts of these decisions, and of the evidence they record. -/
abbrev reuseNames : Uuid5 :=
  knownUuid5
   [("alert:00000000-0000-0000-0000-000000000001:00000000-0000-0000-0000-000000000005",
      0x7d02caee6a625a7c9e37894c2789fa34),
    ("alert:00000000-0000-0000-0000-000000000001:00000000-0000-0000-0000-00000000000a",
      0xeff53a88e32d5fb4ad30dca55935dbe0),
    ("alert:00000000-0000-0000-0000-000000000001:00000000-0000-0000-0000-00000000000f",
      0x6facec1df9e056f293d42678f91344ce),
    ("alert:00000000-0000-0000-0000-000000000001:00000000-0000-0000-0000-00000000004b",
      0x648ca3943677540ca778353624b7e8ab),
    ("evidence:7d02caee-6a62-5a7c-9e37-894c2789fa34:00000000-0000-0000-0000-00000000000a",
      0x6bfec90bdb7054e6a68c897f6b324bd6),
    ("evidence:7d02caee-6a62-5a7c-9e37-894c2789fa34:00000000-0000-0000-0000-00000000004b",
      0xa3dbd923e685545aa2985384aa108fbb)]

/-- One decision, taken by two machines. -/
def sharedCalls : List (DecisionCall Int) :=
  callsOf promptPolicy "metropt3" [(stampAt 0, checkedWindow 5 true [])] ++
    callsOf promptPolicy "metropt4" [(stampAt 1, checkedWindow 5 true [])]

/-- With the alert ids of the decisions distinct, a decision id that comes back with
another timestamp leaves the row of an opened alert its earlier first detection, and a
second machine of a session reads an active alert whose row is the first machine's. -/
theorem alerts_disagree :
    letI := reuseNames
    (AlertIdsApart (callsOf secondPolicy "metropt3" reusedStream) ∧
        ¬ FirstDetectionsAgree
          (RuntimeStore.empty.applyDecisions (callsOf secondPolicy "metropt3" reusedStream)).1
          (RuntimeStore.empty.applyDecisions (callsOf secondPolicy "metropt3" reusedStream)).2) ∧
      (AlertIdsApart sharedCalls ∧
        ¬ AlertsAgree (RuntimeStore.empty.applyDecisions sharedCalls).1
          (RuntimeStore.empty.applyDecisions sharedCalls).2) := by
  let := reuseNames
  constructor
  · have differ : epoch2020 + Datetime.minutes 75 ≠ epoch2020 + Datetime.minutes 10 := by decide
    exact ⟨by decide, not_firstDetectionsAgree 1 "metropt3" 0x7d02caee6a625a7c9e37894c2789fa34
      (by decide) (by decide) (by decide) differ⟩
  · have differ : "metropt4" ≠ "metropt3" := by decide
    -- the second machine sorts the persisted decisions, which only the kernel unfolds
    exact ⟨by decide, not_alertsAgree 1 0x7d02caee6a625a7c9e37894c2789fa34 (by decide +kernel)
      (by decide +kernel) differ⟩

end IndustrialReliability
