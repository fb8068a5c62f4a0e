import IndustrialReliability.Alert.Ledger
import IndustrialReliability.Lib.Restarts
import Mathlib.Data.List.TakeWhile

/-!
Scores delivered again.

A worker that restarts publishes decisions again, with the same ids and
contents. `Ledgered` says that a world of the consumer holds the ledger of the
decisions it has processed. One more delivery of the last of them changes
nothing (`deliver_again`), one of a later decision extends the ledger or raises
(`deliver_later`), and one of an earlier decision raises (`deliver_earlier`): the
alert state remembers only the last decision.
-/

namespace IndustrialReliability

variable {F : Type} [PyFloat F]

/-- A record of the scores topic that decodes, with the ids and clock readings of
the call that processes it. -/
structure ScoreDelivery (F : Type) [PyFloat F] where
  stamp : ProcessStamp
  record : ScoreRecord F
  decision : Checked (ScoreDecisionV1 F)
  decoded : record.value = .ok decision

namespace ScoreDelivery

/-- What does not change when the decision is published again. -/
def contents (delivery : ScoreDelivery F) : ScoreDecisionV1 F := delivery.decision.val.unstamped

/-- The random id of the event the decision may raise. -/
def eventId (delivery : ScoreDelivery F) : UUID := delivery.stamp.transition.eventMessageId

end ScoreDelivery

/-- The decision passes the identity check of its session. -/
def accepted (policy : LockedAlertPolicyV1 F) (decision : ScoreDecisionV1 F) : Bool :=
  (assertIdentity policy decision).toBool

section Deliver

variable [Uuid5]

/-- The world after a call that returns. -/
def returned (called : ConsumerWorld F × Except ProcessError ProcessOutcome) :
    Except ProcessError (ConsumerWorld F) :=
  match called.2 with
  | .error error => .error error
  | .ok _ => .ok called.1

def deliver (config : AlertConsumerConfig F) (world : ConsumerWorld F)
    (delivery : ScoreDelivery F) : Except ProcessError (ConsumerWorld F) :=
  returned (process config delivery.stamp none delivery.record world)

/-- The records of a list, processed one by one while the calls return. -/
def deliverAll (config : AlertConsumerConfig F) (world : ConsumerWorld F)
    (deliveries : List (ScoreDelivery F)) : Except ProcessError (ConsumerWorld F) :=
  deliveries.foldlM (deliver config) world

theorem deliverAll_cons {config : AlertConsumerConfig F} {world world' : ConsumerWorld F}
    {delivery : ScoreDelivery F} {rest : List (ScoreDelivery F)} :
    deliverAll config world (delivery :: rest) = .ok world' ↔
      ∃ next, deliver config world delivery = .ok next ∧ deliverAll config next rest = .ok world' := by
  unfold deliverAll
  rw [List.foldlM_cons, Lib.bind_eq_ok_iff]

/-- The world holds the ledger of the decisions seen, whose event ids are `used`. -/
structure Ledgered (config : AlertConsumerConfig F) (session : UUID)
    (seen : List (ScoreDecisionV1 F)) (used : List UUID) (world : ConsumerWorld F) : Prop where
  failedSessions : world.failedSessions = []
  settled : Settled config.policy session config.machineId seen
  loaded : world.store.loadAlertState session config.machineId config.policy =
    .ok ((ledgerOf config.policy session config.machineId seen).state, world.store)
  records : world.store.records = (ledgerOf config.policy session config.machineId seen).records
  stored : seen ≠ [] → (∃ row, world.store.replaySessions.get? session = some row) ∧
    world.store.alertRuntimeStates.get? (session, config.machineId) =
      some (statePayload (ledgerOf config.policy session config.machineId seen).state)
  events : ∀ row ∈ world.store.alertEvents.values, row.decisionId ∈ seen.map (·.decisionId)
  eventIds : ∀ id, (world.store.alertEvents.get? id).isSome → id ∈ used
  outboxIds : ∀ id, (world.store.alertOutbox.get? id).isSome → id ∈ used
  evidence : ∀ id row, world.store.evidenceSnapshots.get? id = some row →
    row.decisionId ∈ seen.map (·.decisionId) ∧
      ∃ first ∈ seen.map (·.decisionId), id = evidenceIdFor (alertIdFor session first) row.decisionId

variable {config : AlertConsumerConfig F} {session : UUID} {seen : List (ScoreDecisionV1 F)}
  {used : List UUID} {world world' : ConsumerWorld F} {delivery : ScoreDelivery F}

theorem ledgered_empty (named : 1 ≤ config.machineId.length) :
    Ledgered config session [] [] .empty := by
  refine ⟨rfl, settled_empty config.policy session named, rfl, rfl, nofun, nofun, nofun, nofun, ?_⟩
  intro id row held
  cases held

omit [PyFloat F] [Uuid5] in
theorem returned_recordResult {decision : ScoreDecisionV1 F} {result : TransitionResult F} :
    returned (recordResult none decision result world) = .ok world' ↔
      ∃ store, world.store.recordDecisionTransition decision result = .ok store ∧
        world' = { world with store } := by
  unfold recordResult returned
  cases recorded : world.store.recordDecisionTransition decision result with
  | error e => simp
  | ok store => simp [eq_comm]

theorem returned_recordDecision {decision : ScoreDecisionV1 F} {stamp : ProcessStamp}
    {state : AlertState}
    (loads : world.store.loadAlertState decision.replaySessionId config.machineId config.policy =
      .ok (state, world.store)) :
    returned (recordDecision config stamp none decision world) = .ok world' ↔
      ∃ result, transition stamp.transition state decision config.policy = .ok result ∧
        ∃ store, world.store.recordDecisionTransition decision result = .ok store ∧
          world' = { world with store } := by
  unfold recordDecision
  rw [loads]
  dsimp only
  cases taken : transition stamp.transition state decision config.policy with
  | error e => simp [returned]
  | ok result =>
      dsimp only
      rw [returned_recordResult]
      simp

/-- A delivery to a session that goes on takes the transition and records it. -/
theorem Ledgered.deliver_eq_ok_iff (ledgered : Ledgered config session seen used world)
    (owned : delivery.contents.replaySessionId = session)
    (identified : accepted config.policy delivery.contents = true) :
    deliver config world delivery = .ok world' ↔
      ∃ result, transition delivery.stamp.transition
          (ledgerOf config.policy session config.machineId seen).state delivery.contents
            config.policy = .ok result ∧
        ∃ store, world.store.recordDecisionTransition delivery.decision.val result = .ok store ∧
          world' = { world with store } := by
  have goesOn : delivery.decision.val.replaySessionId ∉ world.failedSessions := by
    rw [ledgered.failedSessions]
    exact List.not_mem_nil
  have ok : assertIdentity config.policy delivery.decision.val = .ok () := by
    have same : (assertIdentity config.policy delivery.decision.val).toBool = true := identified
    cases checked : assertIdentity config.policy delivery.decision.val with
    | error e =>
        rw [checked] at same
        cases same
    | ok u => rfl
  have loads : world.store.loadAlertState delivery.decision.val.replaySessionId config.machineId
      config.policy = .ok ((ledgerOf config.policy session config.machineId seen).state,
        world.store) := by
    have same : delivery.decision.val.replaySessionId = session := owned
    rw [same]
    exact ledgered.loaded
  unfold deliver process
  rw [delivery.decoded]
  dsimp only
  rw [if_neg goesOn, ok]
  exact returned_recordDecision loads

/-- A delivery of the last decision seen changes nothing. -/
theorem deliver_again (ledgered : Ledgered config session seen used world)
    (owned : delivery.contents.replaySessionId = session)
    (identified : accepted config.policy delivery.contents = true)
    (last : seen.getLast? = some delivery.contents) :
    deliver config world delivery = .ok world := by
  have nonempty : seen ≠ [] := by
    rintro rfl
    cases last
  obtain ⟨⟨row, present⟩, held⟩ := ledgered.stored nonempty
  have settled := ledgered.settled
  have taken : transition delivery.stamp.transition
      (ledgerOf config.policy session config.machineId seen).state delivery.contents config.policy =
        .ok ⟨(ledgerOf config.policy session config.machineId seen).state, none, none⟩ := by
    unfold transition
    rw [settled.decided, last, Option.map_some, if_pos rfl]
  have inLedger : (ledgerOf config.policy session config.machineId seen).records.scoreDecisions.get?
      delivery.contents.decisionId = some delivery.contents.unstamped := by
    rw [Lib.Table.get?_eq_some_iff, settled.rows]
    exact List.mem_map_of_mem (List.mem_of_getLast? last)
  rw [← ledgered.records] at inLedger
  have inStore := (Lib.Table.get?_mapValues _ _ _).symm.trans inLedger
  obtain ⟨stored, inStore, -⟩ := Option.map_eq_some_iff.mp inStore
  obtain ⟨before, recordable⟩ := settled.admissible.of_mem (List.mem_of_getLast? last)
  have storable : delivery.decision.val.Storable := recordable.storable
  have present' : world.store.replaySessions.get? delivery.decision.val.replaySessionId =
      some row := by
    have same : delivery.decision.val.replaySessionId = session := owned
    rw [same]
    exact present
  have held' : world.store.alertRuntimeStates.get?
      ((ledgerOf config.policy session config.machineId seen).state.replaySessionId,
        (ledgerOf config.policy session config.machineId seen).state.machineId) =
      some (statePayload (ledgerOf config.policy session config.machineId seen).state) := by
    rw [settled.owner, settled.machine]
    exact held
  refine (ledgered.deliver_eq_ok_iff owned identified).mpr ⟨_, taken, world.store, ?_, rfl⟩
  exact RuntimeStore.recordDecisionTransition_again storable present' inStore held'

/-- A delivery of a decision before the last one seen raises. -/
theorem deliver_earlier (ledgered : Ledgered config session seen used world)
    (owned : delivery.contents.replaySessionId = session)
    (identified : accepted config.policy delivery.contents = true)
    {last : ScoreDecisionV1 F} (head : seen.getLast? = some last)
    (earlier : delivery.contents.sourceTimestamp < last.sourceTimestamp)
    (other : last.decisionId ≠ delivery.contents.decisionId) :
    deliver config world delivery ≠ .ok world' := by
  intro returns
  obtain ⟨result, taken, -⟩ := (ledgered.deliver_eq_ok_iff owned identified).mp returns
  have settled := ledgered.settled
  unfold transition at taken
  rw [settled.decided, settled.timed, head, Option.map_some, Option.map_some, if_neg ?_,
    Option.filter_some, if_pos (decide_eq_true earlier.le)] at taken
  · cases taken
  · exact fun same => other (Option.some.inj same)

/-! ### A later decision -/

/-- The decisions in the database are those seen. -/
theorem Ledgered.scoreDecisions (ledgered : Ledgered config session seen used world) :
    world.store.scoreDecisions.values.map (·.unstamped) = seen.map (·.unstamped) := by
  have rows := ledgered.settled.rows
  rw [← ledgered.records] at rows
  have values := congrArg (List.map Prod.snd) rows
  simpa [RuntimeStore.records, Lib.Table.mapValues, Lib.Table.values, Function.comp_def] using values

theorem Ledgered.newWindow_iff (ledgered : Ledgered config session seen used world)
    (decision : ScoreDecisionV1 F) :
    (∀ row ∈ world.store.scoreDecisions.values, row.windowId ≠ decision.windowId) ↔
      ∀ earlier ∈ seen, earlier.windowId ≠ decision.windowId := by
  have view : ∀ decisions : List (ScoreDecisionV1 F),
      (∀ row ∈ decisions, row.windowId ≠ decision.windowId) ↔
        ∀ row ∈ decisions.map (·.unstamped), row.windowId ≠ decision.windowId := by
    intro decisions
    rw [List.forall_mem_map]
    exact Iff.rfl
  rw [view, ledgered.scoreDecisions, ← view]

theorem Ledgered.absent (ledgered : Ledgered config session seen used world)
    (later : Later seen delivery.contents) :
    world.store.scoreDecisions.get? delivery.decision.val.decisionId = none := by
  cases held : world.store.scoreDecisions.get? delivery.decision.val.decisionId with
  | none => rfl
  | some row =>
      have inLedger : (world.store.scoreDecisions.mapValues (·.unstamped)).get?
          delivery.decision.val.decisionId = some row.unstamped := by
        rw [Lib.Table.get?_mapValues, held]
        rfl
      have rows := ledgered.settled.rows
      rw [← ledgered.records] at rows
      have mem := Lib.Table.get?_eq_some_iff.mp inLedger
      have mem : (delivery.decision.val.decisionId, row.unstamped) ∈
          world.store.records.scoreDecisions.rows := mem
      rw [rows] at mem
      obtain ⟨earlier, seenBefore, same⟩ := List.mem_map.mp mem
      exact absurd (congrArg Prod.fst same) (later earlier seenBefore).2

/-- No two decisions of the session have evidence under one id. -/
def EvidenceIdsApart (session : UUID) (ids : List UUID) : Prop :=
  ∀ first ∈ ids, ∀ first' ∈ ids, ∀ id ∈ ids, ∀ id' ∈ ids,
    evidenceIdFor (alertIdFor session first) id = evidenceIdFor (alertIdFor session first') id' →
      id = id'

theorem EvidenceIdsApart.mono {ids ids' : List UUID} (apart : EvidenceIdsApart session ids)
    (fewer : ∀ id ∈ ids', id ∈ ids) : EvidenceIdsApart session ids' :=
  fun first h first' h' id hid id' hid' =>
    apart first (fewer _ h) first' (fewer _ h') id (fewer _ hid) id' (fewer _ hid')

theorem Ledgered.shape (ledgered : Ledgered config session seen used world)
    (owned : delivery.contents.replaySessionId = session) {result : TransitionResult F}
    (taken : transition delivery.stamp.transition
      (ledgerOf config.policy session config.machineId seen).state delivery.contents
        config.policy = .ok result) :
    TransitionShape delivery.stamp.transition
      (· ∈ (seen ++ [delivery.contents]).map (·.decisionId))
      (ledgerOf config.policy session config.machineId seen).state delivery.contents result := by
  have settled := ledgered.settled
  have drawn : (ledgerOf config.policy session config.machineId seen).state.DrawnFrom
      (· ∈ (seen ++ [delivery.contents]).map (·.decisionId)) :=
    settled.drawn.mono fun id mem => by
      rw [List.map_append]
      exact List.mem_append_left _ mem
  exact transition_shape drawn (by simp) (owned.trans settled.owner.symm) taken

/-- Nothing in the store stands in the way of a later decision. -/
theorem Ledgered.newMessages (ledgered : Ledgered config session seen used world)
    (owned : delivery.contents.replaySessionId = session)
    (later : Later seen delivery.contents) (fresh : delivery.eventId ∉ used)
    (apart : EvidenceIdsApart session ((seen ++ [delivery.contents]).map (·.decisionId)))
    {result : TransitionResult F}
    (taken : transition delivery.stamp.transition
      (ledgerOf config.policy session config.machineId seen).state delivery.contents
        config.policy = .ok result) :
    world.store.NewMessages delivery.decision.val result := by
  have shape := ledgered.shape owned taken
  have notSeen : delivery.contents.decisionId ∉ seen.map (·.decisionId) := by
    intro mem
    obtain ⟨earlier, mem, same⟩ := List.mem_map.mp mem
    exact (later earlier mem).2 same
  have more : ∀ id ∈ seen.map (·.decisionId),
      id ∈ (seen ++ [delivery.contents]).map (·.decisionId) := by
    intro id mem
    rw [List.map_append]
    exact List.mem_append_left _ mem
  constructor
  · intro row mem same
    exact notSeen (same ▸ ledgered.events row mem)
  · intro row mem same
    obtain ⟨id, held⟩ := Lib.Table.mem_values_iff.mp mem
    exact notSeen (same ▸ (ledgered.evidence id row held).1)
  · intro event mem
    have unused : event.messageId ∉ used := (shape.event event mem).1 ▸ fresh
    refine ⟨?_, ?_⟩
    · rw [← Option.not_isSome_iff_eq_none]
      exact fun held => unused (ledgered.eventIds _ held)
    · rw [← Option.not_isSome_iff_eq_none]
      exact fun held => unused (ledgered.outboxIds _ held)
  · intro evidence mem
    obtain ⟨event, emitted, named⟩ := shape.evidence evidence mem
    obtain ⟨-, first, firstSeen, alert⟩ := shape.event event emitted
    rw [ledgered.settled.owner] at alert
    rw [alert] at named
    cases held : world.store.evidenceSnapshots.get? evidence.evidenceId with
    | none => rfl
    | some row =>
        obtain ⟨seenBefore, first', firstSeen', named'⟩ := ledgered.evidence _ _ held
        have same := apart first firstSeen first' (more _ firstSeen') _ (by simp) _
          (more _ seenBefore) (named.symm.trans named')
        exact absurd (same ▸ seenBefore) notSeen

omit [PyFloat F] [Uuid5] in
theorem mem_map_append_left {ids : List (ScoreDecisionV1 F)} {id : UUID}
    (decision : ScoreDecisionV1 F) (mem : id ∈ ids.map (·.decisionId)) :
    id ∈ (ids ++ [decision]).map (·.decisionId) := by
  rw [List.map_append]
  exact List.mem_append_left _ mem

/-- A later decision that is recorded extends the ledger. -/
theorem Ledgered.recorded (ledgered : Ledgered config session seen used world)
    (owned : delivery.contents.replaySessionId = session)
    (later : Later seen delivery.contents) (storable : delivery.contents.Storable)
    (window : ∀ earlier ∈ seen, earlier.windowId ≠ delivery.contents.windowId)
    {result : TransitionResult F}
    (new : world.store.NewMessages delivery.decision.val result)
    (taken : transition delivery.stamp.transition
      (ledgerOf config.policy session config.machineId seen).state delivery.contents
        config.policy = .ok result) :
    Ledgered config session (seen ++ [delivery.contents]) (used ++ [delivery.eventId])
      { world with store := world.store.recorded delivery.decision.val result } := by
  have settled := ledgered.settled
  have shape := ledgered.shape owned taken
  have ledger : ledgerOf config.policy session config.machineId (seen ++ [delivery.contents]) =
      ⟨result.state, (ledgerOf config.policy session config.machineId seen).records.record
        delivery.contents result.unstamped⟩ :=
    (ledgerOf_append _ _ _ _ _).trans (Ledger.decide_of_ok taken)
  have owner : result.state.replaySessionId = session := shape.session.trans settled.owner
  have machine : result.state.machineId = config.machineId := shape.machine.trans settled.machine
  have state : (world.store.recorded delivery.decision.val result).alertRuntimeStates.get?
      (session, config.machineId) = some (statePayload result.state) := by
    unfold RuntimeStore.recorded RuntimeStore.upsertStateRow
    rw [← owner, ← machine]
    dsimp only
    rw [Lib.Table.get?_upsert_self]
    cases world.store.alertRuntimeStates.get? (result.state.replaySessionId,
      result.state.machineId) <;> rfl
  constructor
  · exact ledgered.failedSessions
  · exact settled.append later delivery.decision.property owned storable window taken
  · unfold RuntimeStore.loadAlertState
    dsimp only
    rw [state, ledger]
    rfl
  · rw [ledger, ← ledgered.records]
    exact RuntimeStore.records_recorded new
  · intro _
    refine ⟨?_, by rw [ledger]; exact state⟩
    exact Option.isSome_iff_exists.mp
      (owned ▸ Lib.Table.isSome_get?_insertNew_self _ _ _)
  · intro row mem
    obtain ⟨id, held⟩ := Lib.Table.mem_values_iff.mp mem
    rcases RuntimeStore.get?_eventsAfter held with before | ⟨event, -, -, decided⟩
    · exact mem_map_append_left _ (ledgered.events row (Lib.Table.mem_values_iff.mpr ⟨id, before⟩))
    · rw [decided]
      exact List.mem_map_of_mem (a := delivery.contents) (by simp)
  · intro id held
    obtain ⟨row, held⟩ := Option.isSome_iff_exists.mp held
    rcases RuntimeStore.get?_eventsAfter held with before | ⟨event, emitted, rfl, -⟩
    · exact List.mem_append_left _ (ledgered.eventIds id (by rw [before]; rfl))
    · exact List.mem_append_right _ (List.mem_singleton.mpr (shape.event event emitted).1)
  · intro id held
    obtain ⟨row, held⟩ := Option.isSome_iff_exists.mp held
    rcases RuntimeStore.get?_outboxAfter held with before | ⟨event, emitted, rfl⟩
    · exact List.mem_append_left _ (ledgered.outboxIds id (by rw [before]; rfl))
    · exact List.mem_append_right _ (List.mem_singleton.mpr (shape.event event emitted).1)
  · intro id row held
    rcases RuntimeStore.get?_evidenceAfter held with before | ⟨evidence, built, rfl, decided⟩
    · obtain ⟨seenBefore, first, firstSeen, named⟩ := ledgered.evidence id row before
      exact ⟨mem_map_append_left _ seenBefore, first, mem_map_append_left _ firstSeen, named⟩
    · obtain ⟨event, emitted, named⟩ := shape.evidence evidence built
      obtain ⟨-, first, firstSeen, alert⟩ := shape.event event emitted
      rw [settled.owner] at alert
      rw [decided]
      refine ⟨List.mem_map_of_mem (a := delivery.contents) (by simp), first, firstSeen, ?_⟩
      rw [named, alert]
      rfl

/-- A delivery of a later decision that returns extends the ledger. -/
theorem deliver_later (ledgered : Ledgered config session seen used world)
    (owned : delivery.contents.replaySessionId = session)
    (identified : accepted config.policy delivery.contents = true)
    (later : Later seen delivery.contents) (fresh : delivery.eventId ∉ used)
    (apart : EvidenceIdsApart session ((seen ++ [delivery.contents]).map (·.decisionId)))
    (returns : deliver config world delivery = .ok world') :
    Ledgered config session (seen ++ [delivery.contents]) (used ++ [delivery.eventId]) world' := by
  obtain ⟨result, taken, store, committed, rfl⟩ :=
    (ledgered.deliver_eq_ok_iff owned identified).mp returns
  have new := ledgered.newMessages owned later fresh apart taken
  obtain ⟨storable, window, rfl⟩ :=
    (RuntimeStore.recordDecisionTransition_new_iff (ledgered.absent later) new).mp committed
  exact ledgered.recorded owned later storable
    ((ledgered.newWindow_iff delivery.contents).mp window) new taken

/-- A delivery of a later decision returns when the decision can be recorded. -/
theorem deliver_recordable (ledgered : Ledgered config session seen used world)
    (owned : delivery.contents.replaySessionId = session)
    (identified : accepted config.policy delivery.contents = true)
    (later : Later seen delivery.contents) (fresh : delivery.eventId ∉ used)
    (apart : EvidenceIdsApart session ((seen ++ [delivery.contents]).map (·.decisionId)))
    (recordable : Recordable config.policy seen delivery.contents) :
    ∃ world', deliver config world delivery = .ok world' := by
  obtain ⟨result, taken⟩ := ledgered.settled.transition_ok later delivery.decision.property
    delivery.stamp.transition recordable
  have new := ledgered.newMessages owned later fresh apart taken
  have window := (ledgered.newWindow_iff delivery.contents).mpr recordable.window
  have committed := (RuntimeStore.recordDecisionTransition_new_iff (ledgered.absent later) new).mpr
    ⟨recordable.storable, window, rfl⟩
  exact ⟨_, (ledgered.deliver_eq_ok_iff owned identified).mpr ⟨result, taken, _, committed, rfl⟩⟩

/-! ### A session that fails -/

/-- A decision with another identity fails the session and records nothing. -/
theorem deliver_foreign (ledgered : Ledgered config session seen used world)
    (owned : delivery.contents.replaySessionId = session)
    (foreign : accepted config.policy delivery.contents = false) :
    ∃ world', deliver config world delivery = .ok world' ∧ session ∈ world'.failedSessions ∧
      world'.store.records = world.store.records := by
  have goesOn : delivery.decision.val.replaySessionId ∉ world.failedSessions := by
    rw [ledgered.failedSessions]
    exact List.not_mem_nil
  have mismatch : (assertIdentity config.policy delivery.decision.val).toBool = false := foreign
  have failed : session ∈ world.failedSessions.insert delivery.decision.val.replaySessionId := by
    have same : delivery.decision.val.replaySessionId = session := owned
    rw [same]
    exact List.mem_insert_self
  unfold deliver process
  rw [delivery.decoded]
  dsimp only
  rw [if_neg goesOn]
  cases checked : assertIdentity config.policy delivery.decision.val with
  | ok u =>
      rw [checked] at mismatch
      cases mismatch
  | error detail => exact ⟨_, rfl, failed, rfl⟩

/-- A failed session skips what is delivered. -/
theorem deliverAll_failed {deliveries : List (ScoreDelivery F)}
    (failed : session ∈ world.failedSessions)
    (owned : ∀ delivery ∈ deliveries, delivery.contents.replaySessionId = session) :
    deliverAll config world deliveries = .ok world := by
  induction deliveries with
  | nil => rfl
  | cons delivery rest ih =>
      obtain ⟨here, there⟩ := List.forall_mem_cons.mp owned
      refine deliverAll_cons.mpr ⟨world, ?_, ih there⟩
      have skipped : delivery.decision.val.replaySessionId ∈ world.failedSessions := by
        have same : delivery.decision.val.replaySessionId = session := here
        rw [same]
        exact failed
      unfold deliver process
      rw [delivery.decoded]
      dsimp only
      rw [if_pos skipped]
      rfl

/-! ### A restarting worker -/

/-- No decision is followed by an earlier one. -/
def NeverBack (decisions : List (ScoreDecisionV1 F)) : Prop :=
  decisions.IsChain fun a b => a.sourceTimestamp ≤ b.sourceTimestamp

omit [PyFloat F] [Uuid5] in
theorem neverBack_append_cons {last : Option (ScoreDecisionV1 F)} {decision : ScoreDecisionV1 F}
    {rest : List (ScoreDecisionV1 F)} :
    NeverBack (last.toList ++ decision :: rest) ↔
      (∀ l ∈ last, l.sourceTimestamp ≤ decision.sourceTimestamp) ∧ NeverBack (decision :: rest) := by
  cases last with
  | none => simp
  | some l => simp [NeverBack]

/-- The decisions are strictly ordered in time and have distinct ids. -/
def TimeOrdered (stream : List (ScoreDecisionV1 F)) : Prop :=
  stream.Pairwise fun a b => a.sourceTimestamp < b.sourceTimestamp ∧ a.decisionId ≠ b.decisionId

instance (decisions : List (ScoreDecisionV1 F)) : Decidable (NeverBack decisions) := by
  unfold NeverBack
  infer_instance

instance (decisions : List (ScoreDecisionV1 F)) : Decidable (TimeOrdered decisions) := by
  unfold TimeOrdered
  infer_instance

instance (ids : List UUID) : Decidable (EvidenceIdsApart session ids) := by
  unfold EvidenceIdsApart
  infer_instance

/-- What the deliveries do, given whether they go back (`ahead`): they return
exactly when they do not and the accepted decisions can be recorded, and then
leave the ledger of these. -/
structure Delivers (config : AlertConsumerConfig F) (session : UUID)
    (stream : List (ScoreDecisionV1 F)) (ahead : Prop)
    (done : Except ProcessError (ConsumerWorld F)) : Prop where
  sound : ∀ world, done = .ok world → ahead ∧
    Admissible config.policy (stream.takeWhile (accepted config.policy)) ∧
    world.store.records = (ledgerOf config.policy session config.machineId
      (stream.takeWhile (accepted config.policy))).records
  complete : ahead → Admissible config.policy (stream.takeWhile (accepted config.policy)) →
    ∃ world, done = .ok world

variable {stream : List (ScoreDecisionV1 F)} {m : Nat}

omit [PyFloat F] [Uuid5] in
theorem TimeOrdered.later (ordered : TimeOrdered stream) (inside : m < stream.length) :
    Later (stream.take m) stream[m] := by
  intro earlier mem
  obtain ⟨i, before, rfl⟩ := List.mem_take_iff_getElem.mp mem
  exact List.pairwise_iff_getElem.mp ordered i m _ _ (by omega)

omit [PyFloat F] [Uuid5] in
theorem takeWhile_take {p : ScoreDecisionV1 F → Bool} (all : ∀ d ∈ stream.take m, p d = true)
    (inside : m < stream.length) :
    stream.takeWhile p = stream.take m ++
      if p stream[m] then stream[m] :: (stream.drop (m + 1)).takeWhile p else [] := by
  conv_lhs => rw [← List.take_append_drop m stream]
  rw [List.takeWhile_append_of_pos all, List.drop_eq_getElem_cons inside, List.takeWhile_cons]

omit [PyFloat F] [Uuid5] in
theorem getLast?_take_succ (inside : m < stream.length) :
    (stream.take (m + 1)).getLast? = some stream[m] := by
  rw [List.take_succ_eq_append_getElem inside, List.getLast?_concat]

/-- One more delivery, and the rest from the world it leaves. -/
theorem Delivers.cons_of_ok {ahead : Prop} {rest : List (ScoreDelivery F)}
    {next : ConsumerWorld F} (returns : deliver config world delivery = .ok next)
    (delivers : Delivers config session stream ahead (deliverAll config next rest)) :
    Delivers config session stream ahead (deliverAll config world (delivery :: rest)) := by
  constructor
  · intro last done
    obtain ⟨next', returns', done⟩ := deliverAll_cons.mp done
    cases returns.symm.trans returns'
    exact delivers.sound last done
  · intro forward admissible
    obtain ⟨last, done⟩ := delivers.complete forward admissible
    exact ⟨last, deliverAll_cons.mpr ⟨next, returns, done⟩⟩

/-- The deliveries of a worker that is to emit `stream[k]` next, to a world that
holds the ledger of the first `m` decisions. -/
theorem delivers_emitted (ordered : TimeOrdered stream)
    (owned : ∀ decision ∈ stream, decision.replaySessionId = session)
    (apart : EvidenceIdsApart session (stream.map (·.decisionId))) {k : Nat}
    {out : List (ScoreDecisionV1 F)} (emits : Lib.Emits stream k out)
    {deliveries : List (ScoreDelivery F)} (contents : deliveries.map (·.contents) = out)
    (behind : k ≤ m) (inside : m ≤ stream.length)
    (identified : ∀ decision ∈ stream.take m, accepted config.policy decision = true)
    (ledgered : Ledgered config session (stream.take m) used world)
    (unused : (used ++ deliveries.map (·.eventId)).Nodup) :
    Delivers config session stream
      (NeverBack ((stream.take m).getLast?.toList ++ out.takeWhile (accepted config.policy)))
      (deliverAll config world deliveries) := by
  induction emits generalizing deliveries m used world with
  | finished =>
      obtain rfl := List.map_eq_nil_iff.mp contents
      obtain rfl : m = stream.length := by omega
      rw [List.take_length] at identified ledgered ⊢
      have all : stream.takeWhile (accepted config.policy) = stream :=
        List.takeWhile_eq_self_iff.mpr identified
      refine ⟨?_, fun _ _ => ⟨world, rfl⟩⟩
      intro last same
      cases same
      rw [all]
      refine ⟨?_, ledgered.settled.admissible, ledgered.records⟩
      cases stream.getLast? <;> simp [NeverBack]
  | restart back _ ih => exact ih contents (by omega) inside identified ledgered unused
  | @emit k rest more emitsRest ih =>
      obtain ⟨delivery, deliveries, rfl, same, contents⟩ := List.map_eq_cons_iff.mp contents
      have mine : delivery.contents.replaySessionId = session :=
        same ▸ owned _ (List.getElem_mem more)
      have theirs : ∀ d ∈ deliveries, d.contents.replaySessionId = session := fun d mem =>
        owned _ (emitsRest.mem _ (contents ▸ List.mem_map_of_mem mem))
      cases check : accepted config.policy stream[k] with
      | false =>
          -- The first decision with another identity is new: those seen were accepted.
          obtain rfl : k = m := by
            by_contra other
            have seenBefore : stream[k] ∈ stream.take m :=
              List.mem_take_iff_getElem.mpr ⟨k, by omega, rfl⟩
            exact absurd (identified _ seenBefore) (by simp [check])
          rw [← same] at check
          obtain ⟨world', returns, failed, kept⟩ := deliver_foreign ledgered mine check
          refine .cons_of_ok returns ?_
          rw [same] at check
          rw [deliverAll_failed failed theirs]
          have all : stream.takeWhile (accepted config.policy) = stream.take k := by
            rw [takeWhile_take identified more, check]
            simp
          refine ⟨?_, fun _ _ => ⟨world', rfl⟩⟩
          intro last done
          cases done
          rw [all, kept, List.takeWhile_cons, check]
          refine ⟨?_, ledgered.settled.admissible, ledgered.records⟩
          cases (stream.take k).getLast? <;> simp [NeverBack]
      | true =>
          have check' : accepted config.policy delivery.contents = true := same ▸ check
          rw [List.takeWhile_cons, if_pos check, neverBack_append_cons]
          rcases Nat.lt_trichotomy (k + 1) m with back | again | new
          · -- An earlier decision raises.
            have head : (stream.take m).getLast? = some stream[m - 1] := by
              have last : (stream.take (m - 1 + 1)).getLast? = some stream[m - 1] :=
                getLast?_take_succ (by omega)
              rwa [Nat.sub_add_cancel (by omega)] at last
            obtain ⟨earlier, other⟩ :=
              List.pairwise_iff_getElem.mp ordered k (m - 1) more (by omega) (by omega)
            constructor
            · intro last done
              obtain ⟨next, returns, -⟩ := deliverAll_cons.mp done
              rw [← same] at earlier other
              exact absurd returns (deliver_earlier ledgered mine check' head earlier other.symm)
            · rintro ⟨ahead, -⟩ -
              exact absurd (ahead _ head) (not_le.mpr earlier)
          · -- The last decision comes again.
            subst again
            have last := getLast?_take_succ more
            have returns := deliver_again ledgered mine check' (same ▸ last)
            refine .cons_of_ok returns ?_
            have delivers := ih contents (le_refl _) inside identified ledgered
              (unused.sublist ((List.sublist_cons_self _ _).append_left _))
            rw [last] at delivers ⊢
            have ahead : (∀ l ∈ some stream[k], l.sourceTimestamp ≤ stream[k].sourceTimestamp) ∧
                NeverBack (stream[k] :: rest.takeWhile (accepted config.policy)) ↔
                NeverBack ((some stream[k]).toList ++ rest.takeWhile (accepted config.policy)) := by
              simp
            rwa [propext ahead]
          · -- The next decision is new.
            obtain rfl : k = m := by omega
            have later := ordered.later more
            have seenNext : stream.take (k + 1) = stream.take k ++ [delivery.contents] := by
              rw [same]
              exact List.take_succ_eq_append_getElem more
            have apartHere : EvidenceIdsApart session
                ((stream.take k ++ [delivery.contents]).map (·.decisionId)) := by
              rw [← seenNext]
              refine apart.mono fun id mem => ?_
              obtain ⟨decision, seenBefore, rfl⟩ := List.mem_map.mp mem
              exact List.mem_map_of_mem (List.mem_of_mem_take seenBefore)
            have fresh : delivery.eventId ∉ used := by
              intro mem
              exact (List.nodup_append.mp unused).2.2 _ mem _ List.mem_cons_self rfl
            have identified' : ∀ d ∈ stream.take (k + 1), accepted config.policy d = true := by
              rw [seenNext]
              simpa [or_imp, forall_and, check'] using identified
            have next : ∀ world', deliver config world delivery = .ok world' →
                Delivers config session stream
                  (NeverBack ((stream.take (k + 1)).getLast?.toList ++
                    rest.takeWhile (accepted config.policy)))
                  (deliverAll config world' deliveries) := by
              intro world' returns
              rw [← same] at later
              have extended := deliver_later ledgered mine check' later fresh apartHere returns
              rw [← seenNext] at extended
              exact ih contents (le_refl _) more identified' extended (by simpa using unused)
            rw [getLast?_take_succ more] at next
            constructor
            · intro last done
              obtain ⟨world', returns, done⟩ := deliverAll_cons.mp done
              obtain ⟨ahead, recorded⟩ := (next world' returns).sound last done
              refine ⟨⟨fun l mem => ?_, ahead⟩, recorded⟩
              exact (later l (List.mem_of_getLast? mem)).1.le
            · rintro ⟨-, ahead⟩ admissible
              have recordable : Recordable config.policy (stream.take k) stream[k] := by
                refine admissible _ _ ((stream.drop (k + 1)).takeWhile (accepted config.policy)) ?_
                rw [takeWhile_take identified more, if_pos check]
              rw [← same] at recordable later
              obtain ⟨world', returns⟩ :=
                deliver_recordable ledgered mine check' later fresh apartHere recordable
              obtain ⟨last, done⟩ := (next world' returns).complete ahead admissible
              exact ⟨last, deliverAll_cons.mpr ⟨world', returns, done⟩⟩

/-- The decisions of a session, delivered by a worker that restarts any number of
times: every call returns, and the records left are those of the decisions
delivered once, exactly when the deliveries that are processed never go back
behind the last decision, and each decision has texts that can be stored, a new
window and, where an alert is active, evidence that converts. -/
theorem redelivery_absorbed_iff (session : UUID) (named : config.machineId ≠ "")
    {once delivered : List (ScoreDelivery F)}
    (owned : ∀ delivery ∈ once, delivery.contents.replaySessionId = session)
    (ordered : TimeOrdered (once.map (·.contents)))
    (emits : Lib.Emits (once.map (·.contents)) 0 (delivered.map (·.contents)))
    (eventIdsOnce : (once.map (·.eventId)).Nodup) (eventIds : (delivered.map (·.eventId)).Nodup)
    (apart : EvidenceIdsApart session (once.map (·.contents.decisionId))) :
    (∃ world worldOnce, deliverAll config .empty delivered = .ok world ∧
        deliverAll config .empty once = .ok worldOnce ∧
        world.store.records = worldOnce.store.records) ↔
      NeverBack ((delivered.map (·.contents)).takeWhile (accepted config.policy)) ∧
        Admissible config.policy
          ((once.map (·.contents)).takeWhile (accepted config.policy)) := by
  have machine : 1 ≤ config.machineId.length := one_le_length_of_ne named
  have ownedContents : ∀ decision ∈ once.map (·.contents),
      decision.replaySessionId = session := List.forall_mem_map.mpr owned
  have apartContents : EvidenceIdsApart session
      ((once.map (·.contents)).map (·.decisionId)) := by
    rw [List.map_map]
    exact apart
  have emitsOnce : Lib.Emits (once.map (·.contents)) 0 (once.map (·.contents)) :=
    .once (Nat.zero_le _)
  have deliversOnce := delivers_emitted ordered ownedContents apartContents emitsOnce rfl
    (le_refl 0) (Nat.zero_le _) nofun (ledgered_empty machine) (by simpa using eventIdsOnce)
  have delivers := delivers_emitted ordered ownedContents apartContents emits rfl
    (le_refl 0) (Nat.zero_le _) nofun (ledgered_empty machine) (by simpa using eventIds)
  constructor
  · rintro ⟨world, -, done, -, -⟩
    obtain ⟨ahead, admissible, -⟩ := delivers.sound world done
    exact ⟨ahead, admissible⟩
  · rintro ⟨ahead, admissible⟩
    have aheadOnce : NeverBack ((once.map (·.contents)).takeWhile (accepted config.policy)) := by
      refine List.Pairwise.isChain ?_
      exact (ordered.sublist (List.takeWhile_sublist _)).imp fun later => later.1.le
    obtain ⟨world, done⟩ := delivers.complete ahead admissible
    obtain ⟨worldOnce, doneOnce⟩ := deliversOnce.complete aheadOnce admissible
    obtain ⟨-, -, records⟩ := delivers.sound world done
    obtain ⟨-, -, recordsOnce⟩ := deliversOnce.sound worldOnce doneOnce
    exact ⟨world, worldOnce, done, doneOnce, records.trans recordsOnce.symm⟩

end Deliver

/-! ### Concrete deliveries -/

/-- The decision published as the `n`th record. -/
def publishedAs (n : Nat) (decision : Checked (ScoreDecisionV1 Int)) : ScoreDelivery Int where
  stamp := processStampAt n
  record := ⟨⟨n, .ok ⟨{ decision.val with emittedAt := ⟨n⟩ }, decision.property⟩⟩, 0, n⟩
  decision := ⟨{ decision.val with emittedAt := ⟨n⟩ }, decision.property⟩
  decoded := rfl

def anomalousWindow : Checked (ScoreDecisionV1 Int) :=
  checkedWindow 5 true [⟨"tp2__mean", 8, 3⟩]

def normalWindow : Checked (ScoreDecisionV1 Int) := checkedWindow 10 false []

/-- An anomaly and the normal window that resolves it. -/
def resolvedEpisode : List (ScoreDelivery Int) :=
  [publishedAs 0 anomalousWindow, publishedAs 1 normalWindow]

/-- The worker restarts after each decision and emits it again. -/
def repeatedEpisode : List (ScoreDelivery Int) :=
  [publishedAs 0 anomalousWindow, publishedAs 1 anomalousWindow, publishedAs 2 normalWindow,
    publishedAs 3 normalWindow]

theorem repeatedEpisode_absorbed :
    letI := episodeNames
    ∃ world worldOnce, deliverAll promptConsumer .empty repeatedEpisode = .ok world ∧
      deliverAll promptConsumer .empty resolvedEpisode = .ok worldOnce ∧
      world.store.records = worldOnce.store.records := by
  let := episodeNames
  have emits : Lib.Emits (resolvedEpisode.map (·.contents)) 0
      (repeatedEpisode.map (·.contents)) := by
    refine .emit (by decide) (.restart (j := 0) (by decide) (.emit (by decide) ?_))
    exact .emit (by decide) (.restart (j := 1) (by decide) (.emit (by decide) .finished))
  have admissible : Admissible promptPolicy (resolvedEpisode.map (·.contents)) := by
    intro before decision after split
    have converts : ∀ d ∈ resolvedEpisode.map (·.contents), EvidenceConverts d := by decide
    have storable : ∀ d ∈ resolvedEpisode.map (·.contents), d.Storable := by decide
    have windows : (resolvedEpisode.map (·.contents)).Pairwise (·.windowId ≠ ·.windowId) := by
      decide
    rw [split] at converts storable windows
    refine ⟨storable decision (by simp), fun earlier mem => ?_,
      fun _ _ => converts decision (by simp)⟩
    exact (List.pairwise_append.mp windows).2.2 earlier mem decision List.mem_cons_self
  exact (redelivery_absorbed_iff 1 (by decide) (by decide) (by decide) emits (by decide)
    (by decide) (by decide)).mpr ⟨by decide, admissible⟩

/-- The worker restarts after the second decision and starts over. -/
def restartedEpisode : List (ScoreDelivery Int) :=
  [publishedAs 0 anomalousWindow, publishedAs 1 normalWindow, publishedAs 2 anomalousWindow,
    publishedAs 3 normalWindow]

theorem restartedEpisode_raises :
    letI := episodeNames
    TimeOrdered (resolvedEpisode.map (·.contents)) ∧
      Lib.Emits (resolvedEpisode.map (·.contents)) 0 (restartedEpisode.map (·.contents)) ∧
      (restartedEpisode.map (·.eventId)).Nodup ∧
      (∃ worldOnce, deliverAll promptConsumer .empty resolvedEpisode = .ok worldOnce) ∧
      ¬ ∃ world, deliverAll promptConsumer .empty restartedEpisode = .ok world := by
  let := episodeNames
  have emits : Lib.Emits (resolvedEpisode.map (·.contents)) 0
      (restartedEpisode.map (·.contents)) := by
    refine .emit (by decide) (.emit (by decide) (.restart (j := 0) (by decide) ?_))
    exact .emit (by decide) (.emit (by decide) .finished)
  have returnsOnce : (deliverAll promptConsumer .empty resolvedEpisode).toBool = true := by decide
  have raises : deliverAll promptConsumer .empty restartedEpisode =
      .error (.transition (.orderingViolation
        ("Decision timestamp 2020-01-01 00:05:00 is not strictly greater than " ++
          "2020-01-01 00:10:00"))) := by decide
  refine ⟨by decide, emits, by decide, ?_, ?_⟩
  · cases done : deliverAll promptConsumer .empty resolvedEpisode with
    | error e =>
        rw [done] at returnsOnce
        cases returnsOnce
    | ok worldOnce => exact ⟨worldOnce, rfl⟩
  · rintro ⟨world, done⟩
    cases raises.symm.trans done

end IndustrialReliability
