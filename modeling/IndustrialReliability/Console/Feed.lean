import IndustrialReliability.Lib.Results
import IndustrialReliability.Lib.Table
import IndustrialReliability.Runtime.Messages

/-!
The console feed and its durable log.

`ConsoleFeed.receive` turns a record into a console event, or drops a telemetry event
that comes too early for its machine. The durable events are the rows of
`console_events`, in the order they were appended; a row is found by its event id,
and an id that is taken keeps the row it has. The database refuses an event of a session
without a row in `replay_sessions`, and one with a text it cannot hold; then `process`
raises, and nothing has changed.
-/

namespace IndustrialReliability

variable {F : Type}

/-- `event_id`: the identifier of a message as text, or
`status-{session}-{state}-{last_sequence}`. No rendered UUID starts with `status-`. -/
inductive ConsoleEventId where
  | message (id : UUID)
  | status (session : UUID) (state : ReplayState) (lastSequence : Option Int)
deriving DecidableEq, Repr

/-- The message an event carries. -/
inductive ConsolePayload (F : Type) where
  | telemetry (event : TelemetryEventV1 F)
  | score (decision : ScoreDecisionV1 F)
  | alert (event : AlertEventV1)
  | status (status : ReplayStatusV1)

inductive ConsoleEventType where
  | status | telemetry | score | alert
deriving DecidableEq, Repr

structure ConsoleEventV1 (F : Type) where
  eventId : ConsoleEventId
  replaySessionId : UUID
  eventType : ConsoleEventType
  sourceTimestamp : Int
  payload : ConsolePayload F
  durable : Bool

namespace ConsoleFeed

/-- `_decode`, of a message that passed its schema. -/
def decode : ConsolePayload F → ConsoleEventV1 F
  | .telemetry event => {
      eventId := .message event.messageId
      replaySessionId := event.replaySessionId
      eventType := .telemetry
      sourceTimestamp := event.sourceTimestamp
      payload := .telemetry event
      durable := false }
  | .score decision => {
      eventId := .message decision.decisionId
      replaySessionId := decision.replaySessionId
      eventType := .score
      sourceTimestamp := decision.sourceTimestamp
      payload := .score decision
      durable := true }
  | .alert event => {
      eventId := .message event.messageId
      replaySessionId := event.replaySessionId
      eventType := .alert
      sourceTimestamp := event.sourceTimestamp
      payload := .alert event
      durable := true }
  | .status status => {
      eventId := .status status.replaySessionId status.state status.lastSequence
      replaySessionId := status.replaySessionId
      eventType := .status
      sourceTimestamp := status.sourceTimestamp
      payload := .status status
      durable := true }

end ConsoleFeed

/-- When the last event of a machine was let through. -/
structure TelemetryDownsampler where
  intervalSeconds : Int
  lastEmittedByMachine : Lib.Table String Int

namespace TelemetryDownsampler

def initial (intervalSeconds : Int) : TelemetryDownsampler := ⟨intervalSeconds, .empty⟩

/-- `payload.get("machine_id", "default")`. -/
def machineId (event : ConsoleEventV1 F) : String :=
  match event.payload with
  | .telemetry telemetry => telemetry.machineId
  | _ => "default"

def accept (sampler : TelemetryDownsampler) (event : ConsoleEventV1 F) :
    TelemetryDownsampler × Bool :=
  let machine := machineId event
  let due := match sampler.lastEmittedByMachine.get? machine with
    | none => true
    | some last => decide (Datetime.seconds sampler.intervalSeconds ≤ event.sourceTimestamp - last)
  if due then
    ({ sampler with
        lastEmittedByMachine := sampler.lastEmittedByMachine.set machine event.sourceTimestamp }, true)
  else (sampler, false)

end TelemetryDownsampler

/-- The texts of a message that are not of a fixed form. -/
def ConsolePayload.texts : ConsolePayload F → List String
  | .telemetry event => [event.machineId]
  | .score decision => decision.modelVersion :: decision.evidenceVector.map (·.featureName)
  | .alert event => [event.machineId]
  | .status reported => reported.errorCode.toList

/-- The `jsonb` column can hold the payload. -/
def ConsoleEventV1.Storable (event : ConsoleEventV1 F) : Prop :=
  ∀ text ∈ event.payload.texts, Lib.Storable text

instance ConsoleEventV1.decidableStorable (event : ConsoleEventV1 F) : Decidable event.Storable :=
  inferInstanceAs (Decidable (∀ text ∈ _, _))

/-- What PostgreSQL refuses an insert with. -/
inductive ConsoleEventsError where
  /-- The payload holds U+0000. -/
  | dataError
  /-- The session has no row in `replay_sessions`. -/
  | foreignKeyViolation
deriving DecidableEq, Repr

/-- `console_events`, in `stream_sequence` order. -/
abbrev ConsoleLog (F : Type) := Lib.Table ConsoleEventId (ConsoleEventV1 F)

namespace ConsoleLog

/-- `ON CONFLICT (event_id) DO NOTHING`, of an event that is not refused. -/
def inserted (log : ConsoleLog F) (event : ConsoleEventV1 F) : ConsoleLog F :=
  log.insertNew event.eventId event

/-- `append_console_event`; the sessions are those with a row in `replay_sessions`, which
only a row that is inserted refers to. -/
def append (sessions : List UUID) (log : ConsoleLog F) (event : ConsoleEventV1 F) :
    Except ConsoleEventsError (ConsoleLog F) :=
  if ¬ event.Storable then .error .dataError
  else if (log.get? event.eventId).isNone ∧ event.replaySessionId ∉ sessions then
    .error .foreignKeyViolation
  else .ok (log.inserted event)

/-- The events of a session. -/
def ofSession (log : ConsoleLog F) (session : UUID) : List (ConsoleEventV1 F) :=
  log.values.filter fun event => event.replaySessionId = session

end ConsoleLog

/-- The feed between two records. -/
structure ConsoleFeed (F : Type) where
  downsampler : TelemetryDownsampler

namespace ConsoleFeed

def initial (intervalSeconds : Int) : ConsoleFeed F := ⟨.initial intervalSeconds⟩

/-- The event of a record, unless it is telemetry that comes too early. -/
def receive (feed : ConsoleFeed F) (record : ConsolePayload F) :
    ConsoleFeed F × Option (ConsoleEventV1 F) :=
  let event := decode record
  if event.eventType = .telemetry then
    match feed.downsampler.accept event with
    | (downsampler, accepted) => (⟨downsampler⟩, if accepted then some event else none)
  else (feed, some event)

/-- `if event.durable: self.store.append_console_event(event)`. -/
def store (sessions : List UUID) (log : ConsoleLog F) (event : ConsoleEventV1 F) :
    Except ConsoleEventsError (ConsoleLog F) :=
  if event.durable then log.append sessions event else .ok log

/-- `process`: the feed, the log and what is published. -/
def process (sessions : List UUID) (state : ConsoleFeed F × ConsoleLog F)
    (record : ConsolePayload F) :
    Except ConsoleEventsError ((ConsoleFeed F × ConsoleLog F) × Option (ConsoleEventV1 F)) :=
  match state.1.receive record with
  | (feed, none) => .ok ((feed, state.2), none)
  | (feed, some event) => do
      let log ← store sessions state.2 event
      return ((feed, log), some event)

/-- Records processed one after another. -/
def processAll (sessions : List UUID) (state : ConsoleFeed F × ConsoleLog F)
    (records : List (ConsolePayload F)) : Except ConsoleEventsError (ConsoleFeed F × ConsoleLog F) :=
  records.foldlM (fun state record => do
    let (state, _) ← process sessions state record
    return state) state

end ConsoleFeed

/-! ### The statuses in the log -/

/-- The id a status goes by. -/
def ReplayStatusV1.consoleEventId (status : ReplayStatusV1) : ConsoleEventId :=
  .status status.replaySessionId status.state status.lastSequence

/-- The status of a session that a payload carries. -/
def ConsolePayload.statusOf (session : UUID) : ConsolePayload F → Option ReplayStatusV1
  | .status reported => if reported.replaySessionId = session then some reported else none
  | _ => none

namespace ConsoleLog

/-- The durable status events of a session. -/
def statuses (log : ConsoleLog F) (session : UUID) : List ReplayStatusV1 :=
  log.values.filterMap fun event => event.payload.statusOf session

/-- Every row is the event of its payload, under its id. -/
def Decoded (log : ConsoleLog F) : Prop :=
  ∀ id event, log.get? id = some event → event = ConsoleFeed.decode event.payload ∧ id = event.eventId

variable {log log' : ConsoleLog F} {session : UUID} {sessions : List UUID} {payload : ConsolePayload F}
  {event : ConsoleEventV1 F}

/-- What is not refused is inserted. -/
theorem append_eq_ok_iff : log.append sessions event = .ok log' ↔
    event.Storable ∧ (log.get? event.eventId = none → event.replaySessionId ∈ sessions) ∧
      log' = log.inserted event := by
  unfold append
  by_cases storable : event.Storable
  · rw [if_neg (not_not.mpr storable)]
    by_cases refused : (log.get? event.eventId).isNone ∧ event.replaySessionId ∉ sessions
    · rw [if_pos refused]
      refine ⟨fun ok => (by cases ok), fun ⟨_, known, _⟩ => ?_⟩
      exact absurd (known (Option.isNone_iff_eq_none.mp refused.1)) refused.2
    · rw [if_neg refused]
      have known : log.get? event.eventId = none → event.replaySessionId ∈ sessions := fun absent => by
        by_contra unknown
        exact refused ⟨Option.isNone_iff_eq_none.mpr absent, unknown⟩
      exact ⟨fun ok => ⟨storable, known, (Except.ok.inj ok).symm⟩, fun all => by rw [all.2.2]⟩
  · rw [if_pos storable]
    exact ⟨fun ok => (by cases ok), fun all => absurd all.1 storable⟩

theorem decoded_empty : Decoded (.empty : ConsoleLog F) := by
  intro id event held
  simp at held

theorem Decoded.inserted (decoded : log.Decoded) (payload : ConsolePayload F) :
    (log.inserted (ConsoleFeed.decode payload)).Decoded := by
  intro id event held
  rcases Lib.Table.get?_insertNew_eq_some held with held | ⟨rfl, rfl⟩
  · exact decoded id event held
  · cases payload <;> exact ⟨rfl, rfl⟩

theorem statuses_inserted_of_none (other : payload.statusOf session = none) :
    (log.inserted (ConsoleFeed.decode payload)).statuses session = log.statuses session := by
  unfold statuses inserted
  cases held : log.get? (ConsoleFeed.decode payload).eventId with
  | some old => rw [Lib.Table.insertNew_of_some held]
  | none =>
      have same : (ConsoleFeed.decode payload).payload = payload := by cases payload <;> rfl
      rw [Lib.Table.insertNew_values held, List.filterMap_append, List.filterMap_cons, same, other,
        List.filterMap_nil, List.append_nil]

/-- A status whose id is free is appended. -/
theorem statuses_inserted_status {status : ReplayStatusV1} (decoded : log.Decoded)
    (free : status.consoleEventId ∉ (log.statuses session).map ReplayStatusV1.consoleEventId)
    (mine : status.replaySessionId = session) :
    (log.inserted (ConsoleFeed.decode (.status status))).statuses session =
      log.statuses session ++ [status] := by
  have absent : log.get? status.consoleEventId = none := by
    cases held : log.get? status.consoleEventId with
    | none => rfl
    | some event =>
        obtain ⟨same, key⟩ := decoded _ _ held
        cases carried : event.payload with
        | telemetry e => rw [same, carried] at key; cases key
        | score d => rw [same, carried] at key; cases key
        | alert a => rw [same, carried] at key; cases key
        | status earlier =>
            rw [same, carried] at key
            have its : earlier.replaySessionId = session := by
              have sessions : status.replaySessionId = earlier.replaySessionId := by
                injection key
              exact sessions.symm.trans mine
            refine absurd (List.mem_map.mpr ⟨earlier, ?_, key.symm⟩) free
            refine List.mem_filterMap.mpr ⟨event, Lib.Table.mem_values_iff.mpr ⟨_, held⟩, ?_⟩
            rw [carried]
            exact if_pos its
  have carries : (ConsolePayload.status status : ConsolePayload F).statusOf session = some status :=
    if_pos mine
  show ((log.insertNew status.consoleEventId _).values.filterMap _) = _
  rw [Lib.Table.insertNew_values absent, List.filterMap_append, List.filterMap_cons]
  have payload : (ConsoleFeed.decode (.status status : ConsolePayload F)).payload = .status status := rfl
  rw [payload, carries]
  rfl

end ConsoleLog

namespace ConsoleFeed

variable {sessions : List UUID} {state state' : ConsoleFeed F × ConsoleLog F}

/-- The log when an event has been stored that may be durable. -/
def stored (log : ConsoleLog F) (event : ConsoleEventV1 F) : ConsoleLog F :=
  if event.durable then log.inserted event else log

theorem store_eq_ok {log log' : ConsoleLog F} {event : ConsoleEventV1 F}
    (done : store sessions log event = .ok log') : log' = stored log event := by
  unfold store at done
  unfold stored
  split at done
  · rw [if_pos ‹_›]
    exact (ConsoleLog.append_eq_ok_iff.mp done).2.2
  · rw [if_neg ‹_›]
    exact (Except.ok.inj done).symm

/-- What a record that is processed does to the log. -/
theorem process_log (session : UUID) {record : ConsolePayload F} {event : Option (ConsoleEventV1 F)}
    (processed : process sessions state record = .ok (state', event)) :
    state'.2 = state.2 ∧ record.statusOf session = none ∨
      state'.2 = state.2.inserted (decode record) := by
  unfold process at processed
  cases record with
  | telemetry telemetry =>
      left
      refine ⟨?_, rfl⟩
      unfold receive at processed
      rw [if_pos (show (decode (.telemetry telemetry : ConsolePayload F)).eventType = .telemetry from rfl)]
        at processed
      dsimp only at processed
      cases accepted : (state.1.downsampler.accept (decode (.telemetry telemetry))).2 with
      | false =>
          rw [accepted] at processed
          cases processed
          rfl
      | true =>
          rw [accepted] at processed
          cases processed
          rfl
  | _ =>
      right
      obtain ⟨log, done, same⟩ := Lib.bind_eq_ok_iff.mp processed
      cases same
      exact store_eq_ok done

/-- Statuses with ids of their own are all in the log, in the order they came. -/
theorem statuses_processAll (session : UUID) (records : List (ConsolePayload F))
    (processed : processAll sessions state records = .ok state') (decoded : state.2.Decoded)
    (apart : ((state.2.statuses session ++ records.filterMap (·.statusOf session)).map
      ReplayStatusV1.consoleEventId).Nodup) :
    state'.2.statuses session =
      state.2.statuses session ++ records.filterMap (·.statusOf session) := by
  induction records generalizing state with
  | nil =>
      obtain rfl : state = state' := Except.ok.inj processed
      simp
  | cons record records ih =>
      obtain ⟨next, first, later⟩ := Lib.bind_eq_ok_iff.mp processed
      obtain ⟨⟨after, event⟩, taken, same⟩ := Lib.bind_eq_ok_iff.mp first
      obtain rfl : next = after := (Except.ok.inj same).symm
      have step : next.2.Decoded ∧ next.2.statuses session =
          state.2.statuses session ++ [record].filterMap (·.statusOf session) := by
        rcases process_log session taken with ⟨same, none⟩ | inserted
        · rw [same]
          exact ⟨decoded, by simp [none]⟩
        · rw [inserted]
          refine ⟨decoded.inserted record, ?_⟩
          cases carried : record.statusOf session with
          | none =>
              rw [ConsoleLog.statuses_inserted_of_none carried]
              simp [carried]
          | some status =>
              cases record with
              | telemetry event => cases carried
              | score decision => cases carried
              | alert event => cases carried
              | status record =>
                  have mine : record.replaySessionId = session := by
                    by_contra other
                    rw [ConsolePayload.statusOf, if_neg other] at carried
                    cases carried
                  have itself : (ConsolePayload.status record : ConsolePayload F).statusOf session =
                      some record := if_pos mine
                  obtain rfl := Option.some.inj (carried.symm.trans itself)
                  rw [List.filterMap_cons, carried, List.filterMap_nil]
                  apply ConsoleLog.statuses_inserted_status decoded _ mine
                  rw [List.filterMap_cons, carried, List.map_append] at apart
                  intro taken
                  exact (List.nodup_append.mp apart).2.2 _ taken _ (List.mem_cons_self) rfl
      have split : (record :: records).filterMap (·.statusOf session) =
          [record].filterMap (·.statusOf session) ++ records.filterMap (·.statusOf session) := by
        rw [← List.filterMap_append]
        rfl
      rw [split, ← List.append_assoc] at apart ⊢
      rw [← step.2] at apart ⊢
      exact ih later step.1 apart

end ConsoleFeed

end IndustrialReliability
