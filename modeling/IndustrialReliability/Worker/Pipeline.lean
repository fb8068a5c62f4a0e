import IndustrialReliability.Replay.Progress
import IndustrialReliability.Worker.Restarts

/-!
The replay service and the worker together.

A replay that goes on after a crash publishes an event again, and a worker that is
restarted begins the session again. The first shows as events that are repeated on the
telemetry partition (`telemetry_gapless`), which the builder ignores; the second as
beginnings of one list of vectors and decisions (`restarts_idempotent`). So the list is
that of the rows of the range, pushed once each.
-/

namespace IndustrialReliability

open ReplayService

variable {F : Type} [PyFloat F]

/-- The records carry the messages in order. -/
def Carries {α : Type} [FrozenMessage α] (records : List (Sha256 × Except String (Checked α)))
    (messages : List α) : Prop :=
  List.Forall₂ (fun record message => ∃ valid, record.2 = .ok ⟨message, valid⟩) records messages

section Pipeline

variable [Uuid5] {settings : WorkerSettings}

/-- The session has the events of the rows of the range. -/
def Replays (session : CompletedSession F settings) (source : ReplaySource F) (command : ReplayCommandV1) : Prop :=
  session.rows.map Subtype.val = (rangeRows source command).mapIdx fun k row =>
    source.event command (k + 1) ⟨0⟩ row

/-- The partitions of the session carry its telemetry, the status that completes it, and
other statuses of it, and nothing else is on the topics. -/
structure ReplayLog (session : CompletedSession F settings) (events : List (TelemetryEventV1 F))
    (log : WorkerLog F) (p q c : Nat) : Prop where
  telemetry : Carries (log.telemetry p) events
  closes : ∃ digest, (log.statuses q)[c]? = some (digest, .ok session.status)
  announces : ∀ j, j ≠ c → ∀ entry ∈ (log.statuses q)[j]?, ∃ status, entry.2 = .ok status ∧
    Announces session status.val
  otherTelemetry : ∀ p', p' ≠ p → log.telemetry p' = []
  otherStatuses : ∀ q', q' ≠ q → log.statuses q' = []

variable {session : CompletedSession F settings} {replay : ReplayServiceConfig F} {command : ReplayCommandV1}
  {sends : List ReplayServiceAction} {r : ReplayService F} {effects : List (Effect F)} {log : WorkerLog F}
  {p q c : Nat}

theorem Replays.length_eq (its : Replays session replay.source command) :
    session.rows.length = (rangeRows replay.source command).length := by
  have length := congrArg List.length its
  rwa [List.length_map, List.length_mapIdx] at length

theorem Replays.isCopy {k : Nat} {event : TelemetryEventV1 F} (its : Replays session replay.source command)
    (here : IsEvent replay.source command k event) : session.IsCopy k event := by
  obtain ⟨emittedAt, row, held, rfl⟩ := here
  have same : (session.rows.map Subtype.val)[k]? = _ := congrArg (·[k]?) its
  rw [List.getElem?_map, List.getElem?_mapIdx, held] at same
  obtain ⟨event, mine, first⟩ := Option.map_eq_some_iff.mp same
  refine ⟨event, mine, emittedAt, ?_⟩
  rw [first]
  rfl

/-- What a replay publishes that is reported as completed is the log of its session,
whatever has interrupted it. -/
theorem sessionLog_of_replay [Sha256Digest]
    (replayed : Lib.Run (ReplayService.step replay) (LeavesTerminal replay) .initial sends r)
    (latest : latestReplay session.id r.trace = some (command, effects))
    (reported : .status .replay session.status.val ∈ effects) (its : Replays session replay.source command)
    (logged : ReplayLog session (telemetryOf session.id effects).reverse log p q c) :
    SessionLog session log p q c := by
  obtain ⟨n, repeats, resent, -, -, completed⟩ := (telemetry_gapless replayed session.id).2 command effects latest
  obtain ⟨all, -⟩ := completed _ reported ⟨rfl, session.completed⟩
  have each := List.forall₂_reverse_iff.mpr logged.telemetry
  rw [List.reverse_reverse] at each
  refine ⟨⟨repeats, ?_⟩, logged.closes, logged.announces, logged.otherTelemetry, logged.otherStatuses⟩
  rw [its.length_eq, ← all]
  refine resent.of_forall₂ each ?_
  rintro k event record ⟨valid, same⟩ here
  exact ⟨⟨event, valid⟩, same, its.isCopy here⟩

end Pipeline

/-! ### A session that is replayed -/

/-- The rows that the events of the session are made from. -/
def denseSource : ReplaySource Int :=
  ⟨2, 3, (List.range 145).map fun k => ⟨denseStamp k, fun _ => 0, fun _ => 0⟩⟩

def denseCommand : ReplayCommandV1 := { replayCommand 1 .start with
  sourceDatasetSha256 := 2
  contractSha256 := 3
  sourceTimestamp := PHASE1C.train.start
  rangeStart := some PHASE1C.train.start
  rangeEnd := some (PHASE1C.train.start + Datetime.seconds 1811) }

theorem denseCommand_valid : Valid denseCommand := by decide

def denseReplay : ReplayServiceConfig Int where
  source := denseSource
  enablePacing := false
  hasStore := true
  commands := [⟨1, .ok ⟨denseCommand, denseCommand_valid⟩⟩]

/-- The replay service crashes behind its first event. -/
def crashedSends : List ReplayServiceAction :=
  [.restart false, .fetch replayStamp none, .mainPublish none, .commit none, .taskRun replayStamp none,
    .taskPublish none, .crash, .restart false] ++
  (List.replicate 145 [.taskRun replayStamp none, .taskPublish none, .taskRun replayStamp none]).flatten ++
  [.taskRun replayStamp none, .taskPublish none]

instance : DecidableEq (TelemetryEventV1 Int) := fun event event' =>
  decidable_of_iff (event.messageId = event'.messageId ∧ event.replaySessionId = event'.replaySessionId ∧
    event.sourceDatasetSha256 = event'.sourceDatasetSha256 ∧ event.contractSha256 = event'.contractSha256 ∧
    event.sourceTimestamp = event'.sourceTimestamp ∧ event.emittedAt = event'.emittedAt ∧
    event.machineId = event'.machineId ∧ event.sequence = event'.sequence ∧
    (∀ col ∈ AnalogColumn.all, event.analog col = event'.analog col) ∧
    ∀ col ∈ DigitalColumn.all, event.digital col = event'.digital col) (by
    constructor
    · rintro ⟨first, second, third, fourth, fifth, sixth, seventh, eighth, analog, digital⟩
      have sameAnalog : event.analog = event'.analog := funext fun col => analog col (by cases col <;> decide)
      have sameDigital : event.digital = event'.digital := funext fun col => digital col (by cases col <;> decide)
      cases event
      cases event'
      simp_all
    · rintro rfl
      exact ⟨rfl, rfl, rfl, rfl, rfl, rfl, rfl, rfl, fun _ _ => rfl, fun _ _ => rfl⟩)

/-- The statuses of the replay task. -/
def reportsOf (effects : List (Effect Int)) : List ReplayStatusV1 :=
  effects.filterMap fun
    | .status .replay status => some status
    | _ => none

theorem of_mem_reportsOf {effects : List (Effect Int)} {status : ReplayStatusV1} (mem : status ∈ reportsOf effects) :
    .status .replay status ∈ effects := by
  obtain ⟨effect, here, reports⟩ := List.mem_filterMap.mp mem
  split at reports
  · cases reports
    exact here
  · cases reports

/-- The events of the rows, the first of them twice. -/
theorem denseLog_carries : ReplayLog denseSession (denseEvent 0 :: (List.range 145).map denseEvent) denseLog 0 0 1 where
  telemetry := by
    refine .cons ⟨_, rfl⟩ ?_
    unfold denseRows
    rw [List.map_map, List.forall₂_map_left_iff, List.forall₂_map_right_iff, List.forall₂_same]
    exact fun k _ => ⟨denseEvent_valid k, rfl⟩
  closes := denseLog_sessionLog.closes
  announces := denseLog_sessionLog.announces
  otherTelemetry := denseLog_sessionLog.otherTelemetry
  otherStatuses := denseLog_sessionLog.otherStatuses

theorem denseSession_replays :
    letI := windowNames
    Replays denseSession denseSource denseCommand := by
  let := windowNames
  unfold Replays
  decide +kernel

end IndustrialReliability
