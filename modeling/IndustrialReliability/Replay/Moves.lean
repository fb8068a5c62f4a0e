import IndustrialReliability.Replay.Service

/-!
What a step of the replay service can do.

`Moves` lists the outcomes of an action, each with the facts it needs and the state
it leads to; `step_moves` is the only place that takes the step function apart. A
write of the store is one of three (`Written`), and a stretch of the task one of
those of `TaskMoves`.
-/

namespace IndustrialReliability

variable {F : Type}

namespace ReplayService

/-- A checkpoint write: there is no store, it is committed (and may raise all the
same), or it raises and is lost. -/
inductive Written (config : ReplayServiceConfig F) (origin : Origin) (fault : Option Bool)
    (session : UUID) (checkpoint : ReplayCheckpoint) (s : ReplayService F) :
    ReplayService F → Bool → Prop where
  | skipped : config.hasStore = false → Written config origin fault session checkpoint s s false
  | stored (raised : Bool) : config.hasStore = true →
      fault = (if raised then some true else none) →
      Written config origin fault session checkpoint s (s.wrote origin session checkpoint) raised
  | lost : config.hasStore = true → fault = some false →
      Written config origin fault session checkpoint s s true

/-- The write of a new state: also, the row may be missing. -/
inductive Updated (config : ReplayServiceConfig F) (origin : Origin) (fault : Option Bool)
    (session : UUID) (state : ReplayState) (s : ReplayService F) :
    ReplayService F → Bool → Prop where
  | missing : s.store.get? session = none →
      Updated config origin fault session state s s config.hasStore
  | found {checkpoint : ReplayCheckpoint} {s' : ReplayService F} {raised : Bool} :
      s.store.get? session = some checkpoint →
      Written config origin fault session { checkpoint with state } s s' raised →
      Updated config origin fault session state s s' raised

theorem write_written {config : ReplayServiceConfig F} {origin : Origin} {fault : Option Bool}
    {session : UUID} {checkpoint : ReplayCheckpoint} {s s' : ReplayService F} {raised : Bool}
    (wrote : s.write config origin fault session checkpoint = (s', raised)) :
    Written config origin fault session checkpoint s s' raised := by
  unfold write at wrote
  split at wrote
  · rename_i hasStore
    split at wrote
    · obtain ⟨rfl, rfl⟩ := Prod.mk.inj wrote
      exact .stored false hasStore rfl
    · obtain ⟨rfl, rfl⟩ := Prod.mk.inj wrote
      exact .stored true hasStore rfl
    · obtain ⟨rfl, rfl⟩ := Prod.mk.inj wrote
      exact .lost hasStore rfl
  · rename_i noStore
    obtain ⟨rfl, rfl⟩ := Prod.mk.inj wrote
    exact .skipped (by simpa using noStore)

theorem update_updated {config : ReplayServiceConfig F} {origin : Origin} {fault : Option Bool}
    {session : UUID} {state : ReplayState} {s s' : ReplayService F} {raised : Bool}
    (updated : s.updateReplayCheckpointState config origin fault session state = (s', raised)) :
    Updated config origin fault session state s s' raised := by
  unfold updateReplayCheckpointState at updated
  split at updated
  · rename_i checkpoint held
    exact .found held (write_written updated)
  · rename_i absent
    obtain ⟨rfl, rfl⟩ := Prod.mk.inj updated
    exact .missing absent

/-- What an action does to the events of the session. -/
def signal : ReplayAction → RunningSession F → RunningSession F
  | .start, session => session
  | .pause, session => { session with pauseEvent := false }
  | .resume, session => session.resume
  | .stop, session => { session.resume with stopEvent := true }

/-- The service has taken the next record. -/
def fetched (s : ReplayService F) : ReplayService F := { s with position := s.position + 1 }

/-- The command the loop would fetch next. -/
def nextCommand (config : ReplayServiceConfig F) (s : ReplayService F) : Option ReplayCommandV1 :=
  match config.commands[s.position]? with
  | some payload =>
      match payload.value with
      | .ok command => some command.val
      | .error _ => none
  | none => none

theorem nextCommand_eq {config : ReplayServiceConfig F} {s : ReplayService F}
    {payload : CommandPayload} {command : Checked ReplayCommandV1}
    (here : config.commands[s.position]? = some payload) (decoded : payload.value = .ok command) :
    s.nextCommand config = some command.val := by
  unfold nextCommand
  rw [here]
  dsimp only
  rw [decoded]

variable [PyFloat F] [Uuid5]

section Task

variable (config : ReplayServiceConfig F) (stamp : ServiceStamp) (session : RunningSession F)

/-- The iterator of the task, or one of its rows, raises. -/
def Raises : Prop :=
  (∃ error, session.task.events = .error error) ∨
    ∃ it error, session.task.events = .ok it ∧
      config.source.next session.task.command stamp.emittedAt it = .error error

/-- The iterator yields an event. -/
def Yields (event : TelemetryEventV1 F) (rest : EventIterator F) : Prop :=
  ∃ it, session.task.events = .ok it ∧
    config.source.next session.task.command stamp.emittedAt it = .ok (some (event, rest))

def Exhausted : Prop :=
  ∃ it, session.task.events = .ok it ∧
    config.source.next session.task.command stamp.emittedAt it = .ok none

/-- The task has got past `pause_event.wait()` with an event. -/
inductive Taken (event : TelemetryEventV1 F) : ReplayTask F → Prop where
  | fresh {rest : EventIterator F} : session.task.phase = .ready →
      Yields config stamp session event rest → session.pauseEvent = true →
      Taken event { session.task with events := .ok rest }
  | woken : session.task.phase = .waiting event true → Taken event session.task

/-- The task has got past `pause_event.wait()` behind the last event. -/
inductive AtEnd : Prop where
  | exhausted : session.task.phase = .ready → Exhausted config stamp session →
      session.pauseEvent = true → AtEnd
  | woken : session.task.phase = .waitingAtEnd true → AtEnd

/-- The task of the active session becomes another. -/
def withTask (task : ReplayTask F) (s : ReplayService F) : ReplayService F :=
  { s with active := some { session with task } }

variable (fault : Option Bool) (s : ReplayService F)

/-- The outcomes of a stretch of the task. -/
inductive TaskMoves : ReplayService F → Prop where
  | raises : session.task.phase = .ready → Raises config stamp session →
      TaskMoves (s.setPhase session .failing)
  | waitsAtEnd : session.task.phase = .ready → Exhausted config stamp session →
      session.pauseEvent = false → TaskMoves (s.setPhase session (.waitingAtEnd false))
  | waits {event : TelemetryEventV1 F} {rest : EventIterator F} :
      session.task.phase = .ready → Yields config stamp session event rest →
      session.pauseEvent = false → (session.stopEvent = true → session.task.resumed = true) →
      TaskMoves (withTask session
        { session.task with events := .ok rest, phase := .waiting event false } s)
  | stopsEarly {event : TelemetryEventV1 F} {rest : EventIterator F} :
      session.task.phase = .ready → Yields config stamp session event rest →
      session.stopEvent = true → session.task.resumed = false →
      TaskMoves (withTask session { session.task with events := .ok rest, phase := .done } s)
  | stops {event : TelemetryEventV1 F} {task : ReplayTask F} :
      Taken config stamp session event task → session.stopEvent = true →
      TaskMoves (withTask session { task with phase := .done } s)
  | sleeps {event : TelemetryEventV1 F} {task : ReplayTask F} (delay : ℚ) :
      Taken config stamp session event task → session.stopEvent = false → task.resumed = false →
      TaskMoves (withTask session { task with phase := .sleeping event delay } s)
  | paceFails {event : TelemetryEventV1 F} {task : ReplayTask F} {prev : Int}
      {error : ReplayContractError} :
      Taken config stamp session event task → session.stopEvent = false → task.resumed = false →
      prev < event.sourceTimestamp →
      paceSeconds prev event.sourceTimestamp task.ctrl.speed = .error error →
      TaskMoves (withTask session { task with phase := .failing } s)
  | publishes {event : TelemetryEventV1 F} {task : ReplayTask F} :
      Taken config stamp session event task → session.stopEvent = false →
      TaskMoves (withTask session (task.publish event) s)
  | wakes {event : TelemetryEventV1 F} {delay : ℚ} :
      session.task.phase = .sleeping event delay →
      TaskMoves (withTask session (session.task.publish event) s)
  | stopsAtEnd : AtEnd config stamp session → session.stopEvent = true →
      TaskMoves (s.setPhase session .done)
  | completes {s' : ReplayService F} : AtEnd config stamp session → session.stopEvent = false →
      Written config .replay fault session.task.command.replaySessionId
        ⟨session.task.command, .completed, session.task.lastSequence,
          some session.task.terminalTimestamp⟩ s s' false →
      TaskMoves (s'.setPhase session (.publishingStatus ((session.task.ctrl.markCompleted
        session.task.lastSequence session.task.terminalTimestamp).status stamp.emittedAt) false))
  | completeFails {s' : ReplayService F} : AtEnd config stamp session →
      session.stopEvent = false →
      Written config .replay fault session.task.command.replaySessionId
        ⟨session.task.command, .completed, session.task.lastSequence,
          some session.task.terminalTimestamp⟩ s s' true →
      TaskMoves (s'.setPhase session .failing)
  | records {event : TelemetryEventV1 F} {s' : ReplayService F} :
      session.task.phase = .published event →
      Written config .replay fault session.task.command.replaySessionId
        ⟨session.task.command, checkpointState session, event.sequence,
          some event.sourceTimestamp⟩ s s' false →
      TaskMoves (withTask session { session.task.advance event with phase := .ready } s')
  | recordFails {event : TelemetryEventV1 F} {s' : ReplayService F} :
      session.task.phase = .published event →
      Written config .replay fault session.task.command.replaySessionId
        ⟨session.task.command, checkpointState session, event.sequence,
          some event.sourceTimestamp⟩ s s' true →
      TaskMoves (withTask session { session.task.advance event with phase := .failing } s')
  | fails {s' : ReplayService F} : session.task.phase = .failing →
      Written config .replay fault session.task.command.replaySessionId
        ⟨session.task.command, .failed, session.task.lastSequence,
          some session.task.terminalTimestamp⟩ s s' false →
      TaskMoves (s'.setPhase session (.publishingStatus ((session.task.ctrl.markFailed
        "REPLAY_STREAM_ERROR" session.task.lastSequence
        session.task.terminalTimestamp).status stamp.emittedAt) true))
  | failFails {s' : ReplayService F} : session.task.phase = .failing →
      Written config .replay fault session.task.command.replaySessionId
        ⟨session.task.command, .failed, session.task.lastSequence,
          some session.task.terminalTimestamp⟩ s s' true →
      TaskMoves (s'.setPhase session .done)
  | ends : session.task.phase = .publishedStatus → TaskMoves (s.setPhase session .done)

end Task

/-- The outcomes of an action. -/
inductive Moves (config : ReplayServiceConfig F) (s : ReplayService F) :
    ReplayServiceAction → ReplayService F → Prop where
  | undecodable {stamp : ServiceStamp} {fault : Option Bool} {payload : CommandPayload}
      {error : String} (record : QuarantineRecordV1) : s.phase = .idle →
      config.commands[s.position]? = some payload → payload.value = .error error →
      Moves config s (.fetch stamp fault) { s.fetched with phase := .publishing (.quarantine record) }
  | refusedActive {stamp : ServiceStamp} {fault : Option Bool} {payload : CommandPayload}
      {command : Checked ReplayCommandV1} : s.phase = .idle →
      config.commands[s.position]? = some payload → payload.value = .ok command →
      command.val.action = .start → s.live.isSome = true →
      Moves config s (.fetch stamp fault)
        (s.fetched.publishStatus stamp command.val (replayAlreadyActive command.val))
  | refusedIdentity {stamp : ServiceStamp} {fault : Option Bool} {payload : CommandPayload}
      {command : Checked ReplayCommandV1} : s.phase = .idle →
      config.commands[s.position]? = some payload → payload.value = .ok command →
      command.val.action = .start → s.live = none →
      (command.val.sourceDatasetSha256 ≠ config.source.sourceDatasetSha256 ∨
        command.val.contractSha256 ≠ config.source.contractSha256) →
      Moves config s (.fetch stamp fault)
        (s.fetched.publishStatus stamp command.val (replaySourceIdentityMismatch config command.val))
  | startFails {stamp : ServiceStamp} {fault : Option Bool} {payload : CommandPayload}
      {command : Checked ReplayCommandV1} {s' : ReplayService F} : s.phase = .idle →
      config.commands[s.position]? = some payload → payload.value = .ok command →
      command.val.action = .start → s.live = none →
      command.val.sourceDatasetSha256 = config.source.sourceDatasetSha256 →
      command.val.contractSha256 = config.source.contractSha256 →
      Written config (.command command.val) fault command.val.replaySessionId
        ⟨command.val, .running, 0, none⟩ s.fetched s' true →
      Moves config s (.fetch stamp fault) s'.beginStop
  | starts {stamp : ServiceStamp} {fault : Option Bool} {payload : CommandPayload}
      {command : Checked ReplayCommandV1} {s' : ReplayService F} {ctrl : ReplayController} :
      s.phase = .idle → config.commands[s.position]? = some payload →
      payload.value = .ok command → command.val.action = .start → s.live = none →
      command.val.sourceDatasetSha256 = config.source.sourceDatasetSha256 →
      command.val.contractSha256 = config.source.contractSha256 →
      Written config (.command command.val) fault command.val.replaySessionId
        ⟨command.val, .running, 0, none⟩ s.fetched s' false →
      (ReplayController.created command.val.replaySessionId command.val.sourceDatasetSha256
        command.val.contractSha256).apply command.val = .ok ctrl →
      Moves config s (.fetch stamp fault) ({ s' with
        trace := .accepted command.val :: s'.trace
        active := some ⟨ctrl, initialTask config stamp ctrl, true, false⟩ }.publishStatus stamp
          command.val ctrl)
  | ignored {stamp : ServiceStamp} {fault : Option Bool} {payload : CommandPayload}
      {command : Checked ReplayCommandV1} : s.phase = .idle →
      config.commands[s.position]? = some payload → payload.value = .ok command →
      command.val.action ≠ .start →
      (∀ session, s.live = some session →
        session.controller.sessionId ≠ command.val.replaySessionId) →
      Moves config s (.fetch stamp fault) { s.fetched with phase := .committing }
  | illegal {stamp : ServiceStamp} {fault : Option Bool} {payload : CommandPayload}
      {command : Checked ReplayCommandV1} {session : RunningSession F}
      {error : ReplayContractError} : s.phase = .idle →
      config.commands[s.position]? = some payload → payload.value = .ok command →
      command.val.action ≠ .start → s.live = some session →
      session.controller.sessionId = command.val.replaySessionId →
      session.controller.apply command.val = .error error →
      Moves config s (.fetch stamp fault) s.fetched.beginStop
  | controlFails {stamp : ServiceStamp} {fault : Option Bool} {payload : CommandPayload}
      {command : Checked ReplayCommandV1} {session : RunningSession F} {ctrl : ReplayController}
      {s' : ReplayService F} : s.phase = .idle →
      config.commands[s.position]? = some payload → payload.value = .ok command →
      command.val.action ≠ .start → s.live = some session →
      session.controller.sessionId = command.val.replaySessionId →
      session.controller.apply command.val = .ok ctrl →
      Updated config (.command command.val) fault ctrl.sessionId
        (ReplayController.stateAfter command.val.action) s.fetched s' true →
      Moves config s (.fetch stamp fault) s'.beginStop
  | controls {stamp : ServiceStamp} {fault : Option Bool} {payload : CommandPayload}
      {command : Checked ReplayCommandV1} {session : RunningSession F} {ctrl : ReplayController}
      {s' : ReplayService F} : s.phase = .idle →
      config.commands[s.position]? = some payload → payload.value = .ok command →
      command.val.action ≠ .start → s.live = some session →
      session.controller.sessionId = command.val.replaySessionId →
      session.controller.apply command.val = .ok ctrl →
      Updated config (.command command.val) fault ctrl.sessionId
        (ReplayController.stateAfter command.val.action) s.fetched s' false →
      Moves config s (.fetch stamp fault) ({ s' with
        active := some (signal command.val.action { session with controller := ctrl })
        }.publishStatus stamp command.val ctrl)
  | publishes {fault : Option Bool} {message : Outgoing} : s.phase = .publishing message →
      Moves config s (.mainPublish fault)
        { s with trace := Outgoing.effect message :: s.trace, phase := .committing }
  | publishRaises {fault : Option Bool} {message : Outgoing} : s.phase = .publishing message →
      Moves config s (.mainPublish fault)
        { s with trace := Outgoing.effect message :: s.trace }.beginStop
  | publishLost {fault : Option Bool} {message : Outgoing} : s.phase = .publishing message →
      Moves config s (.mainPublish fault) s.beginStop
  | commits {fault : Option Bool} : s.phase = .committing →
      Moves config s (.commit fault) { s with committed := s.position, phase := .idle }
  | commitFails {fault : Option Bool} (acknowledged : Nat) : s.phase = .committing →
      acknowledged = s.position ∨ acknowledged = s.committed →
      Moves config s (.commit fault) { s with committed := acknowledged }.beginStop
  | task {stamp : ServiceStamp} {fault : Option Bool} {session : RunningSession F}
      {s' : ReplayService F} : s.active = some session → TaskMoves config stamp session fault s s' →
      Moves config s (.taskRun stamp fault) s'
  | telemetrySent {session : RunningSession F} {event : TelemetryEventV1 F} :
      s.active = some session → session.task.phase = .publishing event →
      Moves config s (.taskPublish none)
        ({ s with trace := .telemetry event :: s.trace }.setPhase session (.published event))
  | telemetryRaises {session : RunningSession F} {event : TelemetryEventV1 F} :
      s.active = some session → session.task.phase = .publishing event →
      Moves config s (.taskPublish (some true))
        ({ s with trace := .telemetry event :: s.trace }.setPhase session .failing)
  | telemetryLost {session : RunningSession F} {event : TelemetryEventV1 F} :
      s.active = some session → session.task.phase = .publishing event →
      Moves config s (.taskPublish (some false)) (s.setPhase session .failing)
  | statusSent {session : RunningSession F} {status : ReplayStatusV1} {inHandler : Bool} :
      s.active = some session → session.task.phase = .publishingStatus status inHandler →
      Moves config s (.taskPublish none)
        ({ s with trace := .status .replay status :: s.trace }.setPhase session .publishedStatus)
  | statusRaises {session : RunningSession F} {status : ReplayStatusV1} {inHandler : Bool} :
      s.active = some session → session.task.phase = .publishingStatus status inHandler →
      Moves config s (.taskPublish (some true))
        ({ s with trace := .status .replay status :: s.trace }.setPhase session
          (if inHandler then .done else .failing))
  | statusLost {session : RunningSession F} {status : ReplayStatusV1} {inHandler : Bool} :
      s.active = some session → session.task.phase = .publishingStatus status inHandler →
      Moves config s (.taskPublish (some false))
        (s.setPhase session (if inHandler then .done else .failing))
  | shutsDown : s.phase ≠ .down → s.phase ≠ .stopping → Moves config s .shutdown s.beginStop
  | exits : s.phase = .stopping → Moves config s .exit s.leave
  | crashes : s.phase ≠ .down → Moves config s .crash s.leave
  | staysDown {loadFails : Bool} : s.phase = .down → Moves config s (.restart loadFails) s
  | comesUp {loadFails : Bool} : s.phase = .down →
      (config.hasStore = true → s.loadIncompleteReplays = []) →
      Moves config s (.restart loadFails)
        { s with trace := .started :: s.trace, position := s.committed, phase := .idle }
  | resumes {loadFails : Bool} {session : UUID} {checkpoint : ReplayCheckpoint}
      {ctrl : ReplayController} : s.phase = .down → config.hasStore = true →
      s.loadIncompleteReplays = [(session, checkpoint)] →
      (ReplayController.created session checkpoint.command.sourceDatasetSha256
        checkpoint.command.contractSha256).apply checkpoint.command = .ok ctrl →
      Moves config s (.restart loadFails) { s with
        trace := .started :: s.trace
        position := s.committed
        phase := .idle
        active := some (resumedSession config checkpoint ctrl) }

/-! ### A step is one of its outcomes -/

variable {config : ReplayServiceConfig F} {stamp : ServiceStamp} {fault : Option Bool}
  {s s' : ReplayService F} {session : RunningSession F}

theorem finish_moves (atEnd : AtEnd config stamp session) :
    TaskMoves config stamp session fault s (s.finish config stamp fault session) := by
  unfold finish
  dsimp only
  by_cases stopped : session.stopEvent = true
  · rw [if_pos stopped]
    exact .stopsAtEnd atEnd stopped
  · rw [if_neg stopped]
    have running : session.stopEvent = false := by simpa using stopped
    cases wrote : s.recordReplayCheckpoint config .replay fault session.task.command .completed
        session.task.lastSequence (some session.task.terminalTimestamp) with
    | mk s' raised =>
        have written := write_written wrote
        cases raised with
        | true => exact .completeFails atEnd running written
        | false => exact .completes atEnd running written

theorem fail_moves (failing : session.task.phase = .failing) :
    TaskMoves config stamp session fault s (s.fail config stamp fault session) := by
  unfold fail
  dsimp only
  cases wrote : s.recordReplayCheckpoint config .replay fault session.task.command .failed
      session.task.lastSequence (some session.task.terminalTimestamp) with
  | mk s' raised =>
      have written := write_written wrote
      cases raised with
      | true => exact .failFails failing written
      | false => exact .fails failing written

theorem recordEvent_moves {event : TelemetryEventV1 F}
    (published : session.task.phase = .published event) :
    TaskMoves config stamp session fault s (s.recordEvent config fault session event) := by
  unfold recordEvent
  dsimp only
  cases wrote : s.recordReplayCheckpoint config .replay fault
      (session.task.advance event).command
      (checkpointState { session with task := session.task.advance event })
      (session.task.advance event).lastSequence (session.task.advance event).lastTimestamp with
  | mk s' raised =>
      have written := write_written wrote
      cases raised with
      | true => exact .recordFails published written
      | false => exact .records published written

theorem proceed_moves {event : TelemetryEventV1 F} {task : ReplayTask F}
    (taken : Taken config stamp session event task) :
    TaskMoves config stamp session fault s
      (withTask session (task.proceed config.enablePacing session.stopEvent event) s) := by
  unfold ReplayTask.proceed
  by_cases stopped : session.stopEvent = true
  · rw [if_pos stopped]
    exact .stops taken stopped
  · have running : session.stopEvent = false := by simpa using stopped
    rw [if_neg stopped]
    by_cases resumed : task.resumed = true
    · rw [if_pos resumed]
      exact .publishes taken running
    · have initial : task.resumed = false := by simpa using resumed
      rw [if_neg resumed]
      split
      · split
        · rename_i later
          split
          · split
            · exact .sleeps _ taken running initial
            · exact .publishes taken running
          · rename_i failed
            exact .paceFails taken running initial later.2 failed
        · exact .publishes taken running
      · exact .publishes taken running

theorem takeNext_moves (ready : session.task.phase = .ready) :
    TaskMoves config stamp session fault s (s.takeNext config stamp fault session) := by
  unfold takeNext
  dsimp only
  cases events : session.task.events with
  | error e => exact .raises ready (.inl ⟨e, events⟩)
  | ok it =>
      dsimp only
      cases next : config.source.next session.task.command stamp.emittedAt it with
      | error e => exact .raises ready (.inr ⟨it, e, events, next⟩)
      | ok yielded =>
          cases yielded with
          | none =>
              have exhausted : Exhausted config stamp session := ⟨it, events, next⟩
              dsimp only
              by_cases running : session.pauseEvent = true
              · rw [if_pos running]
                exact finish_moves (.exhausted ready exhausted running)
              · rw [if_neg running]
                exact .waitsAtEnd ready exhausted (by simpa using running)
          | some yielded =>
              obtain ⟨event, rest⟩ := yielded
              have yields : Yields config stamp session event rest := ⟨it, events, next⟩
              dsimp only
              by_cases early : session.stopEvent = true ∧ ¬session.task.resumed = true
              · rw [if_pos early]
                exact .stopsEarly ready yields early.1 (by simpa using early.2)
              · rw [if_neg early]
                have goes : session.stopEvent = true → session.task.resumed = true := by
                  intro stopped
                  by_contra initial
                  exact early ⟨stopped, initial⟩
                by_cases running : session.pauseEvent = true
                · rw [if_pos running]
                  exact proceed_moves (.fresh ready yields running)
                · rw [if_neg running]
                  exact .waits ready yields (by simpa using running) goes

theorem taskRun_moves (taken : s.taskRun config stamp fault = some s') :
    ∃ session, s.active = some session ∧ TaskMoves config stamp session fault s s' := by
  unfold taskRun at taken
  split at taken
  · cases taken
  · rename_i session active
    refine ⟨session, active, ?_⟩
    dsimp only at taken
    split at taken
    · rename_i ready
      obtain rfl := Option.some.inj taken
      exact takeNext_moves ready
    · rename_i event woken
      obtain rfl := Option.some.inj taken
      exact proceed_moves (.woken woken)
    · rename_i event delay sleeping
      obtain rfl := Option.some.inj taken
      exact .wakes sleeping
    · rename_i event published
      obtain rfl := Option.some.inj taken
      exact recordEvent_moves published
    · rename_i woken
      obtain rfl := Option.some.inj taken
      exact finish_moves (.woken woken)
    · rename_i failing
      obtain rfl := Option.some.inj taken
      exact fail_moves failing
    · rename_i published
      obtain rfl := Option.some.inj taken
      exact .ends published
    · cases taken

theorem taskPublish_moves (taken : s.taskPublish fault = some s') :
    Moves config s (.taskPublish fault) s' := by
  unfold taskPublish at taken
  split at taken
  · cases taken
  · rename_i session active
    split at taken
    · rename_i event publishing
      dsimp only at taken
      split at taken
      · obtain rfl := Option.some.inj taken
        exact .telemetrySent active publishing
      · obtain rfl := Option.some.inj taken
        exact .telemetryRaises active publishing
      · obtain rfl := Option.some.inj taken
        exact .telemetryLost active publishing
    · rename_i status inHandler publishing
      dsimp only at taken
      split at taken
      · obtain rfl := Option.some.inj taken
        exact .statusSent active publishing
      · obtain rfl := Option.some.inj taken
        exact .statusRaises active publishing
      · obtain rfl := Option.some.inj taken
        exact .statusLost active publishing
    · cases taken

section Fetch

variable {payload : CommandPayload} {command : Checked ReplayCommandV1}
  (idle : s.phase = .idle) (here : config.commands[s.position]? = some payload)
  (decoded : payload.value = .ok command)
include idle here decoded

theorem start_moves (start : command.val.action = .start) : Moves config s (.fetch stamp fault)
    (s.fetched.handleStartCommand config stamp fault command.val) := by
  unfold handleStartCommand
  by_cases live : s.fetched.live.isSome = true
  · rw [if_pos live]
    exact .refusedActive idle here decoded start live
  · rw [if_neg live]
    have notLive : s.live = none := by
      rw [Bool.not_eq_true, Option.isSome_eq_false_iff, Option.isNone_iff_eq_none] at live
      exact live
    split
    · rename_i mismatch
      exact .refusedIdentity idle here decoded start notLive mismatch
    · rename_i identity
      rw [not_or, not_not, not_not] at identity
      cases wrote : s.fetched.recordReplayCheckpoint config (.command command.val) fault
          command.val .running 0 none with
      | mk s' raised =>
          have written := write_written wrote
          cases raised with
          | true => exact .startFails idle here decoded start notLive identity.1 identity.2 written
          | false =>
              obtain ⟨ctrl, applied⟩ := (ReplayController.exists_apply_iff
                (.created command.val.replaySessionId command.val.sourceDatasetSha256
                  command.val.contractSha256) command.val).mpr
                ⟨rfl, by rw [start]; exact List.mem_singleton_self _⟩
              simp only [applied]
              exact .starts idle here decoded start notLive identity.1 identity.2 written applied

variable (stamp) (fault) in
theorem control_moves (control : command.val.action ≠ .start) :
    Moves config s (.fetch stamp fault) (s.fetched.handleControlCommand config stamp fault
      (ReplayController.stateAfter command.val.action) (signal command.val.action) command.val) := by
  unfold handleControlCommand
  have same : s.fetched.live = s.live := rfl
  rw [same]
  cases live : s.live with
  | none => exact .ignored idle here decoded control (by simp [live])
  | some session =>
      dsimp only
      by_cases mine : session.controller.sessionId = command.val.replaySessionId
      · rw [if_pos mine]
        cases applied : session.controller.apply command.val with
        | error e => exact .illegal idle here decoded control live mine applied
        | ok ctrl =>
            dsimp only
            cases wrote : s.fetched.updateReplayCheckpointState config (.command command.val) fault
                ctrl.sessionId (ReplayController.stateAfter command.val.action) with
            | mk s' raised =>
                have updated := update_updated wrote
                cases raised with
                | true => exact .controlFails idle here decoded control live mine applied updated
                | false => exact .controls idle here decoded control live mine applied updated
      · rw [if_neg mine]
        refine .ignored idle here decoded control ?_
        intro other held
        obtain rfl := Option.some.inj (live.symm.trans held)
        exact mine

theorem handleCommand_moves : Moves config s (.fetch stamp fault)
    (s.fetched.handleCommand config stamp fault command.val) := by
  unfold handleCommand
  cases action : command.val.action with
  | start => exact start_moves idle here decoded action
  | pause =>
      have control : command.val.action ≠ .start := by simp [action]
      have moves := control_moves stamp fault idle here decoded control
      rw [action] at moves
      exact moves
  | resume =>
      have control : command.val.action ≠ .start := by simp [action]
      have moves := control_moves stamp fault idle here decoded control
      rw [action] at moves
      exact moves
  | stop =>
      have control : command.val.action ≠ .start := by simp [action]
      have moves := control_moves stamp fault idle here decoded control
      rw [action] at moves
      exact moves

end Fetch

theorem fetch_moves (taken : s.fetch config stamp fault = some s') :
    Moves config s (.fetch stamp fault) s' := by
  unfold fetch at taken
  split at taken
  · rename_i idle
    obtain ⟨payload, here, rfl⟩ := Option.map_eq_some_iff.mp taken
    unfold handleCommandRecord
    cases decoded : payload.value with
    | error e => exact .undecodable _ idle here decoded
    | ok command => exact handleCommand_moves idle here decoded
  · cases taken

theorem mainPublish_moves (taken : s.mainPublish fault = some s') :
    Moves config s (.mainPublish fault) s' := by
  unfold mainPublish at taken
  split at taken
  · rename_i message publishing
    dsimp only at taken
    split at taken
    · obtain rfl := Option.some.inj taken
      exact .publishes publishing
    · obtain rfl := Option.some.inj taken
      exact .publishRaises publishing
    · obtain rfl := Option.some.inj taken
      exact .publishLost publishing
  · cases taken

theorem commit_moves (taken : s.commit fault = some s') : Moves config s (.commit fault) s' := by
  unfold commit at taken
  split at taken
  · rename_i committing
    dsimp only at taken
    split at taken
    · obtain rfl := Option.some.inj taken
      exact .commits committing
    · obtain rfl := Option.some.inj taken
      exact .commitFails s.position committing (.inl rfl)
    · obtain rfl := Option.some.inj taken
      exact .commitFails s.committed committing (.inr rfl)
  · cases taken

theorem restart_moves {loadFails : Bool} (taken : s.restart config loadFails = some s') :
    Moves config s (.restart loadFails) s' := by
  unfold restart at taken
  split at taken
  · rename_i down
    dsimp only at taken
    split at taken
    · rename_i hasStore
      split at taken
      · obtain rfl := Option.some.inj taken
        exact .staysDown down
      · split at taken
        · rename_i none
          obtain rfl := Option.some.inj taken
          exact .comesUp down fun _ => none
        · rename_i session checkpoint one
          split at taken
          · obtain rfl := Option.some.inj taken
            exact .staysDown down
          · rename_i ctrl applied
            obtain rfl := Option.some.inj taken
            exact .resumes down hasStore one applied
        · obtain rfl := Option.some.inj taken
          exact .staysDown down
    · rename_i noStore
      obtain rfl := Option.some.inj taken
      exact .comesUp down fun hasStore => absurd hasStore noStore
  · cases taken

/-- A step is one of its outcomes. -/
theorem step_moves {action : ReplayServiceAction} (taken : step config s action = some s') :
    Moves config s action s' := by
  cases action with
  | fetch stamp fault => exact fetch_moves taken
  | mainPublish fault => exact mainPublish_moves taken
  | commit fault => exact commit_moves taken
  | taskRun stamp fault =>
      obtain ⟨session, active, moves⟩ := taskRun_moves taken
      exact .task active moves
  | taskPublish fault => exact taskPublish_moves taken
  | shutdown =>
      have taken : s.shutdown = some s' := taken
      unfold shutdown at taken
      split at taken
      · cases taken
      · cases taken
      · rename_i up notStopping
        obtain rfl := Option.some.inj taken
        exact .shutsDown up notStopping
  | exit =>
      have taken : s.exit = some s' := taken
      unfold exit at taken
      split at taken
      · rename_i stopping
        obtain rfl := Option.some.inj taken
        exact .exits stopping
      · cases taken
  | crash =>
      have taken : s.crash = some s' := taken
      unfold crash at taken
      split at taken
      · cases taken
      · rename_i up
        obtain rfl := Option.some.inj taken
        exact .crashes up
  | restart loadFails => exact restart_moves taken

end ReplayService

end IndustrialReliability
