import IndustrialReliability.Replay.Moves

/-!
What holds in every state of the replay service.

`Coherent` ties the copies of a session together: its controller, its task and its
checkpoint name one session, the checkpoint is the last one recorded, a stop that is
not a shutdown has stopped the controller, and a status about to be published is
that of its session. Every step keeps it (`Coherent.step`).
-/

namespace IndustrialReliability

variable {F : Type}

namespace ReplayService

/-- The last checkpoint of a session in a trace. -/
def lastRecorded (id : UUID) : List (Effect F) → Option ReplayCheckpoint
  | [] => none
  | .recorded _ session checkpoint :: rest =>
      if session = id then some checkpoint else lastRecorded id rest
  | _ :: rest => lastRecorded id rest

structure RowOk (id : UUID) (checkpoint : ReplayCheckpoint) : Prop where
  session : checkpoint.command.replaySessionId = id
  start : checkpoint.command.action = .start
  begun : checkpoint.state ≠ .created

/-- The status a task is about to publish. -/
structure StatusOf (task : ReplayTask F) (status : ReplayStatusV1) (inHandler : Bool) : Prop where
  session : status.replaySessionId = task.command.replaySessionId
  state : status.state = if inHandler then .failed else .completed
  lastSequence : status.lastSequence = some task.lastSequence
  sourceTimestamp : status.sourceTimestamp = task.terminalTimestamp

structure SessionOk (config : ReplayServiceConfig F) (s : ReplayService F)
    (session : RunningSession F) : Prop where
  command : session.task.command.replaySessionId = session.controller.sessionId
  ctrl : session.task.ctrl.sessionId = session.controller.sessionId
  start : session.task.command.action = .start
  stored : config.hasStore = true → (s.store.get? session.controller.sessionId).isSome = true
  stopped : session.stopEvent = true → s.phase ≠ .stopping → session.controller.state = .stopped
  status : ∀ status inHandler, session.task.phase = .publishingStatus status inHandler →
    StatusOf session.task status inHandler

/-- A status the command loop is about to publish. -/
structure MessageOk (command : ReplayCommandV1) (status : ReplayStatusV1) : Prop where
  session : status.replaySessionId = command.replaySessionId
  state : status.state = ReplayController.stateAfter command.action ∨
    command.action = .start ∧ status.state = .failed

structure Coherent (config : ReplayServiceConfig F) (s : ReplayService F) : Prop where
  rows : ∀ id checkpoint, s.store.get? id = some checkpoint → RowOk id checkpoint
  noStore : config.hasStore = false → ∀ id, s.store.get? id = none
  history : ∀ id, s.store.get? id = lastRecorded id s.trace
  down : s.phase = .down → s.active = none
  session : ∀ session, s.active = some session → SessionOk config s session
  message : ∀ command status, s.phase = .publishing (.status command status) →
    MessageOk command status

/-- The checkpoint of the session is terminal. -/
def Finished (s : ReplayService F) (id : UUID) : Prop :=
  ∃ checkpoint ∈ s.store.get? id, checkpoint.state.Terminal

instance (s : ReplayService F) (id : UUID) : Decidable (s.Finished id) := by
  unfold Finished
  infer_instance

theorem coherent_initial (config : ReplayServiceConfig F) : Coherent config .initial where
  rows := by simp [initial]
  noStore := by simp [initial]
  history := by simp [initial, lastRecorded]
  down := by simp [initial]
  session := by simp [initial]
  message := by simp [initial]

/-! ### Small steps -/

@[simp] theorem wrote_phase (origin : Origin) (id : UUID) (checkpoint : ReplayCheckpoint)
    (s : ReplayService F) : (s.wrote origin id checkpoint).phase = s.phase := rfl

@[simp] theorem wrote_active (origin : Origin) (id : UUID) (checkpoint : ReplayCheckpoint)
    (s : ReplayService F) : (s.wrote origin id checkpoint).active = s.active := rfl

@[simp] theorem get?_wrote (origin : Origin) (id k : UUID) (checkpoint : ReplayCheckpoint)
    (s : ReplayService F) : (s.wrote origin id checkpoint).store.get? k =
      if k = id then some checkpoint else s.store.get? k := by
  unfold wrote
  by_cases same : k = id
  · subst same
    cases held : s.store.get? k <;> simp [held]
  · simp [Lib.Table.get?_upsert_ne same, same]

@[simp] theorem fetched_phase (s : ReplayService F) : s.fetched.phase = s.phase := rfl

@[simp] theorem fetched_active (s : ReplayService F) : s.fetched.active = s.active := rfl

@[simp] theorem fetched_store (s : ReplayService F) : s.fetched.store = s.store := rfl

@[simp] theorem fetched_trace (s : ReplayService F) : s.fetched.trace = s.trace := rfl

@[simp] theorem beginStop_store (s : ReplayService F) : s.beginStop.store = s.store := rfl

@[simp] theorem beginStop_trace (s : ReplayService F) : s.beginStop.trace = s.trace := rfl

@[simp] theorem beginStop_phase (s : ReplayService F) : s.beginStop.phase = .stopping := rfl

@[simp] theorem leave_phase (s : ReplayService F) : s.leave.phase = .down := rfl

@[simp] theorem leave_active (s : ReplayService F) : s.leave.active = none := rfl

@[simp] theorem wake_command (task : ReplayTask F) : task.wake.command = task.command := rfl

@[simp] theorem wake_ctrl (task : ReplayTask F) : task.wake.ctrl = task.ctrl := rfl

@[simp] theorem wake_isDone (task : ReplayTask F) : task.wake.isDone = task.isDone := by
  unfold ReplayTask.wake ReplayTask.isDone
  cases task.phase <;> rfl

/-- Waking leaves a phase of publication as it is. -/
theorem wake_publishingStatus_iff {task : ReplayTask F} {status : ReplayStatusV1}
    {inHandler : Bool} : task.wake.phase = .publishingStatus status inHandler ↔
      task.phase = .publishingStatus status inHandler := by
  unfold ReplayTask.wake
  cases task.phase <;> simp

section Keeps

variable {config : ReplayServiceConfig F} {s s' : ReplayService F} {origin : Origin}
  {fault : Option Bool} {id : UUID} {checkpoint : ReplayCheckpoint} {raised : Bool} {session : RunningSession F}

/-- A write leaves all but the store and the trace. -/
theorem Written.frame (written : Written config origin fault id checkpoint s s' raised) :
    s'.phase = s.phase ∧ s'.active = s.active ∧ s'.position = s.position ∧
      s'.committed = s.committed := by
  cases written <;> exact ⟨rfl, rfl, rfl, rfl⟩

/-- A row after a write is an old one or the one written. -/
theorem Written.get? (written : Written config origin fault id checkpoint s s' raised) {k : UUID}
    {held : ReplayCheckpoint} (row : s'.store.get? k = some held) :
    s.store.get? k = some held ∨ k = id ∧ held = checkpoint := by
  cases written with
  | skipped _ => exact .inl row
  | lost _ _ => exact .inl row
  | stored _ _ _ =>
      rw [get?_wrote] at row
      by_cases same : k = id
      · rw [if_pos same] at row
        exact .inr ⟨same, (Option.some.inj row).symm⟩
      · rw [if_neg same] at row
        exact .inl row

theorem Written.get?_ne (written : Written config origin fault id checkpoint s s' raised) {k : UUID}
    (other : k ≠ id) : s'.store.get? k = s.store.get? k := by
  cases written with
  | skipped _ => rfl
  | lost _ _ => rfl
  | stored _ _ _ => rw [get?_wrote, if_neg other]

/-- A write that returns is committed, if there is a store. -/
theorem Written.get?_self (written : Written config origin fault id checkpoint s s' false)
    (hasStore : config.hasStore = true) : s'.store.get? id = some checkpoint := by
  cases written with
  | skipped noStore => simp [hasStore] at noStore
  | stored _ _ _ => simp

theorem Written.isSome (written : Written config origin fault id checkpoint s s' raised) {k : UUID}
    (held : (s.store.get? k).isSome = true) : (s'.store.get? k).isSome = true := by
  by_cases same : k = id
  · cases written with
    | skipped _ => exact held
    | lost _ _ => exact held
    | stored _ _ _ => simp [same]
  · rw [written.get?_ne same]
    exact held

theorem SessionOk.congr (ok : SessionOk config s session) (phase : s'.phase = s.phase)
    (stored : ∀ k, (s.store.get? k).isSome = true → (s'.store.get? k).isSome = true) :
    SessionOk config s' session where
  command := ok.command
  ctrl := ok.ctrl
  start := ok.start
  stored hasStore := stored _ (ok.stored hasStore)
  stopped := by
    rw [phase]
    exact ok.stopped
  status := ok.status

theorem Coherent.written (coherent : Coherent config s) (row : RowOk id checkpoint)
    (written : Written config origin fault id checkpoint s s' raised) : Coherent config s' := by
  obtain ⟨phase, active, -, -⟩ := written.frame
  refine ⟨?_, ?_, ?_, ?_, ?_, ?_⟩
  · intro k held mem
    rcases written.get? mem with old | ⟨rfl, rfl⟩
    · exact coherent.rows k held old
    · exact row
  · intro noStore
    cases written with
    | skipped _ => exact coherent.noStore noStore
    | lost hasStore _ => simp [noStore] at hasStore
    | stored _ hasStore _ => simp [noStore] at hasStore
  · intro k
    cases written with
    | skipped _ => exact coherent.history k
    | lost _ _ => exact coherent.history k
    | stored _ _ _ =>
        rw [get?_wrote]
        unfold wrote lastRecorded
        by_cases same : k = id
        · rw [if_pos same, if_pos same.symm]
        · rw [if_neg same, if_neg (Ne.symm same)]
          exact coherent.history k
  · rw [phase, active]
    exact coherent.down
  · intro session held
    rw [active] at held
    exact (coherent.session session held).congr phase fun _ => written.isSome
  · rw [phase]
    exact coherent.message

/-- A phase of the command loop that awaits no status of a command. -/
theorem Coherent.phase (coherent : Coherent config s) (phase : ServicePhase)
    (up : phase ≠ .down) (stopping : s.phase = .stopping → phase = .stopping)
    (message : ∀ command status, phase = .publishing (.status command status) →
      MessageOk command status) : Coherent config { s with phase } where
  rows := coherent.rows
  noStore := coherent.noStore
  history := coherent.history
  down same := absurd same up
  session session active := by
    have ok := coherent.session session active
    refine ⟨ok.command, ok.ctrl, ok.start, ok.stored, ?_, ok.status⟩
    intro stopped notStopping
    exact ok.stopped stopped fun same => notStopping (stopping same)
  message := message

/-- An effect that records no checkpoint. -/
theorem Coherent.traced (coherent : Coherent config s) (effect : Effect F)
    (unrecorded : ∀ origin id checkpoint, effect ≠ .recorded origin id checkpoint) :
    Coherent config { s with trace := effect :: s.trace } where
  rows := coherent.rows
  noStore := coherent.noStore
  history k := by
    have same : lastRecorded k (effect :: s.trace) = lastRecorded k s.trace := by
      cases effect with
      | recorded origin id checkpoint => exact absurd rfl (unrecorded origin id checkpoint)
      | accepted _ => rfl
      | telemetry _ => rfl
      | status _ _ => rfl
      | quarantine _ => rfl
      | started => rfl
    show s.store.get? k = lastRecorded k (effect :: s.trace)
    rw [same]
    exact coherent.history k
  down := coherent.down
  session session active := (coherent.session session active).congr rfl fun _ held => held
  message := coherent.message

theorem Coherent.counted (coherent : Coherent config s) (position committed : Nat) :
    Coherent config { s with position, committed } :=
  ⟨coherent.rows, coherent.noStore, coherent.history, coherent.down,
    fun session active => (coherent.session session active).congr rfl fun _ held => held,
    coherent.message⟩

/-- The active session becomes another one of the same state. -/
theorem Coherent.activated (coherent : Coherent config s) (up : s.phase ≠ .down)
    (ok : SessionOk config s session) : Coherent config { s with active := some session } where
  rows := coherent.rows
  noStore := coherent.noStore
  history := coherent.history
  down same := absurd same up
  session other active := by
    obtain rfl := Option.some.inj active
    exact ok.congr rfl fun _ held => held
  message := coherent.message

/-- The task goes on with the same command and controller. -/
theorem Coherent.withTask (coherent : Coherent config s) (active : s.active = some session)
    {task : ReplayTask F} (command : task.command = session.task.command)
    (ctrl : task.ctrl = session.task.ctrl)
    (status : ∀ status inHandler, task.phase = .publishingStatus status inHandler →
      StatusOf task status inHandler) : Coherent config (withTask session task s) := by
  have ok := coherent.session session active
  refine coherent.activated ?_ ⟨?_, ?_, ?_, ok.stored, ok.stopped, status⟩
  · intro down
    rw [coherent.down down] at active
    cases active
  · rw [command]
    exact ok.command
  · rw [ctrl]
    exact ok.ctrl
  · rw [command]
    exact ok.start

theorem Coherent.setPhase (coherent : Coherent config s) (active : s.active = some session)
    {phase : TaskPhase F} (status : ∀ status inHandler, phase = .publishingStatus status inHandler →
      StatusOf session.task status inHandler) : Coherent config (s.setPhase session phase) := by
  refine coherent.withTask active rfl rfl ?_
  intro st inHandler same
  obtain ⟨mine, state, lastSequence, sourceTimestamp⟩ := status st inHandler same
  exact ⟨mine, state, lastSequence, sourceTimestamp⟩

theorem SessionOk.resume (ok : SessionOk config s session) : SessionOk config s session.resume where
  command := ok.command
  ctrl := ok.ctrl
  start := ok.start
  stored := ok.stored
  stopped := ok.stopped
  status status inHandler phase := by
    have before := ok.status status inHandler (wake_publishingStatus_iff.mp phase)
    exact ⟨before.session, before.state, before.lastSequence, before.sourceTimestamp⟩

/-- What `stop()` does to the active session. -/
theorem beginStop_active {stopping : RunningSession F}
    (active : s.beginStop.active = some stopping) : ∃ session, s.active = some session ∧
      (session.task.isDone = true ∧ stopping = session ∨
        session.task.isDone = false ∧ stopping = { session.resume with stopEvent := true }) := by
  obtain ⟨session, held, same⟩ := Option.map_eq_some_iff.mp active
  refine ⟨session, held, ?_⟩
  by_cases finished : session.task.isDone = true
  · rw [if_pos finished] at same
    exact .inl ⟨finished, same.symm⟩
  · rw [if_neg finished] at same
    exact .inr ⟨by simpa using finished, same.symm⟩

theorem Coherent.beginStop (coherent : Coherent config s) : Coherent config s.beginStop where
  rows := coherent.rows
  noStore := coherent.noStore
  history := coherent.history
  down := by simp
  session stopping active := by
    obtain ⟨session, held, ⟨-, rfl⟩ | ⟨-, rfl⟩⟩ := beginStop_active active
    · have ok := coherent.session stopping held
      exact ⟨ok.command, ok.ctrl, ok.start, ok.stored, fun _ up => absurd rfl up, ok.status⟩
    · have ok := (coherent.session session held).resume
      exact ⟨ok.command, ok.ctrl, ok.start, ok.stored, fun _ up => absurd rfl up, ok.status⟩
  message := by simp

theorem Coherent.leave (coherent : Coherent config s) : Coherent config s.leave where
  rows := coherent.rows
  noStore := coherent.noStore
  history := coherent.history
  down := by simp
  session := by simp
  message := by simp

end Keeps

/-! ### Every step -/

section Step

variable [PyFloat F] [Uuid5] {config : ReplayServiceConfig F} {stamp : ServiceStamp}
  {fault : Option Bool} {s s' : ReplayService F} {session : RunningSession F} {event : TelemetryEventV1 F}
  {task : ReplayTask F}

/-- Taking an event changes the iterator only. -/
theorem Taken.frame (taken : Taken config stamp session event task) :
    task.command = session.task.command ∧ task.ctrl = session.task.ctrl ∧
      task.resumed = session.task.resumed ∧ task.lastSequence = session.task.lastSequence ∧
      task.lastTimestamp = session.task.lastTimestamp := by
  cases taken <;> exact ⟨rfl, rfl, rfl, rfl, rfl⟩

omit [PyFloat F] [Uuid5] in
theorem publish_frame (task : ReplayTask F) (event : TelemetryEventV1 F) :
    (task.publish event).command = task.command ∧ (task.publish event).ctrl = task.ctrl ∧
      (task.publish event).phase = .publishing event := by
  unfold ReplayTask.publish
  split <;> exact ⟨rfl, rfl, rfl⟩

omit [PyFloat F] [Uuid5] in
/-- What the checkpoints of a task look like. -/
theorem SessionOk.row (ok : SessionOk config s session) {state : ReplayState}
    (begun : state ≠ .created) (lastSequence : Int) (sourceTimestamp : Option Int) :
    RowOk session.task.command.replaySessionId
      ⟨session.task.command, state, lastSequence, sourceTimestamp⟩ :=
  ⟨rfl, ok.start, begun⟩

omit [PyFloat F] [Uuid5] in
theorem checkpointState_ne_created (session : RunningSession F) :
    checkpointState session ≠ .created := by
  unfold checkpointState
  cases session.stopEvent <;> cases session.pauseEvent <;> simp

theorem Coherent.taskMoves (coherent : Coherent config s) (active : s.active = some session)
    (moves : TaskMoves config stamp session fault s s') : Coherent config s' := by
  have ok := coherent.session session active
  cases moves with
  | raises _ _ => exact coherent.setPhase active (by simp)
  | waitsAtEnd _ _ _ => exact coherent.setPhase active (by simp)
  | waits _ _ _ _ => exact coherent.withTask active rfl rfl (by simp)
  | stopsEarly _ _ _ _ => exact coherent.withTask active rfl rfl (by simp)
  | stops taken _ =>
      obtain ⟨command, ctrl, -⟩ := taken.frame
      exact coherent.withTask active command ctrl (by simp)
  | sleeps delay taken _ _ =>
      obtain ⟨command, ctrl, -⟩ := taken.frame
      exact coherent.withTask active command ctrl (by simp)
  | paceFails taken _ _ _ _ =>
      obtain ⟨command, ctrl, -⟩ := taken.frame
      exact coherent.withTask active command ctrl (by simp)
  | @publishes event task taken _ =>
      obtain ⟨command, ctrl, -⟩ := taken.frame
      obtain ⟨sameCommand, sameCtrl, phase⟩ := publish_frame task event
      refine coherent.withTask active (sameCommand.trans command) (sameCtrl.trans ctrl) ?_
      simp [phase]
  | @wakes event delay _ =>
      obtain ⟨command, ctrl, phase⟩ := publish_frame session.task event
      refine coherent.withTask active command ctrl ?_
      simp [phase]
  | stopsAtEnd _ _ => exact coherent.setPhase active (by simp)
  | completes _ _ written =>
      have kept := coherent.written (ok.row (by simp) _ _) written
      refine kept.setPhase (written.frame.2.1.trans active) ?_
      intro status inHandler same
      cases same
      exact ⟨ok.ctrl.trans ok.command.symm, rfl, rfl, rfl⟩
  | completeFails _ _ written =>
      have kept := coherent.written (ok.row (by simp) _ _) written
      exact kept.setPhase (written.frame.2.1.trans active) (by simp)
  | records _ written =>
      have kept := coherent.written (ok.row (checkpointState_ne_created session) _ _) written
      exact kept.withTask (written.frame.2.1.trans active) rfl rfl (by simp)
  | recordFails _ written =>
      have kept := coherent.written (ok.row (checkpointState_ne_created session) _ _) written
      exact kept.withTask (written.frame.2.1.trans active) rfl rfl (by simp)
  | fails _ written =>
      have kept := coherent.written (ok.row (by simp) _ _) written
      refine kept.setPhase (written.frame.2.1.trans active) ?_
      intro status inHandler same
      cases same
      exact ⟨ok.ctrl.trans ok.command.symm, rfl, rfl, rfl⟩
  | failFails _ written =>
      have kept := coherent.written (ok.row (by simp) _ _) written
      exact kept.setPhase (written.frame.2.1.trans active) (by simp)
  | ends _ => exact coherent.setPhase active (by simp)

omit [PyFloat F] [Uuid5] in
theorem Coherent.fetched (coherent : Coherent config s) : Coherent config s.fetched :=
  coherent.counted (s.position + 1) s.committed

omit [PyFloat F] in
theorem Coherent.publishStatus (coherent : Coherent config s) (notStopping : s.phase ≠ .stopping)
    {command : ReplayCommandV1} {ctrl : ReplayController}
    (message : MessageOk command (ctrl.status stamp.emittedAt)) :
    Coherent config (s.publishStatus stamp command ctrl) := by
  refine coherent.phase _ (by simp) (fun stopping => absurd stopping notStopping) ?_
  intro command' status same
  cases same
  exact message

omit [PyFloat F] [Uuid5] in
/-- An incomplete checkpoint is a row of the store. -/
theorem mem_loadIncompleteReplays_iff {id : UUID} {checkpoint : ReplayCheckpoint} :
    (id, checkpoint) ∈ s.loadIncompleteReplays ↔ s.store.get? id = some checkpoint ∧
      (checkpoint.state = .running ∨ checkpoint.state = .paused) := by
  unfold loadIncompleteReplays
  rw [List.mem_filter, Lib.Table.get?_eq_some_iff, decide_eq_true_eq]

omit [PyFloat F] [Uuid5] in
/-- What a command does to the session it is applied to. -/
theorem signal_frame (action : ReplayAction) (session : RunningSession F) :
    (signal action session).controller = session.controller ∧
      (signal action session).task.command = session.task.command ∧
      (signal action session).task.ctrl = session.task.ctrl ∧
      (signal action session).task.isDone = session.task.isDone ∧
      ((signal action session).stopEvent = true ↔ action = .stop ∨ session.stopEvent = true) := by
  cases action <;> simp [signal, RunningSession.resume]

omit [PyFloat F] [Uuid5] in
theorem SessionOk.signalled (ok : SessionOk config s session) (action : ReplayAction)
    (stopped : action = .stop → s.phase ≠ .stopping → session.controller.state = .stopped) :
    SessionOk config s (signal action session) := by
  obtain ⟨controller, command, ctrl, -, stopEvent⟩ := signal_frame action session
  refine ⟨?_, ?_, ?_, ?_, ?_, ?_⟩
  · rw [command, controller]
    exact ok.command
  · rw [ctrl, controller]
    exact ok.ctrl
  · rw [command]
    exact ok.start
  · rw [controller]
    exact ok.stored
  · rw [stopEvent, controller]
    rintro (stop | already)
    · exact stopped stop
    · exact ok.stopped already
  · intro status inHandler phase
    cases action with
    | start => exact ok.status status inHandler phase
    | pause => exact ok.status status inHandler phase
    | resume => exact ok.resume.status status inHandler phase
    | stop => exact ok.resume.status status inHandler phase

omit [PyFloat F] [Uuid5] in
theorem live_eq_some_iff : s.live = some session ↔
    s.active = some session ∧ session.task.isDone = false := by
  unfold live
  rw [Option.filter_eq_some_iff]
  simp

omit [PyFloat F] [Uuid5] in
theorem done_of_not_live (notLive : s.live = none) (active : s.active = some session) :
    session.task.isDone = true := by
  by_contra running
  have live : s.live = some session := live_eq_some_iff.mpr ⟨active, by simpa using running⟩
  rw [notLive] at live
  cases live

omit [PyFloat F] [Uuid5] in
/-- A command the controller allows finds no stop under way. -/
theorem not_stopped_of_applied {ctrl ctrl' : ReplayController} {command : ReplayCommandV1}
    (applied : ctrl.apply command = .ok ctrl') : ctrl.state ≠ .stopped := by
  intro stopped
  have allowed := (ReplayController.apply_eq_ok applied).allowed
  rw [stopped] at allowed
  simp [ALLOWED_TRANSITIONS] at allowed

omit [PyFloat F] [Uuid5] in
/-- The controller after a control command stays with its session. -/
theorem SessionOk.applied (ok : SessionOk config s session) {command : ReplayCommandV1}
    {ctrl : ReplayController} (applied : session.controller.apply command = .ok ctrl)
    (notStopping : s.phase ≠ .stopping) :
    SessionOk config s (signal command.action { session with controller := ctrl }) := by
  have result := ReplayController.apply_eq_ok applied
  have running : session.stopEvent = true → False := fun stopped =>
    not_stopped_of_applied applied (ok.stopped stopped notStopping)
  have mine : SessionOk config s { session with controller := ctrl } := by
    refine ⟨?_, ?_, ok.start, ?_, fun stopped => (running stopped).elim, ok.status⟩
    · exact ok.command.trans result.sessionId.symm
    · exact ok.ctrl.trans result.sessionId.symm
    · intro hasStore
      show (s.store.get? ctrl.sessionId).isSome = true
      rw [result.sessionId]
      exact ok.stored hasStore
  apply mine.signalled
  intro stop _
  show ctrl.state = .stopped
  rw [result.state, stop]
  rfl

omit [PyFloat F] [Uuid5] in
theorem RowOk.update {id : UUID} {checkpoint : ReplayCheckpoint} (row : RowOk id checkpoint)
    (action : ReplayAction) :
    RowOk id { checkpoint with state := ReplayController.stateAfter action } :=
  ⟨row.session, row.start, by cases action <;> simp [ReplayController.stateAfter]⟩

omit [PyFloat F] [Uuid5] in
/-- The write of a new state is a write, or there is no such row. -/
theorem Updated.coherent {origin : Origin} {id : UUID} {action : ReplayAction} {raised : Bool}
    (coherent : Coherent config s) (updated : Updated config origin fault id
      (ReplayController.stateAfter action) s s' raised) :
    Coherent config s' ∧ s'.phase = s.phase ∧ s'.active = s.active ∧
      ∀ k, (s.store.get? k).isSome = true → (s'.store.get? k).isSome = true := by
  cases updated with
  | missing _ => exact ⟨coherent, rfl, rfl, fun _ held => held⟩
  | found held written =>
      obtain ⟨phase, active, -, -⟩ := written.frame
      exact ⟨coherent.written ((coherent.rows _ _ held).update action) written, phase, active,
        fun _ => written.isSome⟩

/-- Every step keeps the state coherent. -/
theorem Coherent.moves {action : ReplayServiceAction} (coherent : Coherent config s)
    (moves : Moves config s action s') : Coherent config s' := by
  cases moves with
  | undecodable record idle _ _ =>
      exact coherent.fetched.phase _ (by simp) (by simp [idle]) (by simp)
  | refusedActive idle _ _ start _ =>
      refine coherent.fetched.publishStatus (by simp [idle]) ⟨rfl, .inr ⟨start, rfl⟩⟩
  | refusedIdentity idle _ _ start _ _ =>
      refine coherent.fetched.publishStatus (by simp [idle]) ⟨rfl, .inr ⟨start, rfl⟩⟩
  | startFails _ _ _ start _ _ _ written =>
      have row : RowOk _ ⟨_, .running, 0, none⟩ := ⟨rfl, start, by simp⟩
      exact (coherent.fetched.written row written).beginStop
  | @starts stamp fault payload command s' ctrl idle _ _ start _ _ _ written applied =>
      obtain ⟨phase, active, -, -⟩ := written.frame
      have row : RowOk _ ⟨_, .running, 0, none⟩ := ⟨rfl, start, by simp⟩
      have result := ReplayController.apply_eq_ok applied
      have kept := (coherent.fetched.written row written).traced
        (.accepted command.val) (by simp)
      have ok : SessionOk config { s' with trace := .accepted command.val :: s'.trace }
          ⟨ctrl, initialTask config stamp ctrl, true, false⟩ := by
        refine ⟨rfl, rfl, rfl, ?_, by simp, by simp [initialTask]⟩
        intro hasStore
        show (s'.store.get? ctrl.sessionId).isSome = true
        rw [result.sessionId]
        show (s'.store.get? command.val.replaySessionId).isSome = true
        rw [written.get?_self hasStore]
        rfl
      have idle' : s'.phase = .idle := phase.trans idle
      refine (kept.activated (by simp [idle']) ok).publishStatus (by simp [idle']) ⟨?_, .inl ?_⟩
      · exact result.sessionId
      · rw [start]
        exact result.state.trans (by rw [start])
  | ignored idle _ _ _ _ => exact coherent.fetched.phase _ (by simp) (by simp [idle]) (by simp)
  | illegal _ _ _ _ _ _ _ => exact coherent.fetched.beginStop
  | controlFails _ _ _ _ _ _ _ updated => exact (updated.coherent coherent.fetched).1.beginStop
  | @controls stamp fault payload command session ctrl s' idle _ _ _ live mine applied updated =>
      obtain ⟨kept, phase, active, stored⟩ := updated.coherent coherent.fetched
      have result := ReplayController.apply_eq_ok applied
      have notStopping : s.phase ≠ .stopping := by simp [idle]
      have ok := (coherent.session session (live_eq_some_iff.mp live).1).applied applied notStopping
      have idle' : s'.phase = .idle := phase.trans idle
      have ok' := ok.congr (idle'.trans idle.symm) stored
      refine (kept.activated (by simp [idle']) ok').publishStatus (by simp [idle']) ⟨?_, .inl ?_⟩
      · exact result.sessionId.trans mine
      · exact result.state
  | @publishes _ message publishing =>
      have kept := coherent.traced (Outgoing.effect message) (by cases message <;> simp [Outgoing.effect])
      exact kept.phase _ (by simp) (by simp [publishing]) (by simp)
  | @publishRaises _ message _ =>
      exact (coherent.traced (Outgoing.effect message) (by cases message <;> simp [Outgoing.effect])).beginStop
  | publishLost _ => exact coherent.beginStop
  | commits committing =>
      exact (coherent.counted s.position s.position).phase _ (by simp) (by simp [committing]) (by simp)
  | commitFails acknowledged _ _ => exact (coherent.counted s.position acknowledged).beginStop
  | task active moves => exact coherent.taskMoves active moves
  | @telemetrySent _ event active _ =>
      have kept := coherent.traced (.telemetry event) (by simp)
      exact kept.setPhase active (by simp)
  | @telemetryRaises _ event active _ =>
      have kept := coherent.traced (.telemetry event) (by simp)
      exact kept.setPhase active (by simp)
  | telemetryLost active _ => exact coherent.setPhase active (by simp)
  | @statusSent _ status _ active _ =>
      have kept := coherent.traced (.status .replay status) (by simp)
      exact kept.setPhase active (by simp)
  | @statusRaises _ status inHandler active _ =>
      have kept := coherent.traced (.status .replay status) (by simp)
      exact kept.setPhase active (by cases inHandler <;> simp)
  | @statusLost _ _ inHandler active _ =>
      exact coherent.setPhase active (by cases inHandler <;> simp)
  | shutsDown _ _ => exact coherent.beginStop
  | exits _ => exact coherent.leave
  | crashes _ => exact coherent.leave
  | staysDown _ => exact coherent
  | comesUp down _ =>
      have kept := (coherent.traced (.started) (by simp)).counted s.committed s.committed
      exact kept.phase _ (by simp) (by simp [down]) (by simp)
  | @resumes _ id checkpoint ctrl down hasStore one applied =>
      have held : s.store.get? id = some checkpoint := by
        have mem : (id, checkpoint) ∈ s.loadIncompleteReplays := by
          rw [one]
          exact List.mem_singleton_self _
        exact (mem_loadIncompleteReplays_iff.mp mem).1
      have row := coherent.rows id checkpoint held
      have result := ReplayController.apply_eq_ok applied
      have kept := ((coherent.traced (.started) (by simp)).counted s.committed
        s.committed).phase .idle (by simp) (by simp [down]) (by simp)
      refine kept.activated (by simp) ⟨?_, rfl, row.start, ?_, by simp [resumedSession],
        by simp [resumedSession]⟩
      · exact row.session.trans result.sessionId.symm
      · intro _
        show (s.store.get? ctrl.sessionId).isSome = true
        rw [result.sessionId]
        show (s.store.get? id).isSome = true
        rw [held]
        rfl

theorem coherent_of_reachable (reach : Lib.Reachable (step config) .initial s) :
    Coherent config s :=
  reach.invariant (fun _ _ _ coherent taken => coherent.moves (step_moves taken))
    (coherent_initial config)

end Step

end ReplayService

end IndustrialReliability
