import IndustrialReliability.Lib.Runs
import IndustrialReliability.Lib.Table
import IndustrialReliability.Replay.Source

/-!
The replay service: the command loop, the replay task and the checkpoints.

A state is what survives a crash (the checkpoints, the topics, the committed
offset) and the memory of the process: the fetch position, where the command loop
is, and the active session with its task. An action is one stretch of the command
loop or of the task between two awaits, a call that returns or raises, a graceful
shutdown, a crash or a restart. A stretch of the task that records a checkpoint is
an action of its own, so a run is any interleaving of the two and more.

What happened outside the process is its `trace`, the latest effect first: a
checkpoint committed, a message that reached its topic, a START that began a
replay, a restart. A call may raise with its effect (`some true`) or without
(`some false`).
-/

namespace IndustrialReliability

variable {F : Type}

structure ReplayCheckpoint where
  command : ReplayCommandV1
  state : ReplayState
  lastSequence : Int
  sourceTimestamp : Option Int
deriving DecidableEq, Repr

def REPLAY_COMMANDS_TOPIC : String := "irp.replay.commands.v1"

/-- The value of a record of the commands topic: the digest of its bytes and what
decoding them returns. -/
structure CommandPayload where
  payloadSha256 : Sha256
  value : Except String (Checked ReplayCommandV1)

structure ReplayServiceConfig (F : Type) where
  source : ReplaySource F
  enablePacing : Bool
  /-- There is a store. -/
  hasStore : Bool
  /-- The commands topic: its records by offset, in the order they are fetched. -/
  commands : List CommandPayload

/-- The random ids and clock readings of one action. -/
structure ServiceStamp where
  messageId : UUID
  commandId : UUID
  emittedAt : Instant
deriving DecidableEq, Repr

/-- On whose behalf an effect happens. -/
inductive Origin where
  | command (command : ReplayCommandV1)
  | replay
deriving DecidableEq, Repr

inductive Effect (F : Type) where
  /-- A START began the replay of its session. -/
  | accepted (command : ReplayCommandV1)
  | recorded (origin : Origin) (session : UUID) (checkpoint : ReplayCheckpoint)
  | telemetry (event : TelemetryEventV1 F)
  | status (origin : Origin) (status : ReplayStatusV1)
  | quarantine (record : QuarantineRecordV1)
  | started

/-- Where the replay task is. -/
inductive TaskPhase (F : Type) where
  /-- About to take the next event. -/
  | ready
  /-- In `pause_event.wait()`; `woken` once the event has been set. -/
  | waiting (event : TelemetryEventV1 F) (woken : Bool)
  | sleeping (event : TelemetryEventV1 F) (delay : ℚ)
  | publishing (event : TelemetryEventV1 F)
  /-- Published, not yet recorded. -/
  | published (event : TelemetryEventV1 F)
  /-- In `pause_event.wait()` behind the last event. -/
  | waitingAtEnd (woken : Bool)
  /-- An exception has reached the handler. -/
  | failing
  | publishingStatus (status : ReplayStatusV1) (inHandler : Bool)
  | publishedStatus
  | done

/-- The variables of `_run_replay_session` or, when resumed, of `resume_checkpoint`. -/
structure ReplayTask (F : Type) where
  resumed : Bool
  command : ReplayCommandV1
  ctrl : ReplayController
  events : Except ReplayContractError (EventIterator F)
  lastSequence : Int
  lastTimestamp : Option Int
  prevTimestamp : Option Int
  phase : TaskPhase F

structure RunningSession (F : Type) where
  controller : ReplayController
  task : ReplayTask F
  pauseEvent : Bool
  stopEvent : Bool

/-- A message the command loop awaits the publication of. -/
inductive Outgoing where
  | status (command : ReplayCommandV1) (status : ReplayStatusV1)
  | quarantine (record : QuarantineRecordV1)
deriving DecidableEq, Repr

/-- Where the command loop is. -/
inductive ServicePhase where
  | down
  /-- Awaiting the next record. -/
  | idle
  | publishing (message : Outgoing)
  | committing
  /-- In `stop()`. -/
  | stopping
deriving DecidableEq, Repr

structure ReplayService (F : Type) where
  store : Lib.Table UUID ReplayCheckpoint
  trace : List (Effect F)
  committed : Nat
  position : Nat
  phase : ServicePhase
  active : Option (RunningSession F)

def ReplayService.initial : ReplayService F where
  store := .empty
  trace := []
  committed := 0
  position := 0
  phase := .down
  active := none

inductive ReplayServiceAction where
  /-- The next record arrives and is handled, up to the publication it awaits. -/
  | fetch (stamp : ServiceStamp) (fault : Option Bool)
  /-- The publication the command loop awaits returns or raises. -/
  | mainPublish (fault : Option Bool)
  | commit (fault : Option Bool)
  /-- A stretch of the task. -/
  | taskRun (stamp : ServiceStamp) (fault : Option Bool)
  /-- The publication the task awaits returns or raises. -/
  | taskPublish (fault : Option Bool)
  /-- The command loop is cancelled: it leaves through `stop()`. -/
  | shutdown
  /-- `stop()` is through with the task or has given up on it. -/
  | exit
  | crash
  | restart (loadFails : Bool)
deriving DecidableEq, Repr

/-! ### The task -/

namespace ReplayTask

def isDone (task : ReplayTask F) : Bool :=
  match task.phase with
  | .done => true
  | _ => false

/-- `pause_event.set()` resumes whoever waits for it. -/
def wake (task : ReplayTask F) : ReplayTask F :=
  { task with phase := match task.phase with
      | .waiting event _ => .waiting event true
      | .waitingAtEnd _ => .waitingAtEnd true
      | phase => phase }

/-- `last_timestamp or command.range_start or command.source_timestamp`; an initial
run starts with the range start as its last timestamp. -/
def terminalTimestamp (task : ReplayTask F) : Int :=
  (task.lastTimestamp <|> task.command.rangeStart).getD task.command.sourceTimestamp

/-- The locals after an event. -/
def advance (task : ReplayTask F) (event : TelemetryEventV1 F) : ReplayTask F :=
  { task with
    lastSequence := event.sequence
    lastTimestamp := some event.sourceTimestamp }

/-- The last steps before an event is published: an initial run moves its locals
already here. -/
def publish (task : ReplayTask F) (event : TelemetryEventV1 F) : ReplayTask F :=
  if task.resumed then { task with phase := .publishing event }
  else { task.advance event with
    prevTimestamp := some event.sourceTimestamp
    phase := .publishing event }

/-- What follows `await pause_event.wait()` with an event at hand. -/
def proceed (enablePacing : Bool) (stopEvent : Bool) (event : TelemetryEventV1 F)
    (task : ReplayTask F) : ReplayTask F :=
  if stopEvent then { task with phase := .done }
  else if task.resumed then task.publish event
  else
    match task.prevTimestamp with
    | some prev =>
        if enablePacing ∧ prev < event.sourceTimestamp then
          match paceSeconds prev event.sourceTimestamp task.ctrl.speed with
          | .ok delay =>
              if 0 < delay then { task with phase := .sleeping event delay }
              else task.publish event
          | .error _ => { task with phase := .failing }
        else task.publish event
    | none => task.publish event

end ReplayTask

/-- `_checkpoint_state`. -/
def checkpointState (session : RunningSession F) : ReplayState :=
  if session.stopEvent then .stopped
  else if session.pauseEvent then .running
  else .paused

/-- `pause_event.set()`. -/
def RunningSession.resume (session : RunningSession F) : RunningSession F :=
  { session with pauseEvent := true, task := session.task.wake }

namespace ReplayService

/-! ### The store -/

/-- A checkpoint is committed. -/
def wrote (origin : Origin) (session : UUID) (checkpoint : ReplayCheckpoint)
    (s : ReplayService F) : ReplayService F :=
  { s with
    store := s.store.upsert session checkpoint fun _ => checkpoint
    trace := .recorded origin session checkpoint :: s.trace }

/-- A write of the store: whether it raises. -/
def write (config : ReplayServiceConfig F) (origin : Origin) (fault : Option Bool)
    (session : UUID) (checkpoint : ReplayCheckpoint) (s : ReplayService F) :
    ReplayService F × Bool :=
  if config.hasStore then
    match fault with
    | none => (s.wrote origin session checkpoint, false)
    | some true => (s.wrote origin session checkpoint, true)
    | some false => (s, true)
  else (s, false)

/-- `record_replay_checkpoint`, if there is a store. -/
def recordReplayCheckpoint (config : ReplayServiceConfig F) (origin : Origin)
    (fault : Option Bool) (command : ReplayCommandV1) (state : ReplayState) (lastSequence : Int)
    (sourceTimestamp : Option Int) (s : ReplayService F) : ReplayService F × Bool :=
  s.write config origin fault command.replaySessionId
    ⟨command, state, lastSequence, sourceTimestamp⟩

/-- `update_replay_checkpoint_state`, if there is a store. -/
def updateReplayCheckpointState (config : ReplayServiceConfig F) (origin : Origin)
    (fault : Option Bool) (session : UUID) (state : ReplayState) (s : ReplayService F) :
    ReplayService F × Bool :=
  match s.store.get? session with
  | some checkpoint => s.write config origin fault session { checkpoint with state }
  -- `LookupError`.
  | none => (s, config.hasStore)

/-- `load_incomplete_replays`. -/
def loadIncompleteReplays (s : ReplayService F) : List (UUID × ReplayCheckpoint) :=
  s.store.rows.filter fun row => row.2.state = .running ∨ row.2.state = .paused

/-! ### Stopping -/

/-- The session of a task that is not done. -/
def live (s : ReplayService F) : Option (RunningSession F) :=
  s.active.filter fun session => !session.task.isDone

/-- The beginning of `stop()`, also where an exception leaves the command loop. -/
def beginStop (s : ReplayService F) : ReplayService F :=
  { s with
    phase := .stopping
    active := s.active.map fun session =>
      if session.task.isDone then session else { session.resume with stopEvent := true } }

/-! ### Commands -/

variable [PyFloat F] [Uuid5]

def quarantineRecord (stamp : ServiceStamp) (offset : Nat) (payload : CommandPayload)
    (error : String) : QuarantineRecordV1 where
  messageId := stamp.messageId
  sourceDatasetSha256 := 0
  contractSha256 := 0
  sourceTimestamp := epoch2020
  emittedAt := stamp.emittedAt
  originalTopic := REPLAY_COMMANDS_TOPIC
  partition := 0
  offset
  payloadSha256 := payload.payloadSha256
  errorCode := "INVALID_COMMAND_PAYLOAD"
  errorDetail := String.ofList (error.toList.take 1000)

/-- `await self.publish_status(ctrl.status())` of a handler. -/
def publishStatus (stamp : ServiceStamp) (command : ReplayCommandV1) (ctrl : ReplayController)
    (s : ReplayService F) : ReplayService F :=
  { s with phase := .publishing (.status command (ctrl.status stamp.emittedAt)) }

/-- `start_cmd` of `_run_replay_session`. -/
def startCmd (stamp : ServiceStamp) (ctrl : ReplayController) : ReplayCommandV1 where
  messageId := stamp.messageId
  replaySessionId := ctrl.sessionId
  sourceDatasetSha256 := ctrl.sourceDatasetSha256
  contractSha256 := ctrl.contractSha256
  sourceTimestamp := ctrl.rangeStart.getD epoch2020
  emittedAt := stamp.emittedAt
  commandId := stamp.commandId
  action := .start
  speed := ctrl.speed
  rangeStart := ctrl.rangeStart
  rangeEnd := ctrl.rangeEnd

/-- The task of `_run_replay_session`. -/
def initialTask (config : ReplayServiceConfig F) (stamp : ServiceStamp) (ctrl : ReplayController) :
    ReplayTask F where
  resumed := false
  command := startCmd stamp ctrl
  ctrl
  events := config.source.iterEvents (startCmd stamp ctrl) 1 none
  lastSequence := 0
  lastTimestamp := some (ctrl.rangeStart.getD epoch2020)
  prevTimestamp := none
  phase := .ready

def replayAlreadyActive (command : ReplayCommandV1) : ReplayController :=
  (ReplayController.created command.replaySessionId command.sourceDatasetSha256
    command.contractSha256).markFailed "REPLAY_ALREADY_ACTIVE" 0 command.sourceTimestamp

def replaySourceIdentityMismatch (config : ReplayServiceConfig F) (command : ReplayCommandV1) :
    ReplayController :=
  (ReplayController.created command.replaySessionId config.source.sourceDatasetSha256
    config.source.contractSha256).markFailed "REPLAY_SOURCE_IDENTITY_MISMATCH" 0
    command.sourceTimestamp

/-- `_handle_start_command`. -/
def handleStartCommand (config : ReplayServiceConfig F) (stamp : ServiceStamp)
    (fault : Option Bool) (command : ReplayCommandV1) (s : ReplayService F) : ReplayService F :=
  if s.live.isSome then s.publishStatus stamp command (replayAlreadyActive command)
  else if command.sourceDatasetSha256 ≠ config.source.sourceDatasetSha256 ∨
      command.contractSha256 ≠ config.source.contractSha256 then
    s.publishStatus stamp command (replaySourceIdentityMismatch config command)
  else
    match s.recordReplayCheckpoint config (.command command) fault command .running 0 none with
    | (s, true) => s.beginStop
    | (s, false) =>
        match (ReplayController.created command.replaySessionId command.sourceDatasetSha256
            command.contractSha256).apply command with
        | .error _ => s.beginStop
        | .ok ctrl =>
            { s with
              trace := .accepted command :: s.trace
              active := some {
                controller := ctrl
                task := initialTask config stamp ctrl
                pauseEvent := true
                stopEvent := false } }.publishStatus stamp command ctrl

/-- `_handle_pause_command`, `_handle_resume_command` and `_handle_stop_command`: the
state they record and what they do to the events of the session. -/
def handleControlCommand (config : ReplayServiceConfig F) (stamp : ServiceStamp)
    (fault : Option Bool) (state : ReplayState) (signal : RunningSession F → RunningSession F)
    (command : ReplayCommandV1) (s : ReplayService F) : ReplayService F :=
  match s.live with
  | none => { s with phase := .committing }
  | some session =>
      if session.controller.sessionId = command.replaySessionId then
        match session.controller.apply command with
        | .error _ => s.beginStop
        | .ok ctrl =>
            match s.updateReplayCheckpointState config (.command command) fault ctrl.sessionId
                state with
            | (s, true) => s.beginStop
            | (s, false) =>
                { s with active := some (signal { session with controller := ctrl }) }.publishStatus
                  stamp command ctrl
      else { s with phase := .committing }

def handlePauseCommand (config : ReplayServiceConfig F) (stamp : ServiceStamp)
    (fault : Option Bool) : ReplayCommandV1 → ReplayService F → ReplayService F :=
  handleControlCommand config stamp fault .paused fun session =>
    { session with pauseEvent := false }

def handleResumeCommand (config : ReplayServiceConfig F) (stamp : ServiceStamp)
    (fault : Option Bool) : ReplayCommandV1 → ReplayService F → ReplayService F :=
  handleControlCommand config stamp fault .running RunningSession.resume

def handleStopCommand (config : ReplayServiceConfig F) (stamp : ServiceStamp)
    (fault : Option Bool) : ReplayCommandV1 → ReplayService F → ReplayService F :=
  handleControlCommand config stamp fault .stopped fun session =>
    { session.resume with stopEvent := true }

/-- `handle_command`. -/
def handleCommand (config : ReplayServiceConfig F) (stamp : ServiceStamp) (fault : Option Bool)
    (command : ReplayCommandV1) (s : ReplayService F) : ReplayService F :=
  match command.action with
  | .start => s.handleStartCommand config stamp fault command
  | .pause => s.handlePauseCommand config stamp fault command
  | .resume => s.handleResumeCommand config stamp fault command
  | .stop => s.handleStopCommand config stamp fault command

/-- `handle_command_record`. -/
def handleCommandRecord (config : ReplayServiceConfig F) (stamp : ServiceStamp)
    (fault : Option Bool) (offset : Nat) (payload : CommandPayload) (s : ReplayService F) :
    ReplayService F :=
  match payload.value with
  | .ok command => s.handleCommand config stamp fault command.val
  | .error error =>
      { s with phase := .publishing (.quarantine (quarantineRecord stamp offset payload error)) }

/-- The command loop takes the next record. -/
def fetch (config : ReplayServiceConfig F) (stamp : ServiceStamp) (fault : Option Bool)
    (s : ReplayService F) : Option (ReplayService F) :=
  match s.phase with
  | .idle => config.commands[s.position]?.map fun payload =>
      { s with position := s.position + 1 }.handleCommandRecord config stamp fault s.position payload
  | _ => none

/-- The message reaches its topic. -/
def Outgoing.effect : Outgoing → Effect F
  | .status command status => .status (.command command) status
  | .quarantine record => .quarantine record

omit [PyFloat F] [Uuid5] in
def mainPublish (fault : Option Bool) (s : ReplayService F) : Option (ReplayService F) :=
  match s.phase with
  | .publishing message =>
      let delivered := { s with trace := Outgoing.effect message :: s.trace }
      match fault with
      | none => some { delivered with phase := .committing }
      | some true => some delivered.beginStop
      | some false => some s.beginStop
  | _ => none

omit [PyFloat F] [Uuid5] in
/-- `consumer.commit()`. -/
def commit (fault : Option Bool) (s : ReplayService F) : Option (ReplayService F) :=
  match s.phase with
  | .committing =>
      let acknowledged := { s with committed := s.position }
      match fault with
      | none => some { acknowledged with phase := .idle }
      | some true => some acknowledged.beginStop
      | some false => some s.beginStop
  | _ => none

/-! ### The replay -/

/-- The task goes on to a phase. -/
def setPhase (session : RunningSession F) (phase : TaskPhase F) (s : ReplayService F) :
    ReplayService F :=
  { s with active := some { session with task := { session.task with phase } } }

/-- The end of the replay behind the last event. -/
def finish (config : ReplayServiceConfig F) (stamp : ServiceStamp) (fault : Option Bool)
    (session : RunningSession F) (s : ReplayService F) : ReplayService F :=
  let task := session.task
  if session.stopEvent then s.setPhase session .done
  else
    let ctrl := task.ctrl.markCompleted task.lastSequence task.terminalTimestamp
    match s.recordReplayCheckpoint config .replay fault task.command .completed task.lastSequence
        (some task.terminalTimestamp) with
    | (s, true) => s.setPhase session .failing
    | (s, false) => s.setPhase session (.publishingStatus (ctrl.status stamp.emittedAt) false)

/-- The exception handler. -/
def fail (config : ReplayServiceConfig F) (stamp : ServiceStamp) (fault : Option Bool)
    (session : RunningSession F) (s : ReplayService F) : ReplayService F :=
  let task := session.task
  let ctrl := task.ctrl.markFailed "REPLAY_STREAM_ERROR" task.lastSequence task.terminalTimestamp
  match s.recordReplayCheckpoint config .replay fault task.command .failed task.lastSequence
      (some task.terminalTimestamp) with
  | (s, true) => s.setPhase session .done
  | (s, false) => s.setPhase session (.publishingStatus (ctrl.status stamp.emittedAt) true)

/-- The task takes the next event. -/
def takeNext (config : ReplayServiceConfig F) (stamp : ServiceStamp) (fault : Option Bool)
    (session : RunningSession F) (s : ReplayService F) : ReplayService F :=
  let task := session.task
  match task.events with
  | .error _ => s.setPhase session .failing
  | .ok it =>
      match config.source.next task.command stamp.emittedAt it with
      | .error _ => s.setPhase session .failing
      | .ok none =>
          if session.pauseEvent then s.finish config stamp fault session
          else s.setPhase session (.waitingAtEnd false)
      | .ok (some (event, rest)) =>
          let task := { task with events := .ok rest }
          let task :=
            if session.stopEvent ∧ ¬task.resumed then { task with phase := .done }
            else if session.pauseEvent then
              task.proceed config.enablePacing session.stopEvent event
            else { task with phase := .waiting event false }
          { s with active := some { session with task } }

/-- The checkpoint of a published event. -/
def recordEvent (config : ReplayServiceConfig F) (fault : Option Bool)
    (session : RunningSession F) (event : TelemetryEventV1 F) (s : ReplayService F) :
    ReplayService F :=
  let task := session.task.advance event
  let session := { session with task }
  match s.recordReplayCheckpoint config .replay fault task.command (checkpointState session)
      task.lastSequence task.lastTimestamp with
  | (s, true) => s.setPhase session .failing
  | (s, false) => s.setPhase session .ready

def taskRun (config : ReplayServiceConfig F) (stamp : ServiceStamp) (fault : Option Bool)
    (s : ReplayService F) : Option (ReplayService F) :=
  match s.active with
  | none => none
  | some session =>
      let task := session.task
      match task.phase with
      | .ready => some (s.takeNext config stamp fault session)
      | .waiting event true => some { s with active := some { session with
          task := task.proceed config.enablePacing session.stopEvent event } }
      | .sleeping event _ => some { s with active := some { session with
          task := task.publish event } }
      | .published event => some (s.recordEvent config fault session event)
      | .waitingAtEnd true => some (s.finish config stamp fault session)
      | .failing => some (s.fail config stamp fault session)
      | .publishedStatus => some (s.setPhase session .done)
      | _ => none

omit [PyFloat F] [Uuid5] in
def taskPublish (fault : Option Bool) (s : ReplayService F) : Option (ReplayService F) :=
  match s.active with
  | none => none
  | some session =>
      match session.task.phase with
      | .publishing event =>
          let delivered := { s with trace := .telemetry event :: s.trace }
          match fault with
          | none => some (delivered.setPhase session (.published event))
          | some true => some (delivered.setPhase session .failing)
          | some false => some (s.setPhase session .failing)
      | .publishingStatus status inHandler =>
          let delivered := { s with trace := .status .replay status :: s.trace }
          let raised : TaskPhase F := if inHandler then .done else .failing
          match fault with
          | none => some (delivered.setPhase session .publishedStatus)
          | some true => some (delivered.setPhase session raised)
          | some false => some (s.setPhase session raised)
      | _ => none

/-! ### The process -/

omit [PyFloat F] [Uuid5] in
def shutdown (s : ReplayService F) : Option (ReplayService F) :=
  match s.phase with
  | .down => none
  | .stopping => none
  | _ => some s.beginStop

omit [PyFloat F] [Uuid5] in
/-- The memory of the process is lost. -/
def leave (s : ReplayService F) : ReplayService F :=
  { s with phase := .down, active := none }

omit [PyFloat F] [Uuid5] in
def exit (s : ReplayService F) : Option (ReplayService F) :=
  match s.phase with
  | .stopping => some s.leave
  | _ => none

omit [PyFloat F] [Uuid5] in
def crash (s : ReplayService F) : Option (ReplayService F) :=
  match s.phase with
  | .down => none
  | _ => some s.leave

/-- The session that `start` resumes from a checkpoint. -/
def resumedSession (config : ReplayServiceConfig F) (checkpoint : ReplayCheckpoint)
    (ctrl : ReplayController) : RunningSession F where
  controller := { ctrl with
    state := checkpoint.state
    lastSequence := some checkpoint.lastSequence
    currentSourceTimestamp := checkpoint.sourceTimestamp }
  task := {
    resumed := true
    command := checkpoint.command
    ctrl
    events := config.source.iterEvents checkpoint.command (checkpoint.lastSequence + 1)
      checkpoint.sourceTimestamp
    lastSequence := checkpoint.lastSequence
    lastTimestamp := checkpoint.sourceTimestamp
    prevTimestamp := none
    phase := .ready }
  pauseEvent := decide (checkpoint.state = .running)
  stopEvent := false

omit [PyFloat F] [Uuid5] in
/-- `start`: the process is up unless the checkpoints cannot be loaded, or more than
one is incomplete. -/
def restart (config : ReplayServiceConfig F) (loadFails : Bool) (s : ReplayService F) :
    Option (ReplayService F) :=
  match s.phase with
  | .down =>
      let up := { s with
        trace := .started :: s.trace
        position := s.committed
        phase := .idle }
      if config.hasStore then
        if loadFails then some s
        else
          match s.loadIncompleteReplays with
          | [] => some up
          | [(session, checkpoint)] =>
              match (ReplayController.created session checkpoint.command.sourceDatasetSha256
                  checkpoint.command.contractSha256).apply checkpoint.command with
              | .error _ => some s
              | .ok ctrl => some { up with
                  active := some (resumedSession config checkpoint ctrl) }
          | _ => some s
      else some up
  | _ => none

def step (config : ReplayServiceConfig F) (s : ReplayService F) :
    ReplayServiceAction → Option (ReplayService F)
  | .fetch stamp fault => s.fetch config stamp fault
  | .mainPublish fault => s.mainPublish fault
  | .commit fault => s.commit fault
  | .taskRun stamp fault => s.taskRun config stamp fault
  | .taskPublish fault => s.taskPublish fault
  | .shutdown => s.shutdown
  | .exit => s.exit
  | .crash => s.crash
  | .restart loadFails => s.restart config loadFails

end ReplayService

/-! ### Concrete replays -/

/-- A command of a session that replays the first ten seconds. -/
def replayCommand (session : UUID) (action : ReplayAction) : ReplayCommandV1 where
  messageId := session
  replaySessionId := session
  sourceDatasetSha256 := 1
  contractSha256 := 1
  sourceTimestamp := 0
  emittedAt := ⟨0⟩
  commandId := session
  action
  speed := 1
  rangeStart := match action with
    | .start => some 0
    | _ => none
  rangeEnd := match action with
    | .start => some (Datetime.seconds 10)
    | _ => none

theorem replayCommand_valid (session : UUID) (action : ReplayAction) :
    Valid (replayCommand session action) := by
  cases action <;> simp [Valid, FrozenMessage.checks, validateStartCommand, validateControlCommand,
    replayCommand, Datetime.seconds, Datetime.microsPerSecond]

/-- A row every second. -/
def steadyRows (n : Nat) : List (SourceRow Int) :=
  (List.range n).map fun k => ⟨Datetime.seconds (k + 1), fun _ => 0, fun _ => 0⟩

/-- A service without pacing that is given the commands, over `n` rows. -/
def unpacedReplay (hasStore : Bool) (n : Nat) (commands : List (UUID × ReplayAction)) :
    ReplayServiceConfig Int where
  source := ⟨1, 1, steadyRows n⟩
  enablePacing := false
  hasStore
  commands := commands.map fun (session, action) =>
    ⟨session, .ok ⟨replayCommand session action, replayCommand_valid session action⟩⟩

/-- Equal stamps. -/
def replayStamp : ServiceStamp := ⟨0, 0, ⟨0⟩⟩

end IndustrialReliability
