import IndustrialReliability.Replay.Coherence
import Mathlib.Algebra.Order.Field.Rat
import Mathlib.Tactic.NormNum

/-!
Replay pacing and the speed of the session.

`PacedReplay` watches a replay service: the speed of the latest START or RESUME
accepted for each session, the event the running task let through last, and the
delay requested before each event after it. A delay follows the speed when the task
was begun by a START and the latest accepted speed is that of this START
(`SpeedKept`), and only then (`pacing_follows_speed_iff`): a running task keeps the
speed it was started with, and a task resumed from a checkpoint requests no delay.
-/

namespace IndustrialReliability

variable {F : Type}

/-- A delay requested before an event, and what it is to be compared with. -/
structure DelayRequest where
  session : UUID
  /-- The source timestamp of the event before it. -/
  previous : Int
  current : Int
  /-- The speed of the latest START or RESUME accepted for the session. -/
  speed : Option Int
  /-- The argument of `asyncio.sleep`, if it was called. -/
  delay : Option ℚ
deriving DecidableEq, Repr

/-- The delay is that of the latest accepted speed. -/
def DelayRequest.FollowsSpeed (request : DelayRequest) : Prop :=
  ∃ speed ∈ request.speed, ∃ delay ∈ request.delay,
    paceSeconds request.previous request.current speed = .ok delay

/-- A replay service and what has been seen of it. -/
structure PacedReplay (F : Type) where
  service : ReplayService F
  speeds : UUID → Option Int
  /-- The source timestamp of the last event the running task let through. -/
  previous : Option Int
  /-- The delays requested, the latest first. -/
  requests : List DelayRequest

namespace PacedReplay

def initial : PacedReplay F where
  service := .initial
  speeds _ := none
  previous := none
  requests := []

/-- The command the loop has just accepted: it is about to publish its status. -/
def accepted (service : ReplayService F) : Option ReplayCommandV1 :=
  match service.phase with
  | .publishing (.status command status) =>
      if status.state = ReplayController.stateAfter command.action then some command else none
  | _ => none

/-- The event a stretch of the task let through to its publication, and the delay it
requested for it. -/
def letThrough : TaskPhase F → TaskPhase F → Option (TelemetryEventV1 F × Option ℚ)
  | .sleeping _ _, _ => none
  | _, .sleeping event delay => some (event, some delay)
  | _, .publishing event => some (event, none)
  | _, _ => none

/-- The timestamp of the event being published, or else the one before. -/
def previousAfter (previous : Option Int) : TaskPhase F → Option Int
  | .publishing event => some event.sourceTimestamp
  | _ => previous

/-- A record has been fetched. -/
def afterFetch (s : PacedReplay F) (service : ReplayService F) : PacedReplay F :=
  match accepted service with
  | none => { s with service }
  | some command =>
      match command.action with
      | .start => { s with
          service
          speeds := Function.update s.speeds command.replaySessionId (some command.speed)
          previous := none }
      | .resume => { s with
          service
          speeds := Function.update s.speeds command.replaySessionId (some command.speed) }
      | _ => { s with service }

/-- A stretch of the task has been run. -/
def afterTaskRun (s : PacedReplay F) (service : ReplayService F) : PacedReplay F :=
  match s.service.active, service.active with
  | some before, some after => { s with
      service
      previous := previousAfter s.previous after.task.phase
      requests :=
        match letThrough before.task.phase after.task.phase, s.previous with
        | some (event, delay), some previous =>
            { session := after.controller.sessionId
              previous
              current := event.sourceTimestamp
              speed := s.speeds after.controller.sessionId
              delay } :: s.requests
        | _, _ => s.requests }
  | _, _ => { s with service }

variable [PyFloat F] [Uuid5]

def step (config : ReplayServiceConfig F) (s : PacedReplay F) (action : ReplayServiceAction) :
    Option (PacedReplay F) :=
  (ReplayService.step config s.service action).map fun service =>
    match action with
    | .fetch _ _ => s.afterFetch service
    | .taskRun _ _ => s.afterTaskRun service
    -- A task resumed from a checkpoint has let no event through.
    | .restart _ => { s with service, previous := none }
    | _ => { s with service }

/-- The event that the next stretch of the task lets through, and the task then. -/
def released (config : ReplayServiceConfig F) (stamp : ServiceStamp) (session : RunningSession F) :
    Option (TelemetryEventV1 F × ReplayTask F) :=
  if session.stopEvent then none
  else
    match session.task.phase with
    | .waiting event true => some (event, session.task)
    | .ready =>
        if session.pauseEvent then
          match session.task.events with
          | .ok it =>
              match config.source.next session.task.command stamp.emittedAt it with
              | .ok (some (event, rest)) => some (event, { session.task with events := .ok rest })
              | _ => none
          | .error _ => none
        else none
    | _ => none

/-- An event after the first of a task is let through only by a task that a START began
and whose speed is still the latest accepted for the session. -/
def SpeedKept (config : ReplayServiceConfig F) (s : PacedReplay F) (action : ReplayServiceAction) :
    Prop :=
  ∀ stamp fault session, action = .taskRun stamp fault → s.service.active = some session →
    (released config stamp session).isSome → s.previous.isSome →
    session.task.resumed = false ∧
      s.speeds session.controller.sessionId = some session.task.ctrl.speed

/-! ### Tasks that go forward in time -/

/-- The phases in which a task has an event at hand that it has not let through, or
sleeps before it. -/
inductive Holding : TaskPhase F → TelemetryEventV1 F → Prop where
  | waiting (event : TelemetryEventV1 F) (woken : Bool) : Holding (.waiting event woken) event
  | sleeping (event : TelemetryEventV1 F) (delay : ℚ) : Holding (.sleeping event delay) event

/-- The event lies between the last one let through and the rows to come. -/
structure EventAhead (previous : Option Int) (task : ReplayTask F) (event : TelemetryEventV1 F) :
    Prop where
  after : ∀ prev ∈ previous, prev < event.sourceTimestamp
  before : ∀ it, task.events = .ok it → ∀ row ∈ it.rows, event.sourceTimestamp < row.timestamp

/-- A task begun by a START: its last event is the one seen, and the rows to come ascend
from it. -/
structure TaskOrdered (previous : Option Int) (task : ReplayTask F) : Prop where
  last : task.prevTimestamp = previous
  speed : task.ctrl.speed = 1 ∨ task.ctrl.speed = 100 ∨ task.ctrl.speed = 1000
  increasing : ∀ it, task.events = .ok it → it.rows.Pairwise fun a b => a.timestamp < b.timestamp
  ahead : ∀ prev ∈ previous, ∀ it, task.events = .ok it → ∀ row ∈ it.rows, prev < row.timestamp
  held : ∀ event, Holding task.phase event → EventAhead previous task event

/-- What is known of a task, if a START began it. -/
def TaskPaces (previous : Option Int) (task : ReplayTask F) : Prop :=
  task.resumed = false → TaskOrdered previous task

/-- What holds in every state. -/
structure Paces (config : ReplayServiceConfig F) (s : PacedReplay F) : Prop where
  coherent : s.service.Coherent config
  task : ∀ session, s.service.active = some session → TaskPaces s.previous session.task

section Tasks

variable {config : ReplayServiceConfig F} {stamp : ServiceStamp} {session : RunningSession F}
  {previous : Option Int} {task task' : ReplayTask F} {event : TelemetryEventV1 F}

omit [PyFloat F] [Uuid5] in
/-- A phase that holds no other event changes nothing. -/
theorem TaskOrdered.setPhase (ordered : TaskOrdered previous task) {phase : TaskPhase F}
    (holds : ∀ event, Holding phase event → EventAhead previous task event) :
    TaskOrdered previous { task with phase } :=
  ⟨ordered.last, ordered.speed, ordered.increasing, ordered.ahead,
    fun event holding => ⟨(holds event holding).after, (holds event holding).before⟩⟩

omit [PyFloat F] [Uuid5] in
theorem TaskPaces.setPhase (paces : TaskPaces previous task) {phase : TaskPhase F}
    (holds : ∀ event, ¬ Holding phase event) : TaskPaces previous { task with phase } :=
  fun initial => (paces initial).setPhase fun event holding => absurd holding (holds event)

omit [PyFloat F] [Uuid5] in
theorem TaskPaces.advance (paces : TaskPaces previous task) (event : TelemetryEventV1 F) :
    TaskPaces previous (task.advance event) := by
  intro initial
  have ordered := paces initial
  exact ⟨ordered.last, ordered.speed, ordered.increasing, ordered.ahead, fun other holding =>
    ⟨(ordered.held other holding).after, (ordered.held other holding).before⟩⟩

omit [PyFloat F] [Uuid5] in
theorem TaskPaces.wake (paces : TaskPaces previous task) : TaskPaces previous task.wake := by
  intro initial
  have ordered := paces initial
  refine ordered.setPhase fun event holding => ordered.held event ?_
  cases phase : task.phase with
  | waiting other woken =>
      rw [phase] at holding
      cases holding
      exact .waiting _ _
  | waitingAtEnd woken =>
      rw [phase] at holding
      cases holding
  | _ =>
      rw [phase] at holding
      exact holding

/-- An event yielded comes from the first row to come. -/
theorem TaskOrdered.yield {rest : EventIterator F} (ordered : TaskOrdered previous session.task)
    (yields : ReplayService.Yields config stamp session event rest) :
    EventAhead previous { session.task with events := .ok rest } event ∧
      ∀ phase, (∀ other, Holding phase other → other = event) →
        TaskOrdered previous { session.task with events := .ok rest, phase } := by
  obtain ⟨it, events, next⟩ := yields
  have increasing := ordered.increasing it events
  unfold ReplaySource.next at next
  cases rows : it.rows with
  | nil =>
      rw [rows] at next
      cases next
  | cons row later =>
      rw [rows] at next increasing
      dsimp only at next
      cases made : construct (config.source.event session.task.command it.sequence stamp.emittedAt row) with
      | error e =>
          rw [made] at next
          cases next
      | ok checked =>
          rw [made] at next
          cases next
          obtain ⟨-, rfl⟩ := construct_eq_ok_iff.mp made
          obtain ⟨first, tail⟩ := List.pairwise_cons.mp increasing
          have ahead : EventAhead previous
              { session.task with events := .ok ⟨later, it.sequence + 1⟩ }
              (config.source.event session.task.command it.sequence stamp.emittedAt row) := by
            constructor
            · exact fun prev mem => ordered.ahead prev mem it events row (by simp [rows])
            · rintro it' same row' mem
              cases same
              exact first row' mem
          refine ⟨ahead, fun phase holds => ⟨ordered.last, ordered.speed, ?_, ?_, ?_⟩⟩
          · rintro it' same
            cases same
            exact tail
          · rintro prev mem it' same row' its
            cases same
            exact ordered.ahead prev mem it events row' (by simp [rows, its])
          · rintro other holding
            obtain rfl := holds other holding
            exact ⟨ahead.after, ahead.before⟩

/-- A task that has got past the pause has its event ahead. -/
theorem TaskOrdered.taken (ordered : TaskOrdered previous session.task)
    (taken : ReplayService.Taken config stamp session event task) :
    EventAhead previous task event ∧
      ∀ phase, (∀ other, Holding phase other → other = event) →
        TaskOrdered previous { task with phase } := by
  cases taken with
  | fresh ready yields pausing => exact ordered.yield yields
  | woken waiting =>
      have ahead := ordered.held event (waiting ▸ .waiting event true)
      refine ⟨ahead, fun phase holds => ordered.setPhase fun other holding => ?_⟩
      obtain rfl := holds other holding
      exact ahead

omit [PyFloat F] [Uuid5] in
/-- A task that publishes an event has that one as its last. -/
theorem TaskOrdered.publish (initial : task.resumed = false)
    (ordered : TaskOrdered previous { task with phase := .ready })
    (ahead : EventAhead previous task event) :
    TaskOrdered (some event.sourceTimestamp) (task.publish event) := by
  unfold ReplayTask.publish
  rw [if_neg (by simp [initial])]
  refine ⟨rfl, ordered.speed, ordered.increasing, ?_, nofun⟩
  rintro prev mem it events row its
  obtain rfl : event.sourceTimestamp = prev := Option.some.inj mem
  exact ahead.before it events row its

/-- A stretch of the task keeps what is known of it. -/
theorem TaskPaces.moves {fault : Option Bool} {s s' : ReplayService F}
    (paces : TaskPaces previous session.task)
    (moves : ReplayService.TaskMoves config stamp session fault s s') :
    ∃ after, s'.active = some after ∧ after.controller = session.controller ∧
      TaskPaces (previousAfter previous after.task.phase) after.task := by
  have published : ∀ {event : TelemetryEventV1 F} {task : ReplayTask F},
      (task.resumed = false → EventAhead previous task event ∧
        TaskOrdered previous { task with phase := .ready }) →
      TaskPaces (previousAfter previous (task.publish event).phase) (task.publish event) := by
    intro event task known initial
    obtain ⟨-, -, phase⟩ := ReplayService.publish_frame task event
    have begun : task.resumed = false := by
      unfold ReplayTask.publish at initial
      split at initial
      · exact initial
      · exact initial
    obtain ⟨ahead, ordered⟩ := known begun
    rw [phase]
    exact .publish begun ordered ahead
  cases moves with
  | raises _ _ => exact ⟨_, rfl, rfl, paces.setPhase nofun⟩
  | waitsAtEnd _ _ _ => exact ⟨_, rfl, rfl, paces.setPhase nofun⟩
  | waits _ yields _ _ =>
      refine ⟨_, rfl, rfl, fun initial => ((paces initial).yield yields).2 _ ?_⟩
      rintro other ⟨⟩
      rfl
  | stopsEarly _ yields _ _ =>
      exact ⟨_, rfl, rfl, fun initial => ((paces initial).yield yields).2 _ nofun⟩
  | stops taken _ =>
      obtain ⟨-, -, resumed, -⟩ := taken.frame
      exact ⟨_, rfl, rfl, fun initial => ((paces (resumed ▸ initial)).taken taken).2 _ nofun⟩
  | sleeps delay taken _ _ =>
      obtain ⟨-, -, resumed, -⟩ := taken.frame
      refine ⟨_, rfl, rfl, fun initial => ((paces (resumed ▸ initial)).taken taken).2 _ ?_⟩
      rintro other ⟨⟩
      rfl
  | paceFails taken _ _ _ _ =>
      obtain ⟨-, -, resumed, -⟩ := taken.frame
      exact ⟨_, rfl, rfl, fun initial => ((paces (resumed ▸ initial)).taken taken).2 _ nofun⟩
  | publishes taken _ =>
      obtain ⟨-, -, resumed, -⟩ := taken.frame
      refine ⟨_, rfl, rfl, published fun initial => ?_⟩
      obtain ⟨ahead, ordered⟩ := (paces (resumed ▸ initial)).taken taken
      exact ⟨ahead, ordered _ nofun⟩
  | wakes sleeping =>
      refine ⟨_, rfl, rfl, published fun initial => ?_⟩
      have ordered := paces initial
      exact ⟨ordered.held _ (sleeping ▸ .sleeping _ _), ordered.setPhase nofun⟩
  | stopsAtEnd _ _ => exact ⟨_, rfl, rfl, paces.setPhase nofun⟩
  | completes _ _ _ => exact ⟨_, rfl, rfl, paces.setPhase nofun⟩
  | completeFails _ _ _ => exact ⟨_, rfl, rfl, paces.setPhase nofun⟩
  | records _ _ => exact ⟨_, rfl, rfl, (paces.advance _).setPhase nofun⟩
  | recordFails _ _ => exact ⟨_, rfl, rfl, (paces.advance _).setPhase nofun⟩
  | fails _ _ => exact ⟨_, rfl, rfl, paces.setPhase nofun⟩
  | failFails _ _ => exact ⟨_, rfl, rfl, paces.setPhase nofun⟩
  | ends _ => exact ⟨_, rfl, rfl, paces.setPhase nofun⟩

omit [PyFloat F] [Uuid5] in
/-- Stopping only wakes the task. -/
theorem task_of_beginStop {s : ReplayService F} {after : RunningSession F}
    (active : s.beginStop.active = some after) : ∃ before, s.active = some before ∧
      (after.task = before.task ∨ after.task = before.task.wake) := by
  obtain ⟨before, held, ⟨-, rfl⟩ | ⟨-, rfl⟩⟩ := ReplayService.beginStop_active active
  · exact ⟨after, held, .inl rfl⟩
  · exact ⟨before, held, .inr rfl⟩

omit [PyFloat F] in
theorem accepted_publishStatus (stamp : ServiceStamp) (command : ReplayCommandV1)
    (ctrl : ReplayController) (s : ReplayService F) :
    accepted (s.publishStatus stamp command ctrl) =
      if ctrl.state = ReplayController.stateAfter command.action then some command else none := rfl

omit [PyFloat F] in
/-- A START answered with a failure is not accepted. -/
theorem accepted_failed {command : ReplayCommandV1} {ctrl : ReplayController} (s : ReplayService F)
    (start : command.action = .start) (failed : ctrl.state = .failed) :
    accepted (s.publishStatus stamp command ctrl) = none := by
  rw [accepted_publishStatus, if_neg]
  rw [failed, start]
  nofun

omit [PyFloat F] [Uuid5] in
theorem active_of_updated {origin : Origin} {fault : Option Bool} {id : UUID} {state : ReplayState}
    {s s' : ReplayService F} {raised : Bool}
    (updated : ReplayService.Updated config origin fault id state s s' raised) :
    s'.active = s.active := by
  cases updated with
  | missing _ => rfl
  | found _ written => exact written.frame.2.1

omit [PyFloat F] [Uuid5] in
/-- Where nothing is accepted no START is. -/
theorem not_start_of_none {s : ReplayService F} (nothing : accepted s = none)
    (command : ReplayCommandV1) (held : accepted s = some command) : command.action ≠ .start := by
  rw [nothing] at held
  cases held

/-- What a fetched record does to the task: a START that is accepted begins one, and
whatever else happens only wakes the one there is. -/
theorem fetch_task {fault : Option Bool} {s s' : ReplayService F}
    (moves : ReplayService.Moves config s (.fetch stamp fault) s') :
    (∃ command ctrl, accepted s' = some command ∧ command.action = .start ∧ Valid command ∧
      (ReplayController.created command.replaySessionId command.sourceDatasetSha256
        command.contractSha256).apply command = .ok ctrl ∧
      s'.active = some ⟨ctrl, ReplayService.initialTask config stamp ctrl, true, false⟩) ∨
    ((∀ command, accepted s' = some command → command.action ≠ .start) ∧
      ∀ after, s'.active = some after → ∃ before, s.active = some before ∧
        (after.task = before.task ∨ after.task = before.task.wake)) := by
  cases moves with
  | undecodable record _ _ _ => exact .inr ⟨not_start_of_none rfl, fun after active => ⟨after, active, .inl rfl⟩⟩
  | refusedActive _ _ _ start _ =>
      exact .inr ⟨not_start_of_none (accepted_failed _ start rfl),
        fun after active => ⟨after, active, .inl rfl⟩⟩
  | refusedIdentity _ _ _ start _ _ =>
      exact .inr ⟨not_start_of_none (accepted_failed _ start rfl),
        fun after active => ⟨after, active, .inl rfl⟩⟩
  | startFails _ _ _ _ _ _ _ written =>
      refine .inr ⟨not_start_of_none rfl, fun after active => ?_⟩
      obtain ⟨before, held, same⟩ := task_of_beginStop active
      exact ⟨before, written.frame.2.1.symm.trans held, same⟩
  | @starts _ _ _ command _ ctrl _ _ _ start _ _ _ _ applied =>
      refine .inl ⟨command.val, ctrl, ?_, start, command.property, applied, rfl⟩
      rw [accepted_publishStatus, if_pos (ReplayController.apply_eq_ok applied).state]
  | ignored _ _ _ _ _ => exact .inr ⟨not_start_of_none rfl, fun after active => ⟨after, active, .inl rfl⟩⟩
  | illegal _ _ _ _ _ _ _ => exact .inr ⟨not_start_of_none rfl, fun after active => task_of_beginStop active⟩
  | controlFails _ _ _ _ _ _ _ updated =>
      refine .inr ⟨not_start_of_none rfl, fun after active => ?_⟩
      obtain ⟨before, held, same⟩ := task_of_beginStop active
      have unchanged := active_of_updated updated
      exact ⟨before, unchanged.symm.trans held, same⟩
  | @controls _ _ _ command session ctrl _ _ _ _ control live _ _ _ =>
      refine .inr ⟨fun other same => ?_, fun after active => ?_⟩
      · rw [accepted_publishStatus] at same
        split at same
        · cases same
          exact control
        · cases same
      · obtain rfl := Option.some.inj active
        refine ⟨session, (ReplayService.live_eq_some_iff.mp live).1, ?_⟩
        cases command.val.action with
        | start => exact .inl rfl
        | pause => exact .inl rfl
        | resume => exact .inr rfl
        | stop => exact .inr rfl

omit [PyFloat F] [Uuid5] in
/-- A START sets the speed of the controller. -/
theorem speed_of_start {command : ReplayCommandV1} {ctrl ctrl' : ReplayController}
    (start : command.action = .start) (applied : ctrl.apply command = .ok ctrl') :
    ctrl'.speed = command.speed := by
  have result := ReplayController.apply_eq_ok applied
  unfold ReplayController.apply at applied
  rw [if_neg (not_not.mpr result.session), if_neg (not_not.mpr result.allowed), start] at applied
  cases applied
  rfl

omit [PyFloat F] [Uuid5] in
/-- A START begins a task that goes forward from the start of its range. -/
theorem initialTask_paces {command : ReplayCommandV1} {ctrl : ReplayController}
    (valid : Valid command) (start : command.action = .start)
    (applied : (ReplayController.created command.replaySessionId command.sourceDatasetSha256
      command.contractSha256).apply command = .ok ctrl) :
    TaskPaces none (ReplayService.initialTask config stamp ctrl) := by
  intro _
  refine ⟨rfl, ?_, ?_, nofun, nofun⟩
  · have allowed : decide (command.speed = 1 ∨ command.speed = 100 ∨ command.speed = 1000) = true :=
      valid _ List.mem_cons_self
    rw [ReplayService.initialTask, speed_of_start start applied]
    exact of_decide_eq_true allowed
  · intro it events
    obtain ⟨_, _, _, _, increasing, rfl⟩ := ReplaySource.iterEvents_eq_ok_iff.mp events
    exact increasing

end Tasks

section Steps

variable {config : ReplayServiceConfig F} {s s' : PacedReplay F} {action : ReplayServiceAction}

omit [PyFloat F] [Uuid5] in
theorem paces_initial (config : ReplayServiceConfig F) : Paces config .initial where
  coherent := ReplayService.coherent_initial config
  task session active := by cases active

omit [PyFloat F] [Uuid5] in
/-- A step of the service that changes no more than the phase of the task. -/
theorem Paces.kept (paces : Paces config s) {service : ReplayService F}
    (coherent : service.Coherent config)
    (task : ∀ after, service.active = some after → ∃ before, s.service.active = some before ∧
      (after.task = before.task ∨ after.task = before.task.wake ∨
        ∃ phase, (∀ event, ¬ Holding phase event) ∧ after.task = { before.task with phase })) :
    Paces config { s with service } := by
  refine ⟨coherent, fun after active => ?_⟩
  obtain ⟨before, held, same⟩ := task after active
  have known := paces.task before held
  rcases same with same | same | ⟨phase, none, same⟩
  · rw [same]
    exact known
  · rw [same]
    exact known.wake
  · rw [same]
    exact known.setPhase none

/-- What is known of a service that has fetched a record. -/
theorem Paces.fetch {stamp : ServiceStamp} {fault : Option Bool} {service : ReplayService F}
    (paces : Paces config s) (coherent : service.Coherent config)
    (moves : ReplayService.Moves config s.service (.fetch stamp fault) service) :
    Paces config (s.afterFetch service) := by
  have kept (notStart : ∀ command, accepted service = some command → command.action ≠ .start)
      (task : ∀ after, service.active = some after → ∃ before, s.service.active = some before ∧
        (after.task = before.task ∨ after.task = before.task.wake)) :
      ∀ after, service.active = some after → TaskPaces s.previous after.task := by
    intro after active
    obtain ⟨before, held, same | same⟩ := task after active
    · rw [same]
      exact paces.task before held
    · rw [same]
      exact (paces.task before held).wake
  rcases fetch_task moves with ⟨command, ctrl, taken, start, valid, applied, active⟩ |
    ⟨notStart, task⟩
  · unfold afterFetch
    rw [taken]
    dsimp only
    rw [start]
    refine ⟨coherent, fun after held => ?_⟩
    obtain rfl := Option.some.inj (active.symm.trans held)
    exact initialTask_paces valid start applied
  · have known := kept notStart task
    unfold afterFetch
    cases taken : accepted service with
    | none => exact ⟨coherent, known⟩
    | some command =>
        dsimp only
        cases action : command.action with
        | start => exact absurd action (notStart command taken)
        | pause => exact ⟨coherent, known⟩
        | resume => exact ⟨coherent, known⟩
        | stop => exact ⟨coherent, known⟩

/-- What is known of a service whose task has run. -/
theorem Paces.taskRun {stamp : ServiceStamp} {fault : Option Bool} {service : ReplayService F}
    {session : RunningSession F} (paces : Paces config s) (coherent : service.Coherent config)
    (active : s.service.active = some session)
    (moves : ReplayService.TaskMoves config stamp session fault s.service service) :
    Paces config (s.afterTaskRun service) := by
  obtain ⟨after, held, -, known⟩ := (paces.task session active).moves moves
  unfold afterTaskRun
  rw [active, held]
  refine ⟨coherent, fun other same => ?_⟩
  obtain rfl := Option.some.inj (held.symm.trans same)
  exact known

/-- What is known of a service that has been started. -/
theorem Paces.restart {loadFails : Bool} {service : ReplayService F} (paces : Paces config s)
    (coherent : service.Coherent config)
    (moves : ReplayService.Moves config s.service (.restart loadFails) service) :
    Paces config { s with service, previous := none } := by
  refine ⟨coherent, fun after active => ?_⟩
  have left (down : s.service.phase = .down) (active : s.service.active = some after) : False := by
    rw [paces.coherent.down down] at active
    cases active
  cases moves with
  | staysDown down => exact (left down active).elim
  | comesUp down _ => exact (left down active).elim
  | resumes _ _ _ _ =>
      obtain rfl := Option.some.inj active
      nofun

/-- Every step keeps what is known. -/
theorem Paces.step (paces : Paces config s) (taken : step config s action = some s') :
    Paces config s' := by
  obtain ⟨service, ran, rfl⟩ := Option.map_eq_some_iff.mp taken
  have moves := ReplayService.step_moves ran
  have coherent := paces.coherent.moves moves
  have stopping : ∀ after, s.service.beginStop.active = some after →
      ∃ before, s.service.active = some before ∧
        (after.task = before.task ∨ after.task = before.task.wake ∨
          ∃ phase, (∀ event, ¬ Holding phase event) ∧ after.task = { before.task with phase }) := by
    intro after active
    obtain ⟨before, held, same | same⟩ := task_of_beginStop active
    · exact ⟨before, held, .inl same⟩
    · exact ⟨before, held, .inr (.inl same)⟩
  have rephased : ∀ {session : RunningSession F} {phase : TaskPhase F},
      s.service.active = some session → (∀ event, ¬ Holding phase event) → ∀ after,
      some { session with task := { session.task with phase } } = some after →
      ∃ before, s.service.active = some before ∧
        (after.task = before.task ∨ after.task = before.task.wake ∨
          ∃ phase, (∀ event, ¬ Holding phase event) ∧ after.task = { before.task with phase }) := by
    rintro session phase active none after ⟨⟩
    exact ⟨session, active, .inr (.inr ⟨phase, none, rfl⟩)⟩
  cases action with
  | fetch stamp fault => exact paces.fetch coherent moves
  | taskRun stamp fault =>
      cases moves with
      | task active moves => exact paces.taskRun coherent active moves
  | restart loadFails => exact paces.restart coherent moves
  | mainPublish fault =>
      refine paces.kept coherent ?_
      cases moves with
      | publishes _ => exact fun after active => ⟨after, active, .inl rfl⟩
      | publishRaises _ => exact stopping
      | publishLost _ => exact stopping
  | commit fault =>
      refine paces.kept coherent ?_
      cases moves with
      | commits _ => exact fun after active => ⟨after, active, .inl rfl⟩
      | commitFails _ _ _ => exact stopping
  | taskPublish fault =>
      refine paces.kept coherent ?_
      cases moves with
      | telemetrySent active _ => exact rephased active nofun
      | telemetryRaises active _ => exact rephased active nofun
      | telemetryLost active _ => exact rephased active nofun
      | statusSent active _ => exact rephased active nofun
      | @statusRaises _ _ inHandler active _ =>
          refine rephased active ?_
          cases inHandler <;> nofun
      | @statusLost _ _ inHandler active _ =>
          refine rephased active ?_
          cases inHandler <;> nofun
  | shutdown =>
      refine paces.kept coherent ?_
      cases moves with
      | shutsDown _ _ => exact stopping
  | exit =>
      refine paces.kept coherent ?_
      cases moves with
      | exits _ =>
          intro after active
          cases active
  | crash =>
      refine paces.kept coherent ?_
      cases moves with
      | crashes _ =>
          intro after active
          cases active

end Steps

/-! ### The delays requested -/

section Requests

variable {config : ReplayServiceConfig F} {stamp : ServiceStamp} {fault : Option Bool}
  {session : RunningSession F} {event : TelemetryEventV1 F} {task : ReplayTask F}

/-- A task that lets an event through has got past the pause with it. -/
theorem taken_of_released (through : released config stamp session = some (event, task)) :
    ReplayService.Taken config stamp session event task ∧ session.stopEvent = false := by
  unfold released at through
  split at through
  · cases through
  · rename_i running
    refine ⟨?_, by simpa using running⟩
    split at through
    · rename_i woken
      cases through
      exact .woken woken
    · rename_i ready
      split at through
      · rename_i going
        split at through
        · rename_i it events
          split at through
          · rename_i next
            cases through
            exact .fresh ready ⟨it, events, next⟩ going
          · cases through
        · cases through
      · cases through
    · cases through

/-- A task that gets past the pause and is not stopped lets its event through. -/
theorem released_of_taken (taken : ReplayService.Taken config stamp session event task)
    (running : session.stopEvent = false) :
    released config stamp session = some (event, task) := by
  unfold released
  rw [if_neg (by simp [running])]
  cases taken with
  | fresh ready yields going =>
      obtain ⟨it, events, next⟩ := yields
      simp only [ready, going, events, next, if_true]
  | woken waiting => simp only [waiting]

/-- A stretch that lets an event through is what follows the pause. -/
theorem taskRun_released {s service : ReplayService F} (active : s.active = some session)
    (through : released config stamp session = some (event, task))
    (ran : s.taskRun config stamp fault = some service) :
    service.active = some { session with task := task.proceed config.enablePacing false event } := by
  obtain ⟨taken, running⟩ := taken_of_released through
  unfold ReplayService.taskRun at ran
  rw [active] at ran
  cases taken with
  | fresh ready yields going =>
      obtain ⟨it, events, next⟩ := yields
      dsimp only at ran
      rw [ready] at ran
      cases ran
      unfold ReplayService.takeNext
      simp only [events, next, running, going, if_true, Bool.false_eq_true, false_and, if_false]
  | woken waiting =>
      dsimp only at ran
      rw [waiting] at ran
      cases ran
      rw [running]

omit [PyFloat F] [Uuid5] in
/-- Only a task that sleeps or publishes has let an event through. -/
theorem letThrough_eq_none {before after : TaskPhase F}
    (awake : ∀ event delay, after ≠ .sleeping event delay)
    (silent : ∀ event, after ≠ .publishing event) : letThrough before after = none := by
  unfold letThrough
  split
  · rfl
  · exact absurd rfl (awake _ _)
  · exact absurd rfl (silent _)
  · rfl

/-- Any other stretch lets none through. -/
theorem taskMoves_unreleased {s service : ReplayService F} {after : RunningSession F}
    (unreleased : released config stamp session = none)
    (moves : ReplayService.TaskMoves config stamp session fault s service)
    (active : service.active = some after) :
    letThrough session.task.phase after.task.phase = none := by
  have stopped : ∀ {event : TelemetryEventV1 F} {task : ReplayTask F},
      ReplayService.Taken config stamp session event task → session.stopEvent ≠ false := by
    intro event task taken running
    rw [released_of_taken taken running] at unreleased
    cases unreleased
  cases moves with
  | sleeps _ taken running _ => exact absurd running (stopped taken)
  | publishes taken running => exact absurd running (stopped taken)
  | paceFails taken running _ _ _ => exact absurd running (stopped taken)
  | wakes sleeping =>
      rw [sleeping]
      rfl
  | _ =>
      cases active
      exact letThrough_eq_none nofun nofun

omit [PyFloat F] [Uuid5] in
/-- Two speeds that give one delay are the same. -/
theorem paceSeconds_speed_unique {previous current speed speed' : Int} {delay : ℚ}
    (paced : paceSeconds previous current speed = .ok delay)
    (paced' : paceSeconds previous current speed' = .ok delay) : speed = speed' := by
  unfold paceSeconds at paced paced'
  split at paced
  · cases paced
  · rename_i allowed
    split at paced'
    · cases paced'
    · have later : previous < current := by
        rw [not_or, not_le] at allowed
        exact allowed.2
      have elapsed : ((current - previous : Int) : ℚ) / Datetime.microsPerSecond ≠ 0 := by
        refine div_ne_zero ?_ (by norm_num [Datetime.microsPerSecond])
        exact_mod_cast (sub_pos.mpr later).ne'
      have same := (Except.ok.inj paced).trans (Except.ok.inj paced').symm
      rw [div_eq_mul_inv _ (speed : ℚ), div_eq_mul_inv _ (speed' : ℚ)] at same
      exact_mod_cast inv_inj.mp (mul_left_cancel₀ elapsed same)

omit [PyFloat F] [Uuid5] in
/-- A later event at an allowed speed has a delay, and it is positive. -/
theorem exists_paceSeconds {previous current speed : Int} (later : previous < current)
    (allowed : speed = 1 ∨ speed = 100 ∨ speed = 1000) :
    ∃ delay, paceSeconds previous current speed = .ok delay ∧ 0 < delay := by
  refine ⟨(current - previous : Int) / (Datetime.microsPerSecond : ℚ) / speed, ?_, ?_⟩
  · unfold paceSeconds
    rw [if_neg (by simp [allowed, later])]
  · have elapsed : (0 : ℚ) < (current - previous : Int) := by exact_mod_cast sub_pos.mpr later
    have speedy : (0 : ℚ) < speed := by
      have positive : 0 < speed := by omega
      exact_mod_cast positive
    have micros : (0 : ℚ) < (Datetime.microsPerSecond : ℚ) := by norm_num [Datetime.microsPerSecond]
    exact div_pos (div_pos elapsed micros) speedy

omit [PyFloat F] [Uuid5] in
/-- A delay at an allowed speed follows the latest accepted one when they are the same. -/
theorem followsSpeed_iff {request : DelayRequest} {speed : Int} {delay : ℚ}
    (paced : paceSeconds request.previous request.current speed = .ok delay)
    (requested : request.delay = some delay) :
    request.FollowsSpeed ↔ request.speed = some speed := by
  constructor
  · rintro ⟨latest, held, other, asked, paced'⟩
    obtain rfl : delay = other := Option.some.inj (requested.symm.trans asked)
    rw [paceSeconds_speed_unique paced paced']
    exact held
  · intro held
    exact ⟨speed, held, delay, requested, paced⟩

omit [PyFloat F] [Uuid5] in
/-- A request of no delay follows no speed. -/
theorem not_followsSpeed {request : DelayRequest} (unasked : request.delay = none) :
    ¬ request.FollowsSpeed := by
  rintro ⟨_, _, delay, asked, _⟩
  rw [unasked] at asked
  cases asked

omit [PyFloat F] [Uuid5] in
/-- A task that a START began sleeps before an event behind another one. -/
theorem proceed_sleeps {prev : Int} (initial : task.resumed = false)
    (last : task.prevTimestamp = some prev) (later : prev < event.sourceTimestamp)
    (allowed : task.ctrl.speed = 1 ∨ task.ctrl.speed = 100 ∨ task.ctrl.speed = 1000) :
    ∃ delay, (task.proceed true false event).phase = .sleeping event delay ∧
      paceSeconds prev event.sourceTimestamp task.ctrl.speed = .ok delay := by
  obtain ⟨delay, paced, positive⟩ := exists_paceSeconds later allowed
  refine ⟨delay, ?_, paced⟩
  unfold ReplayTask.proceed
  simp only [initial, last, later, paced, positive, Bool.false_eq_true, if_false, and_self, if_true]

omit [PyFloat F] [Uuid5] in
/-- A resumed task publishes the event at once. -/
theorem proceed_resumed (pacing : Bool) (resumed : task.resumed = true) :
    (task.proceed pacing false event).phase = .publishing event := by
  unfold ReplayTask.proceed
  rw [if_neg (by simp), if_pos resumed]
  exact (ReplayService.publish_frame task event).2.2

/-- A task that has got past the pause did not sleep. -/
theorem letThrough_taken {after : TaskPhase F}
    (taken : ReplayService.Taken config stamp session event task) :
    letThrough session.task.phase after = match after with
      | .sleeping event delay => some (event, some delay)
      | .publishing event => some (event, none)
      | _ => none := by
  cases taken with
  | fresh ready _ _ =>
      rw [ready]
      cases after <;> rfl
  | woken waiting =>
      rw [waiting]
      cases after <;> rfl

variable {s s' : PacedReplay F} {action : ReplayServiceAction}

/-- The condition on a stretch of the running task. -/
theorem speedKept_taskRun_iff (active : s.service.active = some session) :
    SpeedKept config s (.taskRun stamp fault) ↔
      ((released config stamp session).isSome → s.previous.isSome →
        session.task.resumed = false ∧
          s.speeds session.controller.sessionId = some session.task.ctrl.speed) := by
  constructor
  · intro kept
    exact kept stamp fault session rfl active
  · rintro kept _ _ other ⟨⟩ held
    obtain rfl := Option.some.inj (active.symm.trans held)
    exact kept

/-- The delays a stretch of the task requests follow the speed exactly when it is kept. -/
theorem requests_taskRun {service : ReplayService F} (pacing : config.enablePacing = true)
    (paces : Paces config s) (active : s.service.active = some session)
    (ran : s.service.taskRun config stamp fault = some service) :
    ∃ new, (s.afterTaskRun service).requests = new ++ s.requests ∧
      ((∀ request ∈ new, request.FollowsSpeed) ↔ SpeedKept config s (.taskRun stamp fault)) := by
  obtain ⟨before, held, moves⟩ := ReplayService.taskRun_moves ran
  obtain rfl := Option.some.inj (active.symm.trans held)
  obtain ⟨after, next, -, -⟩ := (paces.task session active).moves moves
  rw [speedKept_taskRun_iff active]
  unfold afterTaskRun
  rw [active, next]
  dsimp only
  cases through : released config stamp session with
  | none =>
      rw [taskMoves_unreleased through moves next]
      exact ⟨[], rfl, by simp⟩
  | some passed =>
      obtain ⟨event, task⟩ := passed
      obtain ⟨taken, -⟩ := taken_of_released through
      obtain ⟨-, ctrl, resumed, -⟩ := taken.frame
      obtain rfl := Option.some.inj (next.symm.trans (taskRun_released active through ran))
      dsimp only
      rw [letThrough_taken taken]
      cases previous : s.previous with
      | none =>
          refine ⟨[], ?_, by simp⟩
          split <;> simp_all
      | some prev =>
          rw [← resumed, ← ctrl]
          by_cases begun : task.resumed = true
          · rw [proceed_resumed _ begun]
            refine ⟨[_], rfl, iff_of_false ?_ ?_⟩
            · intro follows
              exact not_followsSpeed rfl (follows _ List.mem_cons_self)
            · intro kept
              have initial := (kept rfl rfl).1
              rw [begun] at initial
              cases initial
          · have initial : task.resumed = false := by simpa using begun
            have ordered := paces.task session active (resumed.symm.trans initial)
            obtain ⟨ahead, rephased⟩ := ordered.taken taken
            have known := rephased .ready nofun
            rw [previous] at ahead known
            obtain ⟨delay, sleeps, paced⟩ :=
              proceed_sleeps initial known.last (ahead.after prev rfl) known.speed
            rw [pacing, sleeps]
            refine ⟨[_], rfl, ?_⟩
            rw [List.forall_mem_singleton, followsSpeed_iff paced rfl]
            simp [initial]

omit [PyFloat F] [Uuid5] in
@[simp] theorem afterFetch_requests (s : PacedReplay F) (service : ReplayService F) :
    (s.afterFetch service).requests = s.requests := by
  unfold afterFetch
  split
  · rfl
  · split <;> rfl

/-- The delays a step requests follow the speed exactly when it is kept. -/
theorem requests_step (pacing : config.enablePacing = true) (paces : Paces config s)
    (taken : step config s action = some s') :
    ∃ new, s'.requests = new ++ s.requests ∧
      ((∀ request ∈ new, request.FollowsSpeed) ↔ SpeedKept config s action) := by
  obtain ⟨service, ran, rfl⟩ := Option.map_eq_some_iff.mp taken
  cases action with
  | taskRun stamp fault =>
      obtain ⟨session, active, -⟩ := ReplayService.taskRun_moves ran
      exact requests_taskRun pacing paces active ran
  | fetch stamp fault =>
      refine ⟨[], afterFetch_requests s service, ?_⟩
      simp [SpeedKept]
  | _ => exact ⟨[], rfl, by simp [SpeedKept]⟩

/-- Over a run, every delay it requests follows the speed exactly when every step keeps
it. -/
theorem requests_run (pacing : config.enablePacing = true) (paces : Paces config s)
    {as : List ReplayServiceAction} (run : Lib.Run (step config) Lib.Always s as s') :
    ∃ new, s'.requests = new ++ s.requests ∧
      ((∀ request ∈ new, request.FollowsSpeed) ↔
        Lib.Run (step config) (SpeedKept config) s as s') := by
  induction run with
  | nil s => exact ⟨[], rfl, by simp [Lib.Run.nil]⟩
  | @cons s s₁ s₂ action as _ taken rest ih =>
      obtain ⟨first, firstRequests, firstFollow⟩ := requests_step pacing paces taken
      obtain ⟨later, laterRequests, laterFollow⟩ := ih (paces.step taken)
      refine ⟨later ++ first, by rw [laterRequests, firstRequests, List.append_assoc], ?_⟩
      rw [List.forall_mem_append, firstFollow, laterFollow]
      constructor
      · rintro ⟨onwards, kept⟩
        exact .cons kept taken onwards
      · rintro (_ | ⟨kept, taken', onwards⟩)
        obtain rfl := Option.some.inj (taken.symm.trans taken')
        exact ⟨onwards, kept⟩

/-- In a paced service the delay before each event after the first of a task is that of
the latest accepted speed exactly in the runs that keep the speed. -/
theorem pacing_follows_speed_iff (pacing : config.enablePacing = true)
    {as : List ReplayServiceAction} (run : Lib.Run (step config) Lib.Always .initial as s') :
    (∀ request ∈ s'.requests, request.FollowsSpeed) ↔
      Lib.Run (step config) (SpeedKept config) .initial as s' := by
  obtain ⟨new, requests, follow⟩ := requests_run pacing (paces_initial config) run
  rw [requests, List.forall_mem_append, follow]
  simp [initial]

end Requests

/-! ### Concrete runs -/

/-- A paced service with a store that is given the commands, over `n` rows. -/
def pacedReplay (n : Nat) (commands : List (Checked ReplayCommandV1)) :
    ReplayServiceConfig Int where
  source := ⟨1, 1, steadyRows n⟩
  enablePacing := true
  hasStore := true
  commands := commands.map fun command => ⟨command.val.messageId, .ok command⟩

def startAtOne : Checked ReplayCommandV1 :=
  ⟨replayCommand 1 .start, replayCommand_valid 1 .start⟩

def pauseCommand : Checked ReplayCommandV1 :=
  ⟨replayCommand 1 .pause, replayCommand_valid 1 .pause⟩

def resumeAtThousand : Checked ReplayCommandV1 :=
  ⟨{ replayCommand 1 .resume with speed := 1000 }, by decide⟩

/-- The next command is handled and acknowledged. -/
def oneCommand : List ReplayServiceAction :=
  [.fetch replayStamp none, .mainPublish none, .commit none]

/-- The task publishes an event for which it does not sleep and records it. -/
def oneEvent : List ReplayServiceAction :=
  [.taskRun replayStamp none, .taskPublish none, .taskRun replayStamp none]

/-- The task sleeps before the second event. -/
def steadyRun : List ReplayServiceAction :=
  [.restart false] ++ oneCommand ++ oneEvent ++ [.taskRun replayStamp none]

/-- Two commands are handled after the first event. -/
def respeededRun : List ReplayServiceAction :=
  [.restart false] ++ oneCommand ++ oneEvent ++ oneCommand ++ oneCommand ++
    [.taskRun replayStamp none]

/-- The process crashes after the first event; the resumed task goes on to its second. -/
def crashedRun : List ReplayServiceAction :=
  [.restart false] ++ oneCommand ++ oneEvent ++ [.crash, .restart false] ++ oneEvent ++
    [.taskRun replayStamp none]

omit [Uuid5] in
/-- A second from one row to the next is a second of sleep at speed 1. -/
theorem steadyRun_keepsSpeed :
    letI := knownUuid5 []
    let config := pacedReplay 2 [startAtOne]
    ∃ s, s.requests = [⟨1, Datetime.seconds 1, Datetime.seconds 2, some 1, some 1⟩] ∧
      (∀ request ∈ s.requests, request.FollowsSpeed) ∧
      Lib.Run (step config) (SpeedKept config) .initial steadyRun s := by
  let := knownUuid5 []
  let config := pacedReplay 2 [startAtOne]
  obtain ⟨s, run, requests⟩ := Lib.exists_run_of_exec (step config) Lib.Always .initial steadyRun
    (fun s => s.requests = [⟨1, Datetime.seconds 1, Datetime.seconds 2, some 1, some 1⟩])
    (by decide +kernel)
  have follow : ∀ request ∈ s.requests, request.FollowsSpeed := by
    rw [requests, List.forall_mem_singleton]
    exact ⟨1, rfl, 1, rfl, by decide +kernel⟩
  exact ⟨s, requests, follow, (pacing_follows_speed_iff rfl run).mp follow⟩

omit [Uuid5] in
/-- The task still sleeps a second after a RESUME at speed 1000, and not at all when it
is resumed from its checkpoint. -/
theorem resumed_speed_ignored :
    letI := knownUuid5 []
    (∃ s, Lib.Run (step (pacedReplay 2 [startAtOne, pauseCommand, resumeAtThousand])) Lib.Always
        .initial respeededRun s ∧
      s.requests = [⟨1, Datetime.seconds 1, Datetime.seconds 2, some 1000, some 1⟩] ∧
      ¬ ∀ request ∈ s.requests, request.FollowsSpeed) ∧
    ∃ s, Lib.Run (step (pacedReplay 3 [startAtOne])) Lib.Always .initial crashedRun s ∧
      s.requests = [⟨1, Datetime.seconds 2, Datetime.seconds 3, some 1, none⟩] ∧
      ¬ ∀ request ∈ s.requests, request.FollowsSpeed := by
  let := knownUuid5 []
  constructor
  · obtain ⟨s, run, requests⟩ := Lib.exists_run_of_exec
      (step (pacedReplay 2 [startAtOne, pauseCommand, resumeAtThousand])) Lib.Always .initial
      respeededRun
      (fun s => s.requests = [⟨1, Datetime.seconds 1, Datetime.seconds 2, some 1000, some 1⟩])
      (by decide +kernel)
    refine ⟨s, run, requests, fun follow => ?_⟩
    rw [requests, List.forall_mem_singleton] at follow
    obtain ⟨_, ⟨⟩, _, ⟨⟩, paced⟩ := follow
    revert paced
    decide +kernel
  · obtain ⟨s, run, requests⟩ := Lib.exists_run_of_exec (step (pacedReplay 3 [startAtOne]))
      Lib.Always .initial crashedRun
      (fun s => s.requests = [⟨1, Datetime.seconds 2, Datetime.seconds 3, some 1, none⟩])
      (by decide +kernel)
    refine ⟨s, run, requests, fun follow => ?_⟩
    rw [requests, List.forall_mem_singleton] at follow
    exact not_followsSpeed rfl follow

end PacedReplay

end IndustrialReliability
