import IndustrialReliability.Replay.Coherence

/-!
At most one incomplete replay.

`start` refuses to run with more than one checkpoint in state RUNNING or PAUSED. A
START is refused only while the task of another session is not done, so a second
incomplete checkpoint appears when a task is done and its own checkpoint is not
terminal: a PAUSE or RESUME was accepted after the terminal checkpoint had been
recorded, or the handler of a failure lost its write. In runs without the two there
is never more than one (`atMostOneIncomplete_of_run`).
-/

namespace IndustrialReliability

variable {F : Type}

/-- The task is about to end, its terminal status recorded. -/
def TaskPhase.Ending : TaskPhase F → Prop
  | .publishingStatus _ _ => True
  | .publishedStatus => True
  | _ => False

namespace ReplayService

/-- The check of `start` does not trigger. -/
def AtMostOneIncomplete (s : ReplayService F) : Prop := s.loadIncompleteReplays.length ≤ 1

/-- The checkpoint of the session is RUNNING or PAUSED. -/
def Incomplete (s : ReplayService F) (id : UUID) : Prop :=
  ∃ checkpoint, s.store.get? id = some checkpoint ∧
    (checkpoint.state = .running ∨ checkpoint.state = .paused)

section Guard

/-- The running session whose controller allows the command. -/
def accepting (command : ReplayCommandV1) (s : ReplayService F) : Option (RunningSession F) :=
  s.live.filter fun session =>
    decide (session.controller.sessionId = command.replaySessionId) &&
      (session.controller.apply command).toBool

/-- The write of a failure handler that is about to run is lost. -/
def LosesFailure (config : ReplayServiceConfig F) (fault : Option Bool) (s : ReplayService F) :
    Bool :=
  match s.active with
  | some session =>
      match session.task.phase with
      | .failing => config.hasStore && decide (fault = some false)
      | _ => false
  | none => false

/-- No PAUSE or RESUME is accepted for a session with a terminal checkpoint, and no
failure handler loses its write. -/
def CompletesCleanly (config : ReplayServiceConfig F) (s : ReplayService F) :
    ReplayServiceAction → Prop
  | .fetch _ _ => ∀ command ∈ s.nextCommand config,
      command.action = .pause ∨ command.action = .resume →
      (s.accepting command).isSome = true → ¬ s.Finished command.replaySessionId
  | .taskRun _ fault => s.LosesFailure config fault = false
  | _ => True

instance (config : ReplayServiceConfig F) (s : ReplayService F) (a : ReplayServiceAction) :
    Decidable (CompletesCleanly config s a) := by
  refine ReplayServiceAction.casesOn a ?_ ?_ ?_ ?_ ?_ ?_ ?_ ?_ ?_ <;> intros <;>
    dsimp only [CompletesCleanly] <;> infer_instance

end Guard

/-- Only the running session is incomplete. -/
structure Settled (s : ReplayService F) : Prop where
  live : ∀ session, s.live = some session → ∀ id, s.Incomplete id →
    id = session.controller.sessionId
  idle : s.live = none → s.phase ≠ .down → s.phase ≠ .stopping → ∀ id, ¬ s.Incomplete id
  one : ∀ a b, s.Incomplete a → s.Incomplete b → a = b
  stopped : ∀ session, s.active = some session → session.stopEvent = true → s.phase ≠ .stopping →
    ¬ s.Incomplete session.controller.sessionId
  ending : ∀ session, s.active = some session → session.task.phase.Ending →
    ¬ s.Incomplete session.controller.sessionId

theorem settled_initial : Settled (initial : ReplayService F) := by
  have none : ∀ id, ¬ (initial : ReplayService F).Incomplete id := by
    rintro id ⟨checkpoint, held, -⟩
    simp [initial] at held
  exact ⟨fun _ _ id h => absurd h (none id), fun _ _ _ => none, fun a _ h => absurd h (none a),
    fun _ _ _ _ => none _, fun _ _ _ => none _⟩

/-- At most one row of a settled store is incomplete. -/
theorem Settled.atMostOne {s : ReplayService F} (settled : Settled s) : AtMostOneIncomplete s := by
  unfold AtMostOneIncomplete
  have keys : (s.loadIncompleteReplays.map Prod.fst).Nodup :=
    s.store.keys_nodup.sublist (List.Sublist.map _ List.filter_sublist)
  have same : ∀ a ∈ s.loadIncompleteReplays, ∀ b ∈ s.loadIncompleteReplays, a.1 = b.1 := by
    rintro ⟨a, checkpointA⟩ memA ⟨b, checkpointB⟩ memB
    exact settled.one a b ⟨_, mem_loadIncompleteReplays_iff.mp memA⟩
      ⟨_, mem_loadIncompleteReplays_iff.mp memB⟩
  revert keys same
  cases s.loadIncompleteReplays with
  | nil => simp
  | cons a rest =>
      cases rest with
      | nil => simp
      | cons b rest =>
          intro keys same
          have equal := same a (by simp) b (by simp)
          simp [equal] at keys

section Keeps

variable {config : ReplayServiceConfig F} {s s' : ReplayService F} {session : RunningSession F}
  {origin : Origin} {fault : Option Bool} {id : UUID} {checkpoint : ReplayCheckpoint} {raised : Bool}

/-- A state with the same checkpoints, and either the same session or none. -/
theorem Settled.congr (settled : Settled s) (store : s'.store = s.store)
    (live : ∀ session', s'.active = some session' → ∃ session, s.active = some session ∧
      session'.controller.sessionId = session.controller.sessionId ∧
      (session'.task.isDone = false → session.task.isDone = false) ∧
      (session'.stopEvent = true → s'.phase ≠ .stopping →
        session.stopEvent = true ∧ s.phase ≠ .stopping) ∧
      (session'.task.phase.Ending → session.task.phase.Ending))
    (idle : s'.live = none → s'.phase ≠ .down → s'.phase ≠ .stopping →
      ∀ id, ¬ s.Incomplete id) : Settled s' := by
  have incomplete : ∀ id, s'.Incomplete id ↔ s.Incomplete id := by
    intro id
    unfold Incomplete
    rw [store]
  constructor
  · intro session' held id inc
    obtain ⟨active, running⟩ := live_eq_some_iff.mp held
    obtain ⟨session, before, same, done, -⟩ := live session' active
    rw [same]
    exact settled.live session (live_eq_some_iff.mpr ⟨before, done running⟩) id
      ((incomplete id).mp inc)
  · intro none up notStopping id inc
    exact idle none up notStopping id ((incomplete id).mp inc)
  · intro a b incA incB
    exact settled.one a b ((incomplete a).mp incA) ((incomplete b).mp incB)
  · intro session' active stopped notStopping inc
    obtain ⟨session, before, same, -, stop, -⟩ := live session' active
    obtain ⟨stopped, notStopping⟩ := stop stopped notStopping
    rw [same, incomplete] at inc
    exact settled.stopped session before stopped notStopping inc
  · intro session' active ending inc
    obtain ⟨session, before, same, -, -, wasEnding⟩ := live session' active
    rw [same, incomplete] at inc
    exact settled.ending session before (wasEnding ending) inc

/-- The incomplete sessions after a write. -/
theorem Written.incomplete (written : Written config origin fault id checkpoint s s' raised) {k : UUID}
    (inc : s'.Incomplete k) : s.Incomplete k ∨
      k = id ∧ (checkpoint.state = .running ∨ checkpoint.state = .paused) := by
  obtain ⟨held, row, state⟩ := inc
  rcases written.get? row with old | ⟨rfl, rfl⟩
  · exact .inl ⟨held, old, state⟩
  · exact .inr ⟨rfl, state⟩

/-- After a write of a terminal state that is not lost, the session is complete. -/
theorem Written.complete (written : Written config origin fault id checkpoint s s' raised)
    (coherent : Coherent config s) (terminal : checkpoint.state.Terminal)
    (kept : config.hasStore = true → fault ≠ some false) : ¬ s'.Incomplete id := by
  rintro ⟨held, row, state⟩
  cases written with
  | skipped noStore => simp [coherent.noStore noStore id] at row
  | lost hasStore lost => exact kept hasStore lost
  | stored _ _ _ =>
      rw [get?_wrote, if_pos rfl] at row
      obtain rfl := Option.some.inj row
      rcases state with state | state <;> simp [state, ReplayState.Terminal] at terminal

/-- The running session records its own checkpoint. -/
theorem Settled.written (settled : Settled s) (active : s.active = some session)
    (running : session.task.isDone = false) (mine : id = session.controller.sessionId)
    (written : Written config origin fault id checkpoint s s' raised)
    (quiet : session.stopEvent = true ∧ s.phase ≠ .stopping ∨ session.task.phase.Ending →
      ¬ (checkpoint.state = .running ∨ checkpoint.state = .paused)) : Settled s' := by
  obtain ⟨phase, sameActive, -, -⟩ := written.frame
  have live : s.live = some session := live_eq_some_iff.mpr ⟨active, running⟩
  have own : ∀ k, s'.Incomplete k → k = session.controller.sessionId := by
    intro k inc
    rcases written.incomplete inc with old | ⟨rfl, -⟩
    · exact settled.live session live k old
    · exact mine
  constructor
  · intro other held k inc
    obtain ⟨otherActive, -⟩ := live_eq_some_iff.mp held
    rw [sameActive, active] at otherActive
    obtain rfl := Option.some.inj otherActive
    exact own k inc
  · intro none
    have running' : s'.live = some session := live_eq_some_iff.mpr ⟨sameActive.trans active, running⟩
    rw [running'] at none
    cases none
  · intro a b incA incB
    rw [own a incA, own b incB]
  · intro other otherActive stopped notStopping inc
    rw [sameActive, active] at otherActive
    obtain rfl := Option.some.inj otherActive
    rw [phase] at notStopping
    rcases written.incomplete inc with old | ⟨-, state⟩
    · exact settled.stopped session active stopped notStopping old
    · exact quiet (.inl ⟨stopped, notStopping⟩) state
  · intro other otherActive ending inc
    rw [sameActive, active] at otherActive
    obtain rfl := Option.some.inj otherActive
    rcases written.incomplete inc with old | ⟨-, state⟩
    · exact settled.ending session active ending old
    · exact quiet (.inr ending) state

/-- The task of the running session goes on, or ends with its session complete. -/
theorem Settled.withTask (settled : Settled s) (active : s.active = some session)
    (running : session.task.isDone = false) {task : ReplayTask F}
    (ending : task.phase.Ending → session.task.phase.Ending ∨
      ¬ s.Incomplete session.controller.sessionId)
    (done : task.isDone = true → s.phase ≠ .stopping →
      ¬ s.Incomplete session.controller.sessionId) : Settled (withTask session task s) := by
  have live : s.live = some session := live_eq_some_iff.mpr ⟨active, running⟩
  have incomplete : ∀ k, (ReplayService.withTask session task s).Incomplete k ↔ s.Incomplete k :=
    fun _ => Iff.rfl
  constructor
  · intro other held k inc
    obtain ⟨otherActive, -⟩ := live_eq_some_iff.mp held
    obtain rfl := Option.some.inj otherActive
    exact settled.live session live k inc
  · intro none up notStopping k inc
    have finished : task.isDone = true := by
      by_contra running'
      have held : (ReplayService.withTask session task s).live = some { session with task } :=
        live_eq_some_iff.mpr ⟨rfl, by simpa using running'⟩
      rw [held] at none
      cases none
    have same := settled.live session live k inc
    rw [incomplete, same] at inc
    exact done finished notStopping inc
  · exact settled.one
  · intro other otherActive
    obtain rfl := Option.some.inj otherActive
    exact settled.stopped session active
  · intro other otherActive isEnding inc
    obtain rfl := Option.some.inj otherActive
    rcases ending isEnding with was | complete
    · exact settled.ending session active was inc
    · exact complete inc

theorem Settled.setPhase (settled : Settled s) (active : s.active = some session)
    (running : session.task.isDone = false) {phase : TaskPhase F}
    (ending : phase.Ending → session.task.phase.Ending ∨
      ¬ s.Incomplete session.controller.sessionId)
    (done : phase = .done → s.phase ≠ .stopping →
      ¬ s.Incomplete session.controller.sessionId) : Settled (s.setPhase session phase) := by
  refine settled.withTask active running ending ?_
  intro finished
  apply done
  cases phase <;> simp_all [ReplayTask.isDone]

/-- The task goes on to a phase that is not at its end. -/
theorem Settled.goesOn (settled : Settled s) (active : s.active = some session)
    (running : session.task.isDone = false) {phase : TaskPhase F} (on : ¬ phase.Ending)
    (busy : phase ≠ .done) : Settled (s.setPhase session phase) :=
  settled.setPhase active running (fun ending => absurd ending on) fun done => absurd done busy

/-- Only the phase of the command loop, the trace and the offsets change. -/
theorem Settled.phase (settled : Settled s) (phase : ServicePhase) (trace : List (Effect F))
    (position committed : Nat) (kept : s.phase = .stopping → phase = .stopping)
    (up : s.phase ≠ .down) :
    Settled { s with phase, trace, position, committed } := by
  refine settled.congr rfl ?_ ?_
  · intro session active
    exact ⟨session, active, rfl, id, fun stopped notStopping =>
      ⟨stopped, fun stopping => notStopping (kept stopping)⟩, id⟩
  · intro none _ notStopping
    exact settled.idle none up fun stopping => notStopping (kept stopping)

theorem Settled.traced (settled : Settled s) (effect : Effect F) :
    Settled { s with trace := effect :: s.trace } := by
  refine settled.congr rfl ?_ settled.idle
  intro session active
  exact ⟨session, active, rfl, id, And.intro, id⟩

theorem isDone_resume (session : RunningSession F) :
    session.resume.task.isDone = session.task.isDone := wake_isDone session.task

theorem ending_resume_iff (session : RunningSession F) :
    session.resume.task.phase.Ending ↔ session.task.phase.Ending := by
  unfold RunningSession.resume ReplayTask.wake
  cases session.task.phase <;> rfl

theorem Settled.beginStop (settled : Settled s) : Settled s.beginStop := by
  refine settled.congr rfl ?_ ?_
  · intro stopping active
    have notStopping : ∀ P : Prop, s.beginStop.phase ≠ .stopping → P :=
      fun P other => absurd rfl other
    obtain ⟨session, held, ⟨-, rfl⟩ | ⟨-, rfl⟩⟩ := beginStop_active active
    · exact ⟨stopping, held, rfl, id, fun _ => notStopping _, id⟩
    · refine ⟨session, held, rfl, ?_, fun _ => notStopping _, (ending_resume_iff session).mp⟩
      intro running
      rw [← isDone_resume]
      exact running
  · intro _ _ notStopping
    exact absurd rfl notStopping

theorem Settled.leave (settled : Settled s) : Settled s.leave := by
  refine settled.congr rfl ?_ ?_
  · intro session active
    cases active
  · intro _ up
    exact absurd rfl up

end Keeps

/-! ### Every step -/

section Step

variable [PyFloat F] [Uuid5] {config : ReplayServiceConfig F} {stamp : ServiceStamp}
  {fault : Option Bool} {s s' : ReplayService F} {session : RunningSession F}
  {event : TelemetryEventV1 F} {task : ReplayTask F}

theorem Taken.running (taken : Taken config stamp session event task) :
    session.task.isDone = false := by
  cases taken with
  | fresh ready _ _ => simp [ReplayTask.isDone, ready]
  | woken waiting => simp [ReplayTask.isDone, waiting]

theorem AtEnd.running (atEnd : AtEnd config stamp session) : session.task.isDone = false := by
  cases atEnd with
  | exhausted ready _ _ => simp [ReplayTask.isDone, ready]
  | woken waiting => simp [ReplayTask.isDone, waiting]

theorem AtEnd.notEnding (atEnd : AtEnd config stamp session) : ¬ session.task.phase.Ending := by
  cases atEnd with
  | exhausted ready _ _ => simp [ready, TaskPhase.Ending]
  | woken waiting => simp [waiting, TaskPhase.Ending]

omit [PyFloat F] [Uuid5] in
theorem publish_running (task : ReplayTask F) (event : TelemetryEventV1 F) :
    (task.publish event).isDone = false ∧ ¬ (task.publish event).phase.Ending := by
  obtain ⟨-, -, phase⟩ := publish_frame task event
  simp [ReplayTask.isDone, phase, TaskPhase.Ending]

omit [PyFloat F] [Uuid5] in
theorem checkpointState_of_stopped (stopped : session.stopEvent = true) :
    checkpointState session = .stopped := by
  unfold checkpointState
  rw [if_pos stopped]

theorem Settled.taskMoves (settled : Settled s) (coherent : Coherent config s)
    (active : s.active = some session) (moves : TaskMoves config stamp session fault s s')
    (kept : session.task.phase = .failing → config.hasStore = true → fault ≠ some false) :
    Settled s' := by
  have ok := coherent.session session active
  cases moves with
  | raises ready _ =>
      exact settled.setPhase active (by simp [ReplayTask.isDone, ready]) nofun nofun
  | waitsAtEnd ready _ _ =>
      exact settled.setPhase active (by simp [ReplayTask.isDone, ready]) nofun nofun
  | waits ready _ _ _ =>
      exact settled.withTask active (by simp [ReplayTask.isDone, ready]) nofun nofun
  | stopsEarly ready _ stopped _ =>
      exact settled.withTask active (by simp [ReplayTask.isDone, ready]) nofun
        fun _ => settled.stopped session active stopped
  | stops taken stopped =>
      exact settled.withTask active taken.running nofun
        fun _ => settled.stopped session active stopped
  | sleeps delay taken _ _ => exact settled.withTask active taken.running nofun nofun
  | paceFails taken _ _ _ _ => exact settled.withTask active taken.running nofun nofun
  | @publishes event task taken _ =>
      obtain ⟨running, notEnding⟩ := publish_running task event
      exact settled.withTask active taken.running (fun ending => absurd ending notEnding)
        (by simp [running])
  | @wakes event delay sleeping =>
      obtain ⟨running, notEnding⟩ := publish_running session.task event
      exact settled.withTask active (by simp [ReplayTask.isDone, sleeping])
        (fun ending => absurd ending notEnding) (by simp [running])
  | stopsAtEnd atEnd stopped =>
      exact settled.setPhase active atEnd.running nofun
        fun _ => settled.stopped session active stopped
  | completes atEnd _ written =>
      have complete := written.complete coherent trivial (by cases written <;> simp_all)
      have next := settled.written active atEnd.running ok.command written (by simp)
      refine next.setPhase (written.frame.2.1.trans active) atEnd.running (fun _ => .inr ?_) nofun
      rw [← ok.command]
      exact complete
  | completeFails atEnd _ written =>
      have next := settled.written active atEnd.running ok.command written (by simp)
      exact next.setPhase (written.frame.2.1.trans active) atEnd.running nofun nofun
  | records published written =>
      have running : session.task.isDone = false := by simp [ReplayTask.isDone, published]
      have next := settled.written active running ok.command written (by
        rintro (⟨stopped, -⟩ | ending)
        · simp [checkpointState_of_stopped stopped]
        · simp [published, TaskPhase.Ending] at ending)
      exact next.withTask (written.frame.2.1.trans active) running nofun nofun
  | recordFails published written =>
      have running : session.task.isDone = false := by simp [ReplayTask.isDone, published]
      have next := settled.written active running ok.command written (by
        rintro (⟨stopped, -⟩ | ending)
        · simp [checkpointState_of_stopped stopped]
        · simp [published, TaskPhase.Ending] at ending)
      exact next.withTask (written.frame.2.1.trans active) running nofun nofun
  | fails failing written =>
      have running : session.task.isDone = false := by simp [ReplayTask.isDone, failing]
      have complete := written.complete coherent trivial (kept failing)
      have next := settled.written active running ok.command written (by simp)
      refine next.setPhase (written.frame.2.1.trans active) running (fun _ => .inr ?_) nofun
      rw [← ok.command]
      exact complete
  | failFails failing written =>
      have running : session.task.isDone = false := by simp [ReplayTask.isDone, failing]
      have complete := written.complete coherent trivial (kept failing)
      have next := settled.written active running ok.command written (by simp)
      refine next.setPhase (written.frame.2.1.trans active) running nofun fun _ _ => ?_
      rw [← ok.command]
      exact complete
  | ends published =>
      exact settled.setPhase active (by simp [ReplayTask.isDone, published]) nofun
        fun _ _ => settled.ending session active (by simp [published, TaskPhase.Ending])

omit [PyFloat F] [Uuid5] in
/-- What is left of a store whose incomplete rows are one session's. -/
theorem settled_of_live (id : UUID) (live : s.live = some session)
    (mine : session.controller.sessionId = id) (own : ∀ k, s.Incomplete k → k = id)
    (quiet : session.stopEvent = true ∧ s.phase ≠ .stopping ∨ session.task.phase.Ending →
      ¬ s.Incomplete id) : Settled s := by
  obtain ⟨active, -⟩ := live_eq_some_iff.mp live
  constructor
  · intro other held k inc
    rw [live] at held
    obtain rfl := Option.some.inj held
    rw [mine]
    exact own k inc
  · intro none
    rw [live] at none
    cases none
  · intro a b incA incB
    rw [own a incA, own b incB]
  · intro other held stopped notStopping
    rw [active] at held
    obtain rfl := Option.some.inj held
    rw [mine]
    exact quiet (.inl ⟨stopped, notStopping⟩)
  · intro other held ending
    rw [active] at held
    obtain rfl := Option.some.inj held
    rw [mine]
    exact quiet (.inr ending)

omit [PyFloat F] [Uuid5] in
theorem not_ending_of_done (done : session.task.isDone = true) : ¬ session.task.phase.Ending := by
  unfold ReplayTask.isDone at done
  cases phase : session.task.phase <;> simp [phase, TaskPhase.Ending] at done ⊢

omit [PyFloat F] [Uuid5] in
theorem ending_signal_iff (action : ReplayAction) :
    (signal action session).task.phase.Ending ↔ session.task.phase.Ending := by
  cases action with
  | start => rfl
  | pause => rfl
  | resume => exact ending_resume_iff session
  | stop => exact ending_resume_iff session

omit [PyFloat F] [Uuid5] in
/-- `stop()` with no task under way and one row left behind. -/
theorem settled_beginStop_of_done (id : UUID)
    (done : ∀ session, s.active = some session → session.task.isDone = true)
    (own : ∀ k, s.Incomplete k → k = id) : Settled s.beginStop := by
  have notLive : ∀ session, s.beginStop.active = some session → session.task.isDone = true := by
    intro stopping active
    obtain ⟨session, held, ⟨finished, rfl⟩ | ⟨running, -⟩⟩ := beginStop_active active
    · exact finished
    · rw [done session held] at running
      cases running
  constructor
  · intro session live
    obtain ⟨active, running⟩ := live_eq_some_iff.mp live
    rw [notLive session active] at running
    cases running
  · intro _ _ notStopping
    exact absurd rfl notStopping
  · intro a b incA incB
    rw [own a incA, own b incB]
  · intro _ _ _ notStopping
    exact absurd rfl notStopping
  · intro session active ending
    exact absurd ending (not_ending_of_done (notLive session active))

omit [PyFloat F] [Uuid5] in
/-- A recorded session that is not incomplete is finished. -/
theorem Coherent.finished (coherent : Coherent config s) {id : UUID}
    (held : (s.store.get? id).isSome = true) (complete : ¬ s.Incomplete id) : s.Finished id := by
  obtain ⟨checkpoint, row⟩ := Option.isSome_iff_exists.mp held
  have begun := (coherent.rows id checkpoint row).begun
  refine ⟨checkpoint, row, ?_⟩
  cases state : checkpoint.state with
  | created => exact absurd state begun
  | running => exact absurd ⟨checkpoint, row, .inl state⟩ complete
  | paused => exact absurd ⟨checkpoint, row, .inr state⟩ complete
  | stopped => trivial
  | completed => trivial
  | failed => trivial

omit [PyFloat F] [Uuid5] in
/-- A PAUSE or RESUME is not accepted once the task is ending. -/
theorem not_ending_of_accepted {payload : CommandPayload} {command : Checked ReplayCommandV1}
    {ctrl : ReplayController} {stamp : ServiceStamp} (settled : Settled s)
    (coherent : Coherent config s) (guarded : CompletesCleanly config s (.fetch stamp fault))
    (here : config.commands[s.position]? = some payload) (decoded : payload.value = .ok command)
    (hasStore : config.hasStore = true) (live : s.live = some session)
    (mine : session.controller.sessionId = command.val.replaySessionId)
    (applied : session.controller.apply command.val = .ok ctrl)
    (action : command.val.action = .pause ∨ command.val.action = .resume) :
    ¬ session.task.phase.Ending := by
  intro ending
  obtain ⟨active, -⟩ := live_eq_some_iff.mp live
  have complete := settled.ending session active ending
  have finished := coherent.finished ((coherent.session session active).stored hasStore) complete
  have next := nextCommand_eq here decoded
  have accepted : (s.accepting command.val).isSome = true := by
    unfold accepting
    rw [live]
    simp [Option.filter, mine, applied, Except.toBool]
  rw [mine] at finished
  exact guarded command.val next action accepted finished

section Control

variable {payload : CommandPayload} {command : Checked ReplayCommandV1} {ctrl : ReplayController}
  {raised : Bool}

omit [PyFloat F] [Uuid5] in
/-- A control command that is accepted records a state of the running session. -/
theorem Settled.updated {stamp : ServiceStamp} (settled : Settled s)
    (coherent : Coherent config s) (guarded : CompletesCleanly config s (.fetch stamp fault))
    (idle : s.phase = .idle) (here : config.commands[s.position]? = some payload)
    (decoded : payload.value = .ok command) (control : command.val.action ≠ .start)
    (live : s.live = some session) (mine : session.controller.sessionId = command.val.replaySessionId)
    (applied : session.controller.apply command.val = .ok ctrl)
    (updated : Updated config (.command command.val) fault ctrl.sessionId
      (ReplayController.stateAfter command.val.action) s.fetched s' raised) : Settled s' := by
  obtain ⟨active, running⟩ := live_eq_some_iff.mp live
  have settled' : Settled s.fetched :=
    settled.phase s.phase s.trace (s.position + 1) s.committed id (by simp [idle])
  cases updated with
  | missing _ => exact settled'
  | found held written =>
      have hasStore : config.hasStore = true := by
        by_contra none
        have absent := coherent.noStore (by simpa using none) ctrl.sessionId
        have held : s.store.get? ctrl.sessionId = some _ := held
        rw [absent] at held
        cases held
      have result := ReplayController.apply_eq_ok applied
      refine settled'.written active running result.sessionId written ?_
      rintro (⟨stopped, notStopping⟩ | ending)
      · exact absurd ((coherent.session session active).stopped stopped (by simp [idle]))
          (not_stopped_of_applied applied)
      · cases action : command.val.action with
        | start => exact absurd action control
        | stop => simp [ReplayController.stateAfter]
        | pause =>
            exact absurd ending (not_ending_of_accepted settled coherent guarded here decoded hasStore
              live mine applied (.inl action))
        | resume =>
            exact absurd ending (not_ending_of_accepted settled coherent guarded here decoded hasStore
              live mine applied (.inr action))

omit [PyFloat F] [Uuid5] in
/-- After an update to a terminal state that returns, the session is complete. -/
theorem Updated.complete {origin : Origin} {id : UUID} {state : ReplayState}
    (coherent : Coherent config s) (updated : Updated config origin fault id state s s' raised)
    (terminal : state.Terminal) (returned : raised = false) : ¬ s'.Incomplete id := by
  cases updated with
  | missing absent =>
      rintro ⟨checkpoint, held, -⟩
      rw [absent] at held
      cases held
  | found _ written =>
      refine written.complete coherent terminal ?_
      subst returned
      cases written with
      | skipped noStore => simp [noStore]
      | stored _ _ same => simp [same]

omit [PyFloat F] in
theorem Settled.controls {stamp : ServiceStamp} (settled : Settled s)
    (coherent : Coherent config s) (guarded : CompletesCleanly config s (.fetch stamp fault))
    (idle : s.phase = .idle) (here : config.commands[s.position]? = some payload)
    (decoded : payload.value = .ok command) (control : command.val.action ≠ .start)
    (live : s.live = some session) (mine : session.controller.sessionId = command.val.replaySessionId)
    (applied : session.controller.apply command.val = .ok ctrl)
    (updated : Updated config (.command command.val) fault ctrl.sessionId
      (ReplayController.stateAfter command.val.action) s.fetched s' false) :
    Settled ({ s' with
      active := some (signal command.val.action { session with controller := ctrl })
      }.publishStatus stamp command.val ctrl) := by
  obtain ⟨active, running⟩ := live_eq_some_iff.mp live
  have next := settled.updated coherent guarded idle here decoded control live mine applied updated
  obtain ⟨-, -, sameActive, -⟩ := updated.coherent coherent.fetched
  have result := ReplayController.apply_eq_ok applied
  have live' : s'.live = some session := live_eq_some_iff.mpr ⟨sameActive.trans active, running⟩
  obtain ⟨controller, -, -, done, stopEvent⟩ :=
    signal_frame command.val.action { session with controller := ctrl }
  refine settled_of_live session.controller.sessionId
    (live_eq_some_iff.mpr ⟨rfl, done.trans running⟩) ?_ (next.live session live') ?_
  · rw [controller]
    exact result.sessionId
  · intro quiet inc
    have inc : s'.Incomplete session.controller.sessionId := inc
    rw [stopEvent, ending_signal_iff] at quiet
    -- The session is being stopped, was before, or is ending.
    have stopping : command.val.action = .stop → ¬ s'.Incomplete session.controller.sessionId := by
      intro stop
      rw [← result.sessionId]
      exact updated.complete coherent.fetched (by rw [stop]; trivial) rfl
    rcases quiet with ⟨stop | stopped, -⟩ | ending
    · exact stopping stop inc
    · exact absurd ((coherent.session session active).stopped stopped (by simp [idle]))
        (not_stopped_of_applied applied)
    · cases action : command.val.action with
      | start => exact control action
      | stop => exact stopping action inc
      | pause => exact next.ending session (sameActive.trans active) ending inc
      | resume => exact next.ending session (sameActive.trans active) ending inc

end Control

/-- Every step that completes cleanly keeps the state settled. -/
theorem Settled.moves {action : ReplayServiceAction} (settled : Settled s)
    (coherent : Coherent config s) (guarded : CompletesCleanly config s action)
    (moves : Moves config s action s') : Settled s' := by
  cases moves with
  | undecodable record idle _ _ =>
      exact settled.phase _ s.trace (s.position + 1) s.committed (by simp [idle]) (by simp [idle])
  | refusedActive idle _ _ _ _ =>
      exact settled.phase _ s.trace (s.position + 1) s.committed (by simp [idle]) (by simp [idle])
  | refusedIdentity idle _ _ _ _ _ =>
      exact settled.phase _ s.trace (s.position + 1) s.committed (by simp [idle]) (by simp [idle])
  | startFails idle _ _ _ notLive _ _ written =>
      obtain ⟨-, active, -, -⟩ := written.frame
      have none := settled.idle notLive (by simp [idle]) (by simp [idle])
      have done : ∀ session, s.active = some session → session.task.isDone = true :=
        fun _ => done_of_not_live notLive
      exact settled_beginStop_of_done _ (fun session held => done session (active.symm.trans held))
        fun k inc => (written.incomplete inc).elim (fun old => absurd old (none k)) And.left
  | @starts stamp _ _ command s₁ ctrl idle _ _ _ notLive _ _ written applied =>
      have none := settled.idle notLive (by simp [idle]) (by simp [idle])
      have result := ReplayController.apply_eq_ok applied
      refine settled_of_live command.val.replaySessionId (live_eq_some_iff.mpr ⟨rfl, rfl⟩)
        result.sessionId ?_ ?_
      · intro k inc
        exact (written.incomplete inc).elim (fun old => absurd old (none k)) And.left
      · rintro (⟨stopped, -⟩ | ending)
        · cases stopped
        · exact ending.elim
  | ignored idle _ _ _ _ =>
      exact settled.phase _ s.trace (s.position + 1) s.committed (by simp [idle]) (by simp [idle])
  | illegal idle _ _ _ _ _ _ =>
      exact (settled.phase s.phase s.trace (s.position + 1) s.committed id (by simp [idle])).beginStop
  | controlFails idle here decoded control live mine applied updated =>
      exact (settled.updated coherent guarded idle here decoded control live mine applied
        updated).beginStop
  | controls idle here decoded control live mine applied updated =>
      exact settled.controls coherent guarded idle here decoded control live mine applied updated
  | @publishes _ message publishing =>
      exact settled.phase _ (Outgoing.effect message :: s.trace) s.position s.committed
        (by simp [publishing]) (by simp [publishing])
  | @publishRaises _ message publishing =>
      exact (settled.phase s.phase (Outgoing.effect message :: s.trace) s.position s.committed id
        (by simp [publishing])).beginStop
  | publishLost _ => exact settled.beginStop
  | commits committing =>
      exact settled.phase _ s.trace s.position s.position (by simp [committing])
        (by simp [committing])
  | commitFails acknowledged committing _ =>
      exact (settled.phase s.phase s.trace s.position acknowledged id
        (by simp [committing])).beginStop
  | @task stamp _ session _ active moves =>
      refine settled.taskMoves coherent active moves ?_
      rintro failing hasStore rfl
      have keeps : s.LosesFailure config (some false) = false := guarded
      unfold LosesFailure at keeps
      rw [active] at keeps
      simp [failing, hasStore] at keeps
  | @telemetrySent _ event active publishing =>
      have next := settled.traced (.telemetry event)
      exact next.goesOn active (by simp [ReplayTask.isDone, publishing]) id (by simp)
  | @telemetryRaises _ event active publishing =>
      have next := settled.traced (.telemetry event)
      exact next.goesOn active (by simp [ReplayTask.isDone, publishing]) id (by simp)
  | telemetryLost active publishing =>
      exact settled.goesOn active (by simp [ReplayTask.isDone, publishing]) id (by simp)
  | @statusSent session status inHandler active publishing =>
      have next := settled.traced (.status .replay status)
      refine next.setPhase active (by simp [ReplayTask.isDone, publishing]) (fun _ => .inl ?_)
        fun done => by cases done
      simp [publishing, TaskPhase.Ending]
  | @statusRaises session status inHandler active publishing =>
      have next := settled.traced (.status .replay status)
      refine next.setPhase active (by simp [ReplayTask.isDone, publishing])
        (by cases inHandler <;> exact False.elim) fun _ _ => ?_
      exact settled.ending session active (by simp [publishing, TaskPhase.Ending])
  | @statusLost session status inHandler active publishing =>
      refine settled.setPhase active (by simp [ReplayTask.isDone, publishing])
        (by cases inHandler <;> exact False.elim) fun _ _ => ?_
      exact settled.ending session active (by simp [publishing, TaskPhase.Ending])
  | shutsDown _ _ => exact settled.beginStop
  | exits _ => exact settled.leave
  | crashes _ => exact settled.leave
  | staysDown _ => exact settled
  | comesUp down complete =>
      refine settled.congr rfl ?_ ?_
      · intro session active
        have active : s.active = some session := active
        rw [coherent.down down] at active
        cases active
      · rintro _ _ _ id ⟨checkpoint, held, state⟩
        have mem := mem_loadIncompleteReplays_iff.mpr ⟨held, state⟩
        cases hasStore : config.hasStore with
        | true => simp [complete hasStore] at mem
        | false => simp [coherent.noStore hasStore id] at held
  | @resumes _ id checkpoint ctrl down hasStore one applied =>
      have result := ReplayController.apply_eq_ok applied
      refine settled_of_live id (live_eq_some_iff.mpr ⟨rfl, rfl⟩) result.sessionId ?_ ?_
      · rintro k ⟨held, row, state⟩
        have mem : (k, held) ∈ s.loadIncompleteReplays :=
          mem_loadIncompleteReplays_iff.mpr ⟨row, state⟩
        rw [one] at mem
        exact congrArg Prod.fst (List.mem_singleton.mp mem)
      · rintro (⟨stopped, -⟩ | ending)
        · cases stopped
        · exact ending.elim

/-- In a run that completes cleanly `start` never finds more than one incomplete
replay. -/
theorem atMostOneIncomplete_of_run {as : List ReplayServiceAction}
    (run : Lib.Run (step config) (CompletesCleanly config) .initial as s) :
    AtMostOneIncomplete s := by
  have kept : Coherent config s ∧ Settled s := by
    refine run.invariant (P := fun s => Coherent config s ∧ Settled s) ?_
      ⟨coherent_initial config, settled_initial⟩
    rintro s a s' ⟨coherent, settled⟩ guarded taken
    have moves := step_moves taken
    exact ⟨coherent.moves moves, settled.moves coherent guarded moves⟩
  exact kept.2.atMostOne

end Step

/-- A session without rows is paused and resumed, ends, and another one follows. -/
theorem cleanRun_atMostOneIncomplete :
    letI := knownUuid5 []
    let config := unpacedReplay true 0 [(1, .start), (1, .pause), (1, .resume), (2, .start)]
    ∃ s, Lib.Run (step config) (CompletesCleanly config) .initial
        [.restart false, .fetch replayStamp none, .mainPublish none, .commit none,
          .fetch replayStamp none, .mainPublish none, .commit none, .taskRun replayStamp none,
          .fetch replayStamp none, .mainPublish none, .commit none, .taskRun replayStamp none,
          .taskPublish none, .taskRun replayStamp none, .fetch replayStamp none] s ∧
      s.loadIncompleteReplays.map Prod.fst = [2] ∧ AtMostOneIncomplete s := by
  let := knownUuid5 []
  let config := unpacedReplay true 0 [(1, .start), (1, .pause), (1, .resume), (2, .start)]
  obtain ⟨s, run, second⟩ := Lib.exists_run_of_exec (step config) (CompletesCleanly config) .initial
    [.restart false, .fetch replayStamp none, .mainPublish none, .commit none,
      .fetch replayStamp none, .mainPublish none, .commit none, .taskRun replayStamp none,
      .fetch replayStamp none, .mainPublish none, .commit none, .taskRun replayStamp none,
      .taskPublish none, .taskRun replayStamp none, .fetch replayStamp none]
    (fun s => s.loadIncompleteReplays.map Prod.fst = [2]) (by decide)
  exact ⟨s, run, second, atMostOneIncomplete_of_run run⟩

/-- A PAUSE between the terminal checkpoint and the end of the task leaves the
session PAUSED, and the next START adds a second incomplete one. -/
theorem pausedBehindCompletion_twoIncomplete :
    letI := knownUuid5 []
    let config := unpacedReplay true 0 [(1, .start), (1, .pause), (2, .start)]
    ∃ s, Lib.Reachable (step config) .initial s ∧ ¬ AtMostOneIncomplete s := by
  let := knownUuid5 []
  let config := unpacedReplay true 0 [(1, .start), (1, .pause), (2, .start)]
  obtain ⟨s, run, two⟩ := Lib.exists_run_of_exec (step config) Lib.Always .initial
    [.restart false, .fetch replayStamp none, .mainPublish none, .commit none,
      .taskRun replayStamp none, .fetch replayStamp none, .taskPublish none,
      .taskRun replayStamp none, .mainPublish none, .commit none, .fetch replayStamp none]
    (fun s => s.loadIncompleteReplays.length = 2) (by decide)
  refine ⟨s, ⟨_, run⟩, fun atMostOne => ?_⟩
  unfold AtMostOneIncomplete at atMostOne
  omega

end ReplayService

end IndustrialReliability
