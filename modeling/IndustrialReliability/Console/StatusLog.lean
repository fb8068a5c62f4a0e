import IndustrialReliability.Console.Feed
import IndustrialReliability.Replay.Coherence

/-!
The console's log of a session's statuses.

The log goes by the state and the position of a status, and merges two that have both in
common; without such a pair it is the list of the statuses published (`reflects_iff`). The
controller of a running session keeps the position it was started or resumed with, so in
a session that is started once and not interrupted the status of a RESUME is such a
repetition of the START's, and the only one.
-/

namespace IndustrialReliability

variable {F : Type}

/-- The state a session is in after a status: a path through these goes up unless it
passes a RESUME. -/
def ReplayState.rank : ReplayState → Nat
  | .running => 1
  | .paused => 2
  | .stopped => 3
  | _ => 0

namespace ReplayService

/-- The status of a session that an effect is the publication of. -/
def reportOf (id : UUID) : Effect F → Option (Origin × ReplayStatusV1)
  | .status origin status => if status.replaySessionId = id then some (origin, status) else none
  | _ => none

/-- The statuses of a session that reached their topic, the latest first, and on
whose behalf. -/
def reports (id : UUID) (s : ReplayService F) : List (Origin × ReplayStatusV1) :=
  s.trace.filterMap (reportOf id)

/-- The statuses of a session in publication order. -/
def publishedStatuses (id : UUID) (s : ReplayService F) : List ReplayStatusV1 :=
  (s.reports id).reverse.map Prod.snd

/-- A START of the session has been accepted. -/
def Started (id : UUID) (s : ReplayService F) : Prop :=
  ∃ command, .accepted command ∈ s.trace ∧ command.replaySessionId = id

/-- The status of an accepted RESUME of the session has been published. -/
def ResumePublished (id : UUID) (s : ReplayService F) : Prop :=
  ∃ command status, (.command command, status) ∈ s.reports id ∧ command.action = .resume

/-- The session's START is accepted, and only one arrives; the service is not
restarted once the session has begun. -/
def StartedOnce (config : ReplayServiceConfig F) (id : UUID) (s : ReplayService F) :
    ReplayServiceAction → Prop
  | .fetch _ _ => ∀ command ∈ s.nextCommand config,
      command.replaySessionId = id → command.action = .start →
        s.live = none ∧ command.sourceDatasetSha256 = config.source.sourceDatasetSha256 ∧
          command.contractSha256 = config.source.contractSha256 ∧ ¬ s.Started id
  | .restart _ => ¬ s.Started id ∧ s.store.get? id = none
  | _ => True

/-! ### The invariant -/

/-- The START of the session has been reported: RUNNING, at position 0. -/
def StartReported (id : UUID) (s : ReplayService F) : Prop :=
  ∃ command status, (.command command, status) ∈ s.reports id ∧ command.action = .start ∧
    status.state = .running ∧ status.lastSequence = some 0

/-- The command loop is up and has no START of the session to report. -/
def PastStart (id : UUID) : ServicePhase → Prop
  | .idle | .committing => True
  | .publishing (.status command status) => status.replaySessionId = id → command.action ≠ .start
  | .publishing (.quarantine _) => True
  | .down | .stopping => False

/-- The command loop is up and has no status of the session to report. -/
def Quiet (id : UUID) : ServicePhase → Prop
  | .idle | .committing => True
  | .publishing (.status _ status) => status.replaySessionId ≠ id
  | .publishing (.quarantine _) => True
  | .down | .stopping => False

/-- The terminal states a task may still report are not among those reported. -/
def Unreported : TaskPhase F → List ReplayState → Prop
  | .publishingStatus status inHandler, states =>
      status.state ∉ states ∧ (inHandler = false → .failed ∉ states ∧ status.state ≠ .failed)
  | .publishedStatus, _ | .done, _ => True
  | .failing, states => .failed ∉ states
  | _, states => .completed ∉ states ∧ .failed ∉ states

/-- The reports on behalf of commands. -/
structure Told (id : UUID) (s : ReplayService F) : Prop where
  unstarted : ¬ s.Started id → s.reports id = [] ∧
    (∀ session, s.active = some session → session.controller.sessionId ≠ id) ∧
    ∀ command status, s.phase = .publishing (.status command status) → status.replaySessionId ≠ id
  told : ∀ command status, (.command command, status) ∈ s.reports id →
    status.state = ReplayController.stateAfter command.action ∧ status.lastSequence = some 0 ∧
      (command.action ≠ .start → StartReported id s)
  telling : ∀ command status, s.phase = .publishing (.status command status) →
    status.replaySessionId = id →
      status.state = ReplayController.stateAfter command.action ∧ status.lastSequence = some 0 ∧
        (command.action ≠ .start → StartReported id s)
  position : ∀ session, s.active = some session → session.controller.sessionId = id →
    session.controller.lastSequence = some 0
  begun : ∀ session, s.active = some session → session.controller.sessionId = id →
    PastStart id s.phase → StartReported id s

/-- Without a RESUME the reported states go up, the terminal ones of the task aside. -/
structure Climbs (id : UUID) (s : ReplayService F) : Prop where
  nodup : ((s.reports id).map (·.2.state)).Nodup
  below : ∀ session, s.active = some session → session.controller.sessionId = id →
    Quiet id s.phase → ∀ report ∈ s.reports id,
      report.2.state.rank ≤ session.controller.state.rank
  next : ∀ command status, s.phase = .publishing (.status command status) →
    status.replaySessionId = id → command.action ≠ .resume →
      (∀ report ∈ s.reports id, report.2.state.rank < status.state.rank) ∧
        ∀ session, s.active = some session → session.controller.sessionId = id →
          session.controller.state = status.state
  task : ∀ session, s.active = some session → session.controller.sessionId = id →
    Unreported session.task.phase ((s.reports id).map (·.2.state))

def Tells (id : UUID) (s : ReplayService F) : Prop :=
  Told id s ∧ (¬ s.ResumePublished id → Climbs id s)

/-- Nothing of the session is reported, and no report comes closer. -/
structure SameReports (id : UUID) (s s' : ReplayService F) : Prop where
  reports : s'.reports id = s.reports id
  started : s'.Started id ↔ s.Started id
  active : ∀ session', s'.active = some session' → session'.controller.sessionId = id →
    ∃ session, s.active = some session ∧ session'.controller = session.controller ∧
      ∀ states, Unreported session.task.phase states → Unreported session'.task.phase states
  quiet : Quiet id s'.phase → Quiet id s.phase
  past : PastStart id s'.phase → PastStart id s.phase
  telling : ∀ command status, s'.phase = .publishing (.status command status) →
    status.replaySessionId = id → s.phase = s'.phase

section Frame

variable {id : UUID} {s s' : ReplayService F}

theorem SameReports.startReported_iff (same : SameReports id s s') :
    StartReported id s' ↔ StartReported id s := by
  unfold StartReported
  rw [same.reports]

theorem Told.frame (told : Told id s) (same : SameReports id s s') : Told id s' where
  unstarted unstarted := by
    rw [same.started] at unstarted
    obtain ⟨none, inactive, silent⟩ := told.unstarted unstarted
    refine ⟨same.reports.trans none, ?_, ?_⟩
    · intro session' active mine
      obtain ⟨session, held, controller, -⟩ := same.active session' active mine
      exact inactive session held (controller ▸ mine)
    · intro command status phase mine
      exact silent command status ((same.telling command status phase mine).trans phase) mine
  told command status reported := by
    rw [same.reports] at reported
    rw [same.startReported_iff]
    exact told.told command status reported
  telling command status phase mine := by
    rw [same.startReported_iff]
    exact told.telling command status ((same.telling command status phase mine).trans phase) mine
  position session' active mine := by
    obtain ⟨session, held, controller, -⟩ := same.active session' active mine
    rw [controller] at mine ⊢
    exact told.position session held mine
  begun session' active mine past := by
    obtain ⟨session, held, controller, -⟩ := same.active session' active mine
    rw [same.startReported_iff]
    exact told.begun session held (controller ▸ mine) (same.past past)

theorem Climbs.frame (climbs : Climbs id s) (same : SameReports id s s') : Climbs id s' where
  nodup := by
    rw [same.reports]
    exact climbs.nodup
  below session' active mine quiet := by
    obtain ⟨session, held, controller, -⟩ := same.active session' active mine
    rw [same.reports, controller]
    exact climbs.below session held (controller ▸ mine) (same.quiet quiet)
  next command status phase mine control := by
    have before := (same.telling command status phase mine).trans phase
    obtain ⟨above, state⟩ := climbs.next command status before mine control
    rw [same.reports]
    refine ⟨above, ?_⟩
    intro session' active mine'
    obtain ⟨session, held, controller, -⟩ := same.active session' active mine'
    rw [controller]
    exact state session held (controller ▸ mine')
  task session' active mine := by
    obtain ⟨session, held, controller, phase⟩ := same.active session' active mine
    rw [same.reports]
    exact phase _ (climbs.task session held (controller ▸ mine))

theorem Tells.frame (tells : Tells id s) (same : SameReports id s s') : Tells id s' := by
  refine ⟨tells.1.frame same, ?_⟩
  unfold ResumePublished
  rw [same.reports]
  exact fun unresumed => (tells.2 unresumed).frame same

theorem SameReports.trans {s'' : ReplayService F} (first : SameReports id s s')
    (second : SameReports id s' s'') : SameReports id s s'' where
  reports := second.reports.trans first.reports
  started := second.started.trans first.started
  active session'' active mine := by
    obtain ⟨session', held', controller', phase'⟩ := second.active session'' active mine
    obtain ⟨session, held, controller, phase⟩ := first.active session' held' (controller' ▸ mine)
    exact ⟨session, held, controller'.trans controller, fun states unreported =>
      phase' states (phase states unreported)⟩
  quiet quiet := first.quiet (second.quiet quiet)
  past past := first.past (second.past past)
  telling command status phase mine := by
    have before := second.telling command status phase mine
    exact (first.telling command status (before.trans phase) mine).trans before

/-- Only the phase of the command loop, the offsets and silent effects change. -/
theorem sameReports_loop {position committed : Nat} {phase : ServicePhase}
    {trace : List (Effect F)} (reports : trace.filterMap (reportOf id) = s.reports id)
    (started : ∀ command, .accepted command ∈ trace ↔ .accepted command ∈ s.trace)
    (quiet : Quiet id phase → Quiet id s.phase) (past : PastStart id phase → PastStart id s.phase)
    (telling : ∀ command status, phase = .publishing (.status command status) →
      status.replaySessionId = id → s.phase = phase) :
    SameReports id s { s with phase, trace, position, committed } where
  reports := reports
  started := by
    unfold Started
    simp only [started]
  active session' active _ := ⟨session', active, rfl, fun _ unreported => unreported⟩
  quiet := quiet
  past := past
  telling := telling

variable {config : ReplayServiceConfig F} {origin : Origin} {fault : Option Bool} {key : UUID}
  {checkpoint : ReplayCheckpoint} {raised : Bool} {session : RunningSession F}

theorem sameReports_written (written : Written config origin fault key checkpoint s s' raised) :
    SameReports id s s' := by
  have refl : SameReports id s s :=
    ⟨rfl, .rfl, fun session active _ => ⟨session, active, rfl, fun _ unreported => unreported⟩,
      fun quiet => quiet, fun past => past, fun _ _ _ _ => rfl⟩
  cases written with
  | skipped _ => exact refl
  | lost _ _ => exact refl
  | stored _ _ _ =>
      refine ⟨rfl, ?_, refl.active, refl.quiet, refl.past, refl.telling⟩
      unfold Started wrote
      simp

theorem sameReports_updated {state : ReplayState}
    (updated : Updated config origin fault key state s s' raised) : SameReports id s s' := by
  cases updated with
  | missing _ =>
      exact ⟨rfl, .rfl, fun session active _ => ⟨session, active, rfl, fun _ unreported => unreported⟩,
        fun quiet => quiet, fun past => past, fun _ _ _ _ => rfl⟩
  | found _ written => exact sameReports_written written

theorem sameReports_withTask (active : s.active = some session) {task : ReplayTask F}
    (unreported : ∀ states, Unreported session.task.phase states → Unreported task.phase states) :
    SameReports id s (withTask session task s) := by
  refine ⟨rfl, .rfl, ?_, fun quiet => quiet, fun past => past, fun _ _ _ _ => rfl⟩
  intro session' active' _
  obtain rfl := Option.some.inj active'
  exact ⟨session, active, rfl, unreported⟩

theorem sameReports_setPhase (active : s.active = some session) {phase : TaskPhase F}
    (unreported : ∀ states, Unreported session.task.phase states → Unreported phase states) :
    SameReports id s (s.setPhase session phase) :=
  sameReports_withTask active unreported

/-- Waking a task brings no report closer. -/
theorem unreported_wake_iff (task : ReplayTask F) (states : List ReplayState) :
    Unreported task.wake.phase states ↔ Unreported task.phase states := by
  unfold ReplayTask.wake
  cases task.phase <;> rfl

theorem sameReports_beginStop (s : ReplayService F) : SameReports id s s.beginStop := by
  refine ⟨rfl, .rfl, ?_, False.elim, False.elim, ?_⟩
  · intro stopping active _
    obtain ⟨session, held, ⟨-, rfl⟩ | ⟨-, rfl⟩⟩ := beginStop_active active
    · exact ⟨stopping, held, rfl, fun _ unreported => unreported⟩
    · exact ⟨session, held, rfl, fun states => (unreported_wake_iff session.task states).mpr⟩
  · intro command status phase
    cases phase

theorem sameReports_leave (s : ReplayService F) : SameReports id s s.leave := by
  refine ⟨rfl, .rfl, ?_, False.elim, False.elim, ?_⟩
  · intro session active
    cases active
  · intro command status phase
    cases phase

/-! ### What is reported -/

/-- A status of the command loop reaches its topic. -/
theorem Tells.published {command : ReplayCommandV1} {status : ReplayStatusV1} (tells : Tells id s)
    (coherent : Coherent config s)
    (publishing : s.phase = .publishing (.status command status))
    (mine : status.replaySessionId = id) :
    Tells id { s with trace := .status (.command command) status :: s.trace, phase := .committing } := by
  have reports : ReplayService.reports id
      { s with trace := .status (.command command) status :: s.trace, phase := .committing } =
        (.command command, status) :: s.reports id := by
    unfold ReplayService.reports
    rw [List.filterMap_cons, reportOf, if_pos mine]
  obtain ⟨state, lastSequence, later⟩ := tells.1.telling command status publishing mine
  have begun : StartReported id
      { s with trace := .status (.command command) status :: s.trace, phase := .committing } := by
    unfold StartReported
    rw [reports]
    by_cases start : command.action = .start
    · refine ⟨command, status, List.mem_cons_self, start, ?_, lastSequence⟩
      rw [state, start]
      rfl
    · obtain ⟨first, held, mem, rest⟩ := later start
      exact ⟨first, held, List.mem_cons_of_mem _ mem, rest⟩
  constructor
  · constructor
    · intro unstarted
      have unstarted : ¬ s.Started id := by
        rintro ⟨accepted, mem, its⟩
        exact unstarted ⟨accepted, List.mem_cons_of_mem _ mem, its⟩
      exact absurd mine ((tells.1.unstarted unstarted).2.2 command status publishing)
    · intro other held reported
      rw [reports] at reported
      rcases List.mem_cons.mp reported with same | before
      · cases same
        exact ⟨state, lastSequence, fun _ => begun⟩
      · obtain ⟨its, position, -⟩ := tells.1.told other held before
        exact ⟨its, position, fun _ => begun⟩
    · intro other held phase
      cases phase
    · exact tells.1.position
    · intro _ _ _ _
      exact begun
  · intro unresumed
    have resumed : command.action ≠ .resume ∧ ¬ s.ResumePublished id := by
      unfold ResumePublished at unresumed ⊢
      rw [reports] at unresumed
      refine ⟨fun resume => unresumed ⟨command, status, List.mem_cons_self, resume⟩, ?_⟩
      rintro ⟨other, held, mem, resume⟩
      exact unresumed ⟨other, held, List.mem_cons_of_mem _ mem, resume⟩
    have climbs := tells.2 resumed.2
    obtain ⟨above, current⟩ := climbs.next command status publishing mine resumed.1
    constructor
    · rw [reports, List.map_cons, List.nodup_cons]
      refine ⟨?_, climbs.nodup⟩
      intro taken
      obtain ⟨report, mem, same⟩ := List.mem_map.mp taken
      have higher := above report mem
      rw [same] at higher
      exact absurd higher (lt_irrefl _)
    · intro session active its _ report mem
      rw [reports] at mem
      have same := current session active its
      rcases List.mem_cons.mp mem with rfl | before
      · rw [same]
      · rw [same]
        exact le_of_lt (above report before)
    · intro other held phase
      cases phase
    · intro session active its
      rw [reports, List.map_cons]
      have before := climbs.task session active its
      have control : status.state ≠ .completed ∧ status.state ≠ .failed := by
        rw [state]
        cases command.action <;> simp [ReplayController.stateAfter]
      cases phase : session.task.phase with
      | publishingStatus own inHandler =>
          have shape := ((coherent.session session active).status own inHandler phase).state
          rw [phase] at before
          obtain ⟨free, first⟩ := before
          refine ⟨?_, fun notHandler => ⟨?_, (first notHandler).2⟩⟩
          · rw [List.mem_cons, not_or]
            refine ⟨?_, free⟩
            rw [shape]
            cases inHandler
            · exact fun same => control.1 same.symm
            · exact fun same => control.2 same.symm
          · rw [List.mem_cons, not_or]
            exact ⟨fun same => control.2 same.symm, (first notHandler).1⟩
      | publishedStatus => trivial
      | done => trivial
      | failing =>
          rw [phase] at before
          exact List.not_mem_cons_of_ne_of_not_mem control.2.symm before
      | _ =>
          rw [phase] at before
          exact ⟨List.not_mem_cons_of_ne_of_not_mem control.1.symm before.1,
            List.not_mem_cons_of_ne_of_not_mem control.2.symm before.2⟩

/-- A status of the task reaches its topic, and the task goes on. -/
theorem Tells.taskPublished {status : ReplayStatusV1} {inHandler : Bool} (tells : Tells id s)
    (coherent : Coherent config s) (active : s.active = some session)
    (publishing : session.task.phase = .publishingStatus status inHandler) {phase : TaskPhase F}
    (goesOn : phase = .publishedStatus ∨ phase = .done ∨ inHandler = false ∧ phase = .failing) :
    Tells id ({ s with trace := .status .replay status :: s.trace }.setPhase session phase) := by
  have shape := (coherent.session session active).status status inHandler publishing
  have its : status.replaySessionId = session.controller.sessionId :=
    shape.session.trans (coherent.session session active).command
  by_cases mine : session.controller.sessionId = id
  swap
  · have silent : reportOf id (.status .replay status : Effect F) = none := if_neg (its ▸ mine)
    refine tells.frame ⟨?_, ?_, ?_, fun quiet => quiet, fun past => past, fun _ _ _ _ => rfl⟩
    · show List.filterMap _ (_ :: s.trace) = _
      rw [List.filterMap_cons, silent]
      rfl
    · unfold Started setPhase
      simp
    · intro session' held other
      obtain rfl := Option.some.inj held
      exact absurd other mine
  have reports : ReplayService.reports id
      ({ s with trace := .status .replay status :: s.trace }.setPhase session phase) =
        (.replay, status) :: s.reports id := by
    show List.filterMap _ (_ :: s.trace) = _
    rw [List.filterMap_cons, reportOf, if_pos (its.trans mine)]
    rfl
  have begun : StartReported id s → StartReported id
      ({ s with trace := .status .replay status :: s.trace }.setPhase session phase) := by
    rintro ⟨command, held, mem, rest⟩
    refine ⟨command, held, ?_, rest⟩
    rw [reports]
    exact List.mem_cons_of_mem _ mem
  constructor
  · constructor
    · intro unstarted
      have unstarted : ¬ s.Started id := by
        rintro ⟨accepted, mem, named⟩
        exact unstarted ⟨accepted, List.mem_cons_of_mem _ mem, named⟩
      exact absurd mine ((tells.1.unstarted unstarted).2.1 session active)
    · intro command held reported
      rw [reports] at reported
      rcases List.mem_cons.mp reported with same | before
      · cases (Prod.mk.inj same).1
      · obtain ⟨state, position, later⟩ := tells.1.told command held before
        exact ⟨state, position, fun control => begun (later control)⟩
    · intro command held publishing named
      obtain ⟨state, position, later⟩ := tells.1.telling command held publishing named
      exact ⟨state, position, fun control => begun (later control)⟩
    · intro session' held named
      obtain rfl := Option.some.inj held
      exact tells.1.position session active named
    · intro session' held named past
      obtain rfl := Option.some.inj held
      exact begun (tells.1.begun session active named past)
  · intro unresumed
    have unresumed : ¬ s.ResumePublished id := by
      rintro ⟨command, held, mem, resume⟩
      refine unresumed ⟨command, held, ?_, resume⟩
      rw [reports]
      exact List.mem_cons_of_mem _ mem
    have climbs := tells.2 unresumed
    have ownRank : status.state.rank = 0 := by
      rw [shape.state]
      cases inHandler <;> rfl
    have before := climbs.task session active mine
    rw [publishing] at before
    constructor
    · rw [reports, List.map_cons, List.nodup_cons]
      exact ⟨before.1, climbs.nodup⟩
    · intro session' held named quiet report mem
      obtain rfl := Option.some.inj held
      rw [reports] at mem
      rcases List.mem_cons.mp mem with rfl | mem
      · rw [ownRank]
        exact Nat.zero_le _
      · exact climbs.below session active named quiet report mem
    · intro command held phase named control
      obtain ⟨above, current⟩ := climbs.next command held phase named control
      constructor
      · intro report mem
        rw [reports] at mem
        rcases List.mem_cons.mp mem with rfl | mem
        · rw [ownRank, (tells.1.telling command held phase named).1]
          cases command.action <;> simp [ReplayController.stateAfter, ReplayState.rank]
        · exact above report mem
      · intro session' active' named'
        obtain rfl := Option.some.inj active'
        exact current session active named'
    · intro session' held named
      obtain rfl := Option.some.inj held
      rw [reports, List.map_cons]
      show Unreported phase _
      rcases goesOn with rfl | rfl | ⟨rfl, rfl⟩
      · trivial
      · trivial
      · obtain ⟨unfailed, notFailed⟩ := before.2 rfl
        show ReplayState.failed ∉ _
        rw [List.mem_cons, not_or]
        exact ⟨fun same => notFailed same.symm, unfailed⟩

end Frame

section Step

variable [PyFloat F] [Uuid5] {config : ReplayServiceConfig F} {stamp : ServiceStamp}
  {fault : Option Bool} {id : UUID} {s s' : ReplayService F} {session : RunningSession F}
  {command : ReplayCommandV1} {ctrl : ReplayController}

omit [PyFloat F] in
/-- A status of another session comes up for publication. -/
theorem sameReports_publishStatus (idle : s.phase = .idle) (other : ctrl.sessionId ≠ id) :
    SameReports id s (s.publishStatus stamp command ctrl) := by
  refine sameReports_loop rfl (fun _ => .rfl) ?_ ?_ ?_
  · rw [idle]
    exact fun _ => trivial
  · rw [idle]
    exact fun _ => trivial
  · intro told status phase mine
    cases phase
    exact absurd mine other

omit [PyFloat F] in
/-- The START of the session is accepted, or that of another. -/
theorem Tells.starts (tells : Tells id s) (idle : s.phase = .idle) (start : command.action = .start)
    (unstarted : command.replaySessionId = id → ¬ s.Started id)
    (applied : (ReplayController.created command.replaySessionId command.sourceDatasetSha256
      command.contractSha256).apply command = .ok ctrl) :
    Tells id ({ s with
      trace := .accepted command :: s.trace
      active := some ⟨ctrl, initialTask config stamp ctrl, true, false⟩ }.publishStatus stamp
        command ctrl) := by
  have result := ReplayController.apply_eq_ok applied
  have sessionId : ctrl.sessionId = command.replaySessionId := result.sessionId
  by_cases mine : command.replaySessionId = id
  swap
  · have other : ctrl.sessionId ≠ id := by
      rw [sessionId]
      exact mine
    refine tells.frame (SameReports.trans ?_ (sameReports_publishStatus idle other))
    refine ⟨rfl, ?_, ?_, fun quiet => quiet, fun past => past, fun _ _ _ _ => rfl⟩
    · unfold Started
      constructor
      · rintro ⟨accepted, mem, its⟩
        rcases List.mem_cons.mp mem with same | before
        · cases same
          exact absurd its mine
        · exact ⟨accepted, before, its⟩
      · rintro ⟨accepted, mem, its⟩
        exact ⟨accepted, List.mem_cons_of_mem _ mem, its⟩
    · intro session' held its
      obtain rfl := Option.some.inj held
      exact absurd its other
  obtain ⟨none, -, -⟩ := tells.1.unstarted (unstarted mine)
  have reports : ReplayService.reports id ({ s with
      trace := .accepted command :: s.trace
      active := some ⟨ctrl, initialTask config stamp ctrl, true, false⟩ }.publishStatus stamp
        command ctrl) = [] := none
  have lastSequence : ctrl.lastSequence = some 0 := by
    rw [result.lastSequence, start]
  constructor
  · constructor
    · intro unstarted
      exact absurd ⟨command, List.mem_cons_self, mine⟩ unstarted
    · intro told status reported
      rw [reports] at reported
      cases reported
    · intro told status phase _
      cases phase
      exact ⟨result.state, lastSequence, fun control => absurd start control⟩
    · intro session' held _
      obtain rfl := Option.some.inj held
      exact lastSequence
    · intro session' _ _ past
      exact absurd start (past (sessionId.trans mine))
  · intro _
    constructor
    · rw [reports]
      exact List.nodup_nil
    · intro _ _ _ _ report mem
      rw [reports] at mem
      cases mem
    · intro told status phase _ _
      cases phase
      rw [reports]
      refine ⟨fun report mem => absurd mem List.not_mem_nil, ?_⟩
      intro session' held _
      obtain rfl := Option.some.inj held
      rfl
    · intro session' held _
      obtain rfl := Option.some.inj held
      rw [reports]
      exact ⟨List.not_mem_nil, List.not_mem_nil⟩

omit [PyFloat F] in
/-- A control command is accepted. -/
theorem Tells.controls (tells : Tells id s) (idle : s.phase = .idle)
    (control : command.action ≠ .start) (active : s.active = some session)
    (applied : session.controller.apply command = .ok ctrl) :
    Tells id ({ s with active := some (signal command.action { session with controller := ctrl })
      }.publishStatus stamp command ctrl) := by
  have result := ReplayController.apply_eq_ok applied
  obtain ⟨controller, -⟩ := signal_frame command.action { session with controller := ctrl }
  have phase : ∀ states, Unreported session.task.phase states →
      Unreported (signal command.action { session with controller := ctrl }).task.phase states := by
    intro states unreported
    cases command.action with
    | start => exact unreported
    | pause => exact unreported
    | resume => exact (unreported_wake_iff session.task states).mpr unreported
    | stop => exact (unreported_wake_iff session.task states).mpr unreported
  by_cases mine : session.controller.sessionId = id
  swap
  · have other : ctrl.sessionId ≠ id := by
      rw [result.sessionId]
      exact mine
    refine tells.frame (SameReports.trans ?_ (sameReports_publishStatus idle other))
    refine ⟨rfl, .rfl, ?_, fun quiet => quiet, fun past => past, fun _ _ _ _ => rfl⟩
    intro session' held own
    obtain rfl := Option.some.inj held
    rw [controller] at own
    exact absurd own other
  have begun : StartReported id s := tells.1.begun session active mine (by rw [idle]; trivial)
  have lastSequence : ctrl.lastSequence = some 0 := by
    rw [result.lastSequence, tells.1.position session active mine]
    cases command.action <;> rfl
  constructor
  · constructor
    · intro unstarted
      exact absurd mine ((tells.1.unstarted unstarted).2.1 session active)
    · exact tells.1.told
    · intro told status phase _
      cases phase
      exact ⟨result.state, lastSequence, fun _ => begun⟩
    · intro session' held _
      obtain rfl := Option.some.inj held
      rw [controller]
      exact lastSequence
    · intro _ _ _ _
      exact begun
  · intro unresumed
    have climbs := tells.2 unresumed
    constructor
    · exact climbs.nodup
    · intro session' held _ quiet
      exact absurd (result.sessionId.trans mine) quiet
    · intro told status phase _ notResume
      cases phase
      constructor
      · intro report mem
        have below := climbs.below session active mine (by rw [idle]; trivial) report mem
        refine lt_of_le_of_lt below ?_
        show _ < ctrl.state.rank
        rw [result.state]
        have allowed := result.allowed
        revert control notResume allowed
        cases session.controller.state <;> cases command.action <;>
          simp [ALLOWED_TRANSITIONS, ReplayController.stateAfter, ReplayState.rank]
      · intro session' held _
        obtain rfl := Option.some.inj held
        rw [controller]
        rfl
    · intro session' held _
      obtain rfl := Option.some.inj held
      exact phase _ (climbs.task session active mine)

omit [PyFloat F] [Uuid5] in
theorem sameReports_fetched (s : ReplayService F) : SameReports id s s.fetched :=
  ⟨rfl, .rfl, fun session active _ => ⟨session, active, rfl, fun _ unreported => unreported⟩,
    fun quiet => quiet, fun past => past, fun _ _ _ _ => rfl⟩

omit [PyFloat F] [Uuid5] in
/-- A session that has not begun has reported nothing. -/
theorem Tells.of_unstarted (reports : s.reports id = [])
    (inactive : ∀ session, s.active = some session → session.controller.sessionId ≠ id)
    (silent : ∀ command status, s.phase ≠ .publishing (.status command status)) : Tells id s := by
  constructor
  · refine ⟨fun _ => ⟨reports, inactive, fun command status phase => absurd phase (silent _ _)⟩,
      ?_, fun command status phase => absurd phase (silent _ _),
      fun session active mine => absurd mine (inactive session active),
      fun session active mine => absurd mine (inactive session active)⟩
    intro command status reported
    rw [reports] at reported
    cases reported
  · intro _
    refine ⟨?_, fun session active mine => absurd mine (inactive session active),
      fun command status phase => absurd phase (silent _ _),
      fun session active mine => absurd mine (inactive session active)⟩
    rw [reports]
    exact List.nodup_nil

/-- A task that has taken an event has reported no terminal state. -/
theorem Taken.unreported {event : TelemetryEventV1 F} {task : ReplayTask F}
    (taken : Taken config stamp session event task) {states : List ReplayState}
    (unreported : Unreported session.task.phase states) : .completed ∉ states ∧ .failed ∉ states := by
  cases taken with
  | fresh ready _ _ =>
      rw [ready] at unreported
      exact unreported
  | woken waiting =>
      rw [waiting] at unreported
      exact unreported

theorem AtEnd.unreported (atEnd : AtEnd config stamp session) {states : List ReplayState}
    (unreported : Unreported session.task.phase states) : .completed ∉ states ∧ .failed ∉ states := by
  cases atEnd with
  | exhausted ready _ _ =>
      rw [ready] at unreported
      exact unreported
  | woken waiting =>
      rw [waiting] at unreported
      exact unreported

/-- A stretch of the task reports nothing. -/
theorem TaskMoves.sameReports (active : s.active = some session)
    (moves : TaskMoves config stamp session fault s s') : SameReports id s s' := by
  cases moves with
  | raises ready _ =>
      refine sameReports_setPhase active fun states unreported => ?_
      rw [ready] at unreported
      exact unreported.2
  | waitsAtEnd ready _ _ =>
      refine sameReports_setPhase active fun states unreported => ?_
      rw [ready] at unreported
      exact unreported
  | waits ready _ _ _ =>
      refine sameReports_withTask active fun states unreported => ?_
      rw [ready] at unreported
      exact unreported
  | stopsEarly _ _ _ _ => exact sameReports_withTask active fun _ _ => trivial
  | stops _ _ => exact sameReports_withTask active fun _ _ => trivial
  | sleeps delay taken _ _ => exact sameReports_withTask active fun _ => taken.unreported
  | paceFails taken _ _ _ _ =>
      exact sameReports_withTask active fun _ unreported => (taken.unreported unreported).2
  | @publishes event task taken _ =>
      refine sameReports_withTask active fun states unreported => ?_
      rw [(publish_frame task event).2.2]
      exact taken.unreported unreported
  | @wakes event delay sleeping =>
      refine sameReports_withTask active fun states unreported => ?_
      rw [(publish_frame session.task event).2.2]
      rw [sleeping] at unreported
      exact unreported
  | stopsAtEnd _ _ => exact sameReports_setPhase active fun _ _ => trivial
  | completes atEnd _ written =>
      refine (sameReports_written written).trans
        (sameReports_setPhase (written.frame.2.1.trans active) fun states unreported => ?_)
      obtain ⟨uncompleted, unfailed⟩ := atEnd.unreported unreported
      exact ⟨uncompleted, fun _ => ⟨unfailed, nofun⟩⟩
  | completeFails atEnd _ written =>
      exact (sameReports_written written).trans (sameReports_setPhase (written.frame.2.1.trans active)
        fun _ unreported => (atEnd.unreported unreported).2)
  | records published written =>
      refine (sameReports_written written).trans
        (sameReports_withTask (written.frame.2.1.trans active) fun states unreported => ?_)
      rw [published] at unreported
      exact unreported
  | recordFails published written =>
      refine (sameReports_written written).trans
        (sameReports_withTask (written.frame.2.1.trans active) fun states unreported => ?_)
      rw [published] at unreported
      exact unreported.2
  | fails failing written =>
      refine (sameReports_written written).trans
        (sameReports_setPhase (written.frame.2.1.trans active) fun states unreported => ?_)
      rw [failing] at unreported
      exact ⟨unreported, nofun⟩
  | failFails _ written =>
      exact (sameReports_written written).trans
        (sameReports_setPhase (written.frame.2.1.trans active) fun _ _ => trivial)
  | ends _ => exact sameReports_setPhase active fun _ _ => trivial

omit [PyFloat F] [Uuid5] in
/-- The message of the command loop reaches its topic. -/
theorem Tells.delivered {message : Outgoing} (tells : Tells id s) (coherent : Coherent config s)
    (publishing : s.phase = .publishing message) :
    Tells id { s with trace := Outgoing.effect message :: s.trace, phase := .committing } := by
  cases message with
  | quarantine record =>
      refine tells.frame (sameReports_loop rfl ?_ ?_ ?_ ?_)
      · intro command
        simp [Outgoing.effect]
      · rw [publishing]
        exact fun _ => trivial
      · rw [publishing]
        exact fun _ => trivial
      · intro command status phase
        cases phase
  | status command status =>
      by_cases mine : status.replaySessionId = id
      · exact tells.published coherent publishing mine
      · refine tells.frame (sameReports_loop ?_ ?_ ?_ ?_ ?_)
        · rw [Outgoing.effect, List.filterMap_cons, reportOf, if_neg mine]
          rfl
        · intro accepted
          simp [Outgoing.effect]
        · rw [publishing]
          exact fun _ => mine
        · rw [publishing]
          exact fun _ its => absurd its mine
        · intro other told phase
          cases phase

/-- Every step in the life of the session keeps the account of its reports. -/
theorem Tells.moves {action : ReplayServiceAction} (tells : Tells id s)
    (coherent : Coherent config s) (once : StartedOnce config id s action)
    (moves : Moves config s action s') : Tells id s' := by
  have fetched := tells.frame (sameReports_fetched s)
  cases moves with
  | undecodable record idle _ _ =>
      refine fetched.frame (sameReports_loop rfl (fun _ => .rfl) ?_ ?_ ?_)
      · rw [fetched_phase, idle]
        exact fun _ => trivial
      · rw [fetched_phase, idle]
        exact fun _ => trivial
      · intro command status phase
        cases phase
  | @refusedActive stamp fault payload command idle here decoded start live =>
      refine fetched.frame (sameReports_publishStatus idle fun mine => ?_)
      obtain ⟨notLive, -⟩ := once command.val (nextCommand_eq here decoded) mine start
      rw [notLive] at live
      cases live
  | @refusedIdentity stamp fault payload command idle here decoded start _ mismatch =>
      refine fetched.frame (sameReports_publishStatus idle fun mine => ?_)
      obtain ⟨-, dataset, contract, -⟩ := once command.val (nextCommand_eq here decoded) mine start
      exact mismatch.elim (fun other => other dataset) fun other => other contract
  | startFails _ _ _ _ _ _ _ written =>
      exact (fetched.frame (sameReports_written written)).frame (sameReports_beginStop _)
  | @starts stamp fault payload command s' ctrl idle here decoded start _ _ _ written applied =>
      refine (fetched.frame (sameReports_written written)).starts (written.frame.1.trans idle) start ?_
        applied
      intro mine
      rw [(sameReports_written written).started]
      exact (once command.val (nextCommand_eq here decoded) mine start).2.2.2
  | ignored idle _ _ _ _ =>
      refine fetched.frame (sameReports_loop rfl (fun _ => .rfl) ?_ ?_ ?_)
      · rw [fetched_phase, idle]
        exact fun _ => trivial
      · rw [fetched_phase, idle]
        exact fun _ => trivial
      · intro command status phase
        cases phase
  | illegal _ _ _ _ _ _ _ => exact fetched.frame (sameReports_beginStop _)
  | controlFails _ _ _ _ _ _ _ updated =>
      exact (fetched.frame (sameReports_updated updated)).frame (sameReports_beginStop _)
  | controls idle _ _ control live _ applied updated =>
      obtain ⟨-, phase, active, -⟩ := updated.coherent coherent.fetched
      exact (fetched.frame (sameReports_updated updated)).controls (phase.trans idle) control
        (active.trans (live_eq_some_iff.mp live).1) applied
  | publishes publishing => exact tells.delivered coherent publishing
  | publishRaises publishing =>
      exact (tells.delivered coherent publishing).frame (sameReports_beginStop _)
  | publishLost _ => exact tells.frame (sameReports_beginStop _)
  | commits committing =>
      refine tells.frame (sameReports_loop rfl (fun _ => .rfl) ?_ ?_ ?_)
      · rw [committing]
        exact fun _ => trivial
      · rw [committing]
        exact fun _ => trivial
      · intro command status phase
        cases phase
  | commitFails acknowledged committing _ =>
      have counted : Tells id { s with committed := acknowledged } :=
        tells.frame (sameReports_loop rfl (fun _ => .rfl) (fun quiet => quiet) (fun past => past)
          fun _ _ _ _ => rfl)
      exact counted.frame (sameReports_beginStop _)
  | task active moves => exact tells.frame (moves.sameReports active)
  | @telemetrySent session event active publishing =>
      have sent : Tells id { s with trace := .telemetry event :: s.trace } := by
        refine tells.frame (sameReports_loop rfl ?_ (fun quiet => quiet) (fun past => past)
          fun _ _ _ _ => rfl)
        simp
      refine sent.frame (sameReports_setPhase (s := { s with trace := .telemetry event :: s.trace })
        active fun states unreported => ?_)
      rw [publishing] at unreported
      exact unreported
  | @telemetryRaises session event active publishing =>
      have sent : Tells id { s with trace := .telemetry event :: s.trace } := by
        refine tells.frame (sameReports_loop rfl ?_ (fun quiet => quiet) (fun past => past)
          fun _ _ _ _ => rfl)
        simp
      refine sent.frame (sameReports_setPhase (s := { s with trace := .telemetry event :: s.trace })
        active fun states unreported => ?_)
      rw [publishing] at unreported
      exact unreported.2
  | telemetryLost active publishing =>
      refine tells.frame (sameReports_setPhase active fun states unreported => ?_)
      rw [publishing] at unreported
      exact unreported.2
  | statusSent active publishing => exact tells.taskPublished coherent active publishing (.inl rfl)
  | @statusRaises session status inHandler active publishing =>
      refine tells.taskPublished coherent active publishing ?_
      cases inHandler with
      | false => exact .inr (.inr ⟨rfl, rfl⟩)
      | true => exact .inr (.inl rfl)
  | @statusLost session status inHandler active publishing =>
      refine tells.frame (sameReports_setPhase active fun states unreported => ?_)
      rw [publishing] at unreported
      cases inHandler with
      | false => exact (unreported.2 rfl).1
      | true => trivial
  | shutsDown _ _ => exact tells.frame (sameReports_beginStop _)
  | exits _ => exact tells.frame (sameReports_leave _)
  | crashes _ => exact tells.frame (sameReports_leave _)
  | staysDown _ => exact tells
  | comesUp down _ =>
      obtain ⟨none, inactive, -⟩ := tells.1.unstarted once.1
      exact .of_unstarted none inactive fun _ _ phase => by cases phase
  | @resumes _ session checkpoint ctrl down _ one applied =>
      obtain ⟨none, -, -⟩ := tells.1.unstarted once.1
      refine .of_unstarted none ?_ fun _ _ phase => by cases phase
      intro resumed active mine
      obtain rfl := Option.some.inj active
      have held : s.store.get? session = some checkpoint := by
        have mem : (session, checkpoint) ∈ s.loadIncompleteReplays := by
          rw [one]
          exact List.mem_singleton_self _
        exact (mem_loadIncompleteReplays_iff.mp mem).1
      have its : ctrl.sessionId = session := (ReplayController.apply_eq_ok applied).sessionId
      have here : session = id := its.symm.trans mine
      have absent : s.store.get? session = .none := here ▸ once.2
      rw [absent] at held
      cases held

end Step

end ReplayService

/-- The console's log shows the replay status: the last durable status event of the
session has the state of the last status published, and no two published statuses
share an event. -/
structure LogReflects (id : UUID) (published : List ReplayStatusV1) (log : ConsoleLog F) : Prop where
  last : (log.statuses id).getLast?.map (·.state) = published.getLast?.map (·.state)
  separate : (published.map ReplayStatusV1.consoleEventId).Nodup

namespace ReplayService

variable [PyFloat F] [Uuid5] {config : ReplayServiceConfig F} {id : UUID} {s : ReplayService F}

theorem tells_of_run {actions : List ReplayServiceAction}
    (run : Lib.Run (step config) (StartedOnce config id) .initial actions s) : Tells id s := by
  have both : Coherent config s ∧ Tells id s := by
    refine run.invariant (P := fun s => Coherent config s ∧ Tells id s) ?_ ⟨coherent_initial config, ?_⟩
    · rintro s action s' ⟨coherent, tells⟩ once taken
      have moves := step_moves taken
      exact ⟨coherent.moves moves, tells.moves coherent once moves⟩
    · refine .of_unstarted rfl ?_ ?_
      · intro session active
        cases active
      · intro command status phase
        cases phase
  exact both.2

omit [PyFloat F] [Uuid5] in
/-- The id of a published status of the session. -/
theorem reports_session {report : Origin × ReplayStatusV1} (mem : report ∈ s.reports id) :
    report.2.replaySessionId = id := by
  obtain ⟨effect, -, reported⟩ := List.mem_filterMap.mp mem
  cases effect with
  | status origin status =>
      rw [reportOf] at reported
      split at reported
      · rename_i mine
        obtain rfl := Option.some.inj reported
        exact mine
      · cases reported
  | _ => cases reported

variable {sessions : List UUID} {intervalSeconds : Int} {records : List (ConsolePayload F)}
  {after : ConsoleFeed F × ConsoleLog F} {actions : List ReplayServiceAction}

/-- The status of the session that an action brings to its topic. -/
def outgoing (id : UUID) (s : ReplayService F) : ReplayServiceAction → Option ReplayStatusV1
  | .mainPublish fault =>
      match s.phase with
      | .publishing (.status _ status) =>
          if fault ≠ some false ∧ status.replaySessionId = id then some status else none
      | _ => none
  | .taskPublish fault =>
      match s.active with
      | some session =>
          match session.task.phase with
          | .publishingStatus status _ =>
              if fault ≠ some false ∧ status.replaySessionId = id then some status else none
          | _ => none
      | none => none
  | _ => none

/-- No status of the session reaches its topic that has the state and the position of an
earlier one. -/
def ReportsAnew (id : UUID) (s : ReplayService F) (action : ReplayServiceAction) : Prop :=
  ∀ status ∈ s.outgoing id action, ∀ earlier ∈ s.publishedStatuses id,
    (earlier.state, earlier.lastSequence) ≠ (status.state, status.lastSequence)

omit [PyFloat F] [Uuid5] in
theorem publishedStatuses_session {status : ReplayStatusV1} (mem : status ∈ s.publishedStatuses id) :
    status.replaySessionId = id := by
  obtain ⟨report, reported, rfl⟩ := List.mem_map.mp mem
  exact reports_session (List.mem_reverse.mp reported)

omit [PyFloat F] [Uuid5] in
theorem publishedStatuses_congr {s' : ReplayService F} (same : s'.reports id = s.reports id) :
    s'.publishedStatuses id = s.publishedStatuses id := by
  unfold publishedStatuses
  rw [same]

omit [PyFloat F] [Uuid5] in
/-- A status in front of the trace is the last one published, if it is the session's. -/
theorem publishedStatuses_cons {s' : ReplayService F} {origin : Origin} {status : ReplayStatusV1}
    {fault : Option Bool} (sent : fault ≠ some false)
    (trace : s'.trace = .status origin status :: s.trace) :
    s'.publishedStatuses id = s.publishedStatuses id ++
      (if fault ≠ some false ∧ status.replaySessionId = id then some status else none).toList := by
  unfold publishedStatuses reports
  rw [trace, List.filterMap_cons, reportOf]
  by_cases mine : status.replaySessionId = id
  · rw [if_pos mine, if_pos ⟨sent, mine⟩]
    simp
  · rw [if_neg mine, if_neg fun both => mine both.2]
    simp

/-- Only a publication that a loop awaits brings a status to its topic. -/
theorem Moves.reports {action : ReplayServiceAction} {s' : ReplayService F}
    (moves : Moves config s action s') (main : ∀ fault, action ≠ .mainPublish fault)
    (task : ∀ fault, action ≠ .taskPublish fault) : s'.reports id = s.reports id := by
  cases moves with
  | startFails _ _ _ _ _ _ _ written =>
      exact (sameReports_beginStop _).reports.trans (sameReports_written written).reports
  | starts _ _ _ _ _ _ _ written _ => exact (sameReports_written written).reports
  | illegal _ _ _ _ _ _ _ => exact (sameReports_beginStop _).reports
  | controlFails _ _ _ _ _ _ _ updated =>
      exact (sameReports_beginStop _).reports.trans (sameReports_updated updated).reports
  | controls _ _ _ _ _ _ _ updated => exact (sameReports_updated updated).reports
  | publishes _ => exact absurd rfl (main _)
  | publishRaises _ => exact absurd rfl (main _)
  | publishLost _ => exact absurd rfl (main _)
  | commitFails _ _ _ => exact (sameReports_beginStop _).reports
  | task active moves => exact (moves.sameReports active).reports
  | telemetrySent _ _ => exact absurd rfl (task _)
  | telemetryRaises _ _ => exact absurd rfl (task _)
  | telemetryLost _ _ => exact absurd rfl (task _)
  | statusSent _ _ => exact absurd rfl (task _)
  | statusRaises _ _ => exact absurd rfl (task _)
  | statusLost _ _ => exact absurd rfl (task _)
  | shutsDown _ _ => exact (sameReports_beginStop _).reports
  | _ => rfl

/-- What a step publishes of the session's statuses. -/
theorem publishedStatuses_step {action : ReplayServiceAction} {s' : ReplayService F}
    (taken : step config s action = some s') :
    s'.publishedStatuses id = s.publishedStatuses id ++ (s.outgoing id action).toList := by
  have unsent (same : s'.reports id = s.reports id) :
      s'.publishedStatuses id = s.publishedStatuses id ++ [] :=
    (publishedStatuses_congr same).trans (List.append_nil _).symm
  cases action with
  | mainPublish fault =>
      simp only [step, mainPublish] at taken
      unfold outgoing
      cases phase : s.phase with
      | publishing message =>
          rw [phase] at taken
          cases message with
          | quarantine record =>
              rcases fault with _ | _ | _ <;> cases taken <;> exact unsent rfl
          | status command status =>
              rcases fault with _ | _ | _
              · cases taken
                exact publishedStatuses_cons (by decide) rfl
              · cases taken
                exact unsent (sameReports_beginStop s).reports
              · cases taken
                exact publishedStatuses_cons (by decide) rfl
      | _ =>
          rw [phase] at taken
          cases taken
  | taskPublish fault =>
      simp only [step, taskPublish] at taken
      unfold outgoing
      cases active : s.active with
      | none =>
          rw [active] at taken
          cases taken
      | some session =>
          rw [active] at taken
          dsimp only at taken ⊢
          cases phase : session.task.phase with
          | publishing event =>
              rw [phase] at taken
              rcases fault with _ | _ | _ <;> cases taken <;> exact unsent rfl
          | publishingStatus status inHandler =>
              rw [phase] at taken
              rcases fault with _ | _ | _
              · cases taken
                exact publishedStatuses_cons (by decide) rfl
              · cases taken
                exact unsent rfl
              · cases taken
                exact publishedStatuses_cons (by decide) rfl
          | _ =>
              rw [phase] at taken
              cases taken
  | _ =>
      refine unsent ((step_moves taken).reports ?_ ?_) <;>
        exact fun _ same => by cases same

omit [PyFloat F] [Uuid5] in
/-- The log reflects what is published when no two statuses have one id. -/
theorem logReflects_iff
    (processed : ConsoleFeed.processAll sessions (.initial intervalSeconds, .empty) records = .ok after)
    (inOrder : records.filterMap (·.statusOf id) = s.publishedStatuses id) :
    LogReflects id (s.publishedStatuses id) after.2 ↔
      ((s.publishedStatuses id).map ReplayStatusV1.consoleEventId).Nodup := by
  refine ⟨LogReflects.separate, fun separate => ⟨?_, separate⟩⟩
  have logged := ConsoleFeed.statuses_processAll id records processed ConsoleLog.decoded_empty
    (by simpa [ConsoleLog.statuses, inOrder] using separate)
  rw [logged, inOrder]
  simp [ConsoleLog.statuses]

/-- The ids are apart exactly when no status repeats the state and the position of another. -/
theorem nodup_iff_reportsAnew (run : Lib.Run (step config) Lib.Always .initial actions s) :
    ((s.publishedStatuses id).map ReplayStatusV1.consoleEventId).Nodup ↔
      Lib.Run (step config) (ReportsAnew id) .initial actions s := by
  have grows : ∀ (s : ReplayService F) action s', step config s action = some s' →
      (s'.publishedStatuses id).map ReplayStatusV1.consoleEventId =
        (s.publishedStatuses id).map ReplayStatusV1.consoleEventId ++
          (s.outgoing id action).toList.map ReplayStatusV1.consoleEventId := by
    intro s action s' taken
    rw [publishedStatuses_step taken, List.map_append]
  have key : ∀ {s : ReplayService F} {action s' status}, step config s action = some s' →
      s.outgoing id action = some status → ∀ earlier ∈ s.publishedStatuses id,
        (earlier.consoleEventId = status.consoleEventId ↔
          (earlier.state, earlier.lastSequence) = (status.state, status.lastSequence)) := by
    intro s action s' status taken sends earlier mem
    have mine : status.replaySessionId = id := by
      have later : status ∈ s'.publishedStatuses id := by
        rw [publishedStatuses_step taken, sends]
        exact List.mem_append_right _ List.mem_cons_self
      exact publishedStatuses_session later
    unfold ReplayStatusV1.consoleEventId
    rw [publishedStatuses_session mem, mine]
    simp
  have guards : Lib.Run (step config) (ReportsAnew id) .initial actions s ↔
      Lib.Run (step config) (fun s action => Lib.Always s action ∧ ReportsAnew id s action)
        .initial actions s :=
    ⟨fun anew => anew.mono fun _ _ anew => ⟨trivial, anew⟩, fun anew => anew.mono fun _ _ both => both.2⟩
  rw [guards]
  refine Lib.Run.holds_iff_good (I := fun _ => True)
    (P := fun s => ((s.publishedStatuses id).map ReplayStatusV1.consoleEventId).Nodup)
    (fun _ _ _ _ _ _ => trivial) ?_ ?_ ?_ run trivial List.nodup_nil
  · intro s action s' _ _ taken anew apart
    show (List.map _ _).Nodup
    rw [grows s action s' taken]
    cases sends : s.outgoing id action with
    | none => simpa using apart
    | some status =>
        refine List.nodup_append.mpr ⟨apart, List.nodup_singleton _, fun a mem b same => ?_⟩
        obtain ⟨earlier, held, rfl⟩ := List.mem_map.mp mem
        obtain rfl := List.mem_singleton.mp same
        exact fun one => anew status sends earlier held ((key taken sends earlier held).mp one)
  · intro s action s' _ _ taken repeats apart
    rw [grows s action s' taken] at apart
    refine repeats fun status sends earlier held same => ?_
    rw [Option.mem_def.mp sends] at apart
    exact (List.nodup_append.mp apart).2.2 _ (List.mem_map_of_mem held) _ (List.mem_singleton_self _)
      ((key taken sends earlier held).mpr same)
  · intro s action s' _ _ taken merged apart
    rw [grows s action s' taken] at apart
    exact merged apart.of_append_left

/-- Without a second START and a restart, the status of a RESUME is the only repetition. -/
theorem nodup_iff_no_resume
    (run : Lib.Run (step config) (StartedOnce config id) .initial actions s) :
    ((s.publishedStatuses id).map ReplayStatusV1.consoleEventId).Nodup ↔ ¬ s.ResumePublished id := by
  obtain ⟨told, climbs⟩ := tells_of_run run
  have published : (s.publishedStatuses id).map ReplayStatusV1.consoleEventId =
      ((s.reports id).map fun report => report.2.consoleEventId).reverse := by
    simp [publishedStatuses, Function.comp_def]
  rw [published, List.nodup_reverse]
  constructor
  · rintro separate ⟨command, status, reported, resume⟩
    obtain ⟨state, lastSequence, later⟩ := told.told command status reported
    obtain ⟨first, running, started, start, firstState, firstSequence⟩ := later (by simp [resume])
    have same : ((.command command, status) : Origin × ReplayStatusV1) = (.command first, running) := by
      apply List.inj_on_of_nodup_map separate reported started
      show ReplayStatusV1.consoleEventId status = ReplayStatusV1.consoleEventId running
      unfold ReplayStatusV1.consoleEventId
      rw [reports_session reported, reports_session started, state, resume, lastSequence, firstState,
        firstSequence]
      rfl
    cases same
    rw [start] at resume
    cases resume
  · intro unresumed
    apply List.Nodup.of_map (fun key => match key with
      | .status _ state _ => state
      | .message _ => .created)
    rw [List.map_map]
    exact (climbs unresumed).nodup

/-- Whatever else the feed processes in between, in every run of the service its log
reflects the statuses of a session exactly when no status that reaches its topic has the
state and the position of an earlier one. In a session that is started once and not
interrupted that is so exactly when no RESUME is reported. -/
theorem reflects_iff (run : Lib.Run (step config) Lib.Always .initial actions s)
    (processed : ConsoleFeed.processAll sessions (.initial intervalSeconds, .empty) records = .ok after)
    (inOrder : records.filterMap (·.statusOf id) = s.publishedStatuses id) :
    (LogReflects id (s.publishedStatuses id) after.2 ↔
      Lib.Run (step config) (ReportsAnew id) .initial actions s) ∧
    (Lib.Run (step config) (StartedOnce config id) .initial actions s →
      (LogReflects id (s.publishedStatuses id) after.2 ↔ ¬ s.ResumePublished id)) := by
  have reflects := logReflects_iff processed inOrder
  exact ⟨reflects.trans (nodup_iff_reportsAnew run),
    fun once => reflects.trans (nodup_iff_no_resume once)⟩

end ReplayService

/-! ### A session that is interrupted, one that is paused, and one that is resumed -/

namespace ReplayService

instance (id : UUID) (s : ReplayService F) : Decidable (s.Started id) :=
  decidable_of_iff (∃ effect ∈ s.trace, (match effect with
      | .accepted command => decide (command.replaySessionId = id)
      | _ => false) = true) <| by
    unfold Started
    constructor
    · rintro ⟨effect, mem, its⟩
      cases effect with
      | accepted command => exact ⟨command, mem, of_decide_eq_true its⟩
      | _ => cases its
    · rintro ⟨command, mem, its⟩
      exact ⟨_, mem, decide_eq_true its⟩

instance (config : ReplayServiceConfig F) (id : UUID) (s : ReplayService F)
    (action : ReplayServiceAction) : Decidable (StartedOnce config id s action) := by
  refine ReplayServiceAction.casesOn action ?_ ?_ ?_ ?_ ?_ ?_ ?_ ?_ ?_ <;> intros <;>
    dsimp only [StartedOnce] <;> infer_instance

instance reportsAnew_decidable (id : UUID) (s : ReplayService F) (action : ReplayServiceAction) :
    Decidable (ReportsAnew id s action) :=
  inferInstanceAs (Decidable (∀ _ ∈ _, ∀ _ ∈ _, _ ≠ _))

/-- The states and positions reported of session 1. -/
def positions (s : ReplayService Int) : List (ReplayState × Option Int) :=
  (s.publishedStatuses 1).map fun status => (status.state, status.lastSequence)

/-- Its statuses as records of the feed. -/
def statusRecords (s : ReplayService Int) : List (ConsolePayload Int) :=
  (s.publishedStatuses 1).map .status

/-- The log when they have been processed; session 1 has its row. -/
def consoleLog (s : ReplayService Int) : Option (ConsoleLog Int) :=
  (ConsoleFeed.processAll [1] (.initial 60, .empty) s.statusRecords).toOption.map (·.2)

theorem processed_of_consoleLog {s : ReplayService Int} {log : ConsoleLog Int}
    (logged : s.consoleLog = some log) : ∃ feed,
      ConsoleFeed.processAll [1] (.initial 60, .empty) s.statusRecords = .ok (feed, log) := by
  unfold consoleLog at logged
  cases processed : ConsoleFeed.processAll [1] (.initial 60, .empty) s.statusRecords with
  | error refusal =>
      rw [processed] at logged
      cases logged
  | ok after =>
      rw [processed] at logged
      obtain ⟨feed, log'⟩ := after
      cases logged
      exact ⟨feed, rfl⟩

theorem statusRecords_inOrder (s : ReplayService Int) :
    s.statusRecords.filterMap (·.statusOf 1) = s.publishedStatuses 1 := by
  unfold statusRecords
  rw [List.filterMap_map]
  refine (List.filterMap_congr fun status mem => ?_).trans List.filterMap_some
  exact if_pos (publishedStatuses_session mem)

/-- A crash behind the first event, and then a PAUSE and a RESUME at its position. -/
def interruptedActions : List ReplayServiceAction :=
  [.restart false, .fetch replayStamp none, .mainPublish none, .commit none,
    .taskRun replayStamp none, .taskPublish none, .taskRun replayStamp none, .crash, .restart false,
    .fetch replayStamp none, .mainPublish none, .commit none, .fetch replayStamp none, .mainPublish none]

def pausedActions : List ReplayServiceAction :=
  [.restart false, .fetch replayStamp none, .mainPublish none, .commit none,
    .fetch replayStamp none, .mainPublish none]

def resumedActions : List ReplayServiceAction :=
  pausedActions ++ [.commit none, .fetch replayStamp none, .mainPublish none]

theorem interrupted_reflects :
    letI := knownUuid5 []
    (∃ s : ReplayService Int, s.positions = [(.running, some 0), (.paused, some 1), (.running, some 1)] ∧
      ∃ log, s.consoleLog = some log ∧ LogReflects 1 (s.publishedStatuses 1) log) ∧
    ∃ s : ReplayService Int, s.positions = [(.running, some 0), (.paused, some 0)] ∧
      ∃ log, s.consoleLog = some log ∧
        (LogReflects 1 (s.publishedStatuses 1) log ↔ ¬ s.ResumePublished 1) := by
  let := knownUuid5 []
  constructor
  · obtain ⟨s, anew, positions, stored⟩ := Lib.exists_run_of_exec
      (step (unpacedReplay true 2 [(1, .start), (1, .pause), (1, .resume)])) (ReportsAnew 1) .initial
      interruptedActions
      (fun s => s.positions = [(.running, some 0), (.paused, some 1), (.running, some 1)] ∧
        s.consoleLog.isSome) (by decide)
    obtain ⟨log, logged⟩ := Option.isSome_iff_exists.mp stored
    obtain ⟨feed, processed⟩ := processed_of_consoleLog logged
    exact ⟨s, positions, log, logged, (reflects_iff (anew.mono fun _ _ _ => trivial) processed
      s.statusRecords_inOrder).1.mpr anew⟩
  · obtain ⟨s, once, positions, stored⟩ := Lib.exists_run_of_exec
      (step (unpacedReplay true 0 [(1, .start), (1, .pause)]))
      (StartedOnce (unpacedReplay true 0 [(1, .start), (1, .pause)]) 1) .initial pausedActions
      (fun s => s.positions = [(.running, some 0), (.paused, some 0)] ∧ s.consoleLog.isSome) (by decide)
    obtain ⟨log, logged⟩ := Option.isSome_iff_exists.mp stored
    obtain ⟨feed, processed⟩ := processed_of_consoleLog logged
    exact ⟨s, positions, log, logged, (reflects_iff (once.mono fun _ _ _ => trivial) processed
      s.statusRecords_inOrder).2 once⟩

/-- A resumed session is RUNNING, and its log says that it is PAUSED. -/
theorem resumed_not_reflected :
    letI := knownUuid5 []
    ∃ (s : ReplayService Int) (log : ConsoleLog Int),
      Lib.Run (step (unpacedReplay true 0 [(1, .start), (1, .pause), (1, .resume)]))
        (StartedOnce (unpacedReplay true 0 [(1, .start), (1, .pause), (1, .resume)]) 1)
        .initial resumedActions s ∧ s.consoleLog = some log ∧
      (s.publishedStatuses 1).getLast?.map (·.state) = some .running ∧
      (log.statuses 1).getLast?.map (·.state) = some .paused ∧
      ¬ LogReflects 1 (s.publishedStatuses 1) log := by
  let := knownUuid5 []
  obtain ⟨s, run, published, stored⟩ := Lib.exists_run_of_exec
    (step (unpacedReplay true 0 [(1, .start), (1, .pause), (1, .resume)]))
    (StartedOnce (unpacedReplay true 0 [(1, .start), (1, .pause), (1, .resume)]) 1) .initial
    resumedActions
    (fun s => (s.publishedStatuses 1).getLast?.map (·.state) = some .running ∧
      ∃ log ∈ s.consoleLog, (log.statuses 1).getLast?.map (·.state) = some .paused) (by decide)
  obtain ⟨log, logged, durable⟩ := stored
  refine ⟨s, log, run, logged, published, durable, fun reflects => ?_⟩
  have last := reflects.last
  rw [published, durable] at last
  cases last

end ReplayService

end IndustrialReliability
