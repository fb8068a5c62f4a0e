import IndustrialReliability.Replay.Coherence

/-!
Commands that a session does not allow.

A command is handled well when handling it does not raise, and when one that its
session does not allow changes nothing (`HandledWell`). The handlers check the
session and that its task is not done, and leave the rest to the controller: they
do well exactly on the commands that are allowed and on control commands for a
session with no task under way (`handledWell_iff`).
-/

namespace IndustrialReliability

variable {F : Type}

/-- The task has ended or is about to, its terminal status decided. -/
def ReplayTask.isOver (task : ReplayTask F) : Bool :=
  match task.phase with
  | .publishingStatus _ _ | .publishedStatus | .done => true
  | _ => false

namespace ReplayService

/-- The session the service has last run, if it is this one. -/
def activeSession (s : ReplayService F) (id : UUID) : Option (RunningSession F) :=
  s.active.filter fun session => decide (session.controller.sessionId = id)

/-- The actions a session allows: none once its checkpoint is terminal or its task is
over, otherwise those of its controller, of its checkpoint, or of a new session. -/
def allowedActions (s : ReplayService F) (id : UUID) : List ReplayAction :=
  if s.Finished id then []
  else
    match s.activeSession id with
    | some session =>
        if session.task.isOver then [] else ALLOWED_TRANSITIONS session.controller.state
    | none => ALLOWED_TRANSITIONS (((s.store.get? id).map (·.state)).getD .created)

/-- The task of the session is under way. -/
def Running (s : ReplayService F) (id : UUID) : Prop :=
  ∃ session ∈ s.activeSession id, session.task.isDone = false

instance (s : ReplayService F) (id : UUID) : Decidable (s.Running id) := by
  unfold Running
  infer_instance

/-- Nothing but the fetch position has changed, and nothing is to be published. -/
structure Unchanged (s s' : ReplayService F) : Prop where
  active : s'.active = s.active
  store : s'.store = s.store
  trace : s'.trace = s.trace
  silent : s'.phase = .committing

/-- The handler returns, at once or when the publication it awaits does, and the
offset is about to be committed. -/
def Completes (s' : ReplayService F) : Prop :=
  s'.phase = .committing ∨ (s'.mainPublish none).map (·.phase) = some .committing

/-- A command is handled without raising, and without any change if its session does
not allow it. -/
def HandledWell (s : ReplayService F) (command : ReplayCommandV1) (s' : ReplayService F) : Prop :=
  Completes s' ∧
    (command.action ∉ s.allowedActions command.replaySessionId → Unchanged s s')

section Step

variable [PyFloat F] [Uuid5] {config : ReplayServiceConfig F} {stamp : ServiceStamp}
  {s s' : ReplayService F} {session : RunningSession F} {id : UUID} {payload : CommandPayload}
  {command : Checked ReplayCommandV1}

omit [PyFloat F] [Uuid5] in
theorem activeSession_eq_some_iff : s.activeSession id = some session ↔
    s.active = some session ∧ session.controller.sessionId = id := by
  unfold activeSession
  rw [Option.filter_eq_some_iff, decide_eq_true_eq]

omit [PyFloat F] [Uuid5] in
theorem running_of_live (live : s.live = some session) (mine : session.controller.sessionId = id) :
    s.Running id := by
  obtain ⟨active, running⟩ := live_eq_some_iff.mp live
  exact ⟨session, activeSession_eq_some_iff.mpr ⟨active, mine⟩, running⟩

omit [PyFloat F] [Uuid5] in
/-- The session under way is the one its id names. -/
theorem Running.live (running : s.Running id) :
    ∃ session, s.live = some session ∧ session.controller.sessionId = id := by
  obtain ⟨session, held, notDone⟩ := running
  obtain ⟨active, mine⟩ := activeSession_eq_some_iff.mp held
  exact ⟨session, live_eq_some_iff.mpr ⟨active, notDone⟩, mine⟩

omit [PyFloat F] [Uuid5] in
/-- The task under way allows at most what its controller does. -/
theorem mem_allowedActions (live : s.live = some session)
    (mine : session.controller.sessionId = id) {action : ReplayAction}
    (allowed : action ∈ s.allowedActions id) :
    action ∈ ALLOWED_TRANSITIONS session.controller.state := by
  have active := activeSession_eq_some_iff.mpr ⟨(live_eq_some_iff.mp live).1, mine⟩
  unfold allowedActions at allowed
  rw [active] at allowed
  dsimp only at allowed
  split at allowed
  · cases allowed
  · split at allowed
    · cases allowed
    · exact allowed

omit [PyFloat F] [Uuid5] in
/-- With a store that works an update of a recorded session returns. -/
theorem not_updated_raised {origin : Origin} {state : ReplayState}
    (stored : config.hasStore = true → (s.store.get? id).isSome = true) {raised : Bool}
    (updated : Updated config origin none id state s s' raised) : raised = false := by
  cases updated with
  | missing absent =>
      rw [absent] at stored
      simpa using stored
  | found _ written =>
      cases written with
      | skipped _ => rfl
      | stored raised _ same => cases raised <;> simp at same ⊢
      | lost _ same => cases same

omit [PyFloat F] [Uuid5] in
/-- An exception has left the command loop. -/
theorem not_completes_beginStop (s : ReplayService F) : ¬ Completes s.beginStop := by
  simp [Completes, mainPublish]

omit [PyFloat F] [Uuid5] in
/-- A status to publish is a change, so the command must be allowed. -/
theorem handledWell_of_publishing {message : Outgoing} {command : ReplayCommandV1}
    (phase : s'.phase = .publishing message)
    (taken : command.action = .start ∨ s.Running command.replaySessionId) :
    HandledWell s command s' ↔ command.action ∈ s.allowedActions command.replaySessionId ∨
      command.action ≠ .start ∧ ¬ s.Running command.replaySessionId := by
  unfold HandledWell
  constructor
  · rintro ⟨-, unchanged⟩
    by_contra illegal
    have silent := (unchanged fun allowed => illegal (.inl allowed)).silent
    rw [phase] at silent
    cases silent
  · rintro (allowed | ⟨control, idle⟩)
    · refine ⟨.inr ?_, fun illegal => absurd allowed illegal⟩
      simp [mainPublish, phase]
    · exact (taken.elim control idle).elim

/-- The handlers do well exactly on the commands a session allows, and on control
commands for a session with no task under way. -/
theorem handledWell_iff (reach : Lib.Reachable (step config) .initial s)
    (here : config.commands[s.position]? = some payload) (decoded : payload.value = .ok command)
    (handled : s.fetch config stamp none = some s') :
    HandledWell s command.val s' ↔
      command.val.action ∈ s.allowedActions command.val.replaySessionId ∨
        command.val.action ≠ .start ∧ ¬ s.Running command.val.replaySessionId := by
  have coherent := coherent_of_reachable reach
  have moves := fetch_moves handled
  have same : ∀ {payload' : CommandPayload} {command' : Checked ReplayCommandV1},
      config.commands[s.position]? = some payload' → payload'.value = .ok command' →
      command' = command := by
    intro payload' command' here' decoded'
    obtain rfl := Option.some.inj (here.symm.trans here')
    exact Except.ok.inj (decoded'.symm.trans decoded)
  cases fetch_moves handled with
  | undecodable _ _ here' undecoded =>
      obtain rfl := Option.some.inj (here.symm.trans here')
      rw [decoded] at undecoded
      cases undecoded
  | refusedActive _ here' decoded' start _ =>
      obtain rfl := same here' decoded'
      exact handledWell_of_publishing rfl (.inl start)
  | refusedIdentity _ here' decoded' start _ _ =>
      obtain rfl := same here' decoded'
      exact handledWell_of_publishing rfl (.inl start)
  | startFails _ here' decoded' start _ _ _ written => cases written with
      | lost _ fault => cases fault
      | stored _ _ fault => cases fault
  | starts _ here' decoded' start _ _ _ _ _ =>
      obtain rfl := same here' decoded'
      exact handledWell_of_publishing rfl (.inl start)
  | ignored _ here' decoded' control other =>
      obtain rfl := same here' decoded'
      refine iff_of_true ⟨.inl rfl, fun _ => ⟨rfl, rfl, rfl, rfl⟩⟩ (.inr ⟨control, ?_⟩)
      intro running
      obtain ⟨session, live, mine⟩ := running.live
      exact other session live mine
  | illegal _ here' decoded' control live mine failed =>
      obtain rfl := same here' decoded'
      refine iff_of_false (fun well => not_completes_beginStop _ well.1) ?_
      rintro (allowed | ⟨-, idle⟩)
      · obtain ⟨ctrl, applied⟩ := (ReplayController.exists_apply_iff _ _).mpr
          ⟨mine.symm, mem_allowedActions live mine allowed⟩
        rw [applied] at failed
        cases failed
      · exact idle (running_of_live live mine)
  | controlFails _ here' decoded' control live mine applied updated =>
      have ok := coherent.session _ (live_eq_some_iff.mp live).1
      have result := ReplayController.apply_eq_ok applied
      have stored := ok.stored
      rw [← result.sessionId] at stored
      cases not_updated_raised (s := s.fetched) stored updated
  | controls _ here' decoded' control live mine applied updated =>
      obtain rfl := same here' decoded'
      exact handledWell_of_publishing rfl (.inr (running_of_live live mine))

end Step

instance (s' : ReplayService F) : Decidable (Completes s') := by
  unfold Completes
  infer_instance

/-- A PAUSE of a session whose task is under way is handled well. -/
theorem firstPause_handledWell :
    letI := knownUuid5 []
    let config := unpacedReplay true 0 [(1, .start), (1, .pause), (1, .pause)]
    ∃ s s', Lib.Reachable (step config) .initial s ∧
      s.fetch config replayStamp none = some s' ∧ HandledWell s (replayCommand 1 .pause) s' := by
  let := knownUuid5 []
  let config := unpacedReplay true 0 [(1, .start), (1, .pause), (1, .pause)]
  obtain ⟨s, run, position, allowed, enabled⟩ := Lib.exists_run_of_exec (step config) Lib.Always
    .initial [.restart false, .fetch replayStamp none, .mainPublish none, .commit none]
    (fun s => s.position = 1 ∧ .pause ∈ s.allowedActions 1 ∧
      (s.fetch config replayStamp none).isSome = true) (by decide)
  obtain ⟨s', handled⟩ := Option.isSome_iff_exists.mp enabled
  refine ⟨s, s', ⟨_, run⟩, handled, ?_⟩
  let pause : Checked ReplayCommandV1 := ⟨replayCommand 1 .pause, replayCommand_valid 1 .pause⟩
  have here : config.commands[s.position]? = some ⟨1, .ok pause⟩ := by
    rw [position]
    rfl
  exact (handledWell_iff ⟨_, run⟩ here rfl handled).mpr (.inl allowed)

/-- A second PAUSE raises out of the command loop. -/
theorem secondPause_raises :
    letI := knownUuid5 []
    let config := unpacedReplay true 0 [(1, .start), (1, .pause), (1, .pause)]
    ∃ s s', Lib.Reachable (step config) .initial s ∧
      s.fetch config replayStamp none = some s' ∧ ¬ HandledWell s (replayCommand 1 .pause) s' := by
  let := knownUuid5 []
  let config := unpacedReplay true 0 [(1, .start), (1, .pause), (1, .pause)]
  obtain ⟨s, run, raises⟩ := Lib.exists_run_of_exec (step config) Lib.Always
    .initial [.restart false, .fetch replayStamp none, .mainPublish none, .commit none,
      .fetch replayStamp none, .mainPublish none, .commit none]
    (fun s => (s.fetch config replayStamp none).any (fun s' => !decide (Completes s')) = true)
    (by decide)
  obtain ⟨s', handled, incomplete⟩ := (Option.any_eq_true _ _).mp raises
  refine ⟨s, s', ⟨_, run⟩, handled, fun well => ?_⟩
  simp [well.1] at incomplete

end ReplayService

end IndustrialReliability
