import IndustrialReliability.Lib.Logs
import IndustrialReliability.Replay.Coherence

/-!
Redelivered STARTs.

Commands are delivered at least once, so the START that began a session may be
handled again. `StartIdempotent` says what such a START must not do: fail the
session, set its checkpoint back, or publish its first event again once it is over.
The service does not recognise the session as its own: a START is harmless only
while no task is under way and the checkpoint is still the one the START wrote
(`startIdempotent_of_run`). A START has begun its session as soon as its checkpoint is
recorded, whether or not the write returned.
-/

namespace IndustrialReliability

variable {F : Type}

/-- How far a state is in the life of a session. -/
def ReplayState.stage : ReplayState → Nat
  | .created => 0
  | .running => 1
  | .paused => 2
  | .stopped | .completed | .failed => 3

/-- A checkpoint behind an earlier one, in state or in sequence. -/
def ReplayCheckpoint.Behind (checkpoint old : ReplayCheckpoint) : Prop :=
  checkpoint.state.stage < old.state.stage ∨ checkpoint.lastSequence < old.lastSequence

/-- The command whose session the effect began: the first checkpoint of a START, or its
task. -/
def Effect.acceptedCommand : Effect F → Option ReplayCommandV1
  | .accepted command => some command
  | .recorded (.command command) _ _ => if command.action = .start then some command else none
  | _ => none

namespace ReplayService

/-- The START has begun its session before. -/
def Accepted (command : ReplayCommandV1) (trace : List (Effect F)) : Prop :=
  command ∈ trace.filterMap Effect.acceptedCommand

instance (command : ReplayCommandV1) (trace : List (Effect F)) :
    Decidable (Accepted command trace) :=
  inferInstanceAs (Decidable (command ∈ _))

/-- The effect is none of a redelivered START that fails its session, sets its
checkpoint back or publishes its first event after the terminal checkpoint. -/
def Harmless : Effect F → List (Effect F) → Prop
  | .status (.command command) status, before =>
      Accepted command before → status.state ≠ .failed
  | .recorded (.command command) id checkpoint, before =>
      Accepted command before → ∀ old, lastRecorded id before = some old → ¬ checkpoint.Behind old
  | .telemetry event, before => event.sequence = 1 → ∀ command checkpoint earlier,
      (.recorded (.command command) event.replaySessionId checkpoint :: earlier) <:+ before →
      Accepted command earlier →
      ∀ old, lastRecorded event.replaySessionId earlier = some old → ¬ old.state.Terminal
  | _, _ => True

def StartIdempotent (s : ReplayService F) : Prop := Lib.Logged Harmless s.trace

/-- A START that has begun its session is handled again only while no task is under
way and the checkpoint of the session is still the first. -/
def RedeliveredUntouched (config : ReplayServiceConfig F) (s : ReplayService F) :
    ReplayServiceAction → Prop
  | .fetch _ _ => ∀ command ∈ s.nextCommand config, Accepted command s.trace →
      s.live.isSome = false ∧ ∀ checkpoint ∈ s.store.get? command.replaySessionId,
        checkpoint.state = .running ∧ checkpoint.lastSequence = 0
  | _ => True

instance (config : ReplayServiceConfig F) (s : ReplayService F) (a : ReplayServiceAction) :
    Decidable (RedeliveredUntouched config s a) := by
  refine ReplayServiceAction.casesOn a ?_ ?_ ?_ ?_ ?_ ?_ ?_ ?_ ?_ <;> intros <;>
    dsimp only [RedeliveredUntouched] <;> infer_instance

/-- A redelivered START does not fail its session and only repeats its checkpoint. -/
def Repeats : Effect F → List (Effect F) → Prop
  | .status (.command command) status, before =>
      Accepted command before → status.state ≠ .failed
  | .recorded (.command command) id checkpoint, before =>
      Accepted command before → ∀ old, lastRecorded id before = some old →
        old.state = .running ∧ checkpoint.state = old.state ∧
          checkpoint.lastSequence = old.lastSequence
  | _, _ => True

theorem harmless_of_repeats {trace : List (Effect F)} (repeats : Lib.Logged Repeats trace) :
    Lib.Logged Harmless trace := by
  intro effect before inside
  have here := repeats effect before inside
  cases effect with
  | accepted _ => trivial
  | quarantine _ => trivial
  | started => trivial
  | status origin status =>
      cases origin with
      | replay => trivial
      | command command => exact here
  | recorded origin id checkpoint =>
      cases origin with
      | replay => trivial
      | command command =>
          intro accepted old held
          obtain ⟨-, state, sequence⟩ := here accepted old held
          simp [ReplayCheckpoint.Behind, state, sequence]
  | telemetry event =>
      intro _ command checkpoint earlier recorded accepted old held
      have written := repeats _ _ (recorded.trans ((List.suffix_cons _ _).trans inside))
      obtain ⟨running, -⟩ := written accepted old held
      simp [running, ReplayState.Terminal]

/-- What keeps a redelivered START harmless. -/
structure Recognised (config : ReplayServiceConfig F) (s : ReplayService F) : Prop where
  history : Lib.Logged Repeats s.trace
  starts : ∀ command, Accepted command s.trace → command.action = .start ∧
    command.sourceDatasetSha256 = config.source.sourceDatasetSha256 ∧
    command.contractSha256 = config.source.contractSha256
  message : ∀ command status, s.phase = .publishing (.status command status) →
    status.state = .failed → ¬ Accepted command s.trace

theorem recognised_initial (config : ReplayServiceConfig F) : Recognised config .initial where
  history := Lib.logged_nil
  starts := by simp [Accepted, initial]
  message := by simp [initial]

section Keeps

variable {config : ReplayServiceConfig F} {s s' : ReplayService F} {effect : Effect F}
  {origin : Origin} {fault : Option Bool} {id : UUID} {checkpoint : ReplayCheckpoint}
  {raised : Bool}

theorem accepted_cons_of_none {command : ReplayCommandV1} {trace : List (Effect F)}
    (plain : effect.acceptedCommand = none) :
    Accepted command (effect :: trace) ↔ Accepted command trace := by
  unfold Accepted
  rw [List.filterMap_cons_none plain]

theorem accepted_recorded {command other : ReplayCommandV1} {trace : List (Effect F)} :
    Accepted other (.recorded (.command command) id checkpoint :: trace) ↔
      other = command ∧ command.action = .start ∨ Accepted other trace := by
  unfold Accepted
  by_cases start : command.action = .start <;> simp [Effect.acceptedCommand, start]

/-- One effect that begins no session, and no refusal to publish. -/
theorem Recognised.effected (recognised : Recognised config s) (effect : Effect F)
    (plain : effect.acceptedCommand = none) (repeats : Repeats effect s.trace) (trace : s'.trace = effect :: s.trace)
    (phase : ∀ command status, s'.phase = .publishing (.status command status) →
      status.state = .failed → ¬ Accepted command s.trace) : Recognised config s' where
  history := by
    rw [trace, Lib.logged_cons_iff]
    exact ⟨repeats, recognised.history⟩
  starts command accepted := by
    rw [trace, accepted_cons_of_none plain] at accepted
    exact recognised.starts command accepted
  message command status publishing failed := by
    rw [trace, accepted_cons_of_none plain]
    exact phase command status publishing failed

/-- No effect, and no refusal to publish. -/
theorem Recognised.quiet (recognised : Recognised config s) (trace : s'.trace = s.trace)
    (phase : ∀ command status, s'.phase = .publishing (.status command status) →
      status.state = .failed → ¬ Accepted command s.trace) : Recognised config s' where
  history := trace ▸ recognised.history
  starts := trace ▸ recognised.starts
  message := trace ▸ phase

theorem Recognised.written (recognised : Recognised config s)
    (written : Written config origin fault id checkpoint s s' raised)
    (plain : (Effect.recorded (F := F) origin id checkpoint).acceptedCommand = none)
    (repeats : Repeats (.recorded origin id checkpoint) s.trace) : Recognised config s' := by
  obtain ⟨phase, -⟩ := written.frame
  cases written with
  | skipped _ => exact recognised
  | lost _ _ => exact recognised
  | stored _ _ _ =>
      exact recognised.effected (.recorded origin id checkpoint) plain repeats rfl recognised.message

/-- The first checkpoint of a START. -/
theorem Recognised.begun {command : ReplayCommandV1} (recognised : Recognised config s)
    (idle : s.phase = .idle) (start : command.action = .start)
    (dataset : command.sourceDatasetSha256 = config.source.sourceDatasetSha256)
    (contract : command.contractSha256 = config.source.contractSha256)
    (written : Written config (.command command) fault id checkpoint s s' raised)
    (repeats : Repeats (.recorded (.command command) id checkpoint) s.trace) :
    Recognised config s' := by
  cases written with
  | skipped _ => exact recognised
  | lost _ _ => exact recognised
  | stored _ _ _ =>
      refine ⟨Lib.logged_cons_iff.mpr ⟨repeats, recognised.history⟩, fun other accepted => ?_,
        fun other status publishing => ?_⟩
      · rcases accepted_recorded.mp accepted with ⟨rfl, -⟩ | before
        · exact ⟨start, dataset, contract⟩
        · exact recognised.starts other before
      · rw [wrote_phase, idle] at publishing
        cases publishing

/-- The message the command loop publishes. -/
theorem Recognised.outgoing {message : Outgoing} (recognised : Recognised config s)
    (publishing : s.phase = .publishing message) :
    (Outgoing.effect (F := F) message).acceptedCommand = none ∧
      Repeats (Outgoing.effect message) s.trace := by
  cases message with
  | status command status =>
      refine ⟨rfl, fun accepted failed => ?_⟩
      exact recognised.message command status publishing failed accepted
  | quarantine record => exact ⟨rfl, trivial⟩

theorem Recognised.beginStop (recognised : Recognised config s) : Recognised config s.beginStop :=
  recognised.quiet rfl (by simp)

end Keeps

section Step

variable [PyFloat F] [Uuid5] {config : ReplayServiceConfig F} {stamp : ServiceStamp}
  {fault : Option Bool} {s s' : ReplayService F} {session : RunningSession F}
  {payload : CommandPayload} {command : Checked ReplayCommandV1}

/-- A stretch of the task records on its own behalf. -/
theorem Recognised.taskMoves (recognised : Recognised config s)
    (moves : TaskMoves config stamp session fault s s') : Recognised config s' := by
  have keeps : ∀ {s s' : ReplayService F}, Recognised config s → s'.trace = s.trace →
      s'.phase = s.phase → Recognised config s' := by
    intro s s' recognised trace phase
    exact recognised.quiet trace (phase ▸ recognised.message)
  cases moves with
  | completes _ _ written => exact keeps (recognised.written written rfl trivial) rfl rfl
  | completeFails _ _ written => exact keeps (recognised.written written rfl trivial) rfl rfl
  | records _ written => exact keeps (recognised.written written rfl trivial) rfl rfl
  | recordFails _ written => exact keeps (recognised.written written rfl trivial) rfl rfl
  | fails _ written => exact keeps (recognised.written written rfl trivial) rfl rfl
  | failFails _ written => exact keeps (recognised.written written rfl trivial) rfl rfl
  | raises _ _ => exact keeps recognised rfl rfl
  | waitsAtEnd _ _ _ => exact keeps recognised rfl rfl
  | waits _ _ _ _ => exact keeps recognised rfl rfl
  | stopsEarly _ _ _ _ => exact keeps recognised rfl rfl
  | stops _ _ => exact keeps recognised rfl rfl
  | sleeps _ _ _ _ => exact keeps recognised rfl rfl
  | paceFails _ _ _ _ _ => exact keeps recognised rfl rfl
  | publishes _ _ => exact keeps recognised rfl rfl
  | wakes _ => exact keeps recognised rfl rfl
  | stopsAtEnd _ _ => exact keeps recognised rfl rfl
  | ends _ => exact keeps recognised rfl rfl

omit [PyFloat F] [Uuid5] in
/-- The checkpoint a START writes repeats the one there is. -/
theorem repeats_start (coherent : Coherent config s)
    (guarded : RedeliveredUntouched config s (.fetch stamp fault))
    (here : config.commands[s.position]? = some payload) (decoded : payload.value = .ok command) :
    Repeats (.recorded (.command command.val) command.val.replaySessionId
      ⟨command.val, .running, 0, none⟩) s.trace := by
  intro accepted old held
  rw [← coherent.history] at held
  obtain ⟨running, first⟩ := (guarded _ (nextCommand_eq here decoded) accepted).2 old held
  exact ⟨running, running.symm, first.symm⟩

omit [PyFloat F] [Uuid5] in
/-- A control command has begun no session. -/
theorem Recognised.control (recognised : Recognised config s)
    (control : command.val.action ≠ .start) : ¬ Accepted command.val s.trace :=
  fun accepted => control (recognised.starts _ accepted).1

omit [PyFloat F] [Uuid5] in
theorem Recognised.updated {id : UUID} {state : ReplayState} {raised : Bool}
    (recognised : Recognised config s) (control : command.val.action ≠ .start)
    (updated : Updated config (.command command.val) fault id state s s' raised) :
    Recognised config s' := by
  cases updated with
  | missing _ => exact recognised
  | found _ written =>
      exact recognised.written written (if_neg control) fun accepted =>
        absurd accepted (recognised.control control)

omit [PyFloat F] [Uuid5] in
theorem stateAfter_ne_failed (action : ReplayAction) :
    ReplayController.stateAfter action ≠ .failed := by
  cases action <;> simp [ReplayController.stateAfter]

/-- Every step whose redelivered STARTs find their session untouched. -/
theorem Recognised.moves {action : ReplayServiceAction} (recognised : Recognised config s)
    (coherent : Coherent config s) (guarded : RedeliveredUntouched config s action)
    (moves : Moves config s action s') : Recognised config s' := by
  have taken : Recognised config s.fetched := recognised.quiet rfl recognised.message
  cases moves with
  | undecodable record _ _ _ => exact recognised.quiet rfl (by simp)
  | refusedActive _ here decoded _ live =>
      refine recognised.quiet rfl ?_
      rintro _ _ ⟨⟩ _ accepted
      have unrefused := (guarded _ (nextCommand_eq here decoded) accepted).1
      rw [live] at unrefused
      cases unrefused
  | refusedIdentity _ _ _ _ _ mismatch =>
      refine recognised.quiet rfl ?_
      rintro _ _ ⟨⟩ _ accepted
      obtain ⟨-, dataset, contract⟩ := recognised.starts _ accepted
      exact mismatch.elim (absurd dataset) (absurd contract)
  | startFails idle here decoded start _ dataset contract written =>
      exact (taken.begun idle start dataset contract written
        (repeats_start (s := s) coherent guarded here decoded)).beginStop
  | @starts _ _ _ command s₁ ctrl idle here decoded start _ dataset contract written applied =>
      have next := taken.begun idle start dataset contract written
        (repeats_start (s := s) coherent guarded here decoded)
      refine ⟨?_, ?_, ?_⟩
      · exact Lib.logged_cons_iff.mpr ⟨trivial, next.history⟩
      · intro other accepted
        rcases List.mem_cons.mp accepted with rfl | accepted
        · exact ⟨start, dataset, contract⟩
        · exact next.starts other accepted
      · rintro _ _ ⟨⟩ failed
        have state : ctrl.state = .failed := failed
        rw [(ReplayController.apply_eq_ok applied).state, start] at state
        cases state
  | ignored _ _ _ _ _ => exact recognised.quiet rfl (by simp)
  | illegal _ _ _ _ _ _ _ => exact taken.beginStop
  | controlFails _ _ _ control _ _ _ updated => exact (taken.updated control updated).beginStop
  | @controls _ _ _ _ _ ctrl _ _ _ _ control _ _ applied updated =>
      refine (taken.updated control updated).quiet rfl ?_
      rintro _ _ ⟨⟩ failed
      have state : ctrl.state = .failed := failed
      rw [(ReplayController.apply_eq_ok applied).state] at state
      exact absurd state (stateAfter_ne_failed _)
  | @publishes _ message publishing =>
      obtain ⟨plain, repeats⟩ := recognised.outgoing publishing
      exact recognised.effected (Outgoing.effect message) plain repeats rfl (by simp)
  | @publishRaises _ message publishing =>
      obtain ⟨plain, repeats⟩ := recognised.outgoing publishing
      exact recognised.effected (Outgoing.effect message) plain repeats rfl (by simp)
  | publishLost _ => exact recognised.beginStop
  | commits _ => exact recognised.quiet rfl (by simp)
  | commitFails _ _ _ => exact recognised.quiet rfl (by simp)
  | task _ moves => exact recognised.taskMoves moves
  | @telemetrySent _ event _ _ =>
      exact recognised.effected (.telemetry event) rfl trivial rfl recognised.message
  | @telemetryRaises _ event _ _ =>
      exact recognised.effected (.telemetry event) rfl trivial rfl recognised.message
  | telemetryLost _ _ => exact recognised.quiet rfl recognised.message
  | @statusSent _ status _ _ _ =>
      exact recognised.effected (.status .replay status) rfl trivial rfl recognised.message
  | @statusRaises _ status _ _ _ =>
      exact recognised.effected (.status .replay status) rfl trivial rfl recognised.message
  | statusLost _ _ => exact recognised.quiet rfl recognised.message
  | shutsDown _ _ => exact recognised.beginStop
  | exits _ => exact recognised.quiet rfl (by simp)
  | crashes _ => exact recognised.quiet rfl (by simp)
  | staysDown _ => exact recognised
  | comesUp _ _ => exact recognised.effected .started rfl trivial rfl (by simp)
  | resumes _ _ _ _ => exact recognised.effected .started rfl trivial rfl (by simp)

/-- In a run whose redelivered STARTs find their session untouched they are harmless. -/
theorem startIdempotent_of_run {as : List ReplayServiceAction}
    (run : Lib.Run (step config) (RedeliveredUntouched config) .initial as s) :
    StartIdempotent s := by
  have kept : Coherent config s ∧ Recognised config s := by
    refine run.invariant (P := fun s => Coherent config s ∧ Recognised config s) ?_
      ⟨coherent_initial config, recognised_initial config⟩
    rintro s a s' ⟨coherent, recognised⟩ guarded taken
    have moves := step_moves taken
    exact ⟨coherent.moves moves, recognised.moves coherent guarded moves⟩
  exact harmless_of_repeats kept.2.history

end Step

/-- The last effect is the refusal of a START that has begun its session. -/
def RefusedOwn : List (Effect F) → Prop
  | .status (.command command) status :: before => status.state = .failed ∧ Accepted command before
  | _ => False

instance (trace : List (Effect F)) : Decidable (RefusedOwn trace) := by
  unfold RefusedOwn
  split <;> infer_instance

theorem not_logged_of_refusedOwn {trace : List (Effect F)} (refused : RefusedOwn trace) :
    ¬ Lib.Logged Harmless trace := by
  unfold RefusedOwn at refused
  split at refused
  · rename_i command status before
    intro logged
    obtain ⟨failed, accepted⟩ := refused
    exact (Lib.logged_cons_iff.mp logged).1 accepted failed
  · exact refused.elim

/-- The sequence number of an event that is published. -/
def Effect.telemetrySequence : Effect F → Option Int
  | .telemetry event => some event.sequence
  | _ => none

/-- The process crashes behind a START, and when it resumes the session the first event
and the checkpoint of the failure are lost; then the START comes again. -/
def redeliveredActions : List ReplayServiceAction :=
  [.restart false, .fetch replayStamp none, .mainPublish none, .crash, .restart false,
    .taskRun replayStamp none, .taskPublish (some false), .taskRun replayStamp (some false),
    .fetch replayStamp none, .mainPublish none, .taskRun replayStamp none, .taskPublish none]

/-- The START is recorded twice, and then the first event is published. -/
theorem redeliveredRun_startIdempotent :
    letI := knownUuid5 []
    let config := unpacedReplay true 1 [(1, .start)]
    ∃ s, Lib.Run (step config) (RedeliveredUntouched config) .initial redeliveredActions s ∧
      s.trace.filterMap Effect.acceptedCommand = List.replicate 4 (replayCommand 1 .start) ∧
      s.trace.filterMap Effect.telemetrySequence = [1] ∧
      lastRecorded 1 s.trace = some ⟨replayCommand 1 .start, .running, 0, none⟩ ∧
      StartIdempotent s := by
  let := knownUuid5 []
  let config := unpacedReplay true 1 [(1, .start)]
  obtain ⟨s, run, begun, sent, last⟩ := Lib.exists_run_of_exec (step config)
    (RedeliveredUntouched config) .initial redeliveredActions
    (fun s => s.trace.filterMap Effect.acceptedCommand = List.replicate 4 (replayCommand 1 .start) ∧
      s.trace.filterMap Effect.telemetrySequence = [1] ∧
      lastRecorded 1 s.trace = some ⟨replayCommand 1 .start, .running, 0, none⟩) (by decide)
  exact ⟨s, run, begun, sent, last, startIdempotent_of_run run⟩

/-- A crash before the commit: the restart resumes the session, and its own START is
refused as one of another session. -/
theorem redeliveredStart_fails_its_session :
    letI := knownUuid5 []
    let config := unpacedReplay true 0 [(1, .start)]
    ∃ s, Lib.Reachable (step config) .initial s ∧ ¬ StartIdempotent s := by
  let := knownUuid5 []
  let config := unpacedReplay true 0 [(1, .start)]
  obtain ⟨s, run, refused⟩ := Lib.exists_run_of_exec (step config) Lib.Always .initial
    [.restart false, .fetch replayStamp none, .mainPublish none, .crash, .restart false,
      .fetch replayStamp none, .mainPublish none]
    (fun s => RefusedOwn s.trace) (by decide)
  exact ⟨s, ⟨_, run⟩, not_logged_of_refusedOwn refused⟩

end ReplayService

end IndustrialReliability
