import IndustrialReliability.Lib.Resent
import IndustrialReliability.Replay.Uniqueness

/-!
The telemetry of a replay, over crashes and restarts.

A replay begins with a START that is recorded or accepted, and publishes the rows of its
range one after another. Behind a restart it goes on from the last checkpoint, which is
at most one event behind what was published; that event is published again, under the
same number. So no event of the range is ever left out, and a replay that has completed
has published all of them, unless a PAUSE or RESUME takes back the terminal checkpoint
of a replay.
-/

namespace IndustrialReliability

variable {F : Type}

/-- The checkpoint would be resumed by `start`. -/
def ReplayCheckpoint.Resumable (checkpoint : ReplayCheckpoint) : Prop :=
  checkpoint.state = .running ∨ checkpoint.state = .paused

namespace ReplayService

/-! ### What was published -/

/-- The START that an effect begins a replay of the session with. -/
def begins (id : UUID) : Effect F → Option ReplayCommandV1
  | .accepted command => if command.replaySessionId = id then some command else none
  | .recorded (.command command) _ _ =>
      if command.replaySessionId = id ∧ command.action = .start then some command else none
  | _ => none

/-- The latest replay of a session: its START and what has happened since, the latest
effect first. -/
def latestReplay (id : UUID) : List (Effect F) → Option (ReplayCommandV1 × List (Effect F))
  | [] => none
  | effect :: before =>
      match begins id effect with
      | some command => some (command, [])
      | none => (latestReplay id before).map fun replay => (replay.1, effect :: replay.2)

/-- The telemetry of a session among some effects. -/
def telemetryOf (id : UUID) (effects : List (Effect F)) : List (TelemetryEventV1 F) :=
  effects.filterMap fun
    | .telemetry event => if event.replaySessionId = id then some event else none
    | _ => none

def restarts (effects : List (Effect F)) : Nat :=
  effects.countP fun
    | .started => true
    | _ => false

/-- The rows of the range of a command. -/
def rangeRows (source : ReplaySource F) (command : ReplayCommandV1) : List (SourceRow F) :=
  match command.rangeStart, command.rangeEnd with
  | some rangeStart, some rangeEnd => source.selected rangeStart rangeEnd none
  | _, _ => []

/-- The event of the `k`-th row of the range. -/
def IsEvent [Uuid5] (source : ReplaySource F) (command : ReplayCommandV1) (k : Nat)
    (event : TelemetryEventV1 F) : Prop :=
  ∃ emittedAt row, (rangeRows source command)[k]? = some row ∧
    event = source.event command (k + 1) emittedAt row

/-- The status reports that the session is completed. -/
def ReportsEnd (id : UUID) (status : ReplayStatusV1) : Prop :=
  status.replaySessionId = id ∧ status.state = .completed

/-- No PAUSE or RESUME is accepted for a session with a terminal checkpoint. -/
def LeavesTerminal (config : ReplayServiceConfig F) (s : ReplayService F) :
    ReplayServiceAction → Prop
  | .fetch _ _ => ∀ command ∈ s.nextCommand config,
      command.action = .pause ∨ command.action = .resume →
      (s.accepting command).isSome = true → ¬ s.Finished command.replaySessionId
  | _ => True

instance (config : ReplayServiceConfig F) (s : ReplayService F) (a : ReplayServiceAction) :
    Decidable (LeavesTerminal config s a) := by
  refine ReplayServiceAction.casesOn a ?_ ?_ ?_ ?_ ?_ ?_ ?_ ?_ ?_ <;> intros <;>
    dsimp only [LeavesTerminal] <;> infer_instance

/-! ### Where a replay is -/

/-- Two commands of one replay. -/
structure SameReplay (command command' : ReplayCommandV1) : Prop where
  session : command'.replaySessionId = command.replaySessionId
  rangeStart : command'.rangeStart = command.rangeStart
  rangeEnd : command'.rangeEnd = command.rangeEnd

/-- The timestamps of the rows strictly increase. -/
def Increasing (rows : List (SourceRow F)) : Prop :=
  rows.Pairwise fun a b => a.timestamp < b.timestamp

/-- The position that a checkpoint stores behind the first `k` rows. -/
inductive CheckpointAt (rows : List (SourceRow F)) : Nat → Int → Option Int → Prop where
  | start : CheckpointAt rows 0 0 none
  | row {k : Nat} {row : SourceRow F} : Increasing rows → rows[k]? = some row →
      CheckpointAt rows (k + 1) (k + 1 : Nat) (some row.timestamp)

theorem CheckpointAt.last {rows : List (SourceRow F)} {k : Nat} {last : Int} {timestamp : Option Int}
    (behind : CheckpointAt rows k last timestamp) : last = k := by
  cases behind <;> rfl

/-- A checkpoint that a restart resumes from: at most one event behind. -/
structure RowAt (source : ReplaySource F) (command : ReplayCommandV1) (n : Nat)
    (checkpoint : ReplayCheckpoint) : Prop where
  same : SameReplay command checkpoint.command
  behind : ∃ k, CheckpointAt (rangeRows source command) k checkpoint.lastSequence
    checkpoint.sourceTimestamp ∧ (n = k ∨ n = k + 1)

/-- The event at `k` is the next one, or the one published last before a restart. -/
inductive NextAt (n r started : Nat) : Nat → Prop where
  | fresh : NextAt n r started n
  | repeated {k : Nat} : n = k + 1 → r < started → NextAt n r started k

/-- The task has an event at hand that it has not published. -/
inductive AtHand (event : TelemetryEventV1 F) : TaskPhase F → Prop where
  | waiting (woken : Bool) : AtHand event (.waiting event woken)
  | sleeping (delay : ℚ) : AtHand event (.sleeping event delay)
  | publishing : AtHand event (.publishing event)

/-- The task runs the replay, and would be resumed at `k`. -/
structure Underway (command : ReplayCommandV1) (stored : Option ReplayCheckpoint) (task : ReplayTask F)
    (k : Nat) : Prop where
  same : SameReplay command task.command
  row : ∀ checkpoint ∈ stored, checkpoint.Resumable → checkpoint.lastSequence = k

/-- The iterator is behind the first `k` rows. -/
structure IteratorAt (rows : List (SourceRow F)) (k : Nat) (it : EventIterator F) : Prop where
  rest : it.rows = rows.drop k
  sequence : it.sequence = k + 1
  increasing : Increasing rows

section Invariant

variable [Uuid5] (source : ReplaySource F) (id : UUID) (command : ReplayCommandV1)
  (effects : List (Effect F)) (started : Nat) (stored : Option ReplayCheckpoint) (n r : Nat)

/-- The task has got the event of row `k` from its iterator. -/
structure HoldsAt (event : TelemetryEventV1 F) (k : Nat) (task : ReplayTask F) : Prop where
  underway : Underway command stored task k
  isEvent : IsEvent source command k event
  iterator : ∃ it, task.events = .ok it ∧ IteratorAt (rangeRows source command) (k + 1) it

/-- Where the task of a replay is that has published `n` events. -/
structure TaskAt (task : ReplayTask F) : Prop where
  ready : task.phase = .ready → ∃ k, Underway command stored task k ∧ NextAt n r started k ∧
    task.lastSequence = k ∧ ∀ it, task.events = .ok it → IteratorAt (rangeRows source command) k it
  holds : ∀ event, AtHand event task.phase →
    ∃ k, HoldsAt source command stored event k task ∧ NextAt n r started k
  published : ∀ event, task.phase = .published event →
    ∃ k, HoldsAt source command stored event k task ∧ n = k + 1
  atEnd : ∀ woken, task.phase = .waitingAtEnd woken →
    n = (rangeRows source command).length ∧ task.lastSequence = n
  completed : ∀ status, task.phase = .publishingStatus status false →
    n = (rangeRows source command).length ∧ status.lastSequence = some (n : Int)

/-- Where a replay is that has published `n` events, `r` times one of them again. -/
structure ReplayAt (task : Option (ReplayTask F)) : Prop where
  sent : Lib.Resent (IsEvent source command) (telemetryOf id effects) n r
  repeats : r ≤ restarts effects
  row : ∀ checkpoint ∈ stored, checkpoint.Resumable → RowAt source command n checkpoint
  task : ∀ running ∈ task, TaskAt source command (restarts effects) stored n r running
  completed : ∀ status, .status .replay status ∈ effects → ReportsEnd id status →
    n = (rangeRows source command).length ∧ status.lastSequence = some (n : Int)

end Invariant

/-- The task of a session. -/
def taskOf (s : ReplayService F) (id : UUID) : Option (ReplayTask F) :=
  (s.active.filter fun session => decide (session.controller.sessionId = id)).map (·.task)

/-- What holds of a session in every state. -/
def Followed [Uuid5] (source : ReplaySource F) (s : ReplayService F) (id : UUID) : Prop :=
  match latestReplay id s.trace with
  | none => s.store.get? id = none ∧ s.taskOf id = none ∧ telemetryOf id s.trace = []
  | some (command, effects) =>
      ∃ n r, ReplayAt source id command effects (s.store.get? id) n r (s.taskOf id)

/-! ### Effects -/

section Effects

variable {id : UUID} {effect : Effect F} {trace effects : List (Effect F)}
  {command : ReplayCommandV1}

/-- The effect neither begins a replay of the session nor carries it on. -/
structure Neutral (id : UUID) (effect : Effect F) : Prop where
  begins : begins id effect = none
  telemetry : telemetryOf id [effect] = []
  started : restarts [effect] = 0
  unfinished : ∀ status, effect = .status .replay status → ¬ ReportsEnd id status

theorem begins_session (begun : begins id effect = some command) : command.replaySessionId = id := by
  unfold begins at begun
  split at begun
  · split at begun
    · cases begun
      assumption
    · cases begun
  · split at begun
    · rename_i both
      cases begun
      exact both.1
    · cases begun
  · cases begun

theorem begins_accepted (command : ReplayCommandV1) :
    begins command.replaySessionId (.accepted command : Effect F) = some command := if_pos rfl

theorem begins_start {session : UUID} {checkpoint : ReplayCheckpoint} (start : command.action = .start) :
    begins command.replaySessionId (.recorded (.command command) session checkpoint : Effect F) =
      some command := if_pos ⟨rfl, start⟩

theorem begins_other {session : UUID} {checkpoint : ReplayCheckpoint}
    (other : ¬ (command.replaySessionId = id ∧ command.action = .start)) :
    begins id (.recorded (.command command) session checkpoint : Effect F) = none := if_neg other

theorem latestReplay_begun (begun : begins id effect = some command) :
    latestReplay id (effect :: trace) = some (command, []) := by
  unfold latestReplay
  rw [begun]

theorem latestReplay_cons (goesOn : begins id effect = none) : latestReplay id (effect :: trace) =
    (latestReplay id trace).map fun replay => (replay.1, effect :: replay.2) := by
  rw [latestReplay, goesOn]

theorem latestReplay_session (latest : latestReplay id trace = some (command, effects)) :
    command.replaySessionId = id := by
  induction trace generalizing effects with
  | nil => cases latest
  | cons effect trace ih =>
      cases begun : begins id effect with
      | some other =>
          rw [latestReplay_begun begun] at latest
          cases latest
          exact begins_session begun
      | none =>
          rw [latestReplay_cons begun] at latest
          obtain ⟨replay, before, same⟩ := Option.map_eq_some_iff.mp latest
          cases same
          exact ih before

theorem telemetryOf_cons (id : UUID) (effect : Effect F) (effects : List (Effect F)) :
    telemetryOf id (effect :: effects) = telemetryOf id [effect] ++ telemetryOf id effects :=
  List.filterMap_append (l := [effect])

theorem restarts_cons (effect : Effect F) (effects : List (Effect F)) :
    restarts (effect :: effects) = restarts [effect] + restarts effects :=
  @List.countP_append _ _ [effect] effects

theorem Neutral.telemetryOf (neutral : Neutral id effect) :
    telemetryOf id (effect :: effects) = telemetryOf id effects := by
  rw [telemetryOf_cons, neutral.telemetry, List.nil_append]

theorem Neutral.restarts (neutral : Neutral id effect) :
    restarts (effect :: effects) = restarts effects := by
  rw [restarts_cons, neutral.started, Nat.zero_add]

theorem neutral_recorded (origin : Origin) (session : UUID) (checkpoint : ReplayCheckpoint)
    (goesOn : begins id (.recorded origin session checkpoint : Effect F) = none) :
    Neutral id (.recorded origin session checkpoint : Effect F) :=
  ⟨goesOn, rfl, rfl, fun _ same => by cases same⟩

theorem neutral_outgoing (id : UUID) (message : Outgoing) :
    Neutral id (Outgoing.effect message : Effect F) := by
  cases message with
  | status command status => exact ⟨rfl, rfl, rfl, fun _ same => by cases same⟩
  | quarantine record => exact ⟨rfl, rfl, rfl, fun _ same => by cases same⟩

theorem neutral_status {status : ReplayStatusV1} (unfinished : ¬ ReportsEnd id status) :
    Neutral id (.status .replay status : Effect F) :=
  ⟨rfl, rfl, rfl, fun _ same => by cases same; exact unfinished⟩

theorem neutral_telemetry {event : TelemetryEventV1 F} (other : event.replaySessionId ≠ id) :
    Neutral id (.telemetry event) := by
  refine ⟨rfl, ?_, rfl, fun _ same => by cases same⟩
  show List.filterMap _ [_] = []
  simp [other]

theorem neutral_accepted (other : command.replaySessionId ≠ id) :
    Neutral id (.accepted command : Effect F) :=
  ⟨if_neg other, rfl, rfl, fun _ same => by cases same⟩

end Effects

/-! ### Tasks -/

section Tasks

variable {s s' : ReplayService F} {session : RunningSession F} {id : UUID} {task : ReplayTask F}

theorem mem_taskOf_iff : task ∈ s.taskOf id ↔
    ∃ session, s.active = some session ∧ session.controller.sessionId = id ∧ session.task = task := by
  unfold taskOf
  rw [Option.mem_def, Option.map_eq_some_iff]
  constructor
  · rintro ⟨session, held, same⟩
    obtain ⟨active, mine⟩ := Option.filter_eq_some_iff.mp held
    exact ⟨session, active, of_decide_eq_true mine, same⟩
  · rintro ⟨session, active, mine, same⟩
    exact ⟨session, Option.filter_eq_some_iff.mpr ⟨active, decide_eq_true mine⟩, same⟩

theorem taskOf_self (active : s.active = some session) (mine : session.controller.sessionId = id) :
    s.taskOf id = some session.task :=
  mem_taskOf_iff.mpr ⟨session, active, mine, rfl⟩

theorem taskOf_eq_none (other : ∀ session, s.active = some session → session.controller.sessionId ≠ id) :
    s.taskOf id = none := by
  rw [Option.eq_none_iff_forall_not_mem]
  intro task mem
  obtain ⟨session, active, mine, -⟩ := mem_taskOf_iff.mp mem
  exact other session active mine

theorem taskOf_ne (active : s.active = some session) (other : session.controller.sessionId ≠ id) :
    s.taskOf id = none := by
  refine taskOf_eq_none fun session' active' => ?_
  cases active.symm.trans active'
  exact other

theorem taskOf_congr (active : s'.active = s.active) (id : UUID) : s'.taskOf id = s.taskOf id := by
  unfold taskOf
  rw [active]

theorem AtHand.unique {phase : TaskPhase F} {event event' : TelemetryEventV1 F} (held : AtHand event phase)
    (held' : AtHand event' phase) : event' = event := by
  cases held <;> cases held' <;> rfl

theorem atHand_wake_iff {event : TelemetryEventV1 F} :
    AtHand event task.wake.phase ↔ AtHand event task.phase := by
  unfold ReplayTask.wake
  cases task.phase with
  | waiting => constructor <;> rintro ⟨⟩ <;> exact .waiting _
  | waitingAtEnd => constructor <;> rintro ⟨⟩
  | _ => exact Iff.rfl

variable [Uuid5] {source : ReplaySource F} {command : ReplayCommandV1} {started : Nat}
  {stored stored' : Option ReplayCheckpoint} {n r k : Nat} {event : TelemetryEventV1 F}

/-- The task publishes no further event. -/
inductive Over : TaskPhase F → Prop where
  | failing : Over .failing
  | failed (status : ReplayStatusV1) : Over (.publishingStatus status true)
  | publishedStatus : Over .publishedStatus
  | done : Over .done

theorem taskAt_of_over (ended : Over task.phase) : TaskAt source command started stored n r task := by
  refine ⟨?_, ?_, ?_, ?_, ?_⟩
  · intro ready
    rw [ready] at ended
    cases ended
  · intro event held
    cases phase : task.phase <;> rw [phase] at ended held <;> cases ended <;> cases held
  · intro event published
    rw [published] at ended
    cases ended
  · intro woken atEnd
    rw [atEnd] at ended
    cases ended
  · intro status publishing
    rw [publishing] at ended
    cases ended

theorem taskAt_of_ready (ready : task.phase = .ready) (underway : Underway command stored task k)
    (next : NextAt n r started k) (last : task.lastSequence = k)
    (iterator : ∀ it, task.events = .ok it → IteratorAt (rangeRows source command) k it) :
    TaskAt source command started stored n r task := by
  refine ⟨fun _ => ⟨k, underway, next, last, iterator⟩, ?_, ?_, ?_, ?_⟩ <;> rw [ready]
  · rintro event ⟨⟩
  · rintro event ⟨⟩
  · rintro woken ⟨⟩
  · rintro status ⟨⟩

theorem taskAt_of_holds (held : AtHand event task.phase) (holds : HoldsAt source command stored event k task)
    (next : NextAt n r started k) : TaskAt source command started stored n r task := by
  refine ⟨fun ready => ?_, fun event' held' => ?_, fun event' published => ?_, fun woken atEnd => ?_,
    fun status publishing => ?_⟩
  · rw [ready] at held
    cases held
  · cases held.unique held'
    exact ⟨k, holds, next⟩
  · rw [published] at held
    cases held
  · rw [atEnd] at held
    cases held
  · rw [publishing] at held
    cases held

theorem taskAt_of_published (published : task.phase = .published event)
    (holds : HoldsAt source command stored event k task) (last : n = k + 1) :
    TaskAt source command started stored n r task := by
  refine ⟨?_, ?_, ?_, ?_, ?_⟩ <;> rw [published]
  · rintro ⟨⟩
  · rintro event ⟨⟩
  · rintro event ⟨⟩
    exact ⟨k, holds, last⟩
  · rintro woken ⟨⟩
  · rintro status ⟨⟩

theorem taskAt_of_atEnd {woken : Bool} (atEnd : task.phase = .waitingAtEnd woken)
    (all : n = (rangeRows source command).length) (last : task.lastSequence = n) :
    TaskAt source command started stored n r task := by
  refine ⟨?_, ?_, ?_, fun _ _ => ⟨all, last⟩, ?_⟩ <;> rw [atEnd]
  · rintro ⟨⟩
  · rintro event ⟨⟩
  · rintro event ⟨⟩
  · rintro status ⟨⟩

theorem taskAt_of_completed {status : ReplayStatusV1} (completed : task.phase = .publishingStatus status false)
    (all : n = (rangeRows source command).length) (last : status.lastSequence = some (n : Int)) :
    TaskAt source command started stored n r task := by
  refine ⟨?_, ?_, ?_, ?_, ?_⟩ <;> rw [completed]
  · rintro ⟨⟩
  · rintro event ⟨⟩
  · rintro event ⟨⟩
  · rintro woken ⟨⟩
  · rintro status ⟨⟩
    exact ⟨all, last⟩

omit [Uuid5] in
theorem Underway.rewritten (underway : Underway command stored task k)
    (same : ∀ checkpoint ∈ stored', checkpoint.Resumable →
      ∃ old ∈ stored, old.Resumable ∧ old.lastSequence = checkpoint.lastSequence) :
    Underway command stored' task k := by
  refine ⟨underway.same, fun checkpoint mem resumable => ?_⟩
  obtain ⟨old, held, before, sequence⟩ := same checkpoint mem resumable
  exact sequence ▸ underway.row old held before

theorem HoldsAt.rewritten (holds : HoldsAt source command stored event k task)
    (same : ∀ checkpoint ∈ stored', checkpoint.Resumable →
      ∃ old ∈ stored, old.Resumable ∧ old.lastSequence = checkpoint.lastSequence) :
    HoldsAt source command stored' event k task :=
  ⟨holds.underway.rewritten same, holds.isEvent, holds.iterator⟩

/-- A task that has the same event at hand. -/
theorem HoldsAt.congr {task' : ReplayTask F} (holds : HoldsAt source command stored event k task)
    (sameCommand : task'.command = task.command) (sameEvents : task'.events = task.events) :
    HoldsAt source command stored event k task' := by
  obtain ⟨⟨same, row⟩, isEvent, it, has, iterator⟩ := holds
  exact ⟨⟨sameCommand ▸ same, row⟩, isEvent, it, sameEvents.trans has, iterator⟩

/-- Another checkpoint, at the same place if it can be resumed. -/
theorem TaskAt.rewritten (here : TaskAt source command started stored n r task)
    (same : ∀ checkpoint ∈ stored', checkpoint.Resumable →
      ∃ old ∈ stored, old.Resumable ∧ old.lastSequence = checkpoint.lastSequence) :
    TaskAt source command started stored' n r task := by
  refine ⟨fun ready => ?_, fun event held => ?_, fun event published => ?_, here.atEnd, here.completed⟩
  · obtain ⟨k, underway, rest⟩ := here.ready ready
    exact ⟨k, underway.rewritten same, rest⟩
  · obtain ⟨k, holds, next⟩ := here.holds event held
    exact ⟨k, holds.rewritten same, next⟩
  · obtain ⟨k, holds, last⟩ := here.published event published
    exact ⟨k, holds.rewritten same, last⟩

theorem TaskAt.wake (here : TaskAt source command started stored n r task) :
    TaskAt source command started stored n r task.wake := by
  refine ⟨?_, ?_, ?_, ?_, ?_⟩
  · intro ready
    have before : task.phase = .ready := by
      revert ready
      unfold ReplayTask.wake
      cases task.phase <;> simp
    obtain ⟨k, underway, rest⟩ := here.ready before
    exact ⟨k, ⟨underway.same, underway.row⟩, rest⟩
  · intro event held
    obtain ⟨k, holds, next⟩ := here.holds event (atHand_wake_iff.mp held)
    exact ⟨k, holds.congr rfl rfl, next⟩
  · intro event published
    have before : task.phase = .published event := by
      revert published
      unfold ReplayTask.wake
      cases task.phase <;> simp
    obtain ⟨k, holds, last⟩ := here.published event before
    exact ⟨k, holds.congr rfl rfl, last⟩
  · intro woken atEnd
    have before : ∃ woken, task.phase = .waitingAtEnd woken := by
      revert atEnd
      unfold ReplayTask.wake
      cases task.phase <;> simp
    obtain ⟨woken, before⟩ := before
    exact here.atEnd woken before
  · intro status publishing
    exact here.completed status (wake_publishingStatus_iff.mp publishing)

end Tasks

/-! ### Replays -/

section Replays

variable [Uuid5] {source : ReplaySource F} {s s' : ReplayService F} {session : RunningSession F} {id : UUID}
  {task : Option (ReplayTask F)} {command : ReplayCommandV1} {effect : Effect F} {effects : List (Effect F)}
  {started : Nat} {stored : Option ReplayCheckpoint} {n r : Nat}

theorem ReplayAt.neutral (here : ReplayAt source id command effects stored n r task)
    (neutral : Neutral id effect) :
    ReplayAt source id command (effect :: effects) stored n r task := by
  refine ⟨?_, ?_, here.row, ?_, ?_⟩
  · rw [neutral.telemetryOf]
    exact here.sent
  · rw [neutral.restarts]
    exact here.repeats
  · rw [neutral.restarts]
    exact here.task
  · intro status mem reports
    rcases List.mem_cons.mp mem with same | old
    · exact (neutral.unfinished status same.symm reports).elim
    · exact here.completed status old reports

theorem ReplayAt.tasks {task' : Option (ReplayTask F)}
    (here : ReplayAt source id command effects stored n r task)
    (tasks : ∀ running ∈ task', TaskAt source command (restarts effects) stored n r running) :
    ReplayAt source id command effects stored n r task' :=
  ⟨here.sent, here.repeats, here.row, tasks, here.completed⟩

/-- No more events are published than the range has rows. -/
theorem ReplayAt.le (here : ReplayAt source id command effects stored n r task) :
    n ≤ (rangeRows source command).length := by
  refine here.sent.le ?_
  rintro k event ⟨-, row, held, -⟩
  exact (List.getElem?_eq_some_iff.mp held).1

theorem followed_iff (latest : latestReplay id s.trace = some (command, effects)) :
    Followed source s id ↔
      ∃ n r, ReplayAt source id command effects (s.store.get? id) n r (s.taskOf id) := by
  unfold Followed
  rw [latest]

theorem followed_iff_of_none (unbegun : latestReplay id s.trace = none) : Followed source s id ↔
    s.store.get? id = none ∧ s.taskOf id = none ∧ telemetryOf id s.trace = [] := by
  unfold Followed
  rw [unbegun]

/-- A session with a task has begun a replay. -/
theorem Followed.replay (followed : Followed source s id) {running : ReplayTask F}
    (has : s.taskOf id = some running) : ∃ command effects n r,
      latestReplay id s.trace = some (command, effects) ∧
        ReplayAt source id command effects (s.store.get? id) n r (some running) := by
  cases latest : latestReplay id s.trace with
  | none =>
      rw [followed_iff_of_none latest, has] at followed
      cases followed.2.1
  | some replay =>
      obtain ⟨command, effects⟩ := replay
      obtain ⟨n, r, here⟩ := (followed_iff latest).mp followed
      rw [has] at here
      exact ⟨command, effects, n, r, rfl, here⟩

theorem Followed.congr (followed : Followed source s id) (store : s'.store.get? id = s.store.get? id)
    (trace : s'.trace = s.trace) (tasks : s'.taskOf id = s.taskOf id) : Followed source s' id := by
  unfold Followed at followed ⊢
  rw [trace, store, tasks]
  exact followed

/-- Only the task goes on, or ends. -/
theorem Followed.tasks (followed : Followed source s id) (store : s'.store.get? id = s.store.get? id)
    (trace : s'.trace = s.trace) (tasks : ∀ task' ∈ s'.taskOf id, ∃ task ∈ s.taskOf id,
      task' = task ∨ task' = task.wake ∨ Over task'.phase) : Followed source s' id := by
  cases latest : latestReplay id s.trace with
  | none =>
      obtain ⟨absent, idle, quiet⟩ := (followed_iff_of_none latest).mp followed
      rw [followed_iff_of_none (by rw [trace]; exact latest), store, trace]
      refine ⟨absent, ?_, quiet⟩
      rw [Option.eq_none_iff_forall_not_mem]
      intro task' mem
      obtain ⟨task, held, -⟩ := tasks task' mem
      rw [idle] at held
      cases held
  | some replay =>
      obtain ⟨command, effects⟩ := replay
      obtain ⟨n, r, here⟩ := (followed_iff latest).mp followed
      rw [followed_iff (by rw [trace]; exact latest), store]
      refine ⟨n, r, here.tasks fun task' mem => ?_⟩
      obtain ⟨task, held, rfl | rfl | ended⟩ := tasks task' mem
      · exact here.task _ held
      · exact (here.task _ held).wake
      · exact taskAt_of_over ended

theorem Followed.neutral (followed : Followed source s id) (neutral : Neutral id effect)
    (store : s'.store.get? id = s.store.get? id) (trace : s'.trace = effect :: s.trace)
    (tasks : s'.taskOf id = s.taskOf id) : Followed source s' id := by
  have later : latestReplay id s'.trace =
      (latestReplay id s.trace).map fun replay => (replay.1, effect :: replay.2) := by
    rw [trace, latestReplay_cons neutral.begins]
  cases latest : latestReplay id s.trace with
  | none =>
      obtain ⟨absent, idle, quiet⟩ := (followed_iff_of_none latest).mp followed
      rw [latest] at later
      rw [followed_iff_of_none later, store, tasks, trace, neutral.telemetryOf]
      exact ⟨absent, idle, quiet⟩
  | some replay =>
      obtain ⟨command, effects⟩ := replay
      obtain ⟨n, r, here⟩ := (followed_iff latest).mp followed
      rw [latest] at later
      rw [followed_iff later, store, tasks]
      exact ⟨n, r, here.neutral neutral⟩

theorem Followed.beginStop (followed : Followed source s id) : Followed source s.beginStop id := by
  refine followed.tasks rfl rfl fun task' mem => ?_
  obtain ⟨stopping, active, mine, rfl⟩ := mem_taskOf_iff.mp mem
  obtain ⟨session, held, ⟨-, rfl⟩ | ⟨-, rfl⟩⟩ := beginStop_active active
  · exact ⟨_, mem_taskOf_iff.mpr ⟨_, held, mine, rfl⟩, .inl rfl⟩
  · exact ⟨_, mem_taskOf_iff.mpr ⟨_, held, mine, rfl⟩, .inr (.inl rfl)⟩

theorem Followed.leave (followed : Followed source s id) : Followed source s.leave id := by
  refine followed.tasks rfl rfl fun task' mem => ?_
  obtain ⟨session, active, -⟩ := mem_taskOf_iff.mp mem
  cases active

/-! ### The source -/

/-- An event depends on the session of its command only. -/
theorem event_same {command' : ReplayCommandV1} (same : SameReplay command command') :
    source.event command' = source.event command := by
  unfold ReplaySource.event
  rw [same.session]

theorem IsEvent.sequence {k : Nat} {event : TelemetryEventV1 F} (isEvent : IsEvent source command k event) :
    event.sequence = (k + 1 : Nat) := by
  obtain ⟨emittedAt, row, -, rfl⟩ := isEvent
  exact (Nat.cast_succ k).symm

theorem IsEvent.replaySessionId {k : Nat} {event : TelemetryEventV1 F} (isEvent : IsEvent source command k event) :
    event.replaySessionId = command.replaySessionId := by
  obtain ⟨emittedAt, row, -, rfl⟩ := isEvent
  rfl

omit [Uuid5] in
theorem rangeRows_same {command' : ReplayCommandV1} (same : SameReplay command command') :
    rangeRows source command' = rangeRows source command := by
  unfold rangeRows
  rw [same.rangeStart, same.rangeEnd]

omit [Uuid5] in
theorem rangeRows_eq {rangeStart rangeEnd : Int} (starts : rangeStart ∈ command.rangeStart)
    (stops : rangeEnd ∈ command.rangeEnd) :
    rangeRows source command = source.selected rangeStart rangeEnd none := by
  unfold rangeRows
  rw [show command.rangeStart = some rangeStart from starts, show command.rangeEnd = some rangeEnd from stops]

omit [Uuid5] in
/-- An iterator of the whole range. -/
theorem iteratorAt_start {command' : ReplayCommandV1} {it : EventIterator F} (same : SameReplay command command')
    (ok : source.iterEvents command' 1 none = .ok it) : IteratorAt (rangeRows source command) 0 it := by
  obtain ⟨rangeStart, starts, rangeEnd, stops, increasing, rfl⟩ := ReplaySource.iterEvents_eq_ok_iff.mp ok
  have all : rangeRows source command = source.selected rangeStart rangeEnd none :=
    (rangeRows_same same).symm.trans (rangeRows_eq starts stops)
  rw [← all] at increasing ⊢
  exact ⟨rfl, rfl, increasing⟩

omit [Uuid5] in
/-- What is resumed from a checkpoint is the range behind it. -/
theorem CheckpointAt.resume {command' : ReplayCommandV1} {k : Nat} {last : Int} {timestamp : Option Int}
    {it : EventIterator F} (behind : CheckpointAt (rangeRows source command) k last timestamp)
    (same : SameReplay command command')
    (ok : source.iterEvents command' (last + 1) timestamp = .ok it) :
    IteratorAt (rangeRows source command) k it := by
  cases behind with
  | start => exact iteratorAt_start same ok
  | @row k row increasing held =>
      obtain ⟨rangeStart, starts, rangeEnd, stops, -, rfl⟩ := ReplaySource.iterEvents_eq_ok_iff.mp ok
      have all : rangeRows source command = source.selected rangeStart rangeEnd none :=
        (rangeRows_same same).symm.trans (rangeRows_eq starts stops)
      obtain ⟨inside, rfl⟩ := List.getElem?_eq_some_iff.mp held
      have split : rangeRows source command = (rangeRows source command).take k ++
          (rangeRows source command)[k] :: (rangeRows source command).drop (k + 1) := by
        rw [← List.drop_eq_getElem_cons inside, List.take_append_drop]
      refine ⟨ReplaySource.selected_resume ?_ (all.symm.trans split), rfl, increasing⟩
      rw [← all]
      exact increasing

end Replays

/-! ### Steps of the task -/

section Task

variable [PyFloat F] [Uuid5] {config : ReplayServiceConfig F} {stamp : ServiceStamp} {fault : Option Bool}
  {s s' s'' : ReplayService F} {session : RunningSession F} {id : UUID} {command : ReplayCommandV1}
  {effects : List (Effect F)} {started : Nat} {stored : Option ReplayCheckpoint} {n r k : Nat}
  {event : TelemetryEventV1 F} {task : ReplayTask F}

/-- What the iterator yields next is the event of its row. -/
theorem IteratorAt.next {source : ReplaySource F} {it rest : EventIterator F} {command' : ReplayCommandV1}
    {emittedAt : Instant} (iterator : IteratorAt (rangeRows source command) k it)
    (same : SameReplay command command')
    (yields : source.next command' emittedAt it = .ok (some (event, rest))) :
    IsEvent source command k event ∧ IteratorAt (rangeRows source command) (k + 1) rest := by
  unfold ReplaySource.next at yields
  split at yields
  · cases yields
  · rename_i row later held
    split at yields
    · rename_i made constructed
      cases yields
      obtain ⟨-, rfl⟩ := construct_eq_ok_iff.mp constructed
      have here := iterator.rest.symm.trans held
      have inside : (rangeRows source command)[k]? = some row := by
        rw [← List.head?_drop, here]
        rfl
      refine ⟨⟨emittedAt, row, inside, ?_⟩, ?_, ?_, iterator.increasing⟩
      · rw [event_same same, iterator.sequence]
      · rw [← List.tail_drop, here]
        rfl
      · show it.sequence + 1 = _
        rw [iterator.sequence, Nat.cast_succ]
    · cases yields

/-- The iterator yields the event of its row. -/
theorem TaskAt.yielded {rest : EventIterator F}
    (here : TaskAt config.source command started stored n r session.task)
    (ready : session.task.phase = .ready) (yields : Yields config stamp session event rest) :
    ∃ k, HoldsAt config.source command stored event k { session.task with events := .ok rest } ∧
      NextAt n r started k := by
  obtain ⟨it, has, next⟩ := yields
  obtain ⟨k, underway, due, -, iterator⟩ := here.ready ready
  obtain ⟨isEvent, later⟩ := (iterator it has).next underway.same next
  exact ⟨k, ⟨⟨underway.same, underway.row⟩, isEvent, rest, rfl, later⟩, due⟩

/-- A task that has an event has got it from its iterator. -/
theorem TaskAt.taken (here : TaskAt config.source command started stored n r session.task)
    (taken : Taken config stamp session event task) :
    ∃ k, HoldsAt config.source command stored event k task ∧ NextAt n r started k := by
  cases taken with
  | fresh ready yields _ => exact here.yielded ready yields
  | woken waiting =>
      refine here.holds event ?_
      rw [waiting]
      exact .waiting true

omit [PyFloat F] in
/-- A task that is about to publish. -/
theorem HoldsAt.publish {source : ReplaySource F} (holds : HoldsAt source command stored event k task)
    (next : NextAt n r started k) : TaskAt source command started stored n r (task.publish event) := by
  obtain ⟨same, -, phase⟩ := publish_frame task event
  have held : AtHand event (task.publish event).phase := by
    rw [phase]
    exact .publishing
  refine taskAt_of_holds held (holds.congr same ?_) next
  · unfold ReplayTask.publish
    split <;> rfl

/-- A task with an exhausted iterator has published all rows. -/
theorem TaskAt.exhausted (here : TaskAt config.source command started stored n r session.task)
    (bounded : n ≤ (rangeRows config.source command).length) (ready : session.task.phase = .ready)
    (exhausted : Exhausted config stamp session) :
    n = (rangeRows config.source command).length ∧ session.task.lastSequence = n := by
  obtain ⟨it, has, none⟩ := exhausted
  obtain ⟨k, -, due, last, iterator⟩ := here.ready ready
  have empty : (rangeRows config.source command).length ≤ k := by
    rw [← List.drop_eq_nil_iff, ← (iterator it has).rest]
    unfold ReplaySource.next at none
    split at none
    · assumption
    · split at none <;> cases none
  cases due with
  | fresh => exact ⟨by omega, last⟩
  | repeated same _ => omega

/-- Behind the last event all rows have been published. -/
theorem TaskAt.ended (here : TaskAt config.source command started stored n r session.task)
    (bounded : n ≤ (rangeRows config.source command).length) (atEnd : AtEnd config stamp session) :
    n = (rangeRows config.source command).length ∧ session.task.lastSequence = n := by
  cases atEnd with
  | exhausted ready exhausted _ => exact here.exhausted bounded ready exhausted
  | woken waiting => exact here.atEnd true waiting

omit [PyFloat F] in
/-- The checkpoint of a published event. -/
theorem HoldsAt.row {source : ReplaySource F} (holds : HoldsAt source command stored event k task)
    (state : ReplayState) : RowAt source command (k + 1)
      ⟨task.command, state, event.sequence, some event.sourceTimestamp⟩ := by
  obtain ⟨⟨same, -⟩, isEvent, it, -, iterator⟩ := holds
  refine ⟨same, k + 1, ?_, .inl rfl⟩
  rw [isEvent.sequence]
  obtain ⟨emittedAt, row, held, rfl⟩ := isEvent
  exact .row iterator.increasing held

/-- What a stretch of the task leaves. -/
theorem TaskMoves.frame (moves : TaskMoves config stamp session fault s s') :
    (∃ task, s'.active = some { session with task }) ∧ ∃ s₁, s'.store = s₁.store ∧ s'.trace = s₁.trace ∧
      (s₁ = s ∨ ∃ checkpoint raised, Written config .replay fault session.task.command.replaySessionId
        checkpoint s s₁ raised) := by
  cases moves with
  | @completes s₁ _ _ written => exact ⟨⟨_, rfl⟩, s₁, rfl, rfl, .inr ⟨_, _, written⟩⟩
  | @completeFails s₁ _ _ written => exact ⟨⟨_, rfl⟩, s₁, rfl, rfl, .inr ⟨_, _, written⟩⟩
  | @records _ s₁ _ written => exact ⟨⟨_, rfl⟩, s₁, rfl, rfl, .inr ⟨_, _, written⟩⟩
  | @recordFails _ s₁ _ written => exact ⟨⟨_, rfl⟩, s₁, rfl, rfl, .inr ⟨_, _, written⟩⟩
  | @fails s₁ _ written => exact ⟨⟨_, rfl⟩, s₁, rfl, rfl, .inr ⟨_, _, written⟩⟩
  | @failFails s₁ _ written => exact ⟨⟨_, rfl⟩, s₁, rfl, rfl, .inr ⟨_, _, written⟩⟩
  | _ => exact ⟨⟨_, rfl⟩, s, rfl, rfl, .inl rfl⟩

omit [PyFloat F] [Uuid5] in
/-- A write leaves the checkpoint of its session or replaces it. -/
theorem Written.after {origin : Origin} {checkpoint : ReplayCheckpoint} {raised : Bool}
    (written : Written config origin fault id checkpoint s s' raised) :
    (s'.store.get? id = s.store.get? id ∧ s'.trace = s.trace ∧ (raised = false → config.hasStore = false)) ∨
      s'.store.get? id = some checkpoint ∧ s'.trace = .recorded origin id checkpoint :: s.trace := by
  cases written with
  | skipped noStore => exact .inl ⟨rfl, rfl, fun _ => noStore⟩
  | lost => exact .inl ⟨rfl, rfl, fun returned => by cases returned⟩
  | stored => exact .inr ⟨by rw [get?_wrote, if_pos rfl], rfl⟩

omit [PyFloat F] in
/-- A write of another session. -/
theorem Followed.written {source : ReplaySource F} {origin : Origin} {other : UUID}
    {checkpoint : ReplayCheckpoint} {raised : Bool} (followed : Followed source s id) (ne : id ≠ other)
    (neutral : begins id (.recorded origin other checkpoint : Effect F) = none)
    (written : Written config origin fault other checkpoint s s' raised) : Followed source s' id := by
  obtain ⟨-, active, -⟩ := written.frame
  have store := written.get?_ne ne
  have tasks := taskOf_congr active id
  cases written with
  | skipped _ => exact followed
  | lost _ _ => exact followed
  | stored _ _ _ =>
      exact followed.neutral (neutral_recorded origin other checkpoint neutral) store rfl tasks

omit [PyFloat F] in
/-- The task of a session records a checkpoint. -/
theorem ReplayAt.recorded {task : Option (ReplayTask F)} {checkpoint : ReplayCheckpoint} {raised : Bool}
    (here : ReplayAt config.source id command effects (s.store.get? id) n r task)
    (latest : latestReplay id s.trace = some (command, effects))
    (written : Written config .replay fault id checkpoint s s' raised)
    (store : s''.store = s'.store) (trace : s''.trace = s'.trace)
    (row : checkpoint.Resumable → RowAt config.source command n checkpoint)
    (tasks : ∀ stored, (stored = s.store.get? id ∧ (raised = false → config.hasStore = false) ∨
      stored = some checkpoint) → ∀ running ∈ s''.taskOf id,
        TaskAt config.source command (restarts effects) stored n r running) :
    Followed config.source s'' id := by
  rcases written.after with ⟨same, quiet, kept⟩ | ⟨replaced, later⟩
  · rw [followed_iff (by rw [trace, quiet]; exact latest), store, same]
    exact ⟨n, r, here.tasks (tasks _ (.inl ⟨rfl, kept⟩))⟩
  · have goesOn : latestReplay id s''.trace = some (command, .recorded .replay id checkpoint :: effects) := by
      rw [trace, later, latestReplay_cons rfl, latest]
      rfl
    rw [followed_iff goesOn, store, replaced]
    have next : ReplayAt config.source id command effects (some checkpoint) n r (s''.taskOf id) := by
      refine ⟨here.sent, here.repeats, fun other mem resumable => ?_, tasks _ (.inr rfl), here.completed⟩
      cases mem
      exact row resumable
    exact ⟨n, r, next.neutral (neutral_recorded .replay id checkpoint rfl)⟩

theorem ReplayAt.taskMoves (here : ReplayAt config.source id command effects (s.store.get? id) n r
      (some session.task))
    (latest : latestReplay id s.trace = some (command, effects)) (coherent : Coherent config s)
    (active : s.active = some session) (mine : session.controller.sessionId = id)
    (moves : TaskMoves config stamp session fault s s') : Followed config.source s' id := by
  have task := here.task session.task rfl
  have own : session.task.command.replaySessionId = id := (coherent.session session active).command.trans mine
  -- A stretch without a write.
  have goesOn : ∀ {task' : ReplayTask F}, TaskAt config.source command (restarts effects)
      (s.store.get? id) n r task' → Followed config.source (withTask session task' s) id := by
    intro task' next
    rw [followed_iff (s := withTask session task' s) latest]
    refine ⟨n, r, here.tasks fun running mem => ?_⟩
    obtain ⟨other, held, -, rfl⟩ := mem_taskOf_iff.mp mem
    cases held
    exact next
  -- A stretch that writes a checkpoint.
  have writes : ∀ {s₁ : ReplayService F} {checkpoint : ReplayCheckpoint} {raised : Bool}
      {task' : ReplayTask F}, Written config .replay fault session.task.command.replaySessionId
        checkpoint s s₁ raised →
      (checkpoint.Resumable → RowAt config.source command n checkpoint) →
      (∀ stored, (stored = s.store.get? id ∧ (raised = false → config.hasStore = false) ∨
        stored = some checkpoint) →
          TaskAt config.source command (restarts effects) stored n r task') →
      Followed config.source (withTask session task' s₁) id := by
    intro s₁ checkpoint raised task' written row next
    rw [own] at written
    refine here.recorded latest written rfl rfl row fun stored either running mem => ?_
    obtain ⟨other, held, -, rfl⟩ := mem_taskOf_iff.mp mem
    cases held
    exact next stored either
  cases moves with
  | raises _ _ => exact goesOn (taskAt_of_over .failing)
  | waitsAtEnd ready exhausted _ =>
      obtain ⟨all, last⟩ := task.exhausted here.le ready exhausted
      exact goesOn (taskAt_of_atEnd rfl all last)
  | @waits event rest ready yields _ _ =>
      obtain ⟨k, holds, next⟩ := task.yielded ready yields
      exact goesOn (taskAt_of_holds (.waiting false) (holds.congr rfl rfl) next)
  | stopsEarly _ _ _ _ => exact goesOn (taskAt_of_over .done)
  | stops _ _ => exact goesOn (taskAt_of_over .done)
  | sleeps delay taken _ _ =>
      obtain ⟨k, holds, next⟩ := task.taken taken
      exact goesOn (taskAt_of_holds (.sleeping delay) (holds.congr rfl rfl) next)
  | paceFails _ _ _ _ _ => exact goesOn (taskAt_of_over .failing)
  | publishes taken _ =>
      obtain ⟨k, holds, next⟩ := task.taken taken
      exact goesOn (holds.publish next)
  | @wakes event delay sleeping =>
      obtain ⟨k, holds, next⟩ := task.holds event (sleeping ▸ .sleeping delay)
      exact goesOn (holds.publish next)
  | stopsAtEnd _ _ => exact goesOn (taskAt_of_over .done)
  | completes atEnd _ written =>
      obtain ⟨all, last⟩ := task.ended here.le atEnd
      refine writes written (fun resumable => by rcases resumable with same | same <;> cases same) fun _ _ => ?_
      exact taskAt_of_completed rfl all (congrArg some last)
  | completeFails _ _ written =>
      exact writes written (fun resumable => by rcases resumable with same | same <;> cases same)
        fun _ _ => taskAt_of_over .failing
  | @records event s₁ published written =>
      obtain ⟨k, holds, rfl⟩ := task.published event published
      refine writes written (fun _ => holds.row _) fun stored either => ?_
      refine taskAt_of_ready rfl ⟨holds.underway.same, fun checkpoint mem _ => ?_⟩ .fresh
        holds.isEvent.sequence fun it has => ?_
      · rcases either with ⟨rfl, noStore⟩ | rfl
        · rw [coherent.noStore (noStore rfl)] at mem
          cases mem
        · cases mem
          exact holds.isEvent.sequence
      · obtain ⟨it', has', iterator⟩ := holds.iterator
        cases has.symm.trans has'
        exact iterator
  | @recordFails event s₁ published written =>
      obtain ⟨k, holds, rfl⟩ := task.published event published
      exact writes written (fun _ => holds.row _) fun _ _ => taskAt_of_over .failing
  | fails _ written =>
      exact writes written (fun resumable => by rcases resumable with same | same <;> cases same)
        fun _ _ => taskAt_of_over (.failed _)
  | failFails _ written =>
      exact writes written (fun resumable => by rcases resumable with same | same <;> cases same)
        fun _ _ => taskAt_of_over .done
  | ends _ => exact goesOn (taskAt_of_over .done)

theorem Followed.taskMoves (followed : Followed config.source s id) (coherent : Coherent config s)
    (active : s.active = some session) (moves : TaskMoves config stamp session fault s s') :
    Followed config.source s' id := by
  by_cases mine : session.controller.sessionId = id
  · obtain ⟨command, effects, n, r, latest, here⟩ := followed.replay (taskOf_self active mine)
    exact here.taskMoves latest coherent active mine moves
  · obtain ⟨⟨task, active'⟩, s₁, store, trace, same | ⟨checkpoint, raised, written⟩⟩ := moves.frame
    · subst same
      refine followed.congr (by rw [store]) trace ?_
      rw [taskOf_ne active mine, taskOf_ne active' mine]
    · have other : id ≠ session.task.command.replaySessionId := by
        rw [(coherent.session session active).command]
        exact Ne.symm mine
      refine (followed.written other rfl written).congr (by rw [store]) trace ?_
      rw [taskOf_ne active' mine, taskOf_congr written.frame.2.1, taskOf_ne active mine]

omit [PyFloat F] in
/-- The task will publish no more. -/
theorem Followed.over {source : ReplaySource F} {phase : TaskPhase F} (followed : Followed source s id)
    (active : s.active = some session) (ended : Over phase) : Followed source (s.setPhase session phase) id := by
  refine followed.tasks rfl rfl fun running mem => ?_
  obtain ⟨other, held, mine, rfl⟩ := mem_taskOf_iff.mp mem
  cases held
  exact ⟨session.task, taskOf_self active mine, .inr (.inr ended)⟩

omit [PyFloat F] in
/-- An event that reaches its topic is the next one or the last one again. -/
theorem ReplayAt.sentEvent {source : ReplaySource F} {task : Option (ReplayTask F)}
    (here : ReplayAt source id command effects stored n r task)
    (isEvent : IsEvent source command k event) (own : event.replaySessionId = id)
    (next : NextAt n r (restarts effects) k)
    (row : ∀ checkpoint ∈ stored, checkpoint.Resumable → checkpoint.lastSequence = k)
    {task' : Option (ReplayTask F)} (tasks : ∀ running ∈ task', ∀ r',
      TaskAt source command (restarts effects) stored (k + 1) r' running) :
    ∃ r', ReplayAt source id command (.telemetry event :: effects) stored (k + 1) r' task' := by
  have inside : k < (rangeRows source command).length := by
    obtain ⟨-, row, held, -⟩ := isEvent
    exact (List.getElem?_eq_some_iff.mp held).1
  have seen : telemetryOf id (.telemetry event :: effects) = event :: telemetryOf id effects := by
    rw [telemetryOf_cons]
    show List.filterMap _ [_] ++ _ = _
    simp [own]
  have same : restarts (.telemetry event :: effects) = restarts effects := by
    rw [restarts_cons]
    exact Nat.zero_add _
  obtain ⟨r', sent, repeats, n_le, le_n⟩ : ∃ r', Lib.Resent (IsEvent source command)
      (event :: telemetryOf id effects) (k + 1) r' ∧ r' ≤ restarts effects ∧ n ≤ k + 1 ∧ k ≤ n := by
    cases next with
    | fresh => exact ⟨r, .next here.sent isEvent, here.repeats, Nat.le_succ _, Nat.le_refl _⟩
    | repeated last less =>
        subst last
        exact ⟨r + 1, .again here.sent isEvent, less, Nat.le_refl _, Nat.le_succ _⟩
  refine ⟨r', ?_, ?_, ?_, ?_, ?_⟩
  · rw [seen]
    exact sent
  · rw [same]
    exact repeats
  · intro checkpoint mem resumable
    obtain ⟨sameReplay, j, behind, -⟩ := here.row checkpoint mem resumable
    refine ⟨sameReplay, j, behind, .inr ?_⟩
    have last := behind.last.symm.trans (row checkpoint mem resumable)
    omega
  · rw [same]
    exact fun running mem => tasks running mem r'
  · intro status mem reports
    rcases List.mem_cons.mp mem with new | old
    · cases new
    · obtain ⟨all, last⟩ := here.completed status old reports
      have whole : k + 1 = n := by omega
      rw [whole]
      exact ⟨all, last⟩

omit [PyFloat F] in
/-- The event at hand is one of the session. -/
theorem Followed.eventSession (followed : Followed config.source s session.controller.sessionId)
    (active : s.active = some session) (publishing : session.task.phase = .publishing event) :
    event.replaySessionId = session.controller.sessionId := by
  obtain ⟨command, effects, n, r, latest, here⟩ := followed.replay (taskOf_self active rfl)
  obtain ⟨k, holds, -⟩ := (here.task session.task rfl).holds event (publishing ▸ .publishing)
  exact holds.isEvent.replaySessionId.trans (latestReplay_session latest)

omit [PyFloat F] in
theorem followed_sent {phase : TaskPhase F} (followed : ∀ id, Followed config.source s id)
    (active : s.active = some session) (publishing : session.task.phase = .publishing event)
    (later : phase = .published event ∨ phase = .failing) (id : UUID) :
    Followed config.source ({ s with trace := .telemetry event :: s.trace }.setPhase session phase) id := by
  have own := (followed _).eventSession active publishing
  by_cases mine : session.controller.sessionId = id
  · obtain ⟨command, effects, n, r, latest, here⟩ := (followed id).replay (taskOf_self active mine)
    obtain ⟨k, holds, next⟩ := (here.task session.task rfl).holds event (publishing ▸ .publishing)
    have goesOn : latestReplay id (.telemetry event :: s.trace) =
        some (command, .telemetry event :: effects) := by
      rw [latestReplay_cons rfl, latest]
      rfl
    refine (followed_iff goesOn).mpr ⟨k + 1, ?_⟩
    refine here.sentEvent holds.isEvent (own.trans mine) next holds.underway.row fun running mem r' => ?_
    obtain ⟨other, held, -, rfl⟩ := mem_taskOf_iff.mp mem
    cases held
    rcases later with rfl | rfl
    · exact taskAt_of_published rfl (holds.congr rfl rfl) rfl
    · exact taskAt_of_over .failing
  · refine (followed id).neutral (neutral_telemetry (own ▸ mine)) rfl rfl ?_
    rw [taskOf_ne active mine]
    exact taskOf_ne rfl mine

omit [PyFloat F] in
/-- The terminal status of a replay reaches its topic. -/
theorem Followed.reported {status : ReplayStatusV1} {inHandler : Bool} {phase : TaskPhase F}
    (followed : Followed config.source s id) (coherent : Coherent config s)
    (active : s.active = some session)
    (publishing : session.task.phase = .publishingStatus status inHandler) (ended : Over phase) :
    Followed config.source ({ s with trace := .status .replay status :: s.trace }.setPhase session phase) id := by
  have ok := coherent.session session active
  have statusOf := ok.status status inHandler publishing
  have own : status.replaySessionId = session.controller.sessionId := statusOf.session.trans ok.command
  let reported : ReplayService F := { s with trace := .status .replay status :: s.trace }
  by_cases reports : ReportsEnd id status
  · have mine : session.controller.sessionId = id := own.symm.trans reports.1
    have completes : inHandler = false := by
      cases inHandler with
      | false => rfl
      | true => exact absurd (statusOf.state.symm.trans reports.2) (by simp)
    subst completes
    obtain ⟨command, effects, n, r, latest, here⟩ := followed.replay (taskOf_self active mine)
    have goesOn : latestReplay id (.status .replay status :: s.trace) =
        some (command, .status .replay status :: effects) := by
      rw [latestReplay_cons rfl, latest]
      rfl
    have same : restarts (.status .replay status :: effects) = restarts effects := by
      rw [restarts_cons]
      exact Nat.zero_add _
    refine (followed_iff goesOn).mpr ⟨n, r, ?_, ?_, here.row, fun running mem => ?_, ?_⟩
    · rw [telemetryOf_cons]
      exact here.sent
    · rw [same]
      exact here.repeats
    · obtain ⟨other, held, -, rfl⟩ := mem_taskOf_iff.mp mem
      cases held
      exact taskAt_of_over ended
    · intro status' mem reports'
      rcases List.mem_cons.mp mem with new | old
      · cases new
        exact (here.task session.task rfl).completed status publishing
      · exact here.completed status' old reports'
  · have kept : Followed config.source reported id := followed.neutral (neutral_status reports) rfl rfl rfl
    exact kept.over active ended

end Task

/-! ### Every step -/

section Step

variable [PyFloat F] [Uuid5] {config : ReplayServiceConfig F} {stamp : ServiceStamp} {fault : Option Bool}
  {s s' : ReplayService F} {session : RunningSession F} {id : UUID} {command : ReplayCommandV1}

omit [PyFloat F] [Uuid5] in
/-- A checkpoint that is not terminal can be resumed. -/
theorem RowOk.resumable {checkpoint : ReplayCheckpoint} (row : RowOk id checkpoint)
    (open_ : ¬ checkpoint.state.Terminal) : checkpoint.Resumable := by
  unfold ReplayCheckpoint.Resumable
  cases state : checkpoint.state with
  | created => exact absurd state row.begun
  | running => exact .inl rfl
  | paused => exact .inr rfl
  | stopped => exact absurd (state ▸ trivial) open_
  | completed => exact absurd (state ▸ trivial) open_
  | failed => exact absurd (state ▸ trivial) open_

omit [PyFloat F] in
/-- A control command changes the state of the checkpoint. -/
theorem Followed.updated {control : ReplayCommandV1} {raised : Bool} {state : ReplayState} {own : UUID}
    (followed : Followed config.source s id) (coherent : Coherent config s)
    (action : control.action ≠ .start)
    (leaves : state = .running ∨ state = .paused → ¬ s.Finished own)
    (updated : Updated config (.command control) fault own state s s' raised) :
    Followed config.source s' id := by
  have goesOn : ∀ checkpoint, begins id (.recorded (.command control) own checkpoint : Effect F) = none :=
    fun _ => begins_other fun both => action both.2
  cases updated with
  | missing _ => exact followed
  | @found checkpoint s₁ raised held written =>
      by_cases mine : id = own
      · subst mine
        obtain ⟨-, active, -⟩ := written.frame
        rcases written.after with ⟨same, quiet, -⟩ | ⟨replaced, later⟩
        · exact followed.congr same quiet (taskOf_congr active id)
        · have before : { checkpoint with state }.Resumable → checkpoint.Resumable := fun resumable =>
            (coherent.rows id checkpoint held).resumable fun terminal =>
              leaves resumable ⟨checkpoint, held, terminal⟩
          cases latest : latestReplay id s.trace with
          | none =>
              have absent := ((followed_iff_of_none latest).mp followed).1
              rw [absent] at held
              cases held
          | some replay =>
              obtain ⟨command, effects⟩ := replay
              obtain ⟨n, r, here⟩ := (followed_iff latest).mp followed
              rw [held] at here
              have next : ReplayAt config.source id command effects (some { checkpoint with state }) n r
                  (s.taskOf id) := by
                refine ⟨here.sent, here.repeats, ?_, fun running mem => ?_, here.completed⟩
                · rintro other ⟨⟩ resumable
                  obtain ⟨same, behind⟩ := here.row checkpoint rfl (before resumable)
                  exact ⟨same, behind⟩
                · refine (here.task running mem).rewritten ?_
                  rintro other ⟨⟩ resumable
                  exact ⟨checkpoint, rfl, before resumable, rfl⟩
              have after : latestReplay id s'.trace = some (command, .recorded (.command control) id
                  { checkpoint with state } :: effects) := by
                rw [later, latestReplay_cons (goesOn _), latest]
                rfl
              rw [followed_iff after, replaced, taskOf_congr active]
              exact ⟨n, r, next.neutral (neutral_recorded _ _ _ (goesOn _))⟩
      · exact followed.written mine (goesOn _) written

omit [PyFloat F] in
/-- The beginning of a replay. -/
theorem replayAt_begun {source : ReplaySource F} {stored : Option ReplayCheckpoint}
    {task : Option (ReplayTask F)}
    (row : ∀ checkpoint ∈ stored, checkpoint = ⟨command, .running, 0, none⟩)
    (tasks : ∀ running ∈ task, TaskAt source command 0 stored 0 0 running) :
    ReplayAt source id command [] stored 0 0 task := by
  refine ⟨.nil, Nat.le_refl 0, fun checkpoint mem _ => ?_, tasks, fun status mem => by cases mem⟩
  cases row checkpoint mem
  exact ⟨⟨rfl, rfl, rfl⟩, 0, .start, .inl rfl⟩

omit [PyFloat F] [Uuid5] in
theorem over_of_not_live (notLive : s.live = none) (active : s.active = some session) :
    Over session.task.phase := by
  have done := done_of_not_live notLive active
  unfold ReplayTask.isDone at done
  split at done
  · rename_i phase
    rw [phase]
    exact .done
  · cases done

omit [PyFloat F] [Uuid5] in
/-- A START that is applied to a new controller gives it its range. -/
theorem range_of_start {ctrl : ReplayController} (start : command.action = .start)
    (applied : (ReplayController.created command.replaySessionId command.sourceDatasetSha256
      command.contractSha256).apply command = .ok ctrl) : ctrl.sessionId = command.replaySessionId ∧
        ctrl.rangeStart = command.rangeStart ∧ ctrl.rangeEnd = command.rangeEnd := by
  unfold ReplayController.apply at applied
  rw [if_neg (by simp [ReplayController.created]), start,
    if_neg (by simp [ReplayController.created, ALLOWED_TRANSITIONS])] at applied
  cases applied
  exact ⟨rfl, rfl, rfl⟩

omit [PyFloat F] [Uuid5] in
/-- A command that takes a checkpoint back finds it not terminal. -/
theorem not_finished_of_accepted {payload : CommandPayload} {control : Checked ReplayCommandV1}
    {ctrl : ReplayController} {stamp : ServiceStamp}
    (guarded : LeavesTerminal config s (.fetch stamp fault))
    (there : config.commands[s.position]? = some payload) (decoded : payload.value = .ok control)
    (action : control.val.action ≠ .start) (live : s.live = some session)
    (mine : session.controller.sessionId = control.val.replaySessionId)
    (applied : session.controller.apply control.val = .ok ctrl)
    (resumes : ReplayController.stateAfter control.val.action = .running ∨
      ReplayController.stateAfter control.val.action = .paused) :
    ¬ s.Finished ctrl.sessionId := by
  have accepted : (s.accepting control.val).isSome = true := by
    unfold accepting
    rw [live]
    simp [Option.filter, mine, applied, Except.toBool]
  rw [(ReplayController.apply_eq_ok applied).sessionId, mine]
  refine guarded control.val (nextCommand_eq there decoded) ?_ accepted
  cases its : control.val.action with
  | start => exact absurd its action
  | pause => exact .inl rfl
  | resume => exact .inr rfl
  | stop =>
      rw [its] at resumes
      rcases resumes with same | same <;> cases same

omit [PyFloat F] in
/-- The process comes up with no replay to go on with. -/
theorem Followed.started {source : ReplaySource F} (followed : Followed source s id)
    (trace : s'.trace = .started :: s.trace) (store : s'.store.get? id = s.store.get? id)
    (tasks : ∀ running ∈ s'.taskOf id, ∀ command effects n r,
      latestReplay id s.trace = some (command, effects) →
        ReplayAt source id command effects (s.store.get? id) n r (s.taskOf id) →
          TaskAt source command (restarts effects + 1) (s.store.get? id) n r running)
    (resumed : ∀ running ∈ s'.taskOf id, (s.store.get? id).isSome = true) : Followed source s' id := by
  have later : latestReplay id s'.trace =
      (latestReplay id s.trace).map fun replay => (replay.1, .started :: replay.2) := by
    rw [trace, latestReplay_cons rfl]
  cases latest : latestReplay id s.trace with
  | none =>
      obtain ⟨absent, idle, quiet⟩ := (followed_iff_of_none latest).mp followed
      rw [latest] at later
      rw [followed_iff_of_none later, store, trace, telemetryOf_cons, quiet]
      refine ⟨absent, ?_, rfl⟩
      rw [Option.eq_none_iff_forall_not_mem]
      intro running mem
      have held := resumed running mem
      rw [absent] at held
      cases held
  | some replay =>
      obtain ⟨command, effects⟩ := replay
      obtain ⟨n, r, here⟩ := (followed_iff latest).mp followed
      rw [latest] at later
      have more : restarts (.started :: effects) = restarts effects + 1 := by
        rw [restarts_cons]
        exact Nat.add_comm 1 _
      rw [followed_iff later, store]
      refine ⟨n, r, ?_, ?_, here.row, ?_, ?_⟩
      · rw [telemetryOf_cons]
        exact here.sent
      · rw [more]
        exact Nat.le_succ_of_le here.repeats
      · rw [more]
        exact fun running mem => tasks running mem command effects n r latest here
      · intro status mem reports
        rcases List.mem_cons.mp mem with new | old
        · cases new
        · exact here.completed status old reports

theorem followed_moves {a : ReplayServiceAction} (followed : ∀ id, Followed config.source s id)
    (coherent : Coherent config s) (guarded : LeavesTerminal config s a) (moves : Moves config s a s')
    (id : UUID) : Followed config.source s' id := by
  have here := followed id
  cases moves with
  | undecodable record _ _ _ => exact here.congr rfl rfl rfl
  | refusedActive _ _ _ _ _ => exact here.congr rfl rfl rfl
  | refusedIdentity _ _ _ _ _ _ => exact here.congr rfl rfl rfl
  | @startFails stamp fault payload command s₁ idle _ _ start notLive _ _ written =>
      refine Followed.beginStop ?_
      have taken : Followed config.source s.fetched id := here.congr rfl rfl rfl
      obtain ⟨-, active, -⟩ := written.frame
      by_cases mine : command.val.replaySessionId = id
      · subst mine
        rcases written.after with ⟨same, quiet, -⟩ | ⟨replaced, later⟩
        · exact taken.congr same quiet (taskOf_congr active _)
        · rw [followed_iff (by rw [later]; exact latestReplay_begun (begins_start start)), replaced]
          refine ⟨0, 0, replayAt_begun (fun checkpoint mem => (Option.some.inj mem).symm)
            fun running mem => ?_⟩
          obtain ⟨session, held, -, rfl⟩ := mem_taskOf_iff.mp mem
          exact taskAt_of_over (over_of_not_live notLive (active ▸ held))
      · exact taken.written (Ne.symm mine) (begins_other fun both => mine both.1) written
  | @starts stamp fault payload command s₁ ctrl idle _ _ start notLive _ _ written applied =>
      have taken : Followed config.source s.fetched id := here.congr rfl rfl rfl
      obtain ⟨-, active, -⟩ := written.frame
      obtain ⟨own, rangeStart, rangeEnd⟩ := range_of_start start applied
      by_cases mine : command.val.replaySessionId = id
      · subst mine
        rw [followed_iff (latestReplay_begun (begins_accepted command.val))]
        have row : ∀ checkpoint ∈ s₁.store.get? command.val.replaySessionId,
            checkpoint = ⟨command.val, .running, 0, none⟩ := by
          intro checkpoint mem
          rcases written.after with ⟨same, -, noStore⟩ | ⟨replaced, -⟩
          · rw [same, fetched_store, coherent.noStore (noStore rfl)] at mem
            cases mem
          · rw [replaced] at mem
            exact (Option.some.inj mem).symm
        refine ⟨0, 0, replayAt_begun row fun running mem => ?_⟩
        obtain ⟨session, held, -, rfl⟩ := mem_taskOf_iff.mp mem
        cases held
        have same : SameReplay command.val (startCmd stamp ctrl) := ⟨own, rangeStart, rangeEnd⟩
        refine taskAt_of_ready rfl ⟨same, fun checkpoint mem _ => ?_⟩ .fresh rfl
          fun it has => iteratorAt_start same has
        cases row checkpoint mem
        rfl
      · have kept := taken.written (Ne.symm mine) (begins_other fun both => mine both.1) written
        have accepted : Followed config.source { s₁ with trace := .accepted command.val :: s₁.trace } id :=
          kept.neutral (neutral_accepted mine) rfl rfl rfl
        refine accepted.tasks rfl rfl fun running mem => ?_
        obtain ⟨session, held, its, -⟩ := mem_taskOf_iff.mp mem
        cases held
        exact absurd (own.symm.trans its) mine
  | ignored _ _ _ _ _ => exact here.congr rfl rfl rfl
  | illegal _ _ _ _ _ _ _ =>
      have taken : Followed config.source s.fetched id := here.congr rfl rfl rfl
      exact taken.beginStop
  | @controlFails stamp fault payload control session ctrl s₁ idle there decoded action live mine applied updated =>
      have taken : Followed config.source s.fetched id := here.congr rfl rfl rfl
      exact (taken.updated coherent.fetched action
        (not_finished_of_accepted (s := s) guarded there decoded action live mine applied) updated).beginStop
  | @controls stamp fault payload control session ctrl s₁ idle there decoded action live mine applied updated =>
      have taken : Followed config.source s.fetched id := here.congr rfl rfl rfl
      have kept := taken.updated coherent.fetched action
        (not_finished_of_accepted (s := s) guarded there decoded action live mine applied) updated
      have active : s₁.active = some session :=
        (updated.coherent coherent.fetched).2.2.1.trans (live_eq_some_iff.mp live).1
      have same := (ReplayController.apply_eq_ok applied).sessionId
      refine kept.tasks rfl rfl fun running mem => ?_
      obtain ⟨other, held, its, rfl⟩ := mem_taskOf_iff.mp mem
      cases held
      rw [(signal_frame control.val.action { session with controller := ctrl }).1] at its
      refine ⟨session.task, taskOf_self active (same.symm.trans its), ?_⟩
      cases control.val.action with
      | start => exact .inl rfl
      | pause => exact .inl rfl
      | resume => exact .inr (.inl rfl)
      | stop => exact .inr (.inl rfl)
  | @publishes _ message _ => exact here.neutral (neutral_outgoing id message) rfl rfl rfl
  | @publishRaises _ message _ =>
      have sent : Followed config.source { s with trace := Outgoing.effect message :: s.trace } id :=
        here.neutral (neutral_outgoing id message) rfl rfl rfl
      exact sent.beginStop
  | publishLost _ => exact here.beginStop
  | commits _ => exact here.congr rfl rfl rfl
  | commitFails acknowledged _ _ =>
      have kept : Followed config.source { s with committed := acknowledged } id := here.congr rfl rfl rfl
      exact kept.beginStop
  | task active moves => exact here.taskMoves coherent active moves
  | telemetrySent active publishing => exact followed_sent followed active publishing (.inl rfl) id
  | telemetryRaises active publishing => exact followed_sent followed active publishing (.inr rfl) id
  | telemetryLost active _ => exact here.over active .failing
  | statusSent active publishing => exact here.reported coherent active publishing .publishedStatus
  | @statusRaises session status inHandler active publishing =>
      refine here.reported coherent active publishing ?_
      cases inHandler
      · exact .failing
      · exact .done
  | @statusLost session status inHandler active _ =>
      refine here.over active ?_
      cases inHandler
      · exact .failing
      · exact .done
  | shutsDown _ _ => exact here.beginStop
  | exits _ => exact here.leave
  | crashes _ => exact here.leave
  | staysDown _ => exact here
  | comesUp down _ =>
      have idle := coherent.down down
      have none : ∀ {running : ReplayTask F}, running ∈ ReplayService.taskOf { s with
          trace := .started :: s.trace
          position := s.committed
          phase := .idle } id → False := by
        intro running mem
        obtain ⟨session, held, -⟩ := mem_taskOf_iff.mp mem
        have held : s.active = some session := held
        rw [idle] at held
        cases held
      exact here.started rfl rfl (fun _ mem => (none mem).elim) fun _ mem => (none mem).elim
  | @resumes _ resumed checkpoint ctrl down hasStore one applied =>
      have its := (ReplayController.apply_eq_ok applied).sessionId
      have mem : (resumed, checkpoint) ∈ s.loadIncompleteReplays := one ▸ List.mem_singleton_self _
      obtain ⟨stored, resumable⟩ := mem_loadIncompleteReplays_iff.mp mem
      refine here.started rfl rfl (fun running mem command effects n r latest at_ => ?_)
        fun running mem => ?_
      · obtain ⟨session, held, mine, rfl⟩ := mem_taskOf_iff.mp mem
        cases held
        cases its.symm.trans mine
        obtain ⟨same, k, behind, place⟩ := at_.row checkpoint stored resumable
        refine taskAt_of_ready (k := k) rfl ⟨same, fun other held _ => ?_⟩ ?_ behind.last
          fun it has => behind.resume same has
        · cases stored.symm.trans held
          exact behind.last
        · rcases place with rfl | last
          · exact .fresh
          · exact .repeated last (Nat.lt_succ_of_le at_.repeats)
      · obtain ⟨session, held, mine, -⟩ := mem_taskOf_iff.mp mem
        cases held
        cases its.symm.trans mine
        exact Option.isSome_of_mem stored

omit [PyFloat F] in
theorem followed_initial (source : ReplaySource F) (id : UUID) :
    Followed source (initial : ReplayService F) id :=
  (followed_iff_of_none rfl).mpr ⟨rfl, rfl, rfl⟩

/-- Whatever is lost or crashes, a session has only telemetry of a replay that a START has
begun, and the latest one has published the events of its first rows in order, without a
gap; an event came again only behind a restart, one for each at most. A checkpoint that
a restart goes on from is at most one event behind, and a replay that was reported as
completed has published its whole range. -/
theorem telemetry_gapless {as : List ReplayServiceAction}
    (run : Lib.Run (step config) (LeavesTerminal config) .initial as s) (id : UUID) :
    (latestReplay id s.trace = none → telemetryOf id s.trace = []) ∧
    ∀ command effects, latestReplay id s.trace = some (command, effects) → ∃ n r,
      Lib.Resent (IsEvent config.source command) (telemetryOf id effects) n r ∧
      r ≤ restarts effects ∧
      (∀ checkpoint, s.store.get? id = some checkpoint → checkpoint.Resumable →
        checkpoint.lastSequence = n ∨ checkpoint.lastSequence + 1 = n) ∧
      ∀ status, .status .replay status ∈ effects → ReportsEnd id status →
        n = (rangeRows config.source command).length ∧ status.lastSequence = some (n : Int) := by
  have kept : Coherent config s ∧ ∀ id, Followed config.source s id := by
    refine run.invariant (P := fun s => Coherent config s ∧ ∀ id, Followed config.source s id) ?_
      ⟨coherent_initial config, followed_initial config.source⟩
    rintro s a s' ⟨coherent, followed⟩ guarded taken
    have moves := step_moves taken
    exact ⟨coherent.moves moves, followed_moves followed coherent guarded moves⟩
  have followed := kept.2 id
  refine ⟨fun unbegun => ((followed_iff_of_none unbegun).mp followed).2.2, fun command effects latest => ?_⟩
  obtain ⟨n, r, here⟩ := (followed_iff latest).mp followed
  refine ⟨n, r, here.sent, here.repeats, fun checkpoint stored resumable => ?_, here.completed⟩
  obtain ⟨-, k, behind, place⟩ := here.row checkpoint stored resumable
  rw [behind.last]
  omega

end Step

/-- A replay of two rows that crashes behind its first event publishes it again. -/
theorem crashedReplay_gapless :
    letI := knownUuid5 []
    let config := unpacedReplay true 2 [(1, .start)]
    ∃ s, Lib.Run (step config) (LeavesTerminal config) .initial
        [.restart false, .fetch replayStamp none, .mainPublish none, .commit none,
          .taskRun replayStamp none, .taskPublish none, .crash, .restart false,
          .taskRun replayStamp none, .taskPublish none, .taskRun replayStamp none,
          .taskRun replayStamp none, .taskPublish none, .taskRun replayStamp none] s ∧
      ((latestReplay 1 s.trace).map fun replay => (telemetryOf 1 replay.2).map (·.sequence)) =
        some [2, 1, 1] ∧
      ∀ command effects, latestReplay 1 s.trace = some (command, effects) → ∃ n r,
        Lib.Resent (IsEvent config.source command) (telemetryOf 1 effects) n r ∧ r ≤ restarts effects := by
  let := knownUuid5 []
  let config := unpacedReplay true 2 [(1, .start)]
  obtain ⟨s, run, sent⟩ := Lib.exists_run_of_exec (step config) (LeavesTerminal config) .initial
    [.restart false, .fetch replayStamp none, .mainPublish none, .commit none,
      .taskRun replayStamp none, .taskPublish none, .crash, .restart false,
      .taskRun replayStamp none, .taskPublish none, .taskRun replayStamp none,
      .taskRun replayStamp none, .taskPublish none, .taskRun replayStamp none]
    (fun s => ((latestReplay 1 s.trace).map fun replay => (telemetryOf 1 replay.2).map (·.sequence)) =
      some [2, 1, 1]) (by decide)
  refine ⟨s, run, sent, fun command effects latest => ?_⟩
  obtain ⟨n, r, resent, repeats, -⟩ := (telemetry_gapless run 1).2 command effects latest
  exact ⟨n, r, resent, repeats⟩

/-- A PAUSE that takes back the checkpoint of a failed replay: after a restart the replay
goes on behind the event that was never published. -/
example :
    letI := knownUuid5 []
    let config := unpacedReplay true 2 [(1, .start), (1, .pause), (1, .resume)]
    ((Lib.exec (step config) Lib.Always .initial
      [.restart false, .fetch replayStamp none, .mainPublish none, .commit none,
        .taskRun replayStamp none, .taskPublish (some false), .taskRun replayStamp none,
        .fetch replayStamp none, .mainPublish none, .commit none, .crash, .restart false,
        .fetch replayStamp none, .mainPublish none, .commit none, .taskRun replayStamp none,
        .taskPublish none]).map fun s => (telemetryOf 1 s.trace).map (·.sequence)) = some [2] := by
  decide

end ReplayService

end IndustrialReliability
