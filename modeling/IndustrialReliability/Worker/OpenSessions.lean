import IndustrialReliability.Features.Parity
import IndustrialReliability.Worker.Recall
import IndustrialReliability.Worker.SafeCommits

/-!
Commits over open sessions.

The bookkeeping of the worker is by session: a session that ends commits past whatever lies
below its records. `EndsAlone` asks of the records alone that nothing is open there:
no other session that has neither failed nor ended, and no status record that does not
decode, which blocks its partition for nobody (`undecodableStatus_committed`). Then every
commit is safe, whatever the crashes (`commitsSafe_of_run`).
-/

namespace IndustrialReliability

variable {F : Type}

/-! ### The service and what its process has read -/

/-- The service, the records that its process has read and the ids that it was given for
statuses of its own. -/
structure WorkerReader (F : Type) [PyFloat F] where
  service : WorkerService F
  heard : List (WorkerRecord F)
  drawn : List UUID

namespace WorkerReader

variable [PyFloat F]

def initial : WorkerReader F := ⟨.initial, [], []⟩

/-- The next record of a partition. -/
def next (log : WorkerLog F) (r : WorkerReader F) (tp : TopicPartition) : Option (WorkerRecord F) :=
  r.service.process.bind fun proc => log.recordAt tp (proc.position tp)

variable [Uuid5] [Sha256Digest]

/-- A step of the service. -/
def step (settings : WorkerSettings) (log : WorkerLog F) (r : WorkerReader F) :
    WorkerStep F → Option (WorkerReader F)
  | .deliver tp stamp lostAfter => do
      let record ← r.next log tp
      let service ← r.service.deliver settings log tp stamp lostAfter
      return ⟨service, hear r.heard record, stamp.statusId :: r.drawn⟩
  | .crash => r.service.crash.map fun service => ⟨service, [], []⟩
  | .restart => r.service.restart.map fun service => ⟨service, [], []⟩

end WorkerReader

/-- The record at the offset decodes, if it is a status, and belongs to no other session
that is open. -/
def NothingOpenAt [PyFloat F] (settings : WorkerSettings) (log : WorkerLog F)
    (heard : List (WorkerRecord F)) (session : UUID) (tp : TopicPartition) (offset : Nat) : Prop :=
  ∀ below ∈ log.recordAt tp offset, (tp.topic = .replayStatus → below.session ≠ none) ∧
    ∀ other ∈ below.session, other ≠ session → ClosedBy settings heard other

/-- When a record ends a session, nothing is open at or below the records of the session,
where no commit has passed yet, and no event has come behind an earlier end of it. -/
def EndsAlone [PyFloat F] (settings : WorkerSettings) (log : WorkerLog F) (r : WorkerReader F) :
    WorkerStep F → Prop
  | .deliver tp _ _ => ∀ record ∈ r.next log tp, OwnOrForeign settings r.heard r.drawn record ∧
      (¬ Unheard r.heard record → ∀ session ∈ record.session, Ends settings r.heard record session →
        ¬ Reopened settings (record :: r.heard) session ∧
        ∀ mine ∈ record :: r.heard, mine.session = some session →
          lastOffsetOf (record :: r.heard) session mine.tp = some mine.offset →
          ∀ offset ≤ mine.offset, ¬ r.service.Passed mine.tp offset →
            NothingOpenAt settings log r.heard session mine.tp offset)
  | _ => True

section Steps

variable [PyFloat F] {settings : WorkerSettings} {log : WorkerLog F} {heard : List (WorkerRecord F)}
  {drawn : List UUID} {memory : WorkerMemory F} {record : WorkerRecord F} {session : UUID}
  {r r' : WorkerReader F} {a : WorkerStep F}

/-- A session that is closed by the records is closed in memory. -/
theorem Recalls.closed (recalls : Recalls settings heard drawn memory) (closed : ClosedBy settings heard session) :
    memory.Closed session := by
  by_cases failed : FailedBy settings heard session
  · exact .inl ((recalls.failed session).mpr failed)
  · have known := recalls.session session failed
    obtain ⟨⟨term, named, last, bound, reached⟩, rest⟩ := closed.resolve_left failed
    refine .inr ⟨⟨term, ?_, last, bound, ?_⟩, fun entry held => ?_⟩
    · rwa [known.terminal]
    · rwa [known.sequence]
    · have events : lastSequenceOf heard session ≠ none := by
        intro none
        rw [known.noBuilder.mpr none] at held
        cases held
      obtain ⟨ended, whole⟩ := rest events
      obtain ⟨-, completed, flushed⟩ := known.builder entry held
      exact ⟨completed.mpr ended, flushed ended whole⟩

/-- The record that completes a session in memory ends it. -/
theorem Recalls.ends (recalls : Recalls settings heard drawn memory)
    (completes : completedBy settings memory record = some session) : Ends settings heard record session := by
  unfold completedBy at completes
  split at completes
  · rename_i event carries
    have held := WorkerRecord.event?_eq_some carries
    dsimp only at completes
    split at completes
    · rename_i conditions
      obtain rfl := Option.some.inj completes
      obtain ⟨-, alive, dataset, contract, term, named, completed, last⟩ := conditions
      have fine : ¬ record.Fails settings event.val.replaySessionId := by
        rw [WorkerRecord.fails_of_event held]
        rintro ⟨-, other | other⟩
        · exact other dataset
        · exact other contract
      have alive := recalls.alive fine alive
      have known := recalls.session_of_alive alive
      rw [known.terminal] at named
      exact (ends_event_iff held alive).mpr ⟨term, named, completed, last⟩
    · cases completes
  · rename_i status carries
    have held := WorkerRecord.status?_eq_some carries
    dsimp only at completes
    split at completes
    · rename_i conditions
      obtain rfl := Option.some.inj completes
      obtain ⟨-, alive, closes, reached⟩ := conditions
      have alive := recalls.alive (WorkerRecord.not_fails_of_closes held closes) alive
      have known := recalls.session_of_alive alive
      rw [known.sequence] at reached
      exact (ends_status_iff held closes alive).mpr reached
    · cases completes
  · cases completes

/-- Its builder has taken nothing since an earlier end. -/
theorem Recalls.nothingSince (recalls : Recalls settings heard drawn memory)
    (decoded : record.session = some session) (alive : ¬ FailedBy settings heard session)
    (whole : ¬ Reopened settings (record :: heard) session) : NothingSince memory record session := by
  intro entry held complete
  obtain ⟨last, completed, flushed⟩ := (recalls.session session alive).builder entry held
  have ended := completed.mp complete
  refine ⟨flushed ended fun before => whole (.inr before), ?_⟩
  split
  · rename_i event carries
    have here := WorkerRecord.event?_eq_some carries
    obtain rfl := Option.some.inj (decoded.symm.trans (WorkerRecord.session_of_event here).1)
    rw [last]
    by_contra other
    exact whole (.inl ⟨ended, _, sequenceOf_event here, other⟩)
  · trivial

/-- What the records say of the open sessions holds of those in memory. -/
theorem EndsAlone.noOpenSession (alone : EndsAlone settings log r a)
    (recalls : ∀ proc ∈ r.service.process, Recalls settings r.heard r.drawn proc.memory) :
    NoOpenSession settings log r.service a := by
  cases a with
  | crash | restart => trivial
  | deliver tp stamp lostAfter =>
      intro proc up record held session completes
      have next : record ∈ r.next log tp := by
        unfold WorkerReader.next
        rw [Option.mem_def.mp up]
        exact held
      have known := recalls proc up
      obtain ⟨decoded, unblocked⟩ := completedBy_eq_some completes
      have ends := known.ends completes
      have alive : ¬ FailedBy settings r.heard session :=
        fun failed => ends.2 (failedBy_cons.mpr (.inr failed))
      have heard : ¬ Unheard r.heard record :=
        fun unheard => unblocked unheard.1 ((known.blocked _).mpr unheard.2)
      obtain ⟨whole, below⟩ := (alone record next).2 heard session decoded ends
      refine ⟨known.nothingSince decoded alive whole, ?_⟩
      intro offsets tracks entry mem offset less fresh found recorded
      have tracked := (known.session session alive).tracked_trackOffset decoded entry.1
      rw [tracked_of_mem_rows tracks mem] at tracked
      obtain ⟨top, last, behind⟩ := Option.map_eq_some_iff.mp tracked.symm
      obtain ⟨mine, read, owned, same, rfl⟩ := exists_of_lastOffsetOf last
      rw [← same] at last fresh recorded ⊢
      obtain ⟨decodes, others⟩ := below mine read owned last offset (by omega) fresh found recorded
      exact ⟨decodes, fun other there apart => known.closed (others other there apart)⟩

/-- The service is safe, and its process recalls what it has read. -/
structure ReaderInvariant (settings : WorkerSettings) (log : WorkerLog F) (r : WorkerReader F) : Prop where
  service : WorkerInvariant log r.service
  recalls : ∀ proc ∈ r.service.process, Recalls settings r.heard r.drawn proc.memory

variable [Uuid5] [Sha256Digest]

theorem WorkerReader.step_service (taken : r.step settings log a = some r') :
    r.service.step settings log a = some r'.service := by
  unfold WorkerReader.step at taken
  cases a with
  | deliver tp stamp lostAfter =>
      obtain ⟨record, -, rest⟩ := Option.bind_eq_some_iff.mp taken
      obtain ⟨service, moved, same⟩ := Option.bind_eq_some_iff.mp rest
      cases same
      exact moved
  | crash | restart =>
      obtain ⟨service, moved, rfl⟩ := Option.map_eq_some_iff.mp taken
      exact moved

/-- What has been read restricts no step of the service. -/
theorem WorkerReader.exists_step {s' : WorkerService F} (taken : r.service.step settings log a = some s') :
    ∃ r', r.step settings log a = some r' ∧ r'.service = s' := by
  unfold WorkerReader.step
  cases a with
  | deliver tp stamp lostAfter =>
      have moved : r.service.deliver settings log tp stamp lostAfter = some s' := taken
      unfold WorkerService.step WorkerService.deliver at taken
      cases up : r.service.process with
      | none =>
          rw [up] at taken
          cases taken
      | some proc =>
          rw [up] at taken
          dsimp only at taken
          obtain ⟨record, held, -⟩ := Option.map_eq_some_iff.mp taken
          have next : r.next log tp = some record := by
            unfold WorkerReader.next
            rw [up]
            exact held
          refine ⟨⟨s', hear r.heard record, stamp.statusId :: r.drawn⟩, ?_, rfl⟩
          dsimp only
          rw [next, moved]
          rfl
  | crash | restart => exact ⟨⟨s', [], []⟩, Option.map_eq_some_iff.mpr ⟨s', taken, rfl⟩, rfl⟩

/-- Every run of the service is one of a service whose process notes what it reads. -/
theorem WorkerReader.exists_run {s : WorkerService F} {as : List (WorkerStep F)}
    (run : Lib.Run (WorkerService.step settings log) Lib.Always r.service as s) :
    ∃ r', Lib.Run (WorkerReader.step settings log) Lib.Always r as r' ∧ r'.service = s := by
  generalize same : r.service = start at run
  induction run generalizing r with
  | nil => exact ⟨r, .nil r, same⟩
  | cons _ taken _ ih =>
      subst same
      obtain ⟨next, moved, there⟩ := WorkerReader.exists_step taken
      obtain ⟨last, rest, reached⟩ := ih there
      exact ⟨last, .cons trivial moved rest, reached⟩

theorem ReaderInvariant.step (inv : ReaderInvariant settings log r) (alone : EndsAlone settings log r a)
    (taken : r.step settings log a = some r') : ReaderInvariant settings log r' := by
  refine ⟨workerInvariant_step inv.service (alone.noOpenSession inv.recalls)
    (WorkerReader.step_service taken), fun proc' up' => ?_⟩
  unfold WorkerReader.step at taken
  cases a with
  | deliver tp stamp lostAfter =>
      obtain ⟨record, next, rest⟩ := Option.bind_eq_some_iff.mp taken
      obtain ⟨service, moved, same⟩ := Option.bind_eq_some_iff.mp rest
      cases same
      obtain ⟨proc, up, held⟩ := Option.bind_eq_some_iff.mp next
      unfold WorkerService.deliver at moved
      rw [up] at moved
      dsimp only at moved
      rw [held] at moved
      obtain rfl := Option.some.inj moved
      obtain ⟨ok, rfl⟩ := WorkerService.handle_process up'
      exact (inv.recalls proc up).handled (alone record next).1 ok
  | crash =>
      obtain ⟨service, moved, rfl⟩ := Option.map_eq_some_iff.mp taken
      unfold WorkerService.crash at moved
      split at moved <;> cases moved
      cases up'
  | restart =>
      obtain ⟨service, moved, rfl⟩ := Option.map_eq_some_iff.mp taken
      unfold WorkerService.restart at moved
      split at moved <;> cases moved
      obtain rfl := Option.some.inj up'
      exact recalls_empty

/-- In every run in which no session ends over a status record that did not decode or over
another session that is open, whatever its crashes, every commit is safe. -/
theorem commitsSafe_of_run {as : List (WorkerStep F)}
    (run : Lib.Run (WorkerReader.step settings log) (EndsAlone settings log) .initial as r) :
    r.service.CommitsSafe log :=
  (run.invariant (P := ReaderInvariant settings log) (fun _ _ _ inv alone taken => inv.step alone taken)
    ⟨workerInvariant_initial log, nofun⟩).service.safe

end Steps

section Decidable

variable [PyFloat F] {settings : WorkerSettings} {log : WorkerLog F} {heard : List (WorkerRecord F)}
  {session : UUID} {r : WorkerReader F}

instance (tp : TopicPartition) (offset : Nat) : Decidable (NothingOpenAt settings log heard session tp offset) :=
  inferInstanceAs (Decidable (∀ below ∈ log.recordAt tp offset, _ ∧
    ∀ other ∈ below.session, other ≠ session → ClosedBy settings heard other))

instance (a : WorkerStep F) : Decidable (EndsAlone settings log r a) :=
  match a with
  | .deliver tp _ _ => inferInstanceAs (Decidable (∀ record ∈ r.next log tp,
      OwnOrForeign settings r.heard r.drawn record ∧
      (¬ Unheard r.heard record → ∀ session ∈ record.session, Ends settings r.heard record session →
        ¬ Reopened settings (record :: r.heard) session ∧
        ∀ mine ∈ record :: r.heard, mine.session = some session →
          lastOffsetOf (record :: r.heard) session mine.tp = some mine.offset →
          ∀ offset ≤ mine.offset, ¬ r.service.Passed mine.tp offset →
            NothingOpenAt settings log r.heard session mine.tp offset)))
  | .crash | .restart => instDecidableTrue

end Decidable

/-! ### Three sessions in a partition -/

def workerSettings : WorkerSettings := ⟨"m2-v1", 2, 3, ["tp2_last", "oil_level_last"]⟩

def quietDecision (vector : FeatureVectorV1 Int) : ScoreDecisionV1 Int where
  messageId := 700
  replaySessionId := vector.replaySessionId
  sourceDatasetSha256 := vector.sourceDatasetSha256
  contractSha256 := vector.contractSha256
  sourceTimestamp := vector.sourceTimestamp
  emittedAt := ⟨0⟩
  decisionId := 700
  windowId := vector.windowId
  modelVersion := "m2-v1"
  score := 0
  threshold := 1
  isAnomaly := false
  evidenceVector := []

/-- The clock stands still, and the scoring API finds nothing. -/
def answeringStamp : HandlerStamp Int :=
  ⟨⟨0⟩, ⟨0⟩, 900, 901, ⟨0⟩, fun vector => .ok (quietDecision vector)⟩

/-- Records of a partition, handled one after another. -/
def readNext (tp : TopicPartition) (count : Nat) : List (WorkerStep Int) :=
  List.replicate count (.deliver tp answeringStamp none)

/-- When the samples are taken: every ten seconds for four minutes of each five. -/
def denseStamp (k : Nat) : Int :=
  PHASE1C.train.start + Datetime.seconds (300 * (k / 24 : Nat) + 10 * (k % 24 : Nat) + 10)

def denseEvent (k : Nat) : TelemetryEventV1 Int :=
  { steadyEvent (k + 1) (denseStamp k) with messageId := 0, machineId := "metropt-compressor-01" }

theorem denseEvent_valid (k : Nat) : Valid (denseEvent k) := by
  intro check mem
  simp only [FrozenMessage.checks, denseEvent, steadyEvent, List.mem_append, List.mem_cons, List.not_mem_nil,
    or_false, List.mem_map] at mem
  rcases mem with ((rfl | rfl | rfl) | ⟨column, -, rfl⟩) | ⟨column, -, rfl⟩
  · exact decide_eq_true (by decide)
  · exact decide_eq_true (by decide)
  · simp
  · simp
  · cases column <;> decide

/-- The events of a session: six bins, which make a window, and a sample behind them. -/
def denseRows : List (Checked (TelemetryEventV1 Int)) :=
  (List.range 145).map fun k => ⟨denseEvent k, denseEvent_valid k⟩

/-- A status that comes behind them. -/
def statusOf (session : UUID) (state : ReplayState) (sequence : Nat) : ReplayStatusV1 where
  messageId := 0
  replaySessionId := session
  sourceDatasetSha256 := 2
  contractSha256 := 3
  sourceTimestamp := denseStamp 144
  emittedAt := ⟨0⟩
  state
  lastSequence := some sequence
  errorCode := if state = .failed then some "SOURCE_ERROR" else none

theorem denseCompleted_valid : Valid (statusOf 1 .completed 145) := by decide

theorem otherCompleted_valid : Valid (statusOf 2 .completed 1) := by decide

theorem otherRunning_valid : Valid (statusOf 2 .running 1) := by decide

theorem otherFailed_valid : Valid (statusOf 3 .failed 1) := by decide

def firstEvent (session : UUID) : TelemetryEventV1 Int := { steadyEvent 1 epoch2020 with replaySessionId := session }

theorem completedFirst_valid : Valid (firstEvent 2) := by decide

theorem failedFirst_valid : Valid (firstEvent 3) := by decide

/-- Session 2 is completed and session 3 fails among the events of session 1; then comes a
record that does not decode. -/
def interleavedLog : WorkerLog Int where
  telemetry
    | 0 => (50, .ok ⟨firstEvent 2, completedFirst_valid⟩) :: (denseRows.take 1).map (fun row => (10, .ok row)) ++
        (51, .ok ⟨firstEvent 3, failedFirst_valid⟩) :: (denseRows.drop 1).map (fun row => (10, .ok row)) ++
        [(60, .error "Failed to decode TelemetryEventV1")]
    | _ => []
  statuses
    | 0 => [(20, .ok ⟨statusOf 2 .completed 1, otherCompleted_valid⟩),
        (21, .ok ⟨statusOf 2 .running 1, otherRunning_valid⟩),
        (22, .ok ⟨statusOf 3 .failed 1, otherFailed_valid⟩),
        (23, .ok ⟨statusOf 1 .completed 145, denseCompleted_valid⟩)]
    | _ => []

def interleavedSteps : List (WorkerStep Int) :=
  .restart :: (readNext ⟨.telemetry, 0⟩ 3 ++ readNext ⟨.replayStatus, 0⟩ 3 ++ readNext ⟨.telemetry, 0⟩ 145 ++
    readNext ⟨.replayStatus, 0⟩ 1)

theorem interleavedSteps_commitsSafe :
    letI := windowNames
    letI : Sha256Digest := ⟨fun _ => 0⟩
    ∃ r, Lib.Run (WorkerReader.step workerSettings interleavedLog) (EndsAlone workerSettings interleavedLog)
        .initial interleavedSteps r ∧
      (r.service.commits.length = 2 ∧ r.service.committed ⟨.telemetry, 0⟩ = 147 ∧
        (∃ proc ∈ r.service.process, ⟨.telemetry, 0⟩ ∈ proc.memory.blockedPartitions) ∧
        (r.service.done.flatMap (·.returnedFeatures)).length = 1) ∧
      r.service.CommitsSafe interleavedLog := by
  let := windowNames
  let : Sha256Digest := ⟨fun _ => 0⟩
  obtain ⟨r, run, ended⟩ := Lib.exists_run_of_exec (WorkerReader.step workerSettings interleavedLog)
    (EndsAlone workerSettings interleavedLog) .initial interleavedSteps
    (fun r => r.service.commits.length = 2 ∧ r.service.committed ⟨.telemetry, 0⟩ = 147 ∧
      (∃ proc ∈ r.service.process, ⟨.telemetry, 0⟩ ∈ proc.memory.blockedPartitions) ∧
      (r.service.done.flatMap (·.returnedFeatures)).length = 1) (by decide +kernel)
  exact ⟨r, run, ended, commitsSafe_of_run run⟩

/-! ### An undecodable status -/

/-- A status record that does not decode comes before the status. -/
def poisonedLog : WorkerLog Int where
  telemetry
    | 0 => [(50, .ok ⟨firstEvent 2, completedFirst_valid⟩)]
    | _ => []
  statuses
    | 0 => [(19, .error "Failed to decode ReplayStatusV1"),
        (20, .ok ⟨statusOf 2 .completed 1, otherCompleted_valid⟩)]
    | _ => []

def poisonedSteps : List (WorkerStep Int) :=
  .restart :: (readNext ⟨.replayStatus, 0⟩ 1 ++ readNext ⟨.telemetry, 0⟩ 1 ++ readNext ⟨.replayStatus, 0⟩ 1)

theorem undecodableStatus_committed :
    letI := knownUuid5 []
    letI : Sha256Digest := ⟨fun _ => 0⟩
    ∃ s, Lib.Reachable (WorkerService.step workerSettings poisonedLog) .initial s ∧
      (∃ proc ∈ s.process, ⟨.replayStatus, 0⟩ ∈ proc.memory.blockedPartitions) ∧
      s.committed ⟨.replayStatus, 0⟩ = 2 ∧ ¬ s.CommitsSafe poisonedLog := by
  let := knownUuid5 []
  let : Sha256Digest := ⟨fun _ => 0⟩
  obtain ⟨s, run, blocked, committed, passed⟩ := Lib.exists_run_of_exec
    (WorkerService.step workerSettings poisonedLog) Lib.Always .initial poisonedSteps
    (fun s => (∃ proc ∈ s.process, ⟨.replayStatus, 0⟩ ∈ proc.memory.blockedPartitions) ∧
      s.committed ⟨.replayStatus, 0⟩ = 2 ∧ s.Passed ⟨.replayStatus, 0⟩ 0) (by decide)
  refine ⟨s, ⟨_, run⟩, blocked, committed, fun safe => ?_⟩
  obtain ⟨commit, mem, entry, inside, same, below⟩ := passed
  obtain ⟨before, after, split⟩ := List.append_of_mem mem
  obtain ⟨earlier, -, settled⟩ := safe before commit after split entry inside 0 below
  rw [same] at settled
  obtain ⟨session, decoded, -⟩ := settled _ rfl
  cases decoded

end IndustrialReliability
