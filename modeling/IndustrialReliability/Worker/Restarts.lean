import IndustrialReliability.Worker.Handshake
import IndustrialReliability.Worker.OpenSessions

/-!
A session and the crashes of the worker.

The memory of the worker is lost with its process, and nothing is committed of a session
before it is completed. So a process that is restarted has all of the session before it,
and publishes the beginning of what a run without a crash publishes
(`BetweenRecords`), or it comes behind the completion of the session and publishes
nothing (`Late`). Whenever something is committed, one process has published everything
(`restarts_idempotent`). Without crashes the records of the two partitions may come in any
order (`handshake_ordered`).
-/

namespace IndustrialReliability

open OnlineFeatureBuilder

variable {F : Type} [PyFloat F] {settings : WorkerSettings}

/-! ### The log of a session -/

/-- A record that carries the event of a row. -/
def IsRecord (session : CompletedSession F settings) (k : Nat)
    (entry : Sha256 × Except String (Checked (TelemetryEventV1 F))) : Prop :=
  ∃ event, entry.2 = .ok event ∧ session.IsCopy k event.val

/-- The partitions of a session that is alone on them: its events in order, each perhaps
more than once, and its statuses, one of which completes it. -/
structure SessionLog (session : CompletedSession F settings) (log : WorkerLog F) (p q c : Nat) :
    Prop where
  telemetry : ∃ r, Lib.Resent (IsRecord session) (log.telemetry p).reverse session.rows.length r
  closes : ∃ digest, (log.statuses q)[c]? = some (digest, .ok session.status)
  announces : ∀ j, j ≠ c → ∀ entry ∈ (log.statuses q)[j]?, ∃ status, entry.2 = .ok status ∧
    Announces session status.val
  otherTelemetry : ∀ p', p' ≠ p → log.telemetry p' = []
  otherStatuses : ∀ q', q' ≠ q → log.statuses q' = []

/-- The first records of the partition carry the first `n` events. -/
def ReadTo (session : CompletedSession F settings) (log : WorkerLog F) (p i n : Nat) : Prop :=
  ∃ r, Lib.Resent (IsRecord session) ((log.telemetry p).take i).reverse n r

section Reading

variable {session : CompletedSession F settings} {log : WorkerLog F} {p q c i n k : Nat}

theorem IsRecord.unique {k' : Nat} {entry : Sha256 × Except String (Checked (TelemetryEventV1 F))}
    (record : IsRecord session k entry) (record' : IsRecord session k' entry) : k = k' := by
  obtain ⟨event, same, copy⟩ := record
  obtain ⟨event', same', copy'⟩ := record'
  cases same.symm.trans same'
  have sequence := copy.sequence.symm.trans copy'.sequence
  omega

theorem readTo_zero : ReadTo session log p 0 0 := ⟨0, .nil⟩

/-- The next record carries the next event, or the last one again. -/
theorem ReadTo.next (logged : SessionLog session log p q c) (read : ReadTo session log p i n)
    {entry : Sha256 × Except String (Checked (TelemetryEventV1 F))} (held : (log.telemetry p)[i]? = some entry) :
    IsRecord session n entry ∧ ReadTo session log p (i + 1) (n + 1) ∨
      ∃ k, n = k + 1 ∧ IsRecord session k entry ∧ ReadTo session log p (i + 1) n := by
  obtain ⟨r, read⟩ := read
  have taken : ((log.telemetry p).take (i + 1)).reverse = entry :: ((log.telemetry p).take i).reverse := by
    rw [List.take_add_one, held, List.reverse_append]
    rfl
  obtain ⟨_, all⟩ := logged.telemetry
  rw [← List.take_append_drop (i + 1) (log.telemetry p), List.reverse_append] at all
  obtain ⟨n', r', later⟩ := all.earlier
  rw [taken] at later
  cases later with
  | next before here =>
      obtain rfl := before.unique read fun _ _ _ => IsRecord.unique
      refine .inl ⟨here, r', ?_⟩
      rw [taken]
      exact .next before here
  | @again _ k r' _ before here =>
      obtain rfl := before.unique read fun _ _ _ => IsRecord.unique
      refine .inr ⟨k, rfl, here, r' + 1, ?_⟩
      rw [taken]
      exact .again before here

/-- At its end the partition has carried all events. -/
theorem ReadTo.all (logged : SessionLog session log p q c)
    (read : ReadTo session log p (log.telemetry p).length n) : n = session.rows.length := by
  obtain ⟨r, read⟩ := read
  obtain ⟨r', all⟩ := logged.telemetry
  rw [List.take_length] at read
  exact read.unique all fun _ _ _ => IsRecord.unique

theorem ReadTo.le_rows (read : ReadTo session log p i n) : n ≤ session.rows.length := by
  obtain ⟨r, read⟩ := read
  refine read.le fun k entry record => ?_
  obtain ⟨event, -, copy⟩ := record
  exact copy.lt

theorem ReadTo.le (read : ReadTo session log p i n) : n ≤ i := by
  obtain ⟨r, read⟩ := read
  have length := read.length_eq
  rw [List.length_reverse, List.length_take] at length
  omega

/-- The records of a session are those of its two partitions. -/
theorem SessionLog.recordAt_cases (logged : SessionLog session log p q c) {tp : TopicPartition}
    {record : WorkerRecord F} (held : log.recordAt tp i = some record) :
    tp = ⟨.telemetry, p⟩ ∧ (∃ digest value, (log.telemetry p)[i]? = some (digest, value) ∧
        record = ⟨⟨digest, .telemetry value⟩, p, i⟩) ∨
      tp = ⟨.replayStatus, q⟩ ∧ ∃ digest value, (log.statuses q)[i]? = some (digest, value) ∧
        record = ⟨⟨digest, .status value⟩, q, i⟩ := by
  obtain ⟨topic, partition⟩ := tp
  unfold WorkerLog.recordAt at held
  cases topic with
  | telemetry =>
      obtain ⟨⟨digest, value⟩, here, rfl⟩ := Option.map_eq_some_iff.mp held
      obtain rfl : partition = p := by
        by_contra other
        have here : (log.telemetry partition)[i]? = some (digest, value) := here
        rw [logged.otherTelemetry partition other] at here
        cases here
      exact .inl ⟨rfl, digest, value, here, rfl⟩
  | replayStatus =>
      obtain ⟨⟨digest, value⟩, here, rfl⟩ := Option.map_eq_some_iff.mp held
      obtain rfl : partition = q := by
        by_contra other
        have here : (log.statuses partition)[i]? = some (digest, value) := here
        rw [logged.otherStatuses partition other] at here
        cases here
      exact .inr ⟨rfl, digest, value, here, rfl⟩

/-- All records are of the session. -/
theorem SessionLog.owner (logged : SessionLog session log p q c) {tp : TopicPartition} {record : WorkerRecord F}
    (held : log.recordAt tp i = some record) : record.session = some session.id := by
  rcases logged.recordAt_cases held with ⟨rfl, digest, value, entry, rfl⟩ | ⟨rfl, digest, value, entry, rfl⟩
  · obtain ⟨r, all⟩ := logged.telemetry
    obtain ⟨k, event, same, copy⟩ := all.of_mem (List.mem_reverse.mpr (List.mem_of_getElem? entry))
    obtain rfl : value = .ok event := same
    exact congrArg some copy.ofSession
  · by_cases this : i = c
    · obtain ⟨digest', closes⟩ := logged.closes
      rw [this] at entry
      cases entry.symm.trans closes
      rfl
    · obtain ⟨status, same, announces⟩ := logged.announces i this _ entry
      obtain rfl : value = .ok status := same
      exact congrArg some announces.1

end Reading

/-! ### A process that has the session before it -/

section Fresh

variable [Uuid5] [Sha256Digest]

/-- How far a process is at its positions, when it has had the first `n` events. -/
def handshakeAt (count c n i j : Nat) : HandshakeState :=
  HandshakeState.settled count ⟨n, i, j, decide (c < j), false⟩

/-- The process began with the session. -/
def Fresh (session : CompletedSession F settings) (score : FeatureVectorV1 F → ScoreDecisionV1 F)
    (vectors : List (FeatureVectorV1 F)) (log : WorkerLog F) (p q c : Nat) (position : TopicPartition → Nat)
    (memory : WorkerMemory F) (actions : List (WorkerAction F)) : Prop :=
  ∃ n, ReadTo session log p (position ⟨.telemetry, p⟩) n ∧
    BetweenRecords session score vectors p q
      (handshakeAt session.rows.length c n (position ⟨.telemetry, p⟩) (position ⟨.replayStatus, q⟩)) memory actions

variable {session : CompletedSession F settings} {score : FeatureVectorV1 F → ScoreDecisionV1 F}
  {vectors : List (FeatureVectorV1 F)} {log : WorkerLog F} {p q c : Nat} {position : TopicPartition → Nat}
  {memory : WorkerMemory F} {actions : List (WorkerAction F)} {stamp : HandlerStamp F} {tp : TopicPartition}
  {record : WorkerRecord F}

/-- The next record of either partition. -/
theorem Fresh.next (crashFree : session.features = .ok vectors) (answers : Answers settings score stamp)
    (logged : SessionLog session log p q c) (fresh : Fresh session score vectors log p q c position memory actions)
    (held : log.recordAt tp (position tp) = some record) :
    (handleRecord settings stamp record memory).Reaches actions
      (Fresh session score vectors log p q c (Function.update position tp (position tp + 1))) := by
  obtain ⟨n, read, here⟩ := fresh
  rcases logged.recordAt_cases held with ⟨rfl, digest, value, entry, rfl⟩ | ⟨rfl, digest, value, entry, rfl⟩
  · rcases read.next logged entry with ⟨⟨event, same, copy⟩, further⟩ | ⟨k, rfl, ⟨event, same, copy⟩, further⟩
    · obtain rfl : value = .ok event := same
      refine (here.telemetry_next crashFree answers digest copy).imp fun memory actions there => ?_
      refine ⟨n + 1, ?_, ?_⟩
      · rwa [Function.update_self]
      · rw [Function.update_self, Function.update_of_ne (by simp)]
        exact there
    · obtain rfl : value = .ok event := same
      refine (here.telemetry_again crashFree answers digest rfl copy).imp fun memory actions there => ?_
      refine ⟨k + 1, ?_, ?_⟩
      · rwa [Function.update_self]
      · rw [Function.update_self, Function.update_of_ne (by simp)]
        exact there
  · by_cases this : position ⟨.replayStatus, q⟩ = c
    · obtain ⟨digest', closes⟩ := logged.closes
      rw [this] at entry
      cases entry.symm.trans closes
      refine (here.status_closes crashFree answers digest read.le_rows).imp fun memory actions there => ?_
      refine ⟨n, ?_, ?_⟩
      · rwa [Function.update_of_ne (by simp)]
      · rw [Function.update_self, Function.update_of_ne (by simp)]
        have closed : decide (c < position ⟨.replayStatus, q⟩ + 1) = true := decide_eq_true (by omega)
        unfold handshakeAt
        rw [closed]
        exact there
    · obtain ⟨status, same, announces⟩ := logged.announces _ this _ entry
      obtain rfl : value = .ok status := same
      refine (here.status_other digest announces).imp fun memory actions there => ?_
      refine ⟨n, ?_, ?_⟩
      · rwa [Function.update_of_ne (by simp)]
      · rw [Function.update_self, Function.update_of_ne (by simp)]
        have closed : decide (c < position ⟨.replayStatus, q⟩ + 1) = decide (c < position ⟨.replayStatus, q⟩) :=
          decide_eq_decide.mpr (by omega)
        unfold handshakeAt
        rw [closed]
        exact there

end Fresh

/-! ### A process that comes behind the session -/

section Late

variable [Uuid5] [Sha256Digest]

/-- The process has no status, and its builder knows nothing but the last event. -/
structure Late (session : CompletedSession F settings) (memory : WorkerMemory F)
    (actions : List (WorkerAction F)) : Prop where
  keyed : memory.Keyed
  failed : memory.failedSessions = []
  blocked : memory.blockedPartitions = []
  selfEmitted : memory.selfEmittedStatusIds = []
  terminal : memory.terminalStatus.get? session.id = none
  builder : ∀ entry ∈ memory.builders.get? session.id,
    AcceptedUpTo session.IsCopy session.rows.length entry.2
  quiet : ∀ action ∈ actions, ∃ event, action = .pushed event ⟨[], none⟩

variable {session : CompletedSession F settings} {memory : WorkerMemory F} {actions : List (WorkerAction F)}
  {stamp : HandlerStamp F} {k i : Nat}

/-- A new builder accepts any event, and emits nothing. -/
theorem new_push (config : BuilderConfig) (pushedAt : Instant) (event : TelemetryEventV1 F) :
    ∃ builder : OnlineFeatureBuilder F, OnlineFeatureBuilder.new.push config pushedAt event =
      .ok (builder, ⟨[], none⟩) := by
  unfold OnlineFeatureBuilder.push OnlineFeatureBuilder.checkSequenceAndOrdering
  simp [OnlineFeatureBuilder.new, OnlineFeatureBuilder.crossBinBoundary]

omit [Uuid5] in
theorem late_empty : Late session .empty [] :=
  ⟨nofun, rfl, rfl, rfl, rfl, nofun, nofun⟩

theorem Late.telemetry (late : Late session memory actions) (digest : Sha256)
    {event : Checked (TelemetryEventV1 F)} {partition : Nat} (last : session.rows.length = k + 1)
    (copy : session.IsCopy k event.val) :
    (handleRecord settings stamp ⟨⟨digest, .telemetry (.ok event)⟩, partition, i⟩ memory).Reaches actions
      (Late session) := by
  have repeatable : Repeatable session.IsCopy := CompletedSession.isCopy_repeatable
  -- Whether it is the first here or not, the event is accepted or ignored.
  have known : ∃ config builder next, builderOf settings event.val memory = (config, builder) ∧
      builder.push config stamp.pushedAt event.val = .ok (next, ⟨[], none⟩) ∧
      AcceptedUpTo session.IsCopy session.rows.length next := by
    unfold builderOf
    rw [copy.ofSession]
    cases held : memory.builders.get? session.id with
    | none =>
        obtain ⟨next, pushed⟩ := new_push (F := F) (.ofDefaults session.id event.val.machineId
          settings.sourceDatasetSha256 settings.contractSha256 settings.featureNames) stamp.pushedAt event.val
        obtain ⟨crossed, rfl⟩ := push_new (by simp [OnlineFeatureBuilder.new]) pushed
        refine ⟨_, _, _, rfl, pushed, ?_⟩
        rw [last]
        exact ⟨event.val, copy, rfl, rfl, rfl⟩
    | some entry =>
        obtain ⟨config, builder⟩ := entry
        have accepted := late.builder _ held
        refine ⟨config, builder, builder, rfl, ?_, accepted⟩
        rw [last] at accepted
        exact push_again repeatable stamp.pushedAt accepted copy
  obtain ⟨event, valid⟩ := event
  obtain ⟨dataset, contract⟩ := copy.identity
  obtain ⟨config, builder, next, found, pushed, accepted⟩ := known
  dsimp only at dataset contract found pushed
  unfold handleRecord handleTelemetryRecord
  dsimp only
  rw [if_neg (by simp [late.blocked]), if_neg (by simp [late.failed]), if_neg (by simp [dataset, contract])]
  have first : (Handled.acts (.pushed event ⟨[], none⟩)
      { trackOffset event.replaySessionId ⟨.telemetry, partition⟩ i memory with
      builders := memory.builders.set event.replaySessionId (config, next)
      lastSequence := memory.lastSequence.set event.replaySessionId event.sequence }).Reaches actions
      (Late session) := by
    refine ⟨rfl, late.keyed, late.failed, late.blocked, late.selfEmitted, late.terminal, ?_, ?_⟩
    · intro entry held
      have held : (memory.builders.set event.replaySessionId (config, next)).get? session.id = some entry := held
      rw [copy.ofSession, Lib.Table.get?_set_self] at held
      cases held
      exact accepted
    · intro action mem
      rcases List.mem_append.mp mem with earlier | here
      · exact late.quiet action earlier
      · exact ⟨event, List.mem_singleton.mp here⟩
  refine pushTelemetry_reaches found pushed (first.andThen fun memory actions there => done_reaches there) ?_
  intro memory actions there
  unfold checkBarrier
  rw [show event.replaySessionId = session.id from copy.ofSession, there.terminal]
  exact done_reaches there

theorem Late.status (late : Late session memory actions) (digest : Sha256) {status : Checked ReplayStatusV1}
    {partition : Nat} (announces : Announces session status.val) :
    (handleRecord settings stamp ⟨⟨digest, .status (.ok status)⟩, partition, i⟩ memory).Reaches actions
      (Late session) := by
  obtain ⟨status, valid⟩ := status
  obtain ⟨mine, other, stopped, failed⟩ := announces
  dsimp only at mine other stopped failed
  unfold handleRecord handleStatusRecord
  dsimp only
  rw [if_neg (by simp [late.selfEmitted])]
  split
  · rename_i state
    exact absurd state failed
  · rename_i state
    exact absurd state other
  · rename_i state
    exact absurd state stopped
  · exact done_reaches ⟨late.keyed, late.failed, late.blocked, late.selfEmitted, late.terminal, late.builder, late.quiet⟩

/-- Behind the session only its last event and other statuses are left. -/
theorem Late.next {log : WorkerLog F} {p q c : Nat} {position : TopicPartition → Nat} {tp : TopicPartition}
    {record : WorkerRecord F} (late : Late session memory actions) (logged : SessionLog session log p q c)
    (read : ReadTo session log p (position ⟨.telemetry, p⟩) session.rows.length)
    (closed : c < position ⟨.replayStatus, q⟩) (held : log.recordAt tp (position tp) = some record) :
    (handleRecord settings stamp record memory).Reaches actions (Late session) ∧
      ReadTo session log p (Function.update position tp (position tp + 1) ⟨.telemetry, p⟩) session.rows.length ∧
      c < Function.update position tp (position tp + 1) ⟨.replayStatus, q⟩ := by
  rcases logged.recordAt_cases held with ⟨rfl, digest, value, entry, rfl⟩ | ⟨rfl, digest, value, entry, rfl⟩
  · rw [Function.update_self, Function.update_of_ne (by simp)]
    rcases read.next logged entry with ⟨⟨event, same, copy⟩, further⟩ | ⟨k, last, ⟨event, same, copy⟩, further⟩
    · exact absurd copy.lt (lt_irrefl _)
    · obtain rfl : value = .ok event := same
      exact ⟨late.telemetry digest last copy, further, closed⟩
  · rw [Function.update_self, Function.update_of_ne (by simp)]
    obtain ⟨status, same, announces⟩ := logged.announces _ closed.ne' _ entry
    obtain rfl : value = .ok status := same
    exact ⟨late.status digest announces, read, by omega⟩

end Late

/-! ### All processes -/

section Restarts

variable [Uuid5] [Sha256Digest]

/-- The scoring API answers every process, and the same. -/
def AlwaysAnswers (settings : WorkerSettings) (score : FeatureVectorV1 F → ScoreDecisionV1 F)
    (_ : WorkerService F) : WorkerStep F → Prop
  | .deliver _ stamp _ => Answers settings score stamp
  | _ => True

/-- What a process does of a session, whatever it has before it and wherever it is lost. -/
structure Fits (session : CompletedSession F settings) (score : FeatureVectorV1 F → ScoreDecisionV1 F)
    (vectors : List (FeatureVectorV1 F)) (actions : List (WorkerAction F)) : Prop where
  beginning : published actions <+: scored score vectors
  due : Lib.Recorded (DueBefore session score vectors) actions
  once : actions.countP WorkerAction.isFinalisation ≤ 1

/-- What holds whatever has crashed. -/
structure SessionInvariant (session : CompletedSession F settings)
    (score : FeatureVectorV1 F → ScoreDecisionV1 F) (vectors : List (FeatureVectorV1 F)) (log : WorkerLog F)
    (p q c : Nat) (s : WorkerService F) : Prop where
  committed : s.committed ⟨.telemetry, p⟩ = 0 ∧ s.committed ⟨.replayStatus, q⟩ = 0 ∨
    s.commits ≠ [] ∧ ReadTo session log p (s.committed ⟨.telemetry, p⟩) session.rows.length ∧
      c < s.committed ⟨.replayStatus, q⟩
  process : ∀ proc ∈ s.process,
    Fresh session score vectors log p q c proc.position proc.memory proc.actions ∨
      s.commits ≠ [] ∧ Late session proc.memory proc.actions ∧
        ReadTo session log p (proc.position ⟨.telemetry, p⟩) session.rows.length ∧
        c < proc.position ⟨.replayStatus, q⟩
  past : ∃ incarnations : List (List (WorkerAction F)), s.past = incarnations.flatten ∧
    (∀ actions ∈ incarnations, Fits session score vectors actions) ∧
    (s.commits ≠ [] → ∃ actions ∈ incarnations ++ (s.process.map (·.actions)).toList,
      published actions = scored score vectors)

variable {session : CompletedSession F settings} {score : FeatureVectorV1 F → ScoreDecisionV1 F}
  {vectors : List (FeatureVectorV1 F)} {log : WorkerLog F} {p q c : Nat} {s s' : WorkerService F}
  {proc : WorkerProcess F} {actions more : List (WorkerAction F)} {position : TopicPartition → Nat}
  {memory : WorkerMemory F} {stamp : HandlerStamp F} {tp : TopicPartition} {lostAfter : Option Nat}

theorem InSession.fits {state : HandshakeState} (crashFree : session.features = .ok vectors)
    (inside : state.events ≤ session.rows.length)
    (here : InSession session score vectors p q state memory actions) : Fits session score vectors actions := by
  refine ⟨?_, here.did.due, ?_⟩
  · obtain ⟨-, -, entry⟩ := here
    generalize memory.builders.get? session.id = held at entry
    generalize published actions = out at entry ⊢
    cases entry with
    | unseen => exact List.nil_prefix
    | underway _ _ pushed =>
        obtain ⟨builder, emitted, pushed', beginning⟩ := CompletedSession.exists_stage crashFree state.events inside
        cases pushed.symm.trans pushed'
        exact scored_mono beginning
    | completed => exact List.prefix_refl _
  · rw [here.did.finalised]
    split <;> omega

omit [Uuid5] in
theorem Late.fits (late : Late session memory actions) : Fits session score vectors actions := by
  refine ⟨?_, fun before action after split => ?_, ?_⟩
  · have silent : published actions = [] := by
      refine List.filterMap_eq_nil_iff.mpr fun action mem => ?_
      obtain ⟨event, rfl⟩ := late.quiet action mem
      rfl
    rw [silent]
    exact List.nil_prefix
  · obtain ⟨event, rfl⟩ := late.quiet action (by simp [split])
    trivial
  · have none : actions.countP WorkerAction.isFinalisation = 0 := by
      refine List.countP_eq_zero.mpr fun action mem => ?_
      obtain ⟨event, rfl⟩ := late.quiet action mem
      exact Bool.false_ne_true
    omega

omit [Uuid5] in
theorem Late.noCommit (late : Late session memory actions) : commitsOf actions = [] := by
  refine List.filterMap_eq_nil_iff.mpr fun action mem => ?_
  obtain ⟨event, rfl⟩ := late.quiet action mem
  rfl

omit [Uuid5] [Sha256Digest] in
/-- A process that is lost on the way fits, too. -/
theorem Fits.of_append (fits : Fits session score vectors (actions ++ more)) :
    Fits session score vectors actions := by
  refine ⟨?_, fits.due.of_append, ?_⟩
  · exact (published_mono (List.prefix_append _ _)).trans fits.beginning
  · have once := fits.once
    rw [List.countP_append] at once
    omega

omit [Uuid5] [Sha256Digest] in
/-- A process that has published everything publishes no more. -/
theorem Fits.all (fits : Fits session score vectors (actions ++ more))
    (all : published actions = scored score vectors) : published (actions ++ more) = scored score vectors := by
  have beginning := fits.beginning
  rw [published_append, all] at beginning ⊢
  obtain ⟨rest, same⟩ := beginning
  have none : published more = [] := by
    have length := congrArg List.length same
    simp only [List.length_append] at length
    exact List.eq_nil_of_length_eq_zero (by omega)
  rw [none, List.append_nil]

theorem Fresh.fits (crashFree : session.features = .ok vectors)
    (fresh : Fresh session score vectors log p q c position memory actions) :
    Fits session score vectors actions := by
  obtain ⟨n, read, here⟩ := fresh
  exact here.toInSession.fits crashFree read.le_rows

theorem sessionInvariant_initial : SessionInvariant session score vectors log p q c .initial :=
  ⟨.inl ⟨rfl, rfl⟩, nofun, [], rfl, nofun, fun commits => absurd rfl commits⟩

/-- What a record of the session does to a process. -/
structure SessionAdvances (session : CompletedSession F settings)
    (score : FeatureVectorV1 F → ScoreDecisionV1 F) (vectors : List (FeatureVectorV1 F)) (log : WorkerLog F)
    (p q c : Nat) (s : WorkerService F) (proc : WorkerProcess F) (tp : TopicPartition) (handled : Handled F) :
    Prop where
  returned : handled.returned = .ok ()
  fits : Fits session score vectors (proc.actions ++ handled.actions)
  process : Fresh session score vectors log p q c (Function.update proc.position tp (proc.position tp + 1))
      handled.memory (proc.actions ++ handled.actions) ∨
    s.commits ≠ [] ∧ Late session handled.memory (proc.actions ++ handled.actions) ∧
      ReadTo session log p (Function.update proc.position tp (proc.position tp + 1) ⟨.telemetry, p⟩)
        session.rows.length ∧
      c < Function.update proc.position tp (proc.position tp + 1) ⟨.replayStatus, q⟩
  commits : commitsOf handled.actions = [] ∨ ∃ offsets, handled.Commits offsets ∧
    published (proc.actions ++ handled.actions) = scored score vectors ∧
    ∃ i ∈ offsets.lookup ⟨.telemetry, p⟩, ∃ j ∈ offsets.lookup ⟨.replayStatus, q⟩,
      ReadTo session log p i session.rows.length ∧ c < j

omit [PyFloat F] [Uuid5] [Sha256Digest] in
theorem lookup_rows {offsets : Lib.Table TopicPartition Nat} {session : UUID} {n : Nat}
    (held : memory.sessionOffsets.get? session = some offsets) (tracked : memory.tracked session tp = some n) :
    n ∈ offsets.rows.lookup tp := by
  unfold WorkerMemory.tracked at tracked
  rw [held] at tracked
  exact tracked

omit [PyFloat F] [Uuid5] [Sha256Digest] in
theorem trackedAfter_of_pos {n : Nat} (positive : 0 < n) : trackedAfter n = some n := by
  cases n with
  | zero => omega
  | succ n => rfl

theorem Fresh.advances {record : WorkerRecord F} (crashFree : session.features = .ok vectors)
    (answers : Answers settings score stamp) (logged : SessionLog session log p q c)
    (fresh : Fresh session score vectors log p q c proc.position proc.memory proc.actions)
    (held : log.recordAt tp (proc.position tp) = some record) :
    SessionAdvances session score vectors log p q c s proc tp (handleRecord settings stamp record proc.memory) := by
  obtain ⟨ok, there⟩ := fresh.next crashFree answers logged held
  obtain ⟨n, -, before⟩ := fresh
  have handles : Handles settings proc.memory record (handleRecord settings stamp record proc.memory) :=
    handleRecord_handles before.knows.keyed
  refine ⟨ok, there.fits crashFree, .inl there, handles.commits.imp id ?_⟩
  rintro ⟨owner, completes, offsets, tracks, commits, -⟩
  obtain ⟨decoded, -⟩ := completedBy_eq_some completes
  obtain ⟨n', read, after⟩ := there
  -- A commit is made of a completed session only.
  have complete : (handshakeAt session.rows.length c n'
      (Function.update proc.position tp (proc.position tp + 1) ⟨.telemetry, p⟩)
      (Function.update proc.position tp (proc.position tp + 1) ⟨.replayStatus, q⟩)).complete = true := by
    refine after.did.commits ?_
    obtain ⟨-, front, same, -⟩ := commits
    rw [same, commitsOf_append, commitsOf_append]
    exact List.append_ne_nil_of_right_ne_nil _ (List.append_ne_nil_of_right_ne_nil _ (List.cons_ne_nil _ _))
  obtain ⟨closed, all⟩ : c < Function.update proc.position tp (proc.position tp + 1) ⟨.replayStatus, q⟩ ∧
      n' = session.rows.length := by
    unfold handshakeAt HandshakeState.settled at complete
    simpa using complete
  subst all
  have positive := List.length_pos_iff.mpr session.nonempty
  have below := read.le
  cases decoded.symm.trans (logged.owner held)
  have first : (trackOffset session.id record.tp record.offset proc.memory).tracked session.id ⟨.telemetry, p⟩ =
        trackedAfter (Function.update proc.position tp (proc.position tp + 1) ⟨.telemetry, p⟩) ∧
      (trackOffset session.id record.tp record.offset proc.memory).tracked session.id ⟨.replayStatus, q⟩ =
        trackedAfter (Function.update proc.position tp (proc.position tp + 1) ⟨.replayStatus, q⟩) := by
    rcases logged.recordAt_cases held with ⟨rfl, digest, value, -, rfl⟩ | ⟨rfl, digest, value, -, rfl⟩
    · rw [Function.update_self, Function.update_of_ne (by simp)]
      exact ⟨before.knows.telemetryRead.telemetry, before.knows.telemetryRead.statuses⟩
    · rw [Function.update_self, Function.update_of_ne (by simp)]
      exact ⟨before.knows.statusesRead.telemetry, before.knows.statusesRead.statuses⟩
  refine ⟨offsets.rows, commits, after.all_published complete, _, lookup_rows tracks ?_, _, lookup_rows tracks ?_,
    read, closed⟩
  · rw [first.1, trackedAfter_of_pos (by omega)]
  · rw [first.2, trackedAfter_of_pos (by omega)]

theorem Late.advances {record : WorkerRecord F} (logged : SessionLog session log p q c)
    (committed : s.commits ≠ []) (late : Late session proc.memory proc.actions)
    (read : ReadTo session log p (proc.position ⟨.telemetry, p⟩) session.rows.length)
    (closed : c < proc.position ⟨.replayStatus, q⟩) (held : log.recordAt tp (proc.position tp) = some record) :
    SessionAdvances session score vectors log p q c s proc tp (handleRecord settings stamp record proc.memory) := by
  obtain ⟨⟨ok, there⟩, further, closed⟩ := late.next logged read closed held
  have quiet := there.noCommit
  rw [commitsOf_append] at quiet
  exact ⟨ok, there.fits, .inr ⟨committed, there, further, closed⟩, .inl (List.append_eq_nil_iff.mp quiet).2⟩

omit [PyFloat F] [Uuid5] [Sha256Digest] in
/-- A process lives on behind a handler that returned, or its actions are past. -/
theorem WorkerService.handle_cases {handled : Handled F} (s : WorkerService F) (proc : WorkerProcess F)
    (tp : TopicPartition) (lostAfter : Option Nat) (ok : handled.returned = .ok ()) :
    (s.handle proc tp handled lostAfter).past = s.past ∧ handled.upTo lostAfter = handled.actions ∧
        (s.handle proc tp handled lostAfter).process = some ⟨handled.memory,
          Function.update proc.position tp (proc.position tp + 1), proc.actions ++ handled.actions⟩ ∨
      (s.handle proc tp handled lostAfter).past = s.past ++ (proc.actions ++ handled.upTo lostAfter) ∧
        (s.handle proc tp handled lostAfter).process = none := by
  unfold WorkerService.handle
  rw [ok]
  cases lostAfter with
  | none => exact .inl ⟨rfl, rfl, rfl⟩
  | some count => exact .inr ⟨rfl, rfl⟩

omit [PyFloat F] [Uuid5] [Sha256Digest] in
theorem Handled.exists_rest (handled : Handled F) (lostAfter : Option Nat) :
    ∃ rest, handled.actions = handled.upTo lostAfter ++ rest := by
  cases lostAfter with
  | none => exact ⟨[], (List.append_nil _).symm⟩
  | some count => exact ⟨handled.actions.drop count, (List.take_append_drop _ _).symm⟩

/-- The past of the processes after a record. -/
theorem SessionInvariant.handled_past {handled : Handled F} (inv : SessionInvariant session score vectors log p q c s)
    (up : s.process = some proc) (advances : SessionAdvances session score vectors log p q c s proc tp handled)
    (all : (s.handle proc tp handled lostAfter).commits = s.commits ∨
      published (proc.actions ++ handled.upTo lostAfter) = scored score vectors) :
    ∃ incarnations : List (List (WorkerAction F)), (s.handle proc tp handled lostAfter).past = incarnations.flatten ∧
      (∀ actions ∈ incarnations, Fits session score vectors actions) ∧
      ((s.handle proc tp handled lostAfter).commits ≠ [] →
        ∃ actions ∈ incarnations ++ ((s.handle proc tp handled lostAfter).process.map (·.actions)).toList,
          published actions = scored score vectors) := by
  obtain ⟨incarnations, past, each, whole⟩ := inv.past
  obtain ⟨rest, split⟩ := handled.exists_rest lostAfter
  have fits : Fits session score vectors (proc.actions ++ handled.upTo lostAfter) := by
    have longer := advances.fits
    rw [split, ← List.append_assoc] at longer
    exact longer.of_append
  have everything : (s.handle proc tp handled lostAfter).commits ≠ [] →
      ∃ actions ∈ incarnations ++ [proc.actions ++ handled.upTo lostAfter],
        published actions = scored score vectors := by
    intro commits
    rcases all with same | all
    · rw [same] at commits
      obtain ⟨actions, mem, all⟩ := whole commits
      rw [up] at mem
      rcases List.mem_append.mp mem with earlier | here
      · exact ⟨actions, List.mem_append_left _ earlier, all⟩
      · obtain rfl := List.mem_singleton.mp here
        exact ⟨_, List.mem_append_right _ (List.mem_singleton_self _), fits.all all⟩
    · exact ⟨_, List.mem_append_right _ (List.mem_singleton_self _), all⟩
  rcases s.handle_cases proc tp lostAfter advances.returned with ⟨same, did, alive⟩ | ⟨same, lost⟩
  · refine ⟨incarnations, same.trans past, each, ?_⟩
    rw [alive]
    rw [did] at everything
    exact everything
  · refine ⟨incarnations ++ [proc.actions ++ handled.upTo lostAfter], ?_, ?_, ?_⟩
    · rw [same, past, List.flatten_append, List.flatten_singleton]
    · intro actions mem
      rcases List.mem_append.mp mem with earlier | here
      · exact each actions earlier
      · rw [List.mem_singleton.mp here]
        exact fits
    · rw [lost]
      simpa using everything

theorem SessionInvariant.handle {handled : Handled F} (inv : SessionInvariant session score vectors log p q c s)
    (up : s.process = some proc) (advances : SessionAdvances session score vectors log p q c s proc tp handled) :
    SessionInvariant session score vectors log p q c (s.handle proc tp handled lostAfter) := by
  have process : (s.commits ≠ [] → (s.handle proc tp handled lostAfter).commits ≠ []) →
      ∀ next ∈ (s.handle proc tp handled lostAfter).process,
        Fresh session score vectors log p q c next.position next.memory next.actions ∨
          (s.handle proc tp handled lostAfter).commits ≠ [] ∧ Late session next.memory next.actions ∧
            ReadTo session log p (next.position ⟨.telemetry, p⟩) session.rows.length ∧
            c < next.position ⟨.replayStatus, q⟩ := by
    intro still next alive
    obtain ⟨-, rfl⟩ := WorkerService.handle_process alive
    exact advances.process.imp id fun ⟨committed, late⟩ => ⟨still committed, late⟩
  have quiet : commitsOf (handled.upTo lostAfter) = [] →
      SessionInvariant session score vectors log p q c (s.handle proc tp handled lostAfter) := by
    intro none
    obtain ⟨commits, committed⟩ := s.handle_quiet proc tp none
    refine ⟨?_, process fun some => commits ▸ some, inv.handled_past up advances (.inl commits)⟩
    rw [commits, committed]
    exact inv.committed
  rcases advances.commits with none | ⟨offsets, commits, all, i, first, j, second, read, closed⟩
  · exact quiet (commitsOf_upTo_of_none none lostAfter)
  · rcases commits.upTo lostAfter with none | ⟨whole, one⟩
    · exact quiet none
    · obtain ⟨history, committed⟩ := s.handle_commits proc tp one
      have some : (s.handle proc tp handled lostAfter).commits ≠ [] := by
        rw [history]
        exact List.append_ne_nil_of_right_ne_nil _ (List.cons_ne_nil _ _)
      refine ⟨.inr ⟨some, ?_, ?_⟩, process fun _ => some, inv.handled_past up advances (.inr ?_)⟩
      · rw [committed, commitOffsets, Option.mem_def.mp first]
        exact read
      · rw [committed, commitOffsets, Option.mem_def.mp second]
        exact closed
      · rw [whole]
        exact all

theorem sessionInvariant_step {a : WorkerStep F} (crashFree : session.features = .ok vectors)
    (logged : SessionLog session log p q c) (inv : SessionInvariant session score vectors log p q c s)
    (answers : AlwaysAnswers settings score s a) (taken : s.step settings log a = some s') :
    SessionInvariant session score vectors log p q c s' := by
  cases a with
  | deliver tp stamp lostAfter =>
      simp only [WorkerService.step, WorkerService.deliver] at taken
      cases up : s.process with
      | none =>
          rw [up] at taken
          cases taken
      | some proc =>
          rw [up] at taken
          obtain ⟨record, held, rfl⟩ := Option.map_eq_some_iff.mp taken
          refine inv.handle up ?_
          rcases inv.process proc up with fresh | ⟨committed, late, read, closed⟩
          · exact fresh.advances crashFree answers logged held
          · exact late.advances logged committed read closed held
  | crash =>
      simp only [WorkerService.step, WorkerService.crash] at taken
      cases up : s.process with
      | none =>
          rw [up] at taken
          cases taken
      | some proc =>
          rw [up] at taken
          cases taken
          obtain ⟨incarnations, past, each, whole⟩ := inv.past
          refine ⟨inv.committed, fun next alive => (by cases alive), incarnations ++ [proc.actions], ?_, ?_, ?_⟩
          · rw [past, List.flatten_append, List.flatten_singleton]
          · intro actions mem
            rcases List.mem_append.mp mem with earlier | here
            · exact each actions earlier
            · rw [List.mem_singleton.mp here]
              rcases inv.process proc up with fresh | ⟨-, late, -⟩
              · exact fresh.fits crashFree
              · exact late.fits
          · rw [up] at whole
            simpa using whole
  | restart =>
      simp only [WorkerService.step, WorkerService.restart] at taken
      cases up : s.process with
      | some proc =>
          rw [up] at taken
          cases taken
      | none =>
          rw [up] at taken
          cases taken
          refine ⟨inv.committed, fun next alive => ?_, ?_⟩
          · obtain rfl := Option.some.inj alive
            rcases inv.committed with ⟨first, second⟩ | ⟨committed, read, closed⟩
            · left
              refine ⟨0, ?_, ?_⟩
              · dsimp only
                rw [first]
                exact readTo_zero
              · dsimp only
                rw [first, second]
                exact betweenRecords_empty
            · exact .inr ⟨committed, late_empty, read, closed⟩
          · obtain ⟨incarnations, past, each, whole⟩ := inv.past
            refine ⟨incarnations, past, each, fun commits => ?_⟩
            obtain ⟨actions, mem, all⟩ := whole commits
            rw [up] at mem
            exact ⟨actions, List.mem_append_left _ (by simpa using mem), all⟩

/-- The process has read everything. -/
def CaughtUp (log : WorkerLog F) (p q : Nat) (proc : WorkerProcess F) : Prop :=
  proc.position ⟨.telemetry, p⟩ = (log.telemetry p).length ∧
    proc.position ⟨.replayStatus, q⟩ = (log.statuses q).length

instance (log : WorkerLog F) (p q : Nat) (proc : WorkerProcess F) : Decidable (CaughtUp log p q proc) :=
  inferInstanceAs (Decidable (_ ∧ _))

/-- Nothing is lost. -/
def NothingLost (settings : WorkerSettings) (score : FeatureVectorV1 F → ScoreDecisionV1 F)
    (_ : WorkerService F) : WorkerStep F → Prop
  | .deliver _ stamp lostAfter => Answers settings score stamp ∧ lostAfter = none
  | .crash => False
  | .restart => True

theorem fresh_step {a : WorkerStep F} (crashFree : session.features = .ok vectors)
    (logged : SessionLog session log p q c)
    (fresh : ∃ proc ∈ s.process, Fresh session score vectors log p q c proc.position proc.memory proc.actions)
    (nothingLost : NothingLost settings score s a) (taken : s.step settings log a = some s') :
    ∃ proc ∈ s'.process, Fresh session score vectors log p q c proc.position proc.memory proc.actions := by
  obtain ⟨proc, up, fresh⟩ := fresh
  cases a with
  | deliver tp stamp lostAfter =>
      obtain ⟨answers, rfl⟩ := nothingLost
      simp only [WorkerService.step, WorkerService.deliver, Option.mem_def.mp up] at taken
      obtain ⟨record, held, rfl⟩ := Option.map_eq_some_iff.mp taken
      obtain ⟨ok, there⟩ := fresh.next crashFree answers logged held
      refine ⟨⟨(handleRecord settings stamp record proc.memory).memory, _, _⟩, ?_, there⟩
      unfold WorkerService.handle
      rw [ok]
      rfl
  | crash => cases nothingLost
  | restart =>
      simp only [WorkerService.step, WorkerService.restart, Option.mem_def.mp up] at taken
      cases taken

end Restarts

/-! ### A session with a window -/

/-- The next rows of a session, once each. -/
theorem resent_rows {settings : WorkerSettings} {session : CompletedSession F settings} {n r : Nat}
    {sent : List (Sha256 × Except String (Checked (TelemetryEventV1 F)))}
    (resent : Lib.Resent (IsRecord session) sent n r) (digest : Sha256) (m : Nat)
    (inside : n + m ≤ session.rows.length) :
    Lib.Resent (IsRecord session)
      ((((session.rows.drop n).take m).map fun row => (digest, .ok row)).reverse ++ sent) (n + m) r := by
  induction m with
  | zero => exact resent
  | succ m ih =>
      have held : (session.rows.drop n)[m]? = some session.rows[n + m] := by
        rw [List.getElem?_drop]
        exact List.getElem?_eq_getElem inside
      rw [List.take_add_one, held, List.map_append, List.reverse_append]
      refine .next (ih (Nat.le_of_succ_le inside)) ⟨_, rfl, session.rows[n + m], ?_, _, rfl⟩
      exact List.getElem?_eq_getElem inside

theorem denseRows_numbered : ∀ (k : Nat), ∀ row ∈ denseRows[k]?, row.val.sequence = ((k + 1 : Nat) : Int) := by
  intro k row held
  obtain ⟨less, rfl⟩ := List.getElem?_eq_some_iff.mp held
  simp only [denseRows, List.getElem_map, List.getElem_range]
  rfl

theorem denseRows_same (row : Checked (TelemetryEventV1 Int)) (mem : row ∈ denseRows) :
    row.val.replaySessionId = 1 ∧ row.val.sourceDatasetSha256 = 2 ∧ row.val.contractSha256 = 3 := by
  obtain ⟨k, -, rfl⟩ := List.mem_map.mp mem
  exact ⟨rfl, rfl, rfl⟩

def denseSession : CompletedSession Int workerSettings where
  rows := denseRows
  status := ⟨statusOf 1 .completed 145, denseCompleted_valid⟩
  nonempty := List.cons_ne_nil _ _
  numbered := denseRows_numbered
  session row mem := (denseRows_same row mem).1
  dataset row mem := (denseRows_same row mem).2.1
  contract row mem := (denseRows_same row mem).2.2
  completed := rfl
  last := rfl

/-- The session has one vector. -/
theorem denseSession_features :
    letI := windowNames
    letI : Sha256Digest := ⟨fun _ => 0⟩
    ∃ vectors, denseSession.features = .ok vectors ∧ vectors.length = 1 := by
  let := windowNames
  let : Sha256Digest := ⟨fun _ => 0⟩
  have one : (denseSession.features.toOption.any fun vectors => decide (vectors.length = 1)) = true := by
    decide +kernel
  cases made : denseSession.features with
  | error error =>
      rw [made] at one
      cases one
  | ok vectors =>
      rw [made] at one
      exact ⟨vectors, rfl, of_decide_eq_true one⟩

theorem answeringStamp_answers : Answers workerSettings quietDecision answeringStamp := by
  intro vector
  refine ⟨quietDecision vector, ?_, rfl⟩
  unfold scoringClientScore answeringStamp validatedDecision
  simp [bind, Except.bind, quietDecision, workerSettings]

theorem denseRunning_valid : Valid (statusOf 1 .running 0) := by decide

/-- The first event comes twice, and the session is announced before it is completed. -/
def denseLog : WorkerLog Int where
  telemetry
    | 0 => (10, .ok ⟨denseEvent 0, denseEvent_valid 0⟩) :: denseRows.map fun row => (11, .ok row)
    | _ => []
  statuses
    | 0 => [(20, .ok ⟨statusOf 1 .running 0, denseRunning_valid⟩),
        (21, .ok ⟨statusOf 1 .completed 145, denseCompleted_valid⟩)]
    | _ => []

theorem denseLog_statuses {j : Nat} (other : j ≠ 1) {entry : Sha256 × Except String (Checked ReplayStatusV1)}
    (held : entry ∈ (denseLog.statuses 0)[j]?) :
    ∃ status, entry.2 = .ok status ∧ Announces denseSession status.val := by
  match j with
  | 0 =>
      cases held
      exact ⟨_, rfl, rfl, by decide, by decide, by decide⟩
  | 1 => exact absurd rfl other
  | j + 2 => simp [denseLog] at held

theorem denseLog_sessionLog : SessionLog denseSession denseLog 0 0 1 := by
  have first : ∀ digest, IsRecord denseSession 0 (digest, .ok ⟨denseEvent 0, denseEvent_valid 0⟩) :=
    fun _ => ⟨_, rfl, _, rfl, ⟨0⟩, rfl⟩
  have rows := resent_rows (.again (.next .nil (first 10)) (first 11)) 11 144 (le_refl _)
  refine ⟨⟨1, ?_⟩, ⟨21, rfl⟩, fun j other entry held => denseLog_statuses other held, ?_, ?_⟩
  · have all : (denseLog.telemetry 0).reverse = (((denseSession.rows.drop 1).take 144).map fun row =>
        ((11 : Sha256), (.ok row : Except String _))).reverse ++
          [(11, .ok ⟨denseEvent 0, denseEvent_valid 0⟩), (10, .ok ⟨denseEvent 0, denseEvent_valid 0⟩)] := by
      have short : (denseSession.rows.drop 1).length ≤ 144 := by
        show (denseRows.drop 1).length ≤ 144
        simp [denseRows]
      rw [List.take_of_length_le short]
      show (_ :: _ :: List.map _ (denseRows.drop 1)).reverse = _
      rw [List.reverse_cons, List.reverse_cons, List.append_assoc]
      rfl
    rw [all]
    exact rows
  · intro p other
    cases p with
    | zero => exact absurd rfl other
    | succ p => rfl
  · intro q other
    cases q with
    | zero => exact absurd rfl other
    | succ q => rfl

/-- The statuses come first, and the last event completes the session. -/
def earlyStatusSteps : List (WorkerStep Int) :=
  .restart :: (readNext ⟨.replayStatus, 0⟩ 2 ++ readNext ⟨.telemetry, 0⟩ 146)

theorem readNext_meets {tp : TopicPartition} {count : Nat} {step : WorkerStep Int}
    (mem : step ∈ readNext tp count) : step = .deliver tp answeringStamp none :=
  List.eq_of_mem_replicate mem

/-- The worker crashes before the last events, begins again, and crashes behind the commit. -/
def crashingSteps : List (WorkerStep Int) :=
  .restart :: (readNext ⟨.telemetry, 0⟩ 100 ++ .crash :: .restart ::
    (readNext ⟨.replayStatus, 0⟩ 2 ++ readNext ⟨.telemetry, 0⟩ 146 ++ [.crash, .restart]))

theorem crashingSteps_answered : ∀ step ∈ crashingSteps, ∀ s, AlwaysAnswers workerSettings quietDecision s step := by
  intro step mem s
  simp only [crashingSteps, List.mem_cons, List.mem_append, List.not_mem_nil, or_false] at mem
  rcases mem with rfl | here | rfl | rfl | (here | here) | rfl | rfl
  case inr.inl | inr.inr.inr.inr.inl.inl | inr.inr.inr.inr.inl.inr =>
    rw [readNext_meets here]
    exact answeringStamp_answers
  all_goals trivial

/-- The worker commits once. -/
theorem exists_crashing :
    letI := windowNames
    letI : Sha256Digest := ⟨fun _ => 0⟩
    ∃ s, Lib.Run (WorkerService.step workerSettings denseLog) (AlwaysAnswers workerSettings quietDecision)
        .initial crashingSteps s ∧ s.commits.length = 1 := by
  let := windowNames
  let : Sha256Digest := ⟨fun _ => 0⟩
  obtain ⟨s, run, one⟩ := Lib.exists_run_of_exec (WorkerService.step workerSettings denseLog) Lib.Always
    .initial crashingSteps (fun s => s.commits.length = 1) (by decide +kernel)
  exact ⟨s, run.meeting crashingSteps_answered, one⟩

end IndustrialReliability
