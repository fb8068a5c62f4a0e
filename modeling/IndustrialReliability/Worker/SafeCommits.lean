import IndustrialReliability.Lib.Logs
import IndustrialReliability.Worker.Handles

/-!
Commit safety of the streaming worker.

A session that completes commits the offsets of its last records, and so everything
below them on their partitions. `SafeCommit` says that every record there belongs to a
session that is failed, or complete with all its vectors published and scored, then or
at an earlier commit. That is so as long as no session is open with a record there
(`NoOpenSession`): the bookkeeping is by session and does not look.
-/

namespace IndustrialReliability

variable {F : Type}

/-! ### Safe commits -/

section Safety

variable [PyFloat F]

/-- The session of the record at an offset has failed, or completed with all its vectors
published and scored. -/
def SettledBy (log : WorkerLog F) (commit : CommitRecord F) (tp : TopicPartition)
    (offset : Nat) : Prop :=
  ∀ record ∈ log.recordAt tp offset, ∃ session ∈ record.session,
    session ∈ commit.memory.failedSessions ∨
      commit.memory.Complete session ∧ AllScored commit.actions

/-- Every record below a committed offset is settled, by this commit or an earlier one. -/
def SafeCommit (log : WorkerLog F) (before : List (CommitRecord F)) (commit : CommitRecord F) :
    Prop :=
  ∀ entry ∈ commit.offsets, ∀ offset < entry.2,
    ∃ earlier ∈ before ++ [commit], SettledBy log earlier entry.1 offset

/-- Every commit was safe when it was made. -/
def WorkerService.CommitsSafe (log : WorkerLog F) (s : WorkerService F) : Prop :=
  Lib.Recorded (SafeCommit log) s.commits

/-- Below an offset that has been committed. -/
def WorkerService.Passed (s : WorkerService F) (tp : TopicPartition) (offset : Nat) : Prop :=
  ∃ commit ∈ s.commits, ∃ entry ∈ commit.offsets, entry.1 = tp ∧ offset < entry.2

instance (s : WorkerService F) (tp : TopicPartition) (offset : Nat) : Decidable (s.Passed tp offset) :=
  inferInstanceAs (Decidable (∃ commit ∈ s.commits, ∃ entry ∈ commit.offsets, _ ∧ _))

/-- A record below the offsets of a session decodes, if it is a status, and belongs to no
other session that is open. -/
def NotOpen (memory : WorkerMemory F) (session : UUID) (tp : TopicPartition)
    (below : WorkerRecord F) : Prop :=
  (tp.topic = .replayStatus → below.session ≠ none) ∧
    ∀ other ∈ below.session, other ≠ session → memory.Closed other

/-- When a record completes a session, no status record below its offsets is one that did
not decode, no other session with a record there is open, and its builder has taken
nothing since it was completed, if it was. -/
def NoOpenSession (settings : WorkerSettings) (log : WorkerLog F) (s : WorkerService F) :
    WorkerStep F → Prop
  | .deliver tp _ _ => ∀ proc ∈ s.process, ∀ record ∈ log.recordAt tp (proc.position tp),
      ∀ session ∈ completedBy settings proc.memory record,
        NothingSince proc.memory record session ∧
        ∀ offsets ∈ (trackOffset session record.tp record.offset
          proc.memory).sessionOffsets.get? session,
          ∀ entry ∈ offsets.rows, ∀ offset < entry.2, ¬ s.Passed entry.1 offset →
            ∀ below ∈ log.recordAt entry.1 offset, NotOpen proc.memory session entry.1 below
  | _ => True

/-- What holds while a process runs. -/
structure ProcessInvariant (log : WorkerLog F) (s : WorkerService F) (proc : WorkerProcess F) :
    Prop where
  keyed : proc.memory.Keyed
  scored : AllScored proc.actions
  tracked : ∀ session tp n, proc.memory.tracked session tp = some n → n ≤ proc.position tp
  poison : ∀ tp, tp.topic = .telemetry → ∀ offset < proc.position tp, ¬ s.Passed tp offset →
    ∀ record ∈ log.recordAt tp offset, record.session = none →
      tp ∈ proc.memory.blockedPartitions ∧
        ∀ session n, proc.memory.tracked session tp = some n → n ≤ offset

structure WorkerInvariant (log : WorkerLog F) (s : WorkerService F) : Prop where
  safe : s.CommitsSafe log
  passed : ∀ tp offset, offset < s.committed tp → s.Passed tp offset
  process : ∀ proc ∈ s.process, ProcessInvariant log s proc

theorem workerInvariant_initial (log : WorkerLog F) : WorkerInvariant log .initial :=
  ⟨Lib.recorded_nil, fun _ _ less => absurd less (Nat.not_lt_zero _), nofun⟩

section Steps

variable {settings : WorkerSettings} {log : WorkerLog F} {s s' : WorkerService F}
  {memory : WorkerMemory F} {record : WorkerRecord F} {tp : TopicPartition} {offset : Nat}

theorem WorkerLog.recordAt_tp (held : log.recordAt tp offset = some record) :
    record.tp = tp ∧ record.offset = offset := by
  obtain ⟨topic, partition⟩ := tp
  unfold WorkerLog.recordAt at held
  cases topic with
  | telemetry =>
      obtain ⟨_, -, rfl⟩ := Option.map_eq_some_iff.mp held
      exact ⟨rfl, rfl⟩
  | replayStatus =>
      obtain ⟨_, -, rfl⟩ := Option.map_eq_some_iff.mp held
      exact ⟨rfl, rfl⟩

theorem completedBy_eq_some {session : UUID}
    (completes : completedBy settings memory record = some session) :
    record.session = some session ∧
      (record.topic = .telemetry → record.tp ∉ memory.blockedPartitions) := by
  unfold completedBy at completes
  unfold WorkerRecord.session WorkerRecord.topic
  split at completes
  · rename_i event carries
    dsimp only at completes
    split at completes
    · rename_i conditions
      rw [carries]
      exact ⟨completes, fun _ => conditions.1⟩
    · cases completes
  · rename_i status carries
    dsimp only at completes
    split at completes
    · rw [carries]
      exact ⟨completes, fun other => by cases other⟩
    · cases completes
  · cases completes

omit [PyFloat F] in
/-- A handler that commits, cut anywhere, has committed at its end or not at all. -/
theorem Handled.Commits.upTo {handled : Handled F} {offsets : List (TopicPartition × Nat)}
    (commits : handled.Commits offsets) (lostAfter : Option Nat) :
    commitsOf (handled.upTo lostAfter) = [] ∨
      handled.upTo lostAfter = handled.actions ∧ commitsOf (handled.upTo lostAfter) = [offsets] := by
  obtain ⟨-, front, same, none⟩ := commits
  have whole : commitsOf handled.actions = [offsets] := by
    rw [same, commitsOf_append, none]
    rfl
  cases lostAfter with
  | none => exact .inr ⟨rfl, whole⟩
  | some count =>
      by_cases inside : count ≤ front.length
      · left
        unfold Handled.upTo
        dsimp only
        rw [same, List.take_append_of_le_length inside]
        exact List.filterMap_eq_nil_iff.mpr fun action mem =>
          List.filterMap_eq_nil_iff.mp none action (List.mem_of_mem_take mem)
      · have all : handled.upTo (some count) = handled.actions := by
          refine List.take_of_length_le ?_
          rw [same, List.length_append, List.length_singleton]
          omega
        exact .inr ⟨all, by rw [all, whole]⟩

omit [PyFloat F] in
theorem commitsOf_upTo_of_none {handled : Handled F} (none : commitsOf handled.actions = [])
    (lostAfter : Option Nat) : commitsOf (handled.upTo lostAfter) = [] := by
  cases lostAfter with
  | none => exact none
  | some count =>
      exact List.filterMap_eq_nil_iff.mpr fun action mem =>
        List.filterMap_eq_nil_iff.mp none action (List.mem_of_mem_take mem)

omit [PyFloat F] in
/-- The rows of a session are what is tracked for it. -/
theorem tracked_of_mem_rows {session : UUID} {offsets : Lib.Table TopicPartition Nat}
    (held : memory.sessionOffsets.get? session = some offsets)
    {entry : TopicPartition × Nat} (mem : entry ∈ offsets.rows) :
    memory.tracked session entry.1 = some entry.2 := by
  unfold WorkerMemory.tracked
  rw [held]
  exact Lib.Table.get?_eq_some_iff.mpr mem

/-- What a handler does to the tracked offsets. -/
theorem Handles.tracked {handled : Handled F} (handles : Handles settings memory record handled)
    {session : UUID} {n : Nat} (held : handled.memory.tracked session tp = some n) :
    memory.tracked session tp = some n ∨ tp = record.tp ∧ n = record.offset + 1 ∧
      record.session ≠ none ∧
      (record.topic = .telemetry → record.tp ∉ memory.blockedPartitions) := by
  rcases handles.offsets with same | ⟨owner, decoded, same, unblocked⟩
  · rw [WorkerMemory.tracked_congr same] at held
    exact .inl held
  · rw [WorkerMemory.tracked_congr same] at held
    rcases WorkerMemory.tracked_trackOffset held with ⟨here, now⟩ | before
    · refine .inr ⟨here, now, fun none => ?_, unblocked⟩
      cases (Option.mem_def.mp decoded).symm.trans none
    · exact .inl before

/-- The invariant of the process after a record. -/
theorem ProcessInvariant.handled {proc : WorkerProcess F} {handled : Handled F}
    (inv : ProcessInvariant log s proc) (held : log.recordAt tp (proc.position tp) = some record)
    (handles : Handles settings proc.memory record handled) (ok : handled.returned = .ok ())
    (passed : ∀ tp offset, s.Passed tp offset → s'.Passed tp offset) :
    ProcessInvariant log s' ⟨handled.memory,
      Function.update proc.position tp (proc.position tp + 1),
      proc.actions ++ handled.actions⟩ := by
  obtain ⟨here, at'⟩ := WorkerLog.recordAt_tp held
  have grows : ∀ tp', proc.position tp' ≤
      Function.update proc.position tp (proc.position tp + 1) tp' := by
    intro tp'
    by_cases same : tp' = tp
    · rw [same, Function.update_self]
      exact Nat.le_succ _
    · rw [Function.update_of_ne same]
  refine ⟨handles.keyed, inv.scored.append (handles.scored ok), ?_, ?_⟩
  · intro session tp' n tracks
    rcases handles.tracked tracks with before | ⟨rfl, now, -, -⟩
    · exact (inv.tracked session tp' n before).trans (grows tp')
    · dsimp only
      rw [now, here, Function.update_self, at']
  · intro tp' telemetry offset below fresh bad found undecoded
    dsimp only at below
    have fresh : ¬ s.Passed tp' offset := fun old => fresh (passed tp' offset old)
    by_cases earlier : offset < proc.position tp'
    · obtain ⟨blocked, behind⟩ := inv.poison tp' telemetry offset earlier fresh bad found undecoded
      refine ⟨handles.blocked tp' blocked, fun session n tracks => ?_⟩
      rcases handles.tracked tracks with before | ⟨rfl, -, -, unblocked⟩
      · exact behind session n before
      · exact absurd blocked (unblocked telemetry)
    · obtain rfl : tp' = tp := by
        by_contra other
        rw [Function.update_of_ne other] at below
        exact earlier below
      rw [Function.update_self] at below
      obtain rfl : offset = proc.position tp' := by omega
      cases held.symm.trans found
      refine ⟨here ▸ handles.poison undecoded, fun session n tracks => ?_⟩
      rcases handles.tracked tracks with before | ⟨-, -, decoded, -⟩
      · exact inv.tracked session tp' n before
      · exact absurd undecoded decoded

/-- The commit of a completed session is safe. -/
theorem WorkerInvariant.safeCommit {proc : WorkerProcess F} {handled : Handled F}
    {lostAfter : Option Nat} {stamp : HandlerStamp F} (inv : WorkerInvariant log s)
    (up : s.process = some proc)
    (held : log.recordAt tp (proc.position tp) = some record)
    (guarded : NoOpenSession settings log s (.deliver tp stamp lostAfter))
    (handles : Handles settings proc.memory record handled) {session : UUID}
    (completes : session ∈ completedBy settings proc.memory record)
    {offsets : Lib.Table TopicPartition Nat}
    (tracks : (trackOffset session record.tp record.offset
      proc.memory).sessionOffsets.get? session = some offsets)
    (commits : handled.Commits offsets.rows)
    (complete : NothingSince proc.memory record session → handled.memory.Complete session) :
    SafeCommit log s.commits ⟨offsets.rows, handled.memory, proc.actions ++ handled.actions⟩ := by
  obtain ⟨decoded, unblocked⟩ := completedBy_eq_some completes
  obtain ⟨nothing, others⟩ := guarded proc up record held session completes
  obtain ⟨here, at'⟩ := WorkerLog.recordAt_tp held
  have invariant := inv.process proc up
  have scored := invariant.scored.append (handles.scored commits.returned)
  intro entry mem offset below
  by_cases passed : s.Passed entry.1 offset
  · obtain ⟨commit, old, entry', mem', same, below'⟩ := passed
    obtain ⟨before, after, split⟩ := List.append_of_mem old
    obtain ⟨earlier, inside, settled⟩ :=
      inv.safe before commit after split entry' mem' offset below'
    rw [same] at settled
    refine ⟨earlier, List.mem_append_left _ ?_, settled⟩
    rw [split]
    rcases List.mem_append.mp inside with first | last
    · exact List.mem_append_left _ first
    · rw [List.mem_singleton.mp last]
      exact List.mem_append_right _ List.mem_cons_self
  · refine ⟨_, List.mem_append_right _ List.mem_cons_self, fun found recorded => ?_⟩
    obtain ⟨decodes, closed⟩ := others offsets tracks entry mem offset below passed found recorded
    -- The record decodes: one that does not has blocked its partition before.
    have poisonless : found.session ≠ none := by
      cases topic : entry.1.topic with
      | replayStatus => exact decodes topic
      | telemetry =>
          intro undecoded
          rcases WorkerMemory.tracked_trackOffset (tracked_of_mem_rows tracks mem) with
            ⟨sameTp, now⟩ | before
          · have earlier : offset < proc.position entry.1 ∨ offset = proc.position entry.1 := by
              rw [sameTp, here]
              omega
            rcases earlier with earlier | rfl
            · have blocked := (invariant.poison entry.1 topic offset earlier passed found recorded
                undecoded).1
              rw [sameTp] at blocked topic
              exact absurd blocked (unblocked topic)
            · rw [sameTp, here] at recorded
              cases held.symm.trans recorded
              cases decoded.symm.trans undecoded
          · have position := invariant.tracked session entry.1 entry.2 before
            have behind := (invariant.poison entry.1 topic offset (by omega) passed found recorded
              undecoded).2 session entry.2 before
            omega
    obtain ⟨owner, mine⟩ := Option.ne_none_iff_exists'.mp poisonless
    refine ⟨owner, mine, ?_⟩
    by_cases same : owner = session
    · subst same
      exact .inr ⟨complete nothing, scored⟩
    · have shut := handles.closed owner (fun other => ?_) (closed owner mine same)
      · exact shut.imp id fun complete => ⟨complete, scored⟩
      · exact same (Option.some.inj (decoded.symm.trans other)).symm

omit [PyFloat F] in
/-- A handler that does not commit leaves the offsets of the group alone. -/
theorem WorkerService.handle_quiet (s : WorkerService F) (proc : WorkerProcess F)
    (tp : TopicPartition) {handled : Handled F} {lostAfter : Option Nat}
    (none : commitsOf (handled.upTo lostAfter) = []) :
    (s.handle proc tp handled lostAfter).commits = s.commits ∧
      (s.handle proc tp handled lostAfter).committed = s.committed := by
  unfold WorkerService.handle
  dsimp only
  rw [none]
  split <;> exact ⟨List.append_nil _, rfl⟩

omit [PyFloat F] in
theorem WorkerService.handle_commits (s : WorkerService F) (proc : WorkerProcess F)
    (tp : TopicPartition) {handled : Handled F} {lostAfter : Option Nat} {offsets : List (TopicPartition × Nat)}
    (one : commitsOf (handled.upTo lostAfter) = [offsets]) :
    (s.handle proc tp handled lostAfter).commits =
        s.commits ++ [⟨offsets, handled.memory, proc.actions ++ handled.upTo lostAfter⟩] ∧
      (s.handle proc tp handled lostAfter).committed = commitOffsets s.committed offsets := by
  unfold WorkerService.handle
  dsimp only
  rw [one]
  split <;> exact ⟨rfl, rfl⟩

omit [PyFloat F] in
/-- The process lives on only behind a handler that returned. -/
theorem WorkerService.handle_process {proc next : WorkerProcess F} {handled : Handled F}
    {lostAfter : Option Nat} (up : (s.handle proc tp handled lostAfter).process = some next) :
    handled.returned = .ok () ∧ next = ⟨handled.memory,
      Function.update proc.position tp (proc.position tp + 1),
      proc.actions ++ handled.actions⟩ := by
  unfold WorkerService.handle at up
  dsimp only at up
  split at up
  · rename_i ok
    exact ⟨ok, (Option.some.inj up).symm⟩
  · cases up

theorem WorkerInvariant.deliver [Uuid5] [Sha256Digest] {stamp : HandlerStamp F}
    {lostAfter : Option Nat} (inv : WorkerInvariant log s)
    (guarded : NoOpenSession settings log s (.deliver tp stamp lostAfter))
    (taken : s.deliver settings log tp stamp lostAfter = some s') : WorkerInvariant log s' := by
  unfold WorkerService.deliver at taken
  cases up : s.process with
  | none =>
      rw [up] at taken
      cases taken
  | some proc =>
      rw [up] at taken
      obtain ⟨record, held, rfl⟩ := Option.map_eq_some_iff.mp taken
      have invariant := inv.process proc up
      have handles : Handles settings proc.memory record
          (handleRecord settings stamp record proc.memory) := handleRecord_handles invariant.keyed
      revert handles
      generalize handleRecord settings stamp record proc.memory = handled
      intro handles
      -- Without a commit only the process changes.
      have quiet : commitsOf (handled.upTo lostAfter) = [] →
          WorkerInvariant log (s.handle proc tp handled lostAfter) := by
        intro none
        obtain ⟨commits, committed⟩ := s.handle_quiet proc tp none
        have passed : ∀ tp' offset, s.Passed tp' offset →
            (s.handle proc tp handled lostAfter).Passed tp' offset := by
          intro tp' offset old
          unfold WorkerService.Passed
          rw [commits]
          exact old
        refine ⟨?_, fun tp' offset below => passed tp' offset (inv.passed tp' offset ?_), ?_⟩
        · unfold WorkerService.CommitsSafe
          rw [commits]
          exact inv.safe
        · rwa [committed] at below
        · intro next alive
          obtain ⟨ok, rfl⟩ := WorkerService.handle_process alive
          exact invariant.handled held handles ok passed
      rcases handles.commits with none | ⟨session, completes, offsets, tracks, commits, complete⟩
      · exact quiet (commitsOf_upTo_of_none none lostAfter)
      · rcases commits.upTo lostAfter with none | ⟨all, one⟩
        · exact quiet none
        · obtain ⟨history, committed⟩ := s.handle_commits proc tp one
          rw [all] at history
          have passed : ∀ tp' offset, s.Passed tp' offset →
              (s.handle proc tp handled lostAfter).Passed tp' offset := by
            rintro tp' offset ⟨commit, old, entry, mem, same, below⟩
            refine ⟨commit, ?_, entry, mem, same, below⟩
            rw [history]
            exact List.mem_append_left _ old
          have safe := inv.safeCommit up held guarded handles completes tracks commits complete
          refine ⟨?_, fun tp' offset below => ?_, fun next alive => ?_⟩
          · unfold WorkerService.CommitsSafe
            rw [history]
            exact Lib.recorded_concat_iff.mpr ⟨inv.safe, safe⟩
          · rw [committed] at below
            unfold commitOffsets at below
            cases named : offsets.rows.lookup tp' with
            | none =>
                rw [named] at below
                exact passed tp' offset (inv.passed tp' offset below)
            | some last =>
                rw [named] at below
                have mem : (tp', last) ∈ offsets.rows := Lib.Table.get?_eq_some_iff.mp named
                refine ⟨⟨offsets.rows, handled.memory, proc.actions ++ handled.actions⟩, ?_,
                  (tp', last), mem, rfl, below⟩
                rw [history]
                exact List.mem_append_right _ List.mem_cons_self
          · obtain ⟨ok, rfl⟩ := WorkerService.handle_process alive
            exact invariant.handled held handles ok passed

/-- Every step that meets the condition keeps the invariant. -/
theorem workerInvariant_step [Uuid5] [Sha256Digest] {a : WorkerStep F}
    (inv : WorkerInvariant log s) (guarded : NoOpenSession settings log s a)
    (taken : s.step settings log a = some s') : WorkerInvariant log s' := by
  cases a with
  | deliver tp stamp lostAfter => exact inv.deliver guarded taken
  | crash =>
      simp only [WorkerService.step, WorkerService.crash] at taken
      split at taken
      · cases taken
      · cases taken
        exact ⟨inv.safe, inv.passed, nofun⟩
  | restart =>
      simp only [WorkerService.step, WorkerService.restart] at taken
      split at taken
      · cases taken
        refine ⟨inv.safe, inv.passed, fun proc up => ?_⟩
        obtain rfl := Option.some.inj up
        refine ⟨nofun, allScored_nil, nofun, ?_⟩
        intro tp _ offset below fresh
        exact absurd (inv.passed tp offset below) fresh
      · cases taken

end Steps

end Safety

end IndustrialReliability
