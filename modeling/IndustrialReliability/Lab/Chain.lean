import IndustrialReliability.Lab.Submissions

/-!
The checkpoints of a run, over all engines that work on it.

A commit that moves a run on is one batch of an engine from the state it finds. The
ticks that the commits of a run add are each added once, so the run is where one engine
would have brought it without an interruption.
-/

namespace IndustrialReliability

open LabStore SimulationEngine

variable {R : Type} [LabNumber R] [Sha256Digest] {permits : LabPermits R} {baselines : List UUID}
  {actions : List (Lib.ClientAction (LabCall R))} {clients : LabClients R}
  {call : LabCall R} {tables tables' : LabTables R} {id : UUID}

/-- The tick of a run, zero before its start. -/
def runTick (tables : LabTables R) (id : UUID) : Nat := ((tables.runs.get? id).map (·.tick)).getD 0

/-- The ticks that a commit adds to a run. -/
def committedTicks (id : UUID) (commit : LabCommit R) : List Nat :=
  List.range' (runTick commit.before id + 1) (runTick commit.after id - runTick commit.before id)

omit [Sha256Digest] in
theorem runTick_of_get? {row : RunRow R} (held : tables.runs.get? id = some row) :
    runTick tables id = row.tick := by
  unfold runTick
  rw [held]
  rfl

omit [Sha256Digest] in
theorem runTick_mono (keeps : LabKeeps tables tables') : runTick tables id ≤ runTick tables' id := by
  cases held : tables.runs.get? id with
  | none =>
      unfold runTick
      rw [held]
      exact Nat.zero_le _
  | some row =>
      obtain ⟨row', held', kept⟩ := keeps.runs id row held
      rw [runTick_of_get? held, runTick_of_get? held']
      exact kept.tick

omit [Sha256Digest] in
/-- A change of the rows that leaves their ticks alone. -/
theorem runTick_modify {run : UUID} {f : RunRow R → RunRow R}
    (runs : tables'.runs = tables.runs.modify run f) (ticks : ∀ row, (f row).tick = row.tick) :
    runTick tables' id = runTick tables id := by
  unfold runTick
  rw [runs]
  by_cases here : id = run
  · subst here
    rw [Lib.Table.get?_modify_self]
    cases tables.runs.get? id with
    | none => rfl
    | some row => exact ticks row
  · rw [Lib.Table.get?_modify_ne here]

/-! ### One commit -/

/-- The commit is a batch of an engine from the state of the run. -/
structure AdvancesRun (id : UUID) (tables tables' : LabTables R) : Prop where
  later : runTick tables id < runTick tables' id
  simulated : ∃ row row' revision network, tables.runs.get? id = some row ∧
    tables'.runs.get? id = some row' ∧
    tables.revisions.get? (row.spec.labId, row.spec.labRevision) = some revision ∧
    compileLab revision.definition (num 0.05) = .ok network ∧
    steps network row.checkpoint.controls (num 0.05) (row'.tick - row.tick) row.checkpoint.physical =
      .ok row'.checkpoint.physical ∧
    row'.checkpoint.controls = row.checkpoint.controls ∧
    row'.tick ≤ row.spec.maxTicks.getD 1000

/-- A batch moves its run on. -/
theorem Batched.advances {run : SimulationRun R} {row : RunRow R} {ticks : Nat}
    {physical : PhysicalState R} {observed : List (Observation R)}
    (batched : Batched tables run row ticks physical observed) (inv : LabInv tables)
    (messages : List (UUID × LabOutboxRow R)) :
    AdvancesRun run.runId tables (addMessages messages
      (updateCheckpoint run.runId (newCheckpoint run row.checkpoint physical) 0 tables)) := by
  obtain ⟨revision, found, definition⟩ := batched.definition
  obtain ⟨network, ok, ran⟩ := batched.advanced
  have dt : run.dt = num 0.05 := by
    rw [batched.run_of]
    rfl
  have spec : run.spec = row.spec := by
    rw [batched.run_of]
    rfl
  obtain ⟨_, same, own⟩ := inv.runs.runs run.runId row batched.stored
  cases found.symm.trans same
  obtain ⟨pipes, valves, compiled⟩ := compileLab_eq_ok ok
  rw [definition] at own
  obtain ⟨stepped, tick, -⟩ := batch_eq_ok compiled (runEligible_of_validateLab own.eligible) ran
  rw [physicalAt_tick own.physical] at tick
  have later := (addMessages_other messages
    (updateCheckpoint run.runId (newCheckpoint run row.checkpoint physical) 0 tables)).2.2.2.1
  have stored : (updateCheckpoint run.runId (newCheckpoint run row.checkpoint physical) 0 tables).runs.get?
      run.runId = some { row with
        tick := physical.tick
        checkpoint := newCheckpoint run row.checkpoint physical
        eventSequence := row.eventSequence + 0 } := by
    show (tables.runs.modify run.runId _).get? run.runId = _
    rw [Lib.Table.get?_modify_self, batched.stored]
    rfl
  rw [← later] at stored
  have positive := batched.ticks_pos
  have bounded := batched.in_time
  refine ⟨?_, row, _, revision, network, batched.stored, stored, found, ?_, ?_, rfl, ?_⟩
  · rw [runTick_of_get? batched.stored, runTick_of_get? stored]
    show row.tick < physical.tick
    omega
  · rw [definition, ← dt]
    exact ok
  · show steps network _ _ (physical.tick - row.tick) _ = _
    rw [tick, Nat.add_sub_cancel_left, ← dt]
    exact stepped
  · show physical.tick ≤ _
    rw [tick, ← spec]
    exact bounded

/-- Only a batch of its engines moves a run on. -/
theorem LabChange.advances (change : LabChange call tables tables') (inv : LabInv tables)
    (moved : runTick tables' id ≠ runTick tables id) :
    (∃ run messageIds, call = .runOnce run messageIds ∧ run.runId = id) ∧
      AdvancesRun id tables tables' := by
  cases change with
  | nothing | firstSave | nextSave => exact (moved rfl).elim
  | @accept run request tables row =>
      let counted (before : RunRow R) : RunRow R := { before with
        controlRevision := row.controlRevision + 1
        acceptedSequence := row.acceptedSequence + 1 }
      exact (moved (runTick_modify (f := counted) rfl fun _ => rfl)).elim
  | status run status =>
      let changed (before : RunRow R) : RunRow R := { before with status }
      exact (moved (runTick_modify (f := changed) rfl fun _ => rfl)).elim
  | @start spec runId fresh tables revision found eligible free =>
      refine (moved ?_).elim
      unfold runTick
      by_cases here : id = runId.getD fresh
      · subst here
        have stored : (addRun (runId.getD fresh) (newRunRow spec revision.definition) tables).runs.get?
            (runId.getD fresh) = some (newRunRow spec revision.definition) :=
          Lib.Table.get?_insertNew_self_of_none free
        rw [stored, free]
        rfl
      · exact congrArg (fun row => (Option.map RunRow.tick row).getD 0)
          (Lib.Table.get?_insertNew_ne here)
  | @checkpoint run messageIds tables row ticks physical observed messages batched =>
      by_cases here : id = run.runId
      · subst here
        exact ⟨⟨run, messageIds, rfl, rfl⟩, batched.advances inv messages⟩
      · refine (moved ?_).elim
        unfold runTick
        rw [(addMessages_other messages _).2.2.2.1]
        exact congrArg (fun row => (Option.map RunRow.tick row).getD 0) (Lib.Table.get?_modify_ne here)

/-! ### All commits -/

/-- No run is past its last tick. -/
def InTime (tables : LabTables R) : Prop :=
  ∀ id row, tables.runs.get? id = some row → row.tick ≤ row.spec.maxTicks.getD 1000

theorem LabChange.inTime (change : LabChange call tables tables') (inv : LabInv tables)
    (before : InTime tables) : InTime tables' := by
  intro id row' held
  have keeps := change.keeps inv
  by_cases moved : runTick tables' id = runTick tables id
  · cases old : tables.runs.get? id with
    | some row =>
        obtain ⟨row'', held', kept⟩ := keeps.runs id row old
        cases held.symm.trans held'
        rw [runTick_of_get? held, runTick_of_get? old] at moved
        rw [moved, kept.spec]
        exact before id row old
    | none =>
        have zero : runTick tables id = 0 := by
          unfold runTick
          rw [old]
          rfl
        rw [runTick_of_get? held, zero] at moved
        rw [moved]
        exact Nat.zero_le _
  · obtain ⟨-, -, row, row'', revision, network, old, held', -, -, -, -, bounded⟩ :=
      change.advances inv moved
    cases held.symm.trans held'
    obtain ⟨_, again, kept⟩ := keeps.runs id row old
    cases held.symm.trans again
    rw [kept.spec]
    exact bounded

omit [Sha256Digest] in
theorem inTime_empty : InTime (.empty baselines : LabTables R) := by
  intro id row held
  cases held

/-- An engine that has answered was given a run of the store. -/
theorem spec_of_answer (ran : LabRun baselines admits actions clients) {run : SimulationRun R}
    {messageIds : Nat → UUID} {answer : Lib.Answer (LabCall R) (LabError R) (LabAnswer R)}
    (mem : answer ∈ clients.answers) (asked : answer.request = .runOnce run messageIds)
    {row : RunRow R} (held : clients.store.runs.get? run.runId = some row) : row.spec = run.spec := by
  have made := (Lib.requested_of_run ran (fun _ its => its) (Lib.requested_start _ _)).answers answer mem
  rw [asked] at made
  obtain ⟨then', _, _, _, before, admissible, -, after⟩ := ran.of_mem made
  obtain ⟨now, found, own⟩ := admissible
  obtain ⟨row', held', rest⟩ := Option.bind_eq_some_iff.mp found
  obtain ⟨revision, -, same⟩ := Option.bind_eq_some_iff.mp rest
  cases same
  obtain ⟨_, again, kept⟩ := (keeps_of_run before after).runs _ row' held'
  cases held.symm.trans again
  rw [kept.spec, own]
  rfl

/-- Whatever the engines do and wherever they are lost, the commits of a run add each of
its ticks once and in order, each by a batch that simulates from the state before it. So
the run is where a simulation without interruption is at its tick, at most at the last
one, its part of the outbox has each of its sensors once for every sampled tick, and an
engine that returns success leaves it at the last tick. -/
theorem checkpoints_chain (ran : LabRun baselines admits actions clients) (id : UUID) :
    clients.history.flatMap (committedTicks id) = List.range' 1 (runTick clients.store id) ∧
    (∀ commit ∈ clients.history, committedTicks id commit ≠ [] →
      (∃ run messageIds, commit.request = .runOnce run messageIds ∧ run.runId = id) ∧
        AdvancesRun id commit.before commit.after) ∧
    (∀ row, clients.store.runs.get? id = some row → ∃ revision,
      clients.store.revisions.get? (row.spec.labId, row.spec.labRevision) = some revision ∧
      physicalAt revision.definition row.tick = some row.checkpoint.physical ∧
      row.tick ≤ row.spec.maxTicks.getD 1000 ∧
      (outboxOf clients.store id).map messageKey = sampledIn revision.definition 0 row.tick ∧
      ((outboxOf clients.store id).map messageKey).Nodup) ∧
    ∀ answer ∈ clients.answers, ∀ run messageIds, answer.request = .runOnce run messageIds →
      answer.result = .ok (.ran true) →
        runTick clients.store run.runId = run.spec.maxTicks.getD 1000 := by
  have sound := served ran
  have inTime : InTime clients.store := by
    refine sound.chained.invariant inTime_empty ?_
    intro call tables tables' inv change before
    exact LabChange.inTime change inv before
  refine ⟨sound.chained.covered (runTick · id) rfl runTick_mono, fun commit mem added => ?_,
    fun row held => ?_, fun answer mem run messageIds asked returned => ?_⟩
  · obtain ⟨inv, change, -, -⟩ := sound.chained.of_mem mem
    refine change.advances inv fun same => added ?_
    unfold committedTicks
    rw [same, Nat.sub_self]
    rfl
  · obtain ⟨revision, found, own⟩ := sound.inv.runs.runs id row held
    refine ⟨revision, found, own.physical, inTime id row held, own.outbox, ?_⟩
    rw [own.outbox]
    have ids := (runEligible_of_validateLab own.eligible).sensorIds
    refine (sampledIn_ascending ids 0 row.tick).imp fun {a b} ascending same => ?_
    have less := ascending (congrArg Prod.fst same)
    rw [same] at less
    exact lt_irrefl _ less
  · have post := sound.answered answer mem
    rw [asked, returned] at post
    obtain ⟨row, held, reached⟩ := post rfl
    have bounded := inTime _ row held
    rw [spec_of_answer ran mem asked held] at bounded
    rw [runTick_of_get? held]
    exact le_antisymm bounded reached

/-! ### Two engines -/

omit [Sha256Digest] in
theorem RunSpec.sampling_ticks_pos : ∀ ticks ∈ some 22, 0 < ticks := by
  simp

def shortSpec : RunSpec := { contestedSpec with
  maxTicks := some 22
  max_ticks_pos := RunSpec.sampling_ticks_pos }

def startingShort : List (Lib.ClientAction (LabCall ℚ)) :=
  .request (.saveLab loopLab 0) :: advances 0 4 ++
    .request (.startRun shortSpec (some 9) 0) :: advances 1 4

/-- The second engine reads the run before the first has committed a batch, and gives up. The
first passes the tick at which the sensors are sampled. -/
def racing : List (Lib.ClientAction (LabCall ℚ)) :=
  advances 2 3 ++ advances 3 2 ++ advances 2 1 ++ advances 3 2 ++ advances 2 23

def takingPlain (clients : LabClients ℚ) (actions : List (Lib.ClientAction (LabCall ℚ))) :
    Option (LabClients ℚ) :=
  Lib.exec (Lib.Clients.step labProgram) (fun _ action => isPlain action = true) clients actions

/-- The clients after the two engines. -/
def racedEngines : Option (LabClients ℚ) :=
  (takingPlain (.start (.empty [])) startingShort).bind fun started =>
    (started.store.getRun 9).bind fun run =>
      (started.step labProgram (.request (.runOnce run fun index => 100 + index))).bind fun one =>
        (one.step labProgram (.request (.runOnce run fun index => 200 + index))).bind fun two =>
          takingPlain two racing

theorem run_of_takingPlain {clients clients' : LabClients ℚ}
    {actions : List (Lib.ClientAction (LabCall ℚ))} (taken : takingPlain clients actions = some clients') :
    Lib.Run (Lib.Clients.step labProgram) admits clients actions clients' :=
  (Lib.Run.of_exec taken).mono fun _ _ => admits_of_isPlain

def ranOutcome (answer : Lib.Answer (LabCall R) (LabError R) (LabAnswer R)) : Option Bool :=
  match answer.result with
  | .ok (.ran success) => some success
  | _ => none

theorem run_of_racedEngines {clients : LabClients ℚ} (raced : racedEngines = some clients) :
    ∃ actions, LabRun [] admits actions clients := by
  obtain ⟨started, first, rest⟩ := Option.bind_eq_some_iff.mp raced
  obtain ⟨run, stored, rest⟩ := Option.bind_eq_some_iff.mp rest
  obtain ⟨one, second, rest⟩ := Option.bind_eq_some_iff.mp rest
  obtain ⟨two, third, last⟩ := Option.bind_eq_some_iff.mp rest
  have own : run.runId = 9 := by
    obtain ⟨row, -, rest⟩ := Option.bind_eq_some_iff.mp stored
    obtain ⟨revision, -, made⟩ := Option.bind_eq_some_iff.mp rest
    cases made
    rfl
  have admissible : ∀ (now : LabClients ℚ) (ids : Nat → UUID), now.store = started.store →
      admits now (.request (.runOnce run ids)) := by
    intro now ids same
    refine ⟨run, ?_, rfl⟩
    rw [same, own]
    exact stored
  have kept : one.store = started.store := by
    rw [← Option.some.inj second]
    rfl
  exact ⟨_, (run_of_takingPlain first).append (.cons (admissible started _ rfl) second
    (.cons (admissible one _ kept) third (run_of_takingPlain last)))⟩

omit [Sha256Digest] in
theorem raced_engines_chain :
    letI := knownSha256 []
    ∃ clients : LabClients ℚ, (∃ actions, LabRun [] admits actions clients) ∧
      clients.answers.map ranOutcome = [none, none, some false, some true] ∧
      clients.history.flatMap (committedTicks 9) = List.range' 1 22 ∧
      (outboxOf clients.store 9).map messageKey = [(31, 20), (32, 20)] := by
  let _ := knownSha256 []
  have computed : racedEngines.any (fun clients => decide (clients.answers.map ranOutcome =
      [none, none, some false, some true] ∧ runTick clients.store 9 = 22 ∧
      (outboxOf clients.store 9).map messageKey = [(31, 20), (32, 20)])) = true := by decide +kernel
  obtain ⟨clients, raced, holds⟩ := (Option.any_eq_true _ _).mp computed
  obtain ⟨outcomes, tick, sent⟩ := of_decide_eq_true holds
  obtain ⟨actions, run⟩ := run_of_racedEngines raced
  refine ⟨clients, ⟨actions, run⟩, outcomes, ?_, sent⟩
  rw [(checkpoints_chain run 9).1, tick]

end IndustrialReliability
