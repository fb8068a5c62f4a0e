import IndustrialReliability.Lab.Served

/-!
The submissions of commands.

A submission is accepted by a commit that stores its command. It finds the control
revision that it expects and leaves the next one, so no other submission that expects
the same is accepted; a command that is stored stays.
-/

namespace IndustrialReliability

open LabStore Lib.Protocol

variable {R : Type} [LabNumber R] [Sha256Digest] {permits : LabPermits R} {baselines : List UUID}
  {actions : List (Lib.ClientAction (LabCall R))} {clients : LabClients R}
  {call : LabCall R} {tables tables' : LabTables R} {run : UUID} {request : CommandRequest R}

/-! ### Acceptance -/

def commandStored (run command : UUID) (tables : LabTables R) : Bool :=
  (tables.commands.get? (run, command)).isSome

/-- The commit accepts the submission. -/
structure Accepts (run : UUID) (request : CommandRequest R) (commit : LabCommit R) : Prop where
  request_eq : commit.request = .submitCommand run request
  stores : brings (commandStored run request.commandId) commit = true

/-- What accepting a submission does. -/
structure Acceptance (run : UUID) (request : CommandRequest R) (row : RunRow R)
    (tables tables' : LabTables R) : Prop where
  held : tables.runs.get? run = some row
  running : ¬ row.status.Terminal
  expects : request.expectedControlRevision = row.controlRevision
  command : tables'.commands.get? (run, request.commandId) =
    some (acceptedRow request (row.acceptedSequence + 1) (row.controlRevision + 1))
  counters : tables'.runs.get? run = some { row with
    controlRevision := row.controlRevision + 1
    acceptedSequence := row.acceptedSequence + 1 }

/-- A command is stored by its acceptance only. -/
theorem LabChange.accepted (change : LabChange call tables tables') {command : UUID}
    (absent : commandStored run command tables = false) (stored : commandStored run command tables' = true) :
    ∃ request row, call = .submitCommand run request ∧ request.commandId = command ∧
      Acceptance run request row tables tables' := by
  have same : tables'.commands = tables.commands → False := by
    intro same
    unfold commandStored at absent stored
    rw [same, absent] at stored
    cases stored
  cases change with
  | nothing | firstSave | nextSave | start | status => exact (same rfl).elim
  | checkpoint => exact (same (addMessages_other _ _).2.2.2.2).elim
  | @accept run' request tables row finite held running expects free =>
      obtain ⟨new, there⟩ := Option.isSome_iff_exists.mp stored
      rcases Lib.Table.get?_insertNew_eq_some there with before | ⟨here, rfl⟩
      · unfold commandStored at absent
        rw [before] at absent
        cases absent
      · cases here
        refine ⟨request, row, rfl, rfl, held, running, expects,
          Lib.Table.get?_insertNew_self_of_none free, ?_⟩
        show (tables.runs.modify run _).get? run = _
        rw [Lib.Table.get?_modify_self, held]
        rfl

/-- A submission that is not accepted changes nothing. -/
theorem LabChange.eq_of_not_stored (change : LabChange (.submitCommand run request) tables tables')
    (not : ¬ (commandStored run request.commandId tables = false ∧
      commandStored run request.commandId tables' = true)) : tables = tables' := by
  cases change with
  | nothing => rfl
  | accept _ _ _ _ free =>
      refine absurd ⟨?_, ?_⟩ not
      · unfold commandStored
        rw [free]
        rfl
      · exact Lib.Table.isSome_get?_insertNew_self _ _ _

section Histories

variable {history : List (LabCommit R)} {last : LabTables R}

/-- A commit that accepts a submission, in a history of the store. -/
theorem Accepts.acceptance (chained : (labProtocol permits).Chained (.empty baselines) history last)
    {commit : LabCommit R} (mem : commit ∈ history) (accepts : Accepts run request commit) :
    ∃ row, Acceptance run request row commit.before commit.after := by
  obtain ⟨-, change, -, -⟩ := chained.of_mem mem
  obtain ⟨absent, stored⟩ := brings_eq_true.mp accepts.stores
  obtain ⟨request', row, same, -, acceptance⟩ := change.accepted absent stored
  rw [accepts.request_eq] at same
  cases same
  exact ⟨row, acceptance⟩

omit [Sha256Digest] in
theorem commandStored_keeps {command : UUID} (keeps : LabKeeps tables tables')
    (stored : commandStored run command tables = true) : commandStored run command tables' = true := by
  obtain ⟨row, held⟩ := Option.isSome_iff_exists.mp stored
  exact Option.isSome_iff_exists.mpr ⟨row, keeps.commands _ _ held⟩

/-- A stored command has been accepted once, and is as it was accepted. -/
theorem exists_accepts (chained : (labProtocol permits).Chained (.empty baselines) history last)
    {command : UUID} {row : CommandRow R} (stored : last.commands.get? (run, command) = some row) :
    ∃ commit request, history.filter (brings (commandStored run command)) = [commit] ∧
      Accepts run request commit ∧ request.commandId = command ∧ row =
        acceptedRow request (request.expectedControlRevision + 1) (request.expectedControlRevision + 1) := by
  obtain ⟨commit, only⟩ := (chained.brought (commandStored run command) rfl
    commandStored_keeps).2 (Option.isSome_iff_exists.mpr ⟨row, stored⟩)
  have its : commit ∈ history.filter (brings (commandStored run command)) := by
    rw [only]
    exact List.mem_cons_self
  obtain ⟨mem, stores⟩ := List.mem_filter.mp its
  obtain ⟨inv, change, -, later⟩ := chained.of_mem mem
  obtain ⟨absent, there⟩ := brings_eq_true.mp stores
  obtain ⟨request, before, same, rfl, acceptance⟩ := change.accepted absent there
  refine ⟨commit, request, only, ⟨same, stores⟩, rfl, ?_⟩
  have kept := later.commands _ _ acceptance.command
  rw [Option.some.inj (stored.symm.trans kept), acceptance.expects,
    (inv.commands.counters run before acceptance.held).1]

/-- No two submissions to a run are accepted that expect the same control revision. -/
theorem accepts_pairwise (chained : (labProtocol permits).Chained (.empty baselines) history last) :
    history.Pairwise fun first second => ∀ run request request', Accepts run request first →
      Accepts run request' second → request.expectedControlRevision ≠ request'.expectedControlRevision := by
  refine chained.pairwise.imp_of_mem fun first second keeps run request request' one two same => ?_
  obtain ⟨row, accepted⟩ := one.acceptance chained first
  obtain ⟨row', accepted'⟩ := two.acceptance chained second
  obtain ⟨later, held, kept⟩ := keeps.runs _ _ accepted.counters
  cases held.symm.trans accepted'.held
  have above : row.controlRevision + 1 ≤ row'.controlRevision := kept.controlRevision
  have expects := accepted.expects
  have expects' := accepted'.expects
  omega

end Histories

/-- The commands of every run are accepted one after another: their sequence numbers
are those that its counters count, each control revision is expected by one of them at
most, none finds the run ended, and what is refused changes nothing. -/
theorem submissions_serialised (ran : LabRun baselines admits actions clients) :
    (∀ run row, clients.store.runs.get? run = some row → row.controlRevision = row.acceptedSequence ∧
      (commandsOf clients.store run).map (·.acceptedSequence) = List.range' 1 row.acceptedSequence) ∧
    (∀ run command row, clients.store.commands.get? (run, command) = some row → ∃ commit request,
      clients.history.filter (brings (commandStored run command)) = [commit] ∧
        Accepts run request commit ∧ request.commandId = command ∧ row = acceptedRow request
          (request.expectedControlRevision + 1) (request.expectedControlRevision + 1)) ∧
    (clients.history.Pairwise fun first second => ∀ run request request', Accepts run request first →
      Accepts run request' second → request.expectedControlRevision ≠ request'.expectedControlRevision) ∧
    (∀ commit ∈ clients.history, ∀ run request, Accepts run request commit →
      ∃ row, commit.before.runs.get? run = some row ∧ ¬ row.status.Terminal) ∧
    ∀ answer ∈ clients.answers, ∀ run request error, answer.request = .submitCommand run request →
      answer.result = .error error →
        ∀ commit ∈ Lib.commitsOf clients.history answer.client, commit.1 = commit.2 := by
  have sound := served ran
  refine ⟨fun run row held => sound.inv.commands.counters run row held,
    fun run command row stored => exists_accepts sound.chained stored, accepts_pairwise sound.chained,
    fun commit mem run request accepts => ?_, fun answer mem run request error asked failed => ?_⟩
  · obtain ⟨row, accepted⟩ := accepts.acceptance sound.chained mem
    exact ⟨row, accepted.held, accepted.running⟩
  · have post := sound.answered answer mem
    rw [asked, failed] at post
    exact post.unchanged trivial

/-- Whoever sends a command and whenever, the receipts for it are one: that of its only
acceptance, for the same payload. Only another payload is refused as a conflict of
identity. -/
theorem receipts_agree (ran : LabRun baselines admits actions clients) (run command : UUID) :
    (∀ answer ∈ clients.answers, ∀ request receipt, answer.request = .submitCommand run request →
      request.commandId = command → answer.result = .ok (.receipt receipt) →
        ∃ commit accepted, clients.history.filter (brings (commandStored run command)) = [commit] ∧
          Accepts run accepted commit ∧ request.payloadHash = accepted.payloadHash ∧
          ∃ row, clients.store.commands.get? (run, command) = some row ∧
            row.payloadHash = accepted.payloadHash ∧ receipt = receiptOf command row) ∧
    ∀ answer ∈ clients.answers, ∀ request id, answer.request = .submitCommand run request →
      request.commandId = command → answer.result = .error (.commandIdentityConflict id) →
        ∃ commit accepted, clients.history.filter (brings (commandStored run command)) = [commit] ∧
          Accepts run accepted commit ∧ request.payloadHash ≠ accepted.payloadHash := by
  have sound := served ran
  constructor
  · rintro answer mem request receipt asked rfl returned
    have post := sound.answered answer mem
    rw [asked, returned] at post
    obtain ⟨row, stored, payload, same⟩ := post
    obtain ⟨commit, accepted, only, accepts, id, rfl⟩ := exists_accepts sound.chained stored
    exact ⟨commit, accepted, only, accepts, payload.symm, _, stored, rfl, same⟩
  · rintro answer mem request id asked rfl failed
    have post := sound.answered answer mem
    rw [asked, failed] at post
    obtain ⟨row, stored, differ⟩ := post.submission run request rfl
    obtain ⟨commit, accepted, only, accepts, -, rfl⟩ := exists_accepts sound.chained stored
    exact ⟨commit, accepted, only, accepts, Ne.symm differ⟩

/-! ### Two clients -/

omit [Sha256Digest] in
theorem RunSpec.no_limit_pos : ∀ ticks ∈ (none : Option Nat), 0 < ticks := by
  simp

/-- A run of the first revision of the lab. -/
def contestedSpec : RunSpec where
  labId := 1
  labRevision := 1
  seed := 7
  speed := 1
  maxTicks := none
  baselineId := none
  lab_revision_pos := Nat.one_pos
  speed_allowed := RunSpec.real_time_allowed
  max_ticks_pos := RunSpec.no_limit_pos

/-- A command that expects no other before it. -/
def firstCommand (command : UUID) : CommandRequest ℚ where
  commandId := command
  expectedControlRevision := 0
  action := "PAUSE"
  targetId := none
  parameters := .empty

/-- Two commands are read before one of them is accepted; the accepted one is sent
again. -/
def submitting : List (Lib.ClientAction (LabCall ℚ)) :=
  .request (.saveLab loopLab 0) :: advances 0 4 ++
    .request (.startRun contestedSpec (some 9) 0) :: advances 1 4 ++
    [.request (.submitCommand 9 (firstCommand 21)), .request (.submitCommand 9 (firstCommand 22)),
      .advance 2, .advance 3] ++ advances 3 4 ++ advances 2 2 ++
    .request (.submitCommand 9 (firstCommand 22)) :: advances 4 2

/-- How a submission has ended: the sequence number, or the revision it conflicts with. -/
def submitOutcome (answer : Lib.Answer (LabCall R) (LabError R) (LabAnswer R)) : Option (Nat ⊕ Nat) :=
  match answer.result with
  | .ok (.receipt receipt) => some (.inl receipt.acceptedSequence)
  | .error (.commandRevisionConflict _ actual) => some (.inr actual)
  | _ => none

omit [Sha256Digest] in
theorem contested_serialised :
    letI := knownSha256 []
    ∃ clients : LabClients ℚ, LabRun [] admits submitting clients ∧
      clients.answers.map submitOutcome = [none, none, some (.inl 1), some (.inr 1), some (.inl 1)] ∧
      (commandsOf clients.store 9).map (·.acceptedSequence) = [1] := by
  let _ := knownSha256 []
  obtain ⟨clients, run, outcomes, counted⟩ := exists_labRun (R := ℚ) [] submitting
    (fun clients => clients.answers.map submitOutcome =
        [none, none, some (.inl 1), some (.inr 1), some (.inl 1)] ∧
      (clients.store.runs.get? 9).map (·.acceptedSequence) = some 1) (by decide +kernel)
  obtain ⟨row, held, one⟩ := Option.map_eq_some_iff.mp counted
  refine ⟨clients, run, outcomes, ?_⟩
  rw [((submissions_serialised run).1 9 row held).2, one]
  rfl

omit [Sha256Digest] in
/-- The command that was sent twice has one receipt. -/
theorem contested_receipts_agree :
    letI := knownSha256 []
    ∃ clients : LabClients ℚ, LabRun [] admits submitting clients ∧
      ∃ row, clients.store.commands.get? (9, 22) = some row ∧
        ∀ answer ∈ clients.answers, ∀ request receipt, answer.request = .submitCommand 9 request →
          request.commandId = 22 → answer.result = .ok (.receipt receipt) → receipt = receiptOf 22 row := by
  let _ := knownSha256 []
  obtain ⟨clients, run, stored⟩ := exists_labRun (R := ℚ) [] submitting
    (fun clients => (clients.store.commands.get? (9, 22)).isSome = true) (by decide +kernel)
  obtain ⟨row, held⟩ := Option.isSome_iff_exists.mp stored
  refine ⟨clients, run, row, held, fun answer mem request receipt asked own returned => ?_⟩
  obtain ⟨_, _, -, -, -, row', held', -, same⟩ :=
    (receipts_agree run 9 22).1 answer mem request receipt asked own returned
  cases held.symm.trans held'
  exact same

end IndustrialReliability
