import IndustrialReliability.Lab.CanonicalTexts
import IndustrialReliability.Lab.Submissions
import IndustrialReliability.Lab.Revisions

/-!
What the virtual lab recognises by a digest.

A command that is sent again is compared by its payload hash, and a run names what it
executes by the digest of its definition. Both compare contents, in every run of the
clients.
-/

namespace IndustrialReliability

open Lib.JsonText (Value Number)
open LabStore Lib.Protocol

section Runs

variable {R : Type} [LabNumber R] [ReprText R] [Sha256Digest] {baselines : List UUID}
  {actions : List (Lib.ClientAction (LabCall R))} {clients : LabClients R} {permits : LabPermits R}
    {run : UUID}

omit [ReprText R] in
/-- What is accepted has a text. -/
theorem Accepts.finite {history : List (LabCommit R)} {last : LabTables R}
    (chained : (labProtocol permits).Chained (.empty baselines) history last)
    {request : CommandRequest R}
    {commit : LabCommit R} (mem : commit ∈ history) (accepts : Accepts run request commit) :
    (JsonValue.object request.parameters.rows).isFinite = true := by
  obtain ⟨-, change, -, -⟩ := chained.of_mem mem
  obtain ⟨absent, stored⟩ := brings_eq_true.mp accepts.stores
  rw [accepts.request_eq] at change
  generalize commit.before = tables, commit.after = tables' at *
  cases change with
  | nothing => cases absent.symm.trans stored
  | accept finite => exact finite

/-- A command that is sent again is known by its contents: a receipt is returned to the
command that was accepted only, and a conflict of identity to another one only. -/
theorem retries_recognised (injective : Function.Injective (sha256 : String → Sha256))
    (ran : LabRun baselines admits actions clients)
    (formed : ∀ request, .request (.submitCommand run request) ∈ actions →
      (JsonValue.object request.parameters.rows).isFinite = true → request.WellFormed) :
    ∀ answer ∈ clients.answers, ∀ request, answer.request = .submitCommand run request →
      (∀ receipt, answer.result = .ok (.receipt receipt) → ∃ commit accepted,
        clients.history.filter (brings (commandStored run request.commandId)) = [commit] ∧
          Accepts run accepted commit ∧ request.Same accepted) ∧
      ∀ id, answer.result = .error (.commandIdentityConflict id) → ∃ commit accepted,
        clients.history.filter (brings (commandStored run request.commandId)) = [commit] ∧
          Accepts run accepted commit ∧ accepted.commandId = request.commandId ∧
            ¬ request.Same accepted := by
  have sound := served ran
  have made := Lib.requested_of_run ran (fun _ its => its) (Lib.requested_start _ _)
  intro answer mem request asked
  have finite (answered : answer.result ≠ .error .notJson) :
      (JsonValue.object request.parameters.rows).isFinite = true := by
    by_contra infinite
    have raises : labProgram (.submitCommand run request) = .raise (LabError.notJson (R := R)) := by
      show submitCommand run request = _
      unfold LabStore.submitCommand
      rw [if_pos (Bool.eq_false_iff.mpr infinite)]
    exact answered ((Lib.raised_of_run raises ran).answers answer mem asked)
  have own (answered : answer.result ≠ .error .notJson) : request.WellFormed :=
    formed request (by rw [← asked]; exact made.answers answer mem) (finite answered)
  have alike {commit accepted}
    (only : clients.history.filter (brings (commandStored run request.commandId)) = [commit])
      (accepts : Accepts run accepted commit) (answered : answer.result ≠ .error .notJson) :
      request.payloadHash = accepted.payloadHash ↔ request.Same accepted := by
    have its : commit ∈ clients.history.filter (brings (commandStored run request.commandId)) := by
      rw [only]
      exact List.mem_cons_self
    have inside := (List.mem_filter.mp its).1
    refine CommandRequest.payloadHash_eq_iff injective (own answered)
      (formed accepted ?_ (accepts.finite sound.chained inside))
    rw [← accepts.request_eq]
    exact made.history commit inside
  have post := sound.answered answer mem
  constructor
  · intro receipt returned
    rw [asked, returned] at post
    obtain ⟨row, stored, payload, -⟩ := post
    obtain ⟨commit, accepted, only, accepts, -, rfl⟩ := exists_accepts sound.chained stored
    exact ⟨commit, accepted, only, accepts,
      (alike only accepts (by rw [returned]; exact nofun)).mp payload.symm⟩
  · intro id failed
    rw [asked, failed] at post
    obtain ⟨row, stored, differ⟩ := post.submission run request rfl
    obtain ⟨commit, accepted, only, accepts, its, rfl⟩ := exists_accepts sound.chained stored
    exact ⟨commit, accepted, only, accepts, its, fun same =>
      differ ((alike only accepts (by rw [failed]; exact nofun)).mpr same).symm⟩

omit [Sha256Digest] [ReprText R] in
theorem LabDefinition.WellFormed.renumbered {definition : LabDefinition R}
    (formed : definition.WellFormed) {n : Nat} (pos : 1 ≤ n) :
    ({ definition with revision := n, revision_pos := pos } : LabDefinition R).WellFormed :=
  ⟨formed.lab_id, formed.assets, formed.pipes, formed.sensors⟩

omit [ReprText R] in
/-- What a run executes is a definition that a client has saved. -/
theorem run_wellFormed (ran : LabRun baselines admits actions clients)
    (formed : ∀ definition expected, .request (.saveLab definition expected) ∈ actions →
      definition.WellFormed)
    {id : UUID} {run : SimulationRun R} (found : clients.store.getRun id = some run) :
    run.definition.WellFormed ∧ run.definitionDigest = computeDefinitionDigest run.definition := by
  have sound := served ran
  have made := Lib.requested_of_run ran (fun _ its => its) (Lib.requested_start _ _)
  obtain ⟨row, held, rest⟩ := Option.bind_eq_some_iff.mp found
  obtain ⟨revision, there, same⟩ := Option.bind_eq_some_iff.mp rest
  cases same
  obtain ⟨revision', there', own⟩ := sound.inv.runs.runs id row held
  cases there.symm.trans there'
  refine ⟨?_, own.digest⟩
  obtain ⟨commit, definition, before, only, saves, -, -, rfl⟩ := exists_saves sound.chained there
  have its : commit ∈ clients.history.filter
      (brings (revisionStored row.spec.labId row.spec.labRevision)) := by
    rw [only]
    exact List.mem_cons_self
  obtain ⟨expected, asked, -⟩ := saves.request
  refine (formed definition expected ?_).renumbered _
  rw [← asked]
  exact made.history commit (List.mem_filter.mp its).1

/-- Two runs have one digest where they execute one definition. -/
theorem runs_digest_iff (injective : Function.Injective (sha256 : String → Sha256))
    (ran : LabRun baselines admits actions clients)
    (formed : ∀ definition expected, .request (.saveLab definition expected) ∈ actions →
      definition.WellFormed)
    {id id' : UUID} {run run' : SimulationRun R} (found : clients.store.getRun id = some run)
    (found' : clients.store.getRun id' = some run') :
    run.definitionDigest = run'.definitionDigest ↔ run.definition.Same run'.definition := by
  obtain ⟨here, digest⟩ := run_wellFormed ran formed found
  obtain ⟨here', digest'⟩ := run_wellFormed ran formed found'
  rw [digest, digest']
  exact digest_eq_iff injective here here'

end Runs

/-! ### Concrete runs -/

theorem tank_parameters_valid :
    validateParameters .tank (.empty : Parameters Int) = .ok () := by decide +kernel

def tankLab : LabDefinition Int where
  schemaVersion := "lab-definition-v1"
  labId := 1
  revision := 1
  name := "tank"
  assets := [⟨12, .tank, (1, 0, 0), 0, .empty, tank_parameters_valid⟩]
  pipes := []
  sensors := []
  sceneRevision := "scene"
  revision_pos := Nat.one_pos

theorem limits_keys_nodup {first second : String × JsonValue Int} (differ : first.1 ≠ second.1) :
    ([first, second].map Prod.fst).Nodup := by simpa using differ

/-- A command with two parameters in this order. -/
def limitsCommand (first second : String × JsonValue Int) (differ : first.1 ≠ second.1) :
    CommandRequest Int where
  commandId := 21
  expectedControlRevision := 0
  action := "SET_LIMITS"
  targetId := some 12
  parameters := ⟨[first, second], limits_keys_nodup differ⟩

def limits : CommandRequest Int := limitsCommand ("low", .number 1) ("high", .integer 2) (by decide)

/-- The command is sent again with its parameters in another order, and then with an
integer for the float. -/
def resendingLimits : List (Lib.ClientAction (LabCall Int)) :=
  .request (.saveLab tankLab 0) :: advances 0 4 ++
    .request (.startRun contestedSpec (some 9) 0) :: advances 1 4 ++
    .request (.submitCommand 9 limits) :: advances 2 5 ++
    .request (.submitCommand 9
      (limitsCommand ("high", .integer 2) ("low", .number 1) (by decide))) :: advances 3 2 ++
    .request (.submitCommand 9
      (limitsCommand ("low", .integer 1) ("high", .integer 2) (by decide))) :: advances 4 2

theorem limitsCommand_wellFormed {first second : String × JsonValue Int}
    (differ : first.1 ≠ second.1) (one : first.2.tree.WellFormed)
    (two : second.2.tree.WellFormed) :
    (limitsCommand first second differ).WellFormed where
  command_id := show 21 < 2 ^ 128 by decide
  target_id := by
    rintro id ⟨⟩
    decide
  parameters := by
    refine .object (limits_keys_nodup differ) ?_
    show ∀ member ∈ [(first.1, first.2.tree), (second.1, second.2.tree)], _
    simp only [List.forall_mem_cons]
    exact ⟨one, two, nofun⟩

theorem resendingLimits_wellFormed {request : CommandRequest Int}
    (sent : .request (.submitCommand 9 request) ∈ resendingLimits) : request.WellFormed := by
  have float {n : Int} : (Value.number (.float n) : Value (Number Int)).WellFormed :=
    .number (.float trivial)
  have integer {n : Int} : (Value.number (.integer n) : Value (Number Int)).WellFormed :=
    .number (.integer n)
  simp only [resendingLimits, List.mem_cons, List.mem_append, List.mem_replicate,
    Lib.ClientAction.request.injEq,
    reduceCtorEq, LabCall.submitCommand.injEq, true_and, and_false, false_or, or_false] at sent
  rcases sent with (rfl | rfl) | rfl
  · exact limitsCommand_wellFormed _ float integer
  · exact limitsCommand_wellFormed _ integer float
  · exact limitsCommand_wellFormed _ integer integer

/-- The reordered command has a receipt, the one with an integer does not. -/
theorem limits_recognised :
    letI := spelledSha256
    ∃ clients : LabClients Int, LabRun [] admits resendingLimits clients ∧
      clients.answers.map submitOutcome = [none, none, some (.inl 1), some (.inl 1), none] ∧
      ∀ answer ∈ clients.answers, ∀ request, answer.request = .submitCommand 9 request →
        ∀ receipt, answer.result = .ok (.receipt receipt) → ∃ commit accepted,
          Accepts 9 accepted commit ∧ request.Same accepted := by
  let _ := spelledSha256
  obtain ⟨clients, run, outcomes⟩ := exists_labRun (R := Int) [] resendingLimits
    (fun clients => clients.answers.map submitOutcome =
      [none, none, some (.inl 1), some (.inl 1), none])
    (by decide +kernel)
  refine ⟨clients, run, outcomes, fun answer mem request asked receipt returned => ?_⟩
  obtain ⟨commit, accepted, -, accepts, same⟩ :=
    (retries_recognised spelledSha256_injective run
      (fun _ sent _ => resendingLimits_wellFormed sent)
      answer mem request asked).1 receipt returned
  exact ⟨commit, accepted, accepts, same⟩

theorem tankLab_wellFormed : tankLab.WellFormed where
  lab_id := by decide
  assets := by
    simp only [tankLab, List.forall_mem_cons]
    exact ⟨⟨by decide, ⟨rfl, rfl, rfl⟩, rfl, fun _ _ mem => absurd mem List.not_mem_nil⟩,
      fun _ mem => absurd mem List.not_mem_nil⟩
  pipes _ mem := absurd mem List.not_mem_nil
  sensors _ mem := absurd mem List.not_mem_nil

/-- The lab is saved twice; a run of each revision is started. -/
def runningTwice : List (Lib.ClientAction (LabCall Int)) :=
  .request (.saveLab tankLab 0) :: advances 0 4 ++
    .request (.saveLab tankLab 1) :: advances 1 4 ++
    .request (.startRun contestedSpec (some 8) 0) :: advances 2 4 ++
    .request (.startRun { contestedSpec with labRevision := 2, lab_revision_pos := by decide }
      (some 9) 0) :: advances 3 4

/-- The two revisions are not one definition: they are numbered differently. -/
theorem tankLab_runs_differ :
    letI := spelledSha256
    ∃ (clients : LabClients Int) (run run' : SimulationRun Int),
      LabRun [] admits runningTwice clients ∧
      clients.store.getRun 8 = some run ∧ clients.store.getRun 9 = some run' ∧
      run.definitionDigest ≠ run'.definitionDigest := by
  let _ := spelledSha256
  obtain ⟨clients, ran, revisions⟩ := exists_labRun (R := Int) [] runningTwice
    (fun clients => (clients.store.getRun 8).map (·.definition.revision) = some 1 ∧
      (clients.store.getRun 9).map (·.definition.revision) = some 2) (by decide +kernel)
  obtain ⟨run, found, one⟩ := Option.map_eq_some_iff.mp revisions.1
  obtain ⟨run', found', two⟩ := Option.map_eq_some_iff.mp revisions.2
  have formed : ∀ definition expected, .request (.saveLab definition expected) ∈ runningTwice →
      definition.WellFormed := by
    intro definition expected sent
    simp only [runningTwice, List.mem_cons, List.mem_append, List.mem_replicate,
      Lib.ClientAction.request.injEq,
      reduceCtorEq, LabCall.saveLab.injEq, and_false, or_false] at sent
    rcases sent with ⟨rfl, -⟩ | ⟨rfl, -⟩ <;> exact tankLab_wellFormed
  refine ⟨clients, run, run', ran, found, found', fun same => ?_⟩
  have alike := (runs_digest_iff spelledSha256_injective ran formed found found').mp same
  have numbered := alike.revision
  rw [one, two] at numbered
  cases numbered

end IndustrialReliability
