import IndustrialReliability.Lab.Batches

/-!
The protocol of the clients of the lab tables.

A commit of a call is a `LabChange`; while a client holds a row, the commits of others
leave it as it is. What a call answers stays true of the tables, since nothing takes
back what it refers to.
-/

namespace IndustrialReliability

open LabStore SimulationEngine

variable {R : Type} [LabNumber R]

/-! ### What each write keeps -/

section Keeps

variable (tables : LabTables R)

theorem keeps_addLab (definition : LabDefinition R) : LabKeeps tables (addLab definition tables) :=
  { LabKeeps.refl tables with
    labs := fun _ row held => ⟨row, Lib.Table.get?_insertNew_of_some held, le_rfl⟩ }

theorem keeps_updateLab {definition : LabDefinition R} {row : LabRow} {revision : Nat}
    (held : tables.labs.get? definition.labId = some row) (later : row.currentRevision ≤ revision) :
    LabKeeps tables (updateLab definition revision tables) :=
  { LabKeeps.refl tables with
    labs := fun id before old => by
      refine ⟨_, Lib.Table.get?_modify_eq_some.mpr ⟨before, old, rfl⟩, ?_⟩
      by_cases here : id = definition.labId
      · subst here
        cases held.symm.trans old
        rw [if_pos rfl]
        exact later
      · rw [if_neg here] }

theorem keeps_addRevision [Sha256Digest] (definition : LabDefinition R) (before : Nat) :
    LabKeeps tables (addRevision definition before tables) :=
  { LabKeeps.refl tables with
    revisions := fun _ _ held => Lib.Table.get?_insertNew_of_some held }

theorem keeps_addRun (id : UUID) (row : RunRow R) : LabKeeps tables (addRun id row tables) :=
  { LabKeeps.refl tables with
    runs := fun _ row held => ⟨row, Lib.Table.get?_insertNew_of_some held, .refl row⟩ }

theorem keeps_addCommand {run command : UUID} {new : CommandRow R}
    (newer : ∀ row, tables.runs.get? run = some row → row.controlRevision < new.controlRevision) :
    LabKeeps tables (addCommand run command new tables) :=
  { LabKeeps.refl tables with
    commands := fun _ _ held => Lib.Table.get?_insertNew_of_some held
    newer := fun key row held => by
      rcases Lib.Table.get?_insertNew_eq_some held with before | ⟨rfl, rfl⟩
      · exact .inl before
      · exact .inr newer }

theorem keeps_modifyRun {run : UUID} {f : RunRow R → RunRow R}
    (keeps : ∀ row, tables.runs.get? run = some row → RunKeeps row (f row)) :
    LabKeeps tables { tables with runs := tables.runs.modify run f } :=
  { LabKeeps.refl tables with
    runs := fun id row held => by
      refine ⟨_, Lib.Table.get?_modify_eq_some.mpr ⟨row, held, rfl⟩, ?_⟩
      by_cases here : id = run
      · subst here
        rw [if_pos rfl]
        exact keeps row held
      · rw [if_neg here]
        exact .refl row }

theorem keeps_addMessages (messages : List (UUID × LabOutboxRow R)) :
    LabKeeps tables (addMessages messages tables) := by
  obtain ⟨labs, revisions, -, runs, commands⟩ := addMessages_other messages tables
  have refl := LabKeeps.refl tables
  refine ⟨?_, ?_, ?_, ?_, ?_, fun _ _ held => addMessages_keeps messages tables held⟩
  · rw [labs]
    exact refl.labs
  · rw [revisions]
    exact refl.revisions
  · rw [runs]
    exact refl.runs
  · rw [commands]
    exact refl.commands
  · rw [commands]
    exact refl.newer

end Keeps

/-! ### The invariant -/

structure LabInv [Sha256Digest] (tables : LabTables R) : Prop where
  revisions : RevisionsInv tables
  commands : CommandsInv tables
  runs : RunsInv tables

section Changes

variable [Sha256Digest] {call : LabCall R} {tables tables' : LabTables R}

theorem LabInv.change (inv : LabInv tables) (change : LabChange call tables tables') : LabInv tables' :=
  ⟨inv.revisions.change change, inv.commands.change change, inv.runs.change change⟩

theorem LabChange.keeps (change : LabChange call tables tables') (inv : LabInv tables) :
    LabKeeps tables tables' := by
  cases change with
  | nothing => exact .refl tables
  | firstSave => exact (keeps_addLab tables _).trans (keeps_addRevision _ _ 0)
  | nextSave held _ => exact (keeps_updateLab tables held (Nat.le_succ _)).trans (keeps_addRevision _ _ _)
  | start => exact keeps_addRun tables _ _
  | @accept run request tables row _ held _ _ _ =>
      refine (keeps_addCommand tables fun before old => ?_).trans (keeps_modifyRun _ fun before old => ?_)
      · cases held.symm.trans old
        exact Nat.lt_succ_self _
      · cases held.symm.trans old
        exact ⟨rfl, rfl, rfl, rfl, rfl, rfl, rfl, le_rfl, Nat.le_succ _⟩
  | @checkpoint run _ tables row _ physical _ messages batched =>
      refine (keeps_modifyRun tables fun before old => ?_).trans (keeps_addMessages _ messages)
      cases batched.stored.symm.trans old
      have tick := physicalAt_tick (inv.runs.batched batched).1
      refine ⟨rfl, rfl, rfl, rfl, rfl, rfl, rfl, ?_, le_rfl⟩
      show row.tick ≤ physical.tick
      omega
  | status run status =>
      exact keeps_modifyRun tables fun row _ => ⟨rfl, rfl, rfl, rfl, rfl, rfl, rfl, le_rfl, le_rfl⟩

end Changes

/-! ### What each write leaves alone -/

section Same

variable {tables : LabTables R} {key : LabKey}

theorem same_addLab {definition : LabDefinition R} (other : key ≠ .lab definition.labId) :
    LabSame key tables (addLab definition tables) := by
  cases key with
  | lab id => exact Lib.Table.get?_insertNew_ne fun same => other (by rw [same])
  | sequence => exact Iff.rfl
  | _ => exact rfl

theorem same_updateLab {definition : LabDefinition R} {revision : Nat}
    (other : key ≠ .lab definition.labId) : LabSame key tables (updateLab definition revision tables) := by
  cases key with
  | lab id => exact Lib.Table.get?_modify_ne fun same => other (by rw [same])
  | sequence => exact Iff.rfl
  | _ => exact rfl

theorem same_addRevision [Sha256Digest] {definition : LabDefinition R} {before : Nat}
    (other : key ≠ .revision definition.labId (before + 1)) :
    LabSame key tables (addRevision definition before tables) := by
  cases key with
  | revision lab revision =>
      exact Lib.Table.get?_insertNew_ne fun same => other (by cases same; rfl)
  | sequence => exact Iff.rfl
  | _ => exact rfl

theorem same_addRun {id : UUID} {row : RunRow R} (other : key ≠ .run id) :
    LabSame key tables (addRun id row tables) := by
  cases key with
  | run id' => exact Lib.Table.get?_insertNew_ne fun same => other (by rw [same])
  | sequence => exact Iff.rfl
  | _ => exact rfl

theorem same_modifyRun {id : UUID} {f : RunRow R → RunRow R} (other : key ≠ .run id) :
    LabSame key tables { tables with runs := tables.runs.modify id f } := by
  cases key with
  | run id' => exact Lib.Table.get?_modify_ne fun same => other (by rw [same])
  | sequence => exact Iff.rfl
  | _ => exact rfl

theorem same_addCommand {run command : UUID} {new : CommandRow R} (other : key ≠ .command run command)
    (later : key ≠ .sequence run new.acceptedSequence) :
    LabSame key tables (addCommand run command new tables) := by
  cases key with
  | command run' command' =>
      exact Lib.Table.get?_insertNew_ne fun same => other (by cases same; rfl)
  | sequence run' accepted =>
      constructor
      · rintro ⟨command', row, held, same⟩
        rcases Lib.Table.get?_insertNew_eq_some held with before | ⟨here, rfl⟩
        · exact ⟨command', row, before, same⟩
        · cases here
          exact absurd (by rw [same]) later
      · rintro ⟨command', row, held, same⟩
        exact ⟨command', row, Lib.Table.get?_insertNew_of_some held, same⟩
  | _ => exact rfl

theorem same_addMessages {messages : List (UUID × LabOutboxRow R)}
    (others : ∀ message ∈ messages, key ≠ .message message.1) :
    LabSame key tables (addMessages messages tables) := by
  obtain ⟨labs, revisions, -, runs, commands⟩ := addMessages_other messages tables
  cases key with
  | lab id => exact congrArg (·.get? id) labs
  | revision lab revision => exact congrArg (·.get? (lab, revision)) revisions
  | run id => exact congrArg (·.get? id) runs
  | command run command => exact congrArg (·.get? (run, command)) commands
  | sequence run accepted =>
      show sequenceTaken _ run accepted ↔ sequenceTaken _ run accepted
      unfold sequenceTaken
      rw [commands]
  | message id =>
      refine addMessages_ne tables fun mem => ?_
      obtain ⟨message, its, same⟩ := List.mem_map.mp mem
      exact others message its (by rw [same])

end Same

/-! ### Answers -/

/-- What a submission that has locked its run fails for, at the time of the lock. -/
def LockError [Sha256Digest] (run : UUID) (request : CommandRequest R) (locked : LabTables R) :
    LabError R → Prop
  | .runNotFound _ => locked.runs.get? run = none
  | .invalidRunState _ => ∃ row, locked.runs.get? run = some row ∧ row.status.Terminal
  | .commandRevisionConflict _ _ => ∃ row, locked.runs.get? run = some row ∧ ¬ row.status.Terminal ∧
      request.expectedControlRevision ≠ row.controlRevision
  | .uniqueViolation _ => (locked.commands.get? (run, request.commandId)).isSome = true
  | _ => False

/-- When a call may take a step. -/
abbrev LabPermits (R : Type) [LabNumber R] := LabCall R → LabProgram R → LabTables R → Prop

/-- What a failed submission has found. -/
def SubmitError [Sha256Digest] (permits : LabPermits R) (run : UUID) (request : CommandRequest R)
    (tables : LabTables R) : LabError R → Prop
  | .commandIdentityConflict _ => ∃ row, tables.commands.get? (run, request.commandId) = some row ∧
      row.payloadHash ≠ request.payloadHash
  | .notJson => (JsonValue.object request.parameters.rows).isFinite = false
  | error => ∃ locked, LabInv locked ∧ LabKeeps locked tables ∧
      permits (.submitCommand run request) (lockRun run request) locked ∧
        LockError run request locked error

/-- The run is stored with this definition and digest. -/
def RunStored (tables : LabTables R) (run : SimulationRun R) : Prop :=
  ∃ now, tables.getRun run.runId = some now ∧ now.definition = run.definition ∧
    now.definitionDigest = run.definitionDigest

/-- What an answer of a call says. -/
def Answered [Sha256Digest] (tables : LabTables R) : LabCall R → LabAnswer R → Prop
  | .saveLab definition _, .saved saved => saved.labId = definition.labId ∧ ∃ row,
      tables.revisions.get? (saved.labId, saved.revision) = some row ∧ row.definition = saved
  | .getLab lab _, .lab found => ∀ definition, found = some definition → ∃ row,
      tables.revisions.get? (lab, definition.revision) = some row ∧ row.definition = definition
  | .startRun _ _ _, .started run => RunStored tables run ∧ (validateLab run.definition).runEligible = true
  | .getRun id, .run found => ∀ run, found = some run → run.runId = id ∧ RunStored tables run
  | .submitCommand run request, .receipt receipt => ∃ row,
      tables.commands.get? (run, request.commandId) = some row ∧
        row.payloadHash = request.payloadHash ∧ receipt = receiptOf request.commandId row
  | .runOnce run _, .ran success => success = true → ∃ row, tables.runs.get? run.runId = some row ∧
      run.spec.maxTicks.getD 1000 ≤ row.tick
  | .setStatus _ _, .done => True
  | _, _ => False

/-- The calls that do all their writes in one transaction. -/
def LabCall.Atomic : LabCall R → Prop
  | .runOnce _ _ => False
  | _ => True

/-- What a failed call has found, and that it changed nothing. -/
structure Failed [Sha256Digest] (permits : LabPermits R) (call : LabCall R)
    (commits : List (LabTables R × LabTables R)) (error : LabError R) (tables : LabTables R) : Prop where
  unchanged : call.Atomic → ∀ commit ∈ commits, commit.1 = commit.2
  submission : ∀ run request, call = .submitCommand run request →
    SubmitError permits run request tables error

def LabPost [Sha256Digest] (permits : LabPermits R) (call : LabCall R)
    (commits : List (LabTables R × LabTables R)) (result : Except (LabError R) (LabAnswer R))
    (tables : LabTables R) : Prop :=
  match result with
  | .ok answer => Answered tables call answer
  | .error error => Failed permits call commits error tables

section Stable

variable {tables tables' : LabTables R}

theorem LabKeeps.getRun (keeps : LabKeeps tables tables') {id : UUID} {now : SimulationRun R}
    (found : tables.getRun id = some now) : ∃ later, tables'.getRun id = some later ∧
      later.definition = now.definition ∧ later.definitionDigest = now.definitionDigest := by
  obtain ⟨row, held, rest⟩ := Option.bind_eq_some_iff.mp found
  obtain ⟨revision, stored, same⟩ := Option.bind_eq_some_iff.mp rest
  cases same
  obtain ⟨row', held', kept⟩ := keeps.runs id row held
  have stored' := keeps.revisions _ _ stored
  rw [← kept.spec] at stored'
  refine ⟨LabTables.toRun id row' revision.definition, ?_, rfl, kept.definitionDigest⟩
  exact Option.bind_eq_some_iff.mpr ⟨row', held', Option.bind_eq_some_iff.mpr ⟨revision, stored', rfl⟩⟩

theorem RunStored.mono {run : SimulationRun R} (stored : RunStored tables run)
    (keeps : LabKeeps tables tables') : RunStored tables' run := by
  obtain ⟨now, found, definition, digest⟩ := stored
  obtain ⟨later, there, definition', digest'⟩ := keeps.getRun found
  exact ⟨later, there, definition'.trans definition, digest'.trans digest⟩

variable [Sha256Digest]

theorem Answered.mono {call : LabCall R} {answer : LabAnswer R} (answered : Answered tables call answer)
    (keeps : LabKeeps tables tables') : Answered tables' call answer := by
  cases call <;> cases answer <;> try exact answered
  case saveLab.saved =>
    obtain ⟨lab, row, held, same⟩ := answered
    exact ⟨lab, row, keeps.revisions _ _ held, same⟩
  case getLab.lab =>
    intro definition found
    obtain ⟨row, held, same⟩ := answered definition found
    exact ⟨row, keeps.revisions _ _ held, same⟩
  case startRun.started => exact ⟨answered.1.mono keeps, answered.2⟩
  case getRun.run =>
    intro run found
    exact ⟨(answered run found).1, (answered run found).2.mono keeps⟩
  case submitCommand.receipt =>
    obtain ⟨row, held, same⟩ := answered
    exact ⟨row, keeps.commands _ _ held, same⟩
  case runOnce.ran =>
    intro success
    obtain ⟨row, held, done⟩ := answered success
    obtain ⟨row', held', kept⟩ := keeps.runs _ row held
    exact ⟨row', held', done.trans kept.tick⟩

theorem SubmitError.mono {permits : LabPermits R} {run : UUID} {request : CommandRequest R}
    {error : LabError R} (found : SubmitError permits run request tables error)
    (keeps : LabKeeps tables tables') : SubmitError permits run request tables' error := by
  have locking : (∃ locked, LabInv locked ∧ LabKeeps locked tables ∧
      permits (.submitCommand run request) (lockRun run request) locked ∧
        LockError run request locked error) →
      ∃ locked, LabInv locked ∧ LabKeeps locked tables' ∧
        permits (.submitCommand run request) (lockRun run request) locked ∧
          LockError run request locked error := by
    rintro ⟨locked, inv, before, permitted, fails⟩
    exact ⟨locked, inv, before.trans keeps, permitted, fails⟩
  cases error with
  | commandIdentityConflict =>
      obtain ⟨row, held, differ⟩ := found
      exact ⟨row, keeps.commands _ _ held, differ⟩
  | notJson => exact found
  | _ => exact locking found

end Stable

/-- The protocol; `permits` restricts the steps of calls. -/
def labProtocol [Sha256Digest] (permits : LabPermits R) :
    Lib.Protocol (LabCall R) (LabTables R) LabKey (LabError R) (LabAnswer R) where
  Inv := LabInv
  Keeps := LabKeeps
  Same := LabSame
  Change := LabChange
  Post := LabPost permits
  Permits := permits
  keeps_refl := LabKeeps.refl
  keeps_trans := LabKeeps.trans
  same_refl := LabSame.refl
  same_trans := LabSame.trans
  post_stable := by
    intro call commits result tables tables' post _ keeps
    cases result with
    | ok answer => exact Answered.mono post keeps
    | error error =>
        exact ⟨post.unchanged, fun run request same => (post.submission run request same).mono keeps⟩

end IndustrialReliability
