import IndustrialReliability.Lab.Checkpoints
import IndustrialReliability.Lab.Commands
import IndustrialReliability.Lib.Transactions

/-!
`LabStore` and `SimulationEngine.run_once` as clients of the lab tables.

JSON columns hold the values they render. A write to a row locks its key; the foreign
keys of the tables are checked by the statements that insert.
-/

namespace IndustrialReliability

/-! ### Tables -/

/-- A row of `lab_definitions`. -/
structure LabRow where
  name : String
  currentRevision : Nat

variable (R : Type) [LabNumber R]

/-- A row of `lab_revisions`. -/
structure RevisionRow where
  definition : LabDefinition R
  digest : Sha256

/-- A row of `lab_runs`; `spec` stands for the columns that `get_run` reads it from. -/
structure RunRow where
  spec : RunSpec
  modelVersion : String
  status : RunStatus
  tick : Nat
  controlRevision : Nat
  acceptedSequence : Nat
  eventSequence : Nat
  fence : Nat
  definitionDigest : Sha256
  profileDigest : Sha256
  sceneDigest : Sha256
  samplingDigest : Sha256
  checkpoint : EngineCheckpoint R

/-- A row of `lab_commands`. -/
structure CommandRow where
  payloadHash : Sha256
  acceptedSequence : Nat
  action : String
  targetId : Option UUID
  parameters : Lib.Table String (JsonValue R)
  status : CommandStatus
  effectiveTick : Option Nat
  reasonCode : Option String
  controlRevision : Nat

/-- A row of `lab_outbox`. -/
structure LabOutboxRow where
  runId : UUID
  sensorId : UUID
  tick : Nat
  topic : String
  payload : Observation R

structure LabTables where
  labs : Lib.Table UUID LabRow
  revisions : Lib.Table (UUID × Nat) (RevisionRow R)
  baselines : List UUID
  runs : Lib.Table UUID (RunRow R)
  commands : Lib.Table (UUID × UUID) (CommandRow R)
  outbox : Lib.Table UUID (LabOutboxRow R)

/-- What a transaction locks: a row, by its primary key or another unique one. -/
inductive LabKey where
  | lab (id : UUID)
  | revision (lab : UUID) (revision : Nat)
  | run (id : UUID)
  | command (run command : UUID)
  | sequence (run : UUID) (accepted : Nat)
  | message (id : UUID)
deriving DecidableEq

/-! ### Calls -/

/-- A `LabStoreError`, an error of the database or one of the simulation. -/
inductive LabError where
  | cannotCreate (lab : UUID) (expected : Int)
  | labRevisionConflict (current : Nat) (expected : Int)
  | labNotFound (lab : UUID) (revision : Nat)
  | labNotRunnable (errors : List LabValidationError)
  | runNotFound (run : UUID)
  | invalidRunState (status : RunStatus)
  | commandRevisionConflict (expected actual : Nat)
  | commandIdentityConflict (command : UUID)
  | notJson
  | uniqueViolation (key : LabKey)
  | foreignKeyViolation (key : LabKey)
  | compile (error : CompileError)
  | simulation (error : StepError R)

inductive LabAnswer where
  | saved (definition : LabDefinition R)
  | lab (definition : Option (LabDefinition R))
  | started (run : SimulationRun R)
  | run (run : Option (SimulationRun R))
  | receipt (receipt : CommandReceipt)
  | ran (success : Bool)
  | done

/-- A call to the store. No code of the repository changes the status of a run;
`setStatus` is any change of it. The values of `uuid4` are arguments. -/
inductive LabCall where
  | saveLab (definition : LabDefinition R) (expectedRevision : Int)
  | getLab (lab : UUID) (revision : Option Nat)
  | startRun (spec : RunSpec) (runId : Option UUID) (fresh : UUID)
  | getRun (run : UUID)
  | submitCommand (run : UUID) (request : CommandRequest R)
  | runOnce (run : SimulationRun R) (messageIds : Nat → UUID)
  | setStatus (run : UUID) (status : RunStatus)

abbrev LabProgram := Lib.Program (LabTables R) LabKey (LabError R) (LabAnswer R)

variable {R}

/-- The text of the error; that of the validation errors, of a `ValueError` and of the
database errors is left to Python and the database. -/
def LabError.message : LabError R → String
  | cannotCreate lab expected =>
      "Cannot create lab " ++ lab.str ++ " with expected_revision=" ++ toString expected
  | labRevisionConflict current expected =>
      "Lab revision conflict: current=" ++ toString current ++ ", expected=" ++ toString expected
  | labNotFound lab revision =>
      "Lab " ++ lab.str ++ " revision " ++ toString revision ++ " does not exist"
  | labNotRunnable _ => "Lab validation failed"
  | runNotFound run => "Run " ++ run.str ++ " not found"
  | invalidRunState status => "Cannot submit command to run in terminal state: " ++ status.str
  | commandRevisionConflict expected actual =>
      "Control revision mismatch: expected " ++ toString expected ++ ", actual " ++ toString actual
  | commandIdentityConflict command =>
      "Command " ++ command.str ++ " already exists with different payload"
  | notJson => "Out of range float values are not JSON compliant"
  | uniqueViolation _ => "duplicate key value violates unique constraint"
  | foreignKeyViolation _ => "insert or update violates foreign key constraint"
  | compile error => error.message
  | simulation error => error.message

namespace LabTables

/-- The tables before any call. -/
def empty (baselines : List UUID) : LabTables R := ⟨.empty, .empty, baselines, .empty, .empty, .empty⟩

/-- `SELECT definition FROM lab_revisions`. -/
def getLab (tables : LabTables R) (lab : UUID) (revision : Option Nat) : Option (LabDefinition R) := do
  let revision ← match revision with
    | some revision => some revision
    | none => (tables.labs.get? lab).map (·.currentRevision)
  (tables.revisions.get? (lab, revision)).map (·.definition)

/-- The run of a row and the definition of its revision. -/
def toRun (id : UUID) (row : RunRow R) (definition : LabDefinition R) : SimulationRun R where
  runId := id
  spec := row.spec
  status := row.status
  definition
  definitionDigest := row.definitionDigest
  sceneDigest := row.sceneDigest
  profileDigest := row.profileDigest
  samplingDigest := row.samplingDigest
  baselineId := row.spec.baselineId
  modelVersion := row.modelVersion
  dt := num 0.05
  epoch := "2000-01-01T00:00:00Z"
  profileId := "lab-sensor-robust-v1"
  tick := row.tick
  controlRevision := row.controlRevision
  eventSequence := row.eventSequence

/-- `lab_runs JOIN lab_revisions`. -/
def getRun (tables : LabTables R) (id : UUID) : Option (SimulationRun R) := do
  let row ← tables.runs.get? id
  let revision ← tables.revisions.get? (row.spec.labId, row.spec.labRevision)
  return toRun id row revision.definition

end LabTables

/-! ### `save_lab` and `get_lab` -/

namespace LabStore

/-- `INSERT INTO lab_revisions`. -/
def insertRevision (definition : LabDefinition R) (digest : Sha256) (tables : LabTables R) :
    Except (LabError R) (LabTables R → LabTables R) :=
  let key := (definition.labId, definition.revision)
  if (tables.revisions.get? key).isSome then
    .error (.uniqueViolation (.revision definition.labId definition.revision))
  else if (tables.labs.get? definition.labId).isNone then
    .error (.foreignKeyViolation (.lab definition.labId))
  else .ok fun tables =>
    { tables with revisions := tables.revisions.insertNew key ⟨definition, digest⟩ }

/-- `definition.model_copy(update={"revision": new_rev})`, inserted and returned. -/
def saveRevision (definition : LabDefinition R) (digest : Sha256) (before : Nat) : LabProgram R :=
  let saved := { definition with
    revision := before + 1
    revision_pos := Nat.succ_pos before }
  .write [.revision definition.labId (before + 1)] (insertRevision saved digest) (.ret (.saved saved))

/-- `INSERT INTO lab_definitions`. -/
def insertLab (definition : LabDefinition R) (tables : LabTables R) :
    Except (LabError R) (LabTables R → LabTables R) :=
  if (tables.labs.get? definition.labId).isSome then .error (.uniqueViolation (.lab definition.labId))
  else .ok fun tables =>
    { tables with labs := tables.labs.insertNew definition.labId ⟨definition.name, 1⟩ }

def updateLab (definition : LabDefinition R) (revision : Nat) (tables : LabTables R) : LabTables R :=
  { tables with labs := tables.labs.modify definition.labId fun _ => ⟨definition.name, revision⟩ }

def saveLab [Sha256Digest] (definition : LabDefinition R) (expectedRevision : Int) : LabProgram R :=
  let digest := computeDefinitionDigest definition
  let id := definition.labId
  .lock (fun tables => if (tables.labs.get? id).isSome then [.lab id] else []) fun tables =>
    match tables.labs.get? id with
    | none =>
        if expectedRevision ≠ 0 ∧ expectedRevision ≠ 1 then .raise (.cannotCreate id expectedRevision)
        else .write [.lab id] (insertLab definition) (saveRevision definition digest 0)
    | some row =>
        if (row.currentRevision : Int) ≠ expectedRevision then
          .raise (.labRevisionConflict row.currentRevision expectedRevision)
        else .write [.lab id] (fun _ => .ok (updateLab definition (row.currentRevision + 1)))
          (saveRevision definition digest row.currentRevision)

def getLab (lab : UUID) (revision : Option Nat) : LabProgram R :=
  .select fun tables => .ret (.lab (tables.getLab lab revision))

/-! ### `start_run` and `get_run` -/

/-- The row that `start_run` inserts. -/
def newRunRow [Sha256Digest] (spec : RunSpec) (definition : LabDefinition R) : RunRow R :=
  let definitionDigest := computeDefinitionDigest definition
  let profileDigest := sha256 "lab-sensor-robust-v1"
  let samplingDigest := sha256 "sampling-1hz-v1"
  { spec
    modelVersion := "pneumatic-isothermal-v1"
    status := .CREATED
    tick := 0
    controlRevision := 0
    acceptedSequence := 0
    eventSequence := 0
    fence := 0
    definitionDigest
    profileDigest
    sceneDigest := sha256 "scene-v1"
    samplingDigest
    checkpoint := {
      schemaVersion := "lab-checkpoint-v1"
      tick := 0
      physical := initialPhysical definition
      controls := .initial
      acceptedScannedSequence := 0
      pendingCommandIds := []
      definitionDigest
      profileDigest
      samplingDigest } }

/-- `INSERT INTO lab_runs`. -/
def insertRun (id : UUID) (row : RunRow R) (tables : LabTables R) :
    Except (LabError R) (LabTables R → LabTables R) :=
  if (tables.runs.get? id).isSome then .error (.uniqueViolation (.run id))
  else if (tables.revisions.get? (row.spec.labId, row.spec.labRevision)).isNone ∨
      ∃ baseline ∈ row.spec.baselineId, baseline ∉ tables.baselines then
    .error (.foreignKeyViolation (.run id))
  else .ok fun tables => { tables with runs := tables.runs.insertNew id row }

/-- The second transaction of `start_run`. -/
def createRun [Sha256Digest] (spec : RunSpec) (id : UUID) : Option (LabDefinition R) → LabProgram R
  | none => .raise (.labNotFound spec.labId spec.labRevision)
  | some definition =>
      let result := validateLab definition
      if result.runEligible = false then .raise (.labNotRunnable result.errors)
      else
        let row := newRunRow spec definition
        .write [.run id] (insertRun id row) (.ret (.started (LabTables.toRun id row definition)))

def startRun [Sha256Digest] (spec : RunSpec) (runId : Option UUID) (fresh : UUID) : LabProgram R :=
  .select fun tables =>
    .commit (createRun spec (runId.getD fresh) (tables.getLab spec.labId (some spec.labRevision)))

def getRun (run : UUID) : LabProgram R := .select fun tables => .ret (.run (tables.getRun run))

/-- Any change of the status of a run. -/
def setStatus (run : UUID) (status : RunStatus) : LabProgram R :=
  .statement (fun tables => if (tables.runs.get? run).isSome then [.run run] else [])
    (fun tables => match tables.runs.get? run with
      | some _ => .ok fun tables =>
          { tables with runs := tables.runs.modify run fun row => { row with status } }
      | none => .ok id)
    fun _ => .ret .done

/-! ### `submit_command` -/

/-- The receipt of a stored command. -/
def receiptOf (command : UUID) (row : CommandRow R) : CommandReceipt where
  commandId := command
  status := row.status
  acceptedSequence := row.acceptedSequence
  effectiveTick := row.effectiveTick
  controlRevision := row.controlRevision
  reasonCode := row.reasonCode

/-- The row of an accepted command. -/
def acceptedRow [Sha256Digest] (request : CommandRequest R) (sequence revision : Nat) : CommandRow R where
  payloadHash := request.payloadHash
  acceptedSequence := sequence
  action := request.action
  targetId := request.targetId
  parameters := request.parameters
  status := .ACCEPTED
  effectiveTick := none
  reasonCode := none
  controlRevision := revision

/-- `INSERT INTO lab_commands`, with its two unique keys. -/
def insertCommand (run command : UUID) (row : CommandRow R) (tables : LabTables R) :
    Except (LabError R) (LabTables R → LabTables R) :=
  if (tables.commands.get? (run, command)).isSome then .error (.uniqueViolation (.command run command))
  else if tables.commands.rows.any fun (key, other) =>
      key.1 = run && other.acceptedSequence = row.acceptedSequence then
    .error (.uniqueViolation (.sequence run row.acceptedSequence))
  else if (tables.runs.get? run).isNone then .error (.foreignKeyViolation (.run run))
  else .ok fun tables => { tables with commands := tables.commands.insertNew (run, command) row }

/-- `UPDATE lab_runs SET control_revision, accepted_sequence`. -/
def updateCounters (run : UUID) (revision sequence : Nat) (tables : LabTables R) : LabTables R :=
  { tables with runs := tables.runs.modify run fun row =>
      { row with controlRevision := revision, acceptedSequence := sequence } }

/-- The rest of `submit_command`, from the lock of the run. -/
def lockRun [Sha256Digest] (run : UUID) (request : CommandRequest R) : LabProgram R :=
  .lock (fun tables => if (tables.runs.get? run).isSome then [.run run] else []) fun tables =>
    match tables.runs.get? run with
    | none => .raise (.runNotFound run)
    | some row =>
        if row.status.Terminal then .raise (.invalidRunState row.status)
        else if request.expectedControlRevision ≠ row.controlRevision then
          .raise (.commandRevisionConflict request.expectedControlRevision row.controlRevision)
        else
          let revision := row.controlRevision + 1
          let sequence := row.acceptedSequence + 1
          let command := acceptedRow request sequence revision
          .write [.command run request.commandId, .sequence run sequence]
            (insertCommand run request.commandId command)
            (.write [.run run] (fun _ => .ok (updateCounters run revision sequence))
              (.ret (.receipt (receiptOf request.commandId command))))

def submitCommand [Sha256Digest] (run : UUID) (request : CommandRequest R) : LabProgram R :=
  if (JsonValue.object request.parameters.rows).isFinite = false then .raise .notJson
  else .select fun tables =>
    match tables.commands.get? (run, request.commandId) with
    | some row =>
        if row.payloadHash ≠ request.payloadHash then .raise (.commandIdentityConflict request.commandId)
        else .ret (.receipt (receiptOf request.commandId row))
    | none => lockRun run request

/-! ### `checkpoint` -/

/-- The row that `WHERE run_id = .. AND fence = .. AND tick = ..` finds. -/
def fencedRun (run : UUID) (fence expectedTick : Nat) (tables : LabTables R) : Option (RunRow R) :=
  (tables.runs.get? run).filter fun row => row.fence = fence ∧ row.tick = expectedTick

/-- `UPDATE lab_runs SET tick, checkpoint, event_sequence`. -/
def updateCheckpoint (run : UUID) (checkpoint : EngineCheckpoint R) (events : Nat)
    (tables : LabTables R) : LabTables R :=
  { tables with runs := tables.runs.modify run fun row =>
      { row with
        tick := checkpoint.tick
        checkpoint
        eventSequence := row.eventSequence + events } }

/-- `INSERT INTO lab_outbox`. -/
def insertMessage (id : UUID) (row : LabOutboxRow R) (tables : LabTables R) :
    Except (LabError R) (LabTables R → LabTables R) :=
  if (tables.outbox.get? id).isSome then .error (.uniqueViolation (.message id))
  else if (tables.runs.get? row.runId).isNone then .error (.foreignKeyViolation (.run row.runId))
  else .ok fun tables => { tables with outbox := tables.outbox.insertNew id row }

def insertMessages (next : LabProgram R) : List (UUID × LabOutboxRow R) → LabProgram R
  | [] => next
  | (id, row) :: messages => .write [.message id] (insertMessage id row) (insertMessages next messages)

/-- An atomic checkpoint, without events: `next` follows it, and `lost` where its row
is not found. -/
def checkpoint (run : UUID) (fence expectedTick : Nat) (data : EngineCheckpoint R)
    (messages : List (UUID × LabOutboxRow R)) (next lost : LabProgram R) : LabProgram R :=
  .statement (fun tables => ((fencedRun run fence expectedTick tables).map fun _ => .run run).toList)
    (fun tables => match fencedRun run fence expectedTick tables with
      | some _ => .ok (updateCheckpoint run data 0)
      | none => .ok id)
    fun tables => match fencedRun run fence expectedTick tables with
      | some _ => insertMessages (.commit next) messages
      | none => lost

end LabStore

/-! ### `SimulationEngine.run_once` -/

def TOPIC_LAB_OBSERVATIONS : String := "irp.lab.observations.v1"

namespace SimulationEngine

/-- The fallback of `_load_or_create_checkpoint`. -/
def createCheckpoint (run : SimulationRun R) : EngineCheckpoint R where
  schemaVersion := "lab-checkpoint-v1"
  tick := 0
  physical := ⟨0, initialPressures run.definition, .empty, .empty⟩
  controls := .initial
  acceptedScannedSequence := 0
  pendingCommandIds := []
  definitionDigest := run.definitionDigest
  profileDigest := run.profileDigest
  samplingDigest := run.samplingDigest

/-- `tick % 20 == 0`. -/
def observations [Sha256Digest] (run : SimulationRun R) (controls : ControlState R)
    (physical : PhysicalState R) : List (Observation R) :=
  if physical.tick % 20 = 0 then observe run physical controls else []

/-- The ticks of a batch, and what is observed at them. -/
def batch [Sha256Digest] (network : CompiledNetwork R) (run : SimulationRun R)
    (controls : ControlState R) : Nat → PhysicalState R →
      Except (StepError R) (PhysicalState R × List (Observation R))
  | 0, physical => .ok (physical, [])
  | ticks + 1, physical => do
      let physical ← step network physical controls run.dt
      let (last, later) ← batch network run controls ticks physical
      return (last, observations run controls physical ++ later)

def outboxRow (run : UUID) (observation : Observation R) : LabOutboxRow R where
  runId := run
  sensorId := observation.sensorId
  tick := observation.tick
  topic := TOPIC_LAB_OBSERVATIONS
  payload := observation

/-- The checkpoint after a batch. -/
def newCheckpoint (run : SimulationRun R) (before : EngineCheckpoint R) (physical : PhysicalState R) :
    EngineCheckpoint R where
  schemaVersion := "lab-checkpoint-v1"
  tick := physical.tick
  physical
  controls := before.controls
  acceptedScannedSequence := before.acceptedScannedSequence
  pendingCommandIds := []
  definitionDigest := run.definitionDigest
  profileDigest := run.profileDigest
  samplingDigest := run.samplingDigest

/-- The loop of `run_once`, which is where the last checkpoint is. The fuel is one
more than the ticks that are left. -/
def runBatches [Sha256Digest] (network : CompiledNetwork R) (run : SimulationRun R) (maxTicks : Nat) :
    Nat → (Nat → UUID) → EngineCheckpoint R → LabProgram R
  | 0, _, _ => .ret (.ran true)
  | fuel + 1, messageIds, before =>
      if before.tick < maxTicks then
        match batch network run before.controls (min 2 (maxTicks - before.tick)) before.physical with
        | .error error => .raise (.simulation error)
        | .ok (physical, observed) =>
            let after := newCheckpoint run before physical
            let messages := observed.zipIdx.map fun (observation, index) =>
              (messageIds index, outboxRow run.runId observation)
            LabStore.checkpoint run.runId 0 before.tick after messages
              (runBatches network run maxTicks fuel (fun index => messageIds (index + observed.length)) after)
              (.ret (.ran false))
      else .ret (.ran true)

def runOnce [Sha256Digest] (run : SimulationRun R) (messageIds : Nat → UUID) : LabProgram R :=
  match compileLab run.definition run.dt with
  | .error error => .raise (.compile error)
  | .ok network => .select fun tables =>
      let checkpoint := ((tables.runs.get? run.runId).map (·.checkpoint)).getD (createCheckpoint run)
      let maxTicks := run.spec.maxTicks.getD 1000
      .commit (runBatches network run maxTicks (maxTicks + 1) messageIds checkpoint)

end SimulationEngine

/-- The program of a call. -/
def labProgram [Sha256Digest] : LabCall R → LabProgram R
  | .saveLab definition expectedRevision => LabStore.saveLab definition expectedRevision
  | .getLab lab revision => LabStore.getLab lab revision
  | .startRun spec runId fresh => LabStore.startRun spec runId fresh
  | .getRun run => LabStore.getRun run
  | .submitCommand run request => LabStore.submitCommand run request
  | .runOnce run messageIds => SimulationEngine.runOnce run messageIds
  | .setStatus run status => LabStore.setStatus run status

/-- The runs that `run_once` is given are those of the store, as `start_run` or
`get_run` returned them at any time. -/
def LabCall.Admissible (tables : LabTables R) : LabCall R → Prop
  | .runOnce run _ => ∃ now, tables.getRun run.runId = some now ∧ run = { now with
      status := run.status
      tick := run.tick
      controlRevision := run.controlRevision
      eventSequence := run.eventSequence }
  | _ => True

abbrev LabClients (R : Type) [LabNumber R] :=
  Lib.Clients (LabCall R) (LabTables R) LabKey (LabError R) (LabAnswer R)

/-- The guard of every run: calls are admissible. -/
def admits (clients : LabClients R) : Lib.ClientAction (LabCall R) → Prop
  | .request call => call.Admissible clients.store
  | _ => True

end IndustrialReliability
