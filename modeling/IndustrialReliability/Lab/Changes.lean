import IndustrialReliability.Lab.Store

/-!
What the commits of the lab store do.

`LabChange` lists them, one for each kind of call; every invariant of the tables is
derived from it. `LabKeeps` is what none of them takes back.
-/

namespace IndustrialReliability

open LabStore SimulationEngine

variable {R : Type} [LabNumber R]

/-! ### Simulations without interruption -/

/-- So many steps. -/
def steps (network : CompiledNetwork R) (controls : ControlState R) (dt : R) :
    Nat → PhysicalState R → Except (StepError R) (PhysicalState R)
  | 0, physical => .ok physical
  | ticks + 1, physical => step network physical controls dt >>= steps network controls dt ticks

theorem steps_add (network : CompiledNetwork R) (controls : ControlState R) (dt : R) (m n : Nat)
    (physical : PhysicalState R) : steps network controls dt (m + n) physical =
      steps network controls dt m physical >>= steps network controls dt n := by
  induction m generalizing physical with
  | zero =>
      rw [Nat.zero_add]
      rfl
  | succ m ih =>
      rw [Nat.succ_add]
      show step network physical controls dt >>= steps network controls dt (m + n) =
        (step network physical controls dt >>= steps network controls dt m) >>= steps network controls dt n
      cases step network physical controls dt with
      | error e => rfl
      | ok next => exact ih next

/-- The state of a run that is not interrupted at a tick. -/
def physicalAt (definition : LabDefinition R) (tick : Nat) : Option (PhysicalState R) := do
  let network ← (compileLab definition (num 0.05)).toOption
  (steps network .initial (num 0.05) tick (initialPhysical definition)).toOption

/-! ### Changes -/

/-- The messages of a checkpoint, inserted. -/
def addMessages (messages : List (UUID × LabOutboxRow R)) (tables : LabTables R) : LabTables R :=
  messages.foldl (fun tables (id, row) => { tables with outbox := tables.outbox.insertNew id row }) tables

/-- A saved revision. -/
def addRevision [Sha256Digest] (definition : LabDefinition R) (before : Nat) (tables : LabTables R) :
    LabTables R :=
  let saved := { definition with
    revision := before + 1
    revision_pos := Nat.succ_pos before }
  let row : RevisionRow R := ⟨saved, computeDefinitionDigest definition⟩
  { tables with revisions := tables.revisions.insertNew (definition.labId, before + 1) row }

def addLab (definition : LabDefinition R) (tables : LabTables R) : LabTables R :=
  { tables with labs := tables.labs.insertNew definition.labId ⟨definition.name, 1⟩ }

def addRun (id : UUID) (row : RunRow R) (tables : LabTables R) : LabTables R :=
  { tables with runs := tables.runs.insertNew id row }

def addCommand (run command : UUID) (row : CommandRow R) (tables : LabTables R) : LabTables R :=
  { tables with commands := tables.commands.insertNew (run, command) row }

/-- A batch of a run from a row of the store. -/
structure Batched [Sha256Digest] (tables : LabTables R) (run : SimulationRun R) (row : RunRow R)
    (ticks : Nat) (physical : PhysicalState R) (observed : List (Observation R)) : Prop where
  stored : tables.runs.get? run.runId = some row
  run_of : run = { LabTables.toRun run.runId row run.definition with
    status := run.status
    tick := run.tick
    controlRevision := run.controlRevision
    eventSequence := run.eventSequence }
  definition : ∃ revision, tables.revisions.get? (row.spec.labId, row.spec.labRevision) = some revision ∧
    revision.definition = run.definition
  ticks_pos : 0 < ticks
  in_time : row.tick + ticks ≤ run.spec.maxTicks.getD 1000
  advanced : ∃ network, compileLab run.definition run.dt = .ok network ∧
    batch network run row.checkpoint.controls ticks row.checkpoint.physical = .ok (physical, observed)

/-- What a commit of a call does. -/
inductive LabChange [Sha256Digest] : LabCall R → LabTables R → LabTables R → Prop
  | nothing (call : LabCall R) (tables : LabTables R) : LabChange call tables tables
  | firstSave {definition : LabDefinition R} {expected : Int} {tables : LabTables R}
      (expects : expected = 0 ∨ expected = 1) (free : tables.labs.get? definition.labId = none) :
      LabChange (.saveLab definition expected) tables
        (addRevision definition 0 (addLab definition tables))
  | nextSave {definition : LabDefinition R} {expected : Int} {tables : LabTables R} {row : LabRow}
      (held : tables.labs.get? definition.labId = some row)
      (expects : (row.currentRevision : Int) = expected) :
      LabChange (.saveLab definition expected) tables
        (addRevision definition row.currentRevision (updateLab definition (row.currentRevision + 1) tables))
  | start {spec : RunSpec} {runId : Option UUID} {fresh : UUID} {tables : LabTables R}
      {revision : RevisionRow R}
      (found : tables.revisions.get? (spec.labId, spec.labRevision) = some revision)
      (eligible : (validateLab revision.definition).runEligible = true)
      (free : tables.runs.get? (runId.getD fresh) = none) :
      LabChange (.startRun spec runId fresh) tables
        (addRun (runId.getD fresh) (newRunRow spec revision.definition) tables)
  | accept {run : UUID} {request : CommandRequest R} {tables : LabTables R} {row : RunRow R}
      (finite : (JsonValue.object request.parameters.rows).isFinite = true)
      (held : tables.runs.get? run = some row) (running : ¬ row.status.Terminal)
      (expects : request.expectedControlRevision = row.controlRevision)
      (free : tables.commands.get? (run, request.commandId) = none) :
      LabChange (.submitCommand run request) tables
        (updateCounters run (row.controlRevision + 1) (row.acceptedSequence + 1)
          (addCommand run request.commandId
            (acceptedRow request (row.acceptedSequence + 1) (row.controlRevision + 1)) tables))
  | checkpoint {run : SimulationRun R} {messageIds : Nat → UUID} {tables : LabTables R} {row : RunRow R}
      {ticks : Nat} {physical : PhysicalState R} {observed : List (Observation R)}
      {messages : List (UUID × LabOutboxRow R)}
      (batched : Batched tables run row ticks physical observed)
      (rows : messages.map Prod.snd = observed.map (outboxRow run.runId))
      (fresh : ∀ message ∈ messages, tables.outbox.get? message.1 = none)
      (distinct : (messages.map Prod.fst).Nodup) :
      LabChange (.runOnce run messageIds) tables (addMessages messages
        (updateCheckpoint run.runId (newCheckpoint run row.checkpoint physical) 0 tables))
  | status (run : UUID) (status : RunStatus) (tables : LabTables R) :
      LabChange (.setStatus run status) tables
        { tables with runs := tables.runs.modify run fun row => { row with status } }

/-! ### What is kept -/

/-- What no commit changes of a run, and what only grows. -/
structure RunKeeps (row row' : RunRow R) : Prop where
  spec : row'.spec = row.spec
  modelVersion : row'.modelVersion = row.modelVersion
  fence : row'.fence = row.fence
  definitionDigest : row'.definitionDigest = row.definitionDigest
  profileDigest : row'.profileDigest = row.profileDigest
  sceneDigest : row'.sceneDigest = row.sceneDigest
  samplingDigest : row'.samplingDigest = row.samplingDigest
  tick : row.tick ≤ row'.tick
  controlRevision : row.controlRevision ≤ row'.controlRevision

omit [LabNumber R] in
theorem RunKeeps.refl (row : RunRow R) : RunKeeps row row :=
  ⟨rfl, rfl, rfl, rfl, rfl, rfl, rfl, le_rfl, le_rfl⟩

omit [LabNumber R] in
theorem RunKeeps.trans {a b c : RunRow R} (first : RunKeeps a b) (second : RunKeeps b c) :
    RunKeeps a c :=
  ⟨second.spec.trans first.spec, second.modelVersion.trans first.modelVersion,
    second.fence.trans first.fence, second.definitionDigest.trans first.definitionDigest,
    second.profileDigest.trans first.profileDigest, second.sceneDigest.trans first.sceneDigest,
    second.samplingDigest.trans first.samplingDigest, first.tick.trans second.tick,
    first.controlRevision.trans second.controlRevision⟩

structure LabKeeps (tables tables' : LabTables R) : Prop where
  labs : ∀ id row, tables.labs.get? id = some row →
    ∃ row', tables'.labs.get? id = some row' ∧ row.currentRevision ≤ row'.currentRevision
  revisions : ∀ key row, tables.revisions.get? key = some row → tables'.revisions.get? key = some row
  runs : ∀ id row, tables.runs.get? id = some row →
    ∃ row', tables'.runs.get? id = some row' ∧ RunKeeps row row'
  commands : ∀ key row, tables.commands.get? key = some row → tables'.commands.get? key = some row
  /-- The commands of a run that are new. -/
  newer : ∀ key row', tables'.commands.get? key = some row' → tables.commands.get? key = some row' ∨
    ∀ row, tables.runs.get? key.1 = some row → row.controlRevision < row'.controlRevision
  outbox : ∀ id row, tables.outbox.get? id = some row → tables'.outbox.get? id = some row

theorem LabKeeps.refl (tables : LabTables R) : LabKeeps tables tables :=
  ⟨fun _ row held => ⟨row, held, le_rfl⟩, fun _ _ held => held, fun _ row held => ⟨row, held, .refl row⟩,
    fun _ _ held => held, fun _ _ held => .inl held, fun _ _ held => held⟩

theorem LabKeeps.trans {a b c : LabTables R} (first : LabKeeps a b) (second : LabKeeps b c) :
    LabKeeps a c where
  labs id row held := by
    obtain ⟨row', held', le⟩ := first.labs id row held
    obtain ⟨row'', held'', le'⟩ := second.labs id row' held'
    exact ⟨row'', held'', le.trans le'⟩
  revisions key row held := second.revisions key row (first.revisions key row held)
  runs id row held := by
    obtain ⟨row', held', keeps⟩ := first.runs id row held
    obtain ⟨row'', held'', keeps'⟩ := second.runs id row' held'
    exact ⟨row'', held'', keeps.trans keeps'⟩
  commands key row held := second.commands key row (first.commands key row held)
  newer key row'' held := by
    rcases second.newer key row'' held with before | later
    · exact first.newer key row'' before
    · refine .inr fun row stored => ?_
      obtain ⟨row', stored', keeps⟩ := first.runs key.1 row stored
      exact keeps.controlRevision.trans_lt (later row' stored')
  outbox id row held := second.outbox id row (first.outbox id row held)

/-- Some command of the run has this accepted sequence. -/
def sequenceTaken (tables : LabTables R) (run : UUID) (accepted : Nat) : Prop :=
  ∃ command row, tables.commands.get? (run, command) = some row ∧ row.acceptedSequence = accepted

/-- The row of a key has not changed. -/
def LabSame (key : LabKey) (tables tables' : LabTables R) : Prop :=
  match key with
  | .lab id => tables'.labs.get? id = tables.labs.get? id
  | .revision lab revision => tables'.revisions.get? (lab, revision) = tables.revisions.get? (lab, revision)
  | .run id => tables'.runs.get? id = tables.runs.get? id
  | .command run command => tables'.commands.get? (run, command) = tables.commands.get? (run, command)
  | .sequence run accepted => sequenceTaken tables' run accepted ↔ sequenceTaken tables run accepted
  | .message id => tables'.outbox.get? id = tables.outbox.get? id

theorem LabSame.refl (key : LabKey) (tables : LabTables R) : LabSame key tables tables := by
  cases key
  case sequence => exact Iff.rfl
  all_goals exact rfl

theorem LabSame.trans {key : LabKey} {a b c : LabTables R} (first : LabSame key a b)
    (second : LabSame key b c) : LabSame key a c := by
  cases key
  case sequence => exact Iff.trans second first
  all_goals exact Eq.trans second first

/-! ### Messages -/

theorem addMessages_other (messages : List (UUID × LabOutboxRow R)) (tables : LabTables R) :
    (addMessages messages tables).labs = tables.labs ∧
      (addMessages messages tables).revisions = tables.revisions ∧
      (addMessages messages tables).baselines = tables.baselines ∧
      (addMessages messages tables).runs = tables.runs ∧
      (addMessages messages tables).commands = tables.commands := by
  induction messages generalizing tables with
  | nil => exact ⟨rfl, rfl, rfl, rfl, rfl⟩
  | cons message messages ih => exact ih _

theorem addMessages_keeps (messages : List (UUID × LabOutboxRow R)) (tables : LabTables R) {id : UUID}
    {row : LabOutboxRow R} (held : tables.outbox.get? id = some row) :
    (addMessages messages tables).outbox.get? id = some row := by
  induction messages generalizing tables with
  | nil => exact held
  | cons message messages ih => exact ih _ (Lib.Table.get?_insertNew_of_some held)

theorem addMessages_ne {messages : List (UUID × LabOutboxRow R)} (tables : LabTables R) {id : UUID}
    (other : id ∉ messages.map Prod.fst) :
    (addMessages messages tables).outbox.get? id = tables.outbox.get? id := by
  induction messages generalizing tables with
  | nil => rfl
  | cons message messages ih =>
      rw [List.map_cons, List.mem_cons, not_or] at other
      exact (ih _ other.2).trans (Lib.Table.get?_insertNew_ne other.1)

/-- New messages go to the end. -/
theorem addMessages_rows {messages : List (UUID × LabOutboxRow R)} {tables : LabTables R}
    (fresh : ∀ message ∈ messages, tables.outbox.get? message.1 = none)
    (distinct : (messages.map Prod.fst).Nodup) :
    (addMessages messages tables).outbox.rows = tables.outbox.rows ++ messages := by
  induction messages generalizing tables with
  | nil => rw [List.append_nil]; rfl
  | cons message messages ih =>
      obtain ⟨first, rest⟩ := List.nodup_cons.mp distinct
      have free := fresh message List.mem_cons_self
      have later : ∀ other ∈ messages,
          (tables.outbox.insertNew message.1 message.2).get? other.1 = none := by
        intro other mem
        have differ : other.1 ≠ message.1 := fun same =>
          first (List.mem_map.mpr ⟨other, mem, same⟩)
        rw [Lib.Table.get?_insertNew_ne differ]
        exact fresh other (List.mem_cons_of_mem _ mem)
      show (addMessages messages
        { tables with outbox := tables.outbox.insertNew message.1 message.2 }).outbox.rows = _
      rw [ih later rest]
      show (tables.outbox.insertNew message.1 message.2).rows ++ messages = _
      rw [Lib.Table.insertNew_rows free]
      simp

end IndustrialReliability
