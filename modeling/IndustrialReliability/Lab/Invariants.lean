import IndustrialReliability.Lab.Changes
import IndustrialReliability.Lab.Readings

/-!
The invariants of the lab tables.

Each is about a part of the tables and is kept by every `LabChange`: the revisions of
a lab are numbered without a gap, a run has the definition and the checkpoint that its
tick says, and its commands are numbered as its counters say.
-/

namespace IndustrialReliability

open LabStore SimulationEngine

variable {R : Type} [LabNumber R]

/-! ### Revisions -/

/-- The current revision of a lab, zero before the first. -/
def currentRevision (tables : LabTables R) (lab : UUID) : Nat :=
  ((tables.labs.get? lab).map (·.currentRevision)).getD 0

structure RevisionsInv (tables : LabTables R) : Prop where
  numbered : ∀ lab revision, (tables.revisions.get? (lab, revision)).isSome = true ↔
    1 ≤ revision ∧ revision ≤ currentRevision tables lab
  own : ∀ lab revision row, tables.revisions.get? (lab, revision) = some row →
    row.definition.labId = lab ∧ row.definition.revision = revision

theorem RevisionsInv.congr {tables tables' : LabTables R} (inv : RevisionsInv tables)
    (labs : tables'.labs = tables.labs) (revisions : tables'.revisions = tables.revisions) :
    RevisionsInv tables' := by
  refine ⟨fun lab revision => ?_, fun lab revision row held => ?_⟩
  · unfold currentRevision
    rw [labs, revisions]
    exact inv.numbered lab revision
  · rw [revisions] at held
    exact inv.own lab revision row held

/-- One more revision of a lab. -/
theorem RevisionsInv.add [Sha256Digest] {tables : LabTables R} {definition : LabDefinition R}
    {before : Nat} (inv : RevisionsInv tables) (tables' : LabTables R)
    (current : currentRevision tables definition.labId = before)
    (next : currentRevision tables' definition.labId = before + 1)
    (others : ∀ lab, lab ≠ definition.labId → currentRevision tables' lab = currentRevision tables lab)
    (revisions : tables'.revisions = tables.revisions) :
    RevisionsInv (addRevision definition before tables') := by
  have free : tables.revisions.get? (definition.labId, before + 1) = none := by
    rw [← Option.not_isSome_iff_eq_none, inv.numbered, current]
    omega
  constructor
  · intro lab revision
    show ((tables'.revisions.insertNew (definition.labId, before + 1) _).get? (lab, revision)).isSome = true ↔
      1 ≤ revision ∧ revision ≤ currentRevision tables' lab
    rw [revisions]
    by_cases here : (lab, revision) = (definition.labId, before + 1)
    · cases here
      rw [Lib.Table.get?_insertNew_self_of_none free, next]
      simp
    · rw [Lib.Table.get?_insertNew_ne here, inv.numbered]
      by_cases same : lab = definition.labId
      · subst same
        have differ : revision ≠ before + 1 := fun equal => here (by rw [equal])
        rw [current, next]
        omega
      · rw [others lab same]
  · intro lab revision row held
    have stored : (tables'.revisions.insertNew (definition.labId, before + 1) _).get? (lab, revision) =
      some row := held
    rw [revisions] at stored
    rcases Lib.Table.get?_insertNew_eq_some stored with old | ⟨same, rfl⟩
    · exact inv.own lab revision row old
    · cases same
      exact ⟨rfl, rfl⟩

theorem currentRevision_of_get? {tables : LabTables R} {lab : UUID} {row : LabRow}
    (held : tables.labs.get? lab = some row) : currentRevision tables lab = row.currentRevision := by
  unfold currentRevision
  rw [held]
  rfl

theorem RevisionsInv.change [Sha256Digest] {call : LabCall R} {tables tables' : LabTables R}
    (inv : RevisionsInv tables) (change : LabChange call tables tables') : RevisionsInv tables' := by
  cases change with
  | nothing => exact inv
  | @firstSave definition expected tables _ free =>
      refine inv.add (addLab definition tables) ?_ ?_ (fun lab differ => ?_) rfl
      · unfold currentRevision
        rw [free]
        rfl
      · have stored : (addLab definition tables).labs.get? definition.labId = some ⟨definition.name, 1⟩ :=
          Lib.Table.get?_insertNew_self_of_none free
        exact currentRevision_of_get? stored
      · show ((tables.labs.insertNew definition.labId _).get? lab |>.map _).getD 0 = _
        rw [Lib.Table.get?_insertNew_ne differ]
        rfl
  | @nextSave definition expected tables row held _ =>
      refine inv.add (updateLab definition (row.currentRevision + 1) tables)
        (currentRevision_of_get? held) ?_ (fun lab differ => ?_) rfl
      · have updated : (updateLab definition (row.currentRevision + 1) tables).labs.get? definition.labId =
            some ⟨definition.name, row.currentRevision + 1⟩ := by
          show (tables.labs.modify definition.labId _).get? definition.labId = _
          rw [Lib.Table.get?_modify_self, held]
          rfl
        exact currentRevision_of_get? updated
      · show ((tables.labs.modify definition.labId _).get? lab |>.map _).getD 0 = _
        rw [Lib.Table.get?_modify_ne differ]
        rfl
  | start => exact inv.congr rfl rfl
  | accept => exact inv.congr rfl rfl
  | @checkpoint run _ tables row _ physical _ messages =>
      have other := addMessages_other messages
        (updateCheckpoint run.runId (newCheckpoint run row.checkpoint physical) 0 tables)
      exact inv.congr other.1 other.2.1
  | status => exact inv.congr rfl rfl

/-! ### Commands -/

/-- The commands of a run, in the order they were stored. -/
def commandsOf (tables : LabTables R) (run : UUID) : List (CommandRow R) :=
  (tables.commands.rows.filter fun row => row.1.1 = run).map Prod.snd

structure CommandsInv (tables : LabTables R) : Prop where
  counters : ∀ run row, tables.runs.get? run = some row →
    row.controlRevision = row.acceptedSequence ∧
      (commandsOf tables run).map (·.acceptedSequence) = List.range' 1 row.acceptedSequence
  stored : ∀ key row, tables.commands.get? key = some row →
    row.controlRevision = row.acceptedSequence ∧ (tables.runs.get? key.1).isSome = true

theorem mem_commandsOf {tables : LabTables R} {run command : UUID} {row : CommandRow R}
    (held : tables.commands.get? (run, command) = some row) : row ∈ commandsOf tables run := by
  have mem := Lib.Table.get?_eq_some_iff.mp held
  exact List.mem_map.mpr ⟨_, List.mem_filter.mpr ⟨mem, decide_eq_true rfl⟩, rfl⟩

/-- A stored command is one of those that the counters count. -/
theorem CommandsInv.counted {tables : LabTables R} (inv : CommandsInv tables) {run command : UUID}
    {row : RunRow R} {stored : CommandRow R} (held : tables.runs.get? run = some row)
    (found : tables.commands.get? (run, command) = some stored) :
    1 ≤ stored.acceptedSequence ∧ stored.acceptedSequence ≤ row.acceptedSequence := by
  have mem : stored.acceptedSequence ∈ (commandsOf tables run).map (·.acceptedSequence) :=
    List.mem_map.mpr ⟨stored, mem_commandsOf found, rfl⟩
  rw [(inv.counters run row held).2, List.mem_range'_1] at mem
  omega

/-- The rows of the runs change, but not their counters. -/
theorem CommandsInv.congr {tables tables' : LabTables R} (inv : CommandsInv tables)
    (commands : tables'.commands = tables.commands)
    (kept : ∀ run row, tables.runs.get? run = some row → (tables'.runs.get? run).isSome = true)
    (counters : ∀ run row', tables'.runs.get? run = some row' →
      (∃ row, tables.runs.get? run = some row ∧ row'.controlRevision = row.controlRevision ∧
        row'.acceptedSequence = row.acceptedSequence) ∨
      tables.runs.get? run = none ∧ row'.controlRevision = 0 ∧ row'.acceptedSequence = 0) :
    CommandsInv tables' := by
  have same : ∀ run, commandsOf tables' run = commandsOf tables run := by
    intro run
    unfold commandsOf
    rw [commands]
  refine ⟨fun run row' held => ?_, fun key row held => ?_⟩
  · rw [same]
    rcases counters run row' held with ⟨row, before, revision, sequence⟩ | ⟨none, revision, sequence⟩
    · rw [revision, sequence]
      exact inv.counters run row before
    · have empty : commandsOf tables run = [] := by
        unfold commandsOf
        rw [List.filter_eq_nil_iff.mpr]
        · rfl
        · rintro ⟨key, row⟩ mem here
          obtain ⟨-, present⟩ := inv.stored key row (Lib.Table.get?_eq_some_iff.mpr mem)
          have its : key.1 = run := of_decide_eq_true here
          rw [its, none] at present
          cases present
      rw [empty, revision, sequence]
      exact ⟨rfl, rfl⟩
  · rw [commands] at held
    obtain ⟨equal, present⟩ := inv.stored key row held
    obtain ⟨run, found⟩ := Option.isSome_iff_exists.mp present
    exact ⟨equal, kept key.1 run found⟩

/-- A change of one run that keeps its counters. -/
theorem CommandsInv.modify {tables tables' : LabTables R} (inv : CommandsInv tables) (run : UUID)
    (f : RunRow R → RunRow R) (counters : ∀ row, (f row).controlRevision = row.controlRevision ∧
      (f row).acceptedSequence = row.acceptedSequence)
    (commands : tables'.commands = tables.commands) (runs : tables'.runs = tables.runs.modify run f) :
    CommandsInv tables' := by
  refine inv.congr commands (fun id row held => ?_) fun id row' held => .inl ?_
  · rw [runs, Option.isSome_iff_exists]
    exact ⟨_, Lib.Table.get?_modify_eq_some.mpr ⟨row, held, rfl⟩⟩
  · rw [runs] at held
    obtain ⟨row, before, rfl⟩ := Lib.Table.get?_modify_eq_some.mp held
    refine ⟨row, before, ?_⟩
    split
    · exact counters row
    · exact ⟨rfl, rfl⟩

/-- An accepted command. -/
theorem CommandsInv.accept {tables : LabTables R} (inv : CommandsInv tables) {run command : UUID}
    {row : RunRow R} {new : CommandRow R} (held : tables.runs.get? run = some row)
    (free : tables.commands.get? (run, command) = none)
    (revision : new.controlRevision = row.controlRevision + 1)
    (sequence : new.acceptedSequence = row.acceptedSequence + 1) :
    CommandsInv (updateCounters run (row.controlRevision + 1) (row.acceptedSequence + 1)
      (addCommand run command new tables)) := by
  have equal := (inv.counters run row held).1
  have rows : (tables.commands.insertNew (run, command) new).rows =
      tables.commands.rows ++ [((run, command), new)] := Lib.Table.insertNew_rows free
  constructor
  · intro id row' held'
    obtain ⟨before, old, rfl⟩ := Lib.Table.get?_modify_eq_some.mp held'
    replace old : tables.runs.get? id = some before := old
    have filtered : commandsOf (updateCounters run (row.controlRevision + 1) (row.acceptedSequence + 1)
        (addCommand run command new tables)) id =
          commandsOf tables id ++ if id = run then [new] else [] := by
      unfold commandsOf
      show (((tables.commands.insertNew (run, command) new).rows.filter _).map _) = _
      rw [rows, List.filter_append, List.map_append]
      by_cases here : id = run
      · simp [here]
      · simp [here, Ne.symm here]
    rw [filtered]
    by_cases here : id = run
    · subst here
      rw [held] at old
      cases old
      simp only [if_true, List.map_append, (inv.counters id row held).2, List.map_cons, List.map_nil,
        sequence]
      refine ⟨by rw [equal], ?_⟩
      rw [List.range'_concat]
      simp [Nat.add_comm]
    · simp only [if_neg here, List.append_nil]
      exact inv.counters id before old
  · intro key stored held'
    have present : ∀ id, (tables.runs.get? id).isSome = true →
        ((updateCounters run (row.controlRevision + 1) (row.acceptedSequence + 1)
          (addCommand run command new tables)).runs.get? id).isSome = true := by
      intro id some
      obtain ⟨before, old⟩ := Option.isSome_iff_exists.mp some
      exact Option.isSome_iff_exists.mpr ⟨_, Lib.Table.get?_modify_eq_some.mpr ⟨before, old, rfl⟩⟩
    rcases Lib.Table.get?_insertNew_eq_some held' with old | ⟨rfl, rfl⟩
    · obtain ⟨same, some⟩ := inv.stored key stored old
      exact ⟨same, present _ some⟩
    · refine ⟨by rw [revision, sequence, equal], present run ?_⟩
      rw [held]
      rfl

theorem CommandsInv.change [Sha256Digest] {call : LabCall R} {tables tables' : LabTables R}
    (inv : CommandsInv tables) (change : LabChange call tables tables') : CommandsInv tables' := by
  have kept : ∀ run row, tables.runs.get? run = some row → (tables.runs.get? run).isSome = true :=
    fun run row held => Option.isSome_iff_exists.mpr ⟨row, held⟩
  cases change with
  | nothing => exact inv
  | firstSave => exact inv.congr rfl kept fun _ row held => .inl ⟨row, held, rfl, rfl⟩
  | nextSave => exact inv.congr rfl kept fun _ row held => .inl ⟨row, held, rfl, rfl⟩
  | start found eligible free =>
      refine inv.congr rfl (fun id row held => ?_) fun id row' held => ?_
      · exact Option.isSome_iff_exists.mpr ⟨row, Lib.Table.get?_insertNew_of_some held⟩
      · rcases Lib.Table.get?_insertNew_eq_some held with old | ⟨rfl, rfl⟩
        · exact .inl ⟨row', old, rfl, rfl⟩
        · exact .inr ⟨free, rfl, rfl⟩
  | accept _ held _ _ free => exact inv.accept held free rfl rfl
  | @checkpoint run _ tables row _ physical _ messages =>
      have other := addMessages_other messages
        (updateCheckpoint run.runId (newCheckpoint run row.checkpoint physical) 0 tables)
      have inner : CommandsInv
          (updateCheckpoint run.runId (newCheckpoint run row.checkpoint physical) 0 tables) :=
        inv.modify run.runId (fun before => { before with
          tick := (newCheckpoint run row.checkpoint physical).tick
          checkpoint := newCheckpoint run row.checkpoint physical
          eventSequence := before.eventSequence + 0 }) (fun _ => ⟨rfl, rfl⟩) rfl rfl
      refine inner.congr other.2.2.2.2 (fun id row held => ?_) fun id row held => .inl ⟨row, ?_, rfl, rfl⟩
      · rw [other.2.2.2.1, held]
        rfl
      · rw [← other.2.2.2.1]
        exact held
  | status run status tables =>
      exact inv.modify run (fun row => { row with status }) (fun _ => ⟨rfl, rfl⟩) rfl rfl

end IndustrialReliability
