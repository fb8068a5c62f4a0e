import IndustrialReliability.Lab.Protocol

/-!
The calls of the lab store keep its protocol.

Each program is followed statement by statement; between two of its statements any
commits of others may come, and what its locks hold stays as it was read.
-/

namespace IndustrialReliability

open LabStore SimulationEngine

variable {R : Type} [LabNumber R] [Sha256Digest] {permits : LabPermits R}
  {call : LabCall R} {held : List LabKey} {writes : LabTables R → LabTables R}
  {commits : List (LabTables R × LabTables R)} {tables tables' : LabTables R}

/-- The commits of others, to a client that holds some rows. -/
abbrev LabOthers (permits : LabPermits R) (held : List LabKey) (tables tables' : LabTables R) : Prop :=
  (labProtocol permits).Others held tables tables'

/-- The rest of a call keeps the protocol. -/
abbrev LabVerified (permits : LabPermits R) (call : LabCall R) (program : LabProgram R)
    (held : List LabKey) (writes : LabTables R → LabTables R)
    (commits : List (LabTables R × LabTables R)) (tables : LabTables R) : Prop :=
  (labProtocol permits).Verified call program held writes commits tables

/-! ### Locks -/

theorem others_lab {lab : UUID} (others : LabOthers permits held tables tables') (mem : .lab lab ∈ held) :
    tables'.labs.get? lab = tables.labs.get? lab := others.same _ mem

theorem others_run {run : UUID} (others : LabOthers permits held tables tables') (mem : .run run ∈ held) :
    tables'.runs.get? run = tables.runs.get? run := others.same _ mem

theorem others_command {run command : UUID} (others : LabOthers permits held tables tables')
    (mem : .command run command ∈ held) :
    tables'.commands.get? (run, command) = tables.commands.get? (run, command) := others.same _ mem

theorem others_message {id : UUID} (others : LabOthers permits held tables tables')
    (mem : .message id ∈ held) : tables'.outbox.get? id = tables.outbox.get? id := others.same _ mem

/-! ### Commits -/

/-- A commit that is a change of the rows that are held. -/
theorem lab_commits {after : LabTables R} (inv : LabInv tables) (change : LabChange call tables after)
    (same : ∀ key, key ∉ held → LabSame key tables after) :
    (labProtocol permits).Commits call held tables after :=
  ⟨inv.change change, change.keeps inv, same, change⟩

/-- A call that has written nothing returns. -/
theorem verified_ret {answer : LabAnswer R}
    (answered : ∀ tables', LabOthers permits held tables tables' → Answered tables' call answer) :
    LabVerified permits call (.ret answer) held id commits tables := fun tables' others _ =>
  ⟨lab_commits others.inv (.nothing call tables') fun key _ => LabSame.refl key tables',
    answered tables' others⟩

omit [Sha256Digest] in
theorem unchanged_nil {call : LabCall R} : call.Atomic →
    ∀ commit ∈ ([] : List (LabTables R × LabTables R)), commit.1 = commit.2 :=
  fun _ _ mem => absurd mem List.not_mem_nil

/-- A call that has changed nothing fails; it submits no command. -/
theorem verified_raise {error : LabError R}
    (unchanged : call.Atomic → ∀ commit ∈ commits, commit.1 = commit.2)
    (other : ∀ run request, call ≠ .submitCommand run request) :
    LabVerified permits call (.raise error) held writes commits tables := fun _ _ _ =>
  ⟨unchanged, fun run request same => absurd same (other run request)⟩

/-! ### `get_lab` and `get_run` -/

omit [Sha256Digest] in
theorem get?_of_getLab {lab : UUID} {revision : Option Nat} {definition : LabDefinition R}
    (inv : RevisionsInv tables) (found : tables.getLab lab revision = some definition) : ∃ row,
      tables.revisions.get? (lab, definition.revision) = some row ∧ row.definition = definition := by
  obtain ⟨number, row, stored, rfl⟩ : ∃ number row,
      tables.revisions.get? (lab, number) = some row ∧ row.definition = definition := by
    cases revision with
    | some number => exact ⟨number, Option.map_eq_some_iff.mp found⟩
    | none =>
        obtain ⟨number, -, rest⟩ := Option.bind_eq_some_iff.mp found
        exact ⟨number, Option.map_eq_some_iff.mp rest⟩
  rw [(inv.own lab number row stored).2]
  exact ⟨row, stored, rfl⟩

omit [Sha256Digest] in
theorem runStored_of_getRun {run : SimulationRun R} {id : UUID} (found : tables.getRun id = some run) :
    run.runId = id ∧ RunStored tables run := by
  have named : run.runId = id := by
    obtain ⟨row, -, rest⟩ := Option.bind_eq_some_iff.mp found
    obtain ⟨revision, -, same⟩ := Option.bind_eq_some_iff.mp rest
    cases same
    rfl
  exact ⟨named, run, by rw [named, found], rfl, rfl⟩

theorem verified_getLab (lab : UUID) (revision : Option Nat) :
    LabVerified permits (.getLab lab revision) (LabStore.getLab lab revision) [] id commits tables :=
  Lib.Protocol.verified_select fun _ read _ => verified_ret fun _ later =>
    Answered.mono (fun _ found => get?_of_getLab read.inv.revisions found) later.keeps

theorem verified_getRun (run : UUID) :
    LabVerified permits (.getRun run) (LabStore.getRun run) [] id commits tables :=
  Lib.Protocol.verified_select fun _ _ _ => verified_ret fun _ later =>
    Answered.mono (fun _ found => runStored_of_getRun found) later.keeps

theorem verified_setStatus (run : UUID) (status : RunStatus) :
    LabVerified permits (.setStatus run status) (LabStore.setStatus run status) [] id commits tables := by
  intro tables₀ _ _
  cases found : tables₀.runs.get? run with
  | none =>
      simp only [id, found]
      refine ⟨fun _ failed => (by cases failed), fun write ran => ?_⟩
      cases ran
      exact verified_ret fun _ _ => trivial
  | some row =>
      simp only [id, found]
      refine ⟨fun _ failed => (by cases failed), fun write ran tables₁ others _ => ?_⟩
      cases ran
      refine ⟨lab_commits others.inv (.status run status tables₁) fun key away => ?_, trivial⟩
      exact same_modifyRun fun here => away (here ▸ List.mem_cons_self)

/-! ### `save_lab` -/

theorem insertRevision_eq_ok {definition : LabDefinition R} {before : Nat}
    {write : LabTables R → LabTables R} (ran : insertRevision { definition with
      revision := before + 1
      revision_pos := Nat.succ_pos before } (computeDefinitionDigest definition) tables = .ok write) :
    write = addRevision definition before := by
  unfold insertRevision at ran
  dsimp only at ran
  split_ifs at ran
  exact (Except.ok.inj ran).symm

omit [Sha256Digest] in
theorem insertLab_eq_ok {definition : LabDefinition R} {write : LabTables R → LabTables R}
    (ran : insertLab definition tables = .ok write) :
    tables.labs.get? definition.labId = none ∧ write = addLab definition := by
  unfold insertLab at ran
  split_ifs at ran with taken
  exact ⟨Option.not_isSome_iff_eq_none.mp taken, (Except.ok.inj ran).symm⟩

/-- The revision row of a save, whose lab row has been written. -/
theorem verified_saveRevision {definition : LabDefinition R} {expected : Int} {before : Nat}
    {update : LabTables R → LabTables R} (mem : .lab definition.labId ∈ held)
    (change : ∀ tables', LabOthers permits held tables tables' →
      currentRevision tables' definition.labId = before ∧
      LabChange (.saveLab definition expected) tables' (addRevision definition before (update tables')) ∧
      (update tables').revisions = tables'.revisions ∧
      ∀ key, key ≠ .lab definition.labId → LabSame key tables' (update tables')) :
    LabVerified permits (.saveLab definition expected)
      (saveRevision definition (computeDefinitionDigest definition) before) held update [] tables := by
  refine Lib.Protocol.verified_write (fun _ _ _ _ => ⟨unchanged_nil, by simp⟩) ?_
  intro tables₁ write others ran
  cases insertRevision_eq_ok ran
  intro tables₂ later _
  have both : LabOthers permits held tables tables₂ := others.trans
    ⟨later.inv, later.keeps, fun key mem => later.same key (List.mem_append_right _ mem)⟩
  obtain ⟨current, saves, revisions, same⟩ := change tables₂ both
  refine ⟨lab_commits later.inv saves fun key away => ?_, rfl, ⟨_, computeDefinitionDigest definition⟩, ?_, rfl⟩
  · rw [List.mem_append, not_or, List.mem_singleton] at away
    have elsewhere : key ≠ .lab definition.labId := fun here => away.2 (here ▸ mem)
    exact (same key elsewhere).trans (same_addRevision away.1)
  · have free : tables₂.revisions.get? (definition.labId, before + 1) = none := by
      rw [← Option.not_isSome_iff_eq_none, later.inv.revisions.numbered, current]
      omega
    show ((update tables₂).revisions.insertNew (definition.labId, before + 1) _).get?
      (definition.labId, before + 1) = _
    rw [revisions]
    exact Lib.Table.get?_insertNew_self_of_none free

theorem verified_saveLab (definition : LabDefinition R) (expected : Int) :
    LabVerified permits (.saveLab definition expected) (LabStore.saveLab definition expected) [] id []
      tables := by
  refine Lib.Protocol.verified_lock fun tables₀ _ _ => ?_
  rw [id_eq]
  cases held : tables₀.labs.get? definition.labId with
  | none =>
      dsimp only
      split
      · exact verified_raise unchanged_nil (by simp)
      · rename_i expects
        refine Lib.Protocol.verified_write (fun _ _ _ _ => ⟨unchanged_nil, by simp⟩) ?_
        intro tables₁ write _ ran
        obtain ⟨free, rfl⟩ := insertLab_eq_ok ran
        refine verified_saveRevision (List.mem_append_left _ List.mem_cons_self) fun tables₂ others => ?_
        have still : tables₂.labs.get? definition.labId = none :=
          (others_lab others (List.mem_append_left _ List.mem_cons_self)).trans free
        refine ⟨?_, .firstSave (by omega) still, rfl, fun key other => same_addLab other⟩
        unfold currentRevision
        rw [still]
        rfl
  | some row =>
      dsimp only
      split
      · exact verified_raise unchanged_nil (by simp)
      · rename_i expects
        refine Lib.Protocol.verified_write (fun _ _ _ failed => by cases failed) ?_
        intro tables₁ write others ran
        cases ran
        have locked : LabKey.lab definition.labId ∈
            [LabKey.lab definition.labId] ++ ([] : List LabKey) := List.mem_cons_self
        refine verified_saveRevision (List.mem_append_left _ List.mem_cons_self) fun tables₂ later => ?_
        have still : tables₂.labs.get? definition.labId = some row :=
          (others_lab later (List.mem_append_left _ List.mem_cons_self)).trans
            ((others_lab others locked).trans held)
        exact ⟨currentRevision_of_get? still, .nextSave still (not_not.mp expects), rfl,
          fun key other => same_updateLab other⟩

/-! ### `start_run` -/

omit [Sha256Digest] in
theorem insertRun_eq_ok {id : UUID} {row : RunRow R} {write : LabTables R → LabTables R}
    (ran : insertRun id row tables = .ok write) : tables.runs.get? id = none ∧ write = addRun id row := by
  unfold insertRun at ran
  split_ifs at ran with taken
  exact ⟨Option.not_isSome_iff_eq_none.mp taken, (Except.ok.inj ran).symm⟩

theorem verified_createRun {spec : RunSpec} {runId : Option UUID} {fresh : UUID}
    (unchanged : ∀ commit ∈ commits, commit.1 = commit.2) {found : Option (LabDefinition R)}
    (read : ∀ definition, found = some definition → ∃ row,
      tables.revisions.get? (spec.labId, spec.labRevision) = some row ∧ row.definition = definition) :
    LabVerified permits (.startRun spec runId fresh) (createRun spec (runId.getD fresh) found) [] id
      commits tables := by
  cases found with
  | none => exact verified_raise (fun _ => unchanged) nofun
  | some definition =>
      obtain ⟨revision, stored, rfl⟩ := read definition rfl
      unfold createRun
      dsimp only
      split
      · exact verified_raise (fun _ => unchanged) nofun
      · rename_i passed
        have eligible : (validateLab revision.definition).runEligible = true := by
          simpa using passed
        refine Lib.Protocol.verified_write (fun _ _ _ _ => ⟨fun _ => unchanged, nofun⟩) ?_
        intro tables₁ write others ran
        obtain ⟨free, rfl⟩ := insertRun_eq_ok ran
        intro tables₂ later _
        have still : tables₂.runs.get? (runId.getD fresh) = none :=
          (others_run later (List.mem_append_left _ List.mem_cons_self)).trans free
        have found := later.keeps.revisions _ _ (others.keeps.revisions _ _ stored)
        refine ⟨lab_commits later.inv (.start found eligible still) fun key away => ?_, ?_, eligible⟩
        · exact same_addRun fun here => away (List.mem_append_left _ (here ▸ List.mem_cons_self))
        · refine ⟨LabTables.toRun (runId.getD fresh) (newRunRow spec revision.definition)
            revision.definition, ?_, rfl, rfl⟩
          exact Option.bind_eq_some_iff.mpr ⟨_, Lib.Table.get?_insertNew_self_of_none still,
            Option.bind_eq_some_iff.mpr ⟨revision, found, rfl⟩⟩

theorem verified_startRun (spec : RunSpec) (runId : Option UUID) (fresh : UUID) :
    LabVerified permits (.startRun spec runId fresh) (LabStore.startRun spec runId fresh) [] id []
      tables := by
  refine Lib.Protocol.verified_select fun tables₀ _ _ tables₁ others _ => ⟨?_, ?_⟩
  · exact lab_commits others.inv (.nothing _ tables₁) fun key _ => LabSame.refl key tables₁
  · refine verified_createRun (fun commit mem => ?_) fun definition found => ?_
    · rw [List.nil_append, List.mem_singleton] at mem
      rw [mem]
      rfl
    · obtain ⟨row, stored, same⟩ := Option.map_eq_some_iff.mp found
      exact ⟨row, others.keeps.revisions _ _ stored, same⟩

/-! ### `submit_command` -/

section Submit

variable {run : UUID} {request : CommandRequest R}

omit [Sha256Digest] in
/-- Inserting a command fails for a key that is taken. -/
theorem insertCommand_eq_error {command : UUID} {row : CommandRow R} {error : LabError R}
    (failed : insertCommand run command row tables = .error error) :
    (∃ key, error = .uniqueViolation key) ∧ (tables.commands.get? (run, command)).isSome = true ∨
      sequenceTaken tables run row.acceptedSequence ∨ tables.runs.get? run = none := by
  unfold insertCommand at failed
  split_ifs at failed with taken sequence missing
  · exact .inl ⟨⟨_, (Except.error.inj failed).symm⟩, taken⟩
  · obtain ⟨⟨key, other⟩, mem, its⟩ := List.any_eq_true.mp sequence
    rw [Bool.and_eq_true, decide_eq_true_eq, decide_eq_true_eq] at its
    obtain ⟨rfl, same⟩ := its
    exact .inr (.inl ⟨key.2, other, Lib.Table.get?_eq_some_iff.mpr mem, same⟩)
  · exact .inr (.inr (Option.isNone_iff_eq_none.mp missing))

omit [Sha256Digest] in
theorem insertCommand_eq_ok {command : UUID} {row : CommandRow R}
    {write : LabTables R → LabTables R} (ran : insertCommand run command row tables = .ok write) :
    tables.commands.get? (run, command) = none ∧ write = addCommand run command row := by
  unfold insertCommand at ran
  split_ifs at ran with taken
  exact ⟨Option.not_isSome_iff_eq_none.mp taken, (Except.ok.inj ran).symm⟩

/-- A submission fails without a change. -/
theorem submission_failed {error : LabError R}
    (found : SubmitError permits run request tables error) :
    Failed permits (.submitCommand run request) [] error tables := by
  refine ⟨unchanged_nil, fun run' request' same => ?_⟩
  cases same
  exact found

/-- From the lock of the run on. -/
theorem verified_lockRun (finite : (JsonValue.object request.parameters.rows).isFinite = true) :
    LabVerified permits (.submitCommand run request) (lockRun run request) [] id [] tables := by
  refine Lib.Protocol.verified_lock fun locked others permitted => ?_
  have fails : ∀ {tables' error}, LabKeeps locked tables' → LockError run request locked error →
      (∀ command, error ≠ .commandIdentityConflict command) → error ≠ .notJson →
        Failed permits (.submitCommand run request) [] error tables' := by
    intro tables' error keeps found identity json
    refine submission_failed ?_
    have locking : ∃ locked, LabInv locked ∧ LabKeeps locked tables' ∧
        permits (.submitCommand run request) (lockRun run request) locked ∧
          LockError run request locked error := ⟨locked, others.inv, keeps, permitted, found⟩
    cases error with
    | commandIdentityConflict command => exact absurd rfl (identity command)
    | notJson => exact absurd rfl json
    | _ => exact locking
  rw [id_eq]
  cases held : locked.runs.get? run with
  | none => exact fun _ later _ => fails later.keeps held (by simp) (by simp)
  | some row =>
      dsimp only
      split
      · rename_i terminal
        exact fun _ later _ => fails later.keeps ⟨row, held, terminal⟩ (by simp) (by simp)
      · rename_i running
        split
        · rename_i conflict
          exact fun _ later _ => fails later.keeps ⟨row, held, running, conflict⟩ (by simp) (by simp)
        · rename_i expects
          have isLocked : LabKey.run run ∈ [LabKey.run run] ++ ([] : List LabKey) :=
            List.mem_cons_self
          refine Lib.Protocol.verified_write (fun tables₁ error later failed => ?_) ?_
          · have still := (others_run later isLocked).trans held
            rcases insertCommand_eq_error failed with ⟨⟨key, rfl⟩, taken⟩ | sequence | missing
            · refine fails later.keeps ?_ (by simp) (by simp)
              obtain ⟨stored, found⟩ := Option.isSome_iff_exists.mp taken
              rcases later.keeps.newer _ _ found with before | newer
              · exact Option.isSome_iff_exists.mpr ⟨stored, before⟩
              · -- A newer command would have counted.
                have above := newer row held
                have counted := later.inv.commands.counted still found
                have counters := (later.inv.commands.counters run row still).1
                have equal := (later.inv.commands.stored _ _ found).1
                omega
            · obtain ⟨command, stored, found, same⟩ := sequence
              have counted := later.inv.commands.counted still found
              have next : stored.acceptedSequence = row.acceptedSequence + 1 := same
              omega
            · cases missing.symm.trans still
          · intro tables₁ write later ran
            obtain ⟨free, rfl⟩ := insertCommand_eq_ok ran
            refine Lib.Protocol.verified_write (fun _ _ _ failed => by cases failed) ?_
            intro tables₂ write' later' ran'
            cases ran'
            intro tables₃ last _
            have rest := later'.trans ⟨last.inv, last.keeps,
              fun key mem => last.same key (List.mem_append_right _ mem)⟩
            have still : tables₃.runs.get? run = some row :=
              (others_run rest (List.mem_append_right _ isLocked)).trans
                ((others_run later isLocked).trans held)
            have unused : tables₃.commands.get? (run, request.commandId) = none :=
              (others_command rest (List.mem_append_left _ List.mem_cons_self)).trans free
            have change := LabChange.accept finite still running (not_not.mp expects) unused
            refine ⟨lab_commits last.inv change fun key away => ?_, _,
              Lib.Table.get?_insertNew_self_of_none unused, rfl, rfl⟩
            simp only [List.mem_append, List.mem_cons, not_or] at away
            exact (same_addCommand away.2.1.1 away.2.1.2.1).trans (same_modifyRun away.1.1)

theorem verified_submitCommand (run : UUID) (request : CommandRequest R) :
    LabVerified permits (.submitCommand run request) (LabStore.submitCommand run request) [] id []
      tables := by
  unfold LabStore.submitCommand
  split
  · rename_i infinite
    exact fun _ _ _ => submission_failed infinite
  · rename_i finite
    refine Lib.Protocol.verified_select fun tables₀ _ _ => ?_
    rw [id_eq]
    cases held : tables₀.commands.get? (run, request.commandId) with
    | none => exact verified_lockRun (by simpa using finite)
    | some row =>
        dsimp only
        split
        · rename_i differ
          exact fun _ later _ => submission_failed ⟨row, later.keeps.commands _ _ held, differ⟩
        · rename_i same
          exact verified_ret fun _ later => ⟨row, later.keeps.commands _ _ held, not_not.mp same, rfl⟩

end Submit

end IndustrialReliability
