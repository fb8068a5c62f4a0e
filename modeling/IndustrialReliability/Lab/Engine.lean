import IndustrialReliability.Lab.Verified

/-!
`run_once` keeps the protocol of the lab tables.

The loop carries a checkpoint that the uninterrupted simulation passes. Its update
finds the row of the run only at the tick of that checkpoint, and there the row holds
the same state; so what it commits continues the simulation of the row.
-/

namespace IndustrialReliability

open LabStore SimulationEngine

variable {R : Type} [LabNumber R] [Sha256Digest] {permits : LabPermits R} {held : List LabKey}
  {commits : List (LabTables R × LabTables R)} {tables tables' : LabTables R} {run : SimulationRun R}
  {messageIds : Nat → UUID}

/-- The run is that of its row. -/
def IsRunOf (run : SimulationRun R) (row : RunRow R) : Prop :=
  run = { LabTables.toRun run.runId row run.definition with
    status := run.status
    tick := run.tick
    controlRevision := run.controlRevision
    eventSequence := run.eventSequence }

/-- The run that is given is one of the store, which has come to a tick at least. -/
structure Given (tables : LabTables R) (run : SimulationRun R) (row : RunRow R) : Prop where
  stored : tables.runs.get? run.runId = some row
  run_of : IsRunOf run row
  definition : ∃ revision, tables.revisions.get? (row.spec.labId, row.spec.labRevision) = some revision ∧
    revision.definition = run.definition

omit [Sha256Digest] in
theorem Given.mono {row : RunRow R} (given : Given tables run row) (keeps : LabKeeps tables tables') :
    ∃ row', Given tables' run row' ∧ row.tick ≤ row'.tick := by
  obtain ⟨row', stored, kept⟩ := keeps.runs _ _ given.stored
  obtain ⟨revision, found, same⟩ := given.definition
  refine ⟨row', ⟨stored, ?_, revision, ?_, same⟩, kept.tick⟩
  · have before := given.run_of
    unfold IsRunOf LabTables.toRun at before ⊢
    rw [kept.spec, kept.modelVersion, kept.definitionDigest, kept.profileDigest, kept.sceneDigest,
      kept.samplingDigest]
    exact before
  · rw [kept.spec]
    exact keeps.revisions _ _ found

omit [Sha256Digest] in
theorem given_of_admissible (admissible : (LabCall.runOnce run messageIds).Admissible tables) :
    ∃ row, Given tables run row := by
  obtain ⟨now, found, same⟩ := admissible
  obtain ⟨row, stored, rest⟩ := Option.bind_eq_some_iff.mp found
  obtain ⟨revision, there, made⟩ := Option.bind_eq_some_iff.mp rest
  cases made
  refine ⟨row, stored, ?_, revision, there, ?_⟩
  · unfold IsRunOf
    rw [same]
    rfl
  · rw [same]
    rfl

/-- The uninterrupted simulation passes the checkpoint. -/
structure Passes (run : SimulationRun R) (checkpoint : EngineCheckpoint R) : Prop where
  controls : checkpoint.controls = .initial
  scanned : checkpoint.acceptedScannedSequence = 0
  physical : physicalAt run.definition checkpoint.tick = some checkpoint.physical

/-- The row of a run holds a checkpoint that its simulation passes. -/
theorem Given.passes {row : RunRow R} (given : Given tables run row) (inv : RunsInv tables) :
    Passes run row.checkpoint ∧ row.checkpoint.tick = row.tick := by
  obtain ⟨revision, found, own⟩ := inv.runs _ _ given.stored
  obtain ⟨_, same, definition⟩ := given.definition
  cases found.symm.trans same
  refine ⟨⟨own.controls, own.scanned, ?_⟩, own.tick⟩
  rw [← definition, own.tick]
  exact own.physical

/-! ### Messages -/

omit [Sha256Digest] in
theorem addMessages_concat (messages : List (UUID × LabOutboxRow R)) (id : UUID) (row : LabOutboxRow R)
    (tables : LabTables R) : addMessages (messages ++ [(id, row)]) tables =
      let before := addMessages messages tables
      { before with outbox := before.outbox.insertNew id row } := List.foldl_append

omit [Sha256Digest] in
theorem addMessages_taken {messages : List (UUID × LabOutboxRow R)} {id : UUID}
    (mem : id ∈ messages.map Prod.fst) (tables : LabTables R) :
    (addMessages messages tables).outbox.get? id ≠ none := by
  induction messages generalizing tables with
  | nil => cases mem
  | cons message messages ih =>
      rcases List.mem_cons.mp mem with rfl | mem
      · have inserted := Lib.Table.isSome_get?_insertNew_self tables.outbox message.1 message.2
        obtain ⟨row, there⟩ := Option.isSome_iff_exists.mp inserted
        have kept := addMessages_keeps messages
          { tables with outbox := tables.outbox.insertNew message.1 message.2 } there
        exact fun none => (nomatch kept.symm.trans none)
      · exact ih mem _

omit [Sha256Digest] in
theorem insertMessage_eq_ok {id : UUID} {row : LabOutboxRow R} {write : LabTables R → LabTables R}
    (ran : insertMessage id row tables = .ok write) : tables.outbox.get? id = none ∧
      write = fun tables => { tables with outbox := tables.outbox.insertNew id row } := by
  unfold insertMessage at ran
  split_ifs at ran with taken
  exact ⟨Option.not_isSome_iff_eq_none.mp taken, (Except.ok.inj ran).symm⟩

/-- A failure of `run_once`. -/
theorem runOnce_failed (error : LabError R) : Failed permits (.runOnce run messageIds) commits error tables :=
  ⟨fun atomic => atomic.elim, nofun⟩

/-- The messages of a checkpoint, after those that are done. -/
theorem verified_insertMessages {last : LabProgram R} {update : LabTables R → LabTables R}
    (outbox : ∀ tables, (update tables).outbox = tables.outbox) {pending : List (UUID × LabOutboxRow R)} :
    ∀ (done : List (UUID × LabOutboxRow R)) {held : List LabKey} {tables : LabTables R},
      (done.map Prod.fst).Nodup → (∀ message ∈ done, tables.outbox.get? message.1 = none) →
      (∀ message ∈ done, .message message.1 ∈ held) →
      (∀ tables' held', LabOthers permits held tables tables' → (∀ key ∈ held, key ∈ held') →
        (∀ message ∈ done ++ pending, .message message.1 ∈ held') →
        (∀ message ∈ done ++ pending, tables'.outbox.get? message.1 = none) →
        ((done ++ pending).map Prod.fst).Nodup →
          LabVerified permits (.runOnce run messageIds) last held' (addMessages (done ++ pending) ∘ update)
            commits tables') →
      LabInv tables →
      LabVerified permits (.runOnce run messageIds) (insertMessages last pending) held
        (addMessages done ∘ update) commits tables := by
  induction pending with
  | nil =>
      intro done held tables distinct fresh locked finish inv
      rw [List.append_nil] at finish
      exact finish tables held (.refl inv held) (fun _ mem => mem) locked fresh distinct
  | cons message pending ih =>
      obtain ⟨id, row⟩ := message
      intro done held tables distinct fresh locked finish inv
      refine Lib.Protocol.verified_write (fun _ error _ _ => runOnce_failed error) ?_
      intro tables₁ write others ran
      obtain ⟨free, rfl⟩ := insertMessage_eq_ok ran
      have unused : tables₁.outbox.get? id = none := by
        cases there : tables₁.outbox.get? id with
        | none => rfl
        | some old =>
            have kept : (addMessages done (update tables₁)).outbox.get? id = some old :=
              addMessages_keeps done (update tables₁) (by rw [outbox, there])
            cases kept.symm.trans free
      have new : id ∉ done.map Prod.fst := fun mem => addMessages_taken mem (update tables₁) free
      have composed : (fun tables : LabTables R => { tables with
          outbox := tables.outbox.insertNew id row }) ∘ (addMessages done ∘ update) =
            addMessages (done ++ [(id, row)]) ∘ update :=
        funext fun tables => (addMessages_concat done id row (update tables)).symm
      rw [composed]
      refine ih _ ?_ (fun message mem => ?_) (fun message mem => ?_) ?_ others.inv
      · rw [List.map_append]
        refine List.nodup_append.mpr ⟨distinct, List.nodup_singleton _, fun a old b here same => ?_⟩
        rw [same, List.mem_singleton.mp here] at old
        exact new old
      · rcases List.mem_append.mp mem with old | here
        · exact (others_message others (locked message old)).trans (fresh message old)
        · rw [List.mem_singleton.mp here]
          exact unused
      · rcases List.mem_append.mp mem with old | here
        · exact List.mem_append_right _ (locked message old)
        · rw [List.mem_singleton.mp here]
          exact List.mem_cons_self
      · intro tables₂ held' later keeps
        rw [List.append_assoc]
        have both : LabOthers permits held tables tables₂ := others.trans
          ⟨later.inv, later.keeps, fun key mem => later.same key (List.mem_append_right _ mem)⟩
        exact finish tables₂ held' both fun key mem => keeps key (List.mem_append_right _ mem)

/-- All messages of a checkpoint, whose run is updated. -/
theorem verified_checkpointMessages {last : LabProgram R} (update : LabTables R → LabTables R)
    (outbox : ∀ tables, (update tables).outbox = tables.outbox) (messages : List (UUID × LabOutboxRow R))
    (inv : LabInv tables)
    (finish : ∀ tables' held', LabOthers permits held tables tables' → (∀ key ∈ held, key ∈ held') →
      (∀ message ∈ messages, .message message.1 ∈ held') →
      (∀ message ∈ messages, tables'.outbox.get? message.1 = none) → (messages.map Prod.fst).Nodup →
        LabVerified permits (.runOnce run messageIds) last held' (addMessages messages ∘ update)
          commits tables') :
    LabVerified permits (.runOnce run messageIds) (insertMessages last messages) held update commits
      tables := by
  have none_done : ∀ message ∈ ([] : List (UUID × LabOutboxRow R)), False := fun _ mem => (nomatch mem)
  exact verified_insertMessages outbox [] List.nodup_nil (fun _ mem => (none_done _ mem).elim)
    (fun _ mem => (none_done _ mem).elim) finish inv

/-! ### The loop -/

omit [Sha256Digest] in
theorem fencedRun_eq_some {id : UUID} {fence expectedTick : Nat} {row : RunRow R}
    (found : fencedRun id fence expectedTick tables = some row) :
    tables.runs.get? id = some row ∧ row.fence = fence ∧ row.tick = expectedTick := by
  obtain ⟨stored, its⟩ := Option.filter_eq_some_iff.mp found
  exact ⟨stored, of_decide_eq_true its⟩

/-- The messages of a batch. -/
def batchMessages (run : UUID) (messageIds : Nat → UUID) (observed : List (Observation R)) :
    List (UUID × LabOutboxRow R) :=
  observed.zipIdx.map fun (observation, index) => (messageIds index, outboxRow run observation)

omit [LabNumber R] [Sha256Digest] in
theorem batchMessages_rows (run : UUID) (messageIds : Nat → UUID) (observed : List (Observation R)) :
    (batchMessages run messageIds observed).map Prod.snd = observed.map (outboxRow run) := by
  unfold batchMessages
  rw [List.map_map]
  calc observed.zipIdx.map (Prod.snd ∘ fun entry => (messageIds entry.2, outboxRow run entry.1))
      = (observed.zipIdx.map Prod.fst).map (outboxRow run) := by rw [List.map_map]; rfl
    _ = observed.map (outboxRow run) := by rw [List.zipIdx_map_fst]

/-- Where the row of the run is at the tick of the checkpoint, the batch is one from that row. -/
theorem batched_of_passes {network : CompiledNetwork R} {before : EngineCheckpoint R} {row : RunRow R}
    {ticks : Nat} {physical : PhysicalState R} {observed : List (Observation R)} (inv : LabInv tables)
    (given : Given tables run row) (passes : Passes run before) (here : row.tick = before.tick)
    (compiled : compileLab run.definition run.dt = .ok network)
    (ran : batch network run before.controls ticks before.physical = .ok (physical, observed))
    (ticks_pos : 0 < ticks) (in_time : before.tick + ticks ≤ run.spec.maxTicks.getD 1000) :
    Batched tables run row ticks physical observed ∧
      newCheckpoint run before physical = newCheckpoint run row.checkpoint physical := by
  obtain ⟨own, tick⟩ := given.passes inv.runs
  have controls : before.controls = row.checkpoint.controls := passes.controls.trans own.controls.symm
  have there := own.physical
  rw [tick, here, passes.physical] at there
  rw [controls, Option.some.inj there] at ran
  refine ⟨⟨given.stored, given.run_of, given.definition, ticks_pos, here ▸ in_time, network, compiled, ran⟩, ?_⟩
  unfold newCheckpoint
  rw [controls, passes.scanned, own.scanned]

/-- The commit of a checkpoint, and where the loop is after it. -/
theorem commits_checkpoint (permits : LabPermits R) (messageIds : Nat → UUID) {row : RunRow R}
    {ticks : Nat} {physical : PhysicalState R} {observed : List (Observation R)}
    {messages : List (UUID × LabOutboxRow R)} (inv : LabInv tables)
    (batched : Batched tables run row ticks physical observed)
    (rows : messages.map Prod.snd = observed.map (outboxRow run.runId))
    (fresh : ∀ message ∈ messages, tables.outbox.get? message.1 = none)
    (distinct : (messages.map Prod.fst).Nodup) (locked : .run run.runId ∈ held)
    (keys : ∀ message ∈ messages, .message message.1 ∈ held) :
    let after := addMessages messages
      (updateCheckpoint run.runId (newCheckpoint run row.checkpoint physical) 0 tables)
    (labProtocol permits).Commits (.runOnce run messageIds) held tables after ∧
      Passes run (newCheckpoint run row.checkpoint physical) ∧ physical.tick = row.tick + ticks ∧
      ∃ row', Given after run row' ∧ physical.tick ≤ row'.tick := by
  intro after
  have given : Given tables run row := ⟨batched.stored, batched.run_of, batched.definition⟩
  obtain ⟨own, -⟩ := given.passes inv.runs
  obtain ⟨there, -⟩ := inv.runs.batched batched
  have tick := physicalAt_tick there
  have change : LabChange (.runOnce run messageIds) tables after :=
    .checkpoint batched rows fresh distinct
  refine ⟨lab_commits inv change fun key away => ?_, ⟨own.controls, own.scanned, ?_⟩, tick, ?_⟩
  · have run_ne : key ≠ .run run.runId := fun same => away (same ▸ locked)
    exact (same_modifyRun run_ne).trans
      (same_addMessages fun message mem same => away (same ▸ keys message mem))
  · show physicalAt run.definition physical.tick = some physical
    rw [tick]
    exact there
  · obtain ⟨row', given', -⟩ := given.mono (change.keeps inv)
    refine ⟨row', given', ?_⟩
    have stored := given'.stored
    rw [(addMessages_other messages _).2.2.2.1] at stored
    obtain ⟨before, -, rfl⟩ := Lib.Table.get?_modify_eq_some.mp stored
    rw [if_pos rfl]
    exact le_rfl

/-- The loop keeps the protocol, from a checkpoint that the simulation passes; its
fuel lasts. -/
theorem verified_runBatches {ids : Nat → UUID} {network : CompiledNetwork R}
    (compiled : compileLab run.definition run.dt = .ok network) (fuel : Nat) :
    ∀ {messageIds : Nat → UUID} {before : EngineCheckpoint R} {row : RunRow R}
      {commits : List (LabTables R × LabTables R)} {tables : LabTables R},
      Given tables run row → Passes run before → before.tick ≤ row.tick →
      run.spec.maxTicks.getD 1000 < before.tick + fuel →
      LabVerified permits (.runOnce run ids)
        (runBatches network run (run.spec.maxTicks.getD 1000) fuel messageIds before) [] id commits tables := by
  induction fuel with
  | zero =>
      intro messageIds before row commits tables given _ reached ends
      refine verified_ret fun tables' others _ => ?_
      obtain ⟨row', given', later⟩ := given.mono others.keeps
      exact ⟨row', given'.stored, by omega⟩
  | succ fuel ih =>
      intro messageIds before row commits tables given passes reached lasts
      unfold runBatches
      split
      · rename_i more
        cases ran : batch network run before.controls (min 2 (run.spec.maxTicks.getD 1000 - before.tick))
            before.physical with
        | error error => exact verified_raise (fun atomic => atomic.elim) nofun
        | ok result =>
            obtain ⟨physical, observed⟩ := result
            intro tables₁ others₁ _
            dsimp only [id]
            cases fenced : fencedRun run.runId 0 before.tick tables₁ with
            | none =>
                refine ⟨fun _ failed => (nomatch failed), fun write same => ?_⟩
                cases same
                exact verified_ret fun _ _ ran => (nomatch ran)
            | some found =>
                refine ⟨fun _ failed => (nomatch failed), fun write same => ?_⟩
                cases same
                obtain ⟨stored, -, here⟩ := fencedRun_eq_some fenced
                refine verified_checkpointMessages
                  (updateCheckpoint run.runId (newCheckpoint run before physical) 0) (fun _ => rfl)
                  (batchMessages run.runId messageIds observed) others₁.inv ?_
                intro tables₂ held others₂ keeps locked fresh distinct tables₃ others₃ _
                have mem : LabKey.run run.runId ∈ held := keeps _ List.mem_cons_self
                have still : tables₃.runs.get? run.runId = some found :=
                  (others_run others₃ mem).trans ((others_run others₂ List.mem_cons_self).trans stored)
                obtain ⟨row', given', -⟩ :=
                  given.mono ((others₁.keeps.trans others₂.keeps).trans others₃.keeps)
                cases given'.stored.symm.trans still
                obtain ⟨batched, same⟩ := batched_of_passes others₃.inv given' passes here compiled ran
                  (by omega) (by omega)
                obtain ⟨commits, passes', tick, row'', given'', later⟩ :=
                  commits_checkpoint permits ids others₃.inv batched
                    (batchMessages_rows run.runId messageIds observed)
                    (fun message mem => (others_message others₃ (locked message mem)).trans
                      (fresh message mem)) distinct mem locked
                rw [← same] at commits passes' given''
                refine ⟨commits, ih given'' passes' later ?_⟩
                show _ < physical.tick + fuel
                omega
      · rename_i ended
        refine verified_ret fun tables' others _ => ?_
        obtain ⟨row', given', later⟩ := given.mono others.keeps
        exact ⟨row', given'.stored, by omega⟩

theorem verified_runOnce (given : (LabCall.runOnce run messageIds).Admissible tables) :
    LabVerified permits (.runOnce run messageIds) (SimulationEngine.runOnce run messageIds) [] id []
      tables := by
  obtain ⟨row, given⟩ := given_of_admissible given
  unfold SimulationEngine.runOnce
  cases compiled : compileLab run.definition run.dt with
  | error error => exact verified_raise (fun atomic => atomic.elim) nofun
  | ok network =>
      refine Lib.Protocol.verified_select fun tables₁ others₁ _ tables₂ others₂ _ => ?_
      obtain ⟨row₁, given₁, -⟩ := given.mono others₁.keeps
      obtain ⟨row₂, given₂, later⟩ := given₁.mono others₂.keeps
      obtain ⟨passes, tick⟩ := given₁.passes others₁.inv.runs
      refine ⟨lab_commits others₂.inv (.nothing _ tables₂) fun key _ => LabSame.refl key tables₂, ?_⟩
      dsimp only [id]
      rw [given₁.stored]
      exact verified_runBatches compiled _ given₂ passes (tick.trans_le later) (by simp; omega)

end IndustrialReliability
