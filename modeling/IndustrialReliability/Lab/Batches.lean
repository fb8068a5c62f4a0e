import IndustrialReliability.Lab.Invariants

/-!
The checkpoints and the outbox of the runs.

A run of the store is where an uninterrupted simulation of its definition is at the
tick of the run, and its part of the outbox lists what was sampled until then.
-/

namespace IndustrialReliability

open LabStore SimulationEngine

variable {R : Type} [LabNumber R]

/-! ### What a batch samples -/

/-- The sensors and ticks that are sampled in so many ticks. -/
def sampledIn (definition : LabDefinition R) : Nat → Nat → List (UUID × Nat)
  | _, 0 => []
  | start, ticks + 1 =>
      (if (start + 1) % 20 = 0 then definition.sensors.map fun sensor => (sensor.sensorId, start + 1)
        else []) ++ sampledIn definition (start + 1) ticks

theorem sampledIn_add (definition : LabDefinition R) (start m n : Nat) :
    sampledIn definition start (m + n) =
      sampledIn definition start m ++ sampledIn definition (start + m) n := by
  induction m generalizing start with
  | zero => simp [sampledIn]
  | succ m ih =>
      rw [Nat.succ_add, sampledIn, sampledIn, ih, List.append_assoc, Nat.add_assoc, Nat.add_comm 1 m]

theorem mem_sampledIn {definition : LabDefinition R} {start ticks tick : Nat} {sensor : UUID} :
    (sensor, tick) ∈ sampledIn definition start ticks ↔
      sensor ∈ definition.sensors.map (·.sensorId) ∧ start < tick ∧ tick ≤ start + ticks ∧ tick % 20 = 0 := by
  induction ticks generalizing start with
  | zero =>
      constructor
      · exact fun mem => (nomatch mem)
      · rintro ⟨-, later, before, -⟩
        omega
  | succ ticks ih =>
      rw [sampledIn, List.mem_append, ih]
      constructor
      · rintro (here | ⟨mem, later, before, multiple⟩)
        · split at here
          · rename_i multiple
            obtain ⟨target, mem, same⟩ := List.mem_map.mp here
            cases same
            exact ⟨List.mem_map.mpr ⟨target, mem, rfl⟩, by omega, by omega, multiple⟩
          · cases here
        · exact ⟨mem, by omega, by omega, multiple⟩
      · rintro ⟨mem, later, before, multiple⟩
        by_cases here : tick = start + 1
        · subst here
          obtain ⟨target, its, rfl⟩ := List.mem_map.mp mem
          rw [if_pos multiple]
          exact .inl (List.mem_map.mpr ⟨target, its, rfl⟩)
        · exact .inr ⟨mem, by omega, by omega, multiple⟩

theorem sampledIn_ascending {definition : LabDefinition R}
    (ids : (definition.sensors.map (·.sensorId)).Nodup) (start ticks : Nat) :
    (sampledIn definition start ticks).Pairwise fun a b => a.1 = b.1 → a.2 < b.2 := by
  induction ticks generalizing start with
  | zero => exact List.Pairwise.nil
  | succ ticks ih =>
      rw [sampledIn]
      refine List.pairwise_append.mpr ⟨?_, ih (start + 1), ?_⟩
      · split
        · rw [List.Nodup, List.pairwise_map] at ids
          exact List.pairwise_map.mpr (ids.imp fun differ same => absurd same differ)
        · exact List.Pairwise.nil
      · rintro ⟨sensor, tick⟩ here ⟨other, later⟩ there -
        have after := (mem_sampledIn.mp there).2.1
        split at here
        · obtain ⟨target, -, same⟩ := List.mem_map.mp here
          cases same
          exact after
        · cases here

theorem sample_key [Sha256Digest] (run : SimulationRun R) (sensor : Sensor R) (tick : Nat)
    (fault : Option (ActiveFault R)) (truth : Option R) :
    (sample run sensor tick fault truth).sensorId = sensor.sensorId ∧
      (sample run sensor tick fault truth).tick = tick := by
  unfold sample
  split
  · exact ⟨rfl, rfl⟩
  · dsimp only
    split_ifs <;> exact ⟨rfl, rfl⟩

/-- The step that a sample key says. -/
def observationKey (observation : Observation R) : UUID × Nat := (observation.sensorId, observation.tick)

section Batch

variable [Sha256Digest] {run : SimulationRun R} {network : CompiledNetwork R}
  {controls : ControlState R} {physical last : PhysicalState R} {observed : List (Observation R)}

theorem observations_keys {pipes valves : List (NetworkEdge R)}
    (compiled : Compiled run.definition network pipes valves) (eligible : RunEligible run.definition)
    {dt : R} {before : PhysicalState R} (taken : step network before controls dt = .ok physical) :
    (observations run controls physical).map observationKey =
      if physical.tick % 20 = 0 then
        run.definition.sensors.map fun sensor => (sensor.sensorId, physical.tick)
      else [] := by
  unfold observations
  split
  · have paired := (compiled.neverBreaks eligible).observed before controls dt physical taken run controls rfl
    refine Lib.map_eq_of_forall₂ (fun sensor observation made => ?_) paired
    obtain ⟨value, -, rfl⟩ := made
    obtain ⟨id, tick⟩ := sample_key run sensor physical.tick (sensorFault controls sensor.sensorId)
      (some value)
    exact Prod.ext id tick
  · rfl

/-- A batch is so many steps, and samples what they pass. -/
theorem batch_eq_ok {pipes valves : List (NetworkEdge R)}
    (compiled : Compiled run.definition network pipes valves) (eligible : RunEligible run.definition)
    {ticks : Nat} (ran : batch network run controls ticks physical = .ok (last, observed)) :
    steps network controls run.dt ticks physical = .ok last ∧ last.tick = physical.tick + ticks ∧
      observed.map observationKey = sampledIn run.definition physical.tick ticks := by
  induction ticks generalizing physical observed with
  | zero =>
      cases ran
      exact ⟨rfl, rfl, rfl⟩
  | succ ticks ih =>
      obtain ⟨next, taken, rest⟩ := Lib.bind_eq_ok_iff.mp ran
      obtain ⟨⟨last', later⟩, remaining, same⟩ := Lib.bind_eq_ok_iff.mp rest
      cases same
      obtain ⟨stepped, tick, keys⟩ := ih remaining
      have first := step_tick taken
      refine ⟨?_, by rw [tick, first, Nat.add_assoc, Nat.add_comm 1 ticks], ?_⟩
      · show step network physical controls run.dt >>= steps network controls run.dt ticks = _
        rw [taken]
        exact stepped
      · rw [List.map_append, observations_keys compiled eligible taken, keys, first]
        rfl

end Batch

/-! ### Uninterrupted simulations -/

theorem steps_tick {network : CompiledNetwork R} {controls : ControlState R} {dt : R} {ticks : Nat}
    {physical last : PhysicalState R} (ran : steps network controls dt ticks physical = .ok last) :
    last.tick = physical.tick + ticks := by
  induction ticks generalizing physical with
  | zero =>
      cases ran
      rfl
  | succ ticks ih =>
      obtain ⟨next, taken, rest⟩ := Lib.bind_eq_ok_iff.mp ran
      rw [ih rest, step_tick taken, Nat.add_assoc, Nat.add_comm 1 ticks]

theorem physicalAt_eq_some {definition : LabDefinition R} {tick : Nat} {physical : PhysicalState R} :
    physicalAt definition tick = some physical ↔ ∃ network,
      compileLab definition (num 0.05) = .ok network ∧
        steps network .initial (num 0.05) tick (initialPhysical definition) = .ok physical := by
  unfold physicalAt
  simp only [Option.bind_eq_bind, Option.bind_eq_some_iff, Lib.toOption_eq_some_iff]

theorem physicalAt_tick {definition : LabDefinition R} {tick : Nat} {physical : PhysicalState R}
    (there : physicalAt definition tick = some physical) : physical.tick = tick := by
  obtain ⟨network, -, ran⟩ := physicalAt_eq_some.mp there
  rw [steps_tick ran]
  exact Nat.zero_add tick

/-- An uninterrupted simulation goes on from any of its states. -/
theorem physicalAt_add {definition : LabDefinition R} {tick ticks : Nat}
    {physical last : PhysicalState R} {network : CompiledNetwork R}
    (there : physicalAt definition tick = some physical)
    (compiled : compileLab definition (num 0.05) = .ok network)
    (ran : steps network .initial (num 0.05) ticks physical = .ok last) :
    physicalAt definition (tick + ticks) = some last := by
  obtain ⟨_, same, before⟩ := physicalAt_eq_some.mp there
  cases compiled.symm.trans same
  refine physicalAt_eq_some.mpr ⟨network, compiled, ?_⟩
  rw [steps_add, before]
  exact ran

theorem physicalAt_zero [Sha256Digest] {definition : LabDefinition R}
    (eligible : (validateLab definition).runEligible = true) :
    physicalAt definition 0 = some (initialPhysical definition) := by
  obtain ⟨network, compiled⟩ := compileLab_ok (runEligible_of_validateLab eligible) (num 0.05)
  exact physicalAt_eq_some.mpr ⟨network, compiled, rfl⟩

/-! ### The runs of the store -/

/-- The messages of a run, in the order they were stored. -/
def outboxOf (tables : LabTables R) (run : UUID) : List (LabOutboxRow R) :=
  tables.outbox.values.filter fun row => row.runId = run

def messageKey (row : LabOutboxRow R) : UUID × Nat := (row.sensorId, row.tick)

/-- What holds of a run of a definition. -/
structure RunOf [Sha256Digest] (tables : LabTables R) (id : UUID) (row : RunRow R)
    (definition : LabDefinition R) : Prop where
  eligible : (validateLab definition).runEligible = true
  digest : row.definitionDigest = computeDefinitionDigest definition
  fence : row.fence = 0
  tick : row.checkpoint.tick = row.tick
  controls : row.checkpoint.controls = .initial
  scanned : row.checkpoint.acceptedScannedSequence = 0
  physical : physicalAt definition row.tick = some row.checkpoint.physical
  outbox : (outboxOf tables id).map messageKey = sampledIn definition 0 row.tick

structure RunsInv [Sha256Digest] (tables : LabTables R) : Prop where
  runs : ∀ id row, tables.runs.get? id = some row → ∃ revision,
    tables.revisions.get? (row.spec.labId, row.spec.labRevision) = some revision ∧
      RunOf tables id row revision.definition
  outbox : ∀ id row, tables.outbox.get? id = some row → (tables.runs.get? row.runId).isSome = true

/-- The row says the same of the simulation. -/
structure SameSimulation (row row' : RunRow R) : Prop where
  spec : row'.spec = row.spec
  fence : row'.fence = row.fence
  tick : row'.tick = row.tick
  definitionDigest : row'.definitionDigest = row.definitionDigest
  checkpoint : row'.checkpoint = row.checkpoint

omit [LabNumber R] in
theorem SameSimulation.refl (row : RunRow R) : SameSimulation row row := ⟨rfl, rfl, rfl, rfl, rfl⟩

theorem RunOf.congr [Sha256Digest] {tables tables' : LabTables R} {id : UUID} {row row' : RunRow R}
    {definition : LabDefinition R} (run : RunOf tables id row definition)
    (outbox : outboxOf tables' id = outboxOf tables id) (same : SameSimulation row row') :
    RunOf tables' id row' definition := by
  obtain ⟨spec, fence, tick, digest, checkpoint⟩ := same
  refine ⟨run.eligible, by rw [digest, run.digest], by rw [fence, run.fence],
    by rw [checkpoint, tick, run.tick], by rw [checkpoint, run.controls],
    by rw [checkpoint, run.scanned], by rw [tick, checkpoint, run.physical], ?_⟩
  rw [outbox, tick, run.outbox]

/-- A change that leaves the simulations alone. -/
theorem RunsInv.congr [Sha256Digest] {tables tables' : LabTables R} (inv : RunsInv tables)
    (revisions : ∀ key row, tables.revisions.get? key = some row → tables'.revisions.get? key = some row)
    (outbox : tables'.outbox = tables.outbox)
    (kept : ∀ id row, tables.runs.get? id = some row → (tables'.runs.get? id).isSome = true)
    (same : ∀ id row', tables'.runs.get? id = some row' →
      ∃ row, tables.runs.get? id = some row ∧ SameSimulation row row') : RunsInv tables' := by
  have messages : ∀ id, outboxOf tables' id = outboxOf tables id := by
    intro id
    unfold outboxOf
    rw [outbox]
  constructor
  · intro id row' held
    obtain ⟨row, before, simulation⟩ := same id row' held
    obtain ⟨revision, found, run⟩ := inv.runs id row before
    exact ⟨revision, simulation.spec ▸ revisions _ _ found, run.congr (messages id) simulation⟩
  · intro id row held
    rw [outbox] at held
    obtain ⟨run, present⟩ := Option.isSome_iff_exists.mp (inv.outbox id row held)
    exact kept _ _ present

theorem RunsInv.outboxOf_eq_nil [Sha256Digest] {tables : LabTables R} (inv : RunsInv tables) {id : UUID}
    (none : tables.runs.get? id = none) : outboxOf tables id = [] := by
  unfold outboxOf
  refine List.filter_eq_nil_iff.mpr fun row mem => ?_
  obtain ⟨key, held⟩ := Lib.Table.mem_values_iff.mp mem
  have present := inv.outbox key row held
  intro its
  have same : row.runId = id := of_decide_eq_true its
  rw [same, none] at present
  cases present

/-- A new run is at the start of its simulation. -/
theorem RunsInv.start [Sha256Digest] {tables : LabTables R} (inv : RunsInv tables) {spec : RunSpec}
    {id : UUID} {revision : RevisionRow R}
    (found : tables.revisions.get? (spec.labId, spec.labRevision) = some revision)
    (eligible : (validateLab revision.definition).runEligible = true)
    (free : tables.runs.get? id = none) :
    RunsInv (addRun id (newRunRow spec revision.definition) tables) := by
  constructor
  · intro other row held
    rcases Lib.Table.get?_insertNew_eq_some held with before | ⟨rfl, rfl⟩
    · obtain ⟨its, stored, run⟩ := inv.runs other row before
      exact ⟨its, stored, run.congr rfl (.refl row)⟩
    · refine ⟨revision, found, eligible, rfl, rfl, rfl, rfl, rfl, physicalAt_zero eligible, ?_⟩
      have empty : outboxOf (addRun other (newRunRow spec revision.definition) tables) other = [] :=
        inv.outboxOf_eq_nil free
      rw [empty]
      rfl
  · intro key row held
    obtain ⟨run, present⟩ := Option.isSome_iff_exists.mp (inv.outbox key row held)
    exact Option.isSome_iff_exists.mpr ⟨run, Lib.Table.get?_insertNew_of_some present⟩

section Checkpoint

variable [Sha256Digest] {tables : LabTables R} {run : SimulationRun R} {row : RunRow R} {ticks : Nat}
  {physical : PhysicalState R} {observed : List (Observation R)}

/-- A batch from the row of a run continues its simulation. -/
theorem RunsInv.batched (inv : RunsInv tables) (batched : Batched tables run row ticks physical observed) :
    physicalAt run.definition (row.tick + ticks) = some physical ∧
      observed.map observationKey = sampledIn run.definition row.tick ticks := by
  obtain ⟨revision, found, own⟩ := inv.runs run.runId row batched.stored
  obtain ⟨_, same, definition⟩ := batched.definition
  cases found.symm.trans same
  rw [definition] at own
  have dt : run.dt = num 0.05 := by
    rw [batched.run_of]
    rfl
  obtain ⟨network, ok, ran⟩ := batched.advanced
  obtain ⟨pipes, valves, compiled⟩ := compileLab_eq_ok ok
  obtain ⟨stepped, -, keys⟩ := batch_eq_ok compiled (runEligible_of_validateLab own.eligible) ran
  rw [own.controls, dt] at stepped
  rw [dt] at ok
  rw [physicalAt_tick own.physical] at keys
  exact ⟨physicalAt_add own.physical ok stepped, keys⟩

omit [Sha256Digest] in
/-- The messages of a run after those of a checkpoint. -/
theorem outboxOf_addMessages {messages : List (UUID × LabOutboxRow R)} (before : LabTables R)
    (rows : messages.map Prod.snd = observed.map (outboxRow run.runId))
    (fresh : ∀ message ∈ messages, before.outbox.get? message.1 = none)
    (distinct : (messages.map Prod.fst).Nodup) (id : UUID) :
    outboxOf (addMessages messages before) id =
      outboxOf before id ++ if id = run.runId then observed.map (outboxRow run.runId) else [] := by
  unfold outboxOf Lib.Table.values
  rw [addMessages_rows fresh distinct, List.map_append, List.filter_append, rows]
  congr 1
  by_cases here : id = run.runId
  · subst here
    rw [if_pos rfl, List.filter_eq_self]
    intro row mem
    obtain ⟨observation, -, rfl⟩ := List.mem_map.mp mem
    exact decide_eq_true rfl
  · rw [if_neg here, List.filter_eq_nil_iff]
    intro row mem its
    obtain ⟨observation, -, rfl⟩ := List.mem_map.mp mem
    exact here (of_decide_eq_true its).symm

theorem RunsInv.checkpoint (inv : RunsInv tables)
    (batched : Batched tables run row ticks physical observed)
    {messages : List (UUID × LabOutboxRow R)}
    (rows : messages.map Prod.snd = observed.map (outboxRow run.runId))
    (fresh : ∀ message ∈ messages, tables.outbox.get? message.1 = none)
    (distinct : (messages.map Prod.fst).Nodup) : RunsInv (addMessages messages
      (updateCheckpoint run.runId (newCheckpoint run row.checkpoint physical) 0 tables)) := by
  obtain ⟨-, revisions, -, runs, -⟩ := addMessages_other messages
    (updateCheckpoint run.runId (newCheckpoint run row.checkpoint physical) 0 tables)
  have filtered := outboxOf_addMessages
    (updateCheckpoint run.runId (newCheckpoint run row.checkpoint physical) 0 tables) rows fresh distinct
  obtain ⟨there, keys⟩ := inv.batched batched
  have kept : ∀ id, (tables.runs.get? id).isSome = true → ((addMessages messages
      (updateCheckpoint run.runId (newCheckpoint run row.checkpoint physical) 0
        tables)).runs.get? id).isSome = true := by
    intro id present
    obtain ⟨before, held⟩ := Option.isSome_iff_exists.mp present
    rw [runs]
    exact Option.isSome_iff_exists.mpr ⟨_, Lib.Table.get?_modify_eq_some.mpr ⟨before, held, rfl⟩⟩
  constructor
  · intro id row' held
    rw [runs] at held
    obtain ⟨before, old, rfl⟩ := Lib.Table.get?_modify_eq_some.mp held
    obtain ⟨revision, found, own⟩ := inv.runs id before old
    rw [revisions]
    by_cases here : id = run.runId
    · subst here
      cases batched.stored.symm.trans old
      obtain ⟨_, same, definition⟩ := batched.definition
      cases found.symm.trans same
      have tick := physicalAt_tick there
      simp only [if_true]
      refine ⟨revision, found, own.eligible, own.digest, own.fence, rfl, own.controls, own.scanned, ?_, ?_⟩
      · show physicalAt revision.definition physical.tick = some physical
        rw [definition, tick]
        exact there
      · show _ = sampledIn revision.definition 0 physical.tick
        have appended : (observed.map (outboxRow run.runId)).map messageKey =
            observed.map observationKey := by
          rw [List.map_map]
          rfl
        rw [filtered, if_pos rfl, List.map_append, appended, keys, tick, sampledIn_add, Nat.zero_add,
          definition]
        congr 1
        rw [← definition]
        exact own.outbox
    · simp only [if_neg here]
      refine ⟨revision, found, own.congr ?_ (.refl before)⟩
      rw [filtered, if_neg here, List.append_nil]
      rfl
  · intro key message held
    by_cases its : message.runId = run.runId
    · rw [its]
      exact kept run.runId (Option.isSome_iff_exists.mpr ⟨row, batched.stored⟩)
    · have mem : message ∈ outboxOf (addMessages messages
          (updateCheckpoint run.runId (newCheckpoint run row.checkpoint physical) 0 tables))
            message.runId :=
        List.mem_filter.mpr ⟨Lib.Table.mem_values_iff.mpr ⟨key, held⟩, decide_eq_true rfl⟩
      rw [filtered, if_neg its, List.append_nil] at mem
      obtain ⟨key', stored⟩ := Lib.Table.mem_values_iff.mp (List.mem_of_mem_filter mem)
      exact kept _ (inv.outbox key' message stored)

end Checkpoint

theorem RunsInv.change [Sha256Digest] {call : LabCall R} {tables tables' : LabTables R}
    (inv : RunsInv tables) (change : LabChange call tables tables') : RunsInv tables' := by
  have kept : ∀ id row, tables.runs.get? id = some row → (tables.runs.get? id).isSome = true :=
    fun id row held => Option.isSome_iff_exists.mpr ⟨row, held⟩
  cases change with
  | nothing => exact inv
  | firstSave | nextSave =>
      exact inv.congr (fun key row held => Lib.Table.get?_insertNew_of_some held) rfl kept
        fun id row held => ⟨row, held, .refl row⟩
  | start found eligible free => exact inv.start found eligible free
  | accept | status =>
      refine inv.congr (fun _ _ held => held) rfl (fun id row held => ?_) fun id row' held => ?_
      · exact Option.isSome_iff_exists.mpr ⟨_, Lib.Table.get?_modify_eq_some.mpr ⟨row, held, rfl⟩⟩
      · obtain ⟨row, before, rfl⟩ := Lib.Table.get?_modify_eq_some.mp held
        refine ⟨row, before, ?_⟩
        split
        · exact ⟨rfl, rfl, rfl, rfl, rfl⟩
        · exact .refl row
  | checkpoint batched rows fresh distinct => exact inv.checkpoint batched rows fresh distinct

end IndustrialReliability
