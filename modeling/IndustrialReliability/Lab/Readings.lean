import IndustrialReliability.Lab.Compiles

/-!
The lookups of `step` and `observe` on an eligible lab.

A step that returns has the pressure of every node and the flow of every edge under
the keys that `observe` reads.
-/

namespace IndustrialReliability

variable {R : Type} [LabNumber R]

/-! ### A step -/

section Steps

variable {definition : LabDefinition R} {network : CompiledNetwork R}
  {pipes valves : List (NetworkEdge R)} {state state' : PhysicalState R} {controls : ControlState R}
  {dt : R}

/-- What a step has done when it returns. -/
theorem step_eq_ok (taken : step network state controls dt = .ok state') :
    ∃ setup conductances pNext flows, prepare network state controls dt = .ok setup ∧
      edgeConductances network controls = .ok conductances ∧
      setup.activeSet 16 setup.pPrev = .ok pNext ∧
      setup.gates network.capacitances pNext dt = .ok () ∧
      network.edges.mapM (edgeFlow network conductances pNext) = .ok flows ∧ state' = {
        tick := state.tick + 1
        pressuresPa := tableOf (network.nodes.map fun node => (node.nodeId, pNext node.nodeIndex))
        flowsKgS := tableOf flows
        operatingModes := tableOf (network.compressors.map fun compressor =>
          (compressor.assetId, operatingMode controls compressor)) } := by
  obtain ⟨setup, prepared, rest⟩ := Lib.bind_eq_ok_iff.mp taken
  obtain ⟨conductances, known, rest⟩ := Lib.bind_eq_ok_iff.mp rest
  obtain ⟨pNext, solved, rest⟩ := Lib.bind_eq_ok_iff.mp rest
  obtain ⟨_, passed, rest⟩ := Lib.bind_eq_ok_iff.mp rest
  obtain ⟨flows, flowing, rest⟩ := Lib.bind_eq_ok_iff.mp rest
  exact ⟨setup, conductances, pNext, flows, prepared, known, solved, passed, flowing,
    (Lib.pure_eq_ok_iff.mp rest).symm⟩

theorem step_tick (taken : step network state controls dt = .ok state') :
    state'.tick = state.tick + 1 := by
  obtain ⟨_, _, _, _, -, -, -, -, -, rfl⟩ := step_eq_ok taken
  rfl

/-- Every edge gets its conductance at its index. -/
theorem foldlM_conductances {edges : List (NetworkEdge R)}
    (found : ∀ edge ∈ edges, ∃ index, network.edgeIdToIndex.get? edge.edgeId = some index)
    (before : Nat → R) : ∃ conductances, edges.foldlM (fun conductances edge =>
        match network.edgeIdToIndex.get? edge.edgeId with
        | some index => Except.ok fun i =>
            if i = index then edgeConductance controls edge else conductances i
        | none => Except.error (StepError.missingEdge (R := R) edge.edgeId)) before = .ok conductances ∧
      ∀ index, (∃ edge ∈ edges, network.edgeIdToIndex.get? edge.edgeId = some index ∧
          conductances index = edgeConductance controls edge) ∨
        conductances index = before index ∧
          ∀ edge ∈ edges, network.edgeIdToIndex.get? edge.edgeId ≠ some index := by
  induction edges generalizing before with
  | nil => exact ⟨before, rfl, fun index => .inr ⟨rfl, fun _ mem => nomatch mem⟩⟩
  | cons edge edges ih =>
      obtain ⟨index, here⟩ := found edge List.mem_cons_self
      obtain ⟨conductances, folded, spec⟩ := ih (fun edge mem => found edge (List.mem_cons_of_mem _ mem))
        fun i => if i = index then edgeConductance controls edge else before i
      refine ⟨conductances, ?_, fun other => ?_⟩
      · rw [List.foldlM_cons, here]
        exact folded
      · rcases spec other with ⟨later, mem, its, value⟩ | ⟨value, none⟩
        · exact .inl ⟨later, List.mem_cons_of_mem _ mem, its, value⟩
        · by_cases same : other = index
          · subst same
            rw [if_pos rfl] at value
            exact .inl ⟨edge, List.mem_cons_self, here, value⟩
          · rw [if_neg same] at value
            refine .inr ⟨value, fun found mem => ?_⟩
            rcases List.mem_cons.mp mem with rfl | mem
            · rw [here]
              exact fun equal => same (Option.some.inj equal).symm
            · exact none found mem

theorem Compiled.edge_found (compiled : Compiled definition network pipes valves)
    (eligible : RunEligible definition) {edge : NetworkEdge R} (mem : edge ∈ network.edges) :
    ∃ index, network.edgeIdToIndex.get? edge.edgeId = some index := by
  obtain ⟨index, held⟩ := List.mem_iff_getElem?.mp mem
  exact ⟨index, ((compiled.edgeTable eligible).2 _ _).mpr ⟨edge, held, rfl⟩⟩

/-- Two edges with one id are one. -/
theorem Compiled.edge_unique (compiled : Compiled definition network pipes valves)
    (eligible : RunEligible definition) {edge other : NetworkEdge R} (mem : edge ∈ network.edges)
    (mem' : other ∈ network.edges) (same : edge.edgeId = other.edgeId) : edge = other := by
  have nodup := nodup_edgeIds eligible compiled.pipesMade compiled.valvesMade
  rw [← (compiled.edgeTable eligible).1] at nodup
  exact List.inj_on_of_nodup_map nodup mem mem' same

theorem Compiled.edgeConductances (compiled : Compiled definition network pipes valves)
    (eligible : RunEligible definition) (controls : ControlState R) :
    ∃ conductances, edgeConductances network controls = .ok conductances ∧
      ∀ edge ∈ network.edges, ∀ index, network.edgeIdToIndex.get? edge.edgeId = some index →
        conductances index = edgeConductance controls edge := by
  have found : ∀ edge ∈ network.edges, ∃ index, network.edgeIdToIndex.get? edge.edgeId = some index :=
    fun edge mem => compiled.edge_found eligible mem
  obtain ⟨conductances, folded, spec⟩ := foldlM_conductances found fun _ => num 0
  refine ⟨conductances, folded, fun edge mem index held => ?_⟩
  rcases spec index with ⟨other, its, same, value⟩ | ⟨-, none⟩
  · obtain ⟨found, at_index, id⟩ := ((compiled.edgeTable eligible).2 _ _).mp held
    obtain ⟨found', at_index', id'⟩ := ((compiled.edgeTable eligible).2 _ _).mp same
    obtain rfl := Option.some.inj (at_index.symm.trans at_index')
    rw [value, compiled.edge_unique eligible mem its (id.symm.trans id')]
  · exact absurd held (none edge mem)

/-- The flows of a step that has its conductances. -/
theorem Compiled.edgeFlow_ok (compiled : Compiled definition network pipes valves)
    (eligible : RunEligible definition) {edge : NetworkEdge R} (mem : edge ∈ network.edges)
    {conductances p : Nat → R}
    (values : ∀ edge ∈ network.edges, ∀ index, network.edgeIdToIndex.get? edge.edgeId = some index →
      conductances index = edgeConductance controls edge) :
    edgeFlow network conductances p edge =
      .ok (edge.edgeId, edgeConductance controls edge * (p edge.fromNode - p edge.toNode)) := by
  obtain ⟨index, held⟩ := compiled.edge_found eligible mem
  unfold edgeFlow
  rw [held, ← values edge mem index held]

/-- The pressures and flows of a step are those of one solution. -/
theorem Compiled.step_reads (compiled : Compiled definition network pipes valves)
    (eligible : RunEligible definition) (taken : step network state controls dt = .ok state') :
    ∃ pNext : Nat → R, state'.pressuresPa =
        tableOf (network.nodes.map fun node => (node.nodeId, pNext node.nodeIndex)) ∧
      ∀ edge ∈ network.edges, state'.flowsKgS.get? edge.edgeId =
        some (edgeConductance controls edge * (pNext edge.fromNode - pNext edge.toNode)) := by
  obtain ⟨setup, conductances, pNext, flows, -, known, -, -, flowing, rfl⟩ := step_eq_ok taken
  refine ⟨pNext, rfl, fun edge mem => ?_⟩
  obtain ⟨_, same, values⟩ := compiled.edgeConductances eligible controls
  rw [known, Except.ok.injEq] at same
  subst same
  have made : flows = network.edges.map fun edge =>
      (edge.edgeId, edgeConductance controls edge * (pNext edge.fromNode - pNext edge.toNode)) := by
    have paired := Lib.mapM_eq_ok_iff_forall₂.mp flowing
    rw [← List.map_id flows]
    refine Lib.map_eq_of_forall₂ (fun edge flow both => ?_)
      ((List.forall₂_and_left _ _).mpr ⟨fun _ mem => mem, paired⟩)
    exact Except.ok.inj (both.2.symm.trans (compiled.edgeFlow_ok eligible both.1 values))
  have nodup : (flows.map Prod.fst).Nodup := by
    have keys : flows.map Prod.fst = network.edges.map (·.edgeId) := by
      rw [made, List.map_map]
      rfl
    rw [keys, (compiled.edgeTable eligible).1]
    exact nodup_edgeIds eligible compiled.pipesMade compiled.valvesMade
  rw [get?_tableOf nodup]
  apply (Lib.Table.lookup_eq_some_iff nodup).mpr
  rw [made]
  exact List.mem_map_of_mem mem

omit [LabNumber R] in
/-- The iteration and the gates look nothing up. -/
theorem StepSetup.activeSet_ne_missingEdge [LabNumber R] (setup : StepSetup R) (rounds : Nat)
    (p : Nat → R) (id : EdgeId) : setup.activeSet rounds p ≠ .error (.missingEdge id) := by
  induction rounds generalizing p with
  | zero => exact fun failed => (nomatch failed)
  | succ rounds ih =>
      unfold StepSetup.activeSet
      cases setup.nextIterate p with
      | none => exact fun failed => (nomatch failed)
      | some pSol =>
          dsimp only
          split
          · exact fun failed => (nomatch failed)
          · exact ih pSol

theorem StepSetup.gates_ne_missingEdge (setup : StepSetup R) (capacitances : List R) (p : Nat → R)
    (dt : R) (id : EdgeId) : setup.gates capacitances p dt ≠ .error (.missingEdge id) := by
  unfold StepSetup.gates
  dsimp only
  split_ifs <;> exact fun failed => (nomatch failed)

/-- The errors of a step are never those of a lookup. -/
theorem Compiled.step_ne_missingEdge (compiled : Compiled definition network pipes valves)
    (eligible : RunEligible definition) (state : PhysicalState R) (controls : ControlState R) (dt : R)
    (id : EdgeId) : step network state controls dt ≠ .error (.missingEdge id) := by
  intro failed
  rcases Lib.bind_eq_error_iff.mp failed with prepared | ⟨setup, -, failed⟩
  · rcases Lib.bind_eq_error_iff.mp prepared with read | ⟨_, -, none⟩
    · obtain ⟨node, -, read⟩ := Lib.exists_of_mapM_eq_error read
      unfold previousPressure at read
      dsimp only at read
      split at read <;> cases read
    · cases none
  obtain ⟨conductances, known, values⟩ := compiled.edgeConductances eligible controls
  rcases Lib.bind_eq_error_iff.mp failed with unknown | ⟨_, same, failed⟩
  · cases known.symm.trans unknown
  obtain rfl := Except.ok.inj (known.symm.trans same)
  rcases Lib.bind_eq_error_iff.mp failed with solving | ⟨pNext, -, failed⟩
  · exact setup.activeSet_ne_missingEdge _ _ _ solving
  rcases Lib.bind_eq_error_iff.mp failed with gate | ⟨_, -, failed⟩
  · exact setup.gates_ne_missingEdge _ _ _ _ gate
  rcases Lib.bind_eq_error_iff.mp failed with flowing | ⟨_, -, none⟩
  · obtain ⟨edge, mem, missing⟩ := Lib.exists_of_mapM_eq_error flowing
    cases (compiled.edgeFlow_ok eligible mem values).symm.trans missing
  · cases none

end Steps

/-! ### Observations -/

/-- The pressure of the node that a port leads to. -/
def PressureAt (network : CompiledNetwork R) (state : PhysicalState R) (ref : PortRef) (pressure : R) :
    Prop :=
  ∃ index node, network.portToNodeIndex.get? ref = some index ∧ network.nodes[index]? = some node ∧
    state.pressuresPa.get? node.nodeId = some pressure

/-- What a sensor with this target measures. -/
inductive Measures (definition : LabDefinition R) (network : CompiledNetwork R)
    (state : PhysicalState R) : SensorTarget → R → Prop
  | pressure {port : PortRef} {pressure : R} (held : PressureAt network state port pressure) :
      Measures definition network state (.pressure port) pressure
  | flow {pipe : Pipe R} {source sink : R} (mem : pipe ∈ definition.pipes)
      (before : PressureAt network state pipe.fromPort source)
      (after : PressureAt network state pipe.toPort sink) :
      Measures definition network state (.flow pipe.pipeId) (pipe.conductanceKgSPa * (source - sink))

section Observe

variable {definition : LabDefinition R} {network : CompiledNetwork R}
  {pipes valves : List (NetworkEdge R)} {state state' : PhysicalState R} {controls : ControlState R}
  {dt : R}

/-- The node that a port leads to. -/
theorem Compiled.leadsTo (compiled : Compiled definition network pipes valves)
    (eligible : RunEligible definition) {asset : Asset R} (mem : asset ∈ definition.assets)
    {port : PortName} (valid : port ∈ VALID_PORTS_BY_ASSET_TYPE asset.type) :
    ∃ index node, LeadsTo network.toNodeTable asset port index node := by
  rw [compiled.nodes]
  exact eligible.leadsTo mem valid

/-- The pressure under the key of a node. -/
theorem Compiled.get?_pressures (compiled : Compiled definition network pipes valves)
    (eligible : RunEligible definition) {pNext : Nat → R}
    (made : state'.pressuresPa = tableOf (network.nodes.map fun node => (node.nodeId, pNext node.nodeIndex)))
    {index : Nat} {node : NetworkNode R} (held : network.nodes[index]? = some node) :
    state'.pressuresPa.get? node.nodeId = some (pNext index) := by
  have nodup : ((network.nodes.map fun node => (node.nodeId, pNext node.nodeIndex)).map
      Prod.fst).Nodup := by
    rw [List.map_map]
    have ids := eligible.nodeIds
    rw [← compiled.nodes] at ids
    exact ids
  rw [made, get?_tableOf nodup]
  apply (Lib.Table.lookup_eq_some_iff nodup).mpr
  rw [← network.indexed index node held]
  exact List.mem_map_of_mem (List.mem_of_getElem? held)

/-- A port of the lab has a pressure after a step. -/
theorem Compiled.pressureAt (compiled : Compiled definition network pipes valves)
    (eligible : RunEligible definition) {pNext : Nat → R}
    (made : state'.pressuresPa = tableOf (network.nodes.map fun node => (node.nodeId, pNext node.nodeIndex)))
    {ref : PortRef} {index : Nat} (mapped : network.portToNodeIndex.get? ref = some index) :
    PressureAt network state' ref (pNext index) := by
  have inside := compiled.inside eligible mapped
  have held := List.getElem?_eq_getElem inside
  exact ⟨index, _, mapped, held, compiled.get?_pressures eligible made held⟩

/-- Assets are found by their ids. -/
theorem RunEligible.find?_asset (eligible : RunEligible definition) {asset : Asset R}
    (mem : asset ∈ definition.assets) {id : UUID} (same : asset.assetId = id) :
    definition.assets.find? (fun asset => asset.assetId = id) = some asset := by
  cases found : definition.assets.find? fun asset => asset.assetId = id with
  | none =>
      have absent := List.find?_eq_none.mp found asset mem
      exact absurd (decide_eq_true same) absent
  | some other =>
      have its : other.assetId = id := by simpa using List.find?_some found
      rw [List.inj_on_of_nodup_map eligible.assetIds mem (List.mem_of_find?_eq_some found)
        (same.trans its.symm)]

/-- A pressure sensor reads the pressure of the node that its port leads to. -/
theorem Compiled.pressureTruth (compiled : Compiled definition network pipes valves)
    (eligible : RunEligible definition) {pNext : Nat → R}
    (made : state'.pressuresPa = tableOf (network.nodes.map fun node => (node.nodeId, pNext node.nodeIndex)))
    {sensor : Sensor R} (mem : sensor ∈ definition.sensors) {port : PortRef}
    (target : sensor.target = .pressure port) :
    ∃ value, sensorTruth definition state' sensor = some (some value) ∧
      PressureAt network state' port value := by
  obtain ⟨asset, its, same, valid⟩ := eligible.pressures sensor mem port target
  obtain ⟨index, node, leads⟩ := compiled.leadsTo eligible its valid
  have key : (⟨asset.assetId, port.port⟩ : PortRef) = port := by
    rw [same]
  have held := compiled.get?_pressures eligible made leads.held
  refine ⟨pNext index, ?_, index, node, key ▸ leads.mapped, leads.held, held⟩
  unfold sensorTruth
  rw [target]
  dsimp only
  rw [eligible.find?_asset its same]
  show some (state'.pressuresPa.get? (nodeKey asset.type port)) = _
  rw [← held, leads.nodeId, key]

/-- What a sensor reads after a step is what it targets. -/
theorem Compiled.sensorTruth (compiled : Compiled definition network pipes valves)
    (eligible : RunEligible definition) (taken : step network state controls dt = .ok state')
    {sensor : Sensor R} (mem : sensor ∈ definition.sensors) :
    ∃ value, sensorTruth definition state' sensor = some (some value) ∧
      Measures definition network state' sensor.target value := by
  obtain ⟨pNext, made, flows⟩ := compiled.step_reads eligible taken
  cases target : sensor.target with
  | pressure port =>
      obtain ⟨value, read, held⟩ := compiled.pressureTruth eligible made mem target
      exact ⟨value, read, .pressure held⟩
  | flow id =>
      obtain ⟨pipe, its, rfl⟩ := List.mem_map.mp (eligible.flows sensor mem id target)
      obtain ⟨edge, memPipes, shape⟩ := exists_pipeEdge compiled.pipesMade its
      obtain ⟨i, j, source, sink, rfl⟩ := pipeEdge_eq_ok shape
      have memEdges := List.mem_append_left valves memPipes
      rw [← (compiled.edgeTable eligible).1] at memEdges
      have flow := flows _ memEdges
      unfold IndustrialReliability.sensorTruth
      rw [target]
      refine ⟨_, ?_, .flow its (compiled.pressureAt eligible made source)
        (compiled.pressureAt eligible made sink)⟩
      show some (some ((state'.flowsKgS.get? (.pipe pipe.pipeId)).getD _)) = _
      rw [flow]
      rfl

end Observe

/-- The nodes of an eligible lab and the lookups in it. -/
structure NeverBreaks [Sha256Digest] (definition : LabDefinition R) (network : CompiledNetwork R) :
    Prop where
  /-- Every port leads to one node. -/
  ports : ∀ asset ∈ definition.assets, ∀ port ∈ VALID_PORTS_BY_ASSET_TYPE asset.type,
    ∃! node, node ∈ network.nodes ∧
      network.portToNodeIndex.get? ⟨asset.assetId, port⟩ = some node.nodeIndex
  /-- No edge of a step is missing. -/
  edges : ∀ state controls dt id, step network state controls dt ≠ .error (.missingEdge id)
  /-- One observation of what it targets for each sensor. -/
  observed : ∀ state controls dt state', step network state controls dt = .ok state' →
    ∀ (run : SimulationRun R) (now : ControlState R), run.definition = definition →
      List.Forall₂ (fun sensor observation =>
          ∃ value, Measures definition network state' sensor.target value ∧
            observation = sample run sensor state'.tick (sensorFault now sensor.sensorId) (some value))
        definition.sensors (observe run state' now)

theorem Compiled.neverBreaks [Sha256Digest] {definition : LabDefinition R}
    {network : CompiledNetwork R} {pipes valves : List (NetworkEdge R)}
    (compiled : Compiled definition network pipes valves) (eligible : RunEligible definition) :
    NeverBreaks definition network := by
  refine ⟨fun asset mem port valid => ?_, compiled.step_ne_missingEdge eligible, ?_⟩
  · obtain ⟨index, node, leads⟩ := compiled.leadsTo eligible mem valid
    have place := network.indexed index node leads.held
    refine ⟨node, ⟨List.mem_of_getElem? leads.held, place ▸ leads.mapped⟩, ?_⟩
    rintro other ⟨its, mapped⟩
    obtain ⟨i, held⟩ := List.mem_iff_getElem?.mp its
    have same : i = index := by
      rw [network.indexed i other held, leads.mapped] at mapped
      exact (Option.some.inj mapped).symm
    rw [same, leads.held] at held
    exact (Option.some.inj held).symm
  · rintro state controls dt state' taken run now rfl
    unfold observe
    refine Lib.forall₂_filterMap fun sensor mem => ?_
    obtain ⟨value, truth, measures⟩ := compiled.sensorTruth eligible taken mem
    rw [truth]
    exact ⟨_, rfl, value, measures, rfl⟩

/-- Every lab that `validateLab` lets run compiles and can be sampled, and in exact
arithmetic its conductance matrices are Laplacians. -/
theorem run_eligible_never_breaks [Sha256Digest] :
    (∀ (R : Type) [LabNumber R] (definition : LabDefinition R) (dt : R),
      (validateLab definition).runEligible = true →
        ∃ network, compileLab definition dt = .ok network ∧ NeverBreaks definition network) ∧
    ∀ (K : Type) [ExactNumber K] (definition : LabDefinition K) (dt : K)
      (network : CompiledNetwork K), (validateLab definition).runEligible = true →
        compileLab definition dt = .ok network → ∀ controls : ControlState K,
          Lib.IsLaplacian (leading network.nodes.length
            (laplacian network.edges (edgeConductance controls))) := by
  refine ⟨fun R _ definition dt passed => ?_, fun K _ definition dt network passed ok controls => ?_⟩
  · have eligible := runEligible_of_validateLab passed
    obtain ⟨network, ok⟩ := compileLab_ok eligible dt
    obtain ⟨pipes, valves, compiled⟩ := compileLab_eq_ok ok
    exact ⟨network, ok, compiled.neverBreaks eligible⟩
  · obtain ⟨pipes, valves, compiled⟩ := compileLab_eq_ok ok
    exact compiled.isLaplacian (runEligible_of_validateLab passed) controls

theorem default_tank_valid : validateParameters .tank (.empty : Parameters ℚ) = .ok () := by
  decide +kernel

theorem default_conductance_range : LabNumber.between 1e-12 (2e-7 : ℚ) 1e-6 = true := by
  decide +kernel

/-- A compressor that fills a tank; a second pipe joins the two ports of the tank. -/
def loopLab : LabDefinition ℚ where
  schemaVersion := "lab-definition-v1"
  labId := 1
  revision := 1
  name := "loop"
  assets := [
    ⟨11, .compressor, (0, 0, 0), 0, .empty, by decide +kernel⟩,
    ⟨12, .tank, (1, 0, 0), 0, .empty, default_tank_valid⟩]
  pipes := [
    ⟨21, ⟨11, .OUT⟩, ⟨12, .A⟩, 2e-7, [], default_conductance_range, by decide⟩,
    ⟨22, ⟨12, .A⟩, ⟨12, .B⟩, 2e-7, [], default_conductance_range, by decide⟩]
  sensors := [
    ⟨31, .pressure ⟨12, .B⟩, 0, none, none⟩,
    ⟨32, .flow 22, 0, none, none⟩]
  sceneRevision := "scene"
  revision_pos := Nat.one_pos

theorem loopLab_never_breaks :
    letI := knownSha256 []
    ∃ network, compileLab loopLab (1 / 20) = .ok network ∧ NeverBreaks loopLab network ∧
      ∀ controls, Lib.IsLaplacian (leading network.nodes.length
        (laplacian network.edges (edgeConductance controls))) := by
  let _ := knownSha256 []
  have eligible : (validateLab loopLab).runEligible = true := by decide +kernel
  obtain ⟨network, compiled, never⟩ := run_eligible_never_breaks.1 ℚ loopLab (1 / 20) eligible
  exact ⟨network, compiled, never,
    run_eligible_never_breaks.2 ℚ loopLab (1 / 20) network eligible compiled⟩
end IndustrialReliability
