import IndustrialReliability.Lab.Compiles
import IndustrialReliability.Lib.Renaming

/-!
Labs that differ by their ids.

A renaming changes the ids of assets and pipes, and those of sensors, wherever they are
referred to. A renamed lab is eligible when the lab is, and it compiles to the same
network: the nodes and edges are sorted by the new ids, so they are found elsewhere.
-/

namespace IndustrialReliability

/-- New ids for those of the assets and pipes and of the sensors. -/
structure NewIds where
  part : UUID → UUID
  sensor : UUID → UUID
  part_injective : Function.Injective part
  sensor_injective : Function.Injective sensor

variable {R : Type} [LabNumber R] (ids : NewIds)

def PortRef.rename (ref : PortRef) : PortRef := ⟨ids.part ref.assetId, ref.port⟩

theorem PortRef.rename_injective : Function.Injective (PortRef.rename ids) := by
  rintro ⟨id, port⟩ ⟨id', port'⟩ same
  obtain ⟨assets, rfl⟩ := PortRef.mk.inj same
  obtain rfl := ids.part_injective assets
  rfl

def Asset.rename (asset : Asset R) : Asset R := { asset with assetId := ids.part asset.assetId }

def Pipe.rename (pipe : Pipe R) : Pipe R := { pipe with
  pipeId := ids.part pipe.pipeId
  fromPort := pipe.fromPort.rename ids
  toPort := pipe.toPort.rename ids
  ends_differ := (PortRef.rename_injective ids).ne pipe.ends_differ }

def SensorTarget.rename : SensorTarget → SensorTarget
  | .pressure port => .pressure (port.rename ids)
  | .flow pipe => .flow (ids.part pipe)

omit [LabNumber R] in
def Sensor.rename (sensor : Sensor R) : Sensor R := { sensor with
  sensorId := ids.sensor sensor.sensorId
  target := sensor.target.rename ids }

/-- The lab with the ids of its parts renamed, everything else being kept. -/
def LabDefinition.rename (definition : LabDefinition R) : LabDefinition R := { definition with
  assets := definition.assets.map (Asset.rename ids)
  pipes := definition.pipes.map (Pipe.rename ids)
  sensors := definition.sensors.map (Sensor.rename ids) }

/-! ### Eligibility -/

section Errors

variable {assets : List (Asset R)} {code : LabErrorCode} {assetIds assetIds' seen : List UUID}
  {message message' missing missing' : String} {invalid invalid' : AssetType → String}

theorem assetOf_rename (assets : List (Asset R)) (id : UUID) :
    assetOf (assets.map (Asset.rename ids)) (ids.part id) =
      (assetOf assets id).map (Asset.rename ids) := by
  unfold assetOf
  rw [← List.map_reverse, List.find?_map]
  congr 2
  funext asset
  simp [Asset.rename, ids.part_injective.eq_iff]

/-- A missing port stays missing, whatever is said about it. -/
theorem portError_rename (ref : PortRef) :
    portError (assets.map (Asset.rename ids)) code (ref.rename ids) missing' invalid' = [] ↔
      portError assets code ref missing invalid = [] := by
  unfold portError PortRef.rename
  rw [assetOf_rename]
  cases assetOf assets ref.assetId with
  | none => simp
  | some asset =>
      simp only [Option.map_some, Asset.rename]
      split <;> simp

theorem duplicateError_rename {f : UUID → UUID} (injective : Function.Injective f) (id : UUID) :
    duplicateError code assetIds' message' (seen.map f) (f id) = [] ↔
      duplicateError code assetIds message seen id = [] := by
  rw [duplicateError_eq_nil_iff, duplicateError_eq_nil_iff, List.mem_map_of_injective injective]

theorem assetErrors_rename (assets : List (Asset R)) (seen : List UUID) :
    assetErrors (seen.map ids.part) (assets.map (Asset.rename ids)) = [] ↔
      assetErrors seen assets = [] := by
  induction assets generalizing seen with
  | nil => simp [assetErrors]
  | cons asset assets ih =>
      simp only [List.map_cons, assetErrors, List.append_eq_nil_iff]
      rw [← ih]
      exact and_congr_left fun _ => duplicateError_rename ids.part_injective asset.assetId

/-- The pairs of ports of a renamed pipe. -/
def renamePair (pair : PortRef × PortRef) : PortRef × PortRef :=
  (pair.1.rename ids, pair.2.rename ids)

theorem samePair_rename (first second : PortRef × PortRef) :
    samePair (renamePair ids first) (renamePair ids second) = samePair first second := by
  unfold samePair renamePair
  simp only [Prod.ext_iff, (PortRef.rename_injective ids).eq_iff]

theorem pipePairError_rename {pairs : List (PortRef × PortRef)} (pipe : Pipe R) :
    pipePairError (pairs.map (renamePair ids)) (pipe.rename ids) = [] ↔
      pipePairError pairs pipe = [] := by
  have known : (pairs.map (renamePair ids)).any
      (samePair ((pipe.rename ids).fromPort, (pipe.rename ids).toPort)) =
        pairs.any (samePair (pipe.fromPort, pipe.toPort)) := by
    rw [List.any_map]
    congr 1
    funext pair
    exact samePair_rename ids (pipe.fromPort, pipe.toPort) pair
  unfold pipePairError
  rw [known, if_neg (pipe.rename ids).ends_differ, if_neg pipe.ends_differ]
  split <;> simp

theorem pipeErrors_rename (assets : List (Asset R)) (seen : List UUID)
    (pairs : List (PortRef × PortRef)) (pipes : List (Pipe R)) :
    pipeErrors (assets.map (Asset.rename ids)) (seen.map ids.part)
        (pairs.map (renamePair ids)) (pipes.map (Pipe.rename ids)) = [] ↔
      pipeErrors assets seen pairs pipes = [] := by
  induction pipes generalizing seen pairs with
  | nil => simp [pipeErrors]
  | cons pipe pipes ih =>
      simp only [List.map_cons, pipeErrors, List.append_eq_nil_iff]
      rw [← ih, ← pipePairError_rename ids pipe]
      refine and_congr (duplicateError_rename ids.part_injective pipe.pipeId) ?_
      exact and_congr (portError_rename ids pipe.fromPort)
        (and_congr_left fun _ => portError_rename ids pipe.toPort)

theorem sensorTargetError_rename {pipeIds : List UUID} (sensor : Sensor R) :
    sensorTargetError (assets.map (Asset.rename ids)) (pipeIds.map ids.part)
        (sensor.rename ids) = [] ↔ sensorTargetError assets pipeIds sensor = [] := by
  unfold sensorTargetError
  cases target : sensor.target with
  | pressure port =>
      simp only [Sensor.rename, target, SensorTarget.rename]
      exact portError_rename ids port
  | flow pipe =>
      simp only [Sensor.rename, target, SensorTarget.rename,
        List.mem_map_of_injective ids.part_injective]
      split <;> simp

theorem sensorErrors_rename (assets : List (Asset R)) (pipeIds seen : List UUID)
    (sensors : List (Sensor R)) :
    sensorErrors (assets.map (Asset.rename ids)) (pipeIds.map ids.part)
        (seen.map ids.sensor) (sensors.map (Sensor.rename ids)) = [] ↔
      sensorErrors assets pipeIds seen sensors = [] := by
  induction sensors generalizing seen with
  | nil => simp [sensorErrors]
  | cons sensor sensors ih =>
      simp only [List.map_cons, sensorErrors, List.append_eq_nil_iff]
      rw [← ih]
      refine and_congr (duplicateError_rename ids.sensor_injective sensor.sensorId) ?_
      exact and_congr_left fun _ => sensorTargetError_rename ids sensor

/-- A renamed lab is eligible when the lab is. -/
theorem labErrors_rename (definition : LabDefinition R) :
    labErrors (definition.rename ids) = [] ↔ labErrors definition = [] := by
  have pipeIds : (definition.rename ids).pipes.map (·.pipeId) =
      (definition.pipes.map (·.pipeId)).map ids.part := by
    simp [LabDefinition.rename, Function.comp_def, Pipe.rename]
  unfold labErrors
  rw [pipeIds]
  cases assets : definition.assets with
  | nil => simp [LabDefinition.rename, assets]
  | cons asset rest =>
      have first := assetErrors_rename ids (asset :: rest) []
      have second := pipeErrors_rename ids (asset :: rest) [] [] definition.pipes
      have third := sensorErrors_rename ids (asset :: rest)
        (definition.pipes.map (·.pipeId)) [] definition.sensors
      simp only [LabDefinition.rename, assets, List.map_cons, List.append_eq_nil_iff]
      exact and_congr first (and_congr second third)

end Errors

/-! ### Nodes -/

def NodeId.rename : NodeId → NodeId
  | .asset assetId => .asset (ids.part assetId)
  | .port assetId name => .port (ids.part assetId) name

def EdgeId.rename : EdgeId → EdgeId
  | .pipe id => .pipe (ids.part id)
  | .internal id => .internal (ids.part id)

def renameSlot (pair : Asset R × NodeSlot R) : Asset R × NodeSlot R :=
  (pair.1.rename ids, { pair.2 with nodeId := pair.2.nodeId.rename ids })

def NetworkNode.rename (place : Nat → Nat) (node : NetworkNode R) : NetworkNode R := { node with
  nodeId := node.nodeId.rename ids
  nodeIndex := place node.nodeIndex
  assetId := ids.part node.assetId }

theorem nodeSlots_rename (asset : Asset R) : nodeSlots (asset.rename ids) =
    (nodeSlots asset).map fun slot => { slot with nodeId := slot.nodeId.rename ids } := by
  unfold nodeSlots
  simp only [Asset.rename]
  cases asset.type <;> rfl

theorem allSlots_rename (assets : List (Asset R)) :
    allSlots (assets.map (Asset.rename ids)) = (allSlots assets).map (renameSlot ids) := by
  unfold allSlots
  rw [List.flatMap_map, List.map_flatMap]
  congr 1
  funext asset
  rw [nodeSlots_rename, List.map_map, List.map_map]
  rfl

/-- The nodes have names. -/
structure Named (made : List (Asset R × NodeSlot R)) (table : NodeTable R) : Prop where
  length : table.nodes.length = made.length
  names : ∀ id index, table.nodeIdToIndex.get? id = some index ↔
    ∃ pair, made[index]? = some pair ∧ pair.2.nodeId = id

theorem Named.add {made : List (Asset R × NodeSlot R)} {table : NodeTable R} {asset : Asset R}
    {slot : NodeSlot R} (named : Named made table)
    (new : ∀ pair ∈ made, pair.2.nodeId ≠ slot.nodeId) :
    Named (made ++ [(asset, slot)]) (table.add asset slot) := by
  constructor
  · simp [NodeTable.add, named.length]
  · intro id index
    show (table.nodeIdToIndex.set slot.nodeId table.nodes.length).get? id = some index ↔ _
    by_cases here : id = slot.nodeId
    · subst here
      rw [Lib.Table.get?_set_self, named.length, Option.some.injEq]
      constructor
      · rintro rfl
        exact ⟨(asset, slot), by simp, rfl⟩
      · rintro ⟨pair, held, its⟩
        rcases Lib.getElem?_concat_eq_some.mp held with before | ⟨rfl, -⟩
        · exact absurd its (new pair (List.mem_of_getElem? before))
        · rfl
    · rw [Lib.Table.get?_set_ne here, named.names]
      constructor
      · rintro ⟨pair, held, its⟩
        exact ⟨pair, Lib.getElem?_concat_eq_some.mpr (.inl held), its⟩
      · rintro ⟨pair, held, its⟩
        rcases Lib.getElem?_concat_eq_some.mp held with before | ⟨-, rfl⟩
        · exact ⟨pair, before, its⟩
        · exact absurd its.symm here

theorem named_foldl {made rest : List (Asset R × NodeSlot R)} {table : NodeTable R}
    (named : Named made table) (distinct : ((made ++ rest).map fun pair => pair.2.nodeId).Nodup) :
    Named (made ++ rest) (rest.foldl (fun table pair => table.add pair.1 pair.2) table) := by
  induction rest generalizing made table with
  | nil =>
      rw [List.append_nil]
      exact named
  | cons pair rest ih =>
      have shift : made ++ pair :: rest = made ++ [pair] ++ rest := by simp
      have new : ∀ other ∈ made, other.2.nodeId ≠ pair.2.nodeId := by
        intro other mem same
        rw [List.map_append] at distinct
        exact (List.nodup_append.mp distinct).2.2 _ (List.mem_map_of_mem mem) _
          (List.mem_map_of_mem List.mem_cons_self) same
      rw [shift] at distinct ⊢
      exact ih (named.add new) distinct

section Nodes

variable {definition : LabDefinition R}

theorem RunEligible.named (eligible : RunEligible definition) :
    Named (allSlots (sortedAssets definition)) (nodesOf definition) := by
  have ids := ((perm_sortedAssets definition).map (·.assetId)).nodup_iff.mpr eligible.assetIds
  have empty : Named [] (.empty : NodeTable R) :=
    ⟨rfl, fun _ _ => ⟨nofun, fun ⟨_, held, _⟩ => nomatch held⟩⟩
  exact named_foldl empty (nodup_nodeIds ids)

theorem perm_sortedAssets_rename (definition : LabDefinition R) :
    (sortedAssets (definition.rename ids)).Perm
      ((sortedAssets definition).map (Asset.rename ids)) :=
  (perm_sortedAssets _).trans ((perm_sortedAssets definition).map _).symm

theorem perm_sortedPipes_rename (definition : LabDefinition R) :
    (sortedPipes (definition.rename ids)).Perm
      ((sortedPipes definition).map (Pipe.rename ids)) :=
  (perm_sortedPipes _).trans ((perm_sortedPipes definition).map _).symm

/-- The nodes of a renamed lab are those of the lab, in the order of the new ids. -/
theorem exists_nodePlaces (definition : LabDefinition R) : ∃ place : Equiv.Perm Nat,
    ∀ i, (allSlots (sortedAssets (definition.rename ids)))[place i]? =
      (allSlots (sortedAssets definition))[i]?.map (renameSlot ids) := by
  have perm : (allSlots (sortedAssets (definition.rename ids))).Perm
      ((allSlots (sortedAssets definition)).map (renameSlot ids)) := by
    rw [← allSlots_rename]
    exact (perm_sortedAssets_rename ids definition).flatMap_right _
  obtain ⟨place, there⟩ := Lib.exists_places perm.symm
  exact ⟨place, fun i => (there i).trans List.getElem?_map⟩

variable {place : Equiv.Perm Nat}
  (places : ∀ i, (allSlots (sortedAssets (definition.rename ids)))[place i]? =
    (allSlots (sortedAssets definition))[i]?.map (renameSlot ids))
  (eligible : RunEligible definition) (eligible' : RunEligible (definition.rename ids))

include places eligible eligible'

theorem nodes_rename (i : Nat) : (nodesOf (definition.rename ids)).nodes[place i]? =
    (nodesOf definition).nodes[i]?.map (NetworkNode.rename ids place) := by
  rw [eligible.numbered.getElem?, eligible'.numbered.getElem?, places, Option.map_map,
    Option.map_map]
  rfl

theorem ports_rename : (nodesOf definition).portToNodeIndex.Renamed
    (nodesOf (definition.rename ids)).portToNodeIndex (PortRef.rename ids) place := by
  refine Lib.Table.renamed_of_indexes eligible.numbered.ports eligible'.numbered.ports places ?_
  rintro pair - ⟨id, port⟩
  constructor
  · rintro ⟨rfl, its⟩
    exact ⟨⟨pair.1.assetId, port⟩, ⟨rfl, its⟩, rfl⟩
  · rintro ⟨ref, ⟨same, its⟩, renamed⟩
    obtain ⟨rfl, rfl⟩ := PortRef.mk.inj renamed
    exact ⟨congrArg ids.part same, its⟩

theorem nodeIds_rename : (nodesOf definition).nodeIdToIndex.Renamed
    (nodesOf (definition.rename ids)).nodeIdToIndex (NodeId.rename ids) place := by
  refine Lib.Table.renamed_of_indexes eligible.named.names eligible'.named.names places ?_
  intro pair _ id
  constructor
  · rintro rfl
    exact ⟨_, rfl, rfl⟩
  · rintro ⟨_, rfl, rfl⟩
    rfl

end Nodes

/-! ### Edges, sources, sinks and sensors -/

def NetworkEdge.rename (place : Nat → Nat) (edge : NetworkEdge R) : NetworkEdge R := { edge with
  edgeId := edge.edgeId.rename ids
  fromNode := place edge.fromNode
  toNode := place edge.toNode
  assetId := edge.assetId.map ids.part }

def CompressorSource.rename (place : Nat → Nat) (source : CompressorSource R) :
    CompressorSource R := { source with
  assetId := ids.part source.assetId
  nodeIndex := place source.nodeIndex }

def DemandSink.rename (place : Nat → Nat) (sink : DemandSink R) : DemandSink R := { sink with
  assetId := ids.part sink.assetId
  nodeIndex := place sink.nodeIndex }

/-- A pressure is read at a node, a flow at an edge. -/
def renameTarget (nodes edges : Nat → Nat) :
    SensorKind × Nat × Int → SensorKind × Nat × Int
  | (.PRESSURE, index, sign) => (.PRESSURE, nodes index, sign)
  | (.FLOW, index, sign) => (.FLOW, edges index, sign)

section Edges

variable {ports ports' : Lib.Table PortRef Nat} {edgeIds edgeIds' : Lib.Table EdgeId Nat}
  {place edges : Nat → Nat}
  (renamed : ports.Renamed ports' (PortRef.rename ids) place)

include renamed

theorem portIndex_rename {ref : PortRef} {index : Nat} (found : portIndex ports ref = .ok index) :
    portIndex ports' (ref.rename ids) = .ok (place index) :=
  portIndex_eq_ok.mpr (renamed.get? (portIndex_eq_ok.mp found))

theorem pipeEdge_rename {pipe : Pipe R} {edge : NetworkEdge R}
    (made : pipeEdge ports pipe = .ok edge) :
    pipeEdge ports' (pipe.rename ids) = .ok (edge.rename ids place) := by
  obtain ⟨i, source, made⟩ := Lib.bind_eq_ok_iff.mp made
  obtain ⟨j, sink, made⟩ := Lib.bind_eq_ok_iff.mp made
  obtain rfl := Lib.pure_eq_ok_iff.mp made
  exact Lib.bind_eq_ok_iff.mpr ⟨place i, portIndex_rename ids renamed source,
    Lib.bind_eq_ok_iff.mpr ⟨place j, portIndex_rename ids renamed sink, rfl⟩⟩

theorem valveEdge_rename {asset : Asset R} {edge : NetworkEdge R}
    (made : valveEdge ports asset = .ok edge) :
    valveEdge ports' (asset.rename ids) = .ok (edge.rename ids place) := by
  obtain ⟨i, source, made⟩ := Lib.bind_eq_ok_iff.mp made
  obtain ⟨j, sink, made⟩ := Lib.bind_eq_ok_iff.mp made
  obtain rfl := Lib.pure_eq_ok_iff.mp made
  exact Lib.bind_eq_ok_iff.mpr ⟨place i, portIndex_rename ids renamed source,
    Lib.bind_eq_ok_iff.mpr ⟨place j, portIndex_rename ids renamed sink, rfl⟩⟩

theorem compressorSource_rename {asset : Asset R} {source : CompressorSource R}
    (made : compressorSource ports asset = .ok source) :
    compressorSource ports' (asset.rename ids) = .ok (source.rename ids place) := by
  obtain ⟨i, found, made⟩ := Lib.bind_eq_ok_iff.mp made
  obtain rfl := Lib.pure_eq_ok_iff.mp made
  exact Lib.bind_eq_ok_iff.mpr ⟨place i, portIndex_rename ids renamed found, rfl⟩

theorem demandSink_rename {asset : Asset R} {sink : DemandSink R}
    (made : demandSink ports asset = .ok sink) :
    demandSink ports' (asset.rename ids) = .ok (sink.rename ids place) := by
  obtain ⟨i, found, made⟩ := Lib.bind_eq_ok_iff.mp made
  obtain rfl := Lib.pure_eq_ok_iff.mp made
  exact Lib.bind_eq_ok_iff.mpr ⟨place i, portIndex_rename ids renamed found, rfl⟩

omit [LabNumber R] in
theorem sensorTargetIndex_rename {sensor : Sensor R} {target : SensorKind × Nat × Int}
    (renamedEdges : edgeIds.Renamed edgeIds' (EdgeId.rename ids) edges)
    (made : sensorTargetIndex ports edgeIds sensor = .ok target) :
    sensorTargetIndex ports' edgeIds' (sensor.rename ids) =
      .ok (renameTarget place edges target) := by
  unfold sensorTargetIndex at made ⊢
  cases its : sensor.target with
  | pressure port =>
      rw [its] at made
      simp only [Sensor.rename, its, SensorTarget.rename]
      obtain ⟨i, found, made⟩ := Lib.bind_eq_ok_iff.mp made
      obtain rfl := Lib.pure_eq_ok_iff.mp made
      exact Lib.bind_eq_ok_iff.mpr ⟨place i, portIndex_rename ids renamed found, rfl⟩
  | flow pipe =>
      rw [its] at made
      dsimp only at made
      cases found : edgeIds.get? (.pipe pipe) with
      | none =>
          rw [found] at made
          cases made
      | some index =>
          rw [found] at made
          cases made
          have there := renamedEdges.get? found
          simp only [Sensor.rename, its, SensorTarget.rename]
          rw [show EdgeId.pipe (ids.part pipe) = (EdgeId.pipe pipe).rename ids from rfl, there]
          rfl

end Edges

/-! ### The network -/

/-- What `compileLab` puts beside nodes and edges. -/
structure CompiledArrays (definition : LabDefinition R) (dt : R) (network : CompiledNetwork R) :
    Prop where
  definitionDigest : network.definitionDigest = definition.sceneRevision
  targets : ∃ targets, List.Forall₂ (fun sensor target =>
      sensorTargetIndex network.portToNodeIndex network.edgeIdToIndex sensor = .ok target)
      definition.sensors targets ∧
    network.sensorTargets = tableOf ((definition.sensors.map (·.sensorId)).zip targets)
  volumes : network.volumes = network.nodes.map (·.volumeM3)
  capacitances : network.capacitances = network.nodes.map (·.capacitance)
  cOverDt : network.cOverDt = network.capacitances.map (· / dt)
  baseLaplacian : network.baseLaplacian = laplacian network.edges (·.baseConductance)

theorem compileLab_arrays {definition : LabDefinition R} {dt : R} {network : CompiledNetwork R}
    (compiled : compileLab definition dt = .ok network) : CompiledArrays definition dt network := by
  unfold compileLab at compiled
  dsimp only at compiled
  split at compiled
  · cases compiled
  · obtain ⟨pipes, -, rest⟩ := Lib.bind_eq_ok_iff.mp compiled
    obtain ⟨valves, -, rest⟩ := Lib.bind_eq_ok_iff.mp rest
    obtain ⟨compressors, -, rest⟩ := Lib.bind_eq_ok_iff.mp rest
    obtain ⟨demands, -, rest⟩ := Lib.bind_eq_ok_iff.mp rest
    obtain ⟨targets, targetsOk, rest⟩ := Lib.bind_eq_ok_iff.mp rest
    obtain rfl := Lib.pure_eq_ok_iff.mp rest
    exact ⟨rfl, ⟨targets, Lib.mapM_eq_ok_iff_forall₂.mp targetsOk, rfl⟩, rfl, rfl, rfl, rfl⟩

/-- The same network under new ids, its nodes and edges at new places. -/
structure SameNetwork (nodes edges : Equiv.Perm Nat) (network network' : CompiledNetwork R) :
    Prop where
  definitionDigest : network'.definitionDigest = network.definitionDigest
  node : ∀ i, network'.nodes[nodes i]? = network.nodes[i]?.map (NetworkNode.rename ids nodes)
  nodeIdToIndex : network.nodeIdToIndex.Renamed network'.nodeIdToIndex (NodeId.rename ids) nodes
  portToNodeIndex :
    network.portToNodeIndex.Renamed network'.portToNodeIndex (PortRef.rename ids) nodes
  edge : ∀ i, network'.edges[edges i]? = network.edges[i]?.map (NetworkEdge.rename ids nodes)
  edgeIdToIndex : network.edgeIdToIndex.Renamed network'.edgeIdToIndex (EdgeId.rename ids) edges
  compressors : network'.compressors.Perm (network.compressors.map (CompressorSource.rename ids nodes))
  demands : network'.demands.Perm (network.demands.map (DemandSink.rename ids nodes))
  sensorTargets : network.sensorTargets.Renamed network'.sensorTargets ids.sensor
    (renameTarget nodes edges)
  volume : ∀ i, network'.volumes[nodes i]? = network.volumes[i]?
  capacitance : ∀ i, network'.capacitances[nodes i]? = network.capacitances[i]?
  cOverDt : ∀ i, network'.cOverDt[nodes i]? = network.cOverDt[i]?

section Network

variable {definition : LabDefinition R} {dt : R} {network network' : CompiledNetwork R}
  {nodes : Equiv.Perm Nat} {pipes valves pipes' valves' : List (NetworkEdge R)}

/-- The assets of a kind, in the order of the new ids. -/
theorem perm_filter_rename (definition : LabDefinition R) (kind : AssetType → Bool) :
    ((sortedAssets (definition.rename ids)).filter (kind ·.type)).Perm
      (((sortedAssets definition).filter (kind ·.type)).map (Asset.rename ids)) := by
  have perm := (perm_sortedAssets_rename ids definition).filter (kind ·.type)
  rw [List.filter_map] at perm
  exact perm

section Rows

variable (ports : network.portToNodeIndex.Renamed network'.portToNodeIndex (PortRef.rename ids) nodes)
  (compiled : Compiled definition network pipes valves)
  (compiled' : Compiled (definition.rename ids) network' pipes' valves')

include ports compiled compiled'

theorem perm_edges_rename :
    (pipes' ++ valves').Perm ((pipes ++ valves).map (NetworkEdge.rename ids nodes)) := by
  rw [List.map_append]
  refine .append ?_ ?_
  · exact Lib.perm_map_of_forall₂ (fun _ _ => pipeEdge_rename ids ports)
      (fun _ _ _ first second => Except.ok.inj (first.symm.trans second))
      (perm_sortedPipes_rename ids definition) compiled.pipesMade compiled'.pipesMade
  · exact Lib.perm_map_of_forall₂ (fun _ _ => valveEdge_rename ids ports)
      (fun _ _ _ first second => Except.ok.inj (first.symm.trans second))
      (perm_filter_rename ids definition AssetType.isValve) compiled.valvesMade compiled'.valvesMade

theorem perm_compressors_rename : network'.compressors.Perm
    (network.compressors.map (CompressorSource.rename ids nodes)) :=
  Lib.perm_map_of_forall₂ (fun _ _ => compressorSource_rename ids ports)
    (fun _ _ _ first second => Except.ok.inj (first.symm.trans second))
    (perm_filter_rename ids definition fun type => type = .compressor) compiled.compressors compiled'.compressors

theorem perm_demands_rename : network'.demands.Perm
    (network.demands.map (DemandSink.rename ids nodes)) :=
  Lib.perm_map_of_forall₂ (fun _ _ => demandSink_rename ids ports)
    (fun _ _ _ first second => Except.ok.inj (first.symm.trans second))
    (perm_filter_rename ids definition fun type => type = .demand) compiled.demands compiled'.demands

end Rows

/-- The row of each sensor. -/
theorem sensorTargets_rename {edges : Nat → Nat}
    (eligible : RunEligible definition) (arrays : CompiledArrays definition dt network)
    (arrays' : CompiledArrays (definition.rename ids) dt network')
    (ports : network.portToNodeIndex.Renamed network'.portToNodeIndex (PortRef.rename ids) nodes)
    (edgeIds : network.edgeIdToIndex.Renamed network'.edgeIdToIndex (EdgeId.rename ids) edges) :
    network.sensorTargets.Renamed network'.sensorTargets ids.sensor (renameTarget nodes edges) := by
  obtain ⟨targets, made, rows⟩ := arrays.targets
  obtain ⟨targets', made', rows'⟩ := arrays'.targets
  have same : targets.map (renameTarget nodes edges) = targets' :=
    Lib.forall₂_unique (fun _ _ _ first second => Except.ok.inj (first.symm.trans second))
      (Lib.forall₂_rename (fun _ _ => sensorTargetIndex_rename ids ports edgeIds) made) made'
  have sensorIds : (definition.rename ids).sensors.map (·.sensorId) =
      (definition.sensors.map (·.sensorId)).map ids.sensor := by
    simp [LabDefinition.rename, Function.comp_def, Sensor.rename]
  have keys : ((definition.sensors.map (·.sensorId)).zip targets).map Prod.fst =
      definition.sensors.map (·.sensorId) :=
    List.map_fst_zip (by rw [List.length_map]; exact made.length_eq.le)
  have renamed : ((definition.rename ids).sensors.map (·.sensorId)).zip targets' =
      ((definition.sensors.map (·.sensorId)).zip targets).map
        (Prod.map ids.sensor (renameTarget nodes edges)) := by
    rw [sensorIds, ← same, List.zip_map]
  have nodup : (((definition.sensors.map (·.sensorId)).zip targets).map Prod.fst).Nodup := by
    rw [keys]
    exact eligible.sensorIds
  have nodup' : ((((definition.sensors.map (·.sensorId)).zip targets).map
      (Prod.map ids.sensor (renameTarget nodes edges))).map Prod.fst).Nodup := by
    have injected := nodup.map ids.sensor_injective
    rw [List.map_map] at injected ⊢
    exact injected
  intro id target
  rw [rows, rows', renamed, get?_tableOf nodup', Lib.Table.lookup_eq_some_iff nodup']
  constructor
  · intro mem
    obtain ⟨⟨k, v⟩, row, its⟩ := List.mem_map.mp mem
    obtain ⟨rfl, rfl⟩ := Prod.mk.inj its
    refine ⟨k, v, ?_, rfl, rfl⟩
    rw [get?_tableOf nodup, Lib.Table.lookup_eq_some_iff nodup]
    exact row
  · rintro ⟨k, v, held, rfl, rfl⟩
    rw [get?_tableOf nodup, Lib.Table.lookup_eq_some_iff nodup] at held
    exact List.mem_map.mpr ⟨(k, v), held, rfl⟩

/-- Compilation does not depend on the ids. -/
theorem sameNetwork_rename (eligible : RunEligible definition)
    (eligible' : RunEligible (definition.rename ids))
    (compiled : compileLab definition dt = .ok network)
    (compiled' : compileLab (definition.rename ids) dt = .ok network') :
    ∃ nodes edges, SameNetwork ids nodes edges network network' := by
  have arrays := compileLab_arrays compiled
  have arrays' := compileLab_arrays compiled'
  obtain ⟨pipes, valves, compiled⟩ := compileLab_eq_ok compiled
  obtain ⟨pipes', valves', compiled'⟩ := compileLab_eq_ok compiled'
  obtain ⟨nodes, places⟩ := exists_nodePlaces ids definition
  have node : ∀ i, network'.nodes[nodes i]? =
      network.nodes[i]?.map (NetworkNode.rename ids nodes) := by
    rw [compiled.nodes, compiled'.nodes]
    exact nodes_rename ids places eligible eligible'
  have ports : network.portToNodeIndex.Renamed network'.portToNodeIndex (PortRef.rename ids)
      nodes := by
    rw [compiled.nodes, compiled'.nodes]
    exact ports_rename ids places eligible eligible'
  obtain ⟨edges, edgePlaces⟩ := Lib.exists_places
    (perm_edges_rename ids ports compiled compiled').symm
  obtain ⟨listed, indexed⟩ := compiled.edgeTable eligible
  obtain ⟨listed', indexed'⟩ := compiled'.edgeTable eligible'
  have edge : ∀ i, network'.edges[edges i]? =
      network.edges[i]?.map (NetworkEdge.rename ids nodes) := by
    intro i
    rw [listed, listed', edgePlaces, List.getElem?_map]
  have edgeIds : network.edgeIdToIndex.Renamed network'.edgeIdToIndex (EdgeId.rename ids)
      edges := by
    refine Lib.Table.renamed_of_indexes indexed indexed' edge ?_
    intro edge _ id
    constructor
    · rintro rfl
      exact ⟨_, rfl, rfl⟩
    · rintro ⟨_, rfl, rfl⟩
      rfl
  have capacitance : ∀ i, network'.capacitances[nodes i]? = network.capacitances[i]? := by
    intro i
    rw [arrays.capacitances, arrays'.capacitances, List.getElem?_map, List.getElem?_map, node,
      Option.map_map]
    rfl
  refine ⟨nodes, edges, ?_, node, ?_, ports, edge, edgeIds,
    perm_compressors_rename ids ports compiled compiled',
    perm_demands_rename ids ports compiled compiled',
    sensorTargets_rename ids eligible arrays arrays' ports edgeIds, ?_, capacitance, ?_⟩
  · rw [arrays.definitionDigest, arrays'.definitionDigest]
    rfl
  · rw [compiled.nodes, compiled'.nodes]
    exact nodeIds_rename ids places eligible eligible'
  · intro i
    rw [arrays.volumes, arrays'.volumes, List.getElem?_map, List.getElem?_map, node,
      Option.map_map]
    rfl
  · intro i
    rw [arrays.cOverDt, arrays'.cOverDt, List.getElem?_map, List.getElem?_map, capacitance]

end Network

/-! ### The base Laplacian, in exact arithmetic -/

section Exact

variable {K : Type} [ExactNumber K] {definition definition' : LabDefinition K} {dt : K}
  {network network' : CompiledNetwork K} {nodes edges : Equiv.Perm Nat}

/-- What an edge between `i` and `j` adds to an entry. -/
def stampEntry (i j : Nat) (k : K) (a b : Nat) : K :=
  (if a = i ∧ b = i then k else 0) + (if a = j ∧ b = j then k else 0) -
    (if a = i ∧ b = j then k else 0) - if a = j ∧ b = i then k else 0

theorem stamp_apply (matrix : Nat → Nat → K) (i j : Nat) (k : K) (a b : Nat) :
    stamp matrix i j k a b = matrix a b + stampEntry i j k a b := by
  unfold stamp subAt addAt stampEntry
  grind

/-- A Laplacian is the sum over its edges, in any order. -/
theorem laplacian_apply (edges : List (NetworkEdge K)) (conductance : NetworkEdge K → K)
    (a b : Nat) : laplacian edges conductance a b =
      (edges.map fun edge =>
        stampEntry edge.fromNode edge.toNode (conductance edge) a b).sum := by
  have general (matrix : Nat → Nat → K) :
      edges.foldl (fun matrix edge => stamp matrix edge.fromNode edge.toNode (conductance edge))
          matrix a b =
        matrix a b + (edges.map fun edge =>
          stampEntry edge.fromNode edge.toNode (conductance edge) a b).sum := by
    induction edges generalizing matrix with
    | nil => simp
    | cons edge edges ih =>
        rw [List.foldl_cons, ih, stamp_apply, List.map_cons, List.sum_cons, add_assoc]
  unfold laplacian
  rw [general, LabNumber.num_eq, Rat.cast_zero, zero_add]

theorem stampEntry_place (place : Equiv.Perm Nat) (i j : Nat) (k : K) (a b : Nat) :
    stampEntry (place i) (place j) k (place a) (place b) = stampEntry i j k a b := by
  unfold stampEntry
  simp only [place.injective.eq_iff]

/-- The base Laplacian is the same at the new places. -/
theorem SameNetwork.baseLaplacian (same : SameNetwork ids nodes edges network network')
    (compiled : compileLab definition dt = .ok network)
    (compiled' : compileLab definition' dt = .ok network') (a b : Nat) :
    network'.baseLaplacian (nodes a) (nodes b) = network.baseLaplacian a b := by
  have perm : (network.edges.map (NetworkEdge.rename ids nodes)).Perm network'.edges :=
    Lib.perm_of_places fun i => by rw [same.edge, List.getElem?_map]
  rw [(compileLab_arrays compiled).baseLaplacian, (compileLab_arrays compiled').baseLaplacian,
    laplacian_apply, laplacian_apply, ← (perm.map _).sum_eq, List.map_map]
  congr 1
  refine List.map_congr_left fun edge _ => ?_
  exact stampEntry_place nodes edge.fromNode edge.toNode edge.baseConductance a b

end Exact

end IndustrialReliability
