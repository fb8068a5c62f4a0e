import IndustrialReliability.Lab.Sensors
import IndustrialReliability.Lab.Exact
import IndustrialReliability.Lib.Results

/-!
An eligible lab compiles and can be sampled.

`Numbered` says what the table of nodes holds after some of them have been made; from
it every lookup that `compileLab`, `step` and `observe` make is known to succeed.
-/

namespace IndustrialReliability

variable {R : Type} [LabNumber R]

/-! ### Nodes -/

/-- The node serves a port. -/
def Serves (made : Asset R × NodeSlot R) (ref : PortRef) : Prop :=
  made.1.assetId = ref.assetId ∧ ref.port ∈ made.2.ports

/-- The nodes made so far, and where their ports lead. -/
structure Numbered (made : List (Asset R × NodeSlot R)) (table : NodeTable R) : Prop where
  nodes : table.nodes = made.mapIdx fun index pair => NodeTable.newNode index pair.1 pair.2
  ports : ∀ ref index, table.portToNodeIndex.get? ref = some index ↔
    ∃ pair, made[index]? = some pair ∧ Serves pair ref

theorem numbered_empty : Numbered [] (.empty : NodeTable R) := by
  refine ⟨rfl, fun ref index => ⟨fun held => ?_, ?_⟩⟩
  · cases held
  · rintro ⟨pair, held, -⟩
    cases held

/-- Setting the ports of an asset. -/
theorem get?_foldl_set (indexes : Lib.Table PortRef Nat) (asset : UUID) (ports : List PortName)
    (index : Nat) (ref : PortRef) :
    (ports.foldl (fun indexes port => indexes.set ⟨asset, port⟩ index) indexes).get? ref =
      if asset = ref.assetId ∧ ref.port ∈ ports then some index else indexes.get? ref := by
  induction ports generalizing indexes with
  | nil => simp
  | cons port ports ih =>
      rw [List.foldl_cons, ih]
      by_cases later : asset = ref.assetId ∧ ref.port ∈ ports
      · rw [if_pos later, if_pos ⟨later.1, List.mem_cons_of_mem _ later.2⟩]
      · rw [if_neg later]
        by_cases here : ref = ⟨asset, port⟩
        · subst here
          rw [Lib.Table.get?_set_self, if_pos ⟨rfl, List.mem_cons_self⟩]
        · rw [Lib.Table.get?_set_ne here, if_neg]
          rintro ⟨same, mem⟩
          rcases List.mem_cons.mp mem with first | mem
          · refine here ?_
            cases ref
            simp_all
          · exact later ⟨same, mem⟩

theorem Numbered.add {made : List (Asset R × NodeSlot R)} {table : NodeTable R} {asset : Asset R}
    {slot : NodeSlot R} (numbered : Numbered made table)
    (apart : ∀ pair ∈ made, ∀ ref, Serves pair ref → ¬ Serves (asset, slot) ref) :
    Numbered (made ++ [(asset, slot)]) (table.add asset slot) := by
  have length : table.nodes.length = made.length := by
    rw [numbered.nodes, List.length_mapIdx]
  constructor
  · show table.nodes ++ [NodeTable.newNode table.nodes.length asset slot] = _
    rw [List.mapIdx_append, numbered.nodes, List.length_mapIdx]
    simp
  · intro ref index
    show (slot.ports.foldl (fun indexes port => indexes.set ⟨asset.assetId, port⟩ table.nodes.length)
      table.portToNodeIndex).get? ref = some index ↔ _
    rw [get?_foldl_set]
    by_cases serves : asset.assetId = ref.assetId ∧ ref.port ∈ slot.ports
    · rw [if_pos serves, length, Option.some.injEq]
      constructor
      · rintro rfl
        exact ⟨(asset, slot), by simp, serves⟩
      · rintro ⟨pair, held, its⟩
        rcases Lib.getElem?_concat_eq_some.mp held with before | ⟨rfl, -⟩
        · exact absurd serves (apart pair (List.mem_of_getElem? before) ref its)
        · rfl
    · rw [if_neg serves, numbered.ports]
      constructor
      · rintro ⟨pair, held, its⟩
        exact ⟨pair, Lib.getElem?_concat_eq_some.mpr (.inl held), its⟩
      · rintro ⟨pair, held, its⟩
        rcases Lib.getElem?_concat_eq_some.mp held with before | ⟨-, rfl⟩
        · exact ⟨pair, before, its⟩
        · exact absurd its serves

/-- No two of the nodes serve one port. -/
def Apart (first second : Asset R × NodeSlot R) : Prop := ∀ ref, Serves first ref → ¬ Serves second ref

theorem numbered_foldl {made rest : List (Asset R × NodeSlot R)} {table : NodeTable R}
    (numbered : Numbered made table) (apart : (made ++ rest).Pairwise Apart) :
    Numbered (made ++ rest) (rest.foldl (fun table pair => table.add pair.1 pair.2) table) := by
  induction rest generalizing made table with
  | nil =>
      rw [List.append_nil]
      exact numbered
  | cons pair rest ih =>
      obtain ⟨asset, slot⟩ := pair
      have first : Numbered (made ++ [(asset, slot)]) (table.add asset slot) := by
        apply numbered.add
        intro pair mem
        exact (List.pairwise_append.mp apart).2.2 pair mem _ List.mem_cons_self
      have shift : made ++ (asset, slot) :: rest = made ++ [(asset, slot)] ++ rest := by simp
      rw [shift] at apart ⊢
      exact ih first apart

/-- The nodes of one asset. -/
theorem nodeSlots_spec (asset : Asset R) :
    (nodeSlots asset).Pairwise (fun first second => ∀ port ∈ first.ports, port ∉ second.ports) ∧
      ∀ port, port ∈ VALID_PORTS_BY_ASSET_TYPE asset.type ↔ ∃ slot ∈ nodeSlots asset, port ∈ slot.ports := by
  unfold nodeSlots VALID_PORTS_BY_ASSET_TYPE
  cases asset.type <;> simp

/-- The key of a node is that of the ports it serves. -/
theorem nodeId_eq_nodeKey {asset : Asset R} {slot : NodeSlot R} {port : PortName}
    (mem : slot ∈ nodeSlots asset) (serves : port ∈ slot.ports) :
    slot.nodeId = nodeKey asset.type ⟨asset.assetId, port⟩ := by
  unfold nodeSlots at mem
  unfold nodeKey
  cases type : asset.type <;> simp [type] at mem <;> (try rcases mem with rfl | rfl) <;>
    simp_all [AssetType.isValve]

theorem mem_allSlots {assets : List (Asset R)} {pair : Asset R × NodeSlot R} :
    pair ∈ allSlots assets ↔ pair.1 ∈ assets ∧ pair.2 ∈ nodeSlots pair.1 := by
  unfold allSlots
  rw [List.mem_flatMap]
  constructor
  · rintro ⟨asset, mem, its⟩
    obtain ⟨slot, own, rfl⟩ := List.mem_map.mp its
    exact ⟨mem, own⟩
  · rintro ⟨mem, own⟩
    exact ⟨pair.1, mem, List.mem_map.mpr ⟨pair.2, own, rfl⟩⟩

/-- No two nodes of a lab serve one port. -/
theorem pairwise_allSlots {assets : List (Asset R)} (ids : (assets.map (·.assetId)).Nodup) :
    (allSlots assets).Pairwise Apart := by
  induction assets with
  | nil => exact .nil
  | cons asset assets ih =>
      obtain ⟨fresh, rest⟩ := List.nodup_cons.mp ids
      refine List.pairwise_append.mpr ⟨?_, ih rest, ?_⟩
      · rw [List.pairwise_map]
        refine (nodeSlots_spec asset).1.imp fun apart ref first second => ?_
        exact apart ref.port first.2 second.2
      · intro first mem second later ref serves its
        obtain ⟨slot, -, rfl⟩ := List.mem_map.mp mem
        have same : asset.assetId = second.1.assetId := serves.1.trans its.1.symm
        exact fresh (List.mem_map.mpr ⟨_, (mem_allSlots.mp later).1, same.symm⟩)

theorem numbered_nodeTable {assets : List (Asset R)} (ids : (assets.map (·.assetId)).Nodup) :
    Numbered (allSlots assets) (nodeTable (allSlots assets)) := by
  have all : ([] ++ allSlots assets).Pairwise Apart := pairwise_allSlots ids
  exact numbered_foldl numbered_empty all

section Lookups

variable {definition : LabDefinition R} {ref : PortRef} {index : Nat}

theorem perm_sortedAssets (definition : LabDefinition R) :
    (sortedAssets definition).Perm definition.assets := List.perm_insertionSort _ _

theorem perm_sortedPipes (definition : LabDefinition R) :
    (sortedPipes definition).Perm definition.pipes := List.perm_insertionSort _ _

/-- The table of nodes of a definition. -/
def nodesOf (definition : LabDefinition R) : NodeTable R := nodeTable (allSlots (sortedAssets definition))

theorem RunEligible.numbered (eligible : RunEligible definition) :
    Numbered (allSlots (sortedAssets definition)) (nodesOf definition) :=
  numbered_nodeTable (((perm_sortedAssets definition).map _).nodup_iff.mpr eligible.assetIds)

/-- The node a port is mapped to. -/
structure LeadsTo (nodes : NodeTable R) (asset : Asset R) (port : PortName) (index : Nat)
    (node : NetworkNode R) : Prop where
  mapped : nodes.portToNodeIndex.get? ⟨asset.assetId, port⟩ = some index
  held : nodes.nodes[index]? = some node
  assetId : node.assetId = asset.assetId
  nodeId : node.nodeId = nodeKey asset.type ⟨asset.assetId, port⟩

theorem Numbered.getElem? {made : List (Asset R × NodeSlot R)} {table : NodeTable R}
    (numbered : Numbered made table) (index : Nat) :
    table.nodes[index]? = made[index]?.map fun pair => NodeTable.newNode index pair.1 pair.2 := by
  rw [numbered.nodes, List.getElem?_mapIdx]

/-- Every port of an asset leads to its node. -/
theorem RunEligible.leadsTo (eligible : RunEligible definition) {asset : Asset R}
    (mem : asset ∈ definition.assets) {port : PortName}
    (valid : port ∈ VALID_PORTS_BY_ASSET_TYPE asset.type) :
    ∃ index node, LeadsTo (nodesOf definition) asset port index node := by
  obtain ⟨slot, own, serves⟩ := ((nodeSlots_spec asset).2 port).mp valid
  have made : (asset, slot) ∈ allSlots (sortedAssets definition) :=
    mem_allSlots.mpr ⟨(perm_sortedAssets definition).mem_iff.mpr mem, own⟩
  obtain ⟨index, held⟩ := List.mem_iff_getElem?.mp made
  refine ⟨index, NodeTable.newNode index asset slot,
    (eligible.numbered.ports _ _).mpr ⟨_, held, rfl, serves⟩, ?_, rfl, ?_⟩
  · rw [eligible.numbered.getElem?, held]
    rfl
  · exact nodeId_eq_nodeKey own serves

theorem RunEligible.portIndex (eligible : RunEligible definition)
    (has : HasPort definition.assets ref) :
    ∃ index, portIndex (nodesOf definition).portToNodeIndex ref = .ok index := by
  obtain ⟨asset, mem, id, valid⟩ := has
  obtain ⟨index, node, leads⟩ := eligible.leadsTo mem valid
  have mapped := leads.mapped
  rw [id] at mapped
  refine ⟨index, ?_⟩
  unfold IndustrialReliability.portIndex
  rw [mapped]

/-- Where a port leads there is a node. -/
theorem RunEligible.inside (eligible : RunEligible definition)
    (mapped : (nodesOf definition).portToNodeIndex.get? ref = some index) :
    index < (nodesOf definition).nodes.length := by
  obtain ⟨pair, held, -⟩ := (eligible.numbered.ports _ _).mp mapped
  rw [eligible.numbered.nodes, List.length_mapIdx]
  exact (List.getElem?_eq_some_iff.mp held).1

theorem RunEligible.nodes_nonempty (eligible : RunEligible definition) :
    (nodesOf definition).nodes ≠ [] := by
  obtain ⟨asset, mem⟩ := List.exists_mem_of_ne_nil _ eligible.assets_nonempty
  obtain ⟨port, valid⟩ : ∃ port, port ∈ VALID_PORTS_BY_ASSET_TYPE asset.type := by
    cases asset.type <;> exact ⟨_, List.mem_cons_self⟩
  obtain ⟨index, node, leads⟩ := eligible.leadsTo mem valid
  exact List.ne_nil_of_mem (List.mem_of_getElem? leads.held)

/-- The keys of the nodes of one asset differ, and name it. -/
theorem nodeSlots_ids (asset : Asset R) :
    ((nodeSlots asset).map (·.nodeId)).Nodup ∧ ∀ slot ∈ nodeSlots asset,
      slot.nodeId = .asset asset.assetId ∨ ∃ port, slot.nodeId = .port asset.assetId port := by
  unfold nodeSlots
  cases asset.type <;> simp

theorem nodup_nodeIds {assets : List (Asset R)} (ids : (assets.map (·.assetId)).Nodup) :
    ((allSlots assets).map fun pair => pair.2.nodeId).Nodup := by
  induction assets with
  | nil => exact List.nodup_nil
  | cons asset assets ih =>
      obtain ⟨fresh, rest⟩ := List.nodup_cons.mp ids
      unfold allSlots
      rw [List.flatMap_cons, List.map_append]
      refine List.nodup_append.mpr ⟨?_, ih rest, ?_⟩
      · rw [List.map_map]
        exact (nodeSlots_ids asset).1
      · intro id mem id' later same
        subst same
        obtain ⟨pair, its, rfl⟩ := List.mem_map.mp mem
        obtain ⟨slot, own, rfl⟩ := List.mem_map.mp its
        obtain ⟨other, their, shared⟩ := List.mem_map.mp later
        obtain ⟨elsewhere, theirs⟩ := mem_allSlots.mp their
        refine fresh (List.mem_map.mpr ⟨other.1, elsewhere, ?_⟩)
        have first := (nodeSlots_ids asset).2 slot own
        have second := (nodeSlots_ids other.1).2 other.2 theirs
        rw [shared] at second
        rcases first with first | ⟨port, first⟩ <;> rcases second with second | ⟨port', second⟩ <;>
          rw [first] at second <;> injection second <;> simp_all

theorem RunEligible.nodeIds (eligible : RunEligible definition) :
    ((nodesOf definition).nodes.map (·.nodeId)).Nodup := by
  rw [eligible.numbered.nodes]
  have same : (List.mapIdx (fun index pair => NodeTable.newNode index pair.1 pair.2)
      (allSlots (sortedAssets definition))).map (·.nodeId) =
        (allSlots (sortedAssets definition)).map fun pair => pair.2.nodeId := by
    apply List.ext_getElem?
    intro index
    rw [List.getElem?_map, List.getElem?_mapIdx, List.getElem?_map, Option.map_map]
    rfl
  rw [same]
  exact nodup_nodeIds (((perm_sortedAssets definition).map _).nodup_iff.mpr eligible.assetIds)

end Lookups

/-! ### Edges -/

/-- Setting the rows of a table one after another. -/
theorem get?_foldl_rows {κ ρ : Type} [DecidableEq κ] (rows : List (κ × ρ)) (table : Lib.Table κ ρ)
    (nodup : (rows.map Prod.fst).Nodup) (key : κ) :
    (rows.foldl (fun table row => table.set row.1 row.2) table).get? key =
      (rows.lookup key <|> table.get? key) := by
  induction rows generalizing table with
  | nil => rfl
  | cons row rows ih =>
      obtain ⟨fresh, rest⟩ := List.nodup_cons.mp nodup
      rw [List.foldl_cons, ih _ rest, List.lookup_cons]
      by_cases here : key = row.1
      · subst here
        rw [Lib.Table.get?_set_self, Lib.Table.lookup_eq_none_iff.mpr fresh]
        simp
      · rw [Lib.Table.get?_set_ne here, beq_eq_false_iff_ne.mpr here]

theorem get?_tableOf {κ ρ : Type} [DecidableEq κ] {rows : List (κ × ρ)}
    (nodup : (rows.map Prod.fst).Nodup) (key : κ) : (tableOf rows).get? key = rows.lookup key := by
  unfold tableOf
  rw [get?_foldl_rows rows .empty nodup key]
  cases rows.lookup key <;> rfl

omit [LabNumber R] in
/-- The edges are found by their ids. -/
theorem foldl_edges {edges : List (NetworkEdge R)} (table : EdgeTable R)
    (nodup : ((table.edges ++ edges).map (·.edgeId)).Nodup)
    (indexed : ∀ id index, table.edgeIdToIndex.get? id = some index ↔
      ∃ edge, table.edges[index]? = some edge ∧ edge.edgeId = id) :
    (edges.foldl EdgeTable.add table).edges = table.edges ++ edges ∧
      ∀ id index, (edges.foldl EdgeTable.add table).edgeIdToIndex.get? id = some index ↔
        ∃ edge, (table.edges ++ edges)[index]? = some edge ∧ edge.edgeId = id := by
  induction edges generalizing table with
  | nil =>
      rw [List.append_nil]
      exact ⟨rfl, indexed⟩
  | cons edge edges ih =>
      have shift : table.edges ++ edge :: edges = (table.add edge).edges ++ edges := by
        unfold EdgeTable.add
        simp
      rw [List.foldl_cons]
      rw [shift] at nodup ⊢
      refine ih (table.add edge) nodup fun id index => ?_
      have unique : edge.edgeId ∉ table.edges.map (·.edgeId) := by
        have first := (List.nodup_append.mp (List.map_append ▸ nodup)).1
        unfold EdgeTable.add at first
        rw [List.map_append] at first
        intro mem
        exact (List.nodup_append.mp first).2.2 _ mem _ (by simp) rfl
      show (table.edgeIdToIndex.set edge.edgeId table.edges.length).get? id = some index ↔
        ∃ found, (table.edges ++ [edge])[index]? = some found ∧ found.edgeId = id
      by_cases here : id = edge.edgeId
      · subst here
        rw [Lib.Table.get?_set_self, Option.some.injEq]
        constructor
        · rintro rfl
          exact ⟨edge, by simp, rfl⟩
        · rintro ⟨found, held, same⟩
          rcases Lib.getElem?_concat_eq_some.mp held with before | ⟨here, -⟩
          · exact absurd (List.mem_map.mpr ⟨found, List.mem_of_getElem? before, same⟩) unique
          · exact here.symm
      · rw [Lib.Table.get?_set_ne here, indexed]
        constructor
        · rintro ⟨found, held, same⟩
          exact ⟨found, Lib.getElem?_concat_eq_some.mpr (.inl held), same⟩
        · rintro ⟨found, held, same⟩
          rcases Lib.getElem?_concat_eq_some.mp held with before | ⟨-, rfl⟩
          · exact ⟨found, before, same⟩
          · exact absurd same.symm here

omit [LabNumber R] in
theorem edgeTable_spec {edges : List (NetworkEdge R)} (nodup : (edges.map (·.edgeId)).Nodup) :
    (edges.foldl EdgeTable.add .empty).edges = edges ∧
      ∀ id index, (edges.foldl EdgeTable.add .empty).edgeIdToIndex.get? id = some index ↔
        ∃ edge, edges[index]? = some edge ∧ edge.edgeId = id := by
  have all : (((EdgeTable.empty : EdgeTable R).edges ++ edges).map (·.edgeId)).Nodup := nodup
  exact foldl_edges .empty all fun id index => ⟨nofun, fun ⟨_, held, _⟩ => nomatch held⟩

/-! ### The network -/

/-- What `compileLab` has done when it returns. -/
structure Compiled (definition : LabDefinition R) (network : CompiledNetwork R)
    (pipes valves : List (NetworkEdge R)) : Prop where
  nodes : network.toNodeTable = nodesOf definition
  pipesMade : List.Forall₂ (fun pipe edge => pipeEdge network.portToNodeIndex pipe = .ok edge)
    (sortedPipes definition) pipes
  valvesMade : List.Forall₂ (fun asset edge => valveEdge network.portToNodeIndex asset = .ok edge)
    ((sortedAssets definition).filter (·.type.isValve)) valves
  edges : network.toEdgeTable = (pipes ++ valves).foldl EdgeTable.add .empty
  compressors : List.Forall₂
    (fun asset source => compressorSource network.portToNodeIndex asset = .ok source)
    ((sortedAssets definition).filter (·.type = .compressor)) network.compressors
  demands : List.Forall₂ (fun asset sink => demandSink network.portToNodeIndex asset = .ok sink)
    ((sortedAssets definition).filter (·.type = .demand)) network.demands
  capacitances : network.capacitances = network.nodes.map (·.capacitance)

theorem compileLab_eq_ok {definition : LabDefinition R} {dt : R} {network : CompiledNetwork R}
    (compiled : compileLab definition dt = .ok network) :
    ∃ pipes valves, Compiled definition network pipes valves := by
  unfold compileLab at compiled
  dsimp only at compiled
  split at compiled
  · cases compiled
  · obtain ⟨pipes, pipesOk, rest⟩ := Lib.bind_eq_ok_iff.mp compiled
    obtain ⟨valves, valvesOk, rest⟩ := Lib.bind_eq_ok_iff.mp rest
    obtain ⟨compressors, compressorsOk, rest⟩ := Lib.bind_eq_ok_iff.mp rest
    obtain ⟨demands, demandsOk, rest⟩ := Lib.bind_eq_ok_iff.mp rest
    obtain ⟨targets, -, rest⟩ := Lib.bind_eq_ok_iff.mp rest
    obtain rfl := Lib.pure_eq_ok_iff.mp rest
    exact ⟨pipes, valves, rfl, Lib.mapM_eq_ok_iff_forall₂.mp pipesOk,
      Lib.mapM_eq_ok_iff_forall₂.mp valvesOk, rfl, Lib.mapM_eq_ok_iff_forall₂.mp compressorsOk,
      Lib.mapM_eq_ok_iff_forall₂.mp demandsOk, rfl⟩

section Eligible

variable {definition : LabDefinition R} {network : CompiledNetwork R}
  {pipes valves : List (NetworkEdge R)}

/-- A port of an asset of the lab. -/
theorem hasPort_of_mem {asset : Asset R} (mem : asset ∈ sortedAssets definition) {port : PortName}
    (valid : port ∈ VALID_PORTS_BY_ASSET_TYPE asset.type) :
    HasPort definition.assets ⟨asset.assetId, port⟩ :=
  ⟨asset, (perm_sortedAssets definition).mem_iff.mp mem, rfl, valid⟩

theorem valve_ports {type : AssetType} (valve : type.isValve = true) :
    .A ∈ VALID_PORTS_BY_ASSET_TYPE type ∧ .B ∈ VALID_PORTS_BY_ASSET_TYPE type := by
  cases type <;> simp_all [AssetType.isValve, VALID_PORTS_BY_ASSET_TYPE]

theorem portIndex_eq_ok {ports : Lib.Table PortRef Nat} {ref : PortRef} {index : Nat} :
    portIndex ports ref = .ok index ↔ ports.get? ref = some index := by
  unfold portIndex
  cases ports.get? ref <;> simp

theorem pipeEdge_eq_ok {ports : Lib.Table PortRef Nat} {pipe : Pipe R} {edge : NetworkEdge R}
    (made : pipeEdge ports pipe = .ok edge) : ∃ i j, ports.get? pipe.fromPort = some i ∧
      ports.get? pipe.toPort = some j ∧
        edge = ⟨.pipe pipe.pipeId, i, j, pipe.conductanceKgSPa, none, false⟩ := by
  obtain ⟨i, source, rest⟩ := Lib.bind_eq_ok_iff.mp made
  obtain ⟨j, sink, rest⟩ := Lib.bind_eq_ok_iff.mp rest
  exact ⟨i, j, portIndex_eq_ok.mp source, portIndex_eq_ok.mp sink, (Lib.pure_eq_ok_iff.mp rest).symm⟩

theorem valveEdge_eq_ok {ports : Lib.Table PortRef Nat} {asset : Asset R} {edge : NetworkEdge R}
    (made : valveEdge ports asset = .ok edge) : ∃ i j, ports.get? ⟨asset.assetId, .A⟩ = some i ∧
      ports.get? ⟨asset.assetId, .B⟩ = some j ∧ edge = ⟨.internal asset.assetId, i, j,
        asset.parameters.float "conductance_kg_s_pa" 2e-7 * asset.parameters.float "opening" 1.0,
        some asset.assetId, true⟩ := by
  obtain ⟨i, source, rest⟩ := Lib.bind_eq_ok_iff.mp made
  obtain ⟨j, sink, rest⟩ := Lib.bind_eq_ok_iff.mp rest
  exact ⟨i, j, portIndex_eq_ok.mp source, portIndex_eq_ok.mp sink, (Lib.pure_eq_ok_iff.mp rest).symm⟩

/-- Every pipe has its edge. -/
theorem exists_pipeEdge {ports : Lib.Table PortRef Nat}
    (pipesMade : List.Forall₂ (fun pipe edge => pipeEdge ports pipe = .ok edge)
      (sortedPipes definition) pipes) {pipe : Pipe R} (mem : pipe ∈ definition.pipes) :
    ∃ edge ∈ pipes, pipeEdge ports pipe = .ok edge :=
  Lib.exists_of_forall₂ pipesMade.flip ((perm_sortedPipes definition).mem_iff.mpr mem)

/-- The ids of the edges: those of the pipes, then those of the valves. -/
theorem nodup_edgeIds (eligible : RunEligible definition) {ports : Lib.Table PortRef Nat}
    (pipesMade : List.Forall₂ (fun pipe edge => pipeEdge ports pipe = .ok edge)
      (sortedPipes definition) pipes)
    (valvesMade : List.Forall₂ (fun asset edge => valveEdge ports asset = .ok edge)
      ((sortedAssets definition).filter (·.type.isValve)) valves) :
    ((pipes ++ valves).map (·.edgeId)).Nodup := by
  have pipeKeys : pipes.map (·.edgeId) = (sortedPipes definition).map fun pipe => .pipe pipe.pipeId :=
    Lib.map_eq_of_forall₂ (fun pipe edge made => by
      obtain ⟨_, _, -, -, rfl⟩ := pipeEdge_eq_ok made
      rfl) pipesMade
  have valveKeys : valves.map (·.edgeId) = ((sortedAssets definition).filter (·.type.isValve)).map
      fun asset => .internal asset.assetId :=
    Lib.map_eq_of_forall₂ (fun asset edge made => by
      obtain ⟨_, _, -, -, rfl⟩ := valveEdge_eq_ok made
      rfl) valvesMade
  rw [List.map_append, pipeKeys, valveKeys]
  refine List.nodup_append.mpr ⟨?_, ?_, ?_⟩
  · have ids := ((perm_sortedPipes definition).map (·.pipeId)).nodup_iff.mpr eligible.pipeIds
    have keys := ids.map (f := EdgeId.pipe) fun a b same => by cases same; rfl
    rw [List.map_map] at keys
    exact keys
  · have ids := ((perm_sortedAssets definition).map (·.assetId)).nodup_iff.mpr eligible.assetIds
    have sub : ((sortedAssets definition).filter (·.type.isValve)).Sublist (sortedAssets definition) :=
      List.filter_sublist
    have keys := (ids.sublist (sub.map (·.assetId))).map (f := EdgeId.internal) fun a b same => by cases same; rfl
    rw [List.map_map] at keys
    exact keys
  · intro id mem id' mem' same
    obtain ⟨_, -, rfl⟩ := List.mem_map.mp mem
    obtain ⟨_, -, rfl⟩ := List.mem_map.mp mem'
    cases same

/-- The edges are the pipes and the valves, found by their ids. -/
theorem Compiled.edgeTable (compiled : Compiled definition network pipes valves)
    (eligible : RunEligible definition) : network.edges = pipes ++ valves ∧
      ∀ id index, network.edgeIdToIndex.get? id = some index ↔
        ∃ edge, network.edges[index]? = some edge ∧ edge.edgeId = id := by
  have spec := edgeTable_spec (nodup_edgeIds eligible compiled.pipesMade compiled.valvesMade)
  rw [← compiled.edges] at spec
  obtain ⟨edges, indexed⟩ := spec
  exact ⟨edges, fun id index => by rw [indexed, edges]⟩

/-- Every eligible lab compiles. -/
theorem compileLab_ok (eligible : RunEligible definition) (dt : R) :
    ∃ network, compileLab definition dt = .ok network := by
  have ports : ∀ ref, HasPort definition.assets ref →
      ∃ index, portIndex (nodesOf definition).portToNodeIndex ref = .ok index :=
    fun _ has => eligible.portIndex has
  obtain ⟨pipes, pipesOk⟩ : ∃ pipes, (sortedPipes definition).mapM
      (pipeEdge (nodesOf definition).portToNodeIndex) = .ok pipes := by
    refine Lib.exists_mapM_ok fun pipe mem => ?_
    have ends := eligible.pipeEnds pipe ((perm_sortedPipes definition).mem_iff.mp mem)
    obtain ⟨source, first⟩ := ports _ ends.1
    obtain ⟨sink, second⟩ := ports _ ends.2
    exact ⟨_, Lib.bind_eq_ok_iff.mpr ⟨source, first, Lib.bind_eq_ok_iff.mpr ⟨sink, second, rfl⟩⟩⟩
  obtain ⟨valves, valvesOk⟩ : ∃ valves, ((sortedAssets definition).filter (·.type.isValve)).mapM
      (valveEdge (nodesOf definition).portToNodeIndex) = .ok valves := by
    refine Lib.exists_mapM_ok fun asset mem => ?_
    obtain ⟨mem, valve⟩ := List.mem_filter.mp mem
    obtain ⟨a, first⟩ := ports _ (hasPort_of_mem mem (valve_ports valve).1)
    obtain ⟨b, second⟩ := ports _ (hasPort_of_mem mem (valve_ports valve).2)
    exact ⟨_, Lib.bind_eq_ok_iff.mpr ⟨a, first, Lib.bind_eq_ok_iff.mpr ⟨b, second, rfl⟩⟩⟩
  obtain ⟨compressors, compressorsOk⟩ : ∃ sources,
      ((sortedAssets definition).filter (·.type = .compressor)).mapM
        (compressorSource (nodesOf definition).portToNodeIndex) = .ok sources := by
    refine Lib.exists_mapM_ok fun asset mem => ?_
    obtain ⟨mem, type⟩ := List.mem_filter.mp mem
    have valid : .OUT ∈ VALID_PORTS_BY_ASSET_TYPE asset.type := by
      rw [of_decide_eq_true type]
      exact List.mem_cons_self
    obtain ⟨index, found⟩ := ports _ (hasPort_of_mem mem valid)
    exact ⟨_, Lib.bind_eq_ok_iff.mpr ⟨index, found, rfl⟩⟩
  obtain ⟨demands, demandsOk⟩ : ∃ sinks, ((sortedAssets definition).filter (·.type = .demand)).mapM
      (demandSink (nodesOf definition).portToNodeIndex) = .ok sinks := by
    refine Lib.exists_mapM_ok fun asset mem => ?_
    obtain ⟨mem, type⟩ := List.mem_filter.mp mem
    have valid : .IN ∈ VALID_PORTS_BY_ASSET_TYPE asset.type := by
      rw [of_decide_eq_true type]
      exact List.mem_cons_self
    obtain ⟨index, found⟩ := ports _ (hasPort_of_mem mem valid)
    exact ⟨_, Lib.bind_eq_ok_iff.mpr ⟨index, found, rfl⟩⟩
  obtain ⟨targets, targetsOk⟩ : ∃ targets, definition.sensors.mapM (sensorTargetIndex
      (nodesOf definition).portToNodeIndex
      ((pipes ++ valves).foldl EdgeTable.add .empty).edgeIdToIndex) = .ok targets := by
    refine Lib.exists_mapM_ok fun sensor mem => ?_
    unfold sensorTargetIndex
    cases target : sensor.target with
    | pressure port =>
        obtain ⟨index, found⟩ := ports _ (eligible.pressures sensor mem port target)
        exact ⟨_, Lib.bind_eq_ok_iff.mpr ⟨index, found, rfl⟩⟩
    | flow id =>
        have pipesMade := Lib.mapM_eq_ok_iff_forall₂.mp pipesOk
        obtain ⟨pipe, its, rfl⟩ := List.mem_map.mp (eligible.flows sensor mem id target)
        obtain ⟨edge, mem, made⟩ := exists_pipeEdge pipesMade its
        obtain ⟨_, _, -, -, shape⟩ := pipeEdge_eq_ok made
        obtain ⟨index, held⟩ := List.mem_iff_getElem?.mp (List.mem_append_left valves mem)
        have spec := edgeTable_spec
          (nodup_edgeIds eligible pipesMade (Lib.mapM_eq_ok_iff_forall₂.mp valvesOk))
        have found := (spec.2 (.pipe pipe.pipeId) index).mpr ⟨edge, held, by rw [shape]⟩
        dsimp only
        rw [found]
        exact ⟨_, rfl⟩
  unfold compileLab
  dsimp only
  have nonempty : (nodesOf definition).nodes.isEmpty ≠ true := fun empty =>
    eligible.nodes_nonempty (List.isEmpty_iff.mp empty)
  unfold nodesOf at nonempty
  rw [if_neg nonempty]
  exact ⟨_, Lib.bind_eq_ok_iff.mpr ⟨pipes, pipesOk, Lib.bind_eq_ok_iff.mpr ⟨valves, valvesOk,
    Lib.bind_eq_ok_iff.mpr ⟨compressors, compressorsOk, Lib.bind_eq_ok_iff.mpr ⟨demands, demandsOk,
      Lib.bind_eq_ok_iff.mpr ⟨targets, targetsOk, rfl⟩⟩⟩⟩⟩⟩

/-- What an edge comes from, and where it leads. -/
inductive EdgeOf (definition : LabDefinition R) (network : CompiledNetwork R) (edge : NetworkEdge R) : Prop
  | pipe (pipe : Pipe R) (mem : pipe ∈ definition.pipes) (i j : Nat)
      (source : network.portToNodeIndex.get? pipe.fromPort = some i)
      (sink : network.portToNodeIndex.get? pipe.toPort = some j)
      (shape : edge = ⟨.pipe pipe.pipeId, i, j, pipe.conductanceKgSPa, none, false⟩)
  | valve (asset : Asset R) (mem : asset ∈ definition.assets) (valve : asset.type.isValve = true)
      (i j : Nat)
      (source : network.portToNodeIndex.get? ⟨asset.assetId, .A⟩ = some i)
      (sink : network.portToNodeIndex.get? ⟨asset.assetId, .B⟩ = some j)
      (shape : edge = ⟨.internal asset.assetId, i, j,
        asset.parameters.float "conductance_kg_s_pa" 2e-7 * asset.parameters.float "opening" 1.0,
        some asset.assetId, true⟩)

theorem Compiled.edgeOf (compiled : Compiled definition network pipes valves)
    (eligible : RunEligible definition) {edge : NetworkEdge R} (mem : edge ∈ network.edges) :
    EdgeOf definition network edge := by
  rw [(compiled.edgeTable eligible).1] at mem
  rcases List.mem_append.mp mem with pipe | valve
  · obtain ⟨pipe, its, made⟩ := Lib.exists_of_forall₂ compiled.pipesMade pipe
    obtain ⟨i, j, source, sink, shape⟩ := pipeEdge_eq_ok made
    exact .pipe pipe ((perm_sortedPipes definition).mem_iff.mp its) i j source sink shape
  · obtain ⟨asset, its, made⟩ := Lib.exists_of_forall₂ compiled.valvesMade valve
    obtain ⟨i, j, source, sink, shape⟩ := valveEdge_eq_ok made
    obtain ⟨mem, isValve⟩ := List.mem_filter.mp its
    exact .valve asset ((perm_sortedAssets definition).mem_iff.mp mem) isValve i j source sink shape

theorem Compiled.inside (compiled : Compiled definition network pipes valves)
    (eligible : RunEligible definition) {ref : PortRef} {index : Nat}
    (mapped : network.portToNodeIndex.get? ref = some index) : index < network.nodes.length := by
  have same := compiled.nodes
  rw [congrArg NodeTable.portToNodeIndex same] at mapped
  rw [congrArg NodeTable.nodes same]
  exact eligible.inside mapped

theorem Compiled.ends_inside (compiled : Compiled definition network pipes valves)
    (eligible : RunEligible definition) {edge : NetworkEdge R} (mem : edge ∈ network.edges) :
    edge.fromNode < network.nodes.length ∧ edge.toNode < network.nodes.length := by
  cases compiled.edgeOf eligible mem with
  | pipe pipe _ i j source sink shape =>
      rw [shape]
      exact ⟨compiled.inside eligible source, compiled.inside eligible sink⟩
  | valve asset _ _ i j source sink shape =>
      rw [shape]
      exact ⟨compiled.inside eligible source, compiled.inside eligible sink⟩

end Eligible

/-! ### The conductance matrix, in exact arithmetic -/

section Exact

variable {K : Type} [ExactNumber K] {definition : LabDefinition K} {network : CompiledNetwork K}
  {pipes valves : List (NetworkEdge K)}

/-- A checked parameter is in its range. -/
theorem Parameters.float_range {type : AssetType} {parameters : Parameters K} {key : String}
    {low high default : ℚ} (checked : parameters.inRange type key low high = true)
    (known : (DEFAULT_PARAMETERS_BY_ASSET_TYPE type).lookup key = some (.number (num default : K))) :
    (low : K) ≤ parameters.float key default ∧ parameters.float key default ≤ (high : K) := by
  unfold Parameters.inRange Parameters.merged at checked
  unfold Parameters.float
  cases given : parameters.get? key with
  | some value =>
      rw [given] at checked
      exact LabNumber.between_eq_true.mp checked
  | none =>
      rw [given, known] at checked
      exact LabNumber.between_eq_true.mp checked

/-- Every check of its type holds of an asset. -/
theorem Asset.passes (asset : Asset K) {check : ParameterCheck K}
    (mem : check ∈ allParameterChecks asset.type) : check.passes asset.parameters = true := by
  have valid := asset.valid
  unfold validateParameters at valid
  split at valid
  · split at valid
    · cases valid
    · rename_i none
      simpa using List.find?_eq_none.mp none check mem
  · cases valid

/-- A parameter that its type checks to be in a range is. -/
theorem Asset.float_range (asset : Asset K) {type : AssetType} (same : asset.type = type) {key : String}
    {low high default : ℚ} {label range : String}
    (mem : rangeCheck type key low high label range ∈ (allParameterChecks type : List (ParameterCheck K)))
    (known : (DEFAULT_PARAMETERS_BY_ASSET_TYPE type).lookup key = some (.number (num default : K))) :
    (low : K) ≤ asset.parameters.float key default ∧ asset.parameters.float key default ≤ (high : K) := by
  subst same
  exact Parameters.float_range (asset.passes mem) known

/-- An isolation valve is shut or open. -/
theorem isolationValve_opening (parameters : Parameters K)
    (checked : ((parameters.merged .isolationValve "opening").any fun opening =>
      LabNumber.pyEq opening.toFloat (num 0) || LabNumber.pyEq opening.toFloat (num 1)) = true) :
    parameters.float "opening" 1.0 = 0 ∨ parameters.float "opening" 1.0 = 1 := by
  have exactly {value : K} {q : ℚ} (same : LabNumber.pyEq value (num q) = true) : value = (q : K) := by
    have bounds := of_decide_eq_true same
    exact le_antisymm bounds.1 bounds.2
  unfold Parameters.merged at checked
  unfold Parameters.float
  cases given : parameters.get? "opening" with
  | some value =>
      rw [given] at checked
      rcases Bool.or_eq_true_iff.mp checked with zero | one
      · exact .inl (by simpa using exactly zero)
      · exact .inr (by simpa using exactly one)
  | none =>
      right
      show ((1.0 : ℚ) : K) = 1
      norm_num

/-- The parameters of a valve are in their ranges. -/
theorem Asset.valve_range (asset : Asset K) (valve : asset.type.isValve = true) :
    0 < asset.parameters.float "conductance_kg_s_pa" 2e-7 ∧
      0 ≤ asset.parameters.float "opening" 1.0 ∧ asset.parameters.float "opening" 1.0 ≤ 1 := by
  have tiny : (0 : K) < ((1e-12 : ℚ) : K) := by
    have small : (0 : ℚ) < 1e-12 := by norm_num
    exact_mod_cast small
  cases type : asset.type with
  | isolationValve =>
      refine ⟨tiny.trans_le (asset.float_range type (List.mem_cons_of_mem _ List.mem_cons_self) rfl).1, ?_⟩
      have checked := asset.passes (List.mem_cons_of_mem _ (by
        rw [type]
        exact List.mem_cons_of_mem _ List.mem_cons_self))
      rcases isolationValve_opening asset.parameters checked with zero | one
      · rw [zero]
        exact ⟨le_rfl, zero_le_one⟩
      · rw [one]
        exact ⟨zero_le_one, le_rfl⟩
  | controlValve =>
      refine ⟨tiny.trans_le (asset.float_range type (List.mem_cons_of_mem _ List.mem_cons_self) rfl).1, ?_⟩
      have bounds := asset.float_range type
        (List.mem_cons_of_mem _ (List.mem_cons_of_mem _ List.mem_cons_self)) rfl
      have zero : (0 : K) ≤ ((0.0 : ℚ) : K) := by norm_num
      have one : ((1.0 : ℚ) : K) ≤ 1 := by norm_num
      exact ⟨zero.trans bounds.1, bounds.2.trans one⟩
  | _ => rw [type] at valve; cases valve

theorem clamp_nonneg (high : ℚ) (value : K) : 0 ≤ clamp high value := by
  unfold clamp
  rw [LabNumber.pyMax_eq]
  have zero : ((0 : ℚ) : K) = 0 := Rat.cast_zero
  exact zero ▸ le_max_left _ _

theorem Compiled.edgeConductance_nonneg (compiled : Compiled definition network pipes valves)
    (eligible : RunEligible definition) (controls : ControlState K) {edge : NetworkEdge K}
    (mem : edge ∈ network.edges) : 0 ≤ edgeConductance controls edge := by
  unfold edgeConductance
  cases compiled.edgeOf eligible mem with
  | pipe pipe _ i j _ _ shape =>
      rw [shape]
      have tiny : (0 : ℚ) ≤ 1e-12 := by norm_num
      have bounds := (LabNumber.between_eq_true.mp pipe.conductance_range).1
      exact (show (0 : K) ≤ ((1e-12 : ℚ) : K) by exact_mod_cast tiny).trans bounds
  | valve asset _ valve i j _ _ shape =>
      rw [shape]
      obtain ⟨conductance, opening, -⟩ := asset.valve_range valve
      exact mul_nonneg (mul_nonneg conductance.le opening) (clamp_nonneg _ _)

/-- A stamp adds the matrix of an edge. -/
theorem leading_stamp (size : Nat) (matrix : Nat → Nat → K) {i j : Nat} (hi : i < size) (hj : j < size)
    (k : K) : leading size (stamp matrix i j k) =
      leading size matrix + Lib.edgeMatrix ⟨i, hi⟩ ⟨j, hj⟩ k := by
  funext a b
  show stamp matrix i j k a b = matrix a b + _
  unfold stamp addAt subAt Lib.edgeMatrix
  simp only [Matrix.sub_apply, Matrix.add_apply, Matrix.single_apply, Fin.ext_iff]
  grind

theorem leading_foldl_stamp (size : Nat) {edges : List (NetworkEdge K)}
    {conductance : NetworkEdge K → K}
    (inside : ∀ edge ∈ edges, edge.fromNode < size ∧ edge.toNode < size)
    (nonneg : ∀ edge ∈ edges, 0 ≤ conductance edge) {matrix : Nat → Nat → K}
    (before : Lib.IsLaplacian (leading size matrix)) :
    Lib.IsLaplacian (leading size (edges.foldl
      (fun matrix edge => stamp matrix edge.fromNode edge.toNode (conductance edge)) matrix)) := by
  induction edges generalizing matrix with
  | nil => exact before
  | cons edge edges ih =>
      obtain ⟨hi, hj⟩ := inside edge List.mem_cons_self
      have next : Lib.IsLaplacian (leading size
          (stamp matrix edge.fromNode edge.toNode (conductance edge))) := by
        rw [leading_stamp size matrix hi hj]
        exact before.add (.edge _ _ (nonneg edge List.mem_cons_self))
      exact ih (fun edge mem => inside edge (List.mem_cons_of_mem _ mem))
        (fun edge mem => nonneg edge (List.mem_cons_of_mem _ mem)) next

/-- The conductance matrix of a step. -/
theorem Compiled.isLaplacian (compiled : Compiled definition network pipes valves)
    (eligible : RunEligible definition) (controls : ControlState K) :
    Lib.IsLaplacian (leading network.nodes.length
      (laplacian network.edges (edgeConductance controls))) := by
  refine leading_foldl_stamp _ (fun edge mem => compiled.ends_inside eligible mem)
    (fun edge mem => compiled.edgeConductance_nonneg eligible controls mem) ?_
  have zero : leading network.nodes.length (fun _ _ => (num 0 : K)) = 0 := by
    funext a b
    exact Rat.cast_zero
  rw [zero]
  exact .zero

end Exact

end IndustrialReliability
