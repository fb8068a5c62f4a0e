import IndustrialReliability.Lab.Contracts
import IndustrialReliability.Lib.Logs

/-!
`compile_lab`: the numerical network of a definition.

Nodes are numbered as they are made, so the arrays over nodes are indexed by the
position in `nodes`; the table of nodes carries that fact (`NodeTable.indexed`).
Looking up a port or a pipe that is not there is a `KeyError`.
-/

namespace IndustrialReliability

def R_AIR : ℚ := 287.05

def T_REF : ℚ := 293.15

def P_ATM : ℚ := 101325.0

def DT_DEFAULT : ℚ := 0.05

/-- A key of a node: `str(asset_id)` or `f"{asset_id}:{port}"`. -/
inductive NodeId where
  | asset (id : UUID)
  | port (id : UUID) (port : PortName)
deriving DecidableEq, Repr

/-- A key of an edge: `str(pipe_id)` or `f"{asset_id}:internal"`. -/
inductive EdgeId where
  | pipe (id : UUID)
  | internal (id : UUID)
deriving DecidableEq, Repr

structure NetworkNode (R : Type) where
  nodeId : NodeId
  nodeIndex : Nat
  assetId : UUID
  portGroup : String
  volumeM3 : R
  capacitance : R
  initialPressurePa : R

structure NetworkEdge (R : Type) where
  edgeId : EdgeId
  fromNode : Nat
  toNode : Nat
  baseConductance : R
  /-- The valve an internal edge belongs to. -/
  assetId : Option UUID
  isValve : Bool

structure CompressorSource (R : Type) where
  assetId : UUID
  nodeIndex : Nat
  qNomKgS : R
  pMaxPa : R
  nominalLoad : R
  enabled : Bool

structure DemandSink (R : Type) where
  assetId : UUID
  nodeIndex : Nat
  baseConductance : R
  nominalLoadFactor : R

inductive SensorKind where
  | PRESSURE | FLOW
deriving DecidableEq, Repr

inductive CompileError where
  | missingPort (port : PortRef)
  | missingPipe (pipe : UUID)
  | emptyNetwork
deriving DecidableEq, Repr

namespace CompileError

def message : CompileError → String
  | missingPort port => "(UUID('" ++ port.assetId.str ++ "'), '" ++ port.port.str ++ "')"
  | missingPipe pipe => "'" ++ pipe.str ++ "'"
  | emptyNetwork => "Cannot compile empty network with 0 nodes"

end CompileError

variable {R : Type} [LabNumber R]

def initialPressure (asset : Asset R) : R := asset.parameters.float "initial_pressure_pa" 400000.0

/-! ### Nodes -/

/-- A node of an asset: its key, the ports it serves and its volume. -/
structure NodeSlot (R : Type) where
  nodeId : NodeId
  portGroup : String
  volume : R
  ports : List PortName

/-- The nodes of an asset: a tank has one for both its ports, a valve one for each. -/
def nodeSlots (asset : Asset R) : List (NodeSlot R) :=
  match asset.type with
  | .tank => [⟨.asset asset.assetId, "AB", asset.parameters.float "volume_m3" 0.5, [.A, .B]⟩]
  | .compressor => [⟨.asset asset.assetId, "OUT", num 0.02, [.OUT]⟩]
  | .demand => [⟨.asset asset.assetId, "IN", num 0.01, [.IN]⟩]
  | .isolationValve | .controlValve => [
      ⟨.port asset.assetId .A, "A", num 0.005, [.A]⟩,
      ⟨.port asset.assetId .B, "B", num 0.005, [.B]⟩]

/-- The nodes of all assets, in the order they are made. -/
def allSlots (assets : List (Asset R)) : List (Asset R × NodeSlot R) :=
  assets.flatMap fun asset => (nodeSlots asset).map (asset, ·)

/-- Every node is at the place of its index. -/
def Indexed (nodes : List (NetworkNode R)) : Prop :=
  ∀ (i : Nat) (node : NetworkNode R), nodes[i]? = some node → node.nodeIndex = i

/-- The nodes made so far. -/
structure NodeTable (R : Type) where
  nodes : List (NetworkNode R)
  nodeIdToIndex : Lib.Table NodeId Nat
  portToNodeIndex : Lib.Table PortRef Nat
  indexed : Indexed nodes

namespace NodeTable

def empty : NodeTable R where
  nodes := []
  nodeIdToIndex := .empty
  portToNodeIndex := .empty
  indexed _ _ held := nomatch held

def newNode (index : Nat) (asset : Asset R) (slot : NodeSlot R) : NetworkNode R where
  nodeId := slot.nodeId
  nodeIndex := index
  assetId := asset.assetId
  portGroup := slot.portGroup
  volumeM3 := slot.volume
  capacitance := slot.volume / (num R_AIR * num T_REF)
  initialPressurePa := initialPressure asset

omit [LabNumber R] in
theorem indexed_concat {nodes : List (NetworkNode R)} {new : NetworkNode R}
    (indexed : Indexed nodes) (last : new.nodeIndex = nodes.length) : Indexed (nodes ++ [new]) := by
  intro i node held
  rcases Lib.getElem?_concat_eq_some.mp held with before | ⟨rfl, rfl⟩
  · exact indexed i node before
  · exact last

/-- One more node. -/
def add (table : NodeTable R) (asset : Asset R) (slot : NodeSlot R) : NodeTable R :=
  let index := table.nodes.length
  { nodes := table.nodes ++ [newNode index asset slot]
    nodeIdToIndex := table.nodeIdToIndex.set slot.nodeId index
    portToNodeIndex := slot.ports.foldl (fun indexes port => indexes.set ⟨asset.assetId, port⟩ index)
      table.portToNodeIndex
    indexed := indexed_concat table.indexed rfl }

end NodeTable

/-! ### Edges -/

structure EdgeTable (R : Type) where
  edges : List (NetworkEdge R)
  edgeIdToIndex : Lib.Table EdgeId Nat

namespace EdgeTable

def empty : EdgeTable R := ⟨[], .empty⟩

def add (table : EdgeTable R) (edge : NetworkEdge R) : EdgeTable R where
  edges := table.edges ++ [edge]
  edgeIdToIndex := table.edgeIdToIndex.set edge.edgeId table.edges.length

end EdgeTable

/-- `port_to_node_index[(asset_id, port)]`. -/
def portIndex (ports : Lib.Table PortRef Nat) (ref : PortRef) : Except CompileError Nat :=
  match ports.get? ref with
  | some index => .ok index
  | none => .error (.missingPort ref)

def pipeEdge (ports : Lib.Table PortRef Nat) (pipe : Pipe R) : Except CompileError (NetworkEdge R) := do
  let fromNode ← portIndex ports pipe.fromPort
  let toNode ← portIndex ports pipe.toPort
  return ⟨.pipe pipe.pipeId, fromNode, toNode, pipe.conductanceKgSPa, none, false⟩

def AssetType.isValve : AssetType → Bool
  | .isolationValve | .controlValve => true
  | _ => false

def valveEdge (ports : Lib.Table PortRef Nat) (asset : Asset R) :
    Except CompileError (NetworkEdge R) := do
  let fromNode ← portIndex ports ⟨asset.assetId, .A⟩
  let toNode ← portIndex ports ⟨asset.assetId, .B⟩
  return ⟨.internal asset.assetId, fromNode, toNode,
    asset.parameters.float "conductance_kg_s_pa" 2e-7 * asset.parameters.float "opening" 1.0,
    some asset.assetId, true⟩

def compressorSource (ports : Lib.Table PortRef Nat) (asset : Asset R) :
    Except CompileError (CompressorSource R) := do
  let nodeIndex ← portIndex ports ⟨asset.assetId, .OUT⟩
  return ⟨asset.assetId, nodeIndex, asset.parameters.float "q_nom_kg_s" 0.02,
    asset.parameters.float "p_max_pa" 900000.0, asset.parameters.float "load" 1.0,
    asset.parameters.bool "enabled" true⟩

def demandSink (ports : Lib.Table PortRef Nat) (asset : Asset R) :
    Except CompileError (DemandSink R) := do
  let nodeIndex ← portIndex ports ⟨asset.assetId, .IN⟩
  return ⟨asset.assetId, nodeIndex, asset.parameters.float "conductance_kg_s_pa" 1e-8,
    asset.parameters.float "load_factor" 1.0⟩

def sensorTargetIndex (ports : Lib.Table PortRef Nat) (edges : Lib.Table EdgeId Nat)
    (sensor : Sensor R) : Except CompileError (SensorKind × Nat × Int) :=
  match sensor.target with
  | .pressure port => do
      let index ← portIndex ports port
      return (.PRESSURE, index, 1)
  | .flow pipe =>
      match edges.get? (.pipe pipe) with
      | some index => .ok (.FLOW, index, 1)
      | none => .error (.missingPipe pipe)

/-! ### Matrices -/

/-- `matrix[i, j] += value`. -/
def addAt (matrix : Nat → Nat → R) (i j : Nat) (value : R) : Nat → Nat → R :=
  fun a b => if a = i ∧ b = j then matrix a b + value else matrix a b

/-- `matrix[i, j] -= value`. -/
def subAt (matrix : Nat → Nat → R) (i j : Nat) (value : R) : Nat → Nat → R :=
  fun a b => if a = i ∧ b = j then matrix a b - value else matrix a b

/-- What an edge of conductance `k` between `i` and `j` adds to a Laplacian. -/
def stamp (matrix : Nat → Nat → R) (i j : Nat) (k : R) : Nat → Nat → R :=
  subAt (subAt (addAt (addAt matrix i i k) j j k) i j k) j i k

/-- The Laplacian of some edges, from zero. -/
def laplacian (edges : List (NetworkEdge R)) (conductance : NetworkEdge R → R) : Nat → Nat → R :=
  edges.foldl (fun matrix edge => stamp matrix edge.fromNode edge.toNode (conductance edge))
    fun _ _ => num 0

/-- The nodes of a definition, made one after another. -/
def nodeTable (slots : List (Asset R × NodeSlot R)) : NodeTable R :=
  slots.foldl (fun table pair => table.add pair.1 pair.2) .empty

structure CompiledNetwork (R : Type) extends NodeTable R, EdgeTable R where
  definitionDigest : String
  compressors : List (CompressorSource R)
  demands : List (DemandSink R)
  sensorTargets : Lib.Table UUID (SensorKind × Nat × Int)
  volumes : List R
  capacitances : List R
  cOverDt : List R
  baseLaplacian : Nat → Nat → R

/-- The dictionary of some pairs. -/
def tableOf {κ ρ : Type} [DecidableEq κ] (rows : List (κ × ρ)) : Lib.Table κ ρ :=
  rows.foldl (fun table row => table.set row.1 row.2) .empty

/-- `sorted(assets, key=lambda a: str(a.asset_id))`. -/
def sortedAssets (definition : LabDefinition R) : List (Asset R) :=
  definition.assets.insertionSort fun a b => a.assetId ≤ b.assetId

def sortedPipes (definition : LabDefinition R) : List (Pipe R) :=
  definition.pipes.insertionSort fun a b => a.pipeId ≤ b.pipeId

/-- The network over the nodes of a definition. -/
def compileNetwork (definition : LabDefinition R) (table : NodeTable R) (dt : R) :
    Except CompileError (CompiledNetwork R) := do
  let assets := sortedAssets definition
  let ports := table.portToNodeIndex
  let pipes ← (sortedPipes definition).mapM (pipeEdge ports)
  let valves ← (assets.filter (·.type.isValve)).mapM (valveEdge ports)
  let edges := (pipes ++ valves).foldl EdgeTable.add .empty
  let compressors ← (assets.filter (·.type = .compressor)).mapM (compressorSource ports)
  let demands ← (assets.filter (·.type = .demand)).mapM (demandSink ports)
  let targets ← definition.sensors.mapM (sensorTargetIndex ports edges.edgeIdToIndex)
  let capacitances := table.nodes.map (·.capacitance)
  return {
    toNodeTable := table
    toEdgeTable := edges
    definitionDigest := definition.sceneRevision
    compressors
    demands
    sensorTargets := tableOf ((definition.sensors.map (·.sensorId)).zip targets)
    volumes := table.nodes.map (·.volumeM3)
    capacitances
    cOverDt := capacitances.map (· / dt)
    baseLaplacian := laplacian edges.edges (·.baseConductance) }

def compileLab (definition : LabDefinition R) (dt : R) : Except CompileError (CompiledNetwork R) :=
  let table := nodeTable (allSlots (sortedAssets definition))
  if table.nodes.isEmpty then .error .emptyNetwork else compileNetwork definition table dt

end IndustrialReliability
