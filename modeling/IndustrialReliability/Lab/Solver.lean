import IndustrialReliability.Lab.Network

/-!
`step`: one time step of the pneumatic network.

The step reads the pressures it starts from and the settings that the controls give
(`prepare`), solves at most sixteen linear systems, each for the sources that are
active at the last solution (`activeSet`), and passes the result through its gates.
Vectors and matrices are functions of the node index.
-/

namespace IndustrialReliability

open LabNumber (pyMin pyMax pyAbs)

inductive FaultKind where
  | LEAK | VALVE_STUCK | SENSOR_BIAS | SENSOR_DROPOUT | COMPRESSOR_UNAVAILABLE
deriving DecidableEq, Repr

structure ActiveFault (R : Type) where
  targetId : UUID
  kind : FaultKind
  port : Option String
  values : Lib.Table String R

/-- The setpoints by asset. A key that renders no UUID is never read. -/
structure ControlState (R : Type) where
  setpoints : Lib.Table UUID (Parameters R)
  activeFaults : List (ActiveFault R)

def ControlState.initial {R : Type} : ControlState R := ⟨.empty, []⟩

inductive OperatingMode where
  | RUNNING | OFF | UNAVAILABLE
deriving DecidableEq, Repr

structure PhysicalState (R : Type) where
  tick : Nat
  pressuresPa : Lib.Table NodeId R
  flowsKgS : Lib.Table EdgeId R
  operatingModes : Lib.Table UUID OperatingMode

/-- A `NumericalFailureError`, or the `KeyError` of an edge without an index. -/
inductive StepError (R : Type) where
  | invalidInitial (node : NodeId) (pressure : R)
  | singular
  | nonFinite
  | nonPositive
  | extreme
  | conservation (error tolerance : R)
  | missingEdge (edge : EdgeId)

def NodeId.str : NodeId → String
  | .asset id => id.str
  | .port id name => id.str ++ ":" ++ name.str

def EdgeId.str : EdgeId → String
  | .pipe id => id.str
  | .internal id => id.str ++ ":internal"

variable {R : Type} [LabNumber R]

/-- The text of the error; numbers are not cut to three digits here, and the text of
the `LinAlgError` is numpy's. -/
def StepError.message : StepError R → String
  | invalidInitial node pressure =>
      "Initial node pressure invalid for " ++ node.str ++ ": " ++ LabNumber.repr pressure
  | singular => "Singular matrix in solver iteration: Singular matrix"
  | nonFinite => "Non-finite pressure detected in solution"
  | nonPositive => "Non-positive absolute pressure in solution"
  | extreme => "Extreme pressure exceeding 2.0 MPa limit"
  | conservation error tolerance =>
      "Conservation gate violation: error " ++ LabNumber.repr error ++ " kg > tolerance " ++
        LabNumber.repr tolerance ++ " kg"
  | missingEdge edge => "'" ++ edge.str ++ "'"

/-- The vector of the values of an array. -/
def vec (values : List R) : Nat → R := fun i => values.getD i (num 0)

/-- `vector[i] += value`. -/
def addTo (vector : Nat → R) (i : Nat) (value : R) : Nat → R :=
  fun a => if a = i then vector a + value else vector a

namespace ControlState

/-- `faults_by_target.get(target, {}).get(kind)`: the last such fault. -/
def fault (controls : ControlState R) (target : UUID) (kind : FaultKind) : Option (ActiveFault R) :=
  controls.activeFaults.reverse.find? fun fault => fault.targetId = target ∧ fault.kind = kind

/-- `setpoints.get(str(asset), {})`. -/
def setpoint (controls : ControlState R) (asset : UUID) : Parameters R :=
  (controls.setpoints.get? asset).getD .empty

end ControlState

/-- `float(fault.values.get(key, default))`. -/
def ActiveFault.float (fault : ActiveFault R) (key : String) (default : ℚ) : R :=
  (fault.values.get? key).getD (num default)

/-- `max(0.0, min(high, value))`. -/
def clamp (high : ℚ) (value : R) : R := pyMax (num 0) (pyMin (num high) value)

/-- `float(setpoint.get(key, nominal))`. -/
def settingOf (setpoint : Parameters R) (key : String) (nominal : R) : R :=
  match setpoint.get? key with
  | some value => value.toFloat
  | none => nominal

def valveOpening (controls : ControlState R) (asset : UUID) : R :=
  match controls.fault asset .VALVE_STUCK with
  | some stuck => stuck.float "opening" 0.0
  | none => (controls.setpoint asset).float "opening" 1.0

/-- The conductance of an edge; that of a valve is scaled by its opening. -/
def edgeConductance (controls : ControlState R) (edge : NetworkEdge R) : R :=
  if edge.isValve then
    match edge.assetId with
    | some asset => edge.baseConductance * clamp 1.0 (valveOpening controls asset)
    | none => edge.baseConductance
  else edge.baseConductance

structure CompressorConfig (R : Type) where
  node : Nat
  qNom : R
  pMax : R
  load : R
  enabled : Bool

/-- The node and the conductance of a demand or a leak. -/
structure SinkConfig (R : Type) where
  node : Nat
  k : R

def compressorConfig (controls : ControlState R) (compressor : CompressorSource R) :
    CompressorConfig R where
  node := compressor.nodeIndex
  qNom := compressor.qNomKgS
  pMax := compressor.pMaxPa
  load := clamp 1.0 (settingOf (controls.setpoint compressor.assetId) "load" compressor.nominalLoad)
  enabled := match controls.fault compressor.assetId .COMPRESSOR_UNAVAILABLE with
    | some _ => false
    | none => (controls.setpoint compressor.assetId).bool "enabled" compressor.enabled

def operatingMode (controls : ControlState R) (compressor : CompressorSource R) : OperatingMode :=
  match controls.fault compressor.assetId .COMPRESSOR_UNAVAILABLE with
  | some _ => .UNAVAILABLE
  | none => if (compressorConfig controls compressor).enabled then .RUNNING else .OFF

def demandConfig (controls : ControlState R) (demand : DemandSink R) : SinkConfig R where
  node := demand.nodeIndex
  k := demand.baseConductance *
    clamp 2.0 (settingOf (controls.setpoint demand.assetId) "load_factor" demand.nominalLoadFactor)

/-- The node a leak is at: that of its port, or the first of its asset. -/
def leakNode (network : CompiledNetwork R) (fault : ActiveFault R) : Option Nat :=
  match fault.port with
  | none | some "" => (network.nodes.find? fun node => node.assetId = fault.targetId).map (·.nodeIndex)
  | some port => (PortName.ofStr? port).bind fun port =>
      network.portToNodeIndex.get? ⟨fault.targetId, port⟩

def leakConfigs (network : CompiledNetwork R) (controls : ControlState R) : List (SinkConfig R) :=
  (controls.activeFaults.filter (·.kind = .LEAK)).filterMap fun fault =>
    (leakNode network fault).map fun node => ⟨node, fault.float "conductance_kg_s_pa" 1e-8⟩

/-- What the systems of one step have in common. -/
structure StepSetup (R : Type) where
  size : Nat
  pPrev : Nat → R
  cDt : Nat → R
  laplacian : Nat → Nat → R
  compressors : List (CompressorConfig R)
  demands : List (SinkConfig R)
  leaks : List (SinkConfig R)

/-- The pressure a node starts from. -/
def previousPressure (state : PhysicalState R) (node : NetworkNode R) : Except (StepError R) R :=
  let pressure := (state.pressuresPa.get? node.nodeId).getD node.initialPressurePa
  if LabNumber.isFinite pressure = false ∨ pressure ≤ num 0 then
    .error (.invalidInitial node.nodeId pressure)
  else .ok pressure

def prepare (network : CompiledNetwork R) (state : PhysicalState R) (controls : ControlState R) (dt : R) :
    Except (StepError R) (StepSetup R) := do
  let pPrev ← network.nodes.mapM (previousPressure state)
  return {
    size := network.nodes.length
    pPrev := vec pPrev
    cDt := vec (network.capacitances.map (· / dt))
    laplacian := laplacian network.edges (edgeConductance controls)
    compressors := network.compressors.map (compressorConfig controls)
    demands := network.demands.map (demandConfig controls)
    leaks := leakConfigs network controls }

/-! ### The active set -/

/-- What an active source adds at a node: `a` to the right-hand side and `b` to the
diagonal. -/
structure Source (R : Type) where
  node : Nat
  a : R
  b : R

namespace StepSetup

/-- A compressor that is switched on: `q_nom * load * (1 - p / p_max)` below `p_max`. -/
def compressorSource (pCurr : Nat → R) (compressor : CompressorConfig R) : Option (Source R) :=
  if compressor.enabled = true ∧ num 0 < compressor.load ∧ pCurr compressor.node < compressor.pMax then
    some ⟨compressor.node, compressor.qNom * compressor.load,
      compressor.qNom * compressor.load / compressor.pMax⟩
  else none

/-- A sink: `k * (p - p_atm)` above `p_atm`. -/
def sinkSource (pCurr : Nat → R) (sink : SinkConfig R) : Option (Source R) :=
  if num P_ATM < pCurr sink.node ∧ num 0 < sink.k then some ⟨sink.node, sink.k * num P_ATM, sink.k⟩
  else none

/-- The sources that are active at a vector of pressures. -/
def sources (setup : StepSetup R) (pCurr : Nat → R) : List (Source R) :=
  setup.compressors.filterMap (compressorSource pCurr) ++
    (setup.demands ++ setup.leaks).filterMap (sinkSource pCurr)

def aVec (setup : StepSetup R) (pCurr : Nat → R) : Nat → R :=
  (setup.sources pCurr).foldl (fun vector source => addTo vector source.node source.a) fun _ => num 0

def bVec (setup : StepSetup R) (pCurr : Nat → R) : Nat → R :=
  (setup.sources pCurr).foldl (fun vector source => addTo vector source.node source.b) fun _ => num 0

/-- `np.diag(c_dt + b_vec) + l_dyn`. -/
def matrix (setup : StepSetup R) (pCurr : Nat → R) : Nat → Nat → R := fun i j =>
  (if i = j then setup.cDt i + setup.bVec pCurr i else num 0) + setup.laplacian i j

/-- `c_dt * p_prev + a_vec`. -/
def rhs (setup : StepSetup R) (pCurr : Nat → R) : Nat → R := fun i =>
  setup.cDt i * setup.pPrev i + setup.aVec pCurr i

/-- The solution for the sources that are active at the last one. -/
def nextIterate (setup : StepSetup R) (pCurr : Nat → R) : Option (Nat → R) :=
  LabNumber.solve setup.size (setup.matrix pCurr) (setup.rhs pCurr)

/-- The active set is that of the solution, and the pressures have settled. -/
def converged (setup : StepSetup R) (pCurr pSol : Nat → R) : Bool :=
  (setup.compressors.all fun compressor =>
    !(compressor.enabled && decide (num 0 < compressor.load)) ||
      decide (pSol compressor.node < compressor.pMax) == decide (pCurr compressor.node < compressor.pMax)) &&
  (setup.demands.all fun demand => !decide (num 0 < demand.k) ||
    decide (num P_ATM < pSol demand.node) == decide (num P_ATM < pCurr demand.node)) &&
  (List.range setup.size).all fun i => decide (pyAbs (pSol i - pCurr i) ≤ num 1e-7)

/-- The iteration, for so many rounds; the last solution is taken if it does not
converge. -/
def activeSet (setup : StepSetup R) : Nat → (Nat → R) → Except (StepError R) (Nat → R)
  | 0, pCurr => .ok pCurr
  | rounds + 1, pCurr =>
      match setup.nextIterate pCurr with
      | none => .error .singular
      | some pSol =>
          if setup.converged pCurr pSol then .ok pSol else setup.activeSet rounds pSol

/-- The mass that enters in a second. -/
def inflow (setup : StepSetup R) (p : Nat → R) : R :=
  setup.compressors.foldl (fun total compressor =>
    if compressor.enabled = true ∧ num 0 < compressor.load then
      total + compressor.qNom * compressor.load * pyMax (num 0) (num 1 - p compressor.node / compressor.pMax)
    else total) (num 0)

/-- The mass that leaves in a second. -/
def outflow (setup : StepSetup R) (p : Nat → R) : R :=
  (setup.demands ++ setup.leaks).foldl (fun total sink =>
    if num 0 < sink.k then total + sink.k * pyMax (num 0) (p sink.node - num P_ATM) else total) (num 0)

/-- The bounds of the solution and the conservation of mass. -/
def gates (setup : StepSetup R) (capacitances : List R) (pNext : Nat → R) (dt : R) :
    Except (StepError R) Unit :=
  let nodes := List.range setup.size
  let deltaM := LabNumber.sum (nodes.map fun i =>
    vec capacitances i * pNext i - vec capacitances i * setup.pPrev i)
  let boundary := dt * (setup.inflow pNext - setup.outflow pNext)
  let error := pyAbs (deltaM - boundary)
  let tolerance := num 1e-9 + num 1e-8 * LabNumber.sum (nodes.map fun i =>
    pyAbs (vec capacitances i * setup.pPrev i))
  if nodes.any fun i => !LabNumber.isFinite (pNext i) then .error .nonFinite
  else if nodes.any fun i => decide (pNext i ≤ num 0) then .error .nonPositive
  else if nodes.any fun i => decide (num 2.0e6 < pNext i) then .error .extreme
  else if tolerance < error then .error (.conservation error tolerance)
  else .ok ()

end StepSetup

/-- `edge_conductances`, by the index of the edge. -/
def edgeConductances (network : CompiledNetwork R) (controls : ControlState R) :
    Except (StepError R) (Nat → R) :=
  network.edges.foldlM (fun conductances edge =>
    match network.edgeIdToIndex.get? edge.edgeId with
    | some index => .ok fun i => if i = index then edgeConductance controls edge else conductances i
    | none => .error (.missingEdge edge.edgeId)) fun _ => num 0

/-- The flow through an edge, by the conductance at its index. -/
def edgeFlow (network : CompiledNetwork R) (conductances p : Nat → R) (edge : NetworkEdge R) :
    Except (StepError R) (EdgeId × R) :=
  match network.edgeIdToIndex.get? edge.edgeId with
  | some index => .ok (edge.edgeId, conductances index * (p edge.fromNode - p edge.toNode))
  | none => .error (.missingEdge edge.edgeId)

def step (network : CompiledNetwork R) (state : PhysicalState R) (controls : ControlState R) (dt : R) :
    Except (StepError R) (PhysicalState R) := do
  let setup ← prepare network state controls dt
  let conductances ← edgeConductances network controls
  let pNext ← setup.activeSet 16 setup.pPrev
  setup.gates network.capacitances pNext dt
  let flows ← network.edges.mapM (edgeFlow network conductances pNext)
  return {
    tick := state.tick + 1
    pressuresPa := tableOf (network.nodes.map fun node => (node.nodeId, pNext node.nodeIndex))
    flowsKgS := tableOf flows
    operatingModes := tableOf (network.compressors.map fun compressor =>
      (compressor.assetId, operatingMode controls compressor)) }

end IndustrialReliability
