import IndustrialReliability.Lab.Solver

/-!
Runs of a lab and `observe`, which samples its sensors.
-/

namespace IndustrialReliability

structure RunSpec where
  labId : UUID
  labRevision : Nat
  seed : Int
  speed : Nat
  maxTicks : Option Nat
  baselineId : Option UUID
  lab_revision_pos : 1 ≤ labRevision
  speed_allowed : speed ∈ [1, 10, 100]
  max_ticks_pos : ∀ ticks ∈ maxTicks, 0 < ticks
deriving DecidableEq

theorem RunSpec.real_time_allowed : 1 ∈ [1, 10, 100] := List.mem_cons_self

inductive RunStatus where
  | CREATED | RUNNING | PAUSED | STOPPED | COMPLETED | FAILED
deriving DecidableEq, Repr

namespace RunStatus

def str : RunStatus → String
  | CREATED => "CREATED"
  | RUNNING => "RUNNING"
  | PAUSED => "PAUSED"
  | STOPPED => "STOPPED"
  | COMPLETED => "COMPLETED"
  | FAILED => "FAILED"

/-- `status in ("STOPPED", "COMPLETED", "FAILED")`. -/
def Terminal : RunStatus → Prop
  | STOPPED | COMPLETED | FAILED => True
  | _ => False

instance (status : RunStatus) : Decidable status.Terminal := by
  cases status <;> unfold Terminal <;> infer_instance

end RunStatus

structure SimulationRun (R : Type) [LabNumber R] where
  runId : UUID
  spec : RunSpec
  status : RunStatus
  definition : LabDefinition R
  definitionDigest : Sha256
  sceneDigest : Sha256
  profileDigest : Sha256
  samplingDigest : Sha256
  baselineId : Option UUID
  modelVersion : String
  dt : R
  epoch : String
  profileId : String
  tick : Nat
  controlRevision : Nat
  eventSequence : Nat

inductive ObservationQuality where
  | GOOD | MISSING | INVALID
deriving DecidableEq, Repr

inductive ObservationUnit where
  | pa | kgPerS
deriving DecidableEq, Repr

structure Observation (R : Type) where
  runId : UUID
  assetId : UUID
  sensorId : UUID
  tick : Nat
  unit : ObservationUnit
  value : Option R
  quality : ObservationQuality
  profileDigest : Sha256

/-- The big-endian integer of the 64 bits of a digest that end `bits` from its end. -/
def digestWord (digest : Sha256) (bits : Nat) : Nat := digest / 2 ^ bits % 2 ^ 64

variable {R : Type} [LabNumber R]

/-- `compute_gaussian_noise`. -/
def computeGaussianNoise [Sha256Digest] (seed : Int) (sensorId : UUID) (tick : Nat) : R :=
  let digest := sha256 (toString seed ++ ":" ++ sensorId.str ++ ":" ++ toString tick ++ ":noise")
  LabNumber.boxMuller (digestWord digest 192) (digestWord digest 128)

namespace SensorTarget

/-- The asset of the port, or the pipe. -/
def assetId : SensorTarget → UUID
  | pressure port => port.assetId
  | flow pipe => pipe

def unit : SensorTarget → ObservationUnit
  | pressure _ => .pa
  | flow _ => .kgPerS

end SensorTarget

/-- The key of the node of a port: valves have one for each of theirs. -/
def nodeKey (type : AssetType) (ref : PortRef) : NodeId :=
  if type.isValve then .port ref.assetId ref.port else .asset ref.assetId

/-- The value before noise: `none` where the asset of the sensor does not exist, and
`some none` where the state has no pressure for its node. -/
def sensorTruth (definition : LabDefinition R) (state : PhysicalState R) (sensor : Sensor R) :
    Option (Option R) :=
  match sensor.target with
  | .pressure port =>
      (definition.assets.find? fun asset => asset.assetId = port.assetId).map fun asset =>
        state.pressuresPa.get? (nodeKey asset.type port)
  | .flow pipe => some (some ((state.flowsKgS.get? (.pipe pipe)).getD (num 0.0)))

/-- `sensor_faults.get(sensor_id)`: the last fault with this target, of any kind. -/
def sensorFault (controls : ControlState R) (sensor : UUID) : Option (ActiveFault R) :=
  controls.activeFaults.reverse.find? fun fault => fault.targetId = sensor

/-- An observation of a sensor. -/
def observation (run : SimulationRun R) (sensor : Sensor R) (tick : Nat) (value : Option R)
    (quality : ObservationQuality) : Observation R where
  runId := run.runId
  assetId := sensor.target.assetId
  sensorId := sensor.sensorId
  tick
  unit := sensor.target.unit
  value
  quality
  profileDigest := run.profileDigest

/-- The value with noise, and the bias of a `SENSOR_BIAS` fault. -/
def measured [Sha256Digest] (run : SimulationRun R) (sensor : Sensor R) (tick : Nat)
    (fault : Option (ActiveFault R)) (truth : R) : R :=
  let value := truth + sensor.noiseStd * computeGaussianNoise run.spec.seed sensor.sensorId tick
  match fault with
  | some fault => if fault.kind = .SENSOR_BIAS then value + fault.float "bias" 0.0 else value
  | none => value

/-- A sensor of a lab that has its target. -/
def sample [Sha256Digest] (run : SimulationRun R) (sensor : Sensor R) (tick : Nat)
    (fault : Option (ActiveFault R)) (truth : Option R) : Observation R :=
  match truth with
  | none => observation run sensor tick none .MISSING
  | some truth =>
      if fault.any fun fault => fault.kind = .SENSOR_DROPOUT then
        observation run sensor tick none .MISSING
      else
        let value := measured run sensor tick fault truth
        if LabNumber.isFinite value = false then observation run sensor tick none .INVALID
        else if sensor.target.unit = .pa ∧ value < num 0.0 then
          observation run sensor tick (some value) .INVALID
        else observation run sensor tick (some value) .GOOD

def observe [Sha256Digest] (run : SimulationRun R) (state : PhysicalState R) (controls : ControlState R) :
    List (Observation R) :=
  run.definition.sensors.filterMap fun sensor =>
    (sensorTruth run.definition state sensor).map
      (sample run sensor state.tick (sensorFault controls sensor.sensorId))

end IndustrialReliability
