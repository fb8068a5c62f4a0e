import Mathlib.Data.List.Sort
import IndustrialReliability.Lab.Numbers

/-!
Lab definitions and `validate_lab`.

An asset carries the proof that its parameters passed `validate_parameters`, a pipe
that its ends differ and its conductance is in range; what a definition may still get
wrong is between its parts, and `validateLab` lists it.
-/

namespace IndustrialReliability

open LabNumber (between pyEq)

inductive AssetType where
  | compressor | tank | isolationValve | controlValve | demand
deriving DecidableEq, Repr

namespace AssetType

def str : AssetType → String
  | compressor => "COMPRESSOR"
  | tank => "TANK"
  | isolationValve => "ISOLATION_VALVE"
  | controlValve => "CONTROL_VALVE"
  | demand => "DEMAND"

end AssetType

inductive PortName where
  | A | B | OUT | IN
deriving DecidableEq, Repr

namespace PortName

def str : PortName → String
  | A => "A"
  | B => "B"
  | OUT => "OUT"
  | IN => "IN"

def ofStr? : String → Option PortName
  | "A" => some A
  | "B" => some B
  | "OUT" => some OUT
  | "IN" => some IN
  | _ => none

end PortName

def VALID_PORTS_BY_ASSET_TYPE : AssetType → List PortName
  | .compressor => [.OUT]
  | .tank => [.A, .B]
  | .isolationValve => [.A, .B]
  | .controlValve => [.A, .B]
  | .demand => [.IN]

structure PortRef where
  assetId : UUID
  port : PortName
deriving DecidableEq, Repr

namespace PortRef

/-- `str(ref)`. -/
def str (ref : PortRef) : String :=
  "asset_id=UUID('" ++ ref.assetId.str ++ "') port='" ++ ref.port.str ++ "'"

end PortRef

/-! ### Assets -/

section Parameters

variable {R : Type} [LabNumber R]

/-- The parameters of an asset, by name. -/
abbrev Parameters (R : Type) := Lib.Table String (ParamValue R)

def DEFAULT_PARAMETERS_BY_ASSET_TYPE : AssetType → List (String × ParamValue R)
  | .tank => [("volume_m3", .number (num 0.5)), ("initial_pressure_pa", .number (num 400000.0))]
  | .compressor => [
      ("q_nom_kg_s", .number (num 0.02)),
      ("p_max_pa", .number (num 900000.0)),
      ("load", .number (num 1.0)),
      ("enabled", .flag true),
      ("initial_pressure_pa", .number (num 400000.0))]
  | .isolationValve | .controlValve => [
      ("conductance_kg_s_pa", .number (num 2e-7)),
      ("opening", .number (num 1.0)),
      ("initial_pressure_pa", .number (num 400000.0))]
  | .demand => [
      ("conductance_kg_s_pa", .number (num 1e-8)),
      ("load_factor", .number (num 1.0)),
      ("initial_pressure_pa", .number (num 400000.0))]

namespace Parameters

/-- `merged[key]`: the value given, or the default of the type. -/
def merged (parameters : Parameters R) (type : AssetType) (key : String) : Option (ParamValue R) :=
  parameters.get? key <|> (DEFAULT_PARAMETERS_BY_ASSET_TYPE type).lookup key

/-- `float(parameters.get(key, default))`. -/
def float (parameters : Parameters R) (key : String) (default : ℚ) : R :=
  match parameters.get? key with
  | some value => value.toFloat
  | none => num default

/-- `bool(parameters.get(key, default))`. -/
def bool (parameters : Parameters R) (key : String) (default : Bool) : Bool :=
  match parameters.get? key with
  | some value => value.toBool
  | none => default

/-- `isinstance(merged[key], (int, float)) and low <= merged[key] <= high`; a boolean
is an integer. -/
def inRange (parameters : Parameters R) (type : AssetType) (key : String) (low high : ℚ) : Bool :=
  (parameters.merged type key).any fun value => between low value.toFloat high

end Parameters

/-- A check of `validate_parameters` and what it says when it fails. -/
structure ParameterCheck (R : Type) where
  passes : Parameters R → Bool
  message : Parameters R → String

/-- `f"{label} {merged[key]} {rest}"`. -/
def parameterMessage (type : AssetType) (key label rest : String) (parameters : Parameters R) : String :=
  label ++ " " ++ ((parameters.merged type key).elim "" ParamValue.str) ++ " " ++ rest

/-- The value of a parameter must be in a range. -/
def rangeCheck (type : AssetType) (key : String) (low high : ℚ) (label range : String) :
    ParameterCheck R where
  passes parameters := parameters.inRange type key low high
  message := parameterMessage type key label ("out of range " ++ range)

/-- The checks of a type after that of `initial_pressure_pa`. -/
def parameterChecks : AssetType → List (ParameterCheck R)
  | .tank => [rangeCheck .tank "volume_m3" 0.01 10.0 "volume_m3" "[0.01, 10.0]"]
  | .compressor => [
      rangeCheck .compressor "q_nom_kg_s" 0.001 0.2 "q_nom_kg_s" "[0.001, 0.2]",
      rangeCheck .compressor "p_max_pa" 200000.0 1500000.0 "p_max_pa" "[200000, 1500000]",
      rangeCheck .compressor "load" 0.0 1.0 "load" "[0.0, 1.0]",
      ⟨fun parameters => (parameters.merged .compressor "enabled").any ParamValue.isBool,
        fun _ => "enabled must be a boolean"⟩]
  | .isolationValve => [
      rangeCheck .isolationValve "conductance_kg_s_pa" 1e-12 1e-6 "conductance_kg_s_pa" "[1e-12, 1e-6]",
      ⟨fun parameters => (parameters.merged .isolationValve "opening").any fun opening =>
          pyEq opening.toFloat (num 0) || pyEq opening.toFloat (num 1),
        fun parameters => "isolation valve opening must be 0 or 1, got " ++
          (parameters.merged .isolationValve "opening").elim "" ParamValue.str⟩]
  | .controlValve => [
      rangeCheck .controlValve "conductance_kg_s_pa" 1e-12 1e-6 "conductance_kg_s_pa" "[1e-12, 1e-6]",
      rangeCheck .controlValve "opening" 0.0 1.0 "control valve opening" "[0.0, 1.0]"]
  | .demand => [
      rangeCheck .demand "conductance_kg_s_pa" 1e-12 1e-6 "conductance_kg_s_pa" "[1e-12, 1e-6]",
      rangeCheck .demand "load_factor" 0.0 2.0 "load_factor" "[0.0, 2.0]"]

/-- The check of `initial_pressure_pa`, then those of the type. -/
def allParameterChecks (type : AssetType) : List (ParameterCheck R) :=
  rangeCheck type "initial_pressure_pa" 101325.0 1500000.0 "initial_pressure_pa" "[101325, 1500000]" ::
    parameterChecks type

/-- The keys that a type does not have, in order. -/
def extraKeys (type : AssetType) (parameters : Parameters R) : List String :=
  let expected := (DEFAULT_PARAMETERS_BY_ASSET_TYPE type : List (String × ParamValue R)).map Prod.fst
  (parameters.keys.filter fun key => !expected.contains key).insertionSort (· ≤ ·)

/-- `validate_parameters`: the first check that fails. -/
def validateParameters (type : AssetType) (parameters : Parameters R) : Except String Unit :=
  match extraKeys type parameters with
  | [] =>
      match (allParameterChecks type).find? fun check => !check.passes parameters with
      | some check => .error (check.message parameters)
      | none => .ok ()
  | extra => .error ("Extra parameter keys not allowed for " ++ type.str ++ ": [" ++
      ", ".intercalate (extra.map fun key => "'" ++ key ++ "'") ++ "]")

end Parameters

structure Asset (R : Type) [LabNumber R] where
  assetId : UUID
  type : AssetType
  positionM : R × R × R
  rotationYRad : R
  parameters : Parameters R
  valid : validateParameters type parameters = .ok ()

structure Pipe (R : Type) [LabNumber R] where
  pipeId : UUID
  fromPort : PortRef
  toPort : PortRef
  conductanceKgSPa : R
  waypointsM : List (R × R × R)
  conductance_range : between 1e-12 conductanceKgSPa 1e-6 = true
  ends_differ : fromPort ≠ toPort

/-- What a sensor measures: a `PRESSURE` sensor has a port for its target, a `FLOW`
sensor a pipe. -/
inductive SensorTarget where
  | pressure (port : PortRef)
  | flow (pipe : UUID)
deriving DecidableEq, Repr

structure Sensor (R : Type) where
  sensorId : UUID
  target : SensorTarget
  noiseStd : R
  alarmLow : Option R
  alarmHigh : Option R

structure LabDefinition (R : Type) [LabNumber R] where
  schemaVersion : String
  labId : UUID
  revision : Nat
  name : String
  assets : List (Asset R)
  pipes : List (Pipe R)
  sensors : List (Sensor R)
  sceneRevision : String
  revision_pos : 1 ≤ revision

variable {R : Type} [LabNumber R]

/-! ### The digest of a definition -/

/-- Digests looked up in a table of known texts. -/
abbrev knownSha256 (known : List (String × Sha256)) : Sha256Digest where
  sha256 text := (known.lookup text).getD 0

namespace Json

def number (value : R) : String := LabNumber.repr value

def position (point : R × R × R) : String :=
  array [number point.1, number point.2.1, number point.2.2]

def paramValue : ParamValue R → String
  | .number value => number value
  | .flag value => bool value

end Json

def PortRef.json (ref : PortRef) : String :=
  Json.object [("asset_id", Json.uuid ref.assetId), ("port", Json.string ref.port.str)]

def Asset.json (asset : Asset R) : String :=
  let parameters := asset.parameters.rows.insertionSort fun a b => a.1 ≤ b.1
  Json.object [
    ("asset_id", Json.uuid asset.assetId),
    ("parameters", Json.object (parameters.map fun (key, value) => (key, Json.paramValue value))),
    ("position_m", Json.position asset.positionM),
    ("rotation_y_rad", Json.number asset.rotationYRad),
    ("type", Json.string asset.type.str)]

def Pipe.json (pipe : Pipe R) : String :=
  Json.object [
    ("conductance_kg_s_pa", Json.number pipe.conductanceKgSPa),
    ("from_port", pipe.fromPort.json),
    ("pipe_id", Json.uuid pipe.pipeId),
    ("to_port", pipe.toPort.json),
    ("waypoints_m", Json.array (pipe.waypointsM.map Json.position))]

def Sensor.json (sensor : Sensor R) : String :=
  let (kind, target) := match sensor.target with
    | .pressure port => ("PRESSURE", port.json)
    | .flow pipe => ("FLOW", Json.uuid pipe)
  Json.object [
    ("alarm_high", Json.option Json.number sensor.alarmHigh),
    ("alarm_low", Json.option Json.number sensor.alarmLow),
    ("kind", Json.string kind),
    ("noise_std", Json.number sensor.noiseStd),
    ("sensor_id", Json.uuid sensor.sensorId),
    ("target", target)]

/-- `canonical_json_bytes(definition.model_dump(mode="json"))`. -/
def LabDefinition.json (definition : LabDefinition R) : String :=
  Json.object [
    ("assets", Json.array (definition.assets.map Asset.json)),
    ("lab_id", Json.uuid definition.labId),
    ("name", Json.string definition.name),
    ("pipes", Json.array (definition.pipes.map Pipe.json)),
    ("revision", toString definition.revision),
    ("scene_revision", Json.string definition.sceneRevision),
    ("schema_version", Json.string definition.schemaVersion),
    ("sensors", Json.array (definition.sensors.map Sensor.json))]

def computeDefinitionDigest [Sha256Digest] (definition : LabDefinition R) : Sha256 :=
  sha256 definition.json

/-! ### `validate_lab` -/

inductive LabErrorCode where
  | EMPTY_LAB | DUPLICATE_ASSET_ID | DUPLICATE_PIPE_ID | INVALID_PORT_REF | SELF_LOOP_PIPE
  | DUPLICATE_PIPE | DUPLICATE_SENSOR_ID | INVALID_SENSOR_TARGET
deriving DecidableEq, Repr

structure LabValidationError where
  code : LabErrorCode
  assetIds : List UUID
  portRefs : List PortRef
  message : String
deriving DecidableEq, Repr

structure LabValidationResult where
  runEligible : Bool
  definitionDigest : Sha256
  errors : List LabValidationError
deriving DecidableEq, Repr

/-- `asset_map.get(id)`: of two assets with one id the map has the last. -/
def assetOf (assets : List (Asset R)) (id : UUID) : Option (Asset R) :=
  assets.reverse.find? fun asset => asset.assetId = id

/-- An id that has been seen before. -/
def duplicateError (code : LabErrorCode) (assetIds : List UUID) (message : String) (seen : List UUID)
    (id : UUID) : List LabValidationError :=
  if id ∈ seen then [⟨code, assetIds, [], message ++ id.str⟩] else []

def assetErrors : List UUID → List (Asset R) → List LabValidationError
  | _, [] => []
  | seen, asset :: assets =>
      duplicateError .DUPLICATE_ASSET_ID [asset.assetId] "Duplicate asset ID: " seen asset.assetId ++
        assetErrors (asset.assetId :: seen) assets

/-- The end of a pipe or the target of a sensor: its asset exists and has the port. -/
def portError (assets : List (Asset R)) (code : LabErrorCode) (ref : PortRef) (missing : String)
    (invalid : AssetType → String) : List LabValidationError :=
  match assetOf assets ref.assetId with
  | none => [⟨code, [], [ref], missing ++ ref.assetId.str⟩]
  | some asset =>
      if ref.port ∈ VALID_PORTS_BY_ASSET_TYPE asset.type then []
      else [⟨code, [], [ref], invalid asset.type⟩]

def pipeEndError (assets : List (Asset R)) (pipe : Pipe R) (ref : PortRef) : List LabValidationError :=
  portError assets .INVALID_PORT_REF ref
    ("Pipe " ++ pipe.pipeId.str ++ " references non-existent asset ")
    fun type => "Port " ++ ref.port.str ++ " does not exist on " ++ type.str

/-- `frozenset([a, b]) == frozenset([c, d])`. -/
def samePair (first second : PortRef × PortRef) : Bool :=
  first = second || first = (second.2, second.1)

def pipePairError (pairs : List (PortRef × PortRef)) (pipe : Pipe R) : List LabValidationError :=
  if pipe.fromPort = pipe.toPort then
    [⟨.SELF_LOOP_PIPE, [], [pipe.fromPort, pipe.toPort],
      "Pipe " ++ pipe.pipeId.str ++ " connects port to itself"⟩]
  else if pairs.any (samePair (pipe.fromPort, pipe.toPort)) then
    [⟨.DUPLICATE_PIPE, [], [pipe.fromPort, pipe.toPort],
      "Duplicate pipe between same ports: " ++ pipe.fromPort.str ++ " and " ++ pipe.toPort.str⟩]
  else []

def pipeErrors (assets : List (Asset R)) :
    List UUID → List (PortRef × PortRef) → List (Pipe R) → List LabValidationError
  | _, _, [] => []
  | seen, pairs, pipe :: pipes =>
      duplicateError .DUPLICATE_PIPE_ID [] "Duplicate pipe ID: " seen pipe.pipeId ++
        (pipeEndError assets pipe pipe.fromPort ++ (pipeEndError assets pipe pipe.toPort ++
          (pipePairError pairs pipe ++
            pipeErrors assets (pipe.pipeId :: seen) ((pipe.fromPort, pipe.toPort) :: pairs) pipes)))

def sensorTargetError (assets : List (Asset R)) (pipeIds : List UUID) (sensor : Sensor R) :
    List LabValidationError :=
  match sensor.target with
  | .pressure port =>
      portError assets .INVALID_SENSOR_TARGET port
        ("Sensor " ++ sensor.sensorId.str ++ " targets non-existent asset ")
        fun type => "Sensor " ++ sensor.sensorId.str ++ " targets invalid port " ++ port.port.str ++
          " on " ++ type.str
  | .flow pipe =>
      if pipe ∈ pipeIds then []
      else [⟨.INVALID_SENSOR_TARGET, [], [],
        "FLOW sensor " ++ sensor.sensorId.str ++ " targets non-existent pipe " ++ pipe.str⟩]

def sensorErrors (assets : List (Asset R)) (pipeIds : List UUID) :
    List UUID → List (Sensor R) → List LabValidationError
  | _, [] => []
  | seen, sensor :: sensors =>
      duplicateError .DUPLICATE_SENSOR_ID [] "Duplicate sensor ID: " seen sensor.sensorId ++
        (sensorTargetError assets pipeIds sensor ++
          sensorErrors assets pipeIds (sensor.sensorId :: seen) sensors)

/-- What is wrong between the parts of a definition. -/
def labErrors (definition : LabDefinition R) : List LabValidationError :=
  match definition.assets with
  | [] => [⟨.EMPTY_LAB, [], [], "Lab contains no equipment/assets."⟩]
  | assets => assetErrors [] assets ++ (pipeErrors assets [] [] definition.pipes ++
      sensorErrors assets (definition.pipes.map (·.pipeId)) [] definition.sensors)

def validateLab [Sha256Digest] (definition : LabDefinition R) : LabValidationResult where
  runEligible := (labErrors definition).isEmpty
  definitionDigest := computeDefinitionDigest definition
  errors := labErrors definition

/-! ### Eligible definitions -/

/-- A port that some asset of the lab has. -/
def HasPort (assets : List (Asset R)) (ref : PortRef) : Prop :=
  ∃ asset ∈ assets, asset.assetId = ref.assetId ∧ ref.port ∈ VALID_PORTS_BY_ASSET_TYPE asset.type

/-- What `validateLab` makes sure of. -/
structure RunEligible (definition : LabDefinition R) : Prop where
  assets_nonempty : definition.assets ≠ []
  assetIds : (definition.assets.map (·.assetId)).Nodup
  pipeIds : (definition.pipes.map (·.pipeId)).Nodup
  pipeEnds : ∀ pipe ∈ definition.pipes,
    HasPort definition.assets pipe.fromPort ∧ HasPort definition.assets pipe.toPort
  sensorIds : (definition.sensors.map (·.sensorId)).Nodup
  pressures : ∀ sensor ∈ definition.sensors, ∀ port, sensor.target = .pressure port →
    HasPort definition.assets port
  flows : ∀ sensor ∈ definition.sensors, ∀ pipe, sensor.target = .flow pipe →
    pipe ∈ definition.pipes.map (·.pipeId)

theorem duplicateError_eq_nil_iff {code : LabErrorCode} {assetIds seen : List UUID} {message : String}
    {id : UUID} : duplicateError code assetIds message seen id = [] ↔ id ∉ seen := by
  unfold duplicateError
  split <;> simp_all

theorem portError_eq_nil {assets : List (Asset R)} {code : LabErrorCode} {ref : PortRef}
    {missing : String} {invalid : AssetType → String}
    (passed : portError assets code ref missing invalid = []) : HasPort assets ref := by
  unfold portError at passed
  cases found : assetOf assets ref.assetId with
  | none =>
      rw [found] at passed
      cases passed
  | some asset =>
      rw [found] at passed
      refine ⟨asset, ?_, ?_, ?_⟩
      · exact List.mem_reverse.mp (List.mem_of_find?_eq_some found)
      · simpa using List.find?_some found
      · by_contra absent
        dsimp only at passed
        rw [if_neg absent] at passed
        cases passed

/-- Ids that are new to those seen so far. -/
theorem assetErrors_eq_nil {assets : List (Asset R)} {seen : List UUID}
    (passed : assetErrors seen assets = []) :
    (assets.map (·.assetId)).Nodup ∧ ∀ asset ∈ assets, asset.assetId ∉ seen := by
  induction assets generalizing seen with
  | nil => exact ⟨List.nodup_nil, by simp⟩
  | cons asset assets ih =>
      obtain ⟨fresh, rest⟩ := List.append_eq_nil_iff.mp passed
      obtain ⟨nodup, apart⟩ := ih rest
      refine ⟨List.nodup_cons.mpr ⟨?_, nodup⟩, ?_⟩
      · rintro mem
        obtain ⟨other, its, same⟩ := List.mem_map.mp mem
        exact apart other its (same ▸ List.mem_cons_self)
      · rintro other (_ | ⟨_, mem⟩)
        · exact duplicateError_eq_nil_iff.mp fresh
        · exact fun old => apart other mem (List.mem_cons_of_mem _ old)

theorem pipeErrors_eq_nil {assets : List (Asset R)} {pipes : List (Pipe R)} {seen : List UUID}
    {pairs : List (PortRef × PortRef)} (passed : pipeErrors assets seen pairs pipes = []) :
    (pipes.map (·.pipeId)).Nodup ∧ ∀ pipe ∈ pipes, pipe.pipeId ∉ seen ∧
      HasPort assets pipe.fromPort ∧ HasPort assets pipe.toPort := by
  induction pipes generalizing seen pairs with
  | nil => exact ⟨List.nodup_nil, by simp⟩
  | cons pipe pipes ih =>
      obtain ⟨fresh, rest⟩ := List.append_eq_nil_iff.mp passed
      obtain ⟨source, rest⟩ := List.append_eq_nil_iff.mp rest
      obtain ⟨sink, rest⟩ := List.append_eq_nil_iff.mp rest
      obtain ⟨-, rest⟩ := List.append_eq_nil_iff.mp rest
      obtain ⟨nodup, apart⟩ := ih rest
      refine ⟨List.nodup_cons.mpr ⟨?_, nodup⟩, ?_⟩
      · rintro mem
        obtain ⟨other, its, same⟩ := List.mem_map.mp mem
        exact (apart other its).1 (same ▸ List.mem_cons_self)
      · rintro other (_ | ⟨_, mem⟩)
        · exact ⟨duplicateError_eq_nil_iff.mp fresh, portError_eq_nil source, portError_eq_nil sink⟩
        · obtain ⟨new, ends⟩ := apart other mem
          exact ⟨fun old => new (List.mem_cons_of_mem _ old), ends⟩

theorem sensorErrors_eq_nil {assets : List (Asset R)} {pipeIds : List UUID}
    {sensors : List (Sensor R)} {seen : List UUID}
    (passed : sensorErrors assets pipeIds seen sensors = []) :
    (sensors.map (·.sensorId)).Nodup ∧ ∀ sensor ∈ sensors, sensor.sensorId ∉ seen ∧
      sensorTargetError assets pipeIds sensor = [] := by
  induction sensors generalizing seen with
  | nil => exact ⟨List.nodup_nil, by simp⟩
  | cons sensor sensors ih =>
      obtain ⟨fresh, rest⟩ := List.append_eq_nil_iff.mp passed
      obtain ⟨target, rest⟩ := List.append_eq_nil_iff.mp rest
      obtain ⟨nodup, apart⟩ := ih rest
      refine ⟨List.nodup_cons.mpr ⟨?_, nodup⟩, ?_⟩
      · rintro mem
        obtain ⟨other, its, same⟩ := List.mem_map.mp mem
        exact (apart other its).1 (same ▸ List.mem_cons_self)
      · rintro other (_ | ⟨_, mem⟩)
        · exact ⟨duplicateError_eq_nil_iff.mp fresh, target⟩
        · obtain ⟨new, valid⟩ := apart other mem
          exact ⟨fun old => new (List.mem_cons_of_mem _ old), valid⟩

theorem runEligible_of_validateLab [Sha256Digest] {definition : LabDefinition R}
    (eligible : (validateLab definition).runEligible = true) : RunEligible definition := by
  have passed : labErrors definition = [] := List.isEmpty_iff.mp eligible
  unfold labErrors at passed
  split at passed
  · cases passed
  · rename_i nonempty
    obtain ⟨assets, rest⟩ := List.append_eq_nil_iff.mp passed
    obtain ⟨pipes, sensors⟩ := List.append_eq_nil_iff.mp rest
    obtain ⟨assetIds, -⟩ := assetErrors_eq_nil assets
    obtain ⟨pipeIds, ends⟩ := pipeErrors_eq_nil pipes
    obtain ⟨sensorIds, targets⟩ := sensorErrors_eq_nil sensors
    refine ⟨nonempty, assetIds, pipeIds, fun pipe mem => (ends pipe mem).2, sensorIds, ?_, ?_⟩
    · intro sensor mem port same
      have valid := (targets sensor mem).2
      unfold sensorTargetError at valid
      rw [same] at valid
      exact portError_eq_nil valid
    · intro sensor mem pipe same
      have valid := (targets sensor mem).2
      unfold sensorTargetError at valid
      rw [same] at valid
      by_contra absent
      dsimp only at valid
      rw [if_neg absent] at valid
      cases valid

end IndustrialReliability
