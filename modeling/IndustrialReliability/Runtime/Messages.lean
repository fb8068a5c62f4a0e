import IndustrialReliability.Runtime.Ids
import IndustrialReliability.Runtime.Time

/-!
The frozen runtime message schemas.

A message is a record of its fields together with the checks its schema runs on
them (`FrozenMessage.checks`): the condition and the text of the error it raises.
`construct` is the call of the message class, which fails with the first check
that does not hold; `Valid` says that none fails, and `Checked` is the type of
messages that passed, which is what decoding hands to the program. Digest
patterns and the naive/aware distinction of timestamps are carried by the types
of the fields.
-/

namespace IndustrialReliability

structure ValidationError where
  detail : String
deriving DecidableEq, Repr

/-- A message class: the checks its schema runs on the fields, in order. -/
class FrozenMessage (X : Type) where
  checks : X → List (Bool × String)

section Schema

variable {X : Type} [FrozenMessage X]

/-- Every check of the schema holds. -/
def Valid (x : X) : Prop := ∀ c ∈ FrozenMessage.checks x, c.1 = true

instance (x : X) : Decidable (Valid x) :=
  inferInstanceAs (Decidable (∀ c ∈ FrozenMessage.checks x, c.1 = true))

/-- Messages that passed their schema. -/
abbrev Checked (X : Type) [FrozenMessage X] := {x : X // Valid x}

/-- Calling the message class on field values. -/
def construct (x : X) : Except ValidationError X :=
  match (FrozenMessage.checks x).find? fun c => !c.1 with
  | some (_, detail) => .error ⟨detail⟩
  | none => .ok x

theorem construct_of_valid {x : X} (valid : Valid x) : construct x = .ok x := by
  have none_fails : (FrozenMessage.checks x).find? (fun c => !c.1) = none := by
    rw [List.find?_eq_none]
    intro c mem
    simp [valid c mem]
  simp [construct, none_fails]

theorem construct_eq_ok_iff {x y : X} : construct x = .ok y ↔ Valid x ∧ y = x := by
  constructor
  · intro made
    unfold construct at made
    split at made
    · cases made
    · rename_i passes
      refine ⟨fun c mem => ?_, (Except.ok.inj made).symm⟩
      have := List.find?_eq_none.mp passes c mem
      simpa using this
  · rintro ⟨valid, rfl⟩
    exact construct_of_valid valid

end Schema

/-! ### Telemetry -/

inductive AnalogColumn where
  | tp2 | tp3 | h1 | dvPressure | reservoirs | oilTemperature | motorCurrent
deriving DecidableEq, Repr

inductive DigitalColumn where
  | comp | dvElectric | towers | mpg | lps | pressureSwitch | oilLevel | caudalImpulses
deriving DecidableEq, Repr

namespace AnalogColumn

def all : List AnalogColumn :=
  [.tp2, .tp3, .h1, .dvPressure, .reservoirs, .oilTemperature, .motorCurrent]

def name : AnalogColumn → String
  | .tp2 => "tp2"
  | .tp3 => "tp3"
  | .h1 => "h1"
  | .dvPressure => "dv_pressure"
  | .reservoirs => "reservoirs"
  | .oilTemperature => "oil_temperature"
  | .motorCurrent => "motor_current"

/-- The hard envelope of a signal: its unit, least and greatest value. -/
def signalContract : AnalogColumn → String × Int × Int
  | .oilTemperature => ("degC", -40, 150)
  | .motorCurrent => ("A", 0, 50)
  | _ => ("bar", -1, 20)

end AnalogColumn

namespace DigitalColumn

def all : List DigitalColumn :=
  [.comp, .dvElectric, .towers, .mpg, .lps, .pressureSwitch, .oilLevel, .caudalImpulses]

def name : DigitalColumn → String
  | .comp => "comp"
  | .dvElectric => "dv_electric"
  | .towers => "towers"
  | .mpg => "mpg"
  | .lps => "lps"
  | .pressureSwitch => "pressure_switch"
  | .oilLevel => "oil_level"
  | .caudalImpulses => "caudal_impulses"

end DigitalColumn

/-- `validate_analog_value`: a finite value inside the hard envelope. -/
def validateAnalogValue {F : Type} [PyFloat F] (column : AnalogColumn) (value : F) :
    Bool × String :=
  let (unit, hardMin, hardMax) := column.signalContract
  (PyFloat.isFinite value && PyFloat.le (PyFloat.ofInt hardMin) value &&
      PyFloat.le value (PyFloat.ofInt hardMax),
    column.name ++ " outside hard " ++ unit ++ " envelope [" ++
      PyFloat.repr (PyFloat.ofInt hardMin : F) ++ ", " ++
      PyFloat.repr (PyFloat.ofInt hardMax : F) ++ "]: " ++ PyFloat.repr value)

structure TelemetryEventV1 (F : Type) where
  messageId : UUID
  replaySessionId : UUID
  sourceDatasetSha256 : Sha256
  contractSha256 : Sha256
  sourceTimestamp : Int
  emittedAt : Instant
  machineId : String
  sequence : Int
  analog : AnalogColumn → F
  digital : DigitalColumn → Int

instance {F : Type} [PyFloat F] : FrozenMessage (TelemetryEventV1 F) where
  checks e :=
    [(decide (1 ≤ e.machineId.length), "machine_id: String should have at least 1 character"),
     (decide (e.machineId.length ≤ 128), "machine_id: String should have at most 128 characters"),
     (decide (0 < e.sequence), "sequence: Input should be greater than 0")] ++
    DigitalColumn.all.map (fun column =>
      (decide (e.digital column = 0 ∨ e.digital column = 1),
        column.name ++ ": Input should be 0 or 1")) ++
    AnalogColumn.all.map (fun column => validateAnalogValue column (e.analog column))

/-! ### Replay control -/

inductive ReplayAction where
  | start | pause | resume | stop
deriving DecidableEq, Repr

def ReplayAction.str : ReplayAction → String
  | .start => "START"
  | .pause => "PAUSE"
  | .resume => "RESUME"
  | .stop => "STOP"

inductive ReplayState where
  | created | running | paused | stopped | completed | failed
deriving DecidableEq, Repr

namespace ReplayState

def str : ReplayState → String
  | .created => "CREATED"
  | .running => "RUNNING"
  | .paused => "PAUSED"
  | .stopped => "STOPPED"
  | .completed => "COMPLETED"
  | .failed => "FAILED"

/-- The states a session never leaves. -/
def Terminal : ReplayState → Prop
  | .stopped | .completed | .failed => True
  | _ => False

instance : DecidablePred Terminal := fun state => by
  cases state <;> unfold Terminal <;> infer_instance

end ReplayState

structure ReplayCommandV1 where
  messageId : UUID
  replaySessionId : UUID
  sourceDatasetSha256 : Sha256
  contractSha256 : Sha256
  sourceTimestamp : Int
  emittedAt : Instant
  commandId : UUID
  action : ReplayAction
  speed : Int
  rangeStart : Option Int
  rangeEnd : Option Int
deriving DecidableEq, Repr

/-- `_validate_start_command`. -/
def validateStartCommand (cmd : ReplayCommandV1) : List (Bool × String) :=
  match cmd.rangeStart, cmd.rangeEnd with
  | some rangeStart, some rangeEnd =>
      [(decide (rangeStart < rangeEnd), "range_start must be strictly earlier than range_end"),
       (decide (cmd.sourceTimestamp = rangeStart),
         "source_timestamp must equal range_start for START action")]
  | _, _ => [(false, "START action requires range_start and range_end")]

/-- `_validate_control_command`. -/
def validateControlCommand (cmd : ReplayCommandV1) : List (Bool × String) :=
  [(cmd.rangeStart.isNone && cmd.rangeEnd.isNone,
    cmd.action.str ++ " action must not specify range_start or range_end")]

instance : FrozenMessage ReplayCommandV1 where
  checks cmd :=
    (decide (cmd.speed = 1 ∨ cmd.speed = 100 ∨ cmd.speed = 1000),
        "speed: Input should be 1, 100 or 1000") ::
    match cmd.action with
    | .start => validateStartCommand cmd
    | _ => validateControlCommand cmd

structure ReplayStatusV1 where
  messageId : UUID
  replaySessionId : UUID
  sourceDatasetSha256 : Sha256
  contractSha256 : Sha256
  sourceTimestamp : Int
  emittedAt : Instant
  state : ReplayState
  lastSequence : Option Int
  errorCode : Option String
deriving DecidableEq, Repr

instance : FrozenMessage ReplayStatusV1 where
  checks status :=
    [(decide (status.state.Terminal → ∃ n ∈ status.lastSequence, 0 ≤ n),
        status.state.str ++ " state requires non-negative last_sequence"),
     (decide (status.state = .failed → ∃ code ∈ status.errorCode, code ≠ ""),
        "FAILED state requires non-empty error_code"),
     (decide (status.state ≠ .failed → status.errorCode = none),
        status.state.str ++ " state must have error_code=None")]

theorem replayStatus_valid_iff {status : ReplayStatusV1} :
    Valid status ↔ (status.state.Terminal → ∃ n ∈ status.lastSequence, 0 ≤ n) ∧
      (status.state = .failed → ∃ code ∈ status.errorCode, code ≠ "") ∧
      (status.state ≠ .failed → status.errorCode = none) := by
  simp only [Valid, FrozenMessage.checks, List.forall_mem_cons, List.not_mem_nil, false_implies,
    implies_true, and_true, decide_eq_true_eq]

/-! ### Features -/

structure CoverageEvidenceV1 where
  observationsByBin : List Nat
  binEnds : List Int
deriving DecidableEq, Repr

instance : FrozenMessage CoverageEvidenceV1 where
  checks coverage :=
    [(decide (coverage.observationsByBin.length = 6),
        "observations_by_bin must contain exactly 6 elements"),
     (decide (coverage.binEnds.length = 6), "bin_ends must contain exactly 6 elements"),
     (coverage.observationsByBin.all fun count => decide (24 ≤ count),
        "Observation count is less than min 24 observations/bin"),
     (decide (coverage.binEnds.IsChain (· < ·)), "bin_ends must be strictly increasing")]

theorem coverageEvidence_valid_iff {coverage : CoverageEvidenceV1} :
    Valid coverage ↔ coverage.observationsByBin.length = 6 ∧ coverage.binEnds.length = 6 ∧
      (∀ count ∈ coverage.observationsByBin, 24 ≤ count) ∧
      coverage.binEnds.IsChain (· < ·) := by
  simp only [Valid, FrozenMessage.checks, List.forall_mem_cons, List.not_mem_nil, false_implies,
    implies_true, and_true, decide_eq_true_eq, List.all_eq_true]

structure FeatureVectorV1 (F : Type) where
  messageId : UUID
  replaySessionId : UUID
  sourceDatasetSha256 : Sha256
  contractSha256 : Sha256
  sourceTimestamp : Int
  emittedAt : Instant
  windowId : UUID
  machineId : String
  windowStart : Int
  windowEnd : Int
  featureNames : List String
  featureValues : List F
  coverage : CoverageEvidenceV1

instance {F : Type} [PyFloat F] : FrozenMessage (FeatureVectorV1 F) where
  checks v :=
    [(decide (1 ≤ v.machineId.length), "machine_id: String should have at least 1 character"),
     (decide (v.machineId.length ≤ 128), "machine_id: String should have at most 128 characters"),
     (decide (1 ≤ v.featureNames.length), "feature_names: Tuple should have at least 1 item"),
     (decide (1 ≤ v.featureValues.length), "feature_values: Tuple should have at least 1 item"),
     (decide (v.windowStart < v.windowEnd ∧ v.windowEnd = v.sourceTimestamp),
        "window_start must be < window_end and window_end must equal source_timestamp"),
     (decide (v.featureNames.length = v.featureValues.length),
        "feature_names and feature_values must have the same length"),
     (decide v.featureNames.Nodup, "feature_names must contain unique elements"),
     (v.featureValues.all PyFloat.isFinite, "feature_values must contain only finite numbers")]

theorem featureVector_valid_iff {F : Type} [PyFloat F] {v : FeatureVectorV1 F} :
    Valid v ↔ 1 ≤ v.machineId.length ∧ v.machineId.length ≤ 128 ∧ 1 ≤ v.featureNames.length ∧
      1 ≤ v.featureValues.length ∧
      (v.windowStart < v.windowEnd ∧ v.windowEnd = v.sourceTimestamp) ∧
      v.featureNames.length = v.featureValues.length ∧ v.featureNames.Nodup ∧
      ∀ value ∈ v.featureValues, PyFloat.isFinite value = true := by
  simp only [Valid, FrozenMessage.checks, List.forall_mem_cons, List.not_mem_nil, false_implies,
    implies_true, and_true, decide_eq_true_eq, List.all_eq_true]

/-! ### Scores and alerts -/

structure EvidenceValueV1 (F : Type) where
  featureName : String
  featureValue : F
  robustDeviation : F
deriving DecidableEq, Repr

instance {F : Type} [PyFloat F] : FrozenMessage (EvidenceValueV1 F) where
  checks ev :=
    [(PyFloat.isFinite ev.featureValue && PyFloat.isFinite ev.robustDeviation,
        "feature_value and robust_deviation must be finite numbers")]

structure ScoreDecisionV1 (F : Type) where
  messageId : UUID
  replaySessionId : UUID
  sourceDatasetSha256 : Sha256
  contractSha256 : Sha256
  sourceTimestamp : Int
  emittedAt : Instant
  decisionId : UUID
  windowId : UUID
  modelVersion : String
  score : F
  threshold : F
  isAnomaly : Bool
  evidenceVector : List (EvidenceValueV1 F)
deriving DecidableEq, Repr

instance {F : Type} [PyFloat F] : FrozenMessage (ScoreDecisionV1 F) where
  checks d :=
    [(decide (1 ≤ d.modelVersion.length),
        "model_version: String should have at least 1 character"),
     (decide (d.modelVersion.length ≤ 200),
        "model_version: String should have at most 200 characters")] ++
    d.evidenceVector.flatMap FrozenMessage.checks ++
    [(PyFloat.isFinite d.score && PyFloat.isFinite d.threshold,
        "score and threshold must be finite numbers")]

structure FeatureDeviationV1 (F : Type) where
  featureName : String
  observedValue : F
  baselineValue : F
  absoluteDeviation : F
deriving DecidableEq, Repr

instance {F : Type} [PyFloat F] : FrozenMessage (FeatureDeviationV1 F) where
  checks dev :=
    [(decide (1 ≤ dev.featureName.length),
        "feature_name: String should have at least 1 character"),
     (PyFloat.le (PyFloat.ofInt 0) dev.absoluteDeviation,
        "absolute_deviation: Input should be greater than or equal to 0"),
     (PyFloat.isFinite dev.observedValue && PyFloat.isFinite dev.baselineValue &&
        PyFloat.isFinite dev.absoluteDeviation, "Deviation values must be finite")]

inductive AlertAction where
  | opened | updated | resolved | reopened
deriving DecidableEq, Repr

structure AlertEventV1 where
  messageId : UUID
  replaySessionId : UUID
  sourceDatasetSha256 : Sha256
  contractSha256 : Sha256
  sourceTimestamp : Int
  emittedAt : Instant
  alertId : UUID
  machineId : String
  action : AlertAction
  firstDetection : Int
  lastDetection : Int
  decisionIds : List UUID
  policySha256 : Sha256
deriving DecidableEq, Repr

instance : FrozenMessage AlertEventV1 where
  checks e :=
    [(decide (1 ≤ e.machineId.length), "machine_id: String should have at least 1 character"),
     (decide (1 ≤ e.decisionIds.length), "decision_ids: Tuple should have at least 1 item"),
     (decide (e.firstDetection ≤ e.lastDetection),
        "first_detection must not be later than last_detection")]

/-- The values of the free-form evidence sections. -/
inductive EvidenceScalar (F : Type) where
  | number (value : F)
  | text (value : String)
  | flag (value : Bool)
deriving DecidableEq, Repr

structure EvidenceSnapshotV1 (F : Type) where
  messageId : UUID
  replaySessionId : UUID
  sourceDatasetSha256 : Sha256
  contractSha256 : Sha256
  sourceTimestamp : Int
  emittedAt : Instant
  evidenceId : UUID
  alertId : UUID
  decisionId : UUID
  windowId : UUID
  modelVersion : String
  featureDeviations : List (FeatureDeviationV1 F)
  dataQuality : List (String × EvidenceScalar F)
  model : List (String × EvidenceScalar F)
  systemHealth : List (String × EvidenceScalar F)
deriving DecidableEq, Repr

instance {F : Type} : FrozenMessage (EvidenceSnapshotV1 F) where
  checks snapshot :=
    [(decide (1 ≤ snapshot.modelVersion.length),
        "model_version: String should have at least 1 character")]

/-! ### Quarantine -/

structure QuarantineRecordV1 where
  messageId : UUID
  sourceDatasetSha256 : Sha256
  contractSha256 : Sha256
  sourceTimestamp : Int
  emittedAt : Instant
  originalTopic : String
  partition : Nat
  offset : Nat
  payloadSha256 : Sha256
  errorCode : String
  errorDetail : String
deriving DecidableEq, Repr

/-- `datetime(2020, 1, 1)`, the timestamp of records that have none. -/
def epoch2020 : Int := Datetime.seconds 1577836800

example : Datetime.isoformat epoch2020 = "2020-01-01T00:00:00" := by decide

end IndustrialReliability
