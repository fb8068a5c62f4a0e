import IndustrialReliability.Lab.Sensors

/-!
`evaluate_sensor_observation`: the process limit and data quality rules of a sensor.

The state of a sensor is updated in place, so an evaluation returns it beside the
alerts and events, or beside the error that was raised: an alert whose first tick
would be negative is refused by its model. The `uuid4` values of a call are its
`AnalysisIds`.
-/

namespace IndustrialReliability

inductive AlertOrigin where
  | PROCESS_LIMIT | DATA_QUALITY | ML
deriving DecidableEq, Repr

inductive AlertKind where
  | BELOW_LIMIT | ABOVE_LIMIT | MISSING | INVALID | ANOMALY
deriving DecidableEq, Repr

/-- `AlertState` of the lab contracts. -/
inductive LabAlertState where
  | OPEN | RESOLVED
deriving DecidableEq, Repr

structure LabAlert where
  alertId : UUID
  runId : UUID
  assetId : UUID
  sensorId : UUID
  origin : AlertOrigin
  kind : AlertKind
  state : LabAlertState
  firstTick : Nat
  lastTick : Nat
  resolvedTick : Option Nat
  evidenceIds : List UUID
deriving DecidableEq, Repr

/-- A `LabEvent` of kind `ALERT`; its payload is the alert. -/
structure AlertEvent where
  eventId : UUID
  runId : UUID
  sequence : Nat
  tick : Nat
  payload : LabAlert
deriving DecidableEq, Repr

/-- The `ValidationError` of a `LabAlert`. -/
inductive AnalysisError where
  | negativeFirstTick (tick : Int)
deriving DecidableEq, Repr

/-- `uuid4()` for the alerts and the events of one evaluation. -/
structure AnalysisIds where
  qualityAlert : UUID
  qualityEvent : UUID
  processAlert : UUID
  processEvent : UUID

variable {R : Type} [LabNumber R]

structure SensorAnalysisState (R : Type) where
  sensorId : UUID
  highViolations : Nat
  lowViolations : Nat
  normalStreak : Nat
  badQualityStreak : Nat
  goodQualityStreak : Nat
  activeProcessAlert : Option LabAlert
  activeQualityAlert : Option LabAlert
  recentObservations : List (Observation R)

/-- `SensorAnalysisState(sensor_id=..)`. -/
def SensorAnalysisState.new (sensor : UUID) : SensorAnalysisState R :=
  ⟨sensor, 0, 0, 0, 0, 0, none, none, []⟩

/-- `emitted_alerts` and `emitted_events`. -/
structure Emitted where
  alerts : List LabAlert
  events : List AlertEvent
deriving DecidableEq, Repr

namespace Emitted

def nothing : Emitted := ⟨[], []⟩

def append (emitted : Emitted) (alert : LabAlert) (event : AlertEvent) : Emitted :=
  ⟨emitted.alerts ++ [alert], emitted.events ++ [event]⟩

end Emitted

/-- The state after an evaluation and what it returns or raises. -/
abbrev Evaluation (R : Type) := SensorAnalysisState R × Except AnalysisError Emitted

namespace SensorAnalysis

/-- `LabAlert(.., state="OPEN", first_tick=obs.tick - window, ..)`. -/
def openAlert (id : UUID) (obs : Observation R) (sensor : Sensor R) (origin : AlertOrigin)
    (kind : AlertKind) (window : Nat) : Except AnalysisError LabAlert :=
  if obs.tick < window then .error (.negativeFirstTick (obs.tick - window))
  else .ok {
    alertId := id
    runId := obs.runId
    assetId := sensor.target.assetId
    sensorId := sensor.sensorId
    origin
    kind
    state := .OPEN
    firstTick := obs.tick - window
    lastTick := obs.tick
    resolvedTick := none
    evidenceIds := [] }

/-- `alert.model_copy(update={"state": "RESOLVED", ..})`. -/
def resolveAlert (obs : Observation R) (alert : LabAlert) : LabAlert :=
  { alert with
    state := .RESOLVED
    lastTick := obs.tick
    resolvedTick := some obs.tick }

def alertEvent (id : UUID) (obs : Observation R) (alert : LabAlert) : AlertEvent :=
  ⟨id, obs.runId, 0, obs.tick, alert⟩

/-- The last twenty observations. -/
def remember (state : SensorAnalysisState R) (obs : Observation R) : SensorAnalysisState R :=
  let recent := state.recentObservations ++ [obs]
  { state with recentObservations := if 20 < recent.length then recent.drop 1 else recent }

/-! ### Data quality -/

/-- The branch of a `MISSING` or `INVALID` observation. -/
def evaluateBad (ids : AnalysisIds) (obs : Observation R) (sensor : Sensor R)
    (state : SensorAnalysisState R) : Evaluation R :=
  let state := { state with
    badQualityStreak := state.badQualityStreak + 1
    goodQualityStreak := 0
    normalStreak := 0 }
  if 2 ≤ state.badQualityStreak ∧ state.activeQualityAlert.isNone = true then
    let kind := if obs.quality = .MISSING then .MISSING else .INVALID
    match openAlert ids.qualityAlert obs sensor .DATA_QUALITY kind 20 with
    | .error error => (state, .error error)
    | .ok alert => ({ state with activeQualityAlert := some alert },
        .ok (Emitted.nothing.append alert (alertEvent ids.qualityEvent obs alert)))
  else (state, .ok .nothing)

/-- What a `GOOD` observation does to the quality alert. -/
def evaluateGood (ids : AnalysisIds) (obs : Observation R) (state : SensorAnalysisState R) :
    SensorAnalysisState R × Emitted :=
  let state := { state with goodQualityStreak := state.goodQualityStreak + 1 }
  match state.activeQualityAlert with
  | some alert =>
      if 3 ≤ state.goodQualityStreak then
        let resolved := resolveAlert obs alert
        ({ state with activeQualityAlert := none, badQualityStreak := 0 },
          Emitted.nothing.append resolved (alertEvent ids.qualityEvent obs resolved))
      else (state, .nothing)
  | none => (state, .nothing)

/-! ### Process limits -/

/-- `hysteresis`. -/
def hysteresis (sensor : Sensor R) : R :=
  match sensor.target with
  | .pressure _ => num 10000.0
  | .flow _ => num 0.001

def isAbove (sensor : Sensor R) (value : R) : Bool :=
  sensor.alarmHigh.any fun high => decide (high < value)

def isBelow (sensor : Sensor R) (value : R) : Bool :=
  sensor.alarmLow.any fun low => decide (value < low)

/-- `is_safely_inside`. -/
def isSafelyInside (sensor : Sensor R) (value : R) : Bool :=
  !(sensor.alarmHigh.any fun high => decide (high - hysteresis sensor ≤ value)) &&
    !(sensor.alarmLow.any fun low => decide (value ≤ low + hysteresis sensor))

/-- The third violation of a limit opens an alert. -/
def evaluateViolation (ids : AnalysisIds) (obs : Observation R) (sensor : Sensor R) (kind : AlertKind)
    (violations : Nat) (state : SensorAnalysisState R) (emitted : Emitted) : Evaluation R :=
  if 3 ≤ violations ∧ state.activeProcessAlert.isNone = true then
    match openAlert ids.processAlert obs sensor .PROCESS_LIMIT kind 40 with
    | .error error => (state, .error error)
    | .ok alert => ({ state with activeProcessAlert := some alert },
        .ok (emitted.append alert (alertEvent ids.processEvent obs alert)))
  else (state, .ok emitted)

/-- The fifth observation safely inside resolves the alert. -/
def evaluateInside (ids : AnalysisIds) (obs : Observation R) (state : SensorAnalysisState R)
    (emitted : Emitted) : Evaluation R :=
  let state := { state with
    normalStreak := state.normalStreak + 1
    highViolations := 0
    lowViolations := 0 }
  match state.activeProcessAlert with
  | some alert =>
      if 5 ≤ state.normalStreak then
        let resolved := resolveAlert obs alert
        ({ state with activeProcessAlert := none },
          .ok (emitted.append resolved (alertEvent ids.processEvent obs resolved)))
      else (state, .ok emitted)
  | none => (state, .ok emitted)

def evaluateLimits (ids : AnalysisIds) (obs : Observation R) (sensor : Sensor R) (value : R)
    (state : SensorAnalysisState R) (emitted : Emitted) : Evaluation R :=
  if isAbove sensor value then
    let state := { state with
      highViolations := state.highViolations + 1
      lowViolations := 0
      normalStreak := 0 }
    evaluateViolation ids obs sensor .ABOVE_LIMIT state.highViolations state emitted
  else if isBelow sensor value then
    let state := { state with
      lowViolations := state.lowViolations + 1
      highViolations := 0
      normalStreak := 0 }
    evaluateViolation ids obs sensor .BELOW_LIMIT state.lowViolations state emitted
  else if isSafelyInside sensor value then evaluateInside ids obs state emitted
  else (state, .ok emitted)

end SensorAnalysis

open SensorAnalysis

def evaluateSensorObservation (ids : AnalysisIds) (obs : Observation R) (sensor : Sensor R)
    (state : SensorAnalysisState R) : Evaluation R :=
  let state := remember state obs
  if obs.quality = .MISSING ∨ obs.quality = .INVALID then evaluateBad ids obs sensor state
  else
    let (state, emitted) := evaluateGood ids obs state
    match obs.value with
    | none => (state, .ok emitted)
    | some value => evaluateLimits ids obs sensor value state emitted

/-- The state after some observations, evaluated one after another with the ids of
their places. -/
def analyse (sensor : Sensor R) (ids : Nat → AnalysisIds) (observations : List (Observation R)) :
    SensorAnalysisState R :=
  observations.zipIdx.foldl (fun state entry =>
    (evaluateSensorObservation (ids entry.2) entry.1 sensor state).1) (.new sensor.sensorId)

/-- What the evaluation of an observation returns after some others. -/
def evaluatedAfter (sensor : Sensor R) (ids : Nat → AnalysisIds) (before : List (Observation R))
    (obs : Observation R) : Except AnalysisError Emitted :=
  (evaluateSensorObservation (ids before.length) obs sensor (analyse sensor ids before)).2

/-- The alerts that it emits. -/
def emittedAfter (sensor : Sensor R) (ids : Nat → AnalysisIds) (before : List (Observation R))
    (obs : Observation R) : List LabAlert :=
  match evaluatedAfter sensor ids before obs with
  | .ok emitted => emitted.alerts
  | .error _ => []

end IndustrialReliability
