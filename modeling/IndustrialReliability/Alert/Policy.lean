import IndustrialReliability.Runtime.Messages

/-!
The locked alert policy and the calibration simulation that selects it.

`simulateAlertStream` is the loop over the calibration windows: it counts the
episodes a policy would open and the windows during which an alert would be
active. Its loop body is `simStep`, a fold step over the loop variables
(`SimState`), built from `stepAnomaly` and `stepNormal` as in the source.
-/

namespace IndustrialReliability

structure LockedAlertPolicyV1 (F : Type) where
  sourceSplit : String
  sourceScoresSha256 : Sha256
  sourceDatasetSha256 : Sha256
  contractSha256 : Sha256
  modelId : String
  modelVersion : String
  threshold : F
  strideSeconds : Int
  persistenceDecisions : Int
  cooldownDecisions : Int
  mergeGapSeconds : Int
  calibrationFalseEpisodesPerDay : F
  calibrationTimeInAlert : F
  policySha256 : Sha256
deriving DecidableEq, Repr

/-- `(ts - earlier).total_seconds() <= seconds`. -/
def withinSeconds (ts earlier seconds : Int) : Bool :=
  decide (ts - earlier ≤ Datetime.seconds seconds)

/-- One anomalous window: the new activity, the new streak and the episodes
opened. -/
def stepAnomaly (ts : Int) (isActive : Bool) (anomalyStreak : Nat)
    (lastResolution : Option Int) (persistence mergeGapSeconds : Int) : Bool × Nat × Nat :=
  let newAnomalyStreak := anomalyStreak + 1
  if !isActive && decide (persistence ≤ newAnomalyStreak) then
    let isMerged := match lastResolution with
      | some resolution => decide (0 < mergeGapSeconds) && withinSeconds ts resolution mergeGapSeconds
      | none => false
    (true, newAnomalyStreak, if isMerged then 0 else 1)
  else (isActive, newAnomalyStreak, 0)

/-- One normal window: the new activity, the new streak and the resolution, if
this window ends an episode. -/
def stepNormal (ts : Int) (isActive : Bool) (normalStreak : Nat) (cooldown : Int) :
    Bool × Nat × Option Int :=
  let newNormalStreak := normalStreak + 1
  if isActive && decide (cooldown ≤ newNormalStreak) then (false, newNormalStreak, some ts)
  else (isActive, newNormalStreak, none)

/-- The columns of a calibration frame that the simulation reads. -/
structure CalibrationRow where
  windowEnd : Int
  isAnomaly : Bool
deriving DecidableEq, Repr

/-- The loop variables of the simulation. -/
structure SimState where
  isActive : Bool
  anomalyStreak : Nat
  normalStreak : Nat
  lastResolution : Option Int
  episodes : Nat
  alertWindowCount : Nat
deriving DecidableEq, Repr

def SimState.initial : SimState := ⟨false, 0, 0, none, 0, 0⟩

/-- The loop body. -/
def simStep (persistence cooldown mergeGapSeconds : Int) (s : SimState) (row : CalibrationRow) :
    SimState :=
  let ts := row.windowEnd
  let s :=
    if row.isAnomaly then
      let (isActive, anomalyStreak, epInc) :=
        stepAnomaly ts s.isActive s.anomalyStreak s.lastResolution persistence mergeGapSeconds
      { s with isActive, anomalyStreak, normalStreak := 0, episodes := s.episodes + epInc }
    else
      let (isActive, normalStreak, res) := stepNormal ts s.isActive s.normalStreak cooldown
      { s with isActive, normalStreak, anomalyStreak := 0,
               lastResolution := res.or s.lastResolution }
  { s with alertWindowCount := s.alertWindowCount + if s.isActive then 1 else 0 }

/-- `_simulate_alert_stream`: the episode count and the alert-window count. -/
def simulateAlertStream (rows : List CalibrationRow)
    (persistence cooldown mergeGapSeconds : Int) : Nat × Nat :=
  let s := rows.foldl (simStep persistence cooldown mergeGapSeconds) .initial
  (s.episodes, s.alertWindowCount)

/-- The states of the simulation after each row. -/
def simTrace (persistence cooldown mergeGapSeconds : Int) :
    SimState → List CalibrationRow → List SimState
  | _, [] => []
  | s, row :: rows =>
      let next := simStep persistence cooldown mergeGapSeconds s row
      next :: simTrace persistence cooldown mergeGapSeconds next rows

/-- At each row, whether the simulation becomes active there without counting a
new episode: the onsets it merges into an earlier episode. -/
def mergedOnsets (persistence cooldown mergeGapSeconds : Int) :
    SimState → List CalibrationRow → List Bool
  | _, [] => []
  | s, row :: rows =>
      let next := simStep persistence cooldown mergeGapSeconds s row
      (!s.isActive && next.isActive && decide (next.episodes = s.episodes)) ::
        mergedOnsets persistence cooldown mergeGapSeconds next rows

end IndustrialReliability
