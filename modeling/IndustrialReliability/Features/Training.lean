import IndustrialReliability.Data.Contract
import IndustrialReliability.Lib.PrefixSums
import IndustrialReliability.Lib.Results
import IndustrialReliability.Lib.Table

/-!
Training windows of a segment.

`extractWithRejections` takes a window at every stride, drops those that cross a
gap or leave their split, and computes the features of the rest column by column.
pandas' rolling aggregates of analog columns are a parameter (`Rolling`); digital
columns hold integers, on which sums and differences are exact.
-/

namespace IndustrialReliability

variable {F : Type}

/-- A row of a segment file. -/
structure FrameRow (F : Type) where
  timestamp : Int
  analog : String → F
  digital : String → Int

structure SegmentFrame (F : Type) where
  columns : List String
  rows : List (FrameRow F)

/-- Rolling aggregates: the window, the series and the position. -/
structure Rolling (F : Type) where
  mean : Nat → List F → Nat → F
  std : (ddof window : Nat) → List F → Nat → F
  min : Nat → List F → Nat → F
  max : Nat → List F → Nat → F

/-- What stops the extraction. -/
inductive TrainingError where
  /-- `DataContractError`. -/
  | dataContract (message : String)
  | keyError (key : String)
deriving DecidableEq, Repr

/-- The table of accepted windows, column by column. -/
structure FeatureFrame (F : Type) where
  windowStart : List Int
  windowEnd : List Int
  split : List String
  features : List (String × List F)

/-- The numbers of windows rejected, by reason. -/
structure RejectedWindows where
  splitBoundary : Nat
  timestampGap : Nat
deriving DecidableEq, Repr

/-- A candidate window: the position of its last row, and what decides on it. -/
structure TrainingCandidate where
  candidate : Nat
  windowStart : Int
  windowEnd : Int
  crossesGap : Bool
  splitName : Option String
deriving DecidableEq, Repr

/-- `str(names)`. -/
def strOfList (names : List String) : String :=
  "[" ++ String.intercalate ", " (names.map fun name => "'" ++ name ++ "'") ++ "]"

/-- `series.diff()`: the first value has no predecessor. -/
def seriesDiff : List Int → List (Option Int)
  | [] => []
  | x :: xs => none :: (List.zipWith (fun before after => after - before) (x :: xs) xs).map some

/-- `series.diff().ne(expected)`, with the first value set to false. -/
def differs (expected : Int) (series : List Int) : List Bool :=
  ((seriesDiff series).map fun delta => decide (delta ≠ some expected)).set 0 false

namespace Phase1Contract

/-- The splits, in the order in which windows are labelled. -/
def splits (contract : Phase1Contract) : List Split :=
  [contract.train, contract.calibration, contract.holdout]

/-- The positions of the last rows of the candidate windows. -/
def candidates (contract : Phase1Contract) (rows : Nat) : List Nat :=
  Lib.arange (contract.windowSeconds - 1) rows contract.strideSeconds

/-- The label of a window: that of the last split that contains it. -/
def splitName (contract : Phase1Contract) (windowStart windowEnd : Int) (crossesGap : Bool) :
    Option String :=
  contract.splits.foldl (fun name split =>
    if split.start ≤ windowStart ∧ windowEnd < split.stop ∧ crossesGap = false then some split.name
    else name) none

end Phase1Contract

/-- What decides on a candidate. -/
def trainingCandidate (contract : Phase1Contract) (timestamps : List Int) (invalidPrefix : List Nat)
    (candidate : Nat) : TrainingCandidate :=
  let start := candidate + 1 - contract.windowSeconds
  let windowStart := timestamps.getD start 0
  let windowEnd := timestamps.getD candidate 0
  let crossesGap :=
    decide ((invalidPrefix.getD candidate 0 : Int) - invalidPrefix.getD start 0 ≠ 0)
  { candidate
    windowStart
    windowEnd
    crossesGap
    splitName := contract.splitName windowStart windowEnd crossesGap }

def TrainingCandidate.accepted (window : TrainingCandidate) : Bool :=
  !window.crossesGap && window.splitName.isSome

section Features

variable [PyFloat F] (rolling : Rolling F) (contract : Phase1Contract) (frame : SegmentFrame F)

/-- A statistic of an analog column, at the last row of a window. -/
def analogStatistic (values : List F) (statistic : String) : Option (Nat → F) :=
  let window := contract.windowSeconds
  let valueAt := fun position => values.getD position (PyFloat.ofInt 0)
  match statistic with
  | "last" => some valueAt
  | "mean" => some (rolling.mean window values)
  | "std" => some (rolling.std contract.analogStdDdof window values)
  | "min" => some (rolling.min window values)
  | "max" => some (rolling.max window values)
  | "delta" => some fun selected => PyFloat.sub (valueAt selected) (valueAt (selected + 1 - window))
  | _ => none

/-- A statistic of a digital column, at the last row of a window. -/
def digitalStatistic (values : List Int) (statistic : String) : Option (Nat → F) :=
  let window := contract.windowSeconds
  let changes := (differs 0 values).map Bool.toNat
  match statistic with
  | "last" => some fun selected => PyFloat.ofInt (values.getD selected 0)
  | "active_ratio" => some (rolling.mean window (values.map PyFloat.ofInt))
  | "transition_count" => some fun selected =>
      PyFloat.ofInt (Lib.rollingSum (window - 1) changes selected)
  | _ => none

omit [PyFloat F] in
/-- The columns of a loop over columns and statistics are assigned to the result. -/
def assignColumns (columns statistics : List String)
    (statisticOf : String → String → Option (Nat → F)) (selected : List Nat)
    (result : Lib.Table String (List F)) : Except TrainingError (Lib.Table String (List F)) :=
  columns.foldlM (fun result column =>
    if column ∉ frame.columns then .error (.keyError column)
    else statistics.foldlM (fun result statistic =>
      match statisticOf column statistic with
      | some value =>
          .ok (result.set (Phase1.featureColumn column statistic) (selected.map value))
      | none => .error (.keyError statistic)) result) result

/-- The features of the selected windows. -/
def windowFeatures (selected : List Nat) : Except TrainingError (List (String × List F)) := do
  let result ← assignColumns frame contract.analogColumns contract.analogStatistics
    (fun column => analogStatistic rolling contract (frame.rows.map fun row => row.analog column))
    selected .empty
  let result ← assignColumns frame contract.digitalColumns contract.digitalStatistics
    (fun column => digitalStatistic rolling contract (frame.rows.map fun row => row.digital column))
    selected result
  contract.featureColumns.mapM fun column =>
    match result.get? column with
    | some values => .ok (column, values)
    | none => .error (.keyError column)

/-- `_extract_with_rejections`. -/
def extractWithRejections : Except TrainingError (FeatureFrame F × RejectedWindows) :=
  let required := "timestamp" :: contract.predictorColumns
  let missing := required.filter fun column => column ∉ frame.columns
  if missing ≠ [] then
    .error (.dataContract ("segment is missing required columns: " ++ strOfList missing))
  else if contract.windowSeconds < 2 ∨ contract.strideSeconds < 1 then
    .error (.dataContract "window_seconds must be at least 2 and stride_seconds positive")
  else
    let candidates := contract.candidates frame.rows.length
    if candidates = [] then
      .ok (⟨[], [], [], contract.featureColumns.map fun column => (column, [])⟩, ⟨0, 0⟩)
    else do
      let timestamps := frame.rows.map FrameRow.timestamp
      -- `total_seconds() != 1`, in microseconds.
      let invalidDelta := differs (Datetime.seconds 1) timestamps
      let invalidPrefix := Lib.cumsum (invalidDelta.map Bool.toNat)
      let windows := candidates.map (trainingCandidate contract timestamps invalidPrefix)
      let accepted := windows.filter TrainingCandidate.accepted
      let features ← windowFeatures rolling contract frame (accepted.map (·.candidate))
      return ({
        windowStart := accepted.map (·.windowStart)
        windowEnd := accepted.map (·.windowEnd)
        split := accepted.filterMap (·.splitName)
        features }, {
        splitBoundary := windows.countP fun window => !window.crossesGap && window.splitName.isNone
        timestampGap := windows.countP (·.crossesGap) })

end Features

end IndustrialReliability
