import IndustrialReliability.Features.Contract

/-!
The part of the phase 1 contract that segments and training windows are made by.
-/

namespace IndustrialReliability

structure Phase1Contract where
  predictorColumns : List String
  analogColumns : List String
  digitalColumns : List String
  analogStatistics : List String
  digitalStatistics : List String
  analogStdDdof : Nat
  featureColumns : List String
  train : Split
  calibration : Split
  holdout : Split
  gapMaxDeltaSeconds : Int
  windowSeconds : Nat
  strideSeconds : Nat
deriving DecidableEq, Repr

namespace Phase1

/-- `f"{column}__{statistic}"`. -/
def featureColumn (column statistic : String) : String := column ++ "__" ++ statistic

def ANALOG_COLUMNS : List String :=
  ["TP2", "TP3", "H1", "DV_pressure", "Reservoirs", "Oil_temperature", "Flowmeter", "Motor_current"]

def DIGITAL_COLUMNS : List String := ["COMP", "DV_eletric", "Towers", "MPG", "Caudal_impulses"]

def ANALOG_STATISTICS : List String := ["last", "mean", "std", "min", "max", "delta"]

def DIGITAL_STATISTICS : List String := ["last", "active_ratio", "transition_count"]

def FEATURE_COLUMNS : List String :=
  (ANALOG_COLUMNS.flatMap fun column => ANALOG_STATISTICS.map (featureColumn column)) ++
    DIGITAL_COLUMNS.flatMap fun column => DIGITAL_STATISTICS.map (featureColumn column)

end Phase1

def PHASE1 : Phase1Contract where
  predictorColumns := Phase1.ANALOG_COLUMNS ++ Phase1.DIGITAL_COLUMNS
  analogColumns := Phase1.ANALOG_COLUMNS
  digitalColumns := Phase1.DIGITAL_COLUMNS
  analogStatistics := Phase1.ANALOG_STATISTICS
  digitalStatistics := Phase1.DIGITAL_STATISTICS
  analogStdDdof := 0
  featureColumns := Phase1.FEATURE_COLUMNS
  -- 2022-01-01T06:00, 2022-02-01, 2022-02-21 and 2022-06-02T15:49:54.
  train := ⟨"train", Datetime.seconds 1641016800, Datetime.seconds 1643673600⟩
  calibration := ⟨"calibration", Datetime.seconds 1643673600, Datetime.seconds 1645401600⟩
  holdout := ⟨"holdout", Datetime.seconds 1645401600, Datetime.seconds 1654184994⟩
  gapMaxDeltaSeconds := 1
  windowSeconds := 1800
  strideSeconds := 300

end IndustrialReliability
