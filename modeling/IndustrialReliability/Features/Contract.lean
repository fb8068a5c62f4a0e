import IndustrialReliability.Runtime.Messages

/-!
The part of the phase 1B contract that feature windows are made by.
-/

namespace IndustrialReliability

/-- A split; its field `end` is `stop` here. -/
structure Split where
  name : String
  start : Int
  stop : Int
deriving DecidableEq, Repr

structure Phase1BContract where
  analogColumns : List AnalogColumn
  digitalColumns : List DigitalColumn
  predictorColumns : List String
  train : Split
  calibration : Split
  holdout : Split
  minBinObservations : Nat
  lookbackBins : Nat
  strideSeconds : Int
deriving DecidableEq, Repr

namespace Phase1BContract

/-- `c for c in digital_columns if c in predictor_columns`. -/
def predictorDigitalColumns (contract : Phase1BContract) : List DigitalColumn :=
  contract.digitalColumns.filter (·.name ∈ contract.predictorColumns)

/-- The splits, in the order in which a window is matched with them. -/
def splits (contract : Phase1BContract) : List Split :=
  [contract.train, contract.calibration, contract.holdout]

end Phase1BContract

def PHASE1C : Phase1BContract where
  analogColumns := AnalogColumn.all
  digitalColumns := [.comp, .dvElectric, .towers, .mpg, .pressureSwitch, .oilLevel,
    .caudalImpulses, .lps]
  predictorColumns := ["tp2", "tp3", "h1", "dv_pressure", "reservoirs", "oil_temperature",
    "motor_current", "comp", "dv_electric", "towers", "mpg", "pressure_switch", "oil_level",
    "caudal_impulses"]
  -- 2020-02-01, 2020-02-22, 2020-03-01 and 2020-09-01T04:00.
  train := ⟨"train", Datetime.seconds 1580515200, Datetime.seconds 1582329600⟩
  calibration := ⟨"calibration", Datetime.seconds 1582329600, Datetime.seconds 1583020800⟩
  holdout := ⟨"holdout", Datetime.seconds 1583020800, Datetime.seconds 1598932800⟩
  minBinObservations := 24
  lookbackBins := 6
  strideSeconds := 300

end IndustrialReliability
