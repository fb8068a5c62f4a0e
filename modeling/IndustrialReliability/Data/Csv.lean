import IndustrialReliability.Data.Contract
import IndustrialReliability.Lib.Cuts
import IndustrialReliability.Lib.Results

/-!
Preparation of the source file: batches of rows to segment files.

`processCsvBatches` reads record batches, checks each (`validateBatch`), and
appends its rows to the open segment file, which it closes wherever the
timestamps leave a gap. A segment file is the record batches written to it, and
its hash is a function of these. Reading the file and writing to disk do not
fail here.
-/

namespace IndustrialReliability

inductive FloatColumn where
  | tp2 | tp3 | h1 | dvPressure | reservoirs | oilTemperature | flowmeter | motorCurrent
  | gpsLong | gpsLat | gpsSpeed
deriving DecidableEq, Repr

inductive BinaryColumn where
  | comp | dvEletric | towers | mpg | lps | pressureSwitch | oilLevel | caudalImpulses
deriving DecidableEq, Repr

namespace FloatColumn

def name : FloatColumn → String
  | tp2 => "TP2"
  | tp3 => "TP3"
  | h1 => "H1"
  | dvPressure => "DV_pressure"
  | reservoirs => "Reservoirs"
  | oilTemperature => "Oil_temperature"
  | flowmeter => "Flowmeter"
  | motorCurrent => "Motor_current"
  | gpsLong => "gpsLong"
  | gpsLat => "gpsLat"
  | gpsSpeed => "gpsSpeed"

/-- `_FLOAT_COLUMNS`. -/
def all : List FloatColumn :=
  [tp2, tp3, h1, dvPressure, reservoirs, oilTemperature, flowmeter, motorCurrent, gpsLong, gpsLat,
    gpsSpeed]

theorem mem_all (column : FloatColumn) : column ∈ all := by cases column <;> simp [all]

end FloatColumn

namespace BinaryColumn

def name : BinaryColumn → String
  | comp => "COMP"
  | dvEletric => "DV_eletric"
  | towers => "Towers"
  | mpg => "MPG"
  | lps => "LPS"
  | pressureSwitch => "Pressure_switch"
  | oilLevel => "Oil_level"
  | caudalImpulses => "Caudal_impulses"

/-- `_BINARY_COLUMNS`. -/
def all : List BinaryColumn :=
  [comp, dvEletric, towers, mpg, lps, pressureSwitch, oilLevel, caudalImpulses]

theorem mem_all (column : BinaryColumn) : column ∈ all := by cases column <;> simp [all]

end BinaryColumn

/-- A row of a record batch; a null is `none`. The timestamp is in seconds since
1970-01-01T00:00:00. -/
structure CsvRow (F : Type) where
  timestamp : Option Int
  float : FloatColumn → Option F
  binary : BinaryColumn → Option Int
  gpsQuality : Option Int

/-- What stops the preparation of a file. -/
inductive CsvError where
  /-- `DataContractError`. -/
  | dataContract (message : String)
  | assertion
  | indexError
deriving DecidableEq, Repr

variable {F : Type}

/-- Whether a row has a null in some column. -/
def CsvRow.hasNull (row : CsvRow F) : Bool :=
  row.timestamp.isNone || FloatColumn.all.any (fun column => (row.float column).isNone) ||
    BinaryColumn.all.any (fun column => (row.binary column).isNone) || row.gpsQuality.isNone

/-- The values of a column without nulls. -/
def columnValues {α : Type} (column : CsvRow F → Option α) (batch : List (CsvRow F)) : List α :=
  batch.filterMap column

/-- `raise DataContractError(message)` unless the check holds. -/
def demand (holds : Bool) (message : String) : Except CsvError Unit :=
  if holds then .ok () else .error (.dataContract message)

section Batches

variable [PyFloat F]

/-- `value == 0`. -/
def PyFloat.isZero (value : F) : Bool :=
  PyFloat.le value (PyFloat.ofInt 0) && PyFloat.le (PyFloat.ofInt 0) value

/-- `_validate_batch`: the timestamps of a batch that meets the contract. -/
def validateBatch (batch : List (CsvRow F)) : Except CsvError (List Int) := do
  demand (!batch.any CsvRow.hasNull) "source rows must not contain null values"
  FloatColumn.all.forM fun column =>
    demand ((columnValues (fun row => row.float column) batch).all PyFloat.isFinite)
      (column.name ++ " must contain only finite values")
  BinaryColumn.all.forM fun column =>
    demand ((columnValues (fun row => row.binary column) batch).all fun value => value = 0 ∨ value = 1)
      (column.name ++ " must contain only binary values")
  let longitude := columnValues (fun row => row.float .gpsLong) batch
  let latitude := columnValues (fun row => row.float .gpsLat) batch
  let quality := columnValues CsvRow.gpsQuality batch
  demand (longitude.map PyFloat.isZero = latitude.map PyFloat.isZero ∧
      longitude.map PyFloat.isZero = quality.map fun value => decide (value = 0))
    "GPS sentinel disagreement among longitude, latitude, and quality"
  return columnValues CsvRow.timestamp batch

end Batches

structure SegmentManifest where
  segmentId : Nat
  path : String
  start : Int
  stop : Int
  rows : Nat
  sha256 : String
deriving DecidableEq, Repr

/-- A segment file: the record batches written to it. -/
abbrev SegmentFile (F : Type) := List (List (CsvRow F))

/-- An entry of the manifest, with the file it is of. -/
structure Segment (F : Type) where
  manifest : SegmentManifest
  file : SegmentFile F

/-- The variables of `_process_csv_batches`. -/
structure CsvLoop (F : Type) where
  writer : Option (SegmentFile F)
  segmentId : Nat
  segmentPath : Option String
  segmentStart : Option Int
  segmentEnd : Option Int
  segmentRows : Nat
  previousTimestamp : Option Int
  totalRows : Nat
  gapCount : Nat
  segments : List (Segment F)

namespace CsvLoop

def initial : CsvLoop F where
  writer := none
  segmentId := 0
  segmentPath := none
  segmentStart := none
  segmentEnd := none
  segmentRows := 0
  previousTimestamp := none
  totalRows := 0
  gapCount := 0
  segments := []

end CsvLoop

/-- The path of a segment file below the output directory. -/
def segmentPath (segmentId : Nat) : String :=
  "segments/segment-" ++ Datetime.padded 4 segmentId ++ ".parquet"

/-- `np.diff`. -/
def diff (timestamps : List Int) : List Int := timestamps.zipWith (fun a b => b - a) timestamps.tail

section Ingestion

variable (contract : Phase1Contract) (sha256File : SegmentFile F → String)

/-- `close_segment`. -/
def closeSegment (loop : CsvLoop F) : Except CsvError (CsvLoop F) :=
  match loop.writer with
  | none => .ok loop
  | some file =>
      match loop.segmentPath, loop.segmentStart, loop.segmentEnd with
      | some path, some start, some stop => .ok { loop with
          writer := none
          segments := loop.segments ++ [{
            manifest := {
              segmentId := loop.segmentId
              path
              start
              stop
              rows := loop.segmentRows
              sha256 := sha256File file }
            file }]
          segmentId := loop.segmentId + 1
          segmentPath := none
          segmentStart := none
          segmentEnd := none
          segmentRows := 0 }
      | _, _, _ => .error .assertion

/-- `timestamps[index]`. -/
def timestampAt (timestamps : List Int) (index : Nat) : Except CsvError Int :=
  match timestamps[index]? with
  | some timestamp => .ok timestamp
  | none => .error .indexError

/-- The open segment, opened if there is none. -/
def openSegment (timestamps : List Int) (startIndex : Nat) (loop : CsvLoop F) :
    Except CsvError (SegmentFile F × CsvLoop F) :=
  match loop.writer with
  | some file => .ok (file, loop)
  | none => do
      let first ← timestampAt timestamps startIndex
      return ([], { loop with
        segmentPath := some (segmentPath loop.segmentId)
        segmentStart := some (Datetime.seconds first) })

/-- One turn of the loop over the boundaries of a batch. -/
def writeSlice (batch : List (CsvRow F)) (timestamps : List Int) (startIndex endIndex : Nat)
    (loop : CsvLoop F) : Except CsvError (CsvLoop F) := do
  let (file, loop) ← openSegment timestamps startIndex loop
  let sliceLength := endIndex - startIndex
  let last ← timestampAt timestamps (endIndex - 1)
  let loop := { loop with
    writer := some (file ++ [(batch.drop startIndex).take sliceLength])
    segmentRows := loop.segmentRows + sliceLength
    totalRows := loop.totalRows + sliceLength
    segmentEnd := some (Datetime.seconds last) }
  if endIndex ≠ timestamps.length then
    closeSegment sha256File { loop with gapCount := loop.gapCount + 1 }
  else return loop

/-- The loop over the boundaries of a batch. -/
def writeSlices (batch : List (CsvRow F)) (timestamps : List Int) :
    Nat → List Nat → CsvLoop F → Except CsvError (CsvLoop F)
  | _, [], loop => .ok loop
  | startIndex, endIndex :: boundaries, loop => do
      let loop ← writeSlice sha256File batch timestamps startIndex endIndex loop
      writeSlices batch timestamps endIndex boundaries loop

/-- The check of the first timestamp of a batch against the last before it. -/
def crossBatch (timestamps : List Int) (loop : CsvLoop F) : Except CsvError (CsvLoop F) :=
  match loop.previousTimestamp with
  | none => .ok loop
  | some previousTimestamp => do
      let first ← timestampAt timestamps 0
      let crossBatchDelta := first - previousTimestamp
      if crossBatchDelta ≤ 0 then
        .error (.dataContract "timestamps must be strictly increasing")
      else if contract.gapMaxDeltaSeconds < crossBatchDelta then
        closeSegment sha256File { loop with gapCount := loop.gapCount + 1 }
      else return loop

/-- One turn of the loop over the batches, after the batch is validated. -/
def ingestBatch (batch : List (CsvRow F)) (timestamps : List Int) (loop : CsvLoop F) :
    Except CsvError (CsvLoop F) := do
  if timestamps.length = 0 then return loop
  let deltas := diff timestamps
  demand (!deltas.any fun delta => delta ≤ 0) "timestamps must be strictly increasing"
  let loop ← crossBatch contract sha256File timestamps loop
  let boundaries := (Lib.flatnonzero (deltas.map fun delta => contract.gapMaxDeltaSeconds < delta)).map
    (· + 1) ++ [timestamps.length]
  let loop ← writeSlices sha256File batch timestamps 0 boundaries loop
  let last ← timestampAt timestamps (timestamps.length - 1)
  return { loop with previousTimestamp := some last }

/-- One turn of the loop over the batches. -/
def processBatch [PyFloat F] (loop : CsvLoop F) (batch : List (CsvRow F)) :
    Except CsvError (CsvLoop F) := do
  let timestamps ← validateBatch batch
  ingestBatch contract sha256File batch timestamps loop

/-- `_process_csv_batches`: the segments, the number of rows and the number of gaps. -/
def processCsvBatches [PyFloat F] (reader : List (List (CsvRow F))) :
    Except CsvError (List (Segment F) × Nat × Nat) := do
  let loop ← reader.foldlM (processBatch contract sha256File) .initial
  let loop ← closeSegment sha256File loop
  return (loop.segments, loop.totalRows, loop.gapCount)

end Ingestion

end IndustrialReliability
