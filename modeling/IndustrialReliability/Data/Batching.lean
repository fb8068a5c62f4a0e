import IndustrialReliability.Data.Csv
import Mathlib.Data.List.Nodup

/-!
Batches of a source file do not show in its segments.

The rows of a file that meet the contract, each by itself (`CsvRow.Valid`), and
ascend in time are cut into their maximal runs without a gap, wherever the
batches end (`csv_batches_invisible`). The loop holds the runs of the rows seen so
far: those before the last are closed, the last is in the open file (`Ingested`).
-/

namespace IndustrialReliability

variable {F : Type}

/-- The timestamp of a row that has one. -/
def CsvRow.time (row : CsvRow F) : Int := row.timestamp.getD 0

/-- A row that meets the contract. -/
structure CsvRow.Valid [PyFloat F] (row : CsvRow F) : Prop where
  complete : row.hasNull = false
  finite : ∀ column, ∀ value ∈ row.float column, PyFloat.isFinite value = true
  binary : ∀ column, ∀ value ∈ row.binary column, value = 0 ∨ value = 1
  sentinel : ∀ longitude ∈ row.float .gpsLong, ∀ latitude ∈ row.float .gpsLat,
    ∀ quality ∈ row.gpsQuality, PyFloat.isZero longitude = PyFloat.isZero latitude ∧
      PyFloat.isZero longitude = decide (quality = 0)

/-! ### The checks of a batch are those of its rows -/

theorem demand_eq_ok_iff {holds : Bool} {message : String} :
    demand holds message = .ok () ↔ holds = true := by
  cases holds <;> simp [demand]

theorem CsvRow.hasNull_eq_false_iff {row : CsvRow F} :
    row.hasNull = false ↔ row.timestamp.isSome ∧ (∀ column, (row.float column).isSome) ∧
      (∀ column, (row.binary column).isSome) ∧ row.gpsQuality.isSome := by
  have someOf : ∀ {α : Type} (cell : Option α), cell.isNone = false ↔ cell.isSome := by
    intro α cell
    cases cell <;> simp
  simp only [hasNull, Bool.or_eq_false_iff, List.any_eq_false, Bool.not_eq_true, someOf,
    FloatColumn.mem_all, BinaryColumn.mem_all, true_implies, and_assoc]

/-- The values of a column without nulls, row by row. -/
theorem columnValues_cons {α : Type} (column : CsvRow F → Option α) {row : CsvRow F} {value : α}
    (cell : column row = some value) (batch : List (CsvRow F)) :
    columnValues column (row :: batch) = value :: columnValues column batch :=
  List.filterMap_cons_some cell

theorem mem_columnValues {α : Type} {column : CsvRow F → Option α} {batch : List (CsvRow F)}
    {value : α} : value ∈ columnValues column batch ↔ ∃ row ∈ batch, column row = some value :=
  List.mem_filterMap

section Checks

variable [PyFloat F] {batch : List (CsvRow F)}

/-- The sentinels of complete rows agree when those of each row do. -/
theorem sentinels_agree_iff (complete : ∀ row ∈ batch, row.hasNull = false) :
    ((columnValues (fun row => row.float .gpsLong) batch).map PyFloat.isZero =
        (columnValues (fun row => row.float .gpsLat) batch).map PyFloat.isZero ∧
      (columnValues (fun row => row.float .gpsLong) batch).map PyFloat.isZero =
        (columnValues CsvRow.gpsQuality batch).map fun value => decide (value = 0)) ↔
    ∀ row ∈ batch, ∀ longitude ∈ row.float .gpsLong, ∀ latitude ∈ row.float .gpsLat,
      ∀ quality ∈ row.gpsQuality, PyFloat.isZero longitude = PyFloat.isZero latitude ∧
        PyFloat.isZero longitude = decide (quality = 0) := by
  induction batch with
  | nil => simp [columnValues]
  | cons row batch ih =>
      obtain ⟨here, there⟩ := List.forall_mem_cons.mp complete
      obtain ⟨-, floats, -, last⟩ := CsvRow.hasNull_eq_false_iff.mp here
      obtain ⟨longitude, long⟩ := Option.isSome_iff_exists.mp (floats .gpsLong)
      obtain ⟨latitude, lat⟩ := Option.isSome_iff_exists.mp (floats .gpsLat)
      obtain ⟨quality, qual⟩ := Option.isSome_iff_exists.mp last
      rw [columnValues_cons (fun row => row.float .gpsLong) long,
        columnValues_cons (fun row => row.float .gpsLat) lat, columnValues_cons CsvRow.gpsQuality qual,
        List.forall_mem_cons, ← ih there, long, lat, qual]
      simp only [List.map_cons, List.cons.injEq, Option.mem_def, Option.some.injEq, forall_eq']
      tauto

omit [PyFloat F] in
/-- The timestamps of complete rows. -/
theorem columnValues_timestamp (complete : ∀ row ∈ batch, row.hasNull = false) :
    columnValues CsvRow.timestamp batch = batch.map CsvRow.time := by
  refine List.filterMap_eq_map_iff_forall_eq_some.mpr fun row mem => ?_
  obtain ⟨stamped, -⟩ := CsvRow.hasNull_eq_false_iff.mp (complete row mem)
  obtain ⟨timestamp, its⟩ := Option.isSome_iff_exists.mp stamped
  rw [CsvRow.time, its, Option.getD_some]

/-- A batch is accepted exactly when each of its rows meets the contract. -/
theorem validateBatch_eq_ok_iff {timestamps : List Int} :
    validateBatch batch = .ok timestamps ↔
      (∀ row ∈ batch, row.Valid) ∧ timestamps = batch.map CsvRow.time := by
  have nulls : (!batch.any CsvRow.hasNull) = true ↔ ∀ row ∈ batch, row.hasNull = false := by simp
  unfold validateBatch
  simp only [Lib.unit_bind_eq_ok_iff, Lib.forM_eq_ok_iff, demand_eq_ok_iff, Lib.pure_eq_ok_iff,
    nulls, List.all_eq_true, mem_columnValues, decide_eq_true_eq]
  constructor
  · rintro ⟨complete, finite, binary, agree, rfl⟩
    have sentinel := (sentinels_agree_iff complete).mp agree
    refine ⟨fun row mem => ⟨complete row mem, ?_, ?_, sentinel row mem⟩,
      columnValues_timestamp complete⟩
    · exact fun column value cell => finite column (FloatColumn.mem_all column) value ⟨row, mem, cell⟩
    · exact fun column value cell => binary column (BinaryColumn.mem_all column) value ⟨row, mem, cell⟩
  · rintro ⟨valid, rfl⟩
    have complete : ∀ row ∈ batch, row.hasNull = false := fun row mem => (valid row mem).complete
    refine ⟨complete, ?_, ?_, ?_, columnValues_timestamp complete⟩
    · rintro column - value ⟨row, mem, cell⟩
      exact (valid row mem).finite column value cell
    · rintro column - value ⟨row, mem, cell⟩
      exact (valid row mem).binary column value cell
    · exact (sentinels_agree_iff complete).mpr fun row mem => (valid row mem).sentinel

end Checks

/-! ### Breaks between rows -/

/-- Whether two neighbours are in one segment. -/
def nearRows (contract : Phase1Contract) (before after : CsvRow F) : Bool :=
  after.time - before.time ≤ contract.gapMaxDeltaSeconds

/-- Rows whose timestamps ascend. -/
def RowsAscend (rows : List (CsvRow F)) : Prop := rows.IsChain fun before after => before.time < after.time

theorem diff_times (batch : List (CsvRow F)) : diff (batch.map CsvRow.time) =
    batch.zipWith (fun before after => after.time - before.time) batch.tail := by
  unfold diff
  rw [← List.map_tail, List.zipWith_map]

/-- The boundaries of a batch are the breaks between its rows. -/
theorem boundaries_eq_breaks (contract : Phase1Contract) (batch : List (CsvRow F)) :
    (Lib.flatnonzero ((diff (batch.map CsvRow.time)).map
        fun delta => contract.gapMaxDeltaSeconds < delta)).map (· + 1) ++
      [(batch.map CsvRow.time).length] = Lib.breaks (nearRows contract) batch := by
  have gaps : (diff (batch.map CsvRow.time)).map
      (fun delta => decide (contract.gapMaxDeltaSeconds < delta)) =
      (Lib.neighbours (nearRows contract) batch).map not := by
    rw [diff_times, Lib.neighbours, List.map_zipWith, List.map_zipWith]
    simp only [nearRows, ← decide_not, not_le]
  rw [gaps, List.length_map, Lib.breaks]

/-- A batch passes the check of its differences when its timestamps ascend. -/
theorem no_delta_iff {batch : List (CsvRow F)} :
    (!(diff (batch.map CsvRow.time)).any fun delta => delta ≤ 0) = true ↔ RowsAscend batch := by
  induction batch with
  | nil => simp [diff, RowsAscend]
  | cons row batch ih =>
      cases batch with
      | nil => simp [diff, RowsAscend]
      | cons next batch =>
          rw [diff_times] at ih ⊢
          unfold RowsAscend at ih ⊢
          rw [List.isChain_cons_cons, ← ih]
          simp

/-! ### The runs that the loop holds -/

section Ingestion

variable {sha256File : SegmentFile F → String} {loop : CsvLoop F} {runs : List (List (CsvRow F))}
  {run batch : List (CsvRow F)}

/-- The entry of the manifest is of the rows. -/
structure Segment.Of (sha256File : SegmentFile F → String) (segment : Segment F)
    (rows : List (CsvRow F)) : Prop where
  written : segment.file.flatten = rows
  starts : ∃ first, rows.head? = some first ∧ segment.manifest.start = Datetime.seconds first.time
  stops : ∃ last, rows.getLast? = some last ∧ segment.manifest.stop = Datetime.seconds last.time
  counted : segment.manifest.rows = rows.length
  named : segment.manifest.path = segmentPath segment.manifest.segmentId
  hashed : segment.manifest.sha256 = sha256File segment.file

/-- The open file holds the run; without rows there is none. -/
inductive CsvLoop.Opened (loop : CsvLoop F) (run : List (CsvRow F)) : Prop where
  | shut (vacant : run = []) (shut : loop.writer = none) (empty : loop.segmentRows = 0)
  | filling {file : SegmentFile F} {first last : CsvRow F} (writing : loop.writer = some file)
      (written : file.flatten = run)
      (path : loop.segmentPath = some (IndustrialReliability.segmentPath loop.segmentId))
      (head : run.head? = some first)
      (start : loop.segmentStart = some (Datetime.seconds first.time))
      (tail : run.getLast? = some last)
      (stop : loop.segmentEnd = some (Datetime.seconds last.time))
      (count : loop.segmentRows = run.length)

/-- The loop has closed a segment for each of the runs, and another is open. -/
structure CsvLoop.Holds (sha256File : SegmentFile F → String) (loop : CsvLoop F)
    (runs : List (List (CsvRow F))) (run : List (CsvRow F)) : Prop where
  closed : List.Forall₂ (Segment.Of sha256File) loop.segments runs
  numbered : loop.segments.map (fun segment => segment.manifest.segmentId) = List.range loop.segmentId
  opened : loop.Opened run
  total : loop.totalRows = runs.flatten.length + run.length

/-- The count of gaps does not show in the segments. -/
theorem CsvLoop.Holds.withGaps (holds : loop.Holds sha256File runs run) (gaps : Nat) :
    CsvLoop.Holds sha256File { loop with gapCount := gaps } runs run := by
  obtain ⟨closed, numbered, opened, total⟩ := holds
  refine ⟨closed, numbered, ?_, total⟩
  cases opened with
  | shut vacant shut empty => exact .shut vacant shut empty
  | filling writing written path head start tail stop count =>
      exact .filling writing written path head start tail stop count

/-- The last timestamp does not show in the open segment. -/
theorem CsvLoop.Opened.withPrevious (opened : loop.Opened run) (timestamp : Int) :
    CsvLoop.Opened { loop with previousTimestamp := some timestamp } run := by
  cases opened with
  | shut vacant shut empty => exact .shut vacant shut empty
  | filling writing written path head start tail stop count =>
      exact .filling writing written path head start tail stop count

/-- Closing the open segment makes its run the last closed one. -/
theorem closeSegment_ok (holds : loop.Holds sha256File runs run) (nonempty : run ≠ []) :
    ∃ shut, closeSegment sha256File loop = .ok shut ∧ shut.Holds sha256File (runs ++ [run]) [] ∧
      shut.gapCount = loop.gapCount := by
  obtain ⟨closed, numbered, opened, total⟩ := holds
  cases opened with
  | shut vacant => exact absurd vacant nonempty
  | @filling file first last writing written path head start tail stop count =>
      unfold closeSegment
      rw [writing, path, start, stop]
      refine ⟨_, rfl, ⟨?_, ?_, .shut rfl rfl rfl, ?_⟩, rfl⟩
      · refine List.rel_append closed (.cons ?_ .nil)
        exact ⟨written, ⟨first, head, rfl⟩, ⟨last, tail, rfl⟩, count, rfl, rfl⟩
      · rw [List.map_append, numbered, List.range_succ]
        rfl
      · simp [total]

/-- The timestamp of a row is where it is looked for. -/
theorem timestampAt_map {index : Nat} {row : CsvRow F} (its : batch[index]? = some row) :
    timestampAt (batch.map CsvRow.time) index = .ok row.time := by
  unfold timestampAt
  rw [List.getElem?_map, its]
  rfl

/-- The ends of a slice. -/
theorem slice_ends {startIndex endIndex : Nat} (below : startIndex < endIndex)
    (within : endIndex ≤ batch.length) :
    ∃ first last, batch[startIndex]? = some first ∧ batch[endIndex - 1]? = some last ∧
      ((batch.drop startIndex).take (endIndex - startIndex)).head? = some first ∧
      ((batch.drop startIndex).take (endIndex - startIndex)).getLast? = some last ∧
      ((batch.drop startIndex).take (endIndex - startIndex)).length = endIndex - startIndex := by
  have length : ((batch.drop startIndex).take (endIndex - startIndex)).length =
      endIndex - startIndex := by
    rw [List.length_take, List.length_drop]
    omega
  refine ⟨batch[startIndex], batch[endIndex - 1], List.getElem?_eq_getElem _,
    List.getElem?_eq_getElem _, ?_, ?_, length⟩
  · rw [List.head?_take, if_neg (by omega), List.head?_drop, List.getElem?_eq_getElem]
  · rw [List.getLast?_eq_getElem?, length, List.getElem?_take_of_lt (by omega), List.getElem?_drop,
      show startIndex + (endIndex - startIndex - 1) = endIndex - 1 by omega,
      List.getElem?_eq_getElem]

/-- A slice that is not empty joins the open run. -/
theorem writeSlice_ok (holds : loop.Holds sha256File runs run) {startIndex endIndex : Nat}
    (below : startIndex < endIndex) (within : endIndex ≤ batch.length) :
    ∃ written, writeSlice sha256File batch (batch.map CsvRow.time) startIndex endIndex loop =
        (if endIndex ≠ batch.length then
          closeSegment sha256File { written with gapCount := written.gapCount + 1 }
        else .ok written) ∧
      written.Holds sha256File runs (run ++ (batch.drop startIndex).take (endIndex - startIndex)) ∧
      written.gapCount = loop.gapCount := by
  obtain ⟨first, last, firstAt, lastAt, head, tail, length⟩ := slice_ends below within
  obtain ⟨closed, numbered, opened, total⟩ := holds
  have full : (run ++ (batch.drop startIndex).take (endIndex - startIndex)).getLast? = some last := by
    rw [List.getLast?_append, tail, Option.some_or]
  unfold writeSlice openSegment
  cases opened with
  | shut vacant shut empty =>
      rw [shut, timestampAt_map firstAt, timestampAt_map lastAt, List.length_map]
      refine ⟨_, rfl, ⟨closed, numbered, .filling rfl ?_ rfl ?_ rfl full rfl ?_, ?_⟩, rfl⟩
      · simp [vacant]
      · rw [vacant, List.nil_append, head]
      · simp only [List.length_append, length, vacant, empty, List.length_nil]
      · simp only [List.length_append, length, total]
        omega
  | filling writing written path opening start closing stop count =>
      rw [writing, timestampAt_map lastAt, List.length_map]
      refine ⟨_, rfl, ⟨closed, numbered, .filling rfl ?_ path ?_ start full rfl ?_, ?_⟩, rfl⟩
      · simp [written]
      · rw [List.head?_append, opening, Option.some_or]
      · simp only [List.length_append, length, count]
      · simp only [List.length_append, length, total]
        omega

/-- The slices of a batch join the open run, or are runs of their own. -/
theorem writeSlices_ok (holds : loop.Holds sha256File runs run) (gaps : loop.gapCount = runs.length)
    {startIndex : Nat} {boundaries : List Nat} (ascend : (startIndex :: boundaries).Pairwise (· < ·))
    (last : boundaries.getLast? = some batch.length) {next : List (CsvRow F)}
    {rest : List (List (CsvRow F))} (cut : Lib.slices batch startIndex boundaries = next :: rest) :
    ∃ done closed opened, writeSlices sha256File batch (batch.map CsvRow.time) startIndex boundaries
        loop = .ok done ∧ done.Holds sha256File closed opened ∧ opened ≠ [] ∧
      done.gapCount = closed.length ∧ closed ++ [opened] = runs ++ (run ++ next) :: rest := by
  induction boundaries generalizing loop runs run startIndex next rest with
  | nil => cases last
  | cons endIndex boundaries ih =>
      obtain ⟨first, later⟩ := List.pairwise_cons.mp ascend
      have below : startIndex < endIndex := first endIndex List.mem_cons_self
      obtain ⟨rfl, rfl⟩ : (batch.drop startIndex).take (endIndex - startIndex) = next ∧
          Lib.slices batch endIndex boundaries = rest := by
        simpa [Lib.slices] using cut
      have inside : ∀ stop ∈ endIndex :: boundaries, stop ≤ batch.length :=
        fun stop mem => Lib.le_of_ascend later last mem
      have within := inside endIndex List.mem_cons_self
      obtain ⟨written, wrote, holding, same⟩ := writeSlice_ok holds below within
      have nonempty : run ++ (batch.drop startIndex).take (endIndex - startIndex) ≠ [] := by
        obtain ⟨head, -, -, -, its, -⟩ := slice_ends below within
        intro empty
        rw [(List.append_eq_nil_iff.mp empty).2] at its
        cases its
      unfold writeSlices
      rw [wrote]
      cases boundaries with
      | nil =>
          obtain rfl : endIndex = batch.length := by simpa using last
          rw [if_neg (not_not.mpr rfl)]
          exact ⟨written, runs, _, rfl, holding, nonempty, same.trans gaps, rfl⟩
      | cons stop boundaries =>
          have before : endIndex < stop := (List.pairwise_cons.mp later).1 stop List.mem_cons_self
          have notLast : endIndex ≠ batch.length := by
            have := inside stop (by simp)
            omega
          obtain ⟨shut, closing, held, kept⟩ :=
            closeSegment_ok (holding.withGaps (written.gapCount + 1)) nonempty
          rw [if_pos notLast, closing]
          obtain ⟨done, closed, opened, finished, its, filled, counted, whole⟩ :=
            ih held (by simp [kept, same, gaps]) later (by simpa using last) rfl
          refine ⟨done, closed, opened, finished, its, filled, counted, ?_⟩
          rw [whole]
          simp [Lib.slices]

/-! ### One batch -/

variable {contract : Phase1Contract}

/-- The loop has seen the rows: their runs are closed, the last one is open. -/
structure CsvLoop.Ingested (contract : Phase1Contract) (sha256File : SegmentFile F → String)
    (loop : CsvLoop F) (seen : List (CsvRow F)) : Prop where
  previous : loop.previousTimestamp = seen.getLast?.map CsvRow.time
  runs : (seen = [] ∧ loop.Holds sha256File [] [] ∧ loop.gapCount = 0) ∨
    ∃ closed opened, loop.Holds sha256File closed opened ∧ opened ≠ [] ∧
      loop.gapCount = closed.length ∧ seen.splitBy (nearRows contract) = closed ++ [opened]

/-- Two lists ascend together when each does and they meet so. -/
theorem rowsAscend_append {rows rows' : List (CsvRow F)} : RowsAscend (rows ++ rows') ↔
    RowsAscend rows ∧ RowsAscend rows' ∧
      ∀ last ∈ rows.getLast?, ∀ first ∈ rows'.head?, last.time < first.time :=
  List.isChain_append

/-- A batch that ascends from the rows seen goes on with the open run, or the run is
closed before it. -/
theorem crossBatch_ok {seen : List (CsvRow F)} (ingested : loop.Ingested contract sha256File seen)
    {first : CsvRow F} (head : batch.head? = some first)
    (meet : ∀ last ∈ seen.getLast?, last.time < first.time) {next : List (CsvRow F)}
    {rest : List (List (CsvRow F))} (cut : batch.splitBy (nearRows contract) = next :: rest) :
    ∃ crossed closed opened, crossBatch contract sha256File (batch.map CsvRow.time) loop =
        .ok crossed ∧ crossed.Holds sha256File closed opened ∧ crossed.gapCount = closed.length ∧
      (seen ++ batch).splitBy (nearRows contract) = closed ++ (opened ++ next) :: rest := by
  obtain ⟨previous, runs⟩ := ingested
  rcases runs with ⟨rfl, holds, gaps⟩ | ⟨closed, opened, holds, nonempty, gaps, split⟩
  · refine ⟨loop, [], [], ?_, holds, gaps, cut⟩
    unfold crossBatch
    rw [previous]
    rfl
  have filled : seen ≠ [] := by
    rintro rfl
    simp at split
  obtain ⟨last, tail⟩ := Option.ne_none_iff_exists'.mp (mt List.getLast?_eq_none_iff.mp filled)
  have firstAt : batch[0]? = some first := by rw [← List.head?_eq_getElem?, head]
  have later := meet last tail
  unfold crossBatch
  rw [previous, tail, Option.map_some]
  dsimp only
  rw [timestampAt_map firstAt]
  by_cases gap : contract.gapMaxDeltaSeconds < first.time - last.time
  · obtain ⟨shut, closing, held, kept⟩ :=
      closeSegment_ok (holds.withGaps (loop.gapCount + 1)) nonempty
    rw [previous, tail, Option.map_some] at closing
    refine ⟨shut, closed ++ [opened], [], ?_, held, by simp [kept, gaps], ?_⟩
    · exact (if_neg (by omega)).trans ((if_pos gap).trans closing)
    · rw [List.splitBy_append, split, cut]
      · simp
      · intro x its y that
        obtain rfl : last = x := by simpa [tail] using its
        obtain rfl : first = y := by simpa [head] using that
        exact decide_eq_false (not_le.mpr gap)
  · refine ⟨loop, closed, opened, ?_, holds, gaps, ?_⟩
    · exact (if_neg (by omega)).trans (if_neg gap)
    · refine Lib.splitBy_append_of_near split cut ?_
      intro x its y that
      obtain rfl : last = x := by simpa [tail] using its
      obtain rfl : first = y := by simpa [head] using that
      exact decide_eq_true (not_lt.mp gap)

/-- A batch that ascends from the rows seen adds its rows. -/
theorem ingestBatch_ok {seen : List (CsvRow F)} (ingested : loop.Ingested contract sha256File seen)
    (ascending : RowsAscend (seen ++ batch)) :
    ∃ next, ingestBatch contract sha256File batch (batch.map CsvRow.time) loop = .ok next ∧
      next.Ingested contract sha256File (seen ++ batch) := by
  obtain ⟨-, here, meet⟩ := rowsAscend_append.mp ascending
  unfold ingestBatch
  by_cases empty : batch = []
  · subst empty
    rw [List.append_nil]
    exact ⟨loop, rfl, ingested⟩
  have filled : (batch.map CsvRow.time).length ≠ 0 := by simpa using empty
  obtain ⟨first, head⟩ := Option.ne_none_iff_exists'.mp (mt List.head?_eq_none_iff.mp empty)
  obtain ⟨last, tail⟩ := Option.ne_none_iff_exists'.mp (mt List.getLast?_eq_none_iff.mp empty)
  have lastAt : batch[(batch.map CsvRow.time).length - 1]? = some last := by
    rw [List.length_map, ← List.getLast?_eq_getElem?, tail]
  obtain ⟨next, rest, cut⟩ := List.exists_cons_of_ne_nil
    (List.splitBy_ne_nil (r := nearRows contract) |>.mpr empty)
  obtain ⟨crossed, closed, opened, crossing, holds, gaps, split⟩ :=
    crossBatch_ok ingested head (fun last its => meet last its first head) cut
  obtain ⟨done, closed', opened', wrote, held, nonempty, gaps', whole⟩ :=
    writeSlices_ok holds gaps (Lib.breaks_ascend (nearRows contract) empty)
      (Lib.getLast?_breaks _ batch) ((Lib.slices_breaks empty).trans cut)
  refine ⟨{ done with previousTimestamp := some last.time }, ?_, ?_, .inr ⟨closed', opened', ?_⟩⟩
  · rw [if_neg filled]
    dsimp only
    rw [boundaries_eq_breaks, demand_eq_ok_iff.mpr (no_delta_iff.mpr here)]
    dsimp only [bind, Except.bind]
    rw [crossing]
    dsimp only
    rw [wrote]
    dsimp only
    rw [timestampAt_map lastAt]
    rfl
  · rw [List.getLast?_append, tail]
    rfl
  · have kept := held.opened.withPrevious last.time
    exact ⟨⟨held.closed, held.numbered, kept, held.total⟩, nonempty, gaps', split.trans whole.symm⟩

/-- A batch that does not ascend from the rows seen is refused. -/
theorem ingestBatch_error {seen : List (CsvRow F)}
    (ingested : loop.Ingested contract sha256File seen) (ascended : RowsAscend seen)
    (broken : ¬ RowsAscend (seen ++ batch)) :
    ingestBatch contract sha256File batch (batch.map CsvRow.time) loop =
      .error (.dataContract "timestamps must be strictly increasing") := by
  have nonempty : batch ≠ [] := by
    rintro rfl
    rw [List.append_nil] at broken
    exact broken ascended
  have filled : (batch.map CsvRow.time).length ≠ 0 := by simpa using nonempty
  unfold ingestBatch
  rw [if_neg filled]
  dsimp only
  by_cases here : RowsAscend batch
  · have unmet : ¬ ∀ last ∈ seen.getLast?, ∀ first ∈ batch.head?, last.time < first.time :=
      fun meet => broken (rowsAscend_append.mpr ⟨ascended, here, meet⟩)
    push Not at unmet
    obtain ⟨last, tail, first, head, before⟩ := unmet
    have firstAt : batch[0]? = some first := by rw [← List.head?_eq_getElem?, head]
    have crossing : crossBatch contract sha256File (batch.map CsvRow.time) loop =
        .error (.dataContract "timestamps must be strictly increasing") := by
      unfold crossBatch
      rw [ingested.previous, tail, Option.map_some]
      dsimp only
      rw [timestampAt_map firstAt]
      exact if_pos (by omega)
    rw [demand_eq_ok_iff.mpr (no_delta_iff.mpr here)]
    dsimp only [bind, Except.bind]
    rw [crossing]
  · have failing : (!(diff (batch.map CsvRow.time)).any fun delta => delta ≤ 0) = false :=
      Bool.eq_false_iff.mpr (mt no_delta_iff.mp here)
    rw [failing]
    rfl

/-! ### A file -/

theorem initial_ingested (contract : Phase1Contract) (sha256File : SegmentFile F → String) :
    CsvLoop.initial.Ingested contract sha256File [] :=
  ⟨rfl, .inl ⟨rfl, ⟨.nil, rfl, .shut rfl rfl rfl, rfl⟩, rfl⟩⟩

variable [PyFloat F]

/-- The batches of rows that meet the contract and ascend are ingested. -/
theorem processBatches_ok {batches : List (List (CsvRow F))} {seen : List (CsvRow F)}
    (ingested : loop.Ingested contract sha256File seen)
    (valid : ∀ row ∈ batches.flatten, row.Valid) (ascending : RowsAscend (seen ++ batches.flatten)) :
    ∃ done, batches.foldlM (processBatch contract sha256File) loop = .ok done ∧
      done.Ingested contract sha256File (seen ++ batches.flatten) := by
  induction batches generalizing loop seen with
  | nil =>
      rw [List.flatten_nil, List.append_nil]
      exact ⟨loop, rfl, ingested⟩
  | cons batch batches ih =>
      rw [List.flatten_cons] at valid ascending ⊢
      obtain ⟨here, there⟩ := List.forall_mem_append.mp valid
      rw [← List.append_assoc] at ascending ⊢
      obtain ⟨next, step, added⟩ := ingestBatch_ok ingested (rowsAscend_append.mp ascending).1
      obtain ⟨done, rest, all⟩ := ih added there ascending
      have checked := validateBatch_eq_ok_iff.mpr ⟨here, rfl⟩
      refine ⟨done, ?_, all⟩
      rw [List.foldlM_cons]
      exact Lib.bind_eq_ok_iff.mpr ⟨next, Lib.bind_eq_ok_iff.mpr ⟨_, checked, step⟩, rest⟩

/-- Rows that do not ascend are refused, in whichever batch the break comes. -/
theorem processBatches_error {batches : List (List (CsvRow F))} {seen : List (CsvRow F)}
    (ingested : loop.Ingested contract sha256File seen) (ascended : RowsAscend seen)
    (valid : ∀ row ∈ batches.flatten, row.Valid) (broken : ¬ RowsAscend (seen ++ batches.flatten)) :
    batches.foldlM (processBatch contract sha256File) loop =
      .error (.dataContract "timestamps must be strictly increasing") := by
  induction batches generalizing loop seen with
  | nil =>
      rw [List.flatten_nil, List.append_nil] at broken
      exact absurd ascended broken
  | cons batch batches ih =>
      rw [List.flatten_cons] at valid broken
      obtain ⟨here, there⟩ := List.forall_mem_append.mp valid
      rw [← List.append_assoc] at broken
      have checked := validateBatch_eq_ok_iff.mpr ⟨here, rfl⟩
      rw [List.foldlM_cons]
      by_cases further : RowsAscend (seen ++ batch)
      · obtain ⟨next, step, added⟩ := ingestBatch_ok ingested further
        have rest := ih added further there broken
        exact Lib.bind_eq_error_iff.mpr
          (.inr ⟨next, Lib.bind_eq_ok_iff.mpr ⟨_, checked, step⟩, rest⟩)
      · have step := ingestBatch_error ingested ascended further
        exact Lib.bind_eq_error_iff.mpr
          (.inl (Lib.bind_eq_error_iff.mpr (.inr ⟨_, checked, step⟩)))

/-- The segments are the maximal runs of rows without a gap. -/
structure MaximalRuns (contract : Phase1Contract) (rows : List (CsvRow F))
    (runs : List (List (CsvRow F))) : Prop where
  whole : runs.flatten = rows
  filled : [] ∉ runs
  near : ∀ run ∈ runs, run.IsChain fun before after =>
    after.time - before.time ≤ contract.gapMaxDeltaSeconds
  apart : runs.IsChain fun run next => ∃ last first, run.getLast? = some last ∧
    next.head? = some first ∧ contract.gapMaxDeltaSeconds < first.time - last.time

omit [PyFloat F] in
/-- The maximal runs of rows are unique. -/
theorem maximalRuns_iff {rows : List (CsvRow F)} :
    MaximalRuns contract rows runs ↔ rows.splitBy (nearRows contract) = runs := by
  have nearby : ∀ run : List (CsvRow F), (run.IsChain fun before after =>
      nearRows contract before after = true) ↔ run.IsChain fun before after =>
      after.time - before.time ≤ contract.gapMaxDeltaSeconds := by
    simp [nearRows]
  have distant : ∀ run next : List (CsvRow F), (∃ last first, run.getLast? = some last ∧
      next.head? = some first ∧ contract.gapMaxDeltaSeconds < first.time - last.time) ↔
      ∃ ha hb, nearRows contract (run.getLast ha) (next.head hb) = false := by
    intro run next
    constructor
    · rintro ⟨last, first, tail, head, gap⟩
      obtain ⟨before, rfl⟩ := List.getLast?_eq_some_iff.mp tail
      obtain ⟨after, rfl⟩ := List.head?_eq_some_iff.mp head
      refine ⟨by simp, by simp, ?_⟩
      simpa [nearRows] using by omega
    · rintro ⟨ha, hb, gap⟩
      exact ⟨_, _, List.getLast?_eq_some_getLast ha, List.head?_eq_some_head hb,
        not_le.mp (of_decide_eq_false gap)⟩
  rw [List.splitBy_eq_iff]
  simp only [nearby, ← distant]
  exact ⟨fun ⟨whole, filled, near, apart⟩ => ⟨whole.symm, filled, near, apart⟩,
    fun ⟨whole, filled, near, apart⟩ => ⟨whole.symm, filled, near, apart⟩⟩

/-- Rows that ascend are ingested, and their segments are their maximal runs. -/
theorem processCsvBatches_ok (contract : Phase1Contract) (sha256File : SegmentFile F → String)
    {batches : List (List (CsvRow F))}
    (valid : ∀ row ∈ batches.flatten, row.Valid) (ascending : RowsAscend batches.flatten) :
    ∃ segments, processCsvBatches contract sha256File batches =
        .ok (segments, batches.flatten.length, segments.length - 1) ∧
      List.Forall₂ (Segment.Of sha256File) segments
        (batches.flatten.splitBy (nearRows contract)) ∧
      segments.map (fun segment => segment.manifest.segmentId) = List.range segments.length := by
  obtain ⟨done, ran, -, runs⟩ := processBatches_ok (initial_ingested contract sha256File) valid ascending
  rw [List.nil_append] at runs
  have counted : ∀ shut : CsvLoop F, ∀ runs : List (List (CsvRow F)),
      shut.Holds sha256File runs [] → shut.segments.map (fun segment => segment.manifest.segmentId) =
        List.range shut.segments.length ∧ shut.totalRows = runs.flatten.length := by
    intro shut runs holds
    have length : shut.segments.length = shut.segmentId := by
      simpa using congrArg List.length holds.numbered
    rw [length]
    exact ⟨holds.numbered, holds.total⟩
  unfold processCsvBatches
  rw [ran]
  dsimp only [bind, Except.bind]
  rcases runs with ⟨empty, holds, gaps⟩ | ⟨closed, opened, holds, nonempty, gaps, split⟩
  · obtain ⟨numbered, total⟩ := counted done [] holds
    cases holds.opened with
    | filling writing written path head =>
        cases head
    | shut vacant shut =>
        have closing : closeSegment sha256File done = .ok done := by
          unfold closeSegment
          rw [shut]
        have none : done.segments = [] := List.forall₂_nil_right_iff.mp holds.closed
        rw [closing, empty]
        refine ⟨done.segments, ?_, ?_, numbered⟩
        · simp only [total, gaps, none]
          rfl
        · rw [none]
          exact .nil
  · obtain ⟨shut, closing, held, kept⟩ := closeSegment_ok holds nonempty
    obtain ⟨numbered, total⟩ := counted shut (closed ++ [opened]) held
    have whole : (closed ++ [opened]).flatten = batches.flatten := by
      rw [← split, List.flatten_splitBy]
    have length : shut.segments.length = closed.length + 1 := by
      simpa using held.closed.length_eq
    rw [closing, split]
    refine ⟨shut.segments, ?_, held.closed, numbered⟩
    simp only [total, whole, kept, gaps, length, Nat.add_sub_cancel]
    rfl

/-- Rows that do not ascend are refused. -/
theorem processCsvBatches_error (contract : Phase1Contract) (sha256File : SegmentFile F → String)
    {batches : List (List (CsvRow F))}
    (valid : ∀ row ∈ batches.flatten, row.Valid) (broken : ¬ RowsAscend batches.flatten) :
    processCsvBatches contract sha256File batches =
      .error (.dataContract "timestamps must be strictly increasing") := by
  unfold processCsvBatches
  rw [processBatches_error (initial_ingested contract sha256File) .nil valid broken]
  rfl

end Ingestion

/-! ### Batches are invisible -/

/-- What a segment is: its rows, its start and end, and their count. -/
structure SegmentView (F : Type) where
  rows : List (CsvRow F)
  start : Int
  stop : Int
  count : Nat

def Segment.view (segment : Segment F) : SegmentView F where
  rows := segment.file.flatten
  start := segment.manifest.start
  stop := segment.manifest.stop
  count := segment.manifest.rows

/-- The entries of one run look alike. -/
theorem Segment.view_eq {sha256File : SegmentFile F → String} {segment segment' : Segment F}
    {run : List (CsvRow F)} (its : segment.Of sha256File run) (that : segment'.Of sha256File run) :
    segment.view = segment'.view := by
  obtain ⟨first, head, start⟩ := its.starts
  obtain ⟨first', head', start'⟩ := that.starts
  obtain ⟨last, tail, stop⟩ := its.stops
  obtain ⟨last', tail', stop'⟩ := that.stops
  obtain rfl : first = first' := Option.some.inj (head.symm.trans head')
  obtain rfl : last = last' := Option.some.inj (tail.symm.trans tail')
  simp only [view, its.written, that.written, start, start', stop, stop', its.counted, that.counted]

/-- A number is read back from its padded digits. -/
theorem padded_injective {width n m : Nat}
    (same : Datetime.padded width n = Datetime.padded width m) : n = m := by
  have read : ∀ k : Nat, Nat.ofDigitChars 10 (Datetime.padded width k).toList 0 = k := by
    intro k
    have digits : (Datetime.padded width k).toList =
        List.replicate (width - (toString k).length) '0' ++ Nat.toDigits 10 k := by
      simp [Datetime.padded, Nat.repr]
    rw [digits, Nat.ofDigitChars_append, Nat.ofDigitChars_replicate_zero, Nat.mul_zero,
      Nat.ofDigitChars_toDigits (by decide) (by decide)]
  rw [← read n, ← read m, same]

/-- The number of a segment is readable from its path. -/
theorem segmentPath_injective {segmentId segmentId' : Nat}
    (same : segmentPath segmentId = segmentPath segmentId') : segmentId = segmentId' := by
  unfold segmentPath at same
  have prefixed := (String.append_left_inj _).mp same
  exact padded_injective ((String.append_right_inj _).mp prefixed)
section Entries

variable {sha256File : SegmentFile F → String} {segments segments' : List (Segment F)}
  {runs : List (List (CsvRow F))}

/-- The entries of runs are of the rows in their files, and these are the runs. -/
theorem rows_of_entries (entries : List.Forall₂ (Segment.Of sha256File) segments runs) :
    segments.map (fun segment => segment.file.flatten) = runs ∧
      ∀ segment ∈ segments, segment.Of sha256File segment.file.flatten := by
  induction entries with
  | nil => exact ⟨rfl, nofun⟩
  | cons here _ ih =>
      obtain ⟨whole, each⟩ := ih
      refine ⟨?_, List.forall_mem_cons.mpr ⟨?_, each⟩⟩
      · rw [List.map_cons, here.written, whole]
      · rw [here.written]
        exact here

/-- The entries of the same runs look alike. -/
theorem views_of_entries (entries : List.Forall₂ (Segment.Of sha256File) segments runs)
    (entries' : List.Forall₂ (Segment.Of sha256File) segments' runs) :
    segments'.map Segment.view = segments.map Segment.view := by
  have paired : List.Forall₂ (fun segment segment' : Segment F => segment.view = segment'.view)
      segments segments' := by
    refine Lib.forall₂_of_common ?_ entries.flip entries'.flip
    exact fun _ _ _ its that => Segment.view_eq its that
  exact Lib.map_eq_of_forall₂ (fun _ _ same => same.symm) paired

/-- The segment files of a file have names of their own. -/
theorem nodup_paths (entries : List.Forall₂ (Segment.Of sha256File) segments runs)
    (numbered : segments.map (fun segment => segment.manifest.segmentId) = List.range segments.length) :
    (segments.map fun segment => segment.manifest.path).Nodup := by
  have paths : segments.map (fun segment => segment.manifest.path) =
      (List.range segments.length).map segmentPath := by
    rw [← numbered, List.map_map]
    exact List.map_congr_left fun segment mem => ((rows_of_entries entries).2 segment mem).named
  rw [paths]
  exact List.Nodup.map (fun _ _ => segmentPath_injective) List.nodup_range

end Entries

/-- Wherever the batches end, the rows of a file that meet the contract are cut into
their maximal runs without a gap, with as many gaps as there are cuts between them;
the file is refused exactly when its timestamps do not ascend. -/
theorem csv_batches_invisible [PyFloat F] (contract : Phase1Contract)
    (sha256File : SegmentFile F → String) {rows : List (CsvRow F)} (valid : ∀ row ∈ rows, row.Valid)
    {batches : List (List (CsvRow F))} (cut : batches.flatten = rows) :
    (∀ segments totalRows gapCount,
      processCsvBatches contract sha256File batches = .ok (segments, totalRows, gapCount) →
        MaximalRuns contract rows (segments.map fun segment => segment.file.flatten) ∧
        (∀ segment ∈ segments, segment.Of sha256File segment.file.flatten) ∧
        (segments.map fun segment => segment.manifest.path).Nodup ∧
        totalRows = rows.length ∧ gapCount = segments.length - 1) ∧
    ((∃ error, processCsvBatches contract sha256File batches = .error error) ↔ ¬ RowsAscend rows) ∧
    ∀ batches' : List (List (CsvRow F)), batches'.flatten = rows →
      (processCsvBatches contract sha256File batches').map (Prod.map (List.map Segment.view) id) =
        (processCsvBatches contract sha256File batches).map (Prod.map (List.map Segment.view) id) := by
  subst cut
  by_cases ascending : RowsAscend batches.flatten
  · obtain ⟨segments, ran, entries, numbered⟩ :=
      processCsvBatches_ok contract sha256File valid ascending
    refine ⟨?_, ?_, ?_⟩
    · intro segments' totalRows gapCount same
      obtain ⟨rfl, rfl, rfl⟩ : segments = segments' ∧ batches.flatten.length = totalRows ∧
          segments.length - 1 = gapCount := by simpa [ran] using same
      obtain ⟨whole, each⟩ := rows_of_entries entries
      exact ⟨maximalRuns_iff.mpr whole.symm, each, nodup_paths entries numbered, rfl, rfl⟩
    · rw [ran]
      constructor
      · rintro ⟨_, other⟩
        cases other
      · exact fun broken => absurd ascending broken
    · intro batches' same
      rw [← same] at valid ascending
      obtain ⟨segments', ran', entries', -⟩ :=
        processCsvBatches_ok contract sha256File valid ascending
      rw [same] at entries'
      rw [ran, ran', same]
      have alike := views_of_entries entries entries'
      have length := congrArg List.length alike
      rw [List.length_map, List.length_map] at length
      simp [Except.map, alike, length]
  · have refused := processCsvBatches_error contract sha256File valid ascending
    refine ⟨?_, ?_, ?_⟩
    · rw [refused]
      nofun
    · rw [refused]
      exact ⟨fun _ => ascending, fun _ => ⟨_, rfl⟩⟩
    · intro batches' same
      rw [← same] at valid ascending
      rw [refused, processCsvBatches_error contract sha256File valid ascending]

/-- A source row whose values are all zero. -/
def CsvRow.zeros (timestamp : Int) : CsvRow Int where
  timestamp := some timestamp
  float _ := some 0
  binary _ := some 0
  gpsQuality := some 0

theorem CsvRow.zeros_valid (timestamp : Int) : (CsvRow.zeros timestamp).Valid where
  complete := rfl
  finite _ _ _ := rfl
  binary _ _ its := .inl (Option.some.inj its).symm
  sentinel longitude long latitude lat quality qual := by
    cases long
    cases lat
    cases qual
    decide

/-- A gap at the end of a batch, before an empty one, and within a batch. -/
theorem gap_between_batches_invisible :
    (processCsvBatches PHASE1 (fun _ => "") [[CsvRow.zeros 0], [.zeros 1, .zeros 5]]).map
        (Prod.map (List.map Segment.view) id) =
      (processCsvBatches PHASE1 (fun _ => "") [[CsvRow.zeros 0, .zeros 1], [], [.zeros 5]]).map
        (Prod.map (List.map Segment.view) id) := by
  have valid : ∀ row ∈ [0, 1, 5].map CsvRow.zeros, row.Valid := by simp [CsvRow.zeros_valid]
  exact (csv_batches_invisible PHASE1 (fun _ => "") valid rfl).2.2 _ rfl

end IndustrialReliability
