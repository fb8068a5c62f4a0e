import IndustrialReliability.Lib.Results
import IndustrialReliability.Replay.Controller
import Mathlib.Data.List.Chain
import Mathlib.Order.Basic

/-!
The replay source: telemetry events from the rows of a table.

`iterEvents` selects the rows of the requested range, or those after the timestamp
of a checkpoint, and numbers them. Resuming behind any row of a range yields
exactly the rows after it (`iterEvents_resume`).
-/

namespace IndustrialReliability

variable {F : Type}

/-- A row of the prepared table. -/
structure SourceRow (F : Type) where
  timestamp : Int
  analog : AnalogColumn → F
  digital : DigitalColumn → Int

/-- The verified table and its identity. -/
structure ReplaySource (F : Type) where
  sourceDatasetSha256 : Sha256
  contractSha256 : Sha256
  rows : List (SourceRow F)

/-- What is left of a range: the rows not yet yielded and the next sequence number. -/
structure EventIterator (F : Type) where
  rows : List (SourceRow F)
  sequence : Int

inductive ReplayError where
  | contract (error : ReplayContractError)
  | validation (error : ValidationError)
deriving DecidableEq, Repr

/-- The check that timestamps strictly increase, from the index `i`. -/
def checkIncreasing : Nat → List Int → Except ReplayContractError Unit
  | i, a :: b :: rest =>
      if b ≤ a then
        .error ⟨"Non-increasing timestamp detected at index " ++ toString i ++ ": " ++
          Datetime.str a ++ " >= " ++ Datetime.str b⟩
      else checkIncreasing (i + 1) (b :: rest)
  | _, _ => .ok ()

namespace ReplaySource

/-- The rows of the command's range, or those of it after a timestamp. -/
def selected (source : ReplaySource F) (rangeStart rangeEnd : Int)
    (resumeFromTimestamp : Option Int) : List (SourceRow F) :=
  source.rows.filter fun row =>
    (match resumeFromTimestamp with
      | some lowerBound => decide (lowerBound < row.timestamp)
      | none => decide (rangeStart ≤ row.timestamp)) &&
    decide (row.timestamp < rangeEnd)

/-- `iter_events`, up to its first event. -/
def iterEvents (source : ReplaySource F) (command : ReplayCommandV1) (startSequence : Int)
    (resumeFromTimestamp : Option Int) : Except ReplayContractError (EventIterator F) :=
  match command.rangeStart, command.rangeEnd with
  | some rangeStart, some rangeEnd => do
      let rows := source.selected rangeStart rangeEnd resumeFromTimestamp
      checkIncreasing 0 (rows.map (·.timestamp))
      return ⟨rows, startSequence⟩
  | _, _ => .error ⟨"ReplayCommand must specify range_start and range_end"⟩

/-- The event of a row. -/
def event [Uuid5] (source : ReplaySource F) (command : ReplayCommandV1) (sequence : Int)
    (emittedAt : Instant) (row : SourceRow F) : TelemetryEventV1 F where
  messageId := runtimeId "telemetry" command.replaySessionId (toString sequence)
  replaySessionId := command.replaySessionId
  sourceDatasetSha256 := source.sourceDatasetSha256
  contractSha256 := source.contractSha256
  sourceTimestamp := row.timestamp
  emittedAt
  machineId := "metropt-compressor-01"
  sequence
  analog := row.analog
  digital := row.digital

/-- `next()` of the iterator: an event and the rest, or nothing when it is
exhausted. A row that does not pass the schema raises. -/
def next [PyFloat F] [Uuid5] (source : ReplaySource F) (command : ReplayCommandV1)
    (emittedAt : Instant) (it : EventIterator F) :
    Except ReplayError (Option (TelemetryEventV1 F × EventIterator F)) :=
  match it.rows with
  | [] => .ok none
  | row :: rest =>
      match construct (source.event command it.sequence emittedAt row) with
      | .ok event => .ok (some (event, ⟨rest, it.sequence + 1⟩))
      | .error error => .error (.validation error)

end ReplaySource

/-! ### Resuming -/

theorem checkIncreasing_eq_ok_iff {i : Nat} {timestamps : List Int} :
    checkIncreasing i timestamps = .ok () ↔ timestamps.Pairwise (· < ·) := by
  rw [← List.isChain_iff_pairwise]
  induction timestamps generalizing i with
  | nil => simp [checkIncreasing]
  | cons a rest ih =>
      cases rest with
      | nil => simp [checkIncreasing]
      | cons b rest =>
          unfold checkIncreasing
          rw [List.isChain_cons_cons]
          by_cases decreasing : b ≤ a
          · simp [decreasing]
          · rw [if_neg decreasing, ih]
            simp [not_le.mp decreasing]

namespace ReplaySource

variable {source : ReplaySource F} {command : ReplayCommandV1} {rows : List (SourceRow F)}
  {sequence startSequence rangeStart rangeEnd : Int} {resumeFrom : Option Int}

/-- The iterator of a range is its selected rows, when their timestamps strictly
increase. -/
theorem iterEvents_eq_ok_iff {it : EventIterator F} :
    source.iterEvents command startSequence resumeFrom = .ok it ↔
      ∃ rangeStart ∈ command.rangeStart, ∃ rangeEnd ∈ command.rangeEnd,
        ((source.selected rangeStart rangeEnd resumeFrom).Pairwise
          fun a b => a.timestamp < b.timestamp) ∧
        it = ⟨source.selected rangeStart rangeEnd resumeFrom, startSequence⟩ := by
  unfold iterEvents
  cases start : command.rangeStart with
  | none => simp
  | some rangeStart =>
      cases stop : command.rangeEnd with
      | none => simp
      | some rangeEnd =>
          simp only [Lib.bind_eq_ok_iff, Option.mem_def, Option.some.injEq, exists_eq_left']
          constructor
          · rintro ⟨⟨⟩, increasing, same⟩
            obtain rfl := Lib.pure_eq_ok_iff.mp same
            rw [checkIncreasing_eq_ok_iff, List.pairwise_map] at increasing
            exact ⟨increasing, rfl⟩
          · rintro ⟨increasing, rfl⟩
            refine ⟨(), ?_, rfl⟩
            rw [checkIncreasing_eq_ok_iff, List.pairwise_map]
            exact increasing

/-- Among rows in order, those later than one of them are those behind it. -/
theorem filter_later {before after : List (SourceRow F)} {row : SourceRow F}
    (increasing : (before ++ row :: after).Pairwise fun a b => a.timestamp < b.timestamp) :
    (before ++ row :: after).filter (fun r => decide (row.timestamp < r.timestamp)) = after := by
  obtain ⟨-, fromRow, earlier⟩ := List.pairwise_append.mp increasing
  obtain ⟨later, -⟩ := List.pairwise_cons.mp fromRow
  have none : before.filter (fun r => decide (row.timestamp < r.timestamp)) = [] := by
    rw [List.filter_eq_nil_iff]
    intro r mem
    have less := earlier r mem row List.mem_cons_self
    simpa using less.le
  have all : after.filter (fun r => decide (row.timestamp < r.timestamp)) = after := by
    rw [List.filter_eq_self]
    intro r mem
    exact decide_eq_true (later r mem)
  rw [List.filter_append, none, List.filter_cons, if_neg (by simp), all, List.nil_append]

/-- Resuming after the timestamp of a row of the range yields the rows behind it. -/
theorem selected_resume {before after : List (SourceRow F)} {row : SourceRow F}
    (increasing : (source.selected rangeStart rangeEnd none).Pairwise
      fun a b => a.timestamp < b.timestamp)
    (split : source.selected rangeStart rangeEnd none = before ++ row :: after) :
    source.selected rangeStart rangeEnd (some row.timestamp) = after := by
  have inRange : rangeStart ≤ row.timestamp := by
    have mem : row ∈ source.selected rangeStart rangeEnd none := by
      rw [split]
      simp
    have selected := (List.mem_filter.mp mem).2
    simp only [Bool.and_eq_true, decide_eq_true_eq] at selected
    exact selected.1
  have again : source.selected rangeStart rangeEnd (some row.timestamp) =
      (source.selected rangeStart rangeEnd none).filter
        fun r => decide (row.timestamp < r.timestamp) := by
    unfold selected
    rw [List.filter_filter]
    apply List.filter_congr
    intro r _
    by_cases later : row.timestamp < r.timestamp
    · simp [later, inRange.trans later.le]
    · simp [later]
  rw [again, split]
  rw [split] at increasing
  exact filter_later increasing

/-- A range that was iterated is resumed behind any of its rows. -/
theorem iterEvents_resume {before after : List (SourceRow F)} {row : SourceRow F}
    (initially : source.iterEvents command startSequence none = .ok ⟨before ++ row :: after, sequence⟩)
    (resumed : Int) :
    source.iterEvents command resumed (some row.timestamp) = .ok ⟨after, resumed⟩ := by
  obtain ⟨rangeStart, starts, rangeEnd, stops, increasing, same⟩ := iterEvents_eq_ok_iff.mp initially
  have split : source.selected rangeStart rangeEnd none = before ++ row :: after :=
    (congrArg EventIterator.rows same).symm
  have rest := selected_resume increasing split
  rw [iterEvents_eq_ok_iff]
  refine ⟨rangeStart, starts, rangeEnd, stops, ?_, by rw [rest]⟩
  rw [rest]
  rw [split] at increasing
  exact (List.pairwise_cons.mp (List.pairwise_append.mp increasing).2.1).2

end ReplaySource

end IndustrialReliability
