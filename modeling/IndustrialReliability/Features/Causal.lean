import IndustrialReliability.Lib.Results
import IndustrialReliability.Lib.Table
import IndustrialReliability.Runtime.Messages

/-!
Causal rolling window statistics.

`computeFeatureValues` turns the samples of a window into the values of named
features. It fails on no samples and on an unknown name, and on nothing else
(`computeFeatureValues_eq_ok_iff`). The means and deviations are numpy's;
`NumpyFinite` is what is known of them, and with it every statistic of a window
of schema-valid telemetry is a finite number (`statistics_finite`).
-/

namespace IndustrialReliability

variable {F : Type}

structure TelemetrySample (F : Type) where
  timestamp : Int
  analog : List F
  digital : List Int
deriving DecidableEq

/-- The end of the bin of a sample. -/
def TelemetrySample.binEnd (sample : TelemetrySample F) : Int := computeBinEnd sample.timestamp

/-- The end of a bin and its samples. -/
abbrev Bin (F : Type) := Int × List (TelemetrySample F)

structure CoverageEvidence where
  binEnds : List Int
  observationsByBin : List Nat
deriving DecidableEq, Repr

def ANALOG_STATS : List String := ["last", "mean", "std", "min", "max", "delta"]

def DIGITAL_STATS : List String := ["last", "active_ratio", "transition_count"]

/-- `f"{col}_{stat}"`. -/
def statName (col stat : String) : String := col ++ "_" ++ stat

def getCandidateFeatureNames (analogColumns : List AnalogColumn)
    (digitalColumns : List DigitalColumn) : List String :=
  (analogColumns.flatMap fun col => ANALOG_STATS.map (statName col.name)) ++
    digitalColumns.flatMap fun col => DIGITAL_STATS.map (statName col.name)

/-- `_extract_sample`. -/
def extractSample (event : TelemetryEventV1 F) (analogCols : List AnalogColumn)
    (digitalCols : List DigitalColumn) : TelemetrySample F where
  timestamp := event.sourceTimestamp
  analog := analogCols.map event.analog
  digital := digitalCols.map event.digital

inductive FeatureError where
  /-- `ValueError("Cannot compute features on empty samples")`. -/
  | emptySamples
  | keyError (name : String)
deriving DecidableEq, Repr

section Statistics

variable [PyFloat F]

/-- The column `idx` of the array of rows. -/
def column {A : Type} (rows : List (List A)) (idx : Nat) : List A := rows.filterMap (·[idx]?)

/-- The statistics of one analog series. A series has one value for each sample of
a window, so its first and last value exist. -/
def analogStatistics (col : AnalogColumn) (series : List F) : List (String × F) :=
  let first := series.head?.getD (PyFloat.ofInt 0)
  let last := series.getLast?.getD (PyFloat.ofInt 0)
  [(statName col.name "last", last), (statName col.name "mean", PyFloat.mean series),
   (statName col.name "std", PyFloat.std series), (statName col.name "min", PyFloat.min series),
   (statName col.name "max", PyFloat.max series),
   (statName col.name "delta", PyFloat.sub last first)]

/-- The number of places where a series changes. -/
def transitionCount (series : List Int) : Nat :=
  (series.zip series.tail).countP fun (a, b) => a ≠ b

def digitalStatistics (col : DigitalColumn) (series : List Int) : List (String × F) :=
  [(statName col.name "last", PyFloat.ofInt (series.getLast?.getD 0)),
   (statName col.name "active_ratio",
     PyFloat.mean (series.map fun value => PyFloat.ofInt (if value = 1 then 1 else 0))),
   (statName col.name "transition_count", PyFloat.ofInt (transitionCount series))]

/-- `_all_candidate_statistics`. -/
def allCandidateStatistics (analog : List (List F)) (digital : List (List Int))
    (analogCols : List AnalogColumn) (digitalCols : List DigitalColumn) : List (String × F) :=
  (analogCols.zipIdx.flatMap fun (col, idx) => analogStatistics col (column analog idx)) ++
    digitalCols.zipIdx.flatMap fun (col, idx) => digitalStatistics col (column digital idx)

def computeFeatureValues (samples : List (TelemetrySample F)) (featureNames : List String)
    (analogCols : List AnalogColumn) (digitalCols : List DigitalColumn) :
    Except FeatureError (List F) :=
  if samples = [] then .error .emptySamples
  else
    let allStats := allCandidateStatistics (samples.map (·.analog)) (samples.map (·.digital))
      analogCols digitalCols
    featureNames.mapM fun name =>
      match allStats.lookup name with
      | some value => .ok value
      | none => .error (.keyError name)

variable {samples : List (TelemetrySample F)} {featureNames : List String}
  {analogCols : List AnalogColumn} {digitalCols : List DigitalColumn}

/-- The statistics are named by the candidate names, whatever the samples. -/
theorem allCandidateStatistics_names (analog : List (List F)) (digital : List (List Int)) :
    (allCandidateStatistics analog digital analogCols digitalCols).map Prod.fst =
      getCandidateFeatureNames analogCols digitalCols := by
  unfold allCandidateStatistics getCandidateFeatureNames
  rw [List.map_append, List.map_flatMap, List.map_flatMap]
  conv_rhs => rw [← List.zipIdx_map_fst 0 analogCols, ← List.zipIdx_map_fst 0 digitalCols]
  rw [List.flatMap_map, List.flatMap_map]
  rfl

/-- The statistic of a name. -/
def featureValue (samples : List (TelemetrySample F)) (analogCols : List AnalogColumn)
    (digitalCols : List DigitalColumn) (name : String) : F :=
  ((allCandidateStatistics (samples.map (·.analog)) (samples.map (·.digital)) analogCols
    digitalCols).lookup name).getD (PyFloat.ofInt 0)

theorem lookup_statistics (samples : List (TelemetrySample F)) {name : String}
    (known : name ∈ getCandidateFeatureNames analogCols digitalCols) :
    (allCandidateStatistics (samples.map (·.analog)) (samples.map (·.digital)) analogCols
      digitalCols).lookup name = some (featureValue samples analogCols digitalCols name) := by
  unfold featureValue
  cases missing : (allCandidateStatistics (samples.map (·.analog)) (samples.map (·.digital))
      analogCols digitalCols).lookup name with
  | some value => rfl
  | none =>
      have absent := Lib.Table.lookup_eq_none_iff.mp missing
      rw [allCandidateStatistics_names] at absent
      exact absurd known absent

/-- The values are computed exactly when there are samples and every name is known. -/
theorem computeFeatureValues_eq_ok_iff {values : List F} :
    computeFeatureValues samples featureNames analogCols digitalCols = .ok values ↔
      samples ≠ [] ∧
        (∀ name ∈ featureNames, name ∈ getCandidateFeatureNames analogCols digitalCols) ∧
        values = featureNames.map (featureValue samples analogCols digitalCols) := by
  have elem : ∀ name (value : F), (match (allCandidateStatistics (samples.map (·.analog))
        (samples.map (·.digital)) analogCols digitalCols).lookup name with
      | some value => Except.ok value
      | none => .error (.keyError name)) = (.ok value : Except FeatureError F) ↔
      name ∈ getCandidateFeatureNames analogCols digitalCols ∧
        value = featureValue samples analogCols digitalCols name := by
    intro name value
    by_cases known : name ∈ getCandidateFeatureNames analogCols digitalCols
    · rw [lookup_statistics samples known]
      simp [known, eq_comm]
    · have missing : (allCandidateStatistics (samples.map (·.analog)) (samples.map (·.digital))
          analogCols digitalCols).lookup name = none := by
        rw [Lib.Table.lookup_eq_none_iff, allCandidateStatistics_names]
        exact known
      rw [missing]
      simp [known]
  unfold computeFeatureValues
  by_cases empty : samples = []
  · simp [empty]
  · rw [if_neg empty]
    dsimp only
    rw [Lib.mapM_eq_ok_iff elem]
    simp [empty]

variable (samples) in
/-- The value of a known name is a statistic. -/
theorem featureValue_mem {name : String}
    (known : name ∈ getCandidateFeatureNames analogCols digitalCols) :
    (name, featureValue samples analogCols digitalCols name) ∈ allCandidateStatistics
      (samples.map (·.analog)) (samples.map (·.digital)) analogCols digitalCols := by
  obtain ⟨before, after, split, -⟩ := List.lookup_eq_some_iff.mp
    (lookup_statistics samples known)
  rw [split]
  simp

/-! ### Finite statistics -/

/-- The microseconds of a window, and so the most samples a window can have when
their timestamps ascend. -/
def maxWindowSamples : Nat := 1800000000

/-- The value passes the envelope of its column. -/
def Enveloped (col : AnalogColumn) (value : F) : Prop := (validateAnalogValue col value).1 = true

/-- What numpy computes from up to `n` values stays finite. -/
structure FiniteUpTo (F : Type) [PyFloat F] (n : Nat) : Prop where
  ofInt : ∀ i : Int, 0 ≤ i → i ≤ n → PyFloat.isFinite (PyFloat.ofInt i : F) = true
  analog : ∀ (col : AnalogColumn) (series : List F), series ≠ [] →
    series.length ≤ n → (∀ value ∈ series, Enveloped col value) →
    PyFloat.isFinite (PyFloat.mean series) = true ∧ PyFloat.isFinite (PyFloat.std series) = true ∧
      PyFloat.isFinite (PyFloat.min series) = true ∧ PyFloat.isFinite (PyFloat.max series) = true
  delta : ∀ (col : AnalogColumn) (a b : F), Enveloped col a → Enveloped col b →
    PyFloat.isFinite (PyFloat.sub a b) = true
  ratio : ∀ flags : List Int, flags ≠ [] → flags.length ≤ n →
    (∀ flag ∈ flags, flag = 0 ∨ flag = 1) →
    PyFloat.isFinite (PyFloat.mean (flags.map PyFloat.ofInt) : F) = true

/-- What numpy computes from as many values as a window can have stays finite. -/
abbrev NumpyFinite (F : Type) [PyFloat F] : Prop := FiniteUpTo F maxWindowSamples

theorem exactIntegers_finite : NumpyFinite Int :=
  ⟨fun _ _ _ => rfl, fun _ _ _ _ _ => ⟨rfl, rfl, rfl, rfl⟩, fun _ _ _ _ _ => rfl,
    fun _ _ _ _ => rfl⟩

theorem Enveloped.isFinite {col : AnalogColumn} {value : F} (enveloped : Enveloped col value) :
    PyFloat.isFinite value = true := by
  unfold Enveloped validateAnalogValue at enveloped
  simp only [Bool.and_eq_true] at enveloped
  exact enveloped.1.1

variable {n : Nat}

theorem analogStatistics_finite (numpy : FiniteUpTo F n) {col : AnalogColumn} {series : List F}
    (nonempty : series ≠ []) (short : series.length ≤ n)
    (enveloped : ∀ value ∈ series, Enveloped col value) :
    ∀ stat ∈ analogStatistics col series, PyFloat.isFinite stat.2 = true := by
  obtain ⟨first, rest, rfl⟩ := List.exists_cons_of_ne_nil nonempty
  obtain ⟨last, held⟩ := Option.ne_none_iff_exists'.mp
    (mt List.getLast?_eq_none_iff.mp nonempty)
  obtain ⟨mean, std, min, max⟩ := numpy.analog col _ nonempty short enveloped
  have envelopedFirst := enveloped first List.mem_cons_self
  have envelopedLast := enveloped last (List.mem_of_getLast? held)
  have delta := numpy.delta col last first envelopedLast envelopedFirst
  intro stat mem
  unfold analogStatistics at mem
  rw [held] at mem
  simp only [List.head?_cons, Option.getD_some, List.mem_cons, List.not_mem_nil, or_false] at mem
  rcases mem with rfl | rfl | rfl | rfl | rfl | rfl
  · exact envelopedLast.isFinite
  · exact mean
  · exact std
  · exact min
  · exact max
  · exact delta

theorem digitalStatistics_finite (numpy : FiniteUpTo F n) {col : DigitalColumn} {series : List Int}
    (nonempty : series ≠ []) (short : series.length ≤ n)
    (binary : ∀ value ∈ series, value = 0 ∨ value = 1) :
    ∀ stat ∈ (digitalStatistics col series : List (String × F)),
      PyFloat.isFinite stat.2 = true := by
  obtain ⟨last, held⟩ := Option.ne_none_iff_exists'.mp
    (mt List.getLast?_eq_none_iff.mp nonempty)
  have changes : transitionCount series ≤ series.length := by
    refine List.countP_le_length.trans ?_
    rw [List.length_zip]
    exact Nat.min_le_left _ _
  have ratio := numpy.ratio (series.map fun value => if value = 1 then 1 else 0) (by simpa using nonempty)
    (by simpa using short) (by
      intro flag mem
      obtain ⟨value, -, rfl⟩ := List.mem_map.mp mem
      by_cases one : value = 1 <;> simp [one])
  rw [List.map_map] at ratio
  intro stat mem
  unfold digitalStatistics at mem
  rw [held] at mem
  simp only [Option.getD_some, List.mem_cons, List.not_mem_nil, or_false] at mem
  rcases mem with rfl | rfl | rfl
  · rcases binary last (List.mem_of_getLast? held) with rfl | rfl
    · exact numpy.ofInt 0 (by simp) (by simp)
    · exact numpy.ofInt 1 (by simp) (by exact_mod_cast (List.length_pos_of_ne_nil nonempty).trans_le short)
  · exact ratio
  · exact numpy.ofInt _ (by simp) (by exact_mod_cast changes.trans short)

/-- The column of an array of extracted samples is the series of its signal. -/
theorem column_map {A E C : Type} (cols : List C) (value : E → C → A) (events : List E) {idx : Nat}
    {col : C} (at_idx : cols[idx]? = some col) :
    column (events.map fun e => cols.map (value e)) idx = events.map fun e => value e col := by
  unfold column
  rw [List.filterMap_map]
  have each : ∀ e ∈ events, (fun row : List A => row[idx]?) (cols.map (value e)) =
      some (value e col) := by
    intro e _
    simp [at_idx]
  rw [← List.filterMap_eq_map']
  exact List.filterMap_congr each

theorem telemetry_enveloped {event : TelemetryEventV1 F} (valid : Valid event)
    (col : AnalogColumn) : Enveloped col (event.analog col) := by
  apply valid
  simp only [FrozenMessage.checks, List.mem_append, List.mem_map]
  exact .inr ⟨col, by cases col <;> decide, rfl⟩

theorem telemetry_binary {event : TelemetryEventV1 F} (valid : Valid event)
    (col : DigitalColumn) : event.digital col = 0 ∨ event.digital col = 1 := by
  have check := valid (decide (event.digital col = 0 ∨ event.digital col = 1),
    col.name ++ ": Input should be 0 or 1") (by
      simp only [FrozenMessage.checks, List.mem_append, List.mem_map]
      exact .inl (.inr ⟨col, by cases col <;> decide, rfl⟩))
  exact of_decide_eq_true check

/-- Every statistic of the samples of a window is a finite number. -/
theorem statistics_finite (numpy : FiniteUpTo F n) {events : List (Checked (TelemetryEventV1 F))}
    (nonempty : events ≠ []) (short : events.length ≤ n) :
    ∀ stat ∈ allCandidateStatistics
        ((events.map fun e => extractSample e.val analogCols digitalCols).map (·.analog))
        ((events.map fun e => extractSample e.val analogCols digitalCols).map (·.digital))
        analogCols digitalCols,
      PyFloat.isFinite stat.2 = true := by
  intro stat mem
  unfold allCandidateStatistics at mem
  rw [List.map_map, List.map_map] at mem
  rcases List.mem_append.mp mem with analog | digital
  · obtain ⟨⟨col, idx⟩, at_idx, mem⟩ := List.mem_flatMap.mp analog
    have held : analogCols[idx]? = some col := List.mem_zipIdx_iff_getElem?.mp at_idx
    have series := column_map analogCols (fun e : Checked (TelemetryEventV1 F) => e.val.analog)
      events held
    have mem : stat ∈ analogStatistics col (column
        (events.map fun e => analogCols.map e.val.analog) idx) := mem
    rw [series] at mem
    refine analogStatistics_finite numpy ?_ ?_ ?_ stat mem
    · exact fun empty => nonempty (List.map_eq_nil_iff.mp empty)
    · simpa using short
    · intro value inSeries
      obtain ⟨e, -, rfl⟩ := List.mem_map.mp inSeries
      exact telemetry_enveloped e.property col
  · obtain ⟨⟨col, idx⟩, at_idx, mem⟩ := List.mem_flatMap.mp digital
    have held : digitalCols[idx]? = some col := List.mem_zipIdx_iff_getElem?.mp at_idx
    have series := column_map digitalCols (fun e : Checked (TelemetryEventV1 F) => e.val.digital)
      events held
    have mem : stat ∈ digitalStatistics col (column
        (events.map fun e => digitalCols.map e.val.digital) idx) := mem
    rw [series] at mem
    refine digitalStatistics_finite numpy ?_ ?_ ?_ stat mem
    · exact fun empty => nonempty (List.map_eq_nil_iff.mp empty)
    · simpa using short
    · intro value inSeries
      obtain ⟨e, -, rfl⟩ := List.mem_map.mp inSeries
      exact telemetry_binary e.property col

end Statistics

end IndustrialReliability
