import IndustrialReliability.Lab.QualityAlerts

/-!
The process limit alerts of a sensor.

They are meant to need three observations in a row beyond one limit, and five inside
the band that the hysteresis leaves to be resolved. `limitLatch` is on while such an
alert is open, `countingLatch` while one is open in the code, which counts over some
observations; the main theorem is the comparison of the two latches.
-/

namespace IndustrialReliability

open SensorAnalysis Lib

variable {R : Type} [LabNumber R] {sensor : Sensor R} {ids : Nat → AnalysisIds}
  {obs : Observation R} {before observations : List (Observation R)}
  {state state' : SensorAnalysisState R}

theorem Limit.reading_injective {limit limit' : Limit} (same : limit.reading = limit'.reading) :
    limit = limit' := by
  cases limit <;> cases limit' <;> trivial

/-- Three violations of one limit in a row open an alert, five observations inside in
a row resolve it. -/
def limitLatch : Latch Reading where
  sets log := ∃ limit : Limit, List.replicate 3 limit.reading <:+ log
  resets log := List.replicate 5 .inside <:+ log
  apart _ := by
    rintro ⟨limit, sets⟩
    exact not_suffix_of_last (List.replicate 2 _) (List.replicate 4 _)
      (by cases limit <;> simp [Limit.reading]) sets

/-- The same, counted over the readings that the counters pass over. -/
def countingLatch : Latch Reading where
  sets log := ∃ limit : Limit, [limit.reading] <:+ log ∧
    List.replicate 3 limit.reading <:+ log.filter Reading.decides
  resets log := [.inside] <:+ log ∧ List.replicate 5 .inside <:+ log.filter Reading.isFar
  apart _ := by
    rintro ⟨limit, sets, -⟩ ⟨resets, -⟩
    exact not_suffix_of_last [] [] (by cases limit <;> simp [Limit.reading]) sets resets

/-- Whenever no alert is open, three violations of one limit without another reading
that decides between them are in a row; and whenever one is open, so are five
observations inside that have only such near a limit between them. -/
def LimitsInARow (log : List Reading) : Prop :=
  Recorded (fun before reading =>
    countingLatch.Changes limitLatch (limitLatch.On before) (before ++ [reading])) log

theorem countingLatch_looser : Latch.Looser countingLatch limitLatch where
  sets log := by
    rintro ⟨limit, three⟩
    refine ⟨limit, .trans ⟨List.replicate 2 limit.reading, rfl⟩ three, ?_⟩
    have counted := three.filter Reading.decides
    have kept : (List.replicate 3 limit.reading).filter Reading.decides = List.replicate 3 limit.reading := by
      cases limit <;> rfl
    rwa [kept] at counted
  resets log five := ⟨.trans ⟨List.replicate 4 .inside, rfl⟩ five, five.filter Reading.isFar⟩
  nil := by
    rintro ⟨limit, last, -⟩
    simp at last

theorem last_suffix_concat {log : List Reading} {last read : Reading} :
    [last] <:+ log ++ [read] ↔ last = read := by
  constructor
  · rintro ⟨front, same⟩
    simpa using List.append_inj_right' same rfl
  · rintro rfl
    exact List.suffix_append _ _

/-- The counters count up to the latch. -/
theorem Counts.sets_iff (counts : Counts sensor before state) {read : Reading} :
    countingLatch.sets (readings sensor before ++ [read]) ↔
      ∃ limit : Limit, read = limit.reading ∧ 2 ≤ limit.violations state := by
  refine exists_congr fun limit => ?_
  rw [last_suffix_concat, eq_comm]
  refine and_congr_right ?_
  rintro rfl
  have decides : [limit.reading].filter Reading.decides = [limit.reading] := by cases limit <;> rfl
  rw [List.filter_append, decides, streak_concat_same (counts.violations limit)]
  omega

theorem Counts.resets_iff (counts : Counts sensor before state) {read : Reading} :
    countingLatch.resets (readings sensor before ++ [read]) ↔ read = .inside ∧ 4 ≤ state.normalStreak := by
  unfold countingLatch
  dsimp only
  rw [last_suffix_concat, eq_comm]
  refine and_congr_right ?_
  rintro rfl
  have far : [Reading.inside].filter Reading.isFar = [.inside] := rfl
  rw [List.filter_append, far, streak_concat_same counts.normal]
  omega

/-- The alert is that of the counting latch. -/
theorem LimitOutcome.active_iff {alert : Option LabAlert} (counts : Counts sensor before state)
    (outcome : LimitOutcome sensor obs state state' alert)
    (agrees : state.activeProcessAlert.isSome = true ↔ countingLatch.On (readings sensor before)) :
    state'.activeProcessAlert.isSome = true ↔ countingLatch.On (readings sensor (before ++ [obs])) := by
  have kept (same : state'.activeProcessAlert = state.activeProcessAlert)
      (sets : state.activeProcessAlert = none → ¬ countingLatch.sets (readings sensor before ++ [reading sensor obs]))
      (resets : ∀ alert, state.activeProcessAlert = some alert →
        ¬ countingLatch.resets (readings sensor before ++ [reading sensor obs])) :
      state'.activeProcessAlert.isSome = true ↔ countingLatch.On (readings sensor (before ++ [obs])) := by
    rw [readings_concat, same]
    cases held : state.activeProcessAlert with
    | none =>
        have off : ¬ countingLatch.On (readings sensor before) := fun on => by
          have raised := agrees.mpr on
          rw [held] at raised
          cases raised
        rw [Latch.concat_iff_of_not_on off]
        exact iff_of_false (by simp) (sets held)
    | some alert =>
        have on : countingLatch.On (readings sensor before) := agrees.mp (by rw [held]; rfl)
        rw [on.concat_iff]
        exact iff_of_true rfl (resets alert held)
  cases outcome with
  | bad read _ _ same | near read _ _ same =>
      refine kept same (fun _ => ?_) fun _ _ => ?_
      · rw [counts.sets_iff, read]
        rintro ⟨limit, impossible, -⟩
        cases limit <;> cases impossible
      · rw [counts.resets_iff, read]
        rintro ⟨impossible, -⟩
        cases impossible
  | violated limit read waits _ _ _ same =>
      refine kept same (fun quiet => ?_) fun _ _ => ?_
      · rw [counts.sets_iff, read]
        rintro ⟨limit', this, two⟩
        obtain rfl := Limit.reading_injective this
        exact waits ⟨two, quiet⟩
      · rw [counts.resets_iff, read]
        rintro ⟨impossible, -⟩
        cases limit <;> cases impossible
  | inside read waits _ _ same =>
      refine kept same (fun _ => ?_) fun alert raised => ?_
      · rw [counts.sets_iff, read]
        rintro ⟨limit, impossible, -⟩
        cases limit <;> cases impossible
      · rw [counts.resets_iff]
        rintro ⟨-, four⟩
        cases raised.symm.trans (waits four)
  | opened limit alert read two quiet _ _ _ _ _ active =>
      rw [active, readings_concat, Latch.on_concat_iff]
      exact iff_of_true rfl (.inl (counts.sets_iff.mpr ⟨limit, read, two⟩))
  | resolved alert read four raised _ _ active =>
      have on : countingLatch.On (readings sensor before) := agrees.mp (by rw [raised]; rfl)
      rw [active, readings_concat, on.concat_iff]
      exact iff_of_false (by simp) (not_not.mpr (counts.resets_iff.mpr ⟨read, four⟩))

/-- The value is beyond the limit; one that is beyond both is above. -/
def Limit.exceeded (sensor : Sensor R) (value : R) : Limit → Bool
  | .high => isAbove sensor value
  | .low => !isAbove sensor value && isBelow sensor value

/-- A `GOOD` observation beyond a limit. -/
def Beyond (sensor : Sensor R) (limit : Limit) (obs : Observation R) : Prop :=
  obs.quality = .GOOD ∧ ∃ value, obs.value = some value ∧ limit.exceeded sensor value = true

/-- A `GOOD` observation inside the band that the hysteresis leaves. -/
def Inside (sensor : Sensor R) (obs : Observation R) : Prop :=
  obs.quality = .GOOD ∧ ∃ value, obs.value = some value ∧ isAbove sensor value = false ∧
    isBelow sensor value = false ∧ isSafelyInside sensor value = true

/-- What a limit alert rests on when it is emitted. -/
structure LimitEvidence (sensor : Sensor R) (before : List (Observation R)) (obs : Observation R)
    (alert : LabAlert) : Prop where
  opened : alert.state = .OPEN → ∃ limit first second, [first, second, obs] <:+ before ++ [obs] ∧
    alert.kind = Limit.kind limit ∧ alert.firstTick = first.tick ∧
      ∀ one ∈ [first, second, obs], Beyond sensor limit one
  resolved : alert.state = .RESOLVED → ∃ last, last.length = 5 ∧ last <:+ before ++ [obs] ∧
    ∀ obs ∈ last, Inside sensor obs

/-- Every limit alert rests on observations that follow one another. -/
def ConsecutiveLimitEvidence (sensor : Sensor R) (ids : Nat → AnalysisIds)
    (observations : List (Observation R)) : Prop :=
  Recorded (fun before obs => ∀ alert ∈ emittedAfter sensor ids before obs,
    alert.origin = .PROCESS_LIMIT → LimitEvidence sensor before obs alert) observations

theorem reading_eq_limit_iff {limit : Limit} : reading sensor obs = limit.reading ↔ Beyond sensor limit obs := by
  unfold reading Beyond
  rw [← isBad_eq_false_iff]
  cases bad : obs.isBad with
  | true => exact iff_of_false (by cases limit <;> simp [Limit.reading]) (by simp)
  | false =>
      cases obs.value with
      | none => exact iff_of_false (by cases limit <;> simp [Limit.reading]) (by simp)
      | some value =>
          cases limit <;> cases above : isAbove sensor value <;> cases below : isBelow sensor value <;>
            cases inside : isSafelyInside sensor value <;>
            simp [Limit.reading, Limit.exceeded, above, below, inside]

theorem reading_eq_inside_iff : reading sensor obs = .inside ↔ Inside sensor obs := by
  unfold reading Inside
  rw [← isBad_eq_false_iff]
  cases bad : obs.isBad with
  | true => simp
  | false =>
      cases obs.value with
      | none => simp
      | some value =>
          cases above : isAbove sensor value <;> cases below : isBelow sensor value <;>
            cases inside : isSafelyInside sensor value <;> simp [above, below, inside]

/-- The observations that the log ends with have one reading. -/
theorem replicate_suffix_iff {read : Reading} {n : Nat} :
    List.replicate n read <:+ readings sensor observations ↔ ∃ last, last.length = n ∧
      last <:+ observations ∧ ∀ obs ∈ last, reading sensor obs = read := by
  unfold readings
  rw [List.suffix_map_iff]
  refine exists_congr fun last => ?_
  rw [eq_comm, List.eq_replicate_iff, List.length_map, List.forall_mem_map]
  tauto

theorem EvaluatedAfter.limit_evidence_iff {quality limit : Option LabAlert}
    (ran : EvaluatedAfter sensor ids before obs quality limit) (ticks : ConsecutiveTicks (before ++ [obs]))
    (agrees : (analyse sensor ids before).activeProcessAlert.isSome = true ↔
      countingLatch.On (readings sensor before)) :
    (∀ alert ∈ emittedAfter sensor ids before obs, alert.origin = .PROCESS_LIMIT →
      LimitEvidence sensor before obs alert) ↔
        countingLatch.Changes limitLatch (countingLatch.On (readings sensor before))
          (readings sensor before ++ [reading sensor obs]) := by
  have counts := ran.counts
  obtain ⟨-, emits, -, outcome, quality_origin, -⟩ := ran
  rw [← readings_concat]
  constructor
  · intro evidence
    refine ⟨fun off sets => ?_, fun on resets => ?_⟩
    · rw [readings_concat, counts.sets_iff] at sets
      obtain ⟨limit, read, two⟩ := sets
      have quiet : (analyse sensor ids before).activeProcessAlert = none := by
        rwa [← agrees, Bool.not_eq_true, Option.isSome_eq_false_iff, Option.isNone_iff_eq_none] at off
      cases outcome with
      | opened limit' alert read' _ _ opens kind =>
          have mem : alert ∈ emittedAfter sensor ids before obs := by
            rw [emits]
            exact List.mem_append_right _ List.mem_cons_self
          obtain ⟨limit'', first, second, suffix, -, -, beyond⟩ :=
            (evidence alert mem opens.origin).opened opens.state
          exact ⟨limit'', replicate_suffix_iff.mpr ⟨_, rfl, suffix, fun obs mem =>
            reading_eq_limit_iff.mpr (beyond obs mem)⟩⟩
      | violated limit' read' waits =>
          obtain rfl := Limit.reading_injective (read.symm.trans read')
          exact absurd ⟨two, quiet⟩ waits
      | bad read' | near read' | inside read' | resolved _ read' =>
          rw [read'] at read
          cases limit <;> cases read
    · rw [readings_concat, counts.resets_iff] at resets
      obtain ⟨read, four⟩ := resets
      have raised := agrees.mpr on
      cases outcome with
      | resolved alert =>
          have mem : resolveAlert obs alert ∈ emittedAfter sensor ids before obs := by
            rw [emits]
            exact List.mem_append_right _ List.mem_cons_self
          have origin : (resolveAlert obs alert).origin = .PROCESS_LIMIT :=
            counts.process_origin alert (by assumption)
          obtain ⟨last, five, suffix, inside⟩ := (evidence _ mem origin).resolved rfl
          exact replicate_suffix_iff.mpr ⟨last, five, suffix, fun obs mem =>
            reading_eq_inside_iff.mpr (inside obs mem)⟩
      | inside _ waits =>
          rw [waits four] at raised
          cases raised
      | bad read' | near read' => rw [read'] at read; cases read
      | opened limit _ read' | violated limit read' =>
          rw [read'] at read
          cases limit <;> cases read
  · intro changes alert mem origin
    rw [emits] at mem
    rcases List.mem_append.mp mem with mem | mem
    · have other := quality_origin alert (by simpa using mem)
      rw [origin] at other
      cases other
    · cases outcome with
      | bad | near | violated | inside => cases mem
      | opened limit _ read two quiet opens kind =>
          obtain rfl := List.mem_singleton.mp mem
          have off : ¬ countingLatch.On (readings sensor before) := by
            rw [← agrees, quiet]
            simp
          have sets : countingLatch.sets (readings sensor (before ++ [obs])) := by
            rw [readings_concat, counts.sets_iff]
            exact ⟨limit, read, two⟩
          obtain ⟨limit', three⟩ := changes.1 off sets
          obtain ⟨last, length, suffix, each⟩ := replicate_suffix_iff.mp three
          obtain ⟨first, second, third, rfl⟩ := List.length_eq_three.mp length
          obtain rfl : third = obs := by
            obtain ⟨front, same⟩ := suffix
            have split : (front ++ [first, second]) ++ [third] = before ++ [obs] := by simpa using same
            simpa using List.append_inj_right' split rfl
          obtain rfl : limit' = limit := Limit.reading_injective ((each third (by simp)).symm.trans read)
          have spaced : second.tick = first.tick + 20 ∧ third.tick = second.tick + 20 := by
            simpa using (ticks.suffix suffix : List.IsChain _ [first, second, third])
          have first_tick := opens.first
          refine ⟨fun _ => ⟨limit', first, second, suffix, kind, by omega, fun obs mem =>
            reading_eq_limit_iff.mp (each obs mem)⟩, fun resolved => ?_⟩
          rw [opens.state] at resolved
          cases resolved
      | resolved held read four raised =>
          obtain rfl := List.mem_singleton.mp mem
          refine ⟨nofun, fun _ => ?_⟩
          have on : countingLatch.On (readings sensor before) := agrees.mp (by rw [raised]; rfl)
          have resets : countingLatch.resets (readings sensor (before ++ [obs])) := by
            rw [readings_concat, counts.resets_iff]
            exact ⟨read, four⟩
          obtain ⟨last, length, suffix, each⟩ := replicate_suffix_iff.mp (changes.2 on resets)
          exact ⟨last, length, suffix, fun obs mem => reading_eq_inside_iff.mp (each obs mem)⟩

theorem limit_agrees (sensor : Sensor R) (ids : Nat → AnalysisIds) (ticks : ConsecutiveTicks observations) :
    (analyse sensor ids observations).activeProcessAlert.isSome = true ↔
      countingLatch.On (readings sensor observations) := by
  induction observations using List.reverseRecOn with
  | nil =>
      refine iff_of_false (by simp [analyse, SensorAnalysisState.new]) ?_
      exact fun on => countingLatch_looser.nil (Latch.on_nil_iff.mp on)
  | append_singleton before obs ih =>
      obtain ⟨quality, limit, ran⟩ := evaluatedAfter_outcome sensor ids ticks
      exact ran.onLimit.active_iff ran.counts (ih ticks.earlier)

/-- Process limit alerts rest on observations that follow one another exactly when
nothing near a limit or of bad quality comes between those that are counted. -/
theorem limit_alerts_consecutive_iff (sensor : Sensor R) (ids : Nat → AnalysisIds)
    (ticks : ConsecutiveTicks observations) :
    ConsecutiveLimitEvidence sensor ids observations ↔ LimitsInARow (readings sensor observations) := by
  unfold ConsecutiveLimitEvidence LimitsInARow
  rw [← (Latch.sound_iff countingLatch_looser _).1]
  unfold Latch.Sound readings
  rw [recorded_map_iff]
  refine recorded_congr fun before obs after split => ?_
  have whole : observations = (before ++ [obs]) ++ after := by rw [split, List.append_assoc]; rfl
  have here : ConsecutiveTicks (before ++ [obs]) := by
    rw [whole] at ticks
    exact List.IsChain.left_of_append ticks
  obtain ⟨quality, limit, ran⟩ := evaluatedAfter_outcome sensor ids here
  exact ran.limit_evidence_iff here (limit_agrees sensor ids here.earlier)

/-! ### Two runs -/

/-- Readings beyond one limit from the start are in a row. -/
theorem limitsInARow_replicate (limit : Limit) (n : Nat) : LimitsInARow (List.replicate n limit.reading) := by
  rintro before read after split
  have each (one : Reading) (mem : one ∈ before ++ read :: after) : one = limit.reading := by
    rw [← split] at mem
    exact List.eq_of_mem_replicate mem
  obtain rfl := each read (by simp)
  have same : before ++ [limit.reading] = List.replicate (before.length + 1) limit.reading :=
    List.eq_replicate_iff.mpr ⟨by simp, fun one mem => each one (by simp at mem ⊢; tauto)⟩
  rw [same]
  have decides : (List.replicate (before.length + 1) limit.reading).filter Reading.decides =
      List.replicate (before.length + 1) limit.reading := by
    cases limit <;> simp [Limit.reading, Reading.decides]
  refine ⟨?_, ?_⟩
  · rintro - ⟨limit', -, three⟩
    rw [decides] at three
    exact ⟨limit', three⟩
  · rintro - ⟨last, -⟩
    have inside := List.eq_of_mem_replicate (last.subset List.mem_cons_self)
    cases limit <;> cases inside

/-- Three observations above the limit in a row. -/
def overpressure : List (Observation ℚ) := [outletObservation 20 (some 900000),
  outletObservation 40 (some 900000), outletObservation 60 (some 900000)]

theorem overpressure_consecutive : ConsecutiveLimitEvidence outletSensor numberedIds overpressure ∧
    emittedAfter outletSensor numberedIds (overpressure.take 2) (outletObservation 60 (some 900000)) ≠ [] := by
  have read : readings outletSensor overpressure = List.replicate 3 Limit.high.reading := by decide +kernel
  refine ⟨(limit_alerts_consecutive_iff outletSensor numberedIds
    (by simp [ConsecutiveTicks, overpressure, outletObservation])).mpr ?_, by decide +kernel⟩
  rw [read]
  exact limitsInARow_replicate .high 3

/-- An observation near the limit between three above it does not restart the count. -/
theorem nearLimit_counts : ∃ observations : List (Observation ℚ), ConsecutiveTicks observations ∧
    ¬ ConsecutiveLimitEvidence outletSensor numberedIds observations := by
  refine ⟨[outletObservation 20 (some 900000), outletObservation 40 (some 845000),
    outletObservation 60 (some 900000), outletObservation 80 (some 900000)],
    by simp [ConsecutiveTicks, outletObservation], fun holds => ?_⟩
  have emitted : (emittedAfter outletSensor numberedIds [outletObservation 20 (some 900000),
      outletObservation 40 (some 845000), outletObservation 60 (some 900000)]
        (outletObservation 80 (some 900000))).map
          (fun alert => (alert.origin, alert.state, alert.firstTick)) = [(.PROCESS_LIMIT, .OPEN, 40)] := by
    decide +kernel
  obtain ⟨alert, only, same⟩ := List.map_eq_singleton_iff.mp emitted
  obtain ⟨origin, opened, -⟩ : alert.origin = .PROCESS_LIMIT ∧ alert.state = .OPEN ∧ alert.firstTick = 40 := by
    simpa using same
  obtain ⟨limit, first, second, suffix, -, -, beyond⟩ :=
    (holds _ _ [] rfl alert (only ▸ List.mem_cons_self) origin).opened opened
  obtain ⟨front, split⟩ := suffix
  have split' : front ++ [first, second, outletObservation 80 (some 900000)] =
      [outletObservation 20 (some 900000)] ++ [outletObservation 40 (some 845000),
        outletObservation 60 (some 900000), outletObservation 80 (some 900000)] := split
  obtain ⟨-, same⟩ := List.append_inj' split' rfl
  obtain rfl : first = outletObservation 40 (some 845000) := (List.cons.inj same).1
  have near : reading outletSensor (outletObservation 40 (some 845000)) = .near := by decide +kernel
  have exceeds := reading_eq_limit_iff.mpr (beyond _ List.mem_cons_self)
  rw [near] at exceeds
  cases limit <;> cases exceeds

end IndustrialReliability
