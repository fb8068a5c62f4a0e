import IndustrialReliability.Lab.AnalysisOutcomes
import IndustrialReliability.Lab.Exact
import IndustrialReliability.Lib.Latches

/-!
The data quality alerts of a sensor.

They are meant to need two bad observations in a row, and three good ones to be
resolved. The counter of bad observations is reset when an alert is resolved and not
by a good observation, so a bad one that no alert answered is still counted behind
good ones; the main theorem says that this is the only way an alert is opened by what
does not follow one another.
-/

namespace IndustrialReliability

open SensorAnalysis Lib

variable {R : Type} [LabNumber R] {sensor : Sensor R} {ids : Nat → AnalysisIds}
  {obs : Observation R} {before observations : List (Observation R)}
  {state state' : SensorAnalysisState R}

/-- Two bad observations in a row open an alert, three good ones resolve it. -/
def qualityLatch : Latch Bool where
  sets log := [true, true] <:+ log
  resets log := List.replicate 3 false <:+ log
  apart _ sets := not_suffix_of_last [true] [false, false] (by simp) sets

/-- The last bad observation left no alert open. -/
def BadUnanswered (log : List Bool) : Prop :=
  ∃ earlier goods, log = earlier ++ true :: goods ∧ true ∉ goods ∧ ¬ qualityLatch.On (earlier ++ [true])

theorem not_badUnanswered_nil : ¬ BadUnanswered [] := by
  rintro ⟨earlier, goods, split, -⟩
  simp at split

/-- A bad observation directly follows the last bad one before it, if that one left no
alert open. -/
def BadInARow (log : List Bool) : Prop :=
  Recorded (fun before bad => bad = true → BadUnanswered before → [true] <:+ before) log

theorem qualityLatch_concat_false {log : List Bool} (on : qualityLatch.On (log ++ [false])) :
    qualityLatch.On log := by
  rcases Latch.on_concat_iff.mp on with sets | ⟨before, -⟩
  · exact absurd (List.suffix_append log [false])
      (not_suffix_of_last [true] [] (by simp) sets)
  · exact before

theorem not_badUnanswered {log : List Bool} (on : qualityLatch.On log) : ¬ BadUnanswered log := by
  rintro ⟨earlier, goods, rfl, good, off⟩
  induction goods using List.reverseRecOn with
  | nil => exact off on
  | append_singleton goods last ih =>
      simp only [List.mem_append, List.mem_singleton, not_or] at good
      obtain rfl : last = false := by simpa using good.2
      rw [← List.cons_append, ← List.append_assoc] at on
      exact ih (qualityLatch_concat_false on) good.1

theorem badUnanswered_concat_false {log : List Bool} :
    BadUnanswered (log ++ [false]) ↔ BadUnanswered log := by
  constructor
  · rintro ⟨earlier, goods, split, good, off⟩
    rcases List.eq_nil_or_concat' goods with rfl | ⟨goods, last, rfl⟩
    · obtain ⟨-, last⟩ := List.append_inj' split rfl
      cases last
    · rw [← List.cons_append, ← List.append_assoc] at split
      obtain ⟨rfl, -⟩ := List.append_inj' split rfl
      exact ⟨earlier, goods, rfl, fun mem => good (List.mem_append_left _ mem), off⟩
  · rintro ⟨earlier, goods, rfl, good, off⟩
    exact ⟨earlier, goods ++ [false], by simp, by simpa using good, off⟩

theorem badUnanswered_concat_true {log : List Bool} :
    BadUnanswered (log ++ [true]) ↔ ¬ qualityLatch.On (log ++ [true]) := by
  constructor
  · exact fun unanswered on => not_badUnanswered on unanswered
  · exact fun off => ⟨log, [], rfl, List.not_mem_nil, off⟩

/-- A pair of bad observations at the end. -/
theorem pair_suffix_concat {log : List Bool} : [true, true] <:+ log ++ [true] ↔ [true] <:+ log := by
  rw [show [true, true] = [true] ++ [true] from rfl]
  exact (List.suffix_append_inj_of_length_eq rfl).trans (and_iff_left rfl)

/-- The alert and the counter are those of the latch. -/
structure QualityAgrees (log : List Bool) (state : SensorAnalysisState R) : Prop where
  active : state.activeQualityAlert.isSome = true ↔ qualityLatch.On log
  waiting : state.activeQualityAlert = none → (1 ≤ state.badQualityStreak ↔ BadUnanswered log)

omit [LabNumber R] in
theorem QualityAgrees.step {log : List Bool} {alert : Option LabAlert} (agrees : QualityAgrees log state)
    (goods : ∀ n, List.replicate n false <:+ log ↔ n ≤ state.goodQualityStreak)
    (outcome : QualityOutcome obs state state' alert)
    (row : obs.isBad = true → BadUnanswered log → [true] <:+ log) :
    QualityAgrees (log ++ [obs.isBad]) state' := by
  have off : state.activeQualityAlert = none → ¬ qualityLatch.On log := by
    intro quiet on
    have raised := agrees.active.mpr on
    rw [quiet] at raised
    cases raised
  cases outcome with
  | opened alert bad counted quiet _ _ _ active =>
      rw [bad]
      have pair := row bad ((agrees.waiting quiet).mp counted)
      have on : qualityLatch.On (log ++ [true]) := Latch.on_concat_iff.mpr (.inl (pair_suffix_concat.mpr pair))
      exact ⟨by simp [active, on], fun none => by rw [active] at none; cases none⟩
  | counted bad waits badStreak _ active =>
      rw [bad]
      cases quiet : state.activeQualityAlert with
      | some held =>
          have on : qualityLatch.On log := agrees.active.mp (by rw [quiet]; rfl)
          have stays : qualityLatch.On (log ++ [true]) := on.concat_iff.mpr
            (not_suffix_of_last log ([false, false]) (by simp) (List.suffix_refl _))
          refine ⟨by simp [active, quiet, stays], fun none => ?_⟩
          rw [active, quiet] at none
          cases none
      | none =>
          have answered : ¬ BadUnanswered log :=
            fun unanswered => waits ⟨(agrees.waiting quiet).mpr unanswered, quiet⟩
          have still : ¬ qualityLatch.On (log ++ [true]) := by
            rw [Latch.concat_iff_of_not_on (off quiet)]
            intro pair
            obtain ⟨earlier, rfl⟩ := pair_suffix_concat.mp pair
            exact answered (badUnanswered_concat_true.mpr (off quiet))
          refine ⟨by simp [active, quiet, still], fun _ => ?_⟩
          rw [badStreak, badUnanswered_concat_true]
          exact iff_of_true (Nat.le_add_left _ _) still
  | resolved held good counted raised badStreak _ active =>
      rw [good]
      have on : qualityLatch.On log := agrees.active.mp (by rw [raised]; rfl)
      have reset : ¬ qualityLatch.On (log ++ [false]) := by
        rw [on.concat_iff, not_not]
        exact (streak_concat_same goods 3).mpr (by omega)
      refine ⟨by simp [active, reset], fun _ => ?_⟩
      rw [badStreak, badUnanswered_concat_false]
      exact iff_of_false (by simp) (not_badUnanswered on)
  | passed good waits badStreak _ active =>
      rw [good]
      cases quiet : state.activeQualityAlert with
      | some held =>
          have on : qualityLatch.On log := agrees.active.mp (by rw [quiet]; rfl)
          have stays : qualityLatch.On (log ++ [false]) := by
            rw [on.concat_iff]
            intro three
            have enough := (streak_concat_same goods 3).mp three
            cases quiet.symm.trans (waits (by omega))
          refine ⟨by simp [active, quiet, stays], fun none => ?_⟩
          rw [active, quiet] at none
          cases none
      | none =>
          have still : ¬ qualityLatch.On (log ++ [false]) := fun on => off quiet (qualityLatch_concat_false on)
          refine ⟨by simp [active, quiet, still], fun _ => ?_⟩
          rw [badStreak, badUnanswered_concat_false]
          exact agrees.waiting quiet

/-- What a quality alert rests on when it is emitted. -/
structure QualityEvidence (before : List (Observation R)) (obs : Observation R) (alert : LabAlert) : Prop where
  opened : alert.state = .OPEN → ∃ previous, [previous, obs] <:+ before ++ [obs] ∧
    previous.isBad = true ∧ obs.isBad = true ∧ alert.firstTick = previous.tick
  resolved : alert.state = .RESOLVED → ∃ last, last.length = 3 ∧ last <:+ before ++ [obs] ∧
    ∀ obs ∈ last, obs.quality = .GOOD

/-- Every quality alert rests on observations that follow one another, and bad ones
that do not never open one. -/
structure ConsecutiveQualityEvidence (sensor : Sensor R) (ids : Nat → AnalysisIds)
    (observations : List (Observation R)) : Prop where
  evidence : Recorded (fun before obs => ∀ alert ∈ emittedAfter sensor ids before obs,
    alert.origin = .DATA_QUALITY → QualityEvidence before obs alert) observations
  isolated : ¬ [true, true] <:+: qualities observations → Recorded (fun before obs =>
    ∀ alert ∈ emittedAfter sensor ids before obs, alert.origin = .DATA_QUALITY → alert.state ≠ .OPEN)
      observations

omit [LabNumber R] in
theorem pair_suffix_cases {previous : Observation R} : [previous, obs] <:+ before ++ [obs] ↔
    [previous] <:+ before := by
  rw [show [previous, obs] = [previous] ++ [obs] from rfl]
  exact (List.suffix_append_inj_of_length_eq rfl).trans (and_iff_left rfl)

/-- The quality alerts of an observation rest on what they should unless its counter
has been left standing. -/
theorem EvaluatedAfter.quality_evidence_iff {quality limit : Option LabAlert}
    (ran : EvaluatedAfter sensor ids before obs quality limit) (ticks : ConsecutiveTicks (before ++ [obs]))
    (agrees : QualityAgrees (qualities before) (analyse sensor ids before)) :
    (∀ alert ∈ emittedAfter sensor ids before obs, alert.origin = .DATA_QUALITY →
      QualityEvidence before obs alert) ↔
        (obs.isBad = true → BadUnanswered (qualities before) → [true] <:+ qualities before) := by
  constructor
  · intro evidence bad unanswered
    have quiet : (analyse sensor ids before).activeQualityAlert = none := by
      cases held : (analyse sensor ids before).activeQualityAlert with
      | none => rfl
      | some alert => exact absurd unanswered (not_badUnanswered (agrees.active.mp (by rw [held]; rfl)))
    have counted := (agrees.waiting quiet).mpr unanswered
    obtain ⟨-, emits, outcome, -, -, -⟩ := ran
    cases outcome with
    | opened alert _ _ _ opens =>
        have mem : alert ∈ emittedAfter sensor ids before obs := by
          rw [emits]
          exact List.mem_append_left _ List.mem_cons_self
        obtain ⟨previous, pair, first, -⟩ := (evidence alert mem opens.origin).opened opens.state
        have last := (pair_suffix_cases.mp pair).map Observation.isBad
        rwa [List.map_singleton, first] at last
    | counted _ waits => exact absurd ⟨counted, quiet⟩ waits
    | resolved _ good | passed good => rw [bad] at good; cases good
  · intro row alert mem origin
    have counts := ran.counts
    obtain ⟨-, emits, outcome, -, -, limit_origin⟩ := ran
    rw [emits] at mem
    rcases List.mem_append.mp mem with mem | mem
    · cases outcome with
      | opened _ bad counted quiet opens =>
          obtain rfl := List.mem_singleton.mp mem
          obtain ⟨last, suffix, read⟩ := List.suffix_map_iff.mp (row bad ((agrees.waiting quiet).mp counted))
          obtain ⟨previous, rfl⟩ : ∃ previous, last = [previous] :=
            List.length_eq_one_iff.mp (by simpa using (congrArg List.length read).symm)
          have pair : [previous, obs] <:+ before ++ [obs] := pair_suffix_cases.mpr suffix
          have second : obs.tick = previous.tick + 20 := by
            simpa using (ticks.suffix pair : List.IsChain _ [previous, obs])
          have first := opens.first
          refine ⟨fun _ => ⟨previous, pair, by simpa using read.symm, bad, by omega⟩, fun resolved => ?_⟩
          rw [opens.state] at resolved
          cases resolved
      | counted | passed => cases mem
      | resolved held good counted =>
          obtain rfl := List.mem_singleton.mp mem
          refine ⟨nofun, fun _ => ?_⟩
          have three : List.replicate 3 false <:+ qualities (before ++ [obs]) := by
            rw [qualities_concat, good]
            exact (streak_concat_same counts.goodStreak 3).mpr (by omega)
          obtain ⟨last, suffix, read⟩ := List.suffix_map_iff.mp three
          refine ⟨last, by simpa using (congrArg List.length read).symm, suffix, fun obs mem => ?_⟩
          have each : obs.isBad ∈ last.map Observation.isBad := List.mem_map_of_mem mem
          rw [← read] at each
          exact isBad_eq_false_iff.mp (List.eq_of_mem_replicate each)
    · have other := limit_origin alert (by simpa using mem)
      rw [origin] at other
      cases other

/-- The counters agree with the latch as long as bad observations come in a row. -/
theorem quality_agrees (sensor : Sensor R) (ids : Nat → AnalysisIds) (ticks : ConsecutiveTicks observations)
    (row : BadInARow (qualities observations)) :
    QualityAgrees (qualities observations) (analyse sensor ids observations) := by
  induction observations using List.reverseRecOn with
  | nil =>
      have off : ¬ qualityLatch.On [] := fun on => by simpa [qualityLatch] using Latch.on_nil_iff.mp on
      refine ⟨iff_of_false (by simp [analyse, SensorAnalysisState.new]) off, fun _ => ?_⟩
      exact iff_of_false (by simp [analyse, SensorAnalysisState.new]) not_badUnanswered_nil
  | append_singleton before obs ih =>
      rw [qualities_concat] at row ⊢
      obtain ⟨earlier, here⟩ := recorded_concat_iff.mp row
      obtain ⟨quality, limit, ran⟩ := evaluatedAfter_outcome sensor ids ticks
      exact (ih ticks.earlier earlier).step ran.counts.goodStreak ran.onQuality here

/-- Data quality alerts rest on observations that follow one another exactly when no
bad observation comes behind good ones while the last one before it left no alert open. -/
theorem quality_alerts_consecutive_iff (sensor : Sensor R) (ids : Nat → AnalysisIds)
    (ticks : ConsecutiveTicks observations) :
    ConsecutiveQualityEvidence sensor ids observations ↔ BadInARow (qualities observations) := by
  have evidence : Recorded (fun before obs => ∀ alert ∈ emittedAfter sensor ids before obs,
      alert.origin = .DATA_QUALITY → QualityEvidence before obs alert) observations ↔
        BadInARow (qualities observations) := by
    induction observations using List.reverseRecOn with
    | nil => exact iff_of_true recorded_nil recorded_nil
    | append_singleton before obs ih =>
        have before_ticks := ticks.earlier
        have ih := ih before_ticks
        obtain ⟨quality, limit, ran⟩ := evaluatedAfter_outcome sensor ids ticks
        unfold BadInARow at *
        rw [qualities_concat, recorded_concat_iff, recorded_concat_iff, ih]
        exact and_congr_right fun row => ran.quality_evidence_iff ticks (quality_agrees sensor ids before_ticks row)
  refine ⟨fun holds => evidence.mp holds.evidence, fun row => ⟨evidence.mpr row, ?_⟩⟩
  rintro apart before obs after rfl alert mem origin opened
  obtain ⟨previous, pair, first, second, -⟩ := (evidence.mpr row before obs after rfl alert mem origin).opened opened
  have bads := (pair.map Observation.isBad).isInfix
  refine apart ?_
  have inside : before ++ [obs] <+: before ++ obs :: after := ⟨after, by simp⟩
  have all := bads.trans (inside.map Observation.isBad).isInfix
  rwa [List.map_cons, List.map_singleton, first, second] at all

/-! ### Two runs -/

/-- A sensor of the pressure behind a compressor. -/
def outletSensor : Sensor ℚ := ⟨7, .pressure ⟨1, .OUT⟩, 0, some 250000, some 850000⟩

/-- Its observation, `MISSING` without a value. -/
def outletObservation (tick : Nat) (value : Option ℚ) : Observation ℚ where
  runId := 2
  assetId := 1
  sensorId := 7
  tick
  unit := .pa
  value
  quality := if value.isSome then .GOOD else .MISSING
  profileDigest := 3

def numberedIds (place : Nat) : AnalysisIds := ⟨4 * place, 4 * place + 1, 4 * place + 2, 4 * place + 3⟩

/-- Two missing observations in a row, and three good ones. -/
def outage : List (Observation ℚ) := [outletObservation 20 none, outletObservation 40 none,
  outletObservation 60 (some 400000), outletObservation 80 (some 400000), outletObservation 100 (some 400000)]

theorem outage_badInARow : BadInARow (qualities outage) := by
  show Recorded _ ((((([] ++ [true]) ++ [true]) ++ [false]) ++ [false]) ++ [false])
  simp only [recorded_concat_iff]
  simp [recorded_nil, not_badUnanswered_nil]

theorem outage_consecutive : ConsecutiveQualityEvidence outletSensor numberedIds outage ∧
    emittedAfter outletSensor numberedIds (outage.take 1) (outletObservation 40 none) ≠ [] :=
  ⟨(quality_alerts_consecutive_iff outletSensor numberedIds (by simp [ConsecutiveTicks, outage, outletObservation])).mpr
    outage_badInARow, by decide +kernel⟩

/-- A missing observation, a good one and another missing one open an alert. -/
theorem isolatedMissing_opens : ∃ observations : List (Observation ℚ), ConsecutiveTicks observations ∧
    ¬ ConsecutiveQualityEvidence outletSensor numberedIds observations := by
  refine ⟨[outletObservation 20 none, outletObservation 40 (some 400000), outletObservation 60 none],
    by simp [ConsecutiveTicks, outletObservation], fun holds => ?_⟩
  have emitted : (emittedAfter outletSensor numberedIds
      [outletObservation 20 none, outletObservation 40 (some 400000)] (outletObservation 60 none)).map
        (fun alert => (alert.origin, alert.state)) = [(.DATA_QUALITY, .OPEN)] := by
    decide +kernel
  obtain ⟨alert, only, same⟩ := List.map_eq_singleton_iff.mp emitted
  obtain ⟨origin, opened⟩ := Prod.mk.inj same
  exact holds.isolated (by decide) _ _ [] rfl alert (only ▸ List.mem_cons_self) origin opened

end IndustrialReliability
