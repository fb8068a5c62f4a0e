import Mathlib.Data.List.Chain
import IndustrialReliability.Lab.Analysis
import IndustrialReliability.Lib.Logs

/-!
What an evaluation of a sensor does.

`QualityOutcome` and `LimitOutcome` list what the two rules do to their counters and
what they emit. From them the counters are read off the history (`Counts`): the rule
of process limits counts over observations near a limit and over bad ones, so what it
counts need not follow one another.
-/

namespace IndustrialReliability

open SensorAnalysis Lib

/-- How the rules see an observation. -/
inductive Reading where
  | bad | above | below | inside | near
deriving DecidableEq, Repr

variable {R : Type} [LabNumber R] {sensor : Sensor R} {ids : Nat → AnalysisIds}
  {obs : Observation R} {before observations : List (Observation R)}
  {state state' : SensorAnalysisState R}

/-- `quality in ("MISSING", "INVALID")`. -/
def Observation.isBad (obs : Observation R) : Bool :=
  decide (obs.quality = .MISSING ∨ obs.quality = .INVALID)

/-- A `GOOD` observation without a value is near the limits: it changes no counter of
violations. -/
def reading (sensor : Sensor R) (obs : Observation R) : Reading :=
  if obs.isBad then .bad
  else match obs.value with
    | none => .near
    | some value =>
        if isAbove sensor value then .above
        else if isBelow sensor value then .below
        else if isSafelyInside sensor value then .inside
        else .near

/-- One of the two limits of a sensor. -/
inductive Limit where
  | high | low
deriving DecidableEq, Repr

namespace Limit

def reading : Limit → Reading
  | high => .above
  | low => .below

def kind : Limit → AlertKind
  | high => .ABOVE_LIMIT
  | low => .BELOW_LIMIT

def other : Limit → Limit
  | high => low
  | low => high

/-- The counter of the violations of a limit. -/
def violations (state : SensorAnalysisState R) : Limit → Nat
  | high => state.highViolations
  | low => state.lowViolations

end Limit

omit [LabNumber R] in
theorem isBad_eq_false_iff : obs.isBad = false ↔ obs.quality = .GOOD := by
  unfold Observation.isBad
  cases obs.quality <;> simp

/-! ### What an evaluation does -/

/-- An alert as it is opened. -/
structure Opened (obs : Observation R) (origin : AlertOrigin) (window : Nat) (alert : LabAlert) : Prop where
  origin : alert.origin = origin
  state : alert.state = .OPEN
  first : alert.firstTick + window = obs.tick

/-- What an evaluation does by the data quality rule, and the alert it emits by it. -/
inductive QualityOutcome (obs : Observation R) (state state' : SensorAnalysisState R) :
    Option LabAlert → Prop where
  | opened (alert : LabAlert) (bad : obs.isBad = true) (counted : 1 ≤ state.badQualityStreak)
      (quiet : state.activeQualityAlert = none) (opens : Opened obs .DATA_QUALITY 20 alert)
      (badStreak : state'.badQualityStreak = state.badQualityStreak + 1)
      (goodStreak : state'.goodQualityStreak = 0)
      (active : state'.activeQualityAlert = some alert) : QualityOutcome obs state state' (some alert)
  | counted (bad : obs.isBad = true)
      (waits : ¬ (1 ≤ state.badQualityStreak ∧ state.activeQualityAlert = none))
      (badStreak : state'.badQualityStreak = state.badQualityStreak + 1)
      (goodStreak : state'.goodQualityStreak = 0)
      (active : state'.activeQualityAlert = state.activeQualityAlert) : QualityOutcome obs state state' none
  | resolved (alert : LabAlert) (good : obs.isBad = false) (counted : 2 ≤ state.goodQualityStreak)
      (raised : state.activeQualityAlert = some alert)
      (badStreak : state'.badQualityStreak = 0)
      (goodStreak : state'.goodQualityStreak = state.goodQualityStreak + 1)
      (active : state'.activeQualityAlert = none) :
      QualityOutcome obs state state' (some (resolveAlert obs alert))
  | passed (good : obs.isBad = false)
      (waits : 2 ≤ state.goodQualityStreak → state.activeQualityAlert = none)
      (badStreak : state'.badQualityStreak = state.badQualityStreak)
      (goodStreak : state'.goodQualityStreak = state.goodQualityStreak + 1)
      (active : state'.activeQualityAlert = state.activeQualityAlert) : QualityOutcome obs state state' none

/-- What an evaluation does by the process limit rule, and the alert it emits by it. -/
inductive LimitOutcome (sensor : Sensor R) (obs : Observation R) (state state' : SensorAnalysisState R) :
    Option LabAlert → Prop where
  | bad (read : reading sensor obs = .bad)
      (violations : ∀ limit : Limit, limit.violations state' = limit.violations state)
      (normal : state'.normalStreak = 0)
      (active : state'.activeProcessAlert = state.activeProcessAlert) :
      LimitOutcome sensor obs state state' none
  | near (read : reading sensor obs = .near)
      (violations : ∀ limit : Limit, limit.violations state' = limit.violations state)
      (normal : state'.normalStreak = state.normalStreak)
      (active : state'.activeProcessAlert = state.activeProcessAlert) :
      LimitOutcome sensor obs state state' none
  | opened (limit : Limit) (alert : LabAlert) (read : reading sensor obs = limit.reading)
      (counted : 2 ≤ limit.violations state) (quiet : state.activeProcessAlert = none)
      (opens : Opened obs .PROCESS_LIMIT 40 alert) (kind : alert.kind = limit.kind)
      (violations : limit.violations state' = limit.violations state + 1)
      (others : limit.other.violations state' = 0)
      (normal : state'.normalStreak = 0)
      (active : state'.activeProcessAlert = some alert) : LimitOutcome sensor obs state state' (some alert)
  | violated (limit : Limit) (read : reading sensor obs = limit.reading)
      (waits : ¬ (2 ≤ limit.violations state ∧ state.activeProcessAlert = none))
      (violations : limit.violations state' = limit.violations state + 1)
      (others : limit.other.violations state' = 0)
      (normal : state'.normalStreak = 0)
      (active : state'.activeProcessAlert = state.activeProcessAlert) :
      LimitOutcome sensor obs state state' none
  | resolved (alert : LabAlert) (read : reading sensor obs = .inside)
      (counted : 4 ≤ state.normalStreak) (raised : state.activeProcessAlert = some alert)
      (violations : ∀ limit : Limit, limit.violations state' = 0)
      (normal : state'.normalStreak = state.normalStreak + 1)
      (active : state'.activeProcessAlert = none) :
      LimitOutcome sensor obs state state' (some (resolveAlert obs alert))
  | inside (read : reading sensor obs = .inside)
      (waits : 4 ≤ state.normalStreak → state.activeProcessAlert = none)
      (violations : ∀ limit : Limit, limit.violations state' = 0)
      (normal : state'.normalStreak = state.normalStreak + 1)
      (active : state'.activeProcessAlert = state.activeProcessAlert) :
      LimitOutcome sensor obs state state' none

omit [LabNumber R] in
theorem openAlert_eq_ok (id : UUID) (sensor : Sensor R) (origin : AlertOrigin) (kind : AlertKind)
    {window : Nat} (late : window ≤ obs.tick) : ∃ alert, openAlert id obs sensor origin kind window = .ok alert ∧
      Opened obs origin window alert ∧ alert.kind = kind := by
  unfold openAlert
  rw [if_neg (by omega)]
  exact ⟨_, rfl, ⟨rfl, rfl, Nat.sub_add_cancel late⟩, rfl⟩

/-- The evaluation goes through, by an outcome of each rule. -/
structure Evaluated (sensor : Sensor R) (obs : Observation R) (state : SensorAnalysisState R)
    (evaluation : Evaluation R) (quality limit : Option LabAlert) : Prop where
  emits : ∃ events, evaluation.2 = .ok ⟨quality.toList ++ limit.toList, events⟩
  quality : QualityOutcome obs state evaluation.1 quality
  limit : LimitOutcome sensor obs state evaluation.1 limit

theorem evaluateBad_evaluated (id : AnalysisIds) (sensor : Sensor R) (state : SensorAnalysisState R)
    (bad : obs.isBad = true) (late : 1 ≤ state.badQualityStreak → 20 ≤ obs.tick) :
    ∃ quality, Evaluated sensor obs state (evaluateBad id obs sensor state) quality none := by
  have read : reading sensor obs = .bad := if_pos bad
  have others : ∀ {s : SensorAnalysisState R}, s.highViolations = state.highViolations →
      s.lowViolations = state.lowViolations → s.normalStreak = 0 →
      s.activeProcessAlert = state.activeProcessAlert → LimitOutcome sensor obs state s none := by
    intro s high low normal active
    exact .bad read (fun limit => by cases limit <;> assumption) normal active
  unfold evaluateBad
  dsimp only
  by_cases opens : 2 ≤ state.badQualityStreak + 1 ∧ state.activeQualityAlert.isNone = true
  · obtain ⟨counted, quiet⟩ := opens
    obtain ⟨alert, made, opened, -⟩ := openAlert_eq_ok id.qualityAlert sensor .DATA_QUALITY
      (if obs.quality = .MISSING then .MISSING else .INVALID) (late (by omega))
    rw [if_pos ⟨counted, quiet⟩, made]
    exact ⟨some alert, ⟨_, rfl⟩, .opened alert bad (by omega) (Option.isNone_iff_eq_none.mp quiet) opened
      rfl rfl rfl, others rfl rfl rfl rfl⟩
  · rw [if_neg opens]
    refine ⟨none, ⟨_, rfl⟩, .counted bad ?_ rfl rfl rfl, others rfl rfl rfl rfl⟩
    rintro ⟨counted, quiet⟩
    exact opens ⟨by omega, Option.isNone_iff_eq_none.mpr quiet⟩

/-- The fields that the process limit rule reads and writes are the same. -/
structure SameLimits (state state' : SensorAnalysisState R) : Prop where
  violations : ∀ limit : Limit, limit.violations state' = limit.violations state
  normal : state'.normalStreak = state.normalStreak
  active : state'.activeProcessAlert = state.activeProcessAlert

/-- The fields that the data quality rule reads and writes are the same. -/
structure SameQuality (state state' : SensorAnalysisState R) : Prop where
  badStreak : state'.badQualityStreak = state.badQualityStreak
  goodStreak : state'.goodQualityStreak = state.goodQualityStreak
  active : state'.activeQualityAlert = state.activeQualityAlert

omit [LabNumber R] in
theorem evaluateGood_outcome (id : AnalysisIds) (state : SensorAnalysisState R)
    (good : obs.isBad = false) : ∃ quality events,
    (evaluateGood id obs state).2 = ⟨quality.toList, events⟩ ∧
      QualityOutcome obs state (evaluateGood id obs state).1 quality ∧
      SameLimits state (evaluateGood id obs state).1 := by
  unfold evaluateGood
  dsimp only
  cases active : state.activeQualityAlert with
  | none =>
      exact ⟨none, [], rfl, .passed good (fun _ => active) rfl rfl active.symm,
        fun limit => by cases limit <;> rfl, rfl, rfl⟩
  | some alert =>
      by_cases resolves : 3 ≤ state.goodQualityStreak + 1
      · simp only [if_pos resolves]
        exact ⟨some (resolveAlert obs alert), _, rfl,
          .resolved alert good (by omega) active rfl rfl rfl, fun limit => by cases limit <;> rfl, rfl, rfl⟩
      · simp only [if_neg resolves]
        exact ⟨none, [], rfl, .passed good (fun counted => absurd counted (by omega)) rfl rfl active.symm,
          fun limit => by cases limit <;> rfl, rfl, rfl⟩

/-- What the process limit rule does after the data quality rule has emitted. -/
structure LimitEvaluated (sensor : Sensor R) (obs : Observation R) (state : SensorAnalysisState R)
    (emitted : Emitted) (evaluation : Evaluation R) (limit : Option LabAlert) : Prop where
  emits : ∃ events, evaluation.2 = .ok ⟨emitted.alerts ++ limit.toList, events⟩
  outcome : LimitOutcome sensor obs state evaluation.1 limit
  quality : SameQuality state evaluation.1

omit [LabNumber R] in
theorem emits_nothing (emitted : Emitted) : ∃ events, (Except.ok emitted : Except AnalysisError Emitted) =
    .ok ⟨emitted.alerts ++ (none : Option LabAlert).toList, events⟩ :=
  ⟨emitted.events, by rw [Option.toList_none, List.append_nil]⟩

/-- A violation of a limit, counted in the state that it leaves. -/
theorem evaluateViolation_evaluated (id : AnalysisIds) (emitted : Emitted) (limit : Limit)
    (read : reading sensor obs = limit.reading) {counted : SensorAnalysisState R}
    (quality : SameQuality state counted)
    (violations : limit.violations counted = limit.violations state + 1)
    (others : limit.other.violations counted = 0) (normal : counted.normalStreak = 0)
    (active : counted.activeProcessAlert = state.activeProcessAlert)
    (late : 2 ≤ limit.violations state → 40 ≤ obs.tick) : ∃ alert, LimitEvaluated sensor obs state emitted
      (evaluateViolation id obs sensor limit.kind (limit.violations counted) counted emitted) alert := by
  unfold evaluateViolation
  by_cases opens : 3 ≤ limit.violations counted ∧ counted.activeProcessAlert.isNone = true
  · obtain ⟨three, quiet⟩ := opens
    obtain ⟨alert, made, opened, kind⟩ := openAlert_eq_ok id.processAlert sensor .PROCESS_LIMIT limit.kind
      (late (by omega))
    rw [if_pos ⟨three, quiet⟩, made]
    rw [active] at quiet
    refine ⟨some alert, ⟨_, rfl⟩, .opened limit alert read (by omega) (Option.isNone_iff_eq_none.mp quiet)
      opened kind ?_ ?_ normal rfl, quality.badStreak, quality.goodStreak, quality.active⟩
    · cases limit <;> exact violations
    · cases limit <;> exact others
  · rw [if_neg opens]
    refine ⟨none, emits_nothing emitted, .violated limit read ?_ violations others normal active, quality⟩
    rintro ⟨two, quiet⟩
    exact opens ⟨by omega, by rw [active, quiet]; rfl⟩

theorem evaluateInside_evaluated (id : AnalysisIds) (emitted : Emitted)
    (read : reading sensor obs = .inside) :
    ∃ alert, LimitEvaluated sensor obs state emitted (evaluateInside id obs state emitted) alert := by
  unfold evaluateInside
  dsimp only
  have none_left : ∀ limit : Limit, ∀ s : SensorAnalysisState R, s.highViolations = 0 →
      s.lowViolations = 0 → limit.violations s = 0 := by
    intro limit s high low
    cases limit <;> assumption
  cases active : state.activeProcessAlert with
  | none =>
      exact ⟨none, emits_nothing emitted, .inside read (fun _ => active)
        (fun limit => none_left limit _ rfl rfl) rfl active.symm, rfl, rfl, rfl⟩
  | some alert =>
      by_cases resolves : 5 ≤ state.normalStreak + 1
      · simp only [if_pos resolves]
        exact ⟨some (resolveAlert obs alert), ⟨_, rfl⟩, .resolved alert read (by omega) active
          (fun limit => none_left limit _ rfl rfl) rfl rfl, rfl, rfl, rfl⟩
      · simp only [if_neg resolves]
        exact ⟨none, emits_nothing emitted, .inside read (fun counted => absurd counted (by omega))
          (fun limit => none_left limit _ rfl rfl) rfl active.symm, rfl, rfl, rfl⟩

theorem evaluateLimits_evaluated (id : AnalysisIds) (sensor : Sensor R) (state : SensorAnalysisState R)
    (emitted : Emitted) {value : R} (good : obs.isBad = false) (held : obs.value = some value)
    (late : ∀ limit : Limit, 2 ≤ limit.violations state → 40 ≤ obs.tick) : ∃ alert,
      LimitEvaluated sensor obs state emitted (evaluateLimits id obs sensor value state emitted) alert := by
  have read : reading sensor obs =
      if isAbove sensor value then .above else if isBelow sensor value then .below
      else if isSafelyInside sensor value then .inside else .near := by
    unfold reading
    rw [if_neg (by simp [good]), held]
  unfold evaluateLimits
  split_ifs with above below inside
  · rw [if_pos above] at read
    exact evaluateViolation_evaluated id emitted .high read ⟨rfl, rfl, rfl⟩ rfl rfl rfl rfl (late .high)
  · rw [if_neg above, if_pos below] at read
    exact evaluateViolation_evaluated id emitted .low read ⟨rfl, rfl, rfl⟩ rfl rfl rfl rfl (late .low)
  · rw [if_neg above, if_neg below, if_pos inside] at read
    exact evaluateInside_evaluated id emitted read
  · rw [if_neg above, if_neg below, if_neg inside] at read
    exact ⟨none, emits_nothing emitted, .near read (fun _ => rfl) rfl rfl, rfl, rfl, rfl⟩

omit [LabNumber R] in
/-- What is remembered is read by no rule. -/
theorem remember_same (state : SensorAnalysisState R) (obs : Observation R) :
    SameLimits state (remember state obs) ∧ SameQuality state (remember state obs) :=
  ⟨⟨fun limit => by cases limit <;> rfl, rfl, rfl⟩, rfl, rfl, rfl⟩

omit [LabNumber R] in
theorem QualityOutcome.congr {alert : Option LabAlert} {first last : SensorAnalysisState R}
    (outcome : QualityOutcome obs first last alert) (start : SameQuality state first)
    (leaves : SameQuality last state') : QualityOutcome obs state state' alert := by
  obtain ⟨badStreak, goodStreak, active⟩ := start
  obtain ⟨badStreak', goodStreak', active'⟩ := leaves
  cases outcome with
  | opened alert bad counted quiet opens bads goods raised =>
      exact .opened alert bad (badStreak ▸ counted) (active ▸ quiet) opens (by rw [badStreak', bads, badStreak])
        (goodStreak'.trans goods) (active'.trans raised)
  | counted bad waits bads goods kept =>
      exact .counted bad (by rwa [badStreak, active] at waits) (by rw [badStreak', bads, badStreak])
        (goodStreak'.trans goods) (by rw [active', kept, active])
  | resolved alert good counted raised bads goods quiet =>
      exact .resolved alert good (goodStreak ▸ counted) (active ▸ raised) (badStreak'.trans bads)
        (by rw [goodStreak', goods, goodStreak]) (active'.trans quiet)
  | passed good waits bads goods kept =>
      exact .passed good (by rwa [goodStreak, active] at waits) (by rw [badStreak', bads, badStreak])
        (by rw [goodStreak', goods, goodStreak]) (by rw [active', kept, active])

theorem LimitOutcome.congr {alert : Option LabAlert} {first : SensorAnalysisState R}
    (outcome : LimitOutcome sensor obs first state' alert) (start : SameLimits state first) :
    LimitOutcome sensor obs state state' alert := by
  obtain ⟨violations, normal, active⟩ := start
  cases outcome with
  | bad read counted normals kept =>
      exact .bad read (fun limit => (counted limit).trans (violations limit)) normals (kept.trans active)
  | near read counted normals kept =>
      exact .near read (fun limit => (counted limit).trans (violations limit)) (normals.trans normal)
        (kept.trans active)
  | opened limit alert read two quiet opens kind counted others normals raised =>
      exact .opened limit alert read (violations limit ▸ two) (active ▸ quiet) opens kind
        (by rw [counted, violations]) others normals raised
  | violated limit read waits counted others normals kept =>
      exact .violated limit read (by rwa [violations, active] at waits) (by rw [counted, violations]) others
        normals (kept.trans active)
  | resolved alert read four raised counted normals quiet =>
      exact .resolved alert read (normal ▸ four) (active ▸ raised) counted (by rw [normals, normal]) quiet
  | inside read waits counted normals kept =>
      exact .inside read (by rwa [normal, active] at waits) counted (by rw [normals, normal])
        (kept.trans active)

/-- An evaluation goes through when the ticks reach back as far as the counters. -/
theorem evaluated (id : AnalysisIds) (qualityLate : 1 ≤ state.badQualityStreak → 20 ≤ obs.tick)
    (limitLate : ∀ limit : Limit, 2 ≤ limit.violations state → 40 ≤ obs.tick) : ∃ quality limit,
      Evaluated sensor obs state (evaluateSensorObservation id obs sensor state) quality limit := by
  obtain ⟨sameLimits, sameQuality⟩ := remember_same state obs
  unfold evaluateSensorObservation
  dsimp only
  cases bad : obs.isBad with
  | true =>
      rw [if_pos (of_decide_eq_true bad)]
      obtain ⟨quality, emits, outcome, limit⟩ := evaluateBad_evaluated id sensor
        (remember state obs) bad qualityLate
      exact ⟨quality, none, emits, outcome.congr sameQuality ⟨rfl, rfl, rfl⟩, limit.congr sameLimits⟩
  | false =>
      rw [if_neg (of_decide_eq_false bad)]
      obtain ⟨quality, events, emits, outcome, kept⟩ :=
        evaluateGood_outcome id (remember state obs) bad
      have unchanged : SameLimits state (evaluateGood id obs (remember state obs)).1 :=
        ⟨fun limit => (kept.violations limit).trans (sameLimits.violations limit),
          kept.normal.trans sameLimits.normal, kept.active.trans sameLimits.active⟩
      cases held : obs.value with
      | none =>
          refine ⟨quality, none, ⟨events, ?_⟩, outcome.congr sameQuality ⟨rfl, rfl, rfl⟩,
            .near ?_ unchanged.violations unchanged.normal unchanged.active⟩
          · rw [emits, Option.toList_none, List.append_nil]
          · unfold reading
            rw [if_neg (by simp [bad]), held]
      | some value =>
          obtain ⟨limit, ⟨later, result⟩, limits, quietly⟩ := evaluateLimits_evaluated id sensor
            (evaluateGood id obs (remember state obs)).1 (evaluateGood id obs (remember state obs)).2 bad held
            fun limit two => limitLate limit (unchanged.violations limit ▸ two)
          have alerts : (evaluateGood id obs (remember state obs)).2.alerts = quality.toList := by rw [emits]
          rw [alerts] at result
          exact ⟨quality, limit, ⟨later, result⟩, outcome.congr sameQuality quietly, limits.congr unchanged⟩

/-! ### The history of the counters -/

/-- The observations are a second apart, which is twenty ticks. -/
def ConsecutiveTicks (observations : List (Observation R)) : Prop :=
  observations.IsChain fun earlier later => later.tick = earlier.tick + 20

def readings (sensor : Sensor R) (observations : List (Observation R)) : List Reading :=
  observations.map (reading sensor)

def qualities (observations : List (Observation R)) : List Bool := observations.map Observation.isBad

/-- What the counters of violations do not pass over. -/
def Reading.decides : Reading → Bool
  | .bad | .near => false
  | _ => true

/-- What the counter of observations inside does not pass over. -/
def Reading.isFar (reading : Reading) : Bool := decide (reading ≠ .near)

/-- The counters of a state, read off the history. -/
structure Counts (sensor : Sensor R) (log : List (Observation R)) (state : SensorAnalysisState R) : Prop where
  badStreak : state.badQualityStreak ≤ log.length
  goodStreak : ∀ n, List.replicate n false <:+ qualities log ↔ n ≤ state.goodQualityStreak
  violations : ∀ limit : Limit, ∀ n, List.replicate n limit.reading <:+
    (readings sensor log).filter Reading.decides ↔ n ≤ limit.violations state
  normal : ∀ n, List.replicate n .inside <:+ (readings sensor log).filter Reading.isFar ↔
    n ≤ state.normalStreak
  quality_origin : ∀ alert ∈ state.activeQualityAlert, alert.origin = .DATA_QUALITY
  process_origin : ∀ alert ∈ state.activeProcessAlert, alert.origin = .PROCESS_LIMIT

omit [LabNumber R] in
theorem ConsecutiveTicks.earlier (ticks : ConsecutiveTicks (before ++ [obs])) : ConsecutiveTicks before :=
  List.IsChain.left_of_append ticks

omit [LabNumber R] in
theorem ConsecutiveTicks.elapsed (ticks : ConsecutiveTicks (before ++ [obs])) :
    20 * before.length ≤ obs.tick := by
  induction before using List.reverseRecOn generalizing obs with
  | nil => exact Nat.zero_le _
  | append_singleton before last ih =>
      have earlier := ih ticks.earlier
      rw [ConsecutiveTicks, List.append_assoc] at ticks
      have later : obs.tick = last.tick + 20 := by
        simpa using (ticks.suffix (List.suffix_append _ _) : List.IsChain _ [last, obs])
      rw [List.length_append, List.length_singleton]
      omega

theorem Counts.violations_le {log : List (Observation R)} (counts : Counts sensor log state) (limit : Limit) :
    limit.violations state ≤ log.length := by
  have run := (counts.violations limit _).mpr le_rfl
  have short := (run.sublist.trans List.filter_sublist).length_le
  rwa [List.length_replicate, readings, List.length_map] at short

/-- The counters reach no further back than the first observation. -/
theorem Counts.evaluated (counts : Counts sensor before state) (ticks : ConsecutiveTicks (before ++ [obs]))
    (id : AnalysisIds) : ∃ quality limit,
      Evaluated sensor obs state (evaluateSensorObservation id obs sensor state) quality limit := by
  have elapsed := ticks.elapsed
  refine IndustrialReliability.evaluated id (fun counted => ?_) fun limit counted => ?_
  · have short := counts.badStreak
    omega
  · have short := counts.violations_le limit
    omega

theorem counts_new (sensor : Sensor R) : Counts sensor [] (.new sensor.sensorId) where
  badStreak := le_rfl
  goodStreak n := by simp [qualities, SensorAnalysisState.new]
  violations limit n := by cases limit <;> simp [readings, Limit.violations, SensorAnalysisState.new]
  normal n := by simp [readings, SensorAnalysisState.new]
  quality_origin _ held := nomatch held
  process_origin _ held := nomatch held

omit [LabNumber R] in
@[simp] theorem qualities_concat (before : List (Observation R)) (obs : Observation R) :
    qualities (before ++ [obs]) = qualities before ++ [obs.isBad] := List.map_append

@[simp] theorem readings_concat (before : List (Observation R)) (obs : Observation R) :
    readings sensor (before ++ [obs]) = readings sensor before ++ [reading sensor obs] := List.map_append

/-- The counters after one more observation. -/
theorem Counts.step {evaluation : Evaluation R} {quality limit : Option LabAlert}
    (counts : Counts sensor before state) (ran : Evaluated sensor obs state evaluation quality limit) :
    Counts sensor (before ++ [obs]) evaluation.1 where
  badStreak := by
    have short := counts.badStreak
    rw [List.length_append, List.length_singleton]
    cases ran.quality <;> omega
  goodStreak := by
    rw [qualities_concat]
    cases ran.quality with
    | opened alert bad _ _ _ _ goodStreak | counted bad _ _ goodStreak =>
        rw [bad, goodStreak]
        exact streak_concat_other (by simp)
    | resolved alert good _ _ _ goodStreak | passed good _ _ goodStreak =>
        rw [good, goodStreak]
        exact streak_concat_same counts.goodStreak
  violations limit' := by
    rw [readings_concat, List.filter_append]
    cases ran.limit with
    | bad read violations | near read violations =>
        rw [read, violations]
        simpa [Reading.decides] using counts.violations limit'
    | opened limit _ read _ _ _ _ violations others | violated limit read _ violations others =>
        have decides : [limit.reading].filter Reading.decides = [limit.reading] := by cases limit <;> rfl
        rw [read, decides]
        by_cases same : limit' = limit
        · subst same
          rw [violations]
          exact streak_concat_same (counts.violations _)
        · have other : limit' = limit.other := by cases limit <;> cases limit' <;> trivial
          rw [other, others]
          exact streak_concat_other (by cases limit <;> simp [Limit.reading, Limit.other])
    | resolved _ read _ _ violations | inside read _ violations =>
        rw [read, violations]
        exact streak_concat_other (by cases limit' <;> simp [Limit.reading])
  normal := by
    rw [readings_concat, List.filter_append]
    cases ran.limit with
    | bad read _ normal =>
        rw [read, normal]
        exact streak_concat_other (by simp)
    | near read _ normal =>
        rw [read, normal]
        simpa [Reading.isFar] using counts.normal
    | opened limit _ read _ _ _ _ _ _ normal | violated limit read _ _ _ normal =>
        have far : [limit.reading].filter Reading.isFar = [limit.reading] := by cases limit <;> rfl
        rw [read, normal, far]
        exact streak_concat_other (by cases limit <;> simp [Limit.reading])
    | resolved _ read _ _ _ normal | inside read _ _ normal =>
        rw [read, normal]
        exact streak_concat_same counts.normal
  quality_origin alert held := by
    cases ran.quality with
    | opened _ _ _ _ opens _ _ active =>
        rw [active] at held
        cases held
        exact opens.origin
    | counted _ _ _ _ active | passed _ _ _ _ active =>
        rw [active] at held
        exact counts.quality_origin alert held
    | resolved _ _ _ _ _ _ active =>
        rw [active] at held
        cases held
  process_origin alert held := by
    cases ran.limit with
    | opened _ _ _ _ _ opens _ _ _ _ active =>
        rw [active] at held
        cases held
        exact opens.origin
    | bad _ _ _ active | near _ _ _ active | violated _ _ _ _ _ _ active | inside _ _ _ _ active =>
        rw [active] at held
        exact counts.process_origin alert held
    | resolved _ _ _ _ _ _ active =>
        rw [active] at held
        cases held

theorem analyse_concat (sensor : Sensor R) (ids : Nat → AnalysisIds) (before : List (Observation R))
    (obs : Observation R) : analyse sensor ids (before ++ [obs]) =
      (evaluateSensorObservation (ids before.length) obs sensor (analyse sensor ids before)).1 := by
  unfold analyse
  rw [List.zipIdx_append, List.foldl_append]
  simp

theorem counts_analyse (sensor : Sensor R) (ids : Nat → AnalysisIds) {log : List (Observation R)}
    (ticks : ConsecutiveTicks log) : Counts sensor log (analyse sensor ids log) := by
  induction log using List.reverseRecOn with
  | nil => exact counts_new sensor
  | append_singleton before obs ih =>
      have counts := ih ticks.earlier
      obtain ⟨quality, limit, ran⟩ := counts.evaluated ticks (ids before.length)
      rw [analyse_concat]
      exact counts.step ran

/-- The evaluation of an observation after those before it, by an outcome of each
rule; what the rules emit is told apart by the origin. -/
structure EvaluatedAfter (sensor : Sensor R) (ids : Nat → AnalysisIds) (before : List (Observation R))
    (obs : Observation R) (quality limit : Option LabAlert) : Prop where
  counts : Counts sensor before (analyse sensor ids before)
  emits : emittedAfter sensor ids before obs = quality.toList ++ limit.toList
  onQuality : QualityOutcome obs (analyse sensor ids before) (analyse sensor ids (before ++ [obs])) quality
  onLimit : LimitOutcome sensor obs (analyse sensor ids before) (analyse sensor ids (before ++ [obs])) limit
  quality_origin : ∀ alert ∈ quality, alert.origin = .DATA_QUALITY
  limit_origin : ∀ alert ∈ limit, alert.origin = .PROCESS_LIMIT

theorem evaluatedAfter_outcome (sensor : Sensor R) (ids : Nat → AnalysisIds)
    (ticks : ConsecutiveTicks (before ++ [obs])) :
    ∃ quality limit, EvaluatedAfter sensor ids before obs quality limit := by
  have counts := counts_analyse sensor ids ticks.earlier
  obtain ⟨quality, limit, ⟨events, emits⟩, onQuality, onLimit⟩ := counts.evaluated ticks (ids before.length)
  rw [← analyse_concat] at onQuality onLimit
  refine ⟨quality, limit, counts, ?_, onQuality, onLimit, ?_, ?_⟩
  · unfold emittedAfter evaluatedAfter
    rw [emits]
  · rintro alert mem
    cases onQuality with
    | opened _ _ _ _ opens =>
        cases mem
        exact opens.origin
    | counted | passed => cases mem
    | resolved held _ _ raised =>
        cases mem
        exact counts.quality_origin held raised
  · rintro alert mem
    cases onLimit with
    | opened _ _ _ _ _ opens =>
        cases mem
        exact opens.origin
    | bad | near | violated | inside => cases mem
    | resolved held _ _ raised =>
        cases mem
        exact counts.process_origin held raised

end IndustrialReliability
