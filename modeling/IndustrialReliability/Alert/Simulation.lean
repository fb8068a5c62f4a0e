import IndustrialReliability.Alert.Outcomes
import IndustrialReliability.Lib.Logs

/-!
The live alert machine against the calibration simulation.

The policy is chosen by running `simulateAlertStream` and executed by folding
`transition`. `Follows` relates the two states: the flag of the simulation is
"some alert is active", its last resolution is `resolvedAt` while no alert is
active, and the streaks are shared. `transition_follows` is the step of the
simulation argument and `foldTransition_ok` the run.

The machine does one thing the simulation does not: at every decision at which
an alert is active it builds the evidence of the decision, and `transition`
raises when an evidence value has no deviation the schema accepts
(`transition_raises`). `RaisedAndNotCooled` says, from the flags alone, at which
decisions that is.
-/

namespace IndustrialReliability

/-! ### When the simulation is active -/

/-- Some run of `persistence` anomalies is not followed by `cooldown` normal
windows in a row. -/
def RaisedAndNotCooled (persistence cooldown : Nat) (flags : List Bool) : Prop :=
  ∃ before after, flags = before ++ after ∧ List.replicate persistence true <:+ before ∧
    ¬ List.replicate cooldown false <:+: after

section Activity

variable {flags : List Bool}

/-- A run of normal windows at the end lies after the last anomaly. -/
theorem replicate_suffix_append {n persistence : Nat} {before after : List Bool}
    (positive : 0 < persistence) (raised : List.replicate persistence true <:+ before) :
    List.replicate n false <:+ before ++ after ↔ List.replicate n false <:+ after := by
  refine ⟨fun suffix => ?_, fun suffix => suffix.trans (List.suffix_append _ _)⟩
  obtain ⟨p, rfl⟩ := Nat.exists_eq_succ_of_ne_zero positive.ne'
  obtain ⟨front, rfl⟩ := raised
  have noAnomaly : true ∉ List.replicate n false := by simp
  have tail : true :: after <:+ front ++ List.replicate (p + 1) true ++ after :=
    ⟨front ++ List.replicate p true, by simp [List.replicate_succ']⟩
  rcases List.suffix_or_suffix_of_suffix suffix tail with inside | beyond
  · rcases List.suffix_cons_iff.mp inside with all | inside
    · exact absurd (all ▸ List.mem_cons_self) noAnomaly
    · exact inside
  · exact absurd (beyond.subset List.mem_cons_self) noAnomaly

theorem raisedAndNotCooled_true {persistence cooldown : Nat} (positive : 0 < cooldown) :
    RaisedAndNotCooled persistence cooldown (flags ++ [true]) ↔
      RaisedAndNotCooled persistence cooldown flags ∨
        List.replicate persistence true <:+ flags ++ [true] := by
  constructor
  · rintro ⟨before, after, split, raised, notCooled⟩
    rcases List.eq_nil_or_concat' after with rfl | ⟨after, last, rfl⟩
    · right
      simpa [split] using raised
    · left
      rw [← List.append_assoc] at split
      obtain ⟨rfl, -⟩ := List.append_inj' split rfl
      exact ⟨before, after, rfl, raised, fun cooled =>
        notCooled (cooled.trans (List.prefix_append _ _).isInfix)⟩
  · rintro (⟨before, after, rfl, raised, notCooled⟩ | raised)
    · refine ⟨before, after ++ [true], by simp, raised, fun cooled => ?_⟩
      rcases List.infix_concat_iff.mp cooled with atEnd | inside
      · exact absurd ((Lib.streak_concat_other (by simp) _).mp atEnd) (by omega)
      · exact notCooled inside
    · refine ⟨flags ++ [true], [], by simp, raised, fun cooled => ?_⟩
      have := List.eq_nil_of_infix_nil cooled
      simp only [List.replicate_eq_nil_iff] at this
      omega

theorem raisedAndNotCooled_false {persistence cooldown : Nat} (positive : 0 < persistence) :
    RaisedAndNotCooled persistence cooldown (flags ++ [false]) ↔
      RaisedAndNotCooled persistence cooldown flags ∧
        ¬ List.replicate cooldown false <:+ flags ++ [false] := by
  constructor
  · rintro ⟨before, after, split, raised, notCooled⟩
    rcases List.eq_nil_or_concat' after with rfl | ⟨after, last, rfl⟩
    · rw [List.append_nil] at split
      subst split
      exact absurd ((Lib.streak_concat_other (by simp) _).mp raised) (by omega)
    · rw [← List.append_assoc] at split
      obtain ⟨rfl, same⟩ := List.append_inj' split rfl
      obtain rfl : false = last := by simpa using same
      refine ⟨⟨before, after, rfl, raised, fun cooled => ?_⟩, fun cooled => ?_⟩
      · exact notCooled (cooled.trans (List.prefix_append _ _).isInfix)
      · rw [List.append_assoc, replicate_suffix_append positive raised] at cooled
        exact notCooled cooled.isInfix
  · rintro ⟨⟨before, after, rfl, raised, notCooled⟩, tail⟩
    refine ⟨before, after ++ [false], by simp, raised, fun cooled => ?_⟩
    rcases List.infix_concat_iff.mp cooled with atEnd | inside
    · rw [List.append_assoc, replicate_suffix_append positive raised] at tail
      exact tail atEnd
    · exact notCooled inside

end Activity

section Simulation

variable {persistence cooldown mergeGapSeconds : Int}

/-- Whether an onset at `ts` is merged into the episode resolved last. -/
def merges (mergeGapSeconds : Int) (lastResolution : Option Int) (ts : Int) : Bool :=
  lastResolution.any fun resolution =>
    decide (0 < mergeGapSeconds) && withinSeconds ts resolution mergeGapSeconds

/-- An anomalous window, field by field. -/
theorem simStep_anomaly (s : SimState) (ts : Int) :
    simStep persistence cooldown mergeGapSeconds s ⟨ts, true⟩ =
      let isActive := s.isActive || decide (persistence ≤ (s.anomalyStreak : Int) + 1)
      { isActive
        anomalyStreak := s.anomalyStreak + 1
        normalStreak := 0
        lastResolution := s.lastResolution
        episodes := s.episodes +
          if !s.isActive && isActive && !merges mergeGapSeconds s.lastResolution ts then 1 else 0
        alertWindowCount := s.alertWindowCount + if isActive then 1 else 0 } := by
  obtain ⟨active, anomalyStreak, normalStreak, lastResolution, episodes, count⟩ := s
  cases active with
  | true => rfl
  | false =>
      by_cases onset : persistence ≤ (anomalyStreak : Int) + 1
      · cases lastResolution with
        | none => simp [simStep, stepAnomaly, merges, onset]
        | some resolution =>
            by_cases merged : 0 < mergeGapSeconds ∧
                withinSeconds ts resolution mergeGapSeconds = true <;>
              simp [simStep, stepAnomaly, merges, onset, merged]
      · simp [simStep, stepAnomaly, onset]

/-- A normal window, field by field. -/
theorem simStep_normal (s : SimState) (ts : Int) :
    simStep persistence cooldown mergeGapSeconds s ⟨ts, false⟩ =
      let ended := s.isActive && decide (cooldown ≤ (s.normalStreak : Int) + 1)
      { isActive := s.isActive && !ended
        anomalyStreak := 0
        normalStreak := s.normalStreak + 1
        lastResolution := if ended then some ts else s.lastResolution
        episodes := s.episodes
        alertWindowCount := s.alertWindowCount + if s.isActive && !ended then 1 else 0 } := by
  obtain ⟨active, anomalyStreak, normalStreak, lastResolution, episodes, count⟩ := s
  cases active with
  | true =>
      by_cases ended : cooldown ≤ (normalStreak : Int) + 1 <;>
        simp [simStep, stepNormal, ended]
  | false => simp [simStep, stepNormal]

/-- Every window the simulation is active after is counted. -/
theorem simStep_alertWindowCount (s : SimState) (row : CalibrationRow) :
    (simStep persistence cooldown mergeGapSeconds s row).alertWindowCount = s.alertWindowCount +
      if (simStep persistence cooldown mergeGapSeconds s row).isActive then 1 else 0 := by
  obtain ⟨ts, anomaly⟩ := row
  cases anomaly with
  | true => rw [simStep_anomaly]
  | false => rw [simStep_normal]

/-- The number of windows a policy count asks for: one at least. -/
def windowsOf (count : Int) : Nat := max count.toNat 1

theorem windowsOf_pos (count : Int) : 0 < windowsOf count := by
  unfold windowsOf
  omega

theorem windowsOf_le_succ_iff {count : Int} {n : Nat} :
    windowsOf count ≤ n + 1 ↔ count ≤ (n : Int) + 1 := by
  unfold windowsOf
  omega

/-- What the loop variables say about the flags read so far. -/
structure Reflects (persistence cooldown : Nat) (flags : List Bool) (s : SimState) : Prop where
  anomalies : ∀ n, List.replicate n true <:+ flags ↔ n ≤ s.anomalyStreak
  normals : ∀ n, List.replicate n false <:+ flags ↔ n ≤ s.normalStreak
  active : s.isActive = true ↔ RaisedAndNotCooled persistence cooldown flags

theorem reflects_initial {persistence cooldown : Nat} (positive : 0 < persistence) :
    Reflects persistence cooldown [] .initial := by
  refine ⟨fun n => by simp [SimState.initial], fun n => by simp [SimState.initial], ?_⟩
  simp only [SimState.initial, Bool.false_eq_true, false_iff]
  rintro ⟨before, after, split, raised, -⟩
  obtain ⟨rfl, rfl⟩ := List.append_eq_nil_iff.mp split.symm
  have := List.suffix_nil.mp raised
  simp only [List.replicate_eq_nil_iff] at this
  omega

theorem Reflects.step {flags : List Bool} {s : SimState} (row : CalibrationRow)
    (reflects : Reflects (windowsOf persistence) (windowsOf cooldown) flags s) :
    Reflects (windowsOf persistence) (windowsOf cooldown) (flags ++ [row.isAnomaly])
      (simStep persistence cooldown mergeGapSeconds s row) := by
  obtain ⟨ts, anomaly⟩ := row
  cases anomaly with
  | true =>
      rw [simStep_anomaly]
      have streak := Lib.streak_concat_same reflects.anomalies
      refine ⟨streak, Lib.streak_concat_other (by simp), ?_⟩
      rw [raisedAndNotCooled_true (windowsOf_pos _), ← reflects.active, streak,
        windowsOf_le_succ_iff]
      simp only [Bool.or_eq_true, decide_eq_true_eq]
  | false =>
      rw [simStep_normal]
      have streak := Lib.streak_concat_same reflects.normals
      refine ⟨Lib.streak_concat_other (by simp), streak, ?_⟩
      rw [raisedAndNotCooled_false (windowsOf_pos _), ← reflects.active, streak,
        windowsOf_le_succ_iff]
      cases s.isActive <;> simp

end Simulation

/-! ### One transition -/

variable {F : Type} [PyFloat F]

def ScoreDecisionV1.calibrationRow (decision : ScoreDecisionV1 F) : CalibrationRow where
  windowEnd := decision.sourceTimestamp
  isAnomaly := decision.isAnomaly

def TransitionResult.action? (result : TransitionResult F) : Option AlertAction :=
  result.event.map (·.action)

/-- Every evidence value of the decision has a deviation the schema accepts. -/
def EvidenceConverts (decision : ScoreDecisionV1 F) : Prop :=
  ∀ ev ∈ decision.evidenceVector, Valid ev.deviation

instance (decision : ScoreDecisionV1 F) : Decidable (EvidenceConverts decision) := by
  unfold EvidenceConverts
  infer_instance

/-- What the messages of a transition need of the state to pass their schema. -/
structure AlertState.WellFormed (state : AlertState) : Prop where
  machine : 1 ≤ state.machineId.length
  detected : ∀ f ∈ state.firstDetection, ∃ last ∈ state.lastSourceTimestamp, f ≤ last
  activeSince : state.activeAlertId.isSome →
    ∃ f ∈ state.firstDetection, ∃ l ∈ state.lastDetection, f ≤ l
  activeDecisions : state.activeAlertId.isSome → state.anomalyDecisionIds ≠ []

/-- Without an active alert there is nothing to check of one. -/
theorem AlertState.wellFormed_of_inactive {state : AlertState}
    (machine : 1 ≤ state.machineId.length)
    (detected : ∀ f ∈ state.firstDetection, ∃ last ∈ state.lastSourceTimestamp, f ≤ last)
    (inactive : state.activeAlertId = none) : state.WellFormed :=
  ⟨machine, detected, by simp [inactive], by simp [inactive]⟩

theorem one_le_length_of_ne {name : String} (named : name ≠ "") : 1 ≤ name.length :=
  Nat.one_le_iff_ne_zero.mpr fun empty => named (String.length_eq_zero_iff.mp empty)

theorem AlertState.wellFormed_empty {session : UUID} {machineId : String}
    (named : 1 ≤ machineId.length) : (AlertState.empty session machineId).WellFormed := by
  constructor <;> simp [AlertState.empty, named]

theorem modelVersion_nonempty {decision : ScoreDecisionV1 F} (valid : Valid decision) :
    1 ≤ decision.modelVersion.length := by
  have := valid _ List.mem_cons_self
  simpa using this

section Emission

variable [Uuid5] {stamp : TransitionStamp} {state : AlertState} {decision : ScoreDecisionV1 F}
  {policy : LockedAlertPolicyV1 F} {action : AlertAction} {alertId : UUID} {firstDet lastDet : Int}
  {streak : Nat} {ids : List UUID}

/-- The evidence is built exactly when it converts. -/
theorem buildEvidenceSnapshot_eq_ok_iff (valid : Valid decision)
    {evidence : EvidenceSnapshotV1 F} :
    buildEvidenceSnapshot stamp alertId decision = .ok evidence ↔
      EvidenceConverts decision ∧
        evidence = evidenceSnapshot stamp alertId decision
          (decision.evidenceVector.map (·.deviation)) := by
  have elem : ∀ (ev : EvidenceValueV1 F) deviation, construct ev.deviation = .ok deviation ↔
      Valid ev.deviation ∧ deviation = ev.deviation := fun _ _ => construct_eq_ok_iff
  have versioned : ∀ deviations, Valid (evidenceSnapshot stamp alertId decision deviations) := by
    intro deviations check mem
    obtain rfl := List.mem_singleton.mp mem
    exact decide_eq_true (modelVersion_nonempty valid)
  unfold buildEvidenceSnapshot
  rw [Lib.bind_eq_ok_iff]
  constructor
  · rintro ⟨deviations, made, built⟩
    obtain ⟨converts, rfl⟩ := (Lib.mapM_eq_ok_iff elem).mp made
    exact ⟨converts, (construct_eq_ok_iff.mp built).2⟩
  · rintro ⟨converts, rfl⟩
    exact ⟨_, (Lib.mapM_eq_ok_iff elem).mpr ⟨converts, rfl⟩, construct_of_valid (versioned _)⟩

omit [PyFloat F] [Uuid5] in
theorem alertEvent_valid (named : 1 ≤ state.machineId.length) (nonempty : ids ≠ [])
    (ordered : firstDet ≤ lastDet) :
    Valid (alertEvent stamp state decision policy action alertId firstDet lastDet ids) := by
  have counted : 1 ≤ ids.length := List.length_pos_iff.mpr nonempty
  intro check mem
  simp only [FrozenMessage.checks, List.mem_cons, List.not_mem_nil, or_false] at mem
  rcases mem with rfl | rfl | rfl
  · exact decide_eq_true named
  · exact decide_eq_true counted
  · exact decide_eq_true ordered

/-- An emission with a well-formed event succeeds exactly when the evidence
converts. -/
theorem emitAnomalyResult_eq_ok_iff (named : 1 ≤ state.machineId.length) (nonempty : ids ≠ [])
    (ordered : firstDet ≤ decision.sourceTimestamp) (valid : Valid decision)
    {result : TransitionResult F} :
    emitAnomalyResult stamp state decision policy action alertId firstDet streak ids =
        .ok result ↔
      EvidenceConverts decision ∧ result =
        ⟨state.raised decision alertId firstDet streak ids,
          some (alertEvent stamp state decision policy action alertId firstDet
            decision.sourceTimestamp ids),
          some (evidenceSnapshot stamp alertId decision
            (decision.evidenceVector.map (·.deviation)))⟩ := by
  unfold emitAnomalyResult
  simp only [construct_of_valid (alertEvent_valid named nonempty ordered)]
  constructor
  · intro made
    obtain ⟨event, same, made⟩ := Lib.bind_eq_ok_iff.mp made
    obtain ⟨evidence, built, made⟩ := Lib.bind_eq_ok_iff.mp made
    obtain ⟨converts, rfl⟩ := (buildEvidenceSnapshot_eq_ok_iff valid).mp built
    cases same
    exact ⟨converts, (Lib.pure_eq_ok_iff.mp made).symm⟩
  · rintro ⟨converts, rfl⟩
    exact Lib.bind_eq_ok_iff.mpr ⟨_, rfl, Lib.bind_eq_ok_iff.mpr
      ⟨_, (buildEvidenceSnapshot_eq_ok_iff valid).mpr ⟨converts, rfl⟩, rfl⟩⟩

theorem emitAnomalyResult_ok (stamp : TransitionStamp) (policy : LockedAlertPolicyV1 F)
    (action : AlertAction) (alertId : UUID) (streak : Nat) (named : 1 ≤ state.machineId.length)
    (nonempty : ids ≠ []) (ordered : firstDet ≤ decision.sourceTimestamp) (valid : Valid decision)
    (converts : EvidenceConverts decision) :
    emitAnomalyResult stamp state decision policy action alertId firstDet streak ids =
      .ok ⟨state.raised decision alertId firstDet streak ids,
        some (alertEvent stamp state decision policy action alertId firstDet
          decision.sourceTimestamp ids),
        some (evidenceSnapshot stamp alertId decision
          (decision.evidenceVector.map (·.deviation)))⟩ :=
  (emitAnomalyResult_eq_ok_iff named nonempty ordered valid).mpr ⟨converts, rfl⟩

end Emission

/-! ### The simulation relation -/

/-- The live state and the loop variables agree. -/
structure Follows (state : AlertState) (s : SimState) : Prop where
  active : state.activeAlertId.isSome = s.isActive
  anomalies : state.anomalyStreak = s.anomalyStreak
  normals : state.normalStreak = s.normalStreak
  resolution : s.isActive = false → state.resolvedAt = s.lastResolution
  previous : state.previousAlertId.isSome = s.lastResolution.isSome

theorem follows_empty (session : UUID) (machineId : String) :
    Follows (.empty session machineId) .initial :=
  ⟨rfl, rfl, rfl, fun _ => rfl, rfl⟩

/-- The simulation step of a policy. -/
def LockedAlertPolicyV1.simStep (policy : LockedAlertPolicyV1 F) (s : SimState)
    (row : CalibrationRow) : SimState :=
  IndustrialReliability.simStep policy.persistenceDecisions policy.cooldownDecisions
    policy.mergeGapSeconds s row

/-- What one decision does to the live state and to the loop variables. -/
structure Advances (s next : SimState) (decision : ScoreDecisionV1 F)
    (result : TransitionResult F) : Prop where
  follows : Follows result.state next
  wellFormed : result.state.WellFormed
  decided : result.state.lastDecisionId = some decision.decisionId
  seen : result.state.lastSourceTimestamp = some decision.sourceTimestamp
  opened : next.episodes = s.episodes + if result.action? = some .opened then 1 else 0
  reopened : decide (result.action? = some .reopened) =
    (!s.isActive && next.isActive && decide (next.episodes = s.episodes))

variable {state : AlertState} {s : SimState} {decision : ScoreDecisionV1 F}
  {policy : LockedAlertPolicyV1 F}

omit [PyFloat F] in
theorem isReopen_eq_merges (follows : Follows state s) (quiet : s.isActive = false) (ts : Int) :
    isReopen state ts policy = merges policy.mergeGapSeconds s.lastResolution ts := by
  have previous := follows.previous
  unfold isReopen merges
  rw [follows.resolution quiet]
  cases earlier : s.lastResolution with
  | none => cases state.previousAlertId <;> rfl
  | some resolution =>
      rw [earlier] at previous
      obtain ⟨alert, held⟩ := Option.isSome_iff_exists.mp previous
      rw [held]
      rfl

omit [PyFloat F] in
theorem AlertState.WellFormed.firstDetection_le (wellFormed : state.WellFormed)
    (precedes : state.Precedes decision) :
    state.firstDetection.getD decision.sourceTimestamp ≤ decision.sourceTimestamp := by
  cases detected : state.firstDetection with
  | none => exact le_refl _
  | some f =>
      obtain ⟨last, held, le⟩ := wellFormed.detected f detected
      exact le.trans (precedes.later last held).le

section Live

variable [Uuid5] {stamp : TransitionStamp}

/-- A decision that comes after the state goes to its handler. -/
theorem transition_of_precedes (precedes : state.Precedes decision) :
    transition stamp state decision policy =
      raising (if decision.isAnomaly then
        match state.activeAlertId with
        | none => handleAnomalyTrigger stamp state decision policy (state.anomalyStreak + 1)
            (state.anomalyDecisionIds ++ [decision.decisionId])
        | some alertId => handleAnomalyUpdate stamp state alertId decision policy
            (state.anomalyStreak + 1) (state.anomalyDecisionIds ++ [decision.decisionId])
      else handleNormal stamp state decision policy) := by
  have inOrder : state.lastSourceTimestamp.filter (decision.sourceTimestamp ≤ ·) = none := by
    rw [Option.filter_eq_none_iff]
    intro last held
    simpa using precedes.later last held
  unfold transition
  rw [if_neg precedes.fresh, inOrder]
  cases decision.isAnomaly <;> cases state.activeAlertId <;> rfl

/-- An anomalous decision at which an alert is active is emitted, as an onset
exactly when none was active before, and as a reopening exactly when the
simulation merges it. -/
theorem transition_emits (stamp : TransitionStamp) (follows : Follows state s) (wellFormed : state.WellFormed)
    (precedes : state.Precedes decision) (anomalous : decision.isAnomaly = true)
    (active : (policy.simStep s decision.calibrationRow).isActive = true) :
    ∃ action alertId firstDet,
      transition stamp state decision policy =
        raising (emitAnomalyResult stamp state decision policy action alertId firstDet
          (state.anomalyStreak + 1) (state.anomalyDecisionIds ++ [decision.decisionId])) ∧
      firstDet ≤ decision.sourceTimestamp ∧
      action = if s.isActive then .updated
        else if merges policy.mergeGapSeconds s.lastResolution decision.sourceTimestamp
          then .reopened else .opened := by
  rw [transition_of_precedes precedes, if_pos anomalous]
  have since := wellFormed.firstDetection_le precedes
  cases held : state.activeAlertId with
  | some alertId =>
      have on : s.isActive = true := by rw [← follows.active, held]; rfl
      exact ⟨.updated, alertId, _, rfl, since, by rw [on]; rfl⟩
  | none =>
      have off : s.isActive = false := by rw [← follows.active, held]; rfl
      have persists : policy.persistenceDecisions ≤ ((state.anomalyStreak + 1 : Nat) : Int) := by
        rw [LockedAlertPolicyV1.simStep, ScoreDecisionV1.calibrationRow, anomalous,
          simStep_anomaly, off] at active
        simpa [follows.anomalies] using active
      dsimp only
      unfold handleAnomalyTrigger
      rw [if_neg (not_lt.mpr persists)]
      refine ⟨_, _, _, rfl, ?_, ?_⟩
      · split
        · exact since
        · exact le_refl _
      · rw [off, isReopen_eq_merges follows off]
        rfl

/-- An anomalous decision below the persistence count raises nothing. -/
theorem transition_pending (follows : Follows state s) (wellFormed : state.WellFormed)
    (precedes : state.Precedes decision) (anomalous : decision.isAnomaly = true)
    (inactive : (policy.simStep s decision.calibrationRow).isActive = false) :
    ∃ result, transition stamp state decision policy = .ok result ∧
      Advances s (policy.simStep s decision.calibrationRow) decision result := by
  rw [transition_of_precedes precedes, if_pos anomalous]
  rw [LockedAlertPolicyV1.simStep, ScoreDecisionV1.calibrationRow, anomalous,
    simStep_anomaly] at inactive ⊢
  dsimp only at inactive ⊢
  obtain ⟨off, below⟩ := Bool.or_eq_false_iff.mp inactive
  have idle : state.activeAlertId = none := by
    rw [← Option.not_isSome_iff_eq_none, follows.active, off]
    exact Bool.false_ne_true
  have short : ((s.anomalyStreak + 1 : Nat) : Int) < policy.persistenceDecisions := by
    have := of_decide_eq_false below
    push_cast
    omega
  rw [idle]
  dsimp only
  unfold handleAnomalyTrigger
  rw [follows.anomalies, if_pos short, inactive, off]
  refine ⟨_, rfl, ⟨rfl, rfl, rfl, fun _ => follows.resolution off, follows.previous⟩,
    ⟨wellFormed.machine, fun f detected => ?_, nofun, nofun⟩, rfl, rfl, rfl, ?_⟩
  · obtain ⟨last, held, le⟩ := wellFormed.detected f detected
    exact ⟨_, rfl, le.trans (precedes.later last held).le⟩
  · simp [TransitionResult.action?]

omit [PyFloat F] [Uuid5] in
/-- The emitted steps keep the simulation relation. -/
theorem advances_raised {action : AlertAction} {alertId : UUID} {firstDet : Int}
    {evidence : EvidenceSnapshotV1 F}
    (follows : Follows state s) (wellFormed : state.WellFormed)
    (anomalous : decision.isAnomaly = true)
    (active : (policy.simStep s decision.calibrationRow).isActive = true)
    (ordered : firstDet ≤ decision.sourceTimestamp)
    (acts : action = if s.isActive then .updated
      else if merges policy.mergeGapSeconds s.lastResolution decision.sourceTimestamp
        then .reopened else .opened) :
    Advances s (policy.simStep s decision.calibrationRow) decision
      ⟨state.raised decision alertId firstDet (state.anomalyStreak + 1)
          (state.anomalyDecisionIds ++ [decision.decisionId]),
        some (alertEvent stamp state decision policy action alertId firstDet
          decision.sourceTimestamp (state.anomalyDecisionIds ++ [decision.decisionId])),
        some evidence⟩ := by
  rw [LockedAlertPolicyV1.simStep, ScoreDecisionV1.calibrationRow, anomalous,
    simStep_anomaly] at active ⊢
  dsimp only at active ⊢
  rw [active]
  refine ⟨⟨rfl, congrArg (· + 1) follows.anomalies, rfl, nofun, follows.previous⟩,
    ⟨wellFormed.machine, ?_, ?_, ?_⟩, rfl, rfl, ?_, ?_⟩
  · rintro f same
    cases same
    exact ⟨_, rfl, ordered⟩
  · exact fun _ => ⟨_, rfl, _, rfl, ordered⟩
  · exact fun _ => by simp [AlertState.raised]
  all_goals
    cases on : s.isActive <;>
      cases merged : merges policy.mergeGapSeconds s.lastResolution decision.sourceTimestamp <;>
      simp [TransitionResult.action?, alertEvent, acts, on, merged]

theorem transition_normal (follows : Follows state s) (wellFormed : state.WellFormed)
    (precedes : state.Precedes decision) (normal : decision.isAnomaly = false) :
    ∃ result, transition stamp state decision policy = .ok result ∧
      Advances s (policy.simStep s decision.calibrationRow) decision result := by
  rw [transition_of_precedes precedes, normal]
  rw [LockedAlertPolicyV1.simStep, ScoreDecisionV1.calibrationRow, normal, simStep_normal]
  simp only [Bool.false_eq_true, if_false]
  unfold handleNormal
  rw [follows.normals]
  have since := wellFormed.firstDetection_le precedes
  have detected : ∀ f ∈ state.firstDetection, f ≤ decision.sourceTimestamp := by
    intro f held
    rwa [Option.mem_def.mp held] at since
  cases held : state.activeAlertId with
  | none =>
      have off : s.isActive = false := by rw [← follows.active, held]; rfl
      rw [off]
      exact ⟨_, rfl, ⟨rfl, rfl, rfl, fun _ => follows.resolution off, follows.previous⟩,
        AlertState.wellFormed_of_inactive wellFormed.machine
          (fun f h => ⟨_, rfl, detected f h⟩) rfl, rfl, rfl, rfl,
        by simp [TransitionResult.action?]⟩
  | some alertId =>
      have on : s.isActive = true := by rw [← follows.active, held]; rfl
      have active : state.activeAlertId.isSome := by rw [held]; rfl
      obtain ⟨f, first, l, last, le⟩ := wellFormed.activeSince active
      rw [on, Option.mem_def.mp first, Option.mem_def.mp last]
      by_cases ended : policy.cooldownDecisions ≤ ((s.normalStreak + 1 : Nat) : Int)
      · have done : decide (policy.cooldownDecisions ≤ (s.normalStreak : Int) + 1) = true :=
          decide_eq_true (by push_cast at ended; exact ended)
        rw [done]
        dsimp only
        rw [if_pos ended, Option.getD_some, Option.getD_some, construct_of_valid
          (alertEvent_valid wellFormed.machine (wellFormed.activeDecisions active) le)]
        refine ⟨_, rfl, ⟨rfl, rfl, rfl, fun _ => rfl, rfl⟩,
          AlertState.wellFormed_of_inactive wellFormed.machine ?_ rfl, rfl, rfl, rfl,
          by simp [TransitionResult.action?, alertEvent]⟩
        intro f' same
        cases same
        exact ⟨_, rfl, detected f first⟩
      · have more : decide (policy.cooldownDecisions ≤ (s.normalStreak : Int) + 1) = false :=
          decide_eq_false (by push_cast at ended; exact ended)
        rw [more]
        dsimp only
        rw [if_neg ended]
        refine ⟨_, rfl, ⟨?_, rfl, rfl, fun off => (by cases off), follows.previous⟩,
          ⟨wellFormed.machine, fun f h => ⟨_, rfl, detected f h⟩, wellFormed.activeSince,
            wellFormed.activeDecisions⟩, rfl, rfl, rfl, by simp [TransitionResult.action?, on]⟩
        exact follows.active.trans on

/-- A decision advances the machine with the simulation unless it is anomalous,
leaves an alert active and carries evidence that does not convert. -/
theorem transition_advances (stamp : TransitionStamp) (follows : Follows state s) (wellFormed : state.WellFormed)
    (precedes : state.Precedes decision) (valid : Valid decision)
    (converts : decision.isAnomaly = true →
      (policy.simStep s decision.calibrationRow).isActive = true → EvidenceConverts decision) :
    ∃ result, transition stamp state decision policy = .ok result ∧
      Advances s (policy.simStep s decision.calibrationRow) decision result := by
  cases anomalous : decision.isAnomaly with
  | false => exact transition_normal follows wellFormed precedes anomalous
  | true =>
      cases active : (policy.simStep s decision.calibrationRow).isActive with
      | false => exact transition_pending follows wellFormed precedes anomalous active
      | true =>
          obtain ⟨action, alertId, firstDet, emitted, ordered, acts⟩ :=
            transition_emits stamp follows wellFormed precedes anomalous active
          have nonempty : state.anomalyDecisionIds ++ [decision.decisionId] ≠ [] := by simp
          have made := emitAnomalyResult_ok stamp policy action alertId (state.anomalyStreak + 1)
            wellFormed.machine nonempty ordered valid (converts anomalous active)
          rw [emitted]
          exact ⟨_, raising_eq_ok_iff.mpr made,
            advances_raised follows wellFormed anomalous active ordered acts⟩

/-- Otherwise `transition` raises. -/
theorem transition_converts (follows : Follows state s) (wellFormed : state.WellFormed)
    (precedes : state.Precedes decision) (valid : Valid decision)
    {result : TransitionResult F} (taken : transition stamp state decision policy = .ok result)
    (anomalous : decision.isAnomaly = true)
    (active : (policy.simStep s decision.calibrationRow).isActive = true) :
    EvidenceConverts decision := by
  obtain ⟨action, alertId, firstDet, emitted, ordered, -⟩ :=
    transition_emits stamp follows wellFormed precedes anomalous active
  rw [emitted, raising_eq_ok_iff] at taken
  exact ((emitAnomalyResult_eq_ok_iff wellFormed.machine (by simp) ordered valid).mp taken).1

/-! ### Runs -/

/-- Folding `transition` over a stream of decisions, collecting what each step
returns. -/
def foldTransition (policy : LockedAlertPolicyV1 F) :
    AlertState → List (TransitionStamp × Checked (ScoreDecisionV1 F)) →
      Except TransitionError (List (TransitionResult F))
  | _, [] => .ok []
  | state, (stamp, decision) :: rest => do
      let result ← transition stamp state decision.val policy
      let results ← foldTransition policy result.state rest
      return result :: results

/-- The calibration frame of a stream of decisions. -/
def calibrationRows (stream : List (TransitionStamp × Checked (ScoreDecisionV1 F))) :
    List CalibrationRow :=
  stream.map fun delivered => delivered.2.val.calibrationRow

/-- The results of a run say what the simulation, continued from `s`, computes:
the episodes, the merged onsets and the windows in alert. -/
structure AgreesFrom (policy : LockedAlertPolicyV1 F) (s : SimState) (rows : List CalibrationRow)
    (results : List (TransitionResult F)) : Prop where
  opened : (rows.foldl policy.simStep s).episodes =
    s.episodes + results.countP fun r => decide (r.action? = some .opened)
  reopened : results.map (fun r => decide (r.action? = some .reopened)) =
    mergedOnsets policy.persistenceDecisions policy.cooldownDecisions policy.mergeGapSeconds s rows
  active : (rows.foldl policy.simStep s).alertWindowCount =
    s.alertWindowCount + results.countP fun r => r.state.activeAlertId.isSome

/-- Every decision that the simulation, continued from `s`, leaves in alert and
that is anomalous carries evidence that converts. -/
def ConvertsFrom (policy : LockedAlertPolicyV1 F) :
    SimState → List (TransitionStamp × Checked (ScoreDecisionV1 F)) → Prop
  | _, [] => True
  | s, (_, decision) :: rest =>
      let next := policy.simStep s decision.val.calibrationRow
      (decision.val.isAnomaly = true → next.isActive = true → EvidenceConverts decision.val) ∧
        ConvertsFrom policy next rest

/-- The deliveries are strictly ordered in time and have distinct decision ids. -/
def InOrder (stream : List (TransitionStamp × Checked (ScoreDecisionV1 F))) : Prop :=
  stream.Pairwise fun earlier later =>
    earlier.2.val.sourceTimestamp < later.2.val.sourceTimestamp ∧
      earlier.2.val.decisionId ≠ later.2.val.decisionId

variable {stream : List (TransitionStamp × Checked (ScoreDecisionV1 F))}

instance : Decidable (InOrder stream) := by
  unfold InOrder
  infer_instance

omit [PyFloat F] [Uuid5] in
theorem Advances.precedes {next : SimState} {result : TransitionResult F}
    (advances : Advances s next decision result) {later : ScoreDecisionV1 F}
    (inOrder : decision.sourceTimestamp < later.sourceTimestamp ∧
      decision.decisionId ≠ later.decisionId) : result.state.Precedes later := by
  constructor
  · rw [advances.decided]
    exact fun same => inOrder.2 (Option.some.inj same)
  · rw [advances.seen]
    rintro last same
    cases same
    exact inOrder.1

/-- While the evidence converts, the machine runs through and agrees. -/
theorem foldTransition_ok (follows : Follows state s) (wellFormed : state.WellFormed)
    (precedes : ∀ delivered ∈ stream, state.Precedes delivered.2.val) (inOrder : InOrder stream)
    (converts : ConvertsFrom policy s stream) :
    ∃ results, foldTransition policy state stream = .ok results ∧
      AgreesFrom policy s (calibrationRows stream) results := by
  induction stream generalizing state s with
  | nil => exact ⟨[], rfl, rfl, rfl, rfl⟩
  | cons delivered rest ih =>
      obtain ⟨stamp, decision, valid⟩ := delivered
      obtain ⟨here, there⟩ := converts
      obtain ⟨newer, restOrdered⟩ := List.pairwise_cons.mp inOrder
      obtain ⟨result, taken, advances⟩ := transition_advances stamp follows wellFormed
        (precedes _ List.mem_cons_self) valid here
      obtain ⟨results, folded, agrees⟩ := ih advances.follows advances.wellFormed
        (fun later mem => advances.precedes (newer later mem)) restOrdered there
      refine ⟨result :: results, ?_, ?_, ?_, ?_⟩
      · unfold foldTransition
        rw [taken]
        exact Lib.bind_eq_ok_iff.mpr ⟨_, rfl, Lib.bind_eq_ok_iff.mpr ⟨_, folded, rfl⟩⟩
      · have opened := advances.opened
        rw [List.countP_cons, ← Nat.add_assoc, Nat.add_right_comm]
        refine agrees.opened.trans ?_
        rw [opened]
        simp
      · exact congrArg₂ _ advances.reopened agrees.reopened
      · have active := advances.follows.active
        rw [List.countP_cons, ← Nat.add_assoc, Nat.add_right_comm, active]
        refine agrees.active.trans (congrArg (· + _) ?_)
        exact simStep_alertWindowCount _ _

/-- A run that goes through had only evidence that converts. -/
theorem foldTransition_converts (follows : Follows state s) (wellFormed : state.WellFormed)
    (precedes : ∀ delivered ∈ stream, state.Precedes delivered.2.val) (inOrder : InOrder stream)
    {results : List (TransitionResult F)}
    (folded : foldTransition policy state stream = .ok results) :
    ConvertsFrom policy s stream := by
  induction stream generalizing state s results with
  | nil => trivial
  | cons delivered rest ih =>
      obtain ⟨stamp, decision, valid⟩ := delivered
      obtain ⟨newer, restOrdered⟩ := List.pairwise_cons.mp inOrder
      obtain ⟨result, taken, folded⟩ := Lib.bind_eq_ok_iff.mp folded
      obtain ⟨tail, folded, -⟩ := Lib.bind_eq_ok_iff.mp folded
      have first := precedes _ List.mem_cons_self
      have here := transition_converts follows wellFormed first valid taken
      obtain ⟨result', taken', advances⟩ := transition_advances stamp follows
        wellFormed first valid here
      cases taken.symm.trans taken'
      exact ⟨here, ih advances.follows advances.wellFormed
        (fun later mem => advances.precedes (newer later mem)) restOrdered folded⟩

omit [Uuid5] in
/-- The condition on the flags read so far and the evidence, at one decision. -/
theorem convertsFrom_iff {flags : List Bool}
    (reflects : Reflects (windowsOf policy.persistenceDecisions)
      (windowsOf policy.cooldownDecisions) flags s) :
    ConvertsFrom policy s stream ↔
      ∀ before delivered after, stream = before ++ delivered :: after →
        delivered.2.val.isAnomaly = true →
        RaisedAndNotCooled (windowsOf policy.persistenceDecisions)
          (windowsOf policy.cooldownDecisions)
          (flags ++ (before ++ [delivered]).map (·.2.val.isAnomaly)) →
        EvidenceConverts delivered.2.val := by
  induction stream generalizing s flags with
  | nil => simp [ConvertsFrom]
  | cons first rest ih =>
      have next : Reflects (windowsOf policy.persistenceDecisions)
          (windowsOf policy.cooldownDecisions) (flags ++ [first.2.val.isAnomaly])
          (policy.simStep s first.2.val.calibrationRow) :=
        reflects.step first.2.val.calibrationRow
      unfold ConvertsFrom
      dsimp only
      rw [ih next]
      constructor
      · rintro ⟨here, there⟩ before delivered after split anomalous raised
        rcases List.cons_eq_append_iff.mp split with ⟨rfl, same⟩ | ⟨before', rfl, inRest⟩
        · cases same
          exact here anomalous (next.active.mpr raised)
        · refine there before' delivered after inRest anomalous ?_
          simpa [ScoreDecisionV1.calibrationRow] using raised
      · intro all
        refine ⟨fun anomalous active => ?_, fun before delivered after split anomalous raised => ?_⟩
        · exact all [] first rest rfl anomalous (next.active.mp active)
        · refine all (first :: before) delivered after (by rw [split]; rfl) anomalous ?_
          simpa [ScoreDecisionV1.calibrationRow] using raised

/-- The results say what the simulation computes on the same flags and
timestamps. -/
structure MatchesSimulation (policy : LockedAlertPolicyV1 F) (rows : List CalibrationRow)
    (results : List (TransitionResult F)) : Prop where
  opened : results.countP (fun r => decide (r.action? = some .opened)) =
    (simulateAlertStream rows policy.persistenceDecisions policy.cooldownDecisions
      policy.mergeGapSeconds).1
  reopened : results.map (fun r => decide (r.action? = some .reopened)) =
    mergedOnsets policy.persistenceDecisions policy.cooldownDecisions policy.mergeGapSeconds
      .initial rows
  active : results.countP (fun r => r.state.activeAlertId.isSome) =
    (simulateAlertStream rows policy.persistenceDecisions policy.cooldownDecisions
      policy.mergeGapSeconds).2

/-- The live machine goes through a stream of one session and matches the
calibration simulation on it exactly when, at every anomalous decision at which
the flags leave an alert active, each evidence value has a deviation the schema
accepts. -/
theorem foldTransition_matches_simulation_iff (session : UUID) (machineId : String)
    (named : machineId ≠ "") (inOrder : InOrder stream) :
    (∃ results, foldTransition policy (.empty session machineId) stream = .ok results ∧
        MatchesSimulation policy (calibrationRows stream) results) ↔
      ∀ before delivered after, stream = before ++ delivered :: after →
        delivered.2.val.isAnomaly = true →
        RaisedAndNotCooled (windowsOf policy.persistenceDecisions)
          (windowsOf policy.cooldownDecisions) ((before ++ [delivered]).map (·.2.val.isAnomaly)) →
        ∀ ev ∈ delivered.2.val.evidenceVector, Valid ev.deviation := by
  have follows := follows_empty session machineId
  have wellFormed : (AlertState.empty session machineId).WellFormed :=
    AlertState.wellFormed_empty (one_le_length_of_ne named)
  have precedes : ∀ delivered ∈ stream,
      (AlertState.empty session machineId).Precedes delivered.2.val :=
    fun _ _ => ⟨nofun, nofun⟩
  have initially : Reflects (windowsOf policy.persistenceDecisions)
      (windowsOf policy.cooldownDecisions) [] .initial := reflects_initial (windowsOf_pos _)
  have condition : ConvertsFrom policy .initial stream ↔ _ := convertsFrom_iff initially
  simp only [List.nil_append] at condition
  refine Iff.trans ?_ condition
  constructor
  · rintro ⟨results, folded, -⟩
    exact foldTransition_converts follows wellFormed precedes inOrder folded
  · intro converts
    obtain ⟨results, folded, agrees⟩ :=
      foldTransition_ok follows wellFormed precedes inOrder converts
    refine ⟨results, folded, ?_, agrees.reopened, ?_⟩
    · exact (agrees.opened.trans (Nat.zero_add _)).symm
    · exact (agrees.active.trans (Nat.zero_add _)).symm

end Live

/-! ### Concrete streams -/

/-- An anomaly, its resolution, and an anomaly inside the merge gap. -/
def reopenedStream : List (TransitionStamp × Checked (ScoreDecisionV1 Int)) :=
  [(stampAt 0, checkedWindow 5 true [⟨"tp2__mean", 8, 3⟩]),
   (stampAt 1, checkedWindow 10 false []),
   (stampAt 2, checkedWindow 15 true [⟨"tp2__mean", 9, 4⟩])]

theorem reopenedStream_matches :
    letI := episodeNames
    ∃ results, foldTransition promptPolicy (.empty 1 "metropt3") reopenedStream = .ok results ∧
      MatchesSimulation promptPolicy (calibrationRows reopenedStream) results := by
  let := episodeNames
  refine (foldTransition_matches_simulation_iff 1 "metropt3" (by decide) (by decide)).mpr ?_
  intro before delivered after split _ _
  have converts : ∀ delivered ∈ reopenedStream, EvidenceConverts delivered.2.val := by decide
  exact converts delivered (by simp [split])

/-- An evidence value without a feature name, which the decision schema accepts
and the deviation schema does not. -/
def unnamedStream : List (TransitionStamp × Checked (ScoreDecisionV1 Int)) :=
  [(stampAt 0, checkedWindow 5 true [⟨"", 8, 3⟩])]

theorem unnamedStream_mismatches :
    letI := episodeNames
    InOrder unnamedStream ∧ 1 ≤ promptPolicy.persistenceDecisions ∧
      1 ≤ promptPolicy.cooldownDecisions ∧ 0 ≤ promptPolicy.mergeGapSeconds ∧
      ¬ ∃ results, foldTransition promptPolicy (.empty 1 "metropt3") unnamedStream = .ok results ∧
        MatchesSimulation promptPolicy (calibrationRows unnamedStream) results := by
  let := episodeNames
  have raises : foldTransition promptPolicy (.empty 1 "metropt3") unnamedStream =
      .error (.validation ⟨"feature_name: String should have at least 1 character"⟩) := by decide
  refine ⟨by decide, by decide, by decide, by decide, ?_⟩
  rintro ⟨results, folded, -⟩
  cases raises.symm.trans folded

end IndustrialReliability
