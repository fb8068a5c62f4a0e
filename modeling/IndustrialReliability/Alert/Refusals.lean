import IndustrialReliability.Alert.Simulation
import IndustrialReliability.Lib.Runs

/-!
What the alert machine refuses.

A decision newer than the last one is out of order with nothing. With exact arithmetic
the messages a transition builds of it pass their schemas but for one check: the
deviation of a feature needs a name, and an evidence value does not.
-/

namespace IndustrialReliability

variable {F : Type} [PyFloat F]

/-- Differences and magnitudes of finite numbers are finite, and no magnitude is negative. -/
structure ExactArithmetic (F : Type) [PyFloat F] : Prop where
  finite_sub : ∀ a b : F, PyFloat.isFinite a → PyFloat.isFinite b → PyFloat.isFinite (PyFloat.sub a b)
  finite_abs : ∀ a : F, PyFloat.isFinite a → PyFloat.isFinite (PyFloat.abs a)
  abs_nonneg : ∀ a : F, PyFloat.le (PyFloat.ofInt 0) (PyFloat.abs a)

theorem exactIntegers_exact : ExactArithmetic Int where
  finite_sub _ _ _ _ := rfl
  finite_abs _ _ := rfl
  abs_nonneg _ := by simp [PyFloat.le, PyFloat.ofInt, PyFloat.abs]

theorem evidenceValue_valid {decision : ScoreDecisionV1 F} (valid : Valid decision) :
    ∀ ev ∈ decision.evidenceVector, Valid ev := by
  intro ev mem check check_mem
  refine valid check (List.mem_append_left _ (List.mem_append_right _ ?_))
  exact List.mem_flatMap.mpr ⟨ev, mem, check_mem⟩

/-- A deviation passes its schema exactly when the feature has a name. -/
theorem deviation_valid_iff (exact : ExactArithmetic F) {ev : EvidenceValueV1 F} (valid : Valid ev) :
    Valid ev.deviation ↔ ev.featureName ≠ "" := by
  have finite := valid _ List.mem_cons_self
  obtain ⟨value, robust⟩ := (Bool.and_eq_true _ _).mp finite
  constructor
  · intro accepted nameless
    have named := accepted _ List.mem_cons_self
    simp [EvidenceValueV1.deviation, nameless] at named
  · intro named check mem
    simp only [FrozenMessage.checks, List.mem_cons, List.not_mem_nil, or_false] at mem
    rcases mem with rfl | rfl | rfl
    · exact decide_eq_true (one_le_length_of_ne named)
    · exact exact.abs_nonneg _
    · simp [EvidenceValueV1.deviation, value, exact.finite_sub _ _ value robust, exact.finite_abs _ robust]

theorem evidenceConverts_iff (exact : ExactArithmetic F) {decision : ScoreDecisionV1 F} (valid : Valid decision) :
    EvidenceConverts decision ↔ ∀ ev ∈ decision.evidenceVector, ev.featureName ≠ "" :=
  forall₂_congr fun ev mem => deviation_valid_iff exact (evidenceValue_valid valid ev mem)

variable {state : AlertState} {s : SimState} {decision : ScoreDecisionV1 F} {policy : LockedAlertPolicyV1 F}

/-- The decision leaves an alert active. -/
def AlertState.Raises (state : AlertState) (decision : ScoreDecisionV1 F) (policy : LockedAlertPolicyV1 F) : Prop :=
  decision.isAnomaly = true ∧
    (state.activeAlertId.isSome = true ∨ policy.persistenceDecisions ≤ (state.anomalyStreak : Int) + 1)

omit [PyFloat F] in
theorem Follows.raises_iff (follows : Follows state s) : state.Raises decision policy ↔
    decision.isAnomaly = true ∧ (policy.simStep s decision.calibrationRow).isActive = true := by
  refine and_congr_right fun anomalous => ?_
  rw [LockedAlertPolicyV1.simStep, ScoreDecisionV1.calibrationRow, anomalous, simStep_anomaly,
    follows.active, follows.anomalies]
  simp

section Reached

variable [Uuid5]

/-- The state after a decision that is accepted. -/
def alertStep (policy : LockedAlertPolicyV1 F) (state : AlertState)
    (delivered : TransitionStamp × Checked (ScoreDecisionV1 F)) : Option AlertState :=
  (transition delivered.1 state delivered.2.val policy).toOption.map (·.state)

/-- The decision repeats the last one, is out of order or comes after the state. -/
theorem transition_cases (state : AlertState) (decision : ScoreDecisionV1 F)
    (policy : LockedAlertPolicyV1 F) :
    (state.lastDecisionId = some decision.decisionId ∧
        ∀ stamp, transition stamp state decision policy = .ok ⟨state, none, none⟩) ∨
      (∃ last ∈ state.lastSourceTimestamp, decision.sourceTimestamp ≤ last) ∧
        (∀ stamp, ∃ detail, transition stamp state decision policy = .error (.orderingViolation detail)) ∨
      state.Precedes decision := by
  by_cases repeated : state.lastDecisionId = some decision.decisionId
  · exact .inl ⟨repeated, fun stamp => if_pos repeated⟩
  · cases late : state.lastSourceTimestamp.filter (decision.sourceTimestamp ≤ ·) with
    | none =>
        rw [Option.filter_eq_none_iff] at late
        exact .inr (.inr ⟨repeated, fun last held => by simpa using late last held⟩)
    | some last =>
        obtain ⟨held, le⟩ := Option.filter_eq_some_iff.mp late
        refine .inr (.inl ⟨⟨last, held, of_decide_eq_true le⟩, fun stamp => ?_⟩)
        unfold transition
        rw [if_neg repeated, late]
        exact ⟨_, rfl⟩

/-- A reachable state is well formed, and the simulation goes along. -/
theorem follows_of_reachable {session : UUID} {machineId : String} (named : machineId ≠ "")
    (reach : Lib.Reachable (alertStep policy) (.empty session machineId) state) :
    state.WellFormed ∧ ∃ s, Follows state s := by
  have start : (AlertState.empty session machineId).WellFormed :=
    AlertState.wellFormed_empty (one_le_length_of_ne named)
  refine reach.invariant (P := fun state => state.WellFormed ∧ ∃ s, Follows state s) ?_
    ⟨start, _, follows_empty session machineId⟩
  rintro state ⟨stamp, decision, valid⟩ after ⟨wellFormed, s, follows⟩ taken
  obtain ⟨result, returned, rfl⟩ := Option.map_eq_some_iff.mp taken
  have ran : transition stamp state decision policy = .ok result := by
    cases outcome : transition stamp state decision policy with
    | error => simp [outcome, Except.toOption] at returned
    | ok other =>
        simp only [outcome, Except.toOption, Option.some.injEq] at returned
        rw [returned]
  rcases transition_cases state decision policy with ⟨-, same⟩ | ⟨-, refused⟩ | precedes
  · cases ran.symm.trans (same stamp)
    exact ⟨wellFormed, s, follows⟩
  · obtain ⟨detail, error⟩ := refused stamp
    cases ran.symm.trans error
  · obtain ⟨other, ran', advances⟩ := transition_advances stamp follows wellFormed precedes valid
      (transition_converts follows wellFormed precedes valid ran)
    cases ran.symm.trans ran'
    exact ⟨advances.wellFormed, _, advances.follows⟩

/-- A decision newer than the last one is refused exactly when it is not a repetition,
leaves an alert active and carries an evidence value without a name. -/
theorem transition_returns_iff (exact : ExactArithmetic F) (stamp : TransitionStamp) {session : UUID}
    {machineId : String} (named : machineId ≠ "")
    (reach : Lib.Reachable (alertStep policy) (.empty session machineId) state) (valid : Valid decision)
    (newer : ∀ last ∈ state.lastSourceTimestamp, last < decision.sourceTimestamp) :
    (∃ result, transition stamp state decision policy = .ok result) ↔
      state.lastDecisionId = some decision.decisionId ∨ ¬ state.Raises decision policy ∨
        ∀ ev ∈ decision.evidenceVector, ev.featureName ≠ "" := by
  obtain ⟨wellFormed, s, follows⟩ := follows_of_reachable named reach
  rcases transition_cases state decision policy with ⟨repeated, same⟩ | ⟨⟨last, held, late⟩, -⟩ | precedes
  · exact iff_of_true ⟨_, same stamp⟩ (.inl repeated)
  · exact absurd (newer last held) (not_lt.mpr late)
  · rw [or_iff_right precedes.fresh, ← evidenceConverts_iff exact valid, ← imp_iff_not_or, follows.raises_iff]
    constructor
    · rintro ⟨result, ran⟩ ⟨anomalous, active⟩
      exact transition_converts follows wellFormed precedes valid ran anomalous active
    · intro converts
      obtain ⟨result, ran, -⟩ := transition_advances stamp follows wellFormed precedes valid
        fun anomalous active => converts ⟨anomalous, active⟩
      exact ⟨result, ran⟩

end Reached

/-- An update of a raised alert goes through when its evidence is named. -/
theorem named_update_returns :
    letI := episodeNames
    ∃ state, Lib.Reachable (alertStep promptPolicy) (.empty 1 "metropt3") state ∧
      state.activeAlertId.isSome = true ∧
      ∃ result, transition (stampAt 1) state (scoredWindow 10 true [⟨"tp2__mean", 9, 4⟩]) promptPolicy =
        .ok result := by
  let := episodeNames
  obtain ⟨state, run, active, seen⟩ := Lib.exists_run_of_exec (alertStep promptPolicy) Lib.Always
    (.empty 1 "metropt3") [(stampAt 0, checkedWindow 5 true [⟨"tp2__mean", 8, 3⟩])]
    (fun state => state.activeAlertId.isSome = true ∧
      state.lastSourceTimestamp = some (epoch2020 + Datetime.minutes 5)) (by decide)
  have reach : Lib.Reachable (alertStep promptPolicy) (.empty 1 "metropt3") state := ⟨_, run⟩
  refine ⟨state, reach, active, ?_⟩
  refine (transition_returns_iff exactIntegers_exact (stampAt 1) (by decide) reach (by decide) ?_).mpr ?_
  · rw [seen]
    rintro last ⟨⟩
    decide
  · exact .inr (.inr (by decide))

/-- An anomaly with a nameless evidence value is refused by the empty state. -/
theorem nameless_onset_refused :
    letI := episodeNames
    ∃ (state : AlertState) (decision : ScoreDecisionV1 Int),
      Lib.Reachable (alertStep promptPolicy) (.empty 1 "metropt3") state ∧ Valid decision ∧
      (∀ last ∈ state.lastSourceTimestamp, last < decision.sourceTimestamp) ∧
      ¬ ∃ result, transition (stampAt 0) state decision promptPolicy = .ok result := by
  let := episodeNames
  refine ⟨.empty 1 "metropt3", scoredWindow 5 true [⟨"", 8, 3⟩], ⟨[], .nil _⟩, by decide, nofun, ?_⟩
  have refused : transition (stampAt 0) (.empty 1 "metropt3") (scoredWindow 5 true [⟨"", 8, 3⟩]) promptPolicy =
      .error (.validation ⟨"feature_name: String should have at least 1 character"⟩) := by decide
  rintro ⟨result, returned⟩
  cases refused.symm.trans returned

end IndustrialReliability
