import IndustrialReliability.Alert.State
import IndustrialReliability.Lib.Results

/-!
What a transition can do.

`Outcome` lists the results of folding in a decision newer than the state, each
with the facts it needs; `transition_outcome` is where `transition` is taken apart
for them.
-/

namespace IndustrialReliability

variable {F : Type}

/-- The decision comes after everything the state has seen. -/
structure AlertState.Precedes (state : AlertState) (decision : ScoreDecisionV1 F) : Prop where
  fresh : state.lastDecisionId ≠ some decision.decisionId
  later : ∀ last ∈ state.lastSourceTimestamp, last < decision.sourceTimestamp

/-- The candidate decisions with an anomalous one more. -/
def AlertState.candidates (state : AlertState) (decision : ScoreDecisionV1 F) : List UUID :=
  state.anomalyDecisionIds ++ [decision.decisionId]

/-- The alert an onset opens: that of the first candidate. -/
def AlertState.newAlertId [Uuid5] (state : AlertState) (decision : ScoreDecisionV1 F) : UUID :=
  alertIdFor decision.replaySessionId ((state.candidates decision).headD decision.decisionId)

variable [PyFloat F] [Uuid5]

/-- The results of a transition by a newer decision. -/
inductive Outcome (stamp : TransitionStamp) (state : AlertState) (decision : ScoreDecisionV1 F)
    (policy : LockedAlertPolicyV1 F) : TransitionResult F → Prop where
  /-- An anomaly below the persistence count. -/
  | pending : decision.isAnomaly = true → state.activeAlertId = none →
      ((state.anomalyStreak + 1 : Nat) : Int) < policy.persistenceDecisions →
      Outcome stamp state decision policy
        ⟨state.pending decision (state.anomalyStreak + 1) (state.candidates decision), none, none⟩
  | opened (evidence : EvidenceSnapshotV1 F) : decision.isAnomaly = true →
      state.activeAlertId = none →
      policy.persistenceDecisions ≤ ((state.anomalyStreak + 1 : Nat) : Int) →
      isReopen state decision.sourceTimestamp policy = false →
      Outcome stamp state decision policy
        ⟨state.raised decision (state.newAlertId decision) decision.sourceTimestamp
            (state.anomalyStreak + 1) (state.candidates decision),
          some (alertEvent stamp state decision policy .opened (state.newAlertId decision)
            decision.sourceTimestamp decision.sourceTimestamp (state.candidates decision)),
          some evidence⟩
  | reopened {alertId : UUID} (evidence : EvidenceSnapshotV1 F) : decision.isAnomaly = true →
      state.activeAlertId = none →
      policy.persistenceDecisions ≤ ((state.anomalyStreak + 1 : Nat) : Int) →
      isReopen state decision.sourceTimestamp policy = true →
      state.previousAlertId = some alertId →
      Outcome stamp state decision policy
        ⟨state.raised decision alertId (state.firstDetection.getD decision.sourceTimestamp)
            (state.anomalyStreak + 1) (state.candidates decision),
          some (alertEvent stamp state decision policy .reopened alertId
            (state.firstDetection.getD decision.sourceTimestamp) decision.sourceTimestamp
            (state.candidates decision)),
          some evidence⟩
  | updated {alertId : UUID} (evidence : EvidenceSnapshotV1 F) : decision.isAnomaly = true →
      state.activeAlertId = some alertId →
      Outcome stamp state decision policy
        ⟨state.raised decision alertId (state.firstDetection.getD decision.sourceTimestamp)
            (state.anomalyStreak + 1) (state.candidates decision),
          some (alertEvent stamp state decision policy .updated alertId
            (state.firstDetection.getD decision.sourceTimestamp) decision.sourceTimestamp
            (state.candidates decision)),
          some evidence⟩
  | resolved {alertId : UUID} : decision.isAnomaly = false → state.activeAlertId = some alertId →
      policy.cooldownDecisions ≤ ((state.normalStreak + 1 : Nat) : Int) →
      Outcome stamp state decision policy
        ⟨state.resolved decision alertId (state.firstDetection.getD decision.sourceTimestamp)
            (state.lastDetection.getD decision.sourceTimestamp) (state.normalStreak + 1),
          some (alertEvent stamp state decision policy .resolved alertId
            (state.firstDetection.getD decision.sourceTimestamp)
            (state.lastDetection.getD decision.sourceTimestamp) state.anomalyDecisionIds),
          none⟩
  /-- A normal decision inside the cooldown. -/
  | cooling {alertId : UUID} : decision.isAnomaly = false → state.activeAlertId = some alertId →
      ((state.normalStreak + 1 : Nat) : Int) < policy.cooldownDecisions →
      Outcome stamp state decision policy
        ⟨state.cooling decision (state.normalStreak + 1), none, none⟩
  | idle : decision.isAnomaly = false → state.activeAlertId = none →
      Outcome stamp state decision policy
        ⟨state.idle decision (state.normalStreak + 1), none, none⟩

variable {stamp : TransitionStamp} {state : AlertState} {decision : ScoreDecisionV1 F}
  {policy : LockedAlertPolicyV1 F} {result : TransitionResult F}

/-- An anomaly that is emitted raises the alert. -/
theorem emitAnomalyResult_eq_ok {action : AlertAction} {alertId : UUID} {firstDet : Int}
    {streak : Nat} {ids : List UUID}
    (emitted : emitAnomalyResult stamp state decision policy action alertId firstDet streak ids =
      .ok result) :
    ∃ evidence, result = ⟨state.raised decision alertId firstDet streak ids,
      some (alertEvent stamp state decision policy action alertId firstDet
        decision.sourceTimestamp ids), some evidence⟩ := by
  obtain ⟨event, made, emitted⟩ := Lib.bind_eq_ok_iff.mp emitted
  obtain ⟨evidence, -, emitted⟩ := Lib.bind_eq_ok_iff.mp emitted
  obtain rfl := Lib.pure_eq_ok_iff.mp emitted
  obtain ⟨-, rfl⟩ := construct_eq_ok_iff.mp made
  exact ⟨evidence, rfl⟩

omit [PyFloat F] [Uuid5] in
/-- A reopening reopens the alert resolved last. -/
theorem isReopen_eq_true_iff {ts : Int} : isReopen state ts policy = true ↔
    state.previousAlertId.isSome = true ∧ ∃ resolvedAt ∈ state.resolvedAt,
      0 < policy.mergeGapSeconds ∧ withinSeconds ts resolvedAt policy.mergeGapSeconds = true := by
  unfold isReopen
  cases state.previousAlertId with
  | none => simp
  | some previous =>
      cases state.resolvedAt with
      | none => simp
      | some resolvedAt => simp

theorem handleAnomalyTrigger_outcome (anomalous : decision.isAnomaly = true)
    (quiet : state.activeAlertId = none)
    (handled : handleAnomalyTrigger stamp state decision policy (state.anomalyStreak + 1)
      (state.candidates decision) = .ok result) :
    Outcome stamp state decision policy result := by
  unfold handleAnomalyTrigger at handled
  split at handled
  · rename_i short
    cases handled
    exact .pending anomalous quiet short
  · rename_i persists
    rw [not_lt] at persists
    dsimp only at handled
    cases reopen : isReopen state decision.sourceTimestamp policy with
    | false =>
        simp only [reopen] at handled
        obtain ⟨evidence, rfl⟩ := emitAnomalyResult_eq_ok handled
        exact .opened evidence anomalous quiet persists reopen
    | true =>
        obtain ⟨alertId, held⟩ :=
          Option.isSome_iff_exists.mp (isReopen_eq_true_iff.mp reopen).1
        simp only [reopen, held] at handled
        obtain ⟨evidence, rfl⟩ := emitAnomalyResult_eq_ok handled
        exact .reopened evidence anomalous quiet persists reopen held

omit [PyFloat F] in
theorem handleNormal_outcome [PyFloat F] (normal : decision.isAnomaly = false)
    (handled : handleNormal stamp state decision policy = .ok result) :
    Outcome stamp state decision policy result := by
  unfold handleNormal at handled
  cases held : state.activeAlertId with
  | none =>
      rw [held] at handled
      cases handled
      exact .idle normal held
  | some alertId =>
      rw [held] at handled
      dsimp only at handled
      split at handled
      · rename_i cooled
        obtain ⟨event, made, handled⟩ := Lib.bind_eq_ok_iff.mp handled
        obtain rfl := Lib.pure_eq_ok_iff.mp handled
        obtain ⟨-, rfl⟩ := construct_eq_ok_iff.mp made
        exact .resolved normal held cooled
      · rename_i warm
        cases handled
        exact .cooling normal held (not_le.mp warm)

/-- A transition by a newer decision has one of the outcomes. -/
theorem transition_outcome (fresh : state.lastDecisionId ≠ some decision.decisionId)
    (taken : transition stamp state decision policy = .ok result) :
    Outcome stamp state decision policy result := by
  unfold transition at taken
  rw [if_neg fresh] at taken
  split at taken
  · cases taken
  · split at taken
    · rename_i anomalous
      dsimp only at taken
      split at taken
      · rename_i quiet
        exact handleAnomalyTrigger_outcome anomalous quiet (raising_eq_ok_iff.mp taken)
      · rename_i alertId held
        obtain ⟨evidence, rfl⟩ := emitAnomalyResult_eq_ok (raising_eq_ok_iff.mp taken)
        exact .updated evidence anomalous held
    · rename_i normal
      exact handleNormal_outcome (by simpa using normal) (raising_eq_ok_iff.mp taken)

omit [PyFloat F] in
/-- Every outcome has seen the decision. -/
theorem Outcome.seen (outcome : Outcome stamp state decision policy result) :
    result.state.lastDecisionId = some decision.decisionId ∧
      result.state.lastSourceTimestamp = some decision.sourceTimestamp := by
  cases outcome <;> exact ⟨rfl, rfl⟩

omit [PyFloat F] in
/-- The owner of a state stays. -/
theorem Outcome.owner (outcome : Outcome stamp state decision policy result) :
    result.state.replaySessionId = state.replaySessionId ∧
      result.state.machineId = state.machineId := by
  cases outcome <;> exact ⟨rfl, rfl⟩

/-- The action begins an episode. -/
def AlertAction.isOnset (action : AlertAction) : Bool :=
  decide (action = .opened ∨ action = .reopened)

/-- What an event says of the states around it. -/
structure Emits (state : AlertState) (decision : ScoreDecisionV1 F) (next : AlertState)
    (event : AlertEventV1) : Prop where
  session : event.replaySessionId = decision.replaySessionId
  machine : event.machineId = state.machineId
  active : next.activeAlertId = if event.action = .resolved then none else some event.alertId
  previous : next.previousAlertId =
    if event.action = .resolved then some event.alertId else state.previousAlertId
  firstDetection : next.firstDetection = some event.firstDetection
  lastDetection : next.lastDetection = some event.lastDetection
  resolvedAt : next.resolvedAt =
    if event.action = .resolved then some decision.sourceTimestamp else none
  onset : event.action.isOnset = true → state.activeAlertId = none
  inner : event.action.isOnset = false → state.activeAlertId = some event.alertId
  reopened : event.action = .reopened → state.previousAlertId = some event.alertId
  opened : event.action = .opened → event.alertId = state.newAlertId decision
  kept : event.action ≠ .opened →
    event.firstDetection = state.firstDetection.getD decision.sourceTimestamp
  candidates : next.activeAlertId = none → next.anomalyDecisionIds = []

/-- The alert a state is about. -/
def AlertState.SameAlert (state next : AlertState) : Prop :=
  next.activeAlertId = state.activeAlertId ∧ next.previousAlertId = state.previousAlertId ∧
    next.firstDetection = state.firstDetection ∧ next.lastDetection = state.lastDetection ∧
    next.resolvedAt = state.resolvedAt

omit [PyFloat F] in
/-- An outcome emits an event about its alert, or leaves the alert as it is. -/
theorem Outcome.emits (outcome : Outcome stamp state decision policy result) :
    (∃ event, result.event = some event ∧ Emits state decision result.state event) ∨
      (result.event = none ∧ state.SameAlert result.state) := by
  cases outcome with
  | pending _ quiet _ => exact .inr ⟨rfl, quiet.symm, rfl, rfl, rfl, rfl⟩
  | opened evidence _ quiet _ _ =>
      refine .inl ⟨_, rfl, ?_⟩
      constructor <;> simp [alertEvent, AlertState.raised, AlertAction.isOnset, quiet]
  | reopened evidence _ quiet _ _ previous =>
      refine .inl ⟨_, rfl, ?_⟩
      constructor <;> simp [alertEvent, AlertState.raised, AlertAction.isOnset, quiet, previous]
  | updated evidence _ active =>
      refine .inl ⟨_, rfl, ?_⟩
      constructor <;> simp [alertEvent, AlertState.raised, AlertAction.isOnset, active]
  | resolved _ active _ =>
      refine .inl ⟨_, rfl, ?_⟩
      constructor <;> simp [alertEvent, AlertState.resolved, AlertAction.isOnset, active]
  | cooling _ active _ => exact .inr ⟨rfl, rfl, rfl, rfl, rfl, rfl⟩
  | idle _ quiet => exact .inr ⟨rfl, quiet.symm, rfl, rfl, rfl, rfl⟩

omit [PyFloat F] in
/-- The candidates of an outcome are those of the state and the decision. -/
theorem Outcome.candidates (outcome : Outcome stamp state decision policy result) :
    ∀ id ∈ result.state.anomalyDecisionIds, id ∈ state.candidates decision := by
  have earlier : ∀ id ∈ state.anomalyDecisionIds, id ∈ state.candidates decision :=
    fun _ mem => List.mem_append_left _ mem
  cases outcome with
  | pending | opened | reopened | updated => exact fun _ mem => mem
  | resolved | idle => exact fun _ mem => absurd mem List.not_mem_nil
  | cooling => exact earlier

/-- A transition that returns finds the decision newer, or repeated. -/
theorem precedes_of_transition (fresh : state.lastDecisionId ≠ some decision.decisionId)
    (taken : transition stamp state decision policy = .ok result) : state.Precedes decision := by
  refine ⟨fresh, fun last held => ?_⟩
  unfold transition at taken
  rw [if_neg fresh, Option.mem_def.mp held, Option.filter_some] at taken
  by_contra late
  rw [if_pos (decide_eq_true (not_lt.mp late))] at taken
  cases taken

omit [PyFloat F] in
/-- An event has the message id of the stamp. -/
theorem Outcome.messageId (outcome : Outcome stamp state decision policy result) :
    ∀ event ∈ result.event, event.messageId = stamp.eventMessageId := by
  cases outcome with
  | pending | cooling | idle => exact fun _ held => nomatch held
  | opened | reopened | updated | resolved =>
      rintro _ ⟨⟩
      rfl

/-- A repeated decision changes nothing. -/
theorem transition_repeated (repeated : state.lastDecisionId = some decision.decisionId) :
    transition stamp state decision policy = .ok ⟨state, none, none⟩ := by
  unfold transition
  rw [if_pos repeated]

/-- A transition leaves the owner of the state. -/
theorem transition_owner (taken : transition stamp state decision policy = .ok result) :
    result.state.replaySessionId = state.replaySessionId ∧
      result.state.machineId = state.machineId := by
  by_cases repeated : state.lastDecisionId = some decision.decisionId
  · cases taken.symm.trans (transition_repeated repeated)
    exact ⟨rfl, rfl⟩
  · exact (transition_outcome repeated taken).owner

theorem transition_messageId (taken : transition stamp state decision policy = .ok result) :
    ∀ event ∈ result.event, event.messageId = stamp.eventMessageId := by
  by_cases repeated : state.lastDecisionId = some decision.decisionId
  · cases taken.symm.trans (transition_repeated repeated)
    exact fun _ held => nomatch held
  · exact (transition_outcome repeated taken).messageId

end IndustrialReliability
