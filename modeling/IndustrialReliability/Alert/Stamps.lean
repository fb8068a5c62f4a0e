import IndustrialReliability.Alert.State
import IndustrialReliability.Lib.Results

/-!
What a transition takes from its stamp, and where its ids come from.

The random ids and clock readings of a transition appear in the messages it
emits and nowhere else: two stamps give the same result up to them
(`transition_unstamped`). The alert ids are those of the decisions seen
(`transition_shape`).
-/

namespace IndustrialReliability

variable {F : Type}

def AlertEventV1.unstamped (event : AlertEventV1) : AlertEventV1 :=
  { event with messageId := 0, emittedAt := ⟨0⟩ }

def EvidenceSnapshotV1.unstamped (snapshot : EvidenceSnapshotV1 F) : EvidenceSnapshotV1 F :=
  { snapshot with messageId := 0, emittedAt := ⟨0⟩ }

/-- The result without the random ids and emission times of its messages. -/
def TransitionResult.unstamped (result : TransitionResult F) : TransitionResult F where
  state := result.state
  event := result.event.map (·.unstamped)
  evidence := result.evidence.map (·.unstamped)

theorem construct_map_congr {X Y : Type} [FrozenMessage X] {x y : X} {f : X → Y}
    (checks : FrozenMessage.checks x = FrozenMessage.checks y) (image : f x = f y) :
    (construct x).map f = (construct y).map f := by
  unfold construct
  rw [checks]
  split
  · rfl
  · exact congrArg Except.ok image

variable [PyFloat F] [Uuid5] {stamp stamp' : TransitionStamp} {state : AlertState}
  {decision : ScoreDecisionV1 F} {policy : LockedAlertPolicyV1 F}

/-! ### Two stamps -/

theorem buildEvidenceSnapshot_unstamped (stamp stamp' : TransitionStamp) (alertId : UUID)
    (decision : ScoreDecisionV1 F) :
    (buildEvidenceSnapshot stamp alertId decision).map (·.unstamped) =
      (buildEvidenceSnapshot stamp' alertId decision).map (·.unstamped) := by
  refine Lib.map_bind_congr (f := id) rfl fun deviations deviations' same => ?_
  obtain rfl : deviations = deviations' := same
  exact construct_map_congr rfl rfl

theorem emitAnomalyResult_unstamped (stamp stamp' : TransitionStamp) (state : AlertState)
    (decision : ScoreDecisionV1 F) (policy : LockedAlertPolicyV1 F) (action : AlertAction)
    (alertId : UUID) (firstDet : Int) (streak : Nat) (ids : List UUID) :
    (emitAnomalyResult stamp state decision policy action alertId firstDet streak ids).map
        (·.unstamped) =
      (emitAnomalyResult stamp' state decision policy action alertId firstDet streak ids).map
        (·.unstamped) := by
  refine Lib.map_bind_congr (f := AlertEventV1.unstamped) (construct_map_congr rfl rfl)
    fun event event' sameEvent => ?_
  refine Lib.map_bind_congr (buildEvidenceSnapshot_unstamped stamp stamp' alertId decision)
    fun evidence evidence' sameEvidence => ?_
  exact congrArg Except.ok (congrArg₂ (TransitionResult.mk _) (congrArg some sameEvent)
    (congrArg some sameEvidence))

omit [PyFloat F] [Uuid5] in
theorem handleNormal_unstamped (stamp stamp' : TransitionStamp) (state : AlertState)
    (decision : ScoreDecisionV1 F) (policy : LockedAlertPolicyV1 F) :
    (handleNormal stamp state decision policy).map (·.unstamped) =
      (handleNormal stamp' state decision policy).map (·.unstamped) := by
  unfold handleNormal
  cases state.activeAlertId with
  | none => rfl
  | some alertId =>
      dsimp only
      split
      · refine Lib.map_bind_congr (f := AlertEventV1.unstamped) (construct_map_congr rfl rfl)
          fun event event' same => ?_
        exact congrArg Except.ok (congrArg₂ (TransitionResult.mk _) (congrArg some same) rfl)
      · rfl

omit [PyFloat F] [Uuid5] in
theorem raising_map {α β : Type} {x y : Except ValidationError α} {f : α → β}
    (same : x.map f = y.map f) : (raising x).map f = (raising y).map f := by
  cases x with
  | error e =>
      cases y with
      | error e' =>
          cases same
          rfl
      | ok b => cases same
  | ok a =>
      cases y with
      | error e' => cases same
      | ok b => exact congrArg Except.ok (Except.ok.inj same)

/-- A transition depends on its stamp only in the messages. -/
theorem transition_unstamped (stamp stamp' : TransitionStamp) (state : AlertState)
    (decision : ScoreDecisionV1 F) (policy : LockedAlertPolicyV1 F) :
    (transition stamp state decision policy).map (·.unstamped) =
      (transition stamp' state decision policy).map (·.unstamped) := by
  unfold transition
  split
  · rfl
  · split
    · rfl
    · split
      · dsimp only
        split
        · refine raising_map ?_
          unfold handleAnomalyTrigger
          split
          · rfl
          · exact emitAnomalyResult_unstamped _ _ _ _ _ _ _ _ _ _
        · exact raising_map (emitAnomalyResult_unstamped _ _ _ _ _ _ _ _ _ _)
      · exact raising_map (handleNormal_unstamped _ _ _ _ _)

/-! ### The ids of a result -/

/-- The alerts of a state are those of decisions in `seen`, and so are its
candidate decisions. -/
structure AlertState.DrawnFrom (seen : UUID → Prop) (state : AlertState) : Prop where
  active : ∀ alertId ∈ state.activeAlertId,
    ∃ first, seen first ∧ alertId = alertIdFor state.replaySessionId first
  previous : ∀ alertId ∈ state.previousAlertId,
    ∃ first, seen first ∧ alertId = alertIdFor state.replaySessionId first
  candidates : ∀ id ∈ state.anomalyDecisionIds, seen id

omit [PyFloat F] in
theorem AlertState.DrawnFrom.mono {seen seen' : UUID → Prop} (drawn : state.DrawnFrom seen)
    (more : ∀ id, seen id → seen' id) : state.DrawnFrom seen' where
  active alertId held := by
    obtain ⟨first, mem, same⟩ := drawn.active alertId held
    exact ⟨first, more first mem, same⟩
  previous alertId held := by
    obtain ⟨first, mem, same⟩ := drawn.previous alertId held
    exact ⟨first, more first mem, same⟩
  candidates id mem := more id (drawn.candidates id mem)

/-- What a result keeps of the state, and the ids it uses. -/
structure TransitionShape (stamp : TransitionStamp) (seen : UUID → Prop) (state : AlertState)
    (decision : ScoreDecisionV1 F) (result : TransitionResult F) : Prop where
  session : result.state.replaySessionId = state.replaySessionId
  machine : result.state.machineId = state.machineId
  drawn : result.state.DrawnFrom seen
  event : ∀ event ∈ result.event, event.messageId = stamp.eventMessageId ∧
    ∃ first, seen first ∧ event.alertId = alertIdFor state.replaySessionId first
  evidence : ∀ evidence ∈ result.evidence, ∃ event ∈ result.event,
    evidence.evidenceId = evidenceIdFor event.alertId decision.decisionId

theorem emitAnomalyResult_shape {seen : UUID → Prop} {action : AlertAction} {alertId : UUID}
    {firstDet : Int} {streak : Nat} {ids : List UUID} {result : TransitionResult F}
    (drawn : state.DrawnFrom seen) (fromSeen : ∀ id ∈ ids, seen id)
    (alert : ∃ first, seen first ∧ alertId = alertIdFor state.replaySessionId first)
    (emitted : emitAnomalyResult stamp state decision policy action alertId firstDet streak ids =
      .ok result) : TransitionShape stamp seen state decision result := by
  obtain ⟨event, made, emitted⟩ := Lib.bind_eq_ok_iff.mp emitted
  obtain ⟨evidence, built, emitted⟩ := Lib.bind_eq_ok_iff.mp emitted
  obtain rfl := Lib.pure_eq_ok_iff.mp emitted
  obtain ⟨-, rfl⟩ := construct_eq_ok_iff.mp made
  obtain ⟨deviations, -, built⟩ := Lib.bind_eq_ok_iff.mp built
  obtain ⟨-, rfl⟩ := construct_eq_ok_iff.mp built
  refine ⟨rfl, rfl, ⟨?_, drawn.previous, fromSeen⟩, ?_, ?_⟩
  · intro alertId' same
    obtain rfl := Option.some.inj same
    exact alert
  · intro event' same
    obtain rfl := Option.some.inj same
    exact ⟨rfl, alert⟩
  · intro evidence' same
    obtain rfl := Option.some.inj same
    exact ⟨_, rfl, rfl⟩

omit [PyFloat F] in
theorem handleNormal_shape {seen : UUID → Prop} {result : TransitionResult F}
    (drawn : state.DrawnFrom seen)
    (handled : handleNormal stamp state decision policy = .ok result) :
    TransitionShape stamp seen state decision result := by
  unfold handleNormal at handled
  cases held : state.activeAlertId with
  | none =>
      rw [held] at handled
      cases handled
      exact ⟨rfl, rfl, ⟨nofun, drawn.previous, nofun⟩, nofun, nofun⟩
  | some alertId =>
      rw [held] at handled
      have alert := drawn.active alertId held
      dsimp only at handled
      split at handled
      · obtain ⟨event, made, handled⟩ := Lib.bind_eq_ok_iff.mp handled
        obtain rfl := Lib.pure_eq_ok_iff.mp handled
        obtain ⟨-, rfl⟩ := construct_eq_ok_iff.mp made
        refine ⟨rfl, rfl, ⟨nofun, fun alertId' same => ?_, nofun⟩, fun event' same => ?_, nofun⟩
        · obtain rfl := Option.some.inj same
          exact alert
        · obtain rfl := Option.some.inj same
          exact ⟨rfl, alert⟩
      · cases handled
        exact ⟨rfl, rfl, ⟨drawn.active, drawn.previous, drawn.candidates⟩, nofun, nofun⟩

theorem handleAnomalyTrigger_shape {seen : UUID → Prop} {streak : Nat} {ids : List UUID}
    {result : TransitionResult F} (drawn : state.DrawnFrom seen) (self : seen decision.decisionId)
    (session : decision.replaySessionId = state.replaySessionId) (fromSeen : ∀ id ∈ ids, seen id)
    (handled : handleAnomalyTrigger stamp state decision policy streak ids = .ok result) :
    TransitionShape stamp seen state decision result := by
  unfold handleAnomalyTrigger at handled
  split at handled
  · cases handled
    exact ⟨rfl, rfl, ⟨nofun, drawn.previous, fromSeen⟩, nofun, nofun⟩
  · dsimp only at handled
    refine emitAnomalyResult_shape drawn fromSeen ?_ handled
    split
    · rename_i previous _ held
      exact drawn.previous previous held
    · refine ⟨ids.headD decision.decisionId, ?_, by rw [session]⟩
      cases ids with
      | nil => exact self
      | cons first rest => exact fromSeen first List.mem_cons_self

/-- A decision of the session, seen itself, draws its ids from the decisions seen. -/
theorem transition_shape {seen : UUID → Prop} {result : TransitionResult F}
    (drawn : state.DrawnFrom seen) (self : seen decision.decisionId)
    (session : decision.replaySessionId = state.replaySessionId)
    (taken : transition stamp state decision policy = .ok result) :
    TransitionShape stamp seen state decision result := by
  have fromSeen : ∀ id ∈ state.anomalyDecisionIds ++ [decision.decisionId], seen id := by
    intro id mem
    rcases List.mem_append.mp mem with old | last
    · exact drawn.candidates id old
    · rw [List.mem_singleton.mp last]
      exact self
  unfold transition at taken
  split at taken
  · cases taken
    exact ⟨rfl, rfl, drawn, nofun, nofun⟩
  · split at taken
    · cases taken
    · split at taken
      · dsimp only at taken
        split at taken
        · exact handleAnomalyTrigger_shape drawn self session fromSeen
            (raising_eq_ok_iff.mp taken)
        · rename_i alertId held
          exact emitAnomalyResult_shape drawn fromSeen (drawn.active alertId held)
            (raising_eq_ok_iff.mp taken)
      · exact handleNormal_shape drawn (raising_eq_ok_iff.mp taken)

end IndustrialReliability
