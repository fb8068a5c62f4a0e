import IndustrialReliability.Alert.Reconstruction
import IndustrialReliability.Lib.Redelivery

/-!
Decisions that come again.

`AlertRecords.takes` is the decision path as a partial step: it takes a decision or
refuses it. Over a stream in which the decisions of each session strictly ascend in
time and no decision id is used in two sessions, a decision taken last is absorbed when
it comes again, and a refused one stays without effect (`absorbs`).
-/

namespace IndustrialReliability

variable {F : Type} [PyFloat F] [Uuid5]

namespace AlertRecords

/-- The records after a decision; nothing when the load, the transition or the
transaction refuses it. -/
def takes (config : AlertConsumerConfig F) (records : AlertRecords F)
    (decision : ScoreDecisionV1 F) : Option (AlertRecords F) :=
  match records.load decision.replaySessionId config.machineId config.policy with
  | .error _ => none
  | .ok (state, loaded) =>
      match transition blankStamp state decision config.policy with
      | .error _ => none
      | .ok result => loaded.transact decision result.unstamped

/-- The stored state of a session. -/
def stateOf (config : AlertConsumerConfig F) (records : AlertRecords F) (session : UUID) :
    AlertState :=
  match records.alertRuntimeStates.get? (session, config.machineId) with
  | some payload => stateFromPayload payload
  | none => .empty session config.machineId

/-- The states are their sessions', and every session with a decision has one. -/
structure Tidy (config : AlertConsumerConfig F) (records : AlertRecords F) : Prop where
  owns : OwnsStates records
  stored : ∀ row ∈ records.scoreDecisions.values,
    (records.alertRuntimeStates.get? (row.replaySessionId, config.machineId)).isSome

variable {config : AlertConsumerConfig F} {records recorded : AlertRecords F}
  {decision : ScoreDecisionV1 F}

omit [PyFloat F] [Uuid5] in
theorem tidy_empty (config : AlertConsumerConfig F) :
    (RuntimeStore.empty (F := F)).records.Tidy config where
  owns _ _ _ held := nomatch held
  stored := nofun

omit [PyFloat F] [Uuid5] in
theorem Tidy.owner (tidy : records.Tidy config) (session : UUID) :
    (records.stateOf config session).replaySessionId = session ∧
      (records.stateOf config session).machineId = config.machineId := by
  unfold stateOf
  cases held : records.alertRuntimeStates.get? (session, config.machineId) with
  | none => exact ⟨rfl, rfl⟩
  | some payload => exact tidy.owns session config.machineId payload held

/-- Loading from tidy records reads the stored state and writes nothing. -/
theorem Tidy.load (tidy : records.Tidy config) (session : UUID) :
    records.load session config.machineId config.policy =
      .ok (records.stateOf config session, records) := by
  unfold AlertRecords.load stateOf
  cases held : records.alertRuntimeStates.get? (session, config.machineId) with
  | some payload => rfl
  | none =>
      dsimp only
      rw [if_neg]
      intro any
      obtain ⟨row, mem, same⟩ := List.any_eq_true.mp any
      have stored := tidy.stored row mem
      rw [eq_of_beq same, held] at stored
      cases stored

theorem Tidy.takes_eq (tidy : records.Tidy config) : records.takes config decision =
    match transition blankStamp (records.stateOf config decision.replaySessionId) decision
      config.policy with
    | .error _ => none
    | .ok result => records.transact decision result.unstamped := by
  unfold takes
  rw [tidy.load]

/-- A decision that is taken has gone through. -/
theorem Tidy.exists_result (tidy : records.Tidy config)
    (taken : records.takes config decision = some recorded) :
    ∃ result, transition blankStamp (records.stateOf config decision.replaySessionId) decision
        config.policy = .ok result ∧ records.transact decision result.unstamped = some recorded := by
  rw [tidy.takes_eq] at taken
  split at taken
  · cases taken
  · rename_i result folded
    exact ⟨result, folded, taken⟩

/-- The state of the session after a decision is that of the transition, and the other
states stay. -/
theorem Tidy.states (tidy : records.Tidy config) {result : TransitionResult F}
    (folded : transition blankStamp (records.stateOf config decision.replaySessionId) decision
      config.policy = .ok result)
    (committed : records.transact decision result.unstamped = some recorded) :
    recorded.alertRuntimeStates.get? (decision.replaySessionId, config.machineId) =
        some (statePayload result.state) ∧
      ∀ key, key ≠ (decision.replaySessionId, config.machineId) →
        recorded.alertRuntimeStates.get? key = records.alertRuntimeStates.get? key := by
  obtain ⟨ofSession, ofMachine⟩ := tidy.owner decision.replaySessionId
  obtain ⟨keptSession, keptMachine⟩ := transition_owner folded
  have key : (result.unstamped.state.replaySessionId, result.unstamped.state.machineId) =
      (decision.replaySessionId, config.machineId) :=
    Prod.ext (keptSession.trans ofSession) (keptMachine.trans ofMachine)
  rw [(transact_eq_some committed).2]
  unfold RuntimeStore.upsertStateRow
  rw [key]
  constructor
  · rw [Lib.Table.get?_upsert_self]
    cases records.alertRuntimeStates.get? (decision.replaySessionId, config.machineId) <;> rfl
  · intro other differs
    exact Lib.Table.get?_upsert_ne differs

theorem Tidy.takes (tidy : records.Tidy config)
    (taken : records.takes config decision = some recorded) : recorded.Tidy config := by
  obtain ⟨result, folded, committed⟩ := tidy.exists_result taken
  obtain ⟨here, elsewhere⟩ := tidy.states folded committed
  refine ⟨tidy.owns.transact committed, fun row mem => ?_⟩
  by_cases mine : row.replaySessionId = decision.replaySessionId
  · rw [mine, here]
    rfl
  · rw [elsewhere _ fun same => mine (Prod.mk.inj same).1]
    rw [(transact_eq_some committed).1] at mem
    obtain ⟨key, held⟩ := Lib.Table.mem_values_iff.mp mem
    rcases Lib.Table.get?_insertNew_eq_some held with before | ⟨-, rfl⟩
    · exact tidy.stored row (Lib.Table.mem_values_iff.mpr ⟨key, before⟩)
    · exact absurd rfl mine

/-! ### A decision that is taken again -/

/-- A transition that returns has seen the decision. -/
theorem seen_of_transition {state : AlertState} {result : TransitionResult F}
    (folded : transition blankStamp state decision config.policy = .ok result) :
    result.state.lastDecisionId = some decision.decisionId := by
  by_cases repeated : state.lastDecisionId = some decision.decisionId
  · cases folded.symm.trans (transition_repeated repeated)
    exact repeated
  · exact (transition_outcome repeated folded).seen.1

/-- The decision seen last by a stored state changes nothing. -/
theorem Tidy.takes_repeated (tidy : records.Tidy config) {state : AlertState}
    (stored : records.alertRuntimeStates.get? (decision.replaySessionId, config.machineId) =
      some (statePayload state))
    (repeated : state.lastDecisionId = some decision.decisionId) (storable : decision.Storable)
    (present : (records.scoreDecisions.get? decision.decisionId).isSome) :
    records.takes config decision = some records := by
  have held : records.stateOf config decision.replaySessionId = state := by
    unfold stateOf
    rw [stored]
    exact stateFromPayload_statePayload state
  obtain ⟨ofSession, ofMachine⟩ := tidy.owner decision.replaySessionId
  rw [held] at ofSession ofMachine
  have inserted : records.insertDecision decision = some records.scoreDecisions := by
    unfold insertDecision
    rw [if_neg (not_not.mpr storable), if_pos present]
  have same : RuntimeStore.upsertStateRow records.alertRuntimeStates state =
      records.alertRuntimeStates := by
    unfold RuntimeStore.upsertStateRow
    rw [ofSession, ofMachine]
    exact Lib.Table.upsert_same stored
  rw [tidy.takes_eq, held, transition_repeated repeated]
  change (records.insertDecision decision).bind _ = _
  rw [inserted]
  change some { records with
    alertRuntimeStates := RuntimeStore.upsertStateRow records.alertRuntimeStates state } = _
  rw [same]

theorem Tidy.takes_again (tidy : records.Tidy config)
    (taken : records.takes config decision = some recorded) {again : ScoreDecisionV1 F}
    (storable : again.Storable) (sameId : again.decisionId = decision.decisionId)
    (sameSession : again.replaySessionId = decision.replaySessionId) :
    recorded.takes config again = some recorded := by
  obtain ⟨result, folded, committed⟩ := tidy.exists_result taken
  have stored := (tidy.states folded committed).1
  rw [← sameSession] at stored
  refine (tidy.takes taken).takes_repeated stored ?_ storable ?_
  · rw [sameId]
    exact seen_of_transition folded
  · rw [(transact_eq_some committed).1, sameId]
    exact Lib.Table.isSome_get?_insertNew_self _ _ _

/-! ### A decision that is refused again -/

/-- The records with the rows of one more decision. -/
structure Grows (records : AlertRecords F) (decision : ScoreDecisionV1 F)
    (recorded : AlertRecords F) : Prop where
  decisions : recorded.scoreDecisions =
    records.scoreDecisions.insertNew decision.decisionId decision.unstamped
  events : ∀ row ∈ records.alertEvents, row ∈ recorded.alertEvents
  evidence : recorded.evidenceSnapshots = records.evidenceSnapshots ∨
    ∃ id row, row.decisionId = decision.decisionId ∧
      recorded.evidenceSnapshots = records.evidenceSnapshots.insertNew id row

omit [PyFloat F] [Uuid5] in
theorem grows_of_transact {result : TransitionResult F}
    (committed : records.transact decision result = some recorded) :
    records.Grows decision recorded := by
  have decisions := (transact_eq_some committed).1
  obtain ⟨rows, -, committed⟩ := Option.bind_eq_some_iff.mp committed
  obtain ⟨withEvent, second, last⟩ := Option.bind_eq_some_iff.mp committed
  cases last
  cases emitted : result.event with
  | none =>
      rw [emitted] at second
      cases second
      exact ⟨decisions, fun _ mem => mem, .inl rfl⟩
  | some event =>
      rw [emitted] at second
      unfold insertEvent at second
      dsimp only at second
      split at second
      · cases second
      · obtain ⟨snapshots, third, last⟩ := Option.bind_eq_some_iff.mp second
        cases last
        refine ⟨decisions, fun _ mem => List.mem_append_left _ mem, ?_⟩
        change snapshots = _ ∨ ∃ id row, _ ∧ snapshots = _
        cases shown : result.evidence with
        | none =>
            rw [shown] at third
            exact .inl (Option.some.inj third).symm
        | some evidence =>
            rw [shown] at third
            unfold insertEvidence at third
            dsimp only at third
            split at third
            · exact .inl (Option.some.inj third).symm
            · split at third
              · cases third
              · exact .inr ⟨_, _, rfl, (Option.some.inj third).symm⟩

omit [PyFloat F] [Uuid5] in
theorem insertEvent_isSome_iff {event : Option AlertEventV1}
    {evidence : Option (EvidenceSnapshotV1 F)} :
    (records.insertEvent decision event evidence).isSome ↔ ∀ emitted ∈ event,
      records.hasEvent decision emitted = false ∧
        (records.insertEvidence decision evidence).isSome := by
  cases event with
  | none => simp [insertEvent]
  | some event =>
      unfold insertEvent
      dsimp only
      cases held : records.hasEvent decision event with
      | true => simp [held]
      | false => cases records.insertEvidence decision evidence <;> simp [held]

omit [PyFloat F] [Uuid5] in
theorem transact_isSome_iff {result : TransitionResult F} :
    (records.transact decision result).isSome ↔ (records.insertDecision decision).isSome ∧
      (records.insertEvent decision result.event result.evidence).isSome := by
  unfold transact
  cases first : records.insertDecision decision with
  | none => simp
  | some rows =>
      have same : (({ records with scoreDecisions := rows } : AlertRecords F).insertEvent decision
          result.event result.evidence).isSome ↔
          (records.insertEvent decision result.event result.evidence).isSome := by
        rw [insertEvent_isSome_iff, insertEvent_isSome_iff]
        cases result.evidence <;> exact Iff.rfl
      rw [← same]
      change (Option.bind (({ records with scoreDecisions := rows } : AlertRecords F).insertEvent
        decision result.event result.evidence) _).isSome = true ↔ _
      generalize ({ records with scoreDecisions := rows } : AlertRecords F).insertEvent decision
        result.event result.evidence = inserted
      cases inserted <;> simp

section Refused

variable {later : ScoreDecisionV1 F} (grows : records.Grows later recorded)
  (other : decision.decisionId ≠ later.decisionId)
include grows other

omit [PyFloat F] [Uuid5] in
theorem Grows.insertDecision_of (free : (recorded.insertDecision decision).isSome) :
    (records.insertDecision decision).isSome := by
  have same : recorded.scoreDecisions.get? decision.decisionId =
      records.scoreDecisions.get? decision.decisionId := by
    rw [grows.decisions]
    exact Lib.Table.get?_insertNew_ne other
  unfold insertDecision at free ⊢
  rw [same] at free
  split
  · rename_i refused
    rw [if_pos refused] at free
    cases free
  · rename_i storable
    rw [if_neg storable] at free
    split
    · rfl
    · rename_i absent
      rw [if_neg absent] at free
      rw [if_neg]
      · rfl
      · intro taken
        obtain ⟨row, mem, window⟩ := List.any_eq_true.mp taken
        obtain ⟨key, held⟩ := Lib.Table.mem_values_iff.mp mem
        have kept : row ∈ recorded.scoreDecisions.values := by
          rw [grows.decisions]
          exact Lib.Table.mem_values_iff.mpr ⟨key, Lib.Table.get?_insertNew_of_some held⟩
        rw [if_pos (List.any_eq_true.mpr ⟨row, kept, window⟩)] at free
        cases free

omit [PyFloat F] [Uuid5] in
theorem Grows.insertEvidence_of {evidence : Option (EvidenceSnapshotV1 F)}
    (free : (recorded.insertEvidence decision evidence).isSome) :
    (records.insertEvidence decision evidence).isSome := by
  cases evidence with
  | none => rfl
  | some evidence =>
      rcases grows.evidence with same | ⟨id, added, owner, same⟩
      · unfold insertEvidence at free ⊢
        rw [same] at free
        exact free
      · unfold insertEvidence at free ⊢
        dsimp only at free ⊢
        split
        · rfl
        · rename_i unpaired
          rw [if_neg] at free
          · split
            · rename_i taken
              obtain ⟨row, held⟩ := Option.isSome_iff_exists.mp taken
              rw [if_pos] at free
              · cases free
              · rw [same, Lib.Table.get?_insertNew_of_some held]
                rfl
            · rfl
          · intro paired
            obtain ⟨row, mem, pair⟩ := List.any_eq_true.mp paired
            rw [Bool.and_eq_true, beq_iff_eq, beq_iff_eq] at pair
            rw [same] at mem
            obtain ⟨key, held⟩ := Lib.Table.mem_values_iff.mp mem
            rcases Lib.Table.get?_insertNew_eq_some held with before | ⟨-, rfl⟩
            · refine unpaired (List.any_eq_true.mpr
                ⟨row, Lib.Table.mem_values_iff.mpr ⟨key, before⟩, ?_⟩)
              rw [Bool.and_eq_true, beq_iff_eq, beq_iff_eq]
              exact pair
            · exact other (pair.2.symm.trans owner)

omit [PyFloat F] [Uuid5] in
/-- What the records refuse for another decision, they refuse when they have grown. -/
theorem Grows.transact_of {result : TransitionResult F}
    (free : (recorded.transact decision result).isSome) :
    (records.transact decision result).isSome := by
  rw [transact_isSome_iff, insertEvent_isSome_iff] at free ⊢
  refine ⟨grows.insertDecision_of other free.1, fun emitted held => ?_⟩
  obtain ⟨absent, snapshots⟩ := free.2 emitted held
  refine ⟨?_, grows.insertEvidence_of other snapshots⟩
  rw [← Bool.not_eq_true] at absent ⊢
  intro present
  obtain ⟨row, mem, same⟩ := List.any_eq_true.mp present
  exact absent (List.any_eq_true.mpr ⟨row, grows.events row mem, same⟩)

end Refused

/-- A refused decision has no effect after a later one is taken. -/
theorem Tidy.takes_late (tidy : records.Tidy config) {later : ScoreDecisionV1 F}
    (ownId : decision.decisionId = later.decisionId →
      decision.replaySessionId = later.replaySessionId)
    (before : decision.replaySessionId = later.replaySessionId →
      decision.sourceTimestamp < later.sourceTimestamp)
    (refused : records.takes config decision = none)
    (taken : records.takes config later = some recorded) :
    recorded.takes config decision = none ∨ recorded.takes config decision = some recorded := by
  by_cases sameId : decision.decisionId = later.decisionId
  · cases again : recorded.takes config decision with
    | none => exact .inl rfl
    | some next =>
        obtain ⟨result, -, committed⟩ := (tidy.takes taken).exists_result again
        have same := tidy.takes_again taken (storable_of_transact committed) sameId (ownId sameId)
        exact .inr (again.symm.trans same)
  · left
    rw [Option.eq_none_iff_forall_not_mem]
    intro again takes
    obtain ⟨result, folded, committed⟩ := tidy.exists_result taken
    obtain ⟨here, elsewhere⟩ := tidy.states folded committed
    obtain ⟨result', folded', committed'⟩ := (tidy.takes taken).exists_result takes
    -- The decision folds into the state it was refused on.
    have same : recorded.stateOf config decision.replaySessionId =
        records.stateOf config decision.replaySessionId := by
      by_cases mine : decision.replaySessionId = later.replaySessionId
      · by_cases repeated :
          (records.stateOf config later.replaySessionId).lastDecisionId = some later.decisionId
        · cases folded.symm.trans (transition_repeated repeated)
          unfold stateOf
          rw [mine, here]
          exact stateFromPayload_statePayload _
        · have stored : recorded.stateOf config decision.replaySessionId = result.state := by
            unfold stateOf
            rw [mine, here]
            exact stateFromPayload_statePayload _
          obtain ⟨lastId, lastTimestamp⟩ := (transition_outcome repeated folded).seen
          rw [stored] at folded'
          have fresh : result.state.lastDecisionId ≠ some decision.decisionId := by
            rw [lastId]
            exact fun same => sameId (Option.some.inj same).symm
          have newer := (precedes_of_transition fresh folded').later _ lastTimestamp
          exact absurd newer (not_lt.mpr (before mine).le)
      · unfold stateOf
        rw [elsewhere _ fun same => mine (Prod.mk.inj same).1]
    rw [same] at folded'
    have free := (grows_of_transact committed).transact_of sameId (by rw [committed']; rfl)
    rw [tidy.takes_eq, folded'] at refused
    have refused : records.transact decision result'.unstamped = none := refused
    rw [refused] at free
    cases free

end AlertRecords

/-! ### A stream of decisions -/

/-- The decisions of a session ascend in time, and no decision id is used in two
sessions. -/
structure SessionsInOrder (decisions : List (ScoreDecisionV1 F)) : Prop where
  ascending : decisions.Pairwise fun earlier later =>
    earlier.replaySessionId = later.replaySessionId →
      earlier.sourceTimestamp < later.sourceTimestamp
  ownIds : ∀ a ∈ decisions, ∀ b ∈ decisions, a.decisionId = b.decisionId →
    a.replaySessionId = b.replaySessionId

/-- The records after the decisions, each processed once. -/
def recordsAfter (config : AlertConsumerConfig F) (decisions : List (ScoreDecisionV1 F)) :
    AlertRecords F :=
  Lib.afterItems (AlertRecords.takes config) RuntimeStore.empty.records decisions

variable {config : AlertConsumerConfig F} {decisions : List (ScoreDecisionV1 F)}

theorem tidy_takenUpTo (config : AlertConsumerConfig F) (decisions : List (ScoreDecisionV1 F))
    (n : Nat) : (Lib.takenUpTo (AlertRecords.takes config) RuntimeStore.empty.records decisions
      n).Tidy config := by
  induction n with
  | zero => exact AlertRecords.tidy_empty config
  | succ n ih =>
      cases held : decisions[n]? with
      | none =>
          unfold Lib.takenUpTo at ih ⊢
          rwa [List.take_add_one, held, Option.toList_none, List.append_nil]
      | some decision =>
          rw [Lib.takenUpTo_succ held]
          cases taken : AlertRecords.takes config (Lib.takenUpTo (AlertRecords.takes config)
              RuntimeStore.empty.records decisions n) decision with
          | none => rwa [Lib.afterItem_none taken]
          | some recorded =>
              rw [Lib.afterItem_some taken]
              exact ih.takes taken

/-- The records absorb a stream in order of time. -/
theorem SessionsInOrder.absorbs (ordered : SessionsInOrder decisions) :
    Lib.Absorbs (AlertRecords.takes config) RuntimeStore.empty.records decisions where
  again n decision recorded _ taken := by
    have tidy := tidy_takenUpTo config decisions n
    obtain ⟨result, -, committed⟩ := tidy.exists_result taken
    exact tidy.takes_again taken (AlertRecords.storable_of_transact committed) rfl rfl
  late i j a b recorded less held held' refused taken := by
    have inside := List.mem_of_getElem? held
    have inside' := List.mem_of_getElem? held'
    have before : a.replaySessionId = b.replaySessionId →
        a.sourceTimestamp < b.sourceTimestamp := by
      obtain ⟨boundI, rfl⟩ := List.getElem?_eq_some_iff.mp held
      obtain ⟨boundJ, rfl⟩ := List.getElem?_eq_some_iff.mp held'
      exact List.pairwise_iff_getElem.mp ordered.ascending i j boundI boundJ less
    rcases (tidy_takenUpTo config decisions j).takes_late (ordered.ownIds a inside b inside') before
      refused taken with none | same
    · exact Lib.afterItem_none none
    · exact Lib.afterItem_some same

end IndustrialReliability
