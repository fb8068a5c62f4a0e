import IndustrialReliability.Alert.Records

/-!
The state reconstructed from the persisted decisions.

`load_alert_state` folds the persisted decisions of a session when its runtime state
is missing. `Incremental` says that this fold gives the stored state: the rows of the
session are the decisions it has taken, in order of time. It is kept by every
decision (`Incremental.apply`), so that a service which has lost the row goes on with
the same state and emits the same events (`reconstruction_incremental`).

The rows are keyed by decision id. A decision that reuses the id of an earlier one is
folded into the stored state without a row of its own (`reconstruction_differs`).
-/

namespace IndustrialReliability

variable {F : Type}

/-- The store without the runtime state of a session and machine. -/
def RuntimeStore.loseState (store : RuntimeStore F) (session : UUID) (machineId : String) :
    RuntimeStore F :=
  { store with alertRuntimeStates := store.alertRuntimeStates.erase (session, machineId) }

section Live

variable [PyFloat F] [Uuid5]

namespace AlertRecords

variable {records recorded loaded : AlertRecords F} {decision : ScoreDecisionV1 F}
  {result : TransitionResult F} {session : UUID} {machineId : String}
  {policy : LockedAlertPolicyV1 F} {state : AlertState}

/-! ### What the operations write -/

omit [PyFloat F] [Uuid5] in
theorem insertDecision_eq_some {rows : Lib.Table UUID (ScoreDecisionV1 F)}
    (inserted : records.insertDecision decision = some rows) :
    rows = records.scoreDecisions.insertNew decision.decisionId decision.unstamped := by
  unfold insertDecision at inserted
  split at inserted
  · cases inserted
  · split at inserted
    · rename_i present
      obtain ⟨row, held⟩ := Option.isSome_iff_exists.mp present
      rw [Lib.Table.insertNew_of_some held]
      exact (Option.some.inj inserted).symm
    · split at inserted
      · cases inserted
      · exact (Option.some.inj inserted).symm

omit [PyFloat F] [Uuid5] in
theorem insertEvent_eq_some {event : Option AlertEventV1} {evidence : Option (EvidenceSnapshotV1 F)}
    (inserted : records.insertEvent decision event evidence = some recorded) :
    recorded.scoreDecisions = records.scoreDecisions ∧
      recorded.alertRuntimeStates = records.alertRuntimeStates := by
  cases event with
  | none =>
      cases inserted
      exact ⟨rfl, rfl⟩
  | some event =>
      unfold insertEvent at inserted
      dsimp only at inserted
      split at inserted
      · cases inserted
      · obtain ⟨rows, -, last⟩ := Option.bind_eq_some_iff.mp inserted
        cases last
        exact ⟨rfl, rfl⟩

omit [PyFloat F] [Uuid5] in
theorem transact_eq_some (committed : records.transact decision result = some recorded) :
    recorded.scoreDecisions =
        records.scoreDecisions.insertNew decision.decisionId decision.unstamped ∧
      recorded.alertRuntimeStates =
        RuntimeStore.upsertStateRow records.alertRuntimeStates result.state := by
  obtain ⟨rows, first, committed⟩ := Option.bind_eq_some_iff.mp committed
  obtain ⟨withEvent, second, last⟩ := Option.bind_eq_some_iff.mp committed
  obtain ⟨decisions, states⟩ := insertEvent_eq_some second
  cases last
  exact ⟨decisions.trans (insertDecision_eq_some first), by rw [states]⟩

omit [PyFloat F] [Uuid5] in
theorem storable_of_transact (committed : records.transact decision result = some recorded) :
    decision.Storable := by
  obtain ⟨rows, first, -⟩ := Option.bind_eq_some_iff.mp committed
  by_contra refused
  unfold insertDecision at first
  rw [if_pos refused] at first
  cases first

omit [PyFloat F] [Uuid5] in
theorem insertEvent_states (records : AlertRecords F) (decision : ScoreDecisionV1 F)
    (event : Option AlertEventV1) (evidence : Option (EvidenceSnapshotV1 F))
    (states : Lib.Table (UUID × String) StatePayload) :
    { records with alertRuntimeStates := states }.insertEvent decision event evidence =
      (records.insertEvent decision event evidence).map fun recorded => { recorded with
        alertRuntimeStates := states } := by
  cases event with
  | none => rfl
  | some event =>
      have sameRows : ({ records with alertRuntimeStates := states } : AlertRecords F).insertEvidence
          decision evidence = records.insertEvidence decision evidence := by
        cases evidence <;> rfl
      unfold insertEvent
      dsimp only
      rw [sameRows]
      change (if records.hasEvent decision event then _ else _) = _
      split
      · rfl
      · cases records.insertEvidence decision evidence <;> rfl

omit [PyFloat F] [Uuid5] in
/-- A transaction reads no runtime state. -/
theorem transact_states (records : AlertRecords F) (decision : ScoreDecisionV1 F)
    (result : TransitionResult F) (states : Lib.Table (UUID × String) StatePayload) :
    { records with alertRuntimeStates := states }.transact decision result =
      (records.transact decision result).map fun recorded => { recorded with
        alertRuntimeStates := RuntimeStore.upsertStateRow states result.state } := by
  unfold transact
  change (records.insertDecision decision).bind _ = ((records.insertDecision decision).bind _).map _
  cases records.insertDecision decision with
  | none => rfl
  | some rows =>
      have events := insertEvent_states { records with scoreDecisions := rows } decision result.event
        result.evidence states
      rw [Option.bind_some, Option.bind_some]
      change (insertEvent { records with scoreDecisions := rows, alertRuntimeStates := states }
        decision result.event result.evidence).bind _ = _
      rw [events]
      cases ({ records with scoreDecisions := rows } : AlertRecords F).insertEvent decision
        result.event result.evidence <;> rfl

/-! ### The owners of the states -/

/-- Every state is stored under its own session and machine. -/
def OwnsStates (records : AlertRecords F) : Prop :=
  ∀ session machineId payload,
    records.alertRuntimeStates.get? (session, machineId) = some payload →
      (stateFromPayload payload).replaySessionId = session ∧
        (stateFromPayload payload).machineId = machineId

/-- A fold step of a reconstruction. -/
def foldDecision (policy : LockedAlertPolicyV1 F) (state : AlertState)
    (decision : ScoreDecisionV1 F) : Except TransitionError AlertState := do
  let result ← transition blankStamp state decision policy
  return result.state

theorem foldDecision_owner {next : AlertState}
    (folded : foldDecision policy state decision = .ok next) :
    next.replaySessionId = state.replaySessionId ∧ next.machineId = state.machineId := by
  obtain ⟨result, taken, last⟩ := Lib.bind_eq_ok_iff.mp folded
  obtain rfl := Lib.pure_eq_ok_iff.mp last
  exact transition_owner taken

theorem foldDecisions_owner {decisions : List (ScoreDecisionV1 F)} {next : AlertState}
    (folded : decisions.foldlM (foldDecision policy) state = .ok next) :
    next.replaySessionId = state.replaySessionId ∧ next.machineId = state.machineId := by
  induction decisions generalizing state with
  | nil =>
      cases folded
      exact ⟨rfl, rfl⟩
  | cons decision rest ih =>
      rw [List.foldlM_cons] at folded
      obtain ⟨middle, first, rest⟩ := Lib.bind_eq_ok_iff.mp folded
      obtain ⟨session, machine⟩ := foldDecision_owner first
      obtain ⟨session', machine'⟩ := ih rest
      exact ⟨session'.trans session, machine'.trans machine⟩

/-- Loading returns a state of the session, and stores it at most. -/
structure Loads (records : AlertRecords F) (session : UUID) (machineId : String)
    (state : AlertState) (loaded : AlertRecords F) : Prop where
  owner : state.replaySessionId = session
  ofMachine : state.machineId = machineId
  rows : ∃ states, loaded = { records with alertRuntimeStates := states } ∧
    ∀ key, key ≠ (session, machineId) → states.get? key = records.alertRuntimeStates.get? key
  stored : loaded.alertRuntimeStates.get? (session, machineId) = some (statePayload state) ∨
    (loaded = records ∧ records.alertRuntimeStates.get? (session, machineId) = none ∧
      state = .empty session machineId)

theorem loads_of_load (owns : OwnsStates records)
    (loading : records.load session machineId policy = .ok (state, loaded)) :
    Loads records session machineId state loaded := by
  unfold load at loading
  cases held : records.alertRuntimeStates.get? (session, machineId) with
  | some payload =>
      rw [held] at loading
      cases loading
      obtain ⟨owner, machine⟩ := owns session machineId payload held
      exact ⟨owner, machine, ⟨_, rfl, fun _ _ => rfl⟩, .inl held⟩
  | none =>
      rw [held] at loading
      dsimp only at loading
      split at loading
      · obtain ⟨rebuilt, folded, last⟩ := Lib.bind_eq_ok_iff.mp loading
        cases last
        obtain ⟨owner, machine⟩ := foldDecisions_owner folded
        exact ⟨owner, machine, ⟨_, rfl, fun _ => Lib.Table.get?_insertNew_ne⟩,
          .inl (Lib.Table.get?_insertNew_self_of_none held)⟩
      · cases loading
        exact ⟨rfl, rfl, ⟨_, rfl, fun _ _ => rfl⟩, .inr ⟨rfl, held, rfl⟩⟩

omit [PyFloat F] [Uuid5] in
theorem Loads.owns (loads : Loads records session machineId state loaded)
    (owns : OwnsStates records) : OwnsStates loaded := by
  intro session' machineId' payload held
  by_cases same : (session', machineId') = (session, machineId)
  · rw [same] at held
    obtain ⟨rfl, rfl⟩ := Prod.mk.inj same
    rcases loads.stored with stored | ⟨unchanged, absent, -⟩
    · cases held.symm.trans stored
      exact ⟨loads.owner, loads.ofMachine⟩
    · rw [unchanged, absent] at held
      cases held
  · obtain ⟨states, rfl, other⟩ := loads.rows
    rw [other _ same] at held
    exact owns session' machineId' payload held

omit [PyFloat F] [Uuid5] in
theorem OwnsStates.transact (owns : OwnsStates records)
    (committed : records.transact decision result = some recorded) : OwnsStates recorded := by
  intro session machineId payload held
  rw [(transact_eq_some committed).2] at held
  unfold RuntimeStore.upsertStateRow at held
  by_cases same : (session, machineId) = (result.state.replaySessionId, result.state.machineId)
  · rw [same, Lib.Table.get?_upsert_self] at held
    obtain ⟨rfl, rfl⟩ := Prod.mk.inj same
    have payload : statePayload result.state = payload := by
      cases before : records.alertRuntimeStates.get?
          (result.state.replaySessionId, result.state.machineId) <;> simpa [before] using held
    subst payload
    exact ⟨rfl, rfl⟩
  · rw [Lib.Table.get?_upsert_ne same] at held
    exact owns session machineId payload held

/-! ### The decisions of one session -/

/-- The rows of the session are the decisions it has taken, in order, and their fold
is its stored state. -/
structure Incremental (config : AlertConsumerConfig F) (session : UUID)
    (done : List (ScoreDecisionV1 F)) (seen : List (ScoreDecisionV1 F))
    (records : AlertRecords F) : Prop where
  owns : OwnsStates records
  keyed : ∀ key ∈ records.scoreDecisions.keys, key ∈ done.map (·.decisionId)
  rows : records.scoreDecisions.values.filter (·.replaySessionId == session) = seen
  drawn : ∀ row ∈ seen, ∃ decision ∈ done, decision.replaySessionId = session ∧
    decision.sourceTimestamp = row.sourceTimestamp
  sorted : seen.Pairwise (·.sourceTimestamp < ·.sourceTimestamp)
  unseen : records.alertRuntimeStates.get? (session, config.machineId) = none → seen = []
  folded : ∀ payload,
    records.alertRuntimeStates.get? (session, config.machineId) = some payload →
      seen ≠ [] ∧ seen.foldlM (foldDecision config.policy) (.empty session config.machineId) =
        .ok (stateFromPayload payload)

variable {config config' : AlertConsumerConfig F} {done seen : List (ScoreDecisionV1 F)}

theorem incremental_empty (config : AlertConsumerConfig F) (session : UUID) :
    Incremental config session [] [] (RuntimeStore.empty (F := F)).records where
  owns _ _ _ held := nomatch held
  keyed _ mem := nomatch mem
  rows := rfl
  drawn _ mem := nomatch mem
  sorted := List.Pairwise.nil
  unseen _ := rfl
  folded _ held := nomatch held

/-- Rows in strict order of time are folded as they are. -/
theorem reconstruct_of_sorted (records : AlertRecords F) (session : UUID) (machineId : String)
    (policy : LockedAlertPolicyV1 F)
    (sorted : (records.scoreDecisions.values.filter (·.replaySessionId == session)).Pairwise
      (·.sourceTimestamp < ·.sourceTimestamp)) :
    records.reconstruct session machineId policy =
      (records.scoreDecisions.values.filter (·.replaySessionId == session)).foldlM
        (foldDecision policy) (.empty session machineId) := by
  unfold AlertRecords.reconstruct
  rw [List.mergeSort_of_pairwise]
  · rfl
  · refine sorted.imp fun before => ?_
    simp [RuntimeStore.decisionBefore, before]

theorem Incremental.reconstruct (incremental : Incremental config session done seen records) :
    records.reconstruct session config.machineId config.policy =
      seen.foldlM (foldDecision config.policy) (.empty session config.machineId) := by
  rw [reconstruct_of_sorted, incremental.rows]
  rw [incremental.rows]
  exact incremental.sorted

theorem Incremental.load (incremental : Incremental config session done seen records) :
    ∃ state, records.load session config.machineId config.policy = .ok (state, records) ∧
      state.replaySessionId = session ∧ state.machineId = config.machineId ∧
      seen.foldlM (foldDecision config.policy) (.empty session config.machineId) = .ok state := by
  unfold AlertRecords.load
  cases held : records.alertRuntimeStates.get? (session, config.machineId) with
  | some payload =>
      obtain ⟨owner, machine⟩ := incremental.owns session config.machineId payload held
      exact ⟨_, rfl, owner, machine, (incremental.folded payload held).2⟩
  | none =>
      have empty := incremental.unseen held
      have unseen : ¬ records.scoreDecisions.values.any (·.replaySessionId == session) = true := by
        rw [List.any_eq_true]
        rintro ⟨row, mem, same⟩
        have inRows : row ∈ records.scoreDecisions.values.filter (·.replaySessionId == session) :=
          List.mem_filter.mpr ⟨mem, same⟩
        rw [incremental.rows, empty] at inRows
        cases inRows
      dsimp only
      rw [if_neg unseen, empty]
      exact ⟨_, rfl, rfl, rfl, rfl⟩

/-- A decision that is not recorded. -/
theorem Incremental.mono (incremental : Incremental config session done seen records)
    (decision : ScoreDecisionV1 F) :
    Incremental config session (done ++ [decision]) seen records :=
  { incremental with
    keyed := fun key mem => by
      rw [List.map_append]
      exact List.mem_append_left _ (incremental.keyed key mem)
    drawn := fun row mem => by
      obtain ⟨earlier, before, same⟩ := incremental.drawn row mem
      exact ⟨earlier, List.mem_append_left _ before, same⟩ }

/-- A decision of the session, with a new id and later than the rows. -/
theorem Incremental.apply_mine (incremental : Incremental config session done seen records)
    (owner : decision.replaySessionId = session)
    (new : decision.decisionId ∉ done.map (·.decisionId))
    (later : ∀ row ∈ seen, row.sourceTimestamp < decision.sourceTimestamp) :
    ∃ seen', Incremental config session (done ++ [decision]) seen' (records.apply config decision).1 := by
  obtain ⟨state, loading, ofSession, ofMachine, folded⟩ := incremental.load
  unfold AlertRecords.apply
  rw [owner, loading]
  dsimp only
  cases taken : transition blankStamp state decision config.policy with
  | error raised => exact ⟨seen, incremental.mono _⟩
  | ok result =>
      dsimp only
      cases committed : records.transact decision result.unstamped with
      | none => exact ⟨seen, incremental.mono _⟩
      | some recorded =>
          obtain ⟨decisions, states⟩ := transact_eq_some committed
          have absent : records.scoreDecisions.get? decision.decisionId = none :=
            Lib.Table.get?_eq_none_iff.mpr fun mem => new (incremental.keyed _ mem)
          obtain ⟨keptSession, keptMachine⟩ := transition_owner taken
          have stored : recorded.alertRuntimeStates.get? (session, config.machineId) =
              some (statePayload result.state) := by
            have key : (session, config.machineId) =
                (result.unstamped.state.replaySessionId, result.unstamped.state.machineId) :=
              Prod.ext (keptSession.trans ofSession).symm (keptMachine.trans ofMachine).symm
            rw [states, key]
            unfold RuntimeStore.upsertStateRow
            rw [Lib.Table.get?_upsert_self]
            cases records.alertRuntimeStates.get? _ <;> rfl
          have fold : foldDecision config.policy state decision.unstamped = .ok result.state := by
            unfold foldDecision
            rw [transition_unstamped_decision, taken]
            rfl
          refine ⟨seen ++ [decision.unstamped], incremental.owns.transact committed, ?_, ?_, ?_, ?_,
            ?_, ?_⟩
          · intro key mem
            rw [decisions] at mem
            rw [List.map_append]
            rcases Lib.Table.mem_keys_insertNew mem with before | rfl
            · exact List.mem_append_left _ (incremental.keyed key before)
            · simp
          · rw [decisions, Lib.Table.insertNew_values absent, List.filter_append, incremental.rows]
            simp [ScoreDecisionV1.unstamped, owner]
          · intro row mem
            rcases List.mem_append.mp mem with before | last
            · obtain ⟨earlier, inDone, same⟩ := incremental.drawn row before
              exact ⟨earlier, List.mem_append_left _ inDone, same⟩
            · rw [List.mem_singleton.mp last]
              exact ⟨decision, by simp, owner, rfl⟩
          · refine List.pairwise_append.mpr ⟨incremental.sorted, List.pairwise_singleton _ _, ?_⟩
            intro row mem last same
            rw [List.mem_singleton.mp same]
            exact later row mem
          · intro none
            cases stored.symm.trans none
          · intro payload held
            cases stored.symm.trans held
            refine ⟨by simp, ?_⟩
            rw [List.foldlM_append, folded]
            exact Lib.bind_eq_ok_iff.mpr ⟨state, rfl, by rw [List.foldlM_cons, fold]; rfl⟩

/-- A decision of another session. -/
theorem Incremental.apply_other (incremental : Incremental config session done seen records)
    (other : decision.replaySessionId ≠ session) :
    Incremental config session (done ++ [decision]) seen (records.apply config' decision).1 := by
  have elsewhere : ∀ machineId, (session, config.machineId) ≠ (decision.replaySessionId, machineId) :=
    fun _ same => other (Prod.mk.inj same).1.symm
  unfold AlertRecords.apply
  cases loading : records.load decision.replaySessionId config'.machineId config'.policy with
  | error refused => exact incremental.mono _
  | ok read =>
      obtain ⟨state, loaded⟩ := read
      have loads := loads_of_load incremental.owns loading
      have owns := loads.owns incremental.owns
      obtain ⟨ofSession, ofMachine, ⟨states, rfl, kept⟩, -⟩ := loads
      have incrementalHere : Incremental config session done seen
          { records with alertRuntimeStates := states } :=
        { incremental with
          owns
          unseen := fun none => incremental.unseen ((kept _ (elsewhere _)).symm.trans none)
          folded := fun payload held =>
            incremental.folded payload ((kept _ (elsewhere _)).symm.trans held) }
      dsimp only
      cases taken : transition blankStamp state decision config'.policy with
      | error raised => exact incrementalHere.mono _
      | ok result =>
          dsimp only
          cases committed : ({ records with alertRuntimeStates := states } : AlertRecords F).transact
              decision result.unstamped with
          | none => exact incrementalHere.mono _
          | some recorded =>
              obtain ⟨decisions, written⟩ := transact_eq_some committed
              obtain ⟨keptSession, keptMachine⟩ := transition_owner taken
              have same : recorded.alertRuntimeStates.get? (session, config.machineId) =
                  states.get? (session, config.machineId) := by
                rw [written]
                refine Lib.Table.get?_upsert_ne fun same => ?_
                have owner := (Prod.mk.inj same).1
                exact other ((keptSession.trans ofSession).symm.trans owner.symm)
              refine { incrementalHere.mono decision with
                owns := incrementalHere.owns.transact committed
                keyed := ?_
                rows := ?_
                unseen := fun none => incrementalHere.unseen (same.symm.trans none)
                folded := fun payload held => incrementalHere.folded payload (same.symm.trans held) }
              · intro key mem
                rw [decisions] at mem
                rw [List.map_append]
                rcases Lib.Table.mem_keys_insertNew mem with before | rfl
                · exact List.mem_append_left _ (incremental.keyed key before)
                · simp
              · rw [decisions]
                cases present : records.scoreDecisions.get? decision.decisionId with
                | some row =>
                    rw [Lib.Table.insertNew_of_some present]
                    exact incremental.rows
                | none =>
                    rw [Lib.Table.insertNew_values present, List.filter_append, incremental.rows]
                    simp [ScoreDecisionV1.unstamped, other]

/-! ### The lost row -/

/-- The same records, but that the state of the session may be missing. -/
def LostRow (session : UUID) (machineId : String) (records lost : AlertRecords F) : Prop :=
  ∃ states, lost = { records with alertRuntimeStates := states } ∧
    ∀ key, states.get? key = records.alertRuntimeStates.get? key ∨
      (key = (session, machineId) ∧ states.get? key = none)

variable {lost : AlertRecords F}

/-- Both load the same state: the stored one is reconstructed where it is missing. -/
theorem LostRow.load (lostRow : LostRow session config.machineId records lost)
    (incremental : Incremental config session done seen records)
    (mine : decision.replaySessionId = session → config' = config) :
    (∃ raised, records.load decision.replaySessionId config'.machineId config'.policy =
          .error raised ∧
        lost.load decision.replaySessionId config'.machineId config'.policy = .error raised) ∨
      ∃ state loaded lostLoaded,
        records.load decision.replaySessionId config'.machineId config'.policy =
          .ok (state, loaded) ∧
        lost.load decision.replaySessionId config'.machineId config'.policy =
          .ok (state, lostLoaded) ∧
        LostRow session config.machineId loaded lostLoaded := by
  obtain ⟨states, rfl, kept⟩ := lostRow
  have same : ({ records with alertRuntimeStates := states } : AlertRecords F).reconstruct
      decision.replaySessionId config'.machineId config'.policy =
        records.reconstruct decision.replaySessionId config'.machineId config'.policy := rfl
  cases held : records.alertRuntimeStates.get? (decision.replaySessionId, config'.machineId) with
  | none =>
      have heldLost : states.get? (decision.replaySessionId, config'.machineId) = none := by
        rcases kept (decision.replaySessionId, config'.machineId) with same | ⟨-, none⟩
        · exact same.trans held
        · exact none
      unfold AlertRecords.load
      simp only [held, heldLost, same]
      split
      · cases records.reconstruct decision.replaySessionId config'.machineId config'.policy with
        | error raised => exact .inl ⟨raised, rfl, rfl⟩
        | ok state =>
            refine .inr ⟨state, _, _, rfl, rfl, _, rfl, fun key => ?_⟩
            by_cases here : key = (decision.replaySessionId, config'.machineId)
            · subst here
              left
              rw [Lib.Table.get?_insertNew_self_of_none held,
                Lib.Table.get?_insertNew_self_of_none heldLost]
            · simp only [Lib.Table.get?_insertNew_ne here]
              exact kept key
      · exact .inr ⟨_, _, _, rfl, rfl, _, rfl, kept⟩
  | some payload =>
      have loads : records.load decision.replaySessionId config'.machineId config'.policy =
          .ok (stateFromPayload payload, records) := by
        unfold AlertRecords.load
        rw [held]
      rcases kept (decision.replaySessionId, config'.machineId) with present | ⟨here, missing⟩
      · refine .inr ⟨_, _, _, loads, ?_, _, rfl, kept⟩
        unfold AlertRecords.load
        rw [present, held]
      · obtain ⟨owner, -⟩ := Prod.mk.inj here
        obtain rfl := mine owner
        rw [owner] at loads held missing same ⊢
        obtain ⟨nonempty, folded⟩ := incremental.folded payload held
        have decided : records.scoreDecisions.values.any (·.replaySessionId == session) = true := by
          obtain ⟨row, mem⟩ := List.exists_mem_of_ne_nil seen nonempty
          rw [← incremental.rows] at mem
          obtain ⟨inRows, mine⟩ := List.mem_filter.mp mem
          exact List.any_eq_true.mpr ⟨row, inRows, mine⟩
        refine .inr ⟨_, _, { records with
          alertRuntimeStates := states.insertNew (session, config'.machineId) payload },
          loads, ?_, _, rfl, fun key => ?_⟩
        · unfold AlertRecords.load
          dsimp only
          rw [missing]
          dsimp only
          rw [if_pos decided, same, incremental.reconstruct, folded]
          rfl
        · by_cases atKey : key = (session, config'.machineId)
          · subst atKey
            rw [Lib.Table.get?_insertNew_self_of_none missing, held]
            exact .inl rfl
          · rw [Lib.Table.get?_insertNew_ne atKey]
            exact kept key

/-- Both record the same event and the same rows. -/
theorem LostRow.apply (lostRow : LostRow session config.machineId records lost)
    (incremental : Incremental config session done seen records)
    (mine : decision.replaySessionId = session → config' = config) :
    (lost.apply config' decision).2 = (records.apply config' decision).2 ∧
      LostRow session config.machineId (records.apply config' decision).1
        (lost.apply config' decision).1 := by
  unfold AlertRecords.apply
  rcases lostRow.load incremental mine with ⟨raised, loads, loadsLost⟩ |
    ⟨state, loaded, lostLoaded, loads, loadsLost, states, rfl, kept⟩
  · rw [loads, loadsLost]
    exact ⟨rfl, lostRow⟩
  · rw [loads, loadsLost]
    dsimp only
    cases transition blankStamp state decision config'.policy with
    | error raised => exact ⟨rfl, states, rfl, kept⟩
    | ok result =>
        dsimp only
        have onLost := transact_states loaded decision result.unstamped states
        rw [onLost]
        cases committed : loaded.transact decision result.unstamped with
        | none => exact ⟨rfl, states, rfl, kept⟩
        | some recorded =>
            refine ⟨rfl, _, rfl, fun key => ?_⟩
            rw [(transact_eq_some committed).2]
            unfold RuntimeStore.upsertStateRow
            by_cases here : key = (result.unstamped.state.replaySessionId,
                result.unstamped.state.machineId)
            · subst here
              left
              rw [Lib.Table.get?_upsert_self, Lib.Table.get?_upsert_self]
              cases states.get? _ <;> cases loaded.alertRuntimeStates.get? _ <;> rfl
            · rw [Lib.Table.get?_upsert_ne here, Lib.Table.get?_upsert_ne here]
              exact kept key

/-! ### Runs -/

/-- The work still to come, after the decisions taken: that of the session is under
one configuration, in strict order of time, and with ids of its own. -/
structure SessionWork (config : AlertConsumerConfig F) (session : UUID)
    (done : List (ScoreDecisionV1 F)) (work : List (AlertConsumerConfig F × ScoreDecisionV1 F)) :
    Prop where
  config : ∀ item ∈ work, item.2.replaySessionId = session → item.1 = config
  later : ∀ item ∈ work, item.2.replaySessionId = session → ∀ decision ∈ done,
    decision.replaySessionId = session → decision.sourceTimestamp < item.2.sourceTimestamp
  new : ∀ item ∈ work, item.2.replaySessionId = session →
    item.2.decisionId ∉ done.map (·.decisionId)
  inOrder : work.Pairwise fun earlier later => later.2.replaySessionId = session →
    (earlier.2.replaySessionId = session → earlier.2.sourceTimestamp < later.2.sourceTimestamp) ∧
      earlier.2.decisionId ≠ later.2.decisionId

variable {item : AlertConsumerConfig F × ScoreDecisionV1 F}
  {work : List (AlertConsumerConfig F × ScoreDecisionV1 F)}

omit [PyFloat F] [Uuid5] in
theorem SessionWork.tail (ordered : SessionWork config session done (item :: work)) :
    SessionWork config session (done ++ [item.2]) work := by
  obtain ⟨head, rest⟩ := List.pairwise_cons.mp ordered.inOrder
  refine ⟨fun later mem => ordered.config later (List.mem_cons_of_mem _ mem), ?_, ?_, rest⟩
  · intro later mem mine decision inDone
    rcases List.mem_append.mp inDone with before | last
    · exact ordered.later later (List.mem_cons_of_mem _ mem) mine decision before
    · rw [List.mem_singleton.mp last]
      exact (head later mem mine).1
  · intro later mem mine inDone
    rw [List.map_append] at inDone
    rcases List.mem_append.mp inDone with before | last
    · exact ordered.new later (List.mem_cons_of_mem _ mem) mine before
    · exact (head later mem mine).2 (List.mem_singleton.mp last).symm

theorem Incremental.apply (incremental : Incremental config session done seen records)
    (ordered : SessionWork config session done (item :: work)) :
    ∃ seen', Incremental config session (done ++ [item.2]) seen'
      (records.apply item.1 item.2).1 := by
  by_cases mine : item.2.replaySessionId = session
  · rw [ordered.config item List.mem_cons_self mine]
    refine incremental.apply_mine mine (ordered.new item List.mem_cons_self mine) ?_
    intro row mem
    obtain ⟨decision, inDone, owner, same⟩ := incremental.drawn row mem
    rw [← same]
    exact ordered.later item List.mem_cons_self mine decision inDone owner
  · exact ⟨seen, incremental.apply_other mine⟩

theorem Incremental.applyAll (incremental : Incremental config session done seen records)
    (ordered : SessionWork config session done work) :
    ∃ seen', Incremental config session (done ++ work.map Prod.snd) seen'
      (records.applyAll work).1 := by
  induction work generalizing done seen records with
  | nil => exact ⟨seen, by simpa [AlertRecords.applyAll] using incremental⟩
  | cons item work ih =>
      obtain ⟨seen', next⟩ := incremental.apply ordered
      obtain ⟨seen'', last⟩ := ih next ordered.tail
      rw [List.append_assoc] at last
      exact ⟨seen'', last⟩

/-- A run that goes on without the row records the same events. -/
theorem LostRow.applyAll (lostRow : LostRow session config.machineId records lost)
    (incremental : Incremental config session done seen records)
    (ordered : SessionWork config session done work) :
    (lost.applyAll work).2 = (records.applyAll work).2 := by
  induction work generalizing done seen records lost with
  | nil => rfl
  | cons item work ih =>
      obtain ⟨sameEvent, nextLost⟩ :=
        lostRow.apply incremental (ordered.config item List.mem_cons_self)
      obtain ⟨seen', next⟩ := incremental.apply ordered
      unfold AlertRecords.applyAll
      dsimp only
      rw [sameEvent, ih nextLost next ordered.tail]

end AlertRecords

open AlertRecords

/-- The decisions of a session are taken under one configuration, in strict order of
time, and under ids that no earlier decision has. -/
structure SessionInOrder (config : AlertConsumerConfig F) (session : UUID)
    (calls : List (DecisionCall F)) : Prop where
  config : ∀ call ∈ calls, call.session = session → call.config = config
  inOrder : calls.Pairwise fun earlier later => later.session = session →
    (earlier.session = session →
      earlier.decision.val.sourceTimestamp < later.decision.val.sourceTimestamp) ∧
      earlier.decisionId ≠ later.decisionId

/-- The store after decisions, starting from an empty one. -/
def storeAfter (calls : List (DecisionCall F)) : RuntimeStore F :=
  (RuntimeStore.empty.applyDecisions calls).1

/-- What the calls take, and under which configuration. -/
def DecisionCall.work (call : DecisionCall F) : AlertConsumerConfig F × ScoreDecisionV1 F :=
  (call.config, call.decision.val)

variable {config : AlertConsumerConfig F} {session : UUID} {before after : List (DecisionCall F)}

omit [Uuid5] in
theorem SessionInOrder.first (ordered : SessionInOrder config session (before ++ after)) :
    SessionWork config session [] (before.map DecisionCall.work) := by
  refine ⟨?_, fun _ _ _ _ mem => absurd mem List.not_mem_nil,
    fun _ _ _ mem => absurd mem List.not_mem_nil, ?_⟩
  · rintro _ mem mine
    obtain ⟨call, inBefore, rfl⟩ := List.mem_map.mp mem
    exact ordered.config call (List.mem_append_left _ inBefore) mine
  · exact List.pairwise_map.mpr (List.pairwise_append.mp ordered.inOrder).1

omit [Uuid5] in
theorem SessionInOrder.second (ordered : SessionInOrder config session (before ++ after)) :
    SessionWork config session ((before.map DecisionCall.work).map Prod.snd)
      (after.map DecisionCall.work) := by
  obtain ⟨-, second, across⟩ := List.pairwise_append.mp ordered.inOrder
  refine ⟨?_, ?_, ?_, List.pairwise_map.mpr second⟩
  · rintro _ mem mine
    obtain ⟨call, inAfter, rfl⟩ := List.mem_map.mp mem
    exact ordered.config call (List.mem_append_right _ inAfter) mine
  · rintro _ mem mine _ inDone owner
    obtain ⟨call, inAfter, rfl⟩ := List.mem_map.mp mem
    obtain ⟨_, mem', rfl⟩ := List.mem_map.mp inDone
    obtain ⟨earlier, inBefore, rfl⟩ := List.mem_map.mp mem'
    exact (across earlier inBefore call inAfter mine).1 owner
  · rintro _ mem mine inDone
    obtain ⟨call, inAfter, rfl⟩ := List.mem_map.mp mem
    obtain ⟨_, mem', same⟩ := List.mem_map.mp inDone
    obtain ⟨_, mem'', rfl⟩ := List.mem_map.mp mem'
    obtain ⟨earlier, inBefore, rfl⟩ := List.mem_map.mp mem''
    exact (across earlier inBefore call inAfter mine).2 same

/-- After any calls, those of the session in order, the state reconstructed from the
persisted decisions is the stored one; and a service that has lost the stored one, and
goes on with the same decisions and new message ids, records the same events. -/
theorem reconstruction_incremental (config : AlertConsumerConfig F) (session : UUID)
    {before after resumed : List (DecisionCall F)}
    (ordered : SessionInOrder config session (before ++ after))
    (same : resumed.map DecisionCall.work = after.map DecisionCall.work)
    (ids : ((before ++ after).map (·.stamp.eventMessageId)).Nodup)
    (resumedIds : ((before ++ resumed).map (·.stamp.eventMessageId)).Nodup) :
    (∀ payload,
        (storeAfter before).alertRuntimeStates.get? (session, config.machineId) = some payload →
          (storeAfter before).reconstructAlertState session config.machineId config.policy =
            .ok (stateFromPayload payload)) ∧
      (((storeAfter before).loseState session config.machineId).applyDecisions
          resumed).2.map (·.unstamped) =
        ((storeAfter before).applyDecisions after).2.map (·.unstamped) := by
  let store := storeAfter before
  rw [List.map_append, List.nodup_append] at ids resumedIds
  have unused : ∀ {calls : List (DecisionCall F)},
      (∀ id ∈ before.map (·.stamp.eventMessageId), ∀ id' ∈ calls.map (·.stamp.eventMessageId),
        id ≠ id') → ∀ call ∈ calls, store.FreshEvent call.stamp.eventMessageId :=
    fun apart call mem => applyDecisions_fresh ⟨rfl, rfl⟩ fun used =>
      apart _ used _ (List.mem_map_of_mem mem) rfl
  have records : store.records = _ :=
    congrArg Prod.fst (applyDecisions_records _ ids.1 fun _ _ => ⟨rfl, rfl⟩)
  obtain ⟨seen, incremental⟩ := (incremental_empty config session).applyAll ordered.first
  rw [List.nil_append] at incremental
  change Incremental config session _ seen
    ((RuntimeStore.empty : RuntimeStore F).records.applyAll (before.map DecisionCall.work)).1
    at incremental
  have here : Incremental config session ((before.map DecisionCall.work).map Prod.snd) seen
      store.records := by
    rw [records]
    exact incremental
  constructor
  · intro payload held
    rw [reconstructAlertState_records, here.reconstruct]
    exact (here.folded payload held).2
  · have lostRow : LostRow session config.machineId store.records
        (store.loseState session config.machineId).records := by
      refine ⟨store.alertRuntimeStates.erase (session, config.machineId), rfl, fun key => ?_⟩
      by_cases atKey : key = (session, config.machineId)
      · subst atKey
        exact .inr ⟨rfl, Lib.Table.get?_erase_self _ _⟩
      · exact .inl (Lib.Table.get?_erase_ne atKey)
    have kept := congrArg Prod.snd (applyDecisions_records _ ids.2.1 (unused ids.2.2))
    have lost := congrArg Prod.snd (applyDecisions_records
      (store.loseState session config.machineId) resumedIds.2.1 (unused resumedIds.2.2))
    dsimp only at kept lost
    rw [kept, lost]
    change (AlertRecords.applyAll _ (resumed.map DecisionCall.work)).2 = _
    rw [same]
    exact lostRow.applyAll here ordered.second

/-- A stored state with an active alert that the fold of its rows has not. -/
theorem stored_ne_reconstructed {store : RuntimeStore F} {machineId : String}
    {policy : LockedAlertPolicyV1 F} {alertId : UUID}
    (sorted : (store.records.scoreDecisions.values.filter
      (·.replaySessionId == session)).Pairwise (·.sourceTimestamp < ·.sourceTimestamp))
    (active : (store.alertRuntimeStates.get? (session, machineId)).map
      (fun payload => (stateFromPayload payload).activeAlertId) = some (some alertId))
    (folds : ((store.records.scoreDecisions.values.filter
      (·.replaySessionId == session)).foldlM (foldDecision policy)
        (AlertState.empty session machineId)).map (·.activeAlertId) = .ok none) :
    ∃ payload, store.alertRuntimeStates.get? (session, machineId) = some payload ∧
      store.reconstructAlertState session machineId policy ≠ .ok (stateFromPayload payload) := by
  obtain ⟨payload, held, active⟩ := Option.map_eq_some_iff.mp active
  refine ⟨payload, held, fun rebuilt => ?_⟩
  rw [reconstructAlertState_records, reconstruct_of_sorted _ _ _ _ sorted] at rebuilt
  rw [rebuilt] at folds
  have inactive : (stateFromPayload payload).activeAlertId = none := Except.ok.inj folds
  cases active.symm.trans inactive

end Live

/-! ### Concrete calls -/

/-- The last decision of the reopened alert, taken by another process. -/
def resumedStream : List (TransitionStamp × Checked (ScoreDecisionV1 Int)) :=
  [(stampAt 7, checkedWindow 15 true [⟨"tp2__mean", 9, 4⟩])]

theorem callsOf_config {policy : LockedAlertPolicyV1 Int} {machineId : String}
    {stream : List (TransitionStamp × Checked (ScoreDecisionV1 Int))} {call : DecisionCall Int}
    (mem : call ∈ callsOf policy machineId stream) : call.config = ⟨policy, machineId⟩ := by
  obtain ⟨delivered, -, rfl⟩ := List.mem_map.mp mem
  rfl

theorem reopenedStream_reconstructs :
    letI := episodeNames
    (∀ payload, (storeAfter (callsOf promptPolicy "metropt3"
          (reopenedStream.take 2))).alertRuntimeStates.get? (1, "metropt3") = some payload →
        (storeAfter (callsOf promptPolicy "metropt3"
          (reopenedStream.take 2))).reconstructAlertState 1 "metropt3" promptPolicy =
            .ok (stateFromPayload payload)) ∧
      (((storeAfter (callsOf promptPolicy "metropt3" (reopenedStream.take 2))).loseState 1
          "metropt3").applyDecisions
            (callsOf promptPolicy "metropt3" resumedStream)).2.map (·.unstamped) =
        ((storeAfter (callsOf promptPolicy "metropt3" (reopenedStream.take 2))).applyDecisions
          (callsOf promptPolicy "metropt3" (reopenedStream.drop 2))).2.map (·.unstamped) := by
  let := episodeNames
  have ordered : SessionInOrder ⟨promptPolicy, "metropt3"⟩ 1
      (callsOf promptPolicy "metropt3" (reopenedStream.take 2) ++
        callsOf promptPolicy "metropt3" (reopenedStream.drop 2)) := by
    refine ⟨fun call mem _ => ?_, by decide⟩
    rcases List.mem_append.mp mem with first | second
    · exact callsOf_config first
    · exact callsOf_config second
  exact reconstruction_incremental ⟨promptPolicy, "metropt3"⟩ 1 ordered rfl (by decide) (by decide)

/-- An anomaly, its resolution, and an anomaly under the id of the first decision. -/
def renamedStream : List (TransitionStamp × Checked (ScoreDecisionV1 Int)) :=
  [(stampAt 0, checkedWindow 5 true []),
   (stampAt 1, checkedWindow 10 false []),
   (stampAt 2, ⟨{ scoredWindow 15 true [] with decisionId := 5 }, by decide⟩)]

/-- The decisions of one session are strictly ordered in time and all are taken, and
the stored state has an active alert that the reconstructed one has not. -/
theorem reconstruction_differs :
    letI := episodeNames
    (∀ delivered ∈ renamedStream, delivered.2.val.replaySessionId = 1) ∧
      renamedStream.Pairwise (fun earlier later =>
        earlier.2.val.sourceTimestamp < later.2.val.sourceTimestamp) ∧
      ((callsOf promptPolicy "metropt3" renamedStream).map (·.stamp.eventMessageId)).Nodup ∧
      ∃ payload, (storeAfter (callsOf promptPolicy "metropt3"
          renamedStream)).alertRuntimeStates.get? (1, "metropt3") = some payload ∧
        (storeAfter (callsOf promptPolicy "metropt3" renamedStream)).reconstructAlertState 1
          "metropt3" promptPolicy ≠ .ok (stateFromPayload payload) := by
  let := episodeNames
  refine ⟨by decide, by decide, by decide, ?_⟩
  have active : ((storeAfter (callsOf promptPolicy "metropt3"
      renamedStream)).alertRuntimeStates.get? (1, "metropt3")).map
        (fun payload => (stateFromPayload payload).activeAlertId) =
          some (some 0x7d02caee6a625a7c9e37894c2789fa34) := by decide
  exact stored_ne_reconstructed (by decide) active (by decide)

end IndustrialReliability
