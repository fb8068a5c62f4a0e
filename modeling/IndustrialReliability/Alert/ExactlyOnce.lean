import IndustrialReliability.Alert.Absorption
import IndustrialReliability.Alert.Redelivery
import IndustrialReliability.Alert.Service

/-!
Exactly-once effects of the alert service.

A crash loses the fetch position, and the records behind the committed offset come
again. As long as no exception drops the rest of a batch, every record behind it was
refused when it came first, but for the last one, and the store absorbs them: after
any crashes it holds the records of a prefix of the partition, each processed once
(`effects_exactly_once`). An exception that drops a record lets it be lost in one
schedule and taken in another (`droppedDecision_lost`).
-/

namespace IndustrialReliability

section Effects

variable {F : Type} [PyFloat F] [Uuid5]

/-! ### One call of `process` -/

/-- A call of `process` that no fault hits takes the decision or raises. -/
theorem recordDecision_takes (config : AlertConsumerConfig F) (stamp : ProcessStamp)
    (decision : ScoreDecisionV1 F) {world : ConsumerWorld F}
    (tidy : world.store.records.Tidy config)
    (fresh : world.store.FreshEvent stamp.transition.eventMessageId) :
    (recordDecision config stamp none decision world).1.store.records =
        Lib.afterItem (AlertRecords.takes config) world.store.records decision ∧
      (recordDecision config stamp none decision world).1.failedSessions = world.failedSessions ∧
      ((recordDecision config stamp none decision world).2 = .ok .committed ∨
        world.store.records.takes config decision = none ∧
          ∃ e, (recordDecision config stamp none decision world).2 = .error e) := by
  have loads := loadAlertState_records world.store decision.replaySessionId config.machineId
    config.policy
  rw [tidy.load] at loads
  obtain ⟨⟨state, loaded⟩, loading, same⟩ := Lib.map_eq_ok_iff.mp loads
  obtain ⟨rfl, records⟩ := Prod.mk.inj same
  obtain ⟨events, outbox⟩ := loadAlertState_ids loading
  have transitions := transition_unstamped stamp.transition blankStamp
    (world.store.records.stateOf config decision.replaySessionId) decision config.policy
  unfold recordDecision
  rw [loading]
  dsimp only
  cases taken : transition stamp.transition
      (world.store.records.stateOf config decision.replaySessionId) decision config.policy with
  | error raised =>
      have refused : world.store.records.takes config decision = none := by
        rw [tidy.takes_eq]
        rw [taken] at transitions
        cases blank : transition blankStamp
            (world.store.records.stateOf config decision.replaySessionId) decision
            config.policy with
        | error raised' => rfl
        | ok result =>
            rw [blank] at transitions
            cases transitions
      rw [Lib.afterItem_none refused]
      exact ⟨records, rfl, .inr ⟨refused, _, rfl⟩⟩
  | ok result =>
      have freshEvent : ∀ event ∈ result.event, loaded.FreshEvent event.messageId := by
        intro event emitted
        rw [transition_messageId taken event emitted]
        unfold RuntimeStore.FreshEvent
        rw [events, outbox]
        exact fresh
      have commits := recordDecisionTransition_records loaded decision result freshEvent
      have takes : world.store.records.takes config decision =
          (loaded.recordDecisionTransition decision result).toOption.map RuntimeStore.records := by
        rw [commits, tidy.takes_eq]
        rw [taken] at transitions
        cases blank : transition blankStamp
            (world.store.records.stateOf config decision.replaySessionId) decision
            config.policy with
        | error raised' =>
            rw [blank] at transitions
            cases transitions
        | ok result' =>
            rw [blank] at transitions
            have same : result.unstamped = result'.unstamped := Except.ok.inj transitions
            dsimp only
            rw [← same, records]
      dsimp only
      unfold recordResult
      cases recorded : loaded.recordDecisionTransition decision result with
      | error refused =>
          rw [recorded] at takes
          rw [Lib.afterItem_none takes]
          exact ⟨records, rfl, .inr ⟨takes, _, rfl⟩⟩
      | ok store =>
          rw [recorded] at takes
          rw [Lib.afterItem_some takes]
          exact ⟨rfl, rfl, .inl rfl⟩

/-! ### One partition -/

/-- The decisions of a stream with the digests of their bytes, on partition 0. -/
def onePartition (stream : List (Sha256 × Checked (ScoreDecisionV1 F))) : ScoresLog F
  | 0 => stream.map fun delivered => ⟨delivered.1, .ok delivered.2⟩
  | _ => []

def decisionsOf (stream : List (Sha256 × Checked (ScoreDecisionV1 F))) :
    List (ScoreDecisionV1 F) :=
  stream.map fun delivered => delivered.2.val

namespace AlertService

/-- Everything on the partition is polled and processed. -/
def Consumed (stream : List (Sha256 × Checked (ScoreDecisionV1 F))) (s : AlertService F) : Prop :=
  ∃ inc ∈ s.incarnation, inc.loop = .consuming [] ∧ inc.position 0 = stream.length

end AlertService

/-- The record about to be processed when others wait behind it in the batch. -/
def LoopPhase.withOthers : LoopPhase → Option (Nat × Nat)
  | .consuming (next :: _ :: _) => some next
  | _ => none

/-- The decision of the value is taken by the store. -/
def TakenBy (config : AlertConsumerConfig F) (store : RuntimeStore F) (payload : ScorePayload F) :
    Prop :=
  match payload.value with
  | .ok decision => (store.records.takes config decision.val).isSome
  | .error _ => True

/-- Nothing fails but the process, and event message ids are fresh. -/
def OnlyCrashes (s : AlertService F) : ServiceAction → Prop
  | .process stamp fault => fault = none ∧
      s.world.store.FreshEvent stamp.transition.eventMessageId
  | .commit fault => fault = none
  | _ => True

/-- A decision with others behind it in its batch is one that the store takes. -/
def NoDroppedRecord (config : AlertConsumerConfig F) (log : ScoresLog F) (s : AlertService F) :
    ServiceAction → Prop
  | .process _ _ => ∀ inc ∈ s.incarnation, ∀ next ∈ inc.loop.withOthers,
      ∀ payload ∈ (log next.1)[next.2]?, TakenBy config s.world.store payload
  | _ => True

/-- Only crashes, and none with records dropped. -/
def DropsNothing (config : AlertConsumerConfig F) (log : ScoresLog F) (s : AlertService F)
    (a : ServiceAction) : Prop :=
  OnlyCrashes s a ∧ NoDroppedRecord config log s a

/-! ### What a run keeps -/

/-- The partition as the consumer loop sees it: `n` decisions are processed, those
behind offset `c` are committed. -/
def LoopAt (config : AlertConsumerConfig F) (decisions : List (ScoreDecisionV1 F)) (c n : Nat)
    (position : Nat) : LoopPhase → Prop
  | .consuming rest => ∃ p, c ≤ p ∧ p ≤ n ∧ p ≤ position ∧ position ≤ decisions.length ∧
      (∀ i a, c ≤ i → i < p → decisions[i]? = some a → AlertRecords.takes config
        (Lib.takenUpTo (AlertRecords.takes config) RuntimeStore.empty.records decisions i) a =
          none) ∧
      rest = (List.range' p (position - p)).map fun offset => (0, offset)
  | .committing partition offset rest => partition = 0 ∧ c ≤ offset ∧ offset < n ∧
      offset < position ∧ position ≤ decisions.length ∧
      rest = (List.range' (offset + 1) (position - (offset + 1))).map fun offset => (0, offset)
  | .halted => False

/-- The store holds the records of the first `n` decisions. -/
structure Progress (config : AlertConsumerConfig F) (decisions : List (ScoreDecisionV1 F))
    (s : AlertService F) (n : Nat) : Prop where
  within : n ≤ decisions.length
  records : s.world.store.records =
    Lib.takenUpTo (AlertRecords.takes config) RuntimeStore.empty.records decisions n
  sessions : s.world.failedSessions = []
  committed : s.committed 0 ≤ n
  refused : Lib.RefusedBut (AlertRecords.takes config) RuntimeStore.empty.records decisions
    (s.committed 0) n
  loop : ∀ inc ∈ s.incarnation,
    LoopAt config decisions (s.committed 0) n (inc.position 0) inc.loop

section Steps

variable {config : AlertConsumerConfig F}
  {stream : List (Sha256 × Checked (ScoreDecisionV1 F))} {s s' : AlertService F} {n : Nat}

theorem progress_initial (config : AlertConsumerConfig F) (decisions : List (ScoreDecisionV1 F)) :
    Progress config decisions .initial 0 :=
  ⟨Nat.zero_le _, rfl, rfl, le_refl 0, .self 0, nofun⟩

omit [Uuid5] in
theorem length_onePartition (stream : List (Sha256 × Checked (ScoreDecisionV1 F))) :
    (onePartition stream 0).length = (decisionsOf stream).length := by
  simp [onePartition, decisionsOf]

omit [Uuid5] in
theorem onePartition_getElem? (stream : List (Sha256 × Checked (ScoreDecisionV1 F)))
    (offset : Nat) : (onePartition stream 0)[offset]? =
      stream[offset]?.map fun delivered => ⟨delivered.1, .ok delivered.2⟩ :=
  List.getElem?_map

omit [Uuid5] in
/-- A poll returns the next records of the partition. -/
theorem polledBatch_onePartition {position : Nat → Nat} {counts : List (Nat × Nat)}
    (once : (counts.map Prod.fst).Nodup)
    (bounded : ∀ c ∈ counts, position c.1 + c.2 ≤ (onePartition stream c.1).length) :
    polledBatch position counts = (List.range' (position 0) ((counts.lookup 0).getD 0)).map
        (fun offset => (0, offset)) ∧
      position 0 + (counts.lookup 0).getD 0 ≤ max (position 0) (decisionsOf stream).length := by
  induction counts with
  | nil => exact ⟨rfl, le_max_left _ _⟩
  | cons c counts ih =>
      obtain ⟨partition, count⟩ := c
      obtain ⟨first, once⟩ := List.nodup_cons.mp once
      have here := bounded (partition, count) List.mem_cons_self
      obtain ⟨batch, bound⟩ := ih once fun c mem => bounded c (List.mem_cons_of_mem _ mem)
      have split : polledBatch position ((partition, count) :: counts) =
          ((List.range' (position partition) count).map fun offset => (partition, offset)) ++
            polledBatch position counts := rfl
      cases partition with
      | zero =>
          have others : (counts.lookup 0).getD 0 = 0 := by
            rw [List.lookup_eq_none_iff.mpr, Option.getD_none]
            intro c mem
            rw [bne_iff_ne]
            intro same
            exact first (List.mem_map.mpr ⟨c, mem, same.symm⟩)
          rw [others] at batch
          rw [split, batch, List.lookup_cons_self, Option.getD_some]
          refine ⟨List.append_nil _, ?_⟩
          rw [← length_onePartition]
          exact le_max_of_le_right here
      | succ partition =>
          have none : count = 0 := by
            have here : position (partition + 1) + count ≤ 0 := here
            omega
          rw [split, batch, none]
          exact ⟨rfl, bound⟩

/-- Two states whose consumer loops and records are the same. -/
structure SameRecords (s s' : AlertService F) : Prop where
  records : s'.world.store.records = s.world.store.records
  sessions : s'.world.failedSessions = s.world.failedSessions
  committed : s'.committed = s.committed
  loop : ∀ inc' ∈ s'.incarnation, ∃ inc ∈ s.incarnation,
    inc'.position = inc.position ∧ inc'.loop = inc.loop

theorem sameRecords_of_dispatch {log : ScoresLog F} {a : ServiceAction}
    (dispatch : AlertService.IsDispatch a) (taken : s.step config log a = some s') :
    SameRecords s s' := by
  cases up : s.incarnation with
  | none =>
      cases a <;> simp [AlertService.step, AlertService.nextOutbox, AlertService.sendOutbox,
        AlertService.markPublished, up, AlertService.IsDispatch] at *
  | some inc =>
      have kept : ∀ dispatcher, ∀ inc' ∈ some { inc with dispatcher := dispatcher },
          ∃ inc ∈ s.incarnation, inc'.position = inc.position ∧ inc'.loop = inc.loop := by
        intro dispatcher inc' same
        obtain rfl := Option.some.inj same
        exact ⟨inc, up, rfl, rfl⟩
      cases a with
      | nextOutbox =>
          simp only [AlertService.step, AlertService.nextOutbox, up] at taken
          split at taken
          · split at taken
            · cases taken
              exact ⟨rfl, rfl, rfl, kept _⟩
            · cases taken
              exact ⟨rfl, rfl, rfl, fun inc' held => ⟨inc', held, rfl, rfl⟩⟩
          · cases taken
      | sendOutbox fault =>
          simp only [AlertService.step, AlertService.sendOutbox, up] at taken
          split at taken
          · cases fault <;> cases taken <;> exact ⟨rfl, rfl, rfl, kept _⟩
          · cases taken
      | markPublished fault =>
          simp only [AlertService.step, AlertService.markPublished, up] at taken
          split at taken
          · split at taken <;> cases taken <;> exact ⟨rfl, rfl, rfl, kept _⟩
          · cases taken
      | _ => exact absurd dispatch (by simp [AlertService.IsDispatch])

theorem Progress.same {decisions : List (ScoreDecisionV1 F)}
    (progress : Progress config decisions s n) (same : SameRecords s s') :
    Progress config decisions s' n where
  within := progress.within
  records := same.records.trans progress.records
  sessions := same.sessions.trans progress.sessions
  committed := by
    rw [same.committed]
    exact progress.committed
  refused := by
    rw [same.committed]
    exact progress.refused
  loop inc' up' := by
    obtain ⟨inc, up, position, loop⟩ := same.loop inc' up'
    rw [same.committed, position, loop]
    exact progress.loop inc up

omit [Uuid5] in
/-- A partition whose loop waits for the next batch. -/
theorem LoopAt.of_range [Uuid5] {decisions : List (ScoreDecisionV1 F)} {c n position count : Nat}
    (loop : LoopAt config decisions c n position (.consuming []))
    (within : position + count ≤ max position decisions.length) :
    LoopAt config decisions c n (position + count)
      (.consuming ((List.range' position count).map fun offset => (0, offset))) := by
  obtain ⟨p, above, below, fetched, bound, refused, rest⟩ := loop
  have none : position - p = 0 := by
    have lengths := congrArg List.length rest
    rw [List.length_map, List.length_range'] at lengths
    exact lengths.symm
  obtain rfl : p = position := by omega
  refine ⟨p, above, below, Nat.le_add_right _ _, by omega, refused, ?_⟩
  rw [Nat.add_sub_cancel_left]

theorem progress_getmany {counts : List (Nat × Nat)}
    (progress : Progress config (decisionsOf stream) s n)
    (taken : s.getmany (onePartition stream) counts = some s') :
    Progress config (decisionsOf stream) s' n := by
  unfold AlertService.getmany at taken
  cases up : s.incarnation with
  | none =>
      rw [up] at taken
      cases taken
  | some inc =>
      rw [up] at taken
      dsimp only at taken
      split at taken
      · rename_i polls
        obtain ⟨idle, once, -, bounded⟩ := polls
        cases taken
        refine { progress with loop := fun polled same => ?_ }
        obtain rfl := Option.some.inj same
        have loop := progress.loop inc up
        rw [idle] at loop
        obtain ⟨batch, bound⟩ := polledBatch_onePartition once bounded
        dsimp only
        rw [batch]
        exact loop.of_range bound
      · cases taken

theorem progress_commit (progress : Progress config (decisionsOf stream) s n)
    (taken : s.commit none = some s') : Progress config (decisionsOf stream) s' n := by
  unfold AlertService.commit at taken
  cases up : s.incarnation with
  | none =>
      rw [up] at taken
      cases taken
  | some inc =>
      rw [up] at taken
      dsimp only at taken
      have loop := progress.loop inc up
      split at taken
      · rename_i partition offset rest awaiting
        rw [awaiting] at loop
        obtain ⟨rfl, above, below, fetched, bound, rfl⟩ := loop
        cases taken
        have now : Function.update s.committed 0 (offset + 1) 0 = offset + 1 :=
          Function.update_self _ _ _
        refine ⟨progress.within, progress.records, progress.sessions, ?_, ?_, fun inc' same => ?_⟩
        · dsimp only
          rw [now]
          exact below
        · dsimp only
          rw [now]
          exact progress.refused.from (by omega)
        · obtain rfl := Option.some.inj same
          dsimp only
          rw [now]
          refine ⟨offset + 1, le_refl _, below, fetched, bound, ?_, rfl⟩
          intro i a from_i below_i
          omega
      · cases taken

/-- The values of the stream are for this consumer. -/
def Accepted (config : AlertConsumerConfig F) (decisions : List (ScoreDecisionV1 F)) : Prop :=
  ∀ decision ∈ decisions, assertIdentity config.policy decision = .ok ()

/-- A decision for this consumer goes to the database. -/
theorem process_accepted {config : AlertConsumerConfig F} {world : ConsumerWorld F}
    {record : ScoreRecord F} {decision : Checked (ScoreDecisionV1 F)} (stamp : ProcessStamp)
    (decoded : record.value = .ok decision) (sessions : world.failedSessions = [])
    (accepted : assertIdentity config.policy decision.val = .ok ()) :
    process config stamp none record world =
      recordDecision config stamp none decision.val world := by
  unfold process
  rw [decoded]
  dsimp only
  rw [sessions, if_neg List.not_mem_nil, accepted]

/-- The loop after the record at `p`, taken or refused. -/
theorem progress_process {stamp : ProcessStamp} (ordered : SessionsInOrder (decisionsOf stream))
    (accepted : Accepted config (decisionsOf stream))
    (progress : Progress config (decisionsOf stream) s n)
    (fresh : s.world.store.FreshEvent stamp.transition.eventMessageId)
    (guarded : ∀ inc ∈ s.incarnation, ∀ next ∈ inc.loop.withOthers,
      ∀ payload ∈ (onePartition stream next.1)[next.2]?, TakenBy config s.world.store payload)
    (taken : s.processNext config (onePartition stream) stamp none = some s') :
    ∃ n', Progress config (decisionsOf stream) s' n' := by
  unfold AlertService.processNext at taken
  cases up : s.incarnation with
  | none =>
      rw [up] at taken
      cases taken
  | some inc =>
      rw [up] at taken
      dsimp only at taken
      have loop := progress.loop inc up
      split at taken
      · rename_i partition p rest atHead
        rw [atHead] at loop
        obtain ⟨first, above, below, fetched, bound, refused, batch⟩ := loop
        obtain ⟨count, remaining⟩ : ∃ count, inc.position 0 - first = count + 1 := by
          rw [← Nat.succ_pred_eq_of_pos (n := inc.position 0 - first)]
          · exact ⟨_, rfl⟩
          · rw [Nat.pos_iff_ne_zero]
            intro none
            rw [none] at batch
            cases batch
        rw [remaining, List.range'_succ, List.map_cons] at batch
        obtain ⟨here, rfl⟩ := List.cons.inj batch
        obtain ⟨rfl, rfl⟩ := Prod.mk.inj here
        obtain ⟨payload, held, rfl⟩ := Option.map_eq_some_iff.mp taken
        rw [onePartition_getElem?] at held
        obtain ⟨⟨digest, decision⟩, delivered, rfl⟩ := Option.map_eq_some_iff.mp held
        have listed : (decisionsOf stream)[p]? = some decision.val := by
          rw [decisionsOf, List.getElem?_map, delivered]
          rfl
        rw [process_accepted stamp rfl progress.sessions
          (accepted decision.val (List.mem_of_getElem? listed))]
        have tidy := tidy_takenUpTo config (decisionsOf stream) n
        rw [← progress.records] at tidy
        obtain ⟨records, sessions, returns⟩ := recordDecision_takes config stamp decision.val tidy fresh
        rw [progress.records] at records returns
        obtain ⟨n', more, past, within, refused', now⟩ := ordered.absorbs.advance progress.refused
          refused progress.within above below listed
        rw [now] at records
        rcases returns with returned | ⟨refusal, e, returned⟩
        · rw [returned]
          refine ⟨n', within, records, sessions.trans progress.sessions,
            Nat.le_trans progress.committed more, refused', fun inc' same => ?_⟩
          obtain rfl := Option.some.inj same
          have fetched : p < inc.position 0 := by omega
          refine ⟨rfl, above, past, fetched, bound, ?_⟩
          rw [show inc.position 0 - (p + 1) = count by omega]
        · rw [returned]
          refine ⟨n', within, records, sessions.trans progress.sessions,
            Nat.le_trans progress.committed more, refused', fun inc' same => ?_⟩
          obtain rfl := Option.some.inj same
          -- A refused decision with others behind it is excluded.
          have last : count = 0 := by
            cases count with
            | zero => rfl
            | succ count =>
                have takes := guarded inc up (0, p) (by rw [atHead]; rfl) _ (by
                  rw [onePartition_getElem?, delivered]
                  rfl)
                unfold TakenBy at takes
                rw [progress.records] at takes
                dsimp only at takes
                rw [refusal] at takes
                cases takes
          have fetched : p + 1 ≤ inc.position 0 := by omega
          refine ⟨p + 1, Nat.le_succ_of_le above, past, fetched, bound, ?_, ?_⟩
          · intro i a from_i below_i held'
            rcases Nat.lt_succ_iff_lt_or_eq.mp below_i with earlier | rfl
            · exact refused i a from_i earlier held'
            · cases listed.symm.trans held'
              exact ordered.absorbs.refused_first progress.refused progress.within above below
                listed refusal
          · rw [show inc.position 0 - (p + 1) = 0 by omega]
            rfl
      · cases taken

/-- Every step that drops no record keeps the progress. -/
theorem progress_step {a : ServiceAction} (ordered : SessionsInOrder (decisionsOf stream))
    (accepted : Accepted config (decisionsOf stream))
    (progress : ∃ n, Progress config (decisionsOf stream) s n)
    (guarded : DropsNothing config (onePartition stream) s a)
    (taken : s.step config (onePartition stream) a = some s') :
    ∃ n, Progress config (decisionsOf stream) s' n := by
  obtain ⟨n, progress⟩ := progress
  cases a with
  | getmany counts => exact ⟨n, progress_getmany progress taken⟩
  | process stamp fault =>
      obtain ⟨⟨rfl, fresh⟩, others⟩ := guarded
      exact progress_process ordered accepted progress fresh others taken
  | commit fault =>
      obtain rfl : fault = none := guarded.1
      exact ⟨n, progress_commit progress taken⟩
  | nextOutbox =>
      exact ⟨n, progress.same (sameRecords_of_dispatch (a := .nextOutbox) trivial taken)⟩
  | sendOutbox fault =>
      exact ⟨n, progress.same (sameRecords_of_dispatch (a := .sendOutbox fault) trivial taken)⟩
  | markPublished fault =>
      exact ⟨n, progress.same (sameRecords_of_dispatch (a := .markPublished fault) trivial taken)⟩
  | crash =>
      simp only [AlertService.step, AlertService.crash] at taken
      split at taken
      · cases taken
        exact ⟨n, { progress with loop := fun _ mem => absurd mem (Option.not_mem_none _) }⟩
      · cases taken
  | restart =>
      simp only [AlertService.step, AlertService.restart] at taken
      split at taken
      · cases taken
        refine ⟨n, { progress with sessions := rfl, loop := fun inc same => ?_ }⟩
        obtain rfl := Option.some.inj same
        refine ⟨s.committed 0, le_refl _, progress.committed, le_refl _,
          Nat.le_trans progress.committed progress.within, ?_, ?_⟩
        · intro i a from_i below_i
          exact absurd below_i (not_lt.mpr from_i)
        · rw [Nat.sub_self]
          rfl
      · cases taken

/-- What is consumed is processed. -/
theorem Progress.all (progress : Progress config (decisionsOf stream) s n)
    (consumed : s.Consumed stream) : n = stream.length := by
  obtain ⟨inc, up, idle, position⟩ := consumed
  have loop := progress.loop inc up
  rw [idle] at loop
  obtain ⟨p, above, below, fetched, bound, refused, rest⟩ := loop
  have none : inc.position 0 - p = 0 := by
    have lengths := congrArg List.length rest
    rw [List.length_map, List.length_range'] at lengths
    exact lengths.symm
  have within := progress.within
  have all : (decisionsOf stream).length = stream.length := List.length_map _
  omega

end Steps

/-! ### Runs -/

section Runs

variable {config : AlertConsumerConfig F}
  {stream : List (Sha256 × Checked (ScoreDecisionV1 F))} {s s' : AlertService F}
  {as as' : List ServiceAction}

theorem progress_of_run (ordered : SessionsInOrder (decisionsOf stream))
    (accepted : Accepted config (decisionsOf stream))
    (run : Lib.Run (AlertService.step config (onePartition stream))
      (DropsNothing config (onePartition stream)) .initial as s) :
    ∃ n, Progress config (decisionsOf stream) s n :=
  run.invariant (P := fun s => ∃ n, Progress config (decisionsOf stream) s n)
    (fun _ _ _ progress guarded taken => progress_step ordered accepted progress guarded taken)
    ⟨0, progress_initial config (decisionsOf stream)⟩

/-- In every run that drops no record, whatever its crashes, the store holds the records
of a prefix of the stream, each processed once, and no committed record is missing;
when everything is consumed, it holds those of the whole stream, as any other such run
that consumes everything, and so one with no crash. -/
theorem effects_exactly_once (ordered : SessionsInOrder (decisionsOf stream))
    (accepted : Accepted config (decisionsOf stream))
    (run : Lib.Run (AlertService.step config (onePartition stream))
      (DropsNothing config (onePartition stream)) .initial as s) :
    (∃ n ≤ stream.length, s.committed 0 ≤ n ∧
      s.world.store.records = recordsAfter config ((decisionsOf stream).take n)) ∧
    (s.Consumed stream → s.world.store.records = recordsAfter config (decisionsOf stream) ∧
      ∀ as' s', .crash ∉ as' → Lib.Run (AlertService.step config (onePartition stream))
        (DropsNothing config (onePartition stream)) .initial as' s' → s'.Consumed stream →
          s.world.store.records = s'.world.store.records) := by
  have length : (decisionsOf stream).length = stream.length := List.length_map _
  have whole : ∀ s as, Lib.Run (AlertService.step config (onePartition stream))
      (DropsNothing config (onePartition stream)) .initial as s → s.Consumed stream →
        s.world.store.records = recordsAfter config (decisionsOf stream) := by
    intro s as run consumed
    obtain ⟨n, progress⟩ := progress_of_run ordered accepted run
    obtain rfl := progress.all consumed
    rw [progress.records, ← length]
    exact Lib.takenUpTo_length
  constructor
  · obtain ⟨n, progress⟩ := progress_of_run ordered accepted run
    exact ⟨n, length ▸ progress.within, progress.committed, progress.records⟩
  · intro consumed
    have mine := whole s as run consumed
    refine ⟨mine, fun as' s' _ run' consumed' => ?_⟩
    rw [mine, whole s' as' run' consumed']

end Runs

/-! ### Concrete runs -/

section Decidable

variable {config : AlertConsumerConfig F} {log : ScoresLog F}

omit [Uuid5] in
instance (store : RuntimeStore F) (messageId : UUID) : Decidable (store.FreshEvent messageId) :=
  inferInstanceAs (Decidable (_ ∧ _))

omit [Uuid5] in
instance (s : AlertService F) (a : ServiceAction) : Decidable (OnlyCrashes s a) := by
  refine ServiceAction.casesOn a ?_ ?_ ?_ ?_ ?_ ?_ ?_ ?_ <;> intros <;>
    dsimp only [OnlyCrashes] <;> infer_instance

instance (store : RuntimeStore F) (payload : ScorePayload F) :
    Decidable (TakenBy config store payload) := by
  unfold TakenBy
  split <;> infer_instance

instance (s : AlertService F) (a : ServiceAction) : Decidable (NoDroppedRecord config log s a) := by
  refine ServiceAction.casesOn a ?_ ?_ ?_ ?_ ?_ ?_ ?_ ?_ <;> intros <;>
    dsimp only [NoDroppedRecord] <;> infer_instance

instance (s : AlertService F) (a : ServiceAction) : Decidable (DropsNothing config log s a) :=
  inferInstanceAs (Decidable (_ ∧ _))

end Decidable

omit [Uuid5] in
instance (config : AlertConsumerConfig F) (decisions : List (ScoreDecisionV1 F)) :
    Decidable (Accepted config decisions) := by
  unfold Accepted
  infer_instance

omit [Uuid5] in
instance (stream : List (Sha256 × Checked (ScoreDecisionV1 F))) (s : AlertService F) :
    Decidable (s.Consumed stream) := by
  unfold AlertService.Consumed
  infer_instance

end Effects

def episodeStream : List (Sha256 × Checked (ScoreDecisionV1 Int)) :=
  [(1, anomalousWindow), (2, normalWindow)]

/-- The process is lost between the database commit and the commit of the offset. -/
def crashingRun : List ServiceAction :=
  [.restart, .getmany [(0, 2)], .process (processStampAt 0) none, .crash, .restart,
    .getmany [(0, 2)], .process (processStampAt 1) none, .commit none,
    .process (processStampAt 2) none, .commit none]

theorem crashingRun_once :
    letI := episodeNames
    ∃ s, Lib.Run (AlertService.step promptConsumer (onePartition episodeStream))
        (DropsNothing promptConsumer (onePartition episodeStream)) .initial crashingRun s ∧
      s.world.store.records = recordsAfter promptConsumer (decisionsOf episodeStream) := by
  let := episodeNames
  obtain ⟨s, run, consumed⟩ := Lib.exists_run_of_exec
    (AlertService.step promptConsumer (onePartition episodeStream))
    (DropsNothing promptConsumer (onePartition episodeStream)) .initial crashingRun
    (fun s => s.Consumed episodeStream) (by decide)
  exact ⟨s, run, ((effects_exactly_once ⟨by decide, by decide⟩ (by decide) run).2 consumed).1⟩

/-- A decision whose evidence has no name, and the next one. -/
def unnamedFirst : List (Sha256 × Checked (ScoreDecisionV1 Int)) :=
  [(1, checkedWindow 5 true [⟨"", 8, 3⟩]), (2, normalWindow)]

/-- One record at a time. -/
def singlePolls : List ServiceAction :=
  [.restart, .getmany [(0, 1)], .process (processStampAt 0) none, .getmany [(0, 1)],
    .process (processStampAt 1) none, .commit none]

/-- A crash before the second record is processed; then both come in one batch. -/
def crashBetween : List ServiceAction :=
  [.restart, .getmany [(0, 1)], .process (processStampAt 0) none, .getmany [(0, 1)], .crash,
    .restart, .getmany [(0, 2)], .process (processStampAt 1) none]

theorem droppedDecision_lost :
    letI := episodeNames
    SessionsInOrder (decisionsOf unnamedFirst) ∧ Accepted promptConsumer (decisionsOf unnamedFirst) ∧
    ∃ s s', .crash ∉ singlePolls ∧
      Lib.Run (AlertService.step promptConsumer (onePartition unnamedFirst)) OnlyCrashes .initial
        singlePolls s ∧ s.Consumed unnamedFirst ∧
      Lib.Run (AlertService.step promptConsumer (onePartition unnamedFirst)) OnlyCrashes .initial
        crashBetween s' ∧ s'.Consumed unnamedFirst ∧
      s'.world.store.records ≠ s.world.store.records := by
  let := episodeNames
  obtain ⟨s, run, consumed, kept⟩ := Lib.exists_run_of_exec
    (AlertService.step promptConsumer (onePartition unnamedFirst)) OnlyCrashes .initial singlePolls
    (fun s => s.Consumed unnamedFirst ∧ (s.world.store.records.scoreDecisions.get? 10).isSome)
    (by decide)
  obtain ⟨s', run', consumed', lost⟩ := Lib.exists_run_of_exec
    (AlertService.step promptConsumer (onePartition unnamedFirst)) OnlyCrashes .initial crashBetween
    (fun s => s.Consumed unnamedFirst ∧ s.world.store.records.scoreDecisions.get? 10 = none)
    (by decide)
  refine ⟨⟨by decide, by decide⟩, by decide, s, s', by decide, run, consumed, run', consumed', ?_⟩
  intro same
  rw [same] at lost
  rw [lost] at kept
  cases kept

end IndustrialReliability
