import IndustrialReliability.Alert.Service

/-!
Commit safety of the alert consumer.

`CommitSafe` says that every record below a committed offset is durably handled.
The loop keeps it as long as the records below the fetch position are handled or
still ahead in the batch (`Ready`). An exception breaks that: it drops the rest
of the batch while the position stays behind it, and the next commit on the
partition passes the dropped records. `NoStrandedPoll` is the condition that
this does not happen, `commitSafe_of_run` the safety of every run that meets it,
and `strandedRecord_committed` a run that does not.
-/

namespace IndustrialReliability

variable {F : Type} [PyFloat F]

/-- The value of a record is quarantined, or its decision persisted or skipped. -/
def PayloadHandled (s : AlertService F) (partition offset : Nat) :
    Except String (Checked (ScoreDecisionV1 F)) → Prop
  | .error _ => ∃ q ∈ s.world.quarantined, q.partition = partition ∧ q.offset = offset
  | .ok decision => (s.world.store.scoreDecisions.get? decision.val.decisionId).isSome ∨
      (partition, offset) ∈ s.skipped

/-- The record at an offset is durably handled. -/
def DurablyHandled (log : ScoresLog F) (s : AlertService F) (partition offset : Nat) : Prop :=
  ∀ payload ∈ (log partition)[offset]?, PayloadHandled s partition offset payload.value

instance (s : AlertService F) (partition offset : Nat)
    (value : Except String (Checked (ScoreDecisionV1 F))) :
    Decidable (PayloadHandled s partition offset value) := by
  cases value <;> unfold PayloadHandled <;> infer_instance

instance (log : ScoresLog F) (s : AlertService F) (partition offset : Nat) :
    Decidable (DurablyHandled log s partition offset) :=
  match held : (log partition)[offset]? with
  | none => .isTrue fun _ mem => by cases held.symm.trans mem
  | some payload => decidable_of_iff (PayloadHandled s partition offset payload.value) (by
      simp [DurablyHandled, held])

/-- Every record below a committed offset is durably handled. -/
def CommitSafe (log : ScoresLog F) (s : AlertService F) : Prop :=
  ∀ partition offset, offset < s.committed partition → DurablyHandled log s partition offset

/-- A poll only returns records of partitions on which no record between the
committed offset and the fetch position is left unhandled. -/
def NoStrandedPoll (log : ScoresLog F) (s : AlertService F) : ServiceAction → Prop
  | .getmany counts => ∀ inc ∈ s.incarnation, ∀ c ∈ counts,
      ∀ offset < inc.position c.1, s.committed c.1 ≤ offset → DurablyHandled log s c.1 offset
  | _ => True

/-! ### The invariant -/

/-- Each record of the batch comes when every earlier record of its partition is
handled or was in the batch before it. -/
def Ready (handled : Nat → Nat → Prop) : List (Nat × Nat) → Prop
  | [] => True
  | (partition, offset) :: rest =>
      (∀ earlier < offset, handled partition earlier) ∧
        Ready (fun p n => handled p n ∨ (p, n) = (partition, offset)) rest

section Ready

variable {handled handled' : Nat → Nat → Prop} {batch batch' : List (Nat × Nat)}

theorem Ready.mono (more : ∀ p n, handled p n → handled' p n) (ready : Ready handled batch) :
    Ready handled' batch := by
  induction batch generalizing handled handled' with
  | nil => trivial
  | cons head rest ih =>
      obtain ⟨here, there⟩ := ready
      exact ⟨fun earlier lt => more _ _ (here earlier lt),
        ih (fun p n => Or.imp_left (more p n)) there⟩

theorem Ready.append (first : Ready handled batch) (second : Ready handled batch') :
    Ready handled (batch ++ batch') := by
  induction batch generalizing handled with
  | nil => exact second
  | cons head rest ih =>
      obtain ⟨here, there⟩ := first
      exact ⟨here, ih there (second.mono fun _ _ => .inl)⟩

/-- A run of offsets of one partition is ready when what comes before it is
handled. -/
theorem Ready.range {partition : Nat} (start count : Nat)
    (before : ∀ earlier < start, handled partition earlier) :
    Ready handled ((List.range' start count).map fun offset => (partition, offset)) := by
  induction count generalizing start handled with
  | zero => trivial
  | succ count ih =>
      refine ⟨before, ih (start + 1) fun earlier lt => ?_⟩
      rcases Nat.lt_succ_iff_lt_or_eq.mp lt with lt | rfl
      · exact .inl (before earlier lt)
      · exact .inr rfl

theorem ready_polledBatch {position : Nat → Nat} {counts : List (Nat × Nat)}
    (below : ∀ c ∈ counts, ∀ earlier < position c.1, handled c.1 earlier) :
    Ready handled (polledBatch position counts) := by
  induction counts with
  | nil => trivial
  | cons c counts ih =>
      have first := Ready.range (position c.1) c.2 (below c List.mem_cons_self)
      exact first.append (ih fun c' mem => below c' (List.mem_cons_of_mem _ mem))

end Ready

/-- What the consumer loop has still to do, and has done. -/
def LoopReady (log : ScoresLog F) (s : AlertService F) : LoopPhase → Prop
  | .consuming rest => Ready (DurablyHandled log s) rest
  | .committing partition offset rest =>
      (∀ earlier ≤ offset, DurablyHandled log s partition earlier) ∧
        Ready (DurablyHandled log s) rest
  | .halted => True

structure CommitInvariant (log : ScoresLog F) (s : AlertService F) : Prop where
  safe : CommitSafe log s
  loop : ∀ inc ∈ s.incarnation, LoopReady log s inc.loop

theorem commitInvariant_initial (log : ScoresLog F) : CommitInvariant log .initial :=
  ⟨fun _ _ lt => absurd lt (Nat.not_lt_zero _), nofun⟩

/-- What is handled stays handled while the world grows. -/
theorem DurablyHandled.mono {log : ScoresLog F} {s s' : AlertService F}
    (grows : s.world.Grows s'.world) (skipped : ∀ r ∈ s.skipped, r ∈ s'.skipped)
    {partition offset : Nat} (handled : DurablyHandled log s partition offset) :
    DurablyHandled log s' partition offset := by
  intro payload held
  have before := handled payload held
  cases decoded : payload.value with
  | error detail =>
      rw [decoded] at before
      obtain ⟨q, mem, here⟩ := before
      exact ⟨q, grows.quarantined q mem, here⟩
  | ok decision =>
      rw [decoded] at before
      rcases before with persisted | skip
      · exact .inl (grows.decisions _ persisted)
      · exact .inr (skipped _ skip)

theorem LoopReady.mono {log : ScoresLog F} {s s' : AlertService F}
    (grows : s.world.Grows s'.world) (skipped : ∀ r ∈ s.skipped, r ∈ s'.skipped)
    {loop : LoopPhase} (ready : LoopReady log s loop) : LoopReady log s' loop := by
  cases loop with
  | consuming rest => exact Ready.mono (fun _ _ h => h.mono grows skipped) ready
  | committing partition offset rest =>
      exact ⟨fun earlier le => (ready.1 earlier le).mono grows skipped,
        ready.2.mono fun _ _ h => h.mono grows skipped⟩
  | halted => trivial

/-- A step that only grows the world, keeps the committed offsets and leaves the
loop where it is keeps the invariant. -/
theorem CommitInvariant.frame {log : ScoresLog F} {s s' : AlertService F}
    (inv : CommitInvariant log s) (grows : s.world.Grows s'.world)
    (skipped : ∀ r ∈ s.skipped, r ∈ s'.skipped) (committed : s'.committed = s.committed)
    (loop : ∀ inc ∈ s'.incarnation, LoopReady log s' inc.loop) : CommitInvariant log s' :=
  ⟨fun partition offset lt =>
    (inv.safe partition offset (by rwa [committed] at lt)).mono grows skipped, loop⟩

section Steps

variable [Uuid5] {config : AlertConsumerConfig F} {log : ScoresLog F} {s s' : AlertService F}

omit [Uuid5] in
theorem getmany_keeps {counts : List (Nat × Nat)} (inv : CommitInvariant log s)
    (guarded : NoStrandedPoll log s (.getmany counts)) (taken : s.getmany log counts = some s') :
    CommitInvariant log s' := by
  unfold AlertService.getmany at taken
  cases up : s.incarnation with
  | none =>
      rw [up] at taken
      cases taken
  | some inc =>
      rw [up] at taken
      dsimp only at taken
      split at taken
      · cases taken
        refine inv.frame (.refl _) (fun _ h => h) rfl ?_
        intro polled same
        obtain rfl := Option.some.inj same
        refine ready_polledBatch fun c mem earlier lt => ?_
        by_cases below : earlier < s.committed c.1
        · exact (inv.safe c.1 earlier below).mono (.refl _) fun _ h => h
        · exact (guarded inc up c mem earlier lt (not_lt.mp below)).mono (.refl _) fun _ h => h
      · cases taken

/-- A record whose processing returned normally, its session not failed by it, is
durably handled. -/
theorem handled_of_processed {stamp : ProcessStamp} {partition offset : Nat}
    {payload : ScorePayload F} {called : ConsumerWorld F × Except ProcessError ProcessOutcome}
    {outcome : ProcessOutcome} (held : (log partition)[offset]? = some payload)
    (spec : Processed config stamp (scoreRecord partition offset payload) s.world called)
    (returned : called.2 = .ok outcome) (continues : outcome ≠ .sessionFailed)
    (world : s'.world = called.1)
    (skipped : outcome = .skipped → (partition, offset) ∈ s'.skipped) :
    DurablyHandled log s' partition offset := by
  intro payload' same
  cases held.symm.trans same
  cases decoded : payload.value with
  | error detail =>
      obtain ⟨q, mem, here⟩ := spec.quarantines detail decoded outcome returned
      exact ⟨q, world ▸ mem, here⟩
  | ok decision =>
      rcases spec.records decision decoded outcome returned with skip | failed | persisted
      · exact .inr (skipped skip)
      · exact absurd failed continues
      · exact .inl (world ▸ persisted)

omit [Uuid5] in
/-- Handling the first record of a ready batch makes its commit ready. -/
theorem ready_committing {partition offset : Nat} {rest : List (Nat × Nat)}
    (ready : LoopReady log s (.consuming ((partition, offset) :: rest)))
    (grows : s.world.Grows s'.world) (skipped : ∀ r ∈ s.skipped, r ∈ s'.skipped)
    (handled : DurablyHandled log s' partition offset) :
    LoopReady log s' (.committing partition offset rest) := by
  obtain ⟨before, after⟩ := ready
  refine ⟨fun earlier le => ?_, after.mono fun p n held => ?_⟩
  · rcases Nat.lt_or_eq_of_le le with lt | rfl
    · exact (before earlier lt).mono grows skipped
    · exact handled
  · rcases held with held | same
    · exact held.mono grows skipped
    · cases same
      exact handled

/-- A turn of the loop: a normal return has handled the record, an exception drops
the batch. -/
theorem processNext_keeps {stamp : ProcessStamp} {fault : Option ProcessFault}
    (inv : CommitInvariant log s) (taken : s.processNext config log stamp fault = some s') :
    CommitInvariant log s' := by
  unfold AlertService.processNext at taken
  cases up : s.incarnation with
  | none =>
      rw [up] at taken
      cases taken
  | some inc =>
      rw [up] at taken
      dsimp only at taken
      have ready := inv.loop inc up
      split at taken
      · rename_i partition offset rest atHead
        rw [atHead] at ready
        obtain ⟨payload, held, rfl⟩ := Option.map_eq_some_iff.mp taken
        have spec := process_spec config stamp fault (scoreRecord partition offset payload) s.world
        revert spec
        generalize process config stamp fault (scoreRecord partition offset payload) s.world =
          called
        intro spec
        obtain ⟨world, returned⟩ := called
        cases returned with
        | error e =>
            refine inv.frame spec.grows (fun _ h => h) rfl fun inc' same => ?_
            obtain rfl := Option.some.inj same
            trivial
        | ok outcome =>
            cases outcome with
            | sessionFailed =>
                refine inv.frame spec.grows (fun _ h => h) rfl fun inc' same => ?_
                obtain rfl := Option.some.inj same
                trivial
            | skipped =>
                refine inv.frame spec.grows (fun _ h => List.mem_cons_of_mem _ h) rfl
                  fun inc' same => ?_
                obtain rfl := Option.some.inj same
                exact ready_committing ready spec.grows (fun _ h => List.mem_cons_of_mem _ h)
                  (handled_of_processed held spec rfl nofun rfl fun _ => List.mem_cons_self)
            | committed | quarantined =>
                refine inv.frame spec.grows (fun _ h => h) rfl fun inc' same => ?_
                obtain rfl := Option.some.inj same
                exact ready_committing ready spec.grows (fun _ h => h)
                  (handled_of_processed held spec rfl nofun rfl nofun)
      · cases taken

omit [Uuid5] in
theorem commit_keeps {fault : Option Bool} (inv : CommitInvariant log s)
    (taken : s.commit fault = some s') : CommitInvariant log s' := by
  unfold AlertService.commit at taken
  cases up : s.incarnation with
  | none =>
      rw [up] at taken
      cases taken
  | some inc =>
      rw [up] at taken
      dsimp only at taken
      have ready := inv.loop inc up
      split at taken
      · rename_i partition offset rest awaiting
        rw [awaiting] at ready
        obtain ⟨below, after⟩ := ready
        have acknowledged : ∀ p n, n < Function.update s.committed partition (offset + 1) p →
            DurablyHandled log s p n := by
          intro p n lt
          by_cases here : p = partition
          · subst here
            rw [Function.update_self] at lt
            exact below n (Nat.le_of_lt_succ lt)
          · rw [Function.update_of_ne here] at lt
            exact inv.safe p n lt
        cases fault with
        | none =>
            cases taken
            refine ⟨acknowledged, fun inc' same => ?_⟩
            obtain rfl := Option.some.inj same
            exact after
        | some delivered =>
            cases taken
            refine ⟨?_, fun inc' same => ?_⟩
            · cases delivered with
              | false => exact inv.safe
              | true => exact acknowledged
            · obtain rfl := Option.some.inj same
              trivial
      · cases taken

omit [Uuid5] in
theorem dispatch_keeps (inv : CommitInvariant log s) (same : AlertService.SameConsumer s s') :
    CommitInvariant log s' := by
  have grows : s.world.Grows s'.world := .of_decisions same.decisions same.quarantined
  have skipped : ∀ r ∈ s.skipped, r ∈ s'.skipped := fun r h => by rw [same.skipped]; exact h
  refine inv.frame grows skipped same.committed fun inc' up => ?_
  have loop := same.loop
  rw [Option.mem_def.mp up] at loop
  obtain ⟨inc, held, here⟩ := Option.map_eq_some_iff.mp loop.symm
  have ready := (inv.loop inc held).mono grows skipped
  rwa [here] at ready

/-- Every step that meets the condition keeps the invariant. -/
theorem commitInvariant_step {a : ServiceAction} (inv : CommitInvariant log s)
    (guarded : NoStrandedPoll log s a) (taken : s.step config log a = some s') :
    CommitInvariant log s' := by
  cases a with
  | getmany counts => exact getmany_keeps inv guarded taken
  | process stamp fault => exact processNext_keeps inv taken
  | commit fault => exact commit_keeps inv taken
  | nextOutbox =>
      exact dispatch_keeps inv (AlertService.sameConsumer_of_dispatch (a := .nextOutbox) trivial taken)
  | sendOutbox fault =>
      exact dispatch_keeps inv
        (AlertService.sameConsumer_of_dispatch (a := .sendOutbox fault) trivial taken)
  | markPublished fault =>
      exact dispatch_keeps inv
        (AlertService.sameConsumer_of_dispatch (a := .markPublished fault) trivial taken)
  | crash =>
      simp only [AlertService.step, AlertService.crash] at taken
      split at taken
      · cases taken
        exact inv.frame (.refl _) (fun _ h => h) rfl fun _ mem => absurd mem (Option.not_mem_none _)
      · cases taken
  | restart =>
      simp only [AlertService.step, AlertService.restart] at taken
      split at taken
      · cases taken
        refine inv.frame (.of_decisions rfl rfl) (fun _ h => h) rfl fun inc same => ?_
        obtain rfl := Option.some.inj same
        trivial
      · cases taken

/-- In every run in which no poll returns records behind which some record of
their partition was left unhandled, every record below a committed offset is
durably handled. -/
theorem commitSafe_of_run {as : List ServiceAction}
    (run : Lib.Run (AlertService.step config log) (NoStrandedPoll log) .initial as s) :
    CommitSafe log s :=
  (run.invariant (fun _ _ _ inv guarded taken => commitInvariant_step inv guarded taken)
    (commitInvariant_initial log)).safe

end Steps

/-! ### Concrete runs -/

instance (log : ScoresLog F) (s : AlertService F) (a : ServiceAction) :
    Decidable (NoStrandedPoll log s a) := by
  refine ServiceAction.casesOn a ?_ ?_ ?_ ?_ ?_ ?_ ?_ ?_ <;> intros <;>
    dsimp only [NoStrandedPoll] <;> infer_instance

/-- A partition with an undecodable record before a decision. -/
def undecodableFirst : ScoresLog Int
  | 0 => [⟨1, .error "Failed to decode ScoreDecisionV1"⟩, ⟨2, .ok (checkedWindow 5 false [])⟩]
  | _ => []

/-- Both records in one batch, each committed after it is handled. -/
def orderlyRun : List ServiceAction :=
  [.restart, .getmany [(0, 2)], .process (processStampAt 0) none, .commit none,
    .process (processStampAt 1) none, .commit none]

theorem orderlyRun_commitSafe :
    letI := knownUuid5 []
    ∃ s, Lib.Run (AlertService.step promptConsumer undecodableFirst)
        (NoStrandedPoll undecodableFirst) .initial orderlyRun s ∧
      s.committed 0 = 2 ∧ CommitSafe undecodableFirst s := by
  let := knownUuid5 []
  obtain ⟨s, run, offset⟩ := Lib.exists_run_of_exec
    (AlertService.step promptConsumer undecodableFirst) (NoStrandedPoll undecodableFirst)
    .initial orderlyRun (fun s => s.committed 0 = 2) (by decide)
  exact ⟨s, run, offset, commitSafe_of_run run⟩

/-- The quarantine topic is unreachable for the first record; the loop polls on and
commits the second. -/
def strandingRun : List ServiceAction :=
  [.restart, .getmany [(0, 1)], .process (processStampAt 0) (some (.quarantineSend false)),
    .getmany [(0, 1)], .process (processStampAt 1) none, .commit none]

theorem strandedRecord_committed :
    letI := knownUuid5 []
    ∃ s, Lib.Reachable (AlertService.step promptConsumer undecodableFirst) .initial s ∧
      ¬ CommitSafe undecodableFirst s := by
  let := knownUuid5 []
  obtain ⟨s, run, committed, unhandled⟩ := Lib.exists_run_of_exec
    (AlertService.step promptConsumer undecodableFirst) Lib.Always .initial strandingRun
    (fun s => 0 < s.committed 0 ∧ ¬ DurablyHandled undecodableFirst s 0 0) (by decide)
  exact ⟨s, ⟨_, run⟩, fun safe => unhandled (safe 0 0 committed)⟩

end IndustrialReliability
