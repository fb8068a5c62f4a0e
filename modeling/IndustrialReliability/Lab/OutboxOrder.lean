import IndustrialReliability.Lab.Outbox
import IndustrialReliability.Lab.Readings
import IndustrialReliability.Lib.Deliveries

/-!
The lab outbox delivers in order and loses nothing.

Rows are stored in the order of their ticks for every run and sensor (`RunsInv.ascending`),
so a row that is stored later is before none. A batch is the first of what is not
published, in an order that agrees with the ticks, and what is published has been
delivered; so the rows of a batch are ready one after another, whatever is stored
meanwhile, and the dispatcher hands over ready rows only (`DispatchInv`).
-/

namespace IndustrialReliability

open Lib.Deliveries SimulationEngine

variable {R : Type} [LabNumber R]

/-! ### Stored rows -/

section Rows

variable [Sha256Digest] {run : SimulationRun R} {tables tables' : LabTables R} {call : LabCall R}

theorem sample_runId (sensor : Sensor R) (tick : Nat) (fault : Option (ActiveFault R)) (truth : Option R) :
    (sample run sensor tick fault truth).runId = run.runId := by
  unfold sample
  split
  · rfl
  · dsimp only
    split_ifs <;> rfl

/-- What a batch observes is of its run. -/
theorem batch_runId {network : CompiledNetwork R} {controls : ControlState R} {ticks : Nat}
    {physical last : PhysicalState R} {observed : List (Observation R)}
    (ran : batch network run controls ticks physical = .ok (last, observed)) :
    ∀ observation ∈ observed, observation.runId = run.runId := by
  induction ticks generalizing physical observed with
  | zero =>
      cases ran
      exact fun _ mem => (nomatch mem)
  | succ ticks ih =>
      obtain ⟨next, -, rest⟩ := Lib.bind_eq_ok_iff.mp ran
      obtain ⟨⟨last', later⟩, remaining, same⟩ := Lib.bind_eq_ok_iff.mp rest
      cases same
      intro observation mem
      rcases List.mem_append.mp mem with here | later
      · unfold observations at here
        split at here
        · obtain ⟨sensor, -, sampled⟩ := List.mem_filterMap.mp here
          obtain ⟨truth, -, rfl⟩ := Option.map_eq_some_iff.mp sampled
          exact sample_runId sensor _ _ truth
        · cases here
      · exact ih remaining observation later

/-- The columns of a row are those of its payload. -/
structure LabOutboxRow.Own (row : LabOutboxRow R) : Prop where
  runId : row.payload.runId = row.runId
  sensorId : row.payload.sensorId = row.sensorId
  tick : row.payload.tick = row.tick

/-- A commit stores rows behind those that are there. -/
theorem LabChange.outbox_rows (change : LabChange call tables tables') : ∃ messages,
    tables'.outbox.rows = tables.outbox.rows ++ messages ∧ ∀ message ∈ messages, message.2.Own := by
  cases change with
  | @checkpoint run _ tables row _ physical observed messages batched rows fresh distinct =>
      refine ⟨messages, addMessages_rows fresh distinct, fun message mem => ?_⟩
      have its : message.2 ∈ observed.map (outboxRow run.runId) := by
        rw [← rows]
        exact List.mem_map_of_mem mem
      obtain ⟨observation, seen, same⟩ := List.mem_map.mp its
      obtain ⟨network, -, ran⟩ := batched.advanced
      rw [← same]
      exact ⟨batch_runId ran observation seen, rfl, rfl⟩
  | nothing | firstSave | nextSave | start | accept | status =>
      exact ⟨[], (List.append_nil _).symm, fun _ mem => (nomatch mem)⟩

/-- Rows are stored in the order of their ticks. -/
theorem RunsInv.ascending (inv : RunsInv tables) : tables.outbox.rows.Pairwise fun a b =>
    a.2.runId = b.2.runId → a.2.sensorId = b.2.sensorId → a.2.tick < b.2.tick := by
  refine pairwise_of_parts fun id => ?_
  have whole : (outboxOf tables id).Pairwise fun a b => a.sensorId = b.sensorId → a.tick < b.tick := by
    cases held : tables.runs.get? id with
    | none =>
        rw [inv.outboxOf_eq_nil held]
        exact List.Pairwise.nil
    | some row =>
        obtain ⟨revision, -, own⟩ := inv.runs id row held
        have sampled := sampledIn_ascending (runEligible_of_validateLab own.eligible).sensorIds 0 row.tick
        rw [← own.outbox, List.pairwise_map] at sampled
        exact sampled
  unfold outboxOf Lib.Table.values at whole
  rw [List.filter_map, List.pairwise_map] at whole
  exact whole

end Rows

/-! ### Batches -/

/-- An earlier observation of the same stream. -/
structure Before (n m : LabMessage R) : Prop where
  runId : n.2.payload.runId = m.2.payload.runId
  sensorId : n.2.payload.sensorId = m.2.payload.sensorId
  tick : n.2.payload.tick < m.2.payload.tick

section Order

variable {a b c : LabMessage R}

theorem before_iff (own : a.2.Own) (own' : b.2.Own) : Before a b ↔
    a.2.runId = b.2.runId ∧ a.2.sensorId = b.2.sensorId ∧ a.2.tick < b.2.tick := by
  rw [← own.runId, ← own'.runId, ← own.sensorId, ← own'.sensorId, ← own.tick, ← own'.tick]
  exact ⟨fun ⟨runId, sensorId, tick⟩ => ⟨runId, sensorId, tick⟩,
    fun ⟨runId, sensorId, tick⟩ => ⟨runId, sensorId, tick⟩⟩

theorem outboxLE_refl (a : LabMessage R) : OutboxLE a a := .inr ⟨rfl, .inr ⟨rfl, le_rfl⟩⟩

theorem outboxLE_total (a b : LabMessage R) : OutboxLE a b ∨ OutboxLE b a := by
  unfold OutboxLE
  rcases lt_trichotomy a.2.runId b.2.runId with less | same | more
  · exact .inl (.inl less)
  · rcases lt_trichotomy a.2.tick b.2.tick with less' | same' | more'
    · exact .inl (.inr ⟨same, .inl less'⟩)
    · rcases le_total a.2.sensorId b.2.sensorId with le | ge
      · exact .inl (.inr ⟨same, .inr ⟨same', le⟩⟩)
      · exact .inr (.inr ⟨same.symm, .inr ⟨same'.symm, ge⟩⟩)
    · exact .inr (.inr ⟨same.symm, .inl more'⟩)
  · exact .inr (.inl more)

theorem OutboxLE.trans (first : OutboxLE a b) (second : OutboxLE b c) : OutboxLE a c := by
  rcases first with less | ⟨same, rest⟩
  · rcases second with less' | ⟨same', -⟩
    · exact .inl (less.trans less')
    · exact .inl (same' ▸ less)
  · rcases second with less' | ⟨same', rest'⟩
    · exact .inl (same ▸ less')
    · refine .inr ⟨same.trans same', ?_⟩
      rcases rest with less | ⟨tick, le⟩
      · rcases rest' with less' | ⟨tick', -⟩
        · exact .inl (less.trans less')
        · exact .inl (tick' ▸ less)
      · rcases rest' with less' | ⟨tick', le'⟩
        · exact .inl (tick ▸ less')
        · exact .inr ⟨tick.trans tick', le.trans le'⟩

instance : Std.Total (OutboxLE : LabMessage R → LabMessage R → Prop) := ⟨outboxLE_total⟩

instance : IsTrans (LabMessage R) OutboxLE := ⟨fun _ _ _ => OutboxLE.trans⟩

/-- The order of the selection agrees with the ticks. -/
theorem Before.not_outboxLE (before : Before a b) (own : a.2.Own) (own' : b.2.Own) : ¬ OutboxLE b a := by
  obtain ⟨runId, -, tick⟩ := (before_iff own own').mp before
  rintro (less | ⟨-, less | ⟨same, -⟩⟩)
  · exact absurd less (runId ▸ lt_irrefl _)
  · exact lt_asymm tick less
  · exact absurd tick (same ▸ lt_irrefl _)

end Order

/-! ### The invariant -/

namespace Dispatcher

/-- The rows of the batch that have not been acknowledged. -/
def waiting : Dispatcher R → List (LabMessage R)
  | .sending rows _ => rows
  | .awaiting row rows _ => row :: rows
  | .idle | .broken _ => []

/-- Those that have been. -/
def acknowledged : Dispatcher R → List UUID
  | .sending _ publishedIds | .awaiting _ _ publishedIds | .broken publishedIds => publishedIds
  | .idle => []

end Dispatcher

structure DispatchInv [Sha256Digest] (baselines : List UUID) (s : LabDispatch R) : Prop where
  sound : Lib.Sound (labProtocol Anytime) (.empty baselines) none s.clients
  own : ∀ message ∈ s.rows, message.2.Own
  handed : ∀ message ∈ s.handed, Ready (· ∈ s.rows) Before s.delivered message
  closed : Closed (· ∈ s.rows) Before s.delivered
  batch : Queued (· ∈ s.rows) Before s.delivered s.dispatcher.waiting
  marked : ∀ id ∈ s.published, id ∈ s.delivered.map Prod.fst
  acknowledged : ∀ id ∈ s.dispatcher.acknowledged, id ∈ s.delivered.map Prod.fst

section Invariant

variable [Sha256Digest] {baselines : List UUID} {s : LabDispatch R} {message : LabMessage R}

theorem dispatchInv_initial (baselines : List UUID) :
    DispatchInv baselines (.initial baselines : LabDispatch R) where
  sound := Lib.sound_start (labInv_empty baselines)
  own _ mem := (nomatch mem)
  handed _ mem := (nomatch mem)
  closed := closed_nil
  batch := queued_nil
  marked _ mem := (nomatch mem)
  acknowledged _ mem := (nomatch mem)

/-- A row is known by its `message_id`. -/
theorem DispatchInv.delivered_of_id (inv : DispatchInv baselines s) (stored : message ∈ s.rows)
    (sent : message.1 ∈ s.delivered.map Prod.fst) : message ∈ s.delivered := by
  obtain ⟨other, delivered, same⟩ := List.mem_map.mp sent
  have stored' := inv.closed.known delivered
  have its := Lib.Table.get?_eq_some_iff.mpr stored
  rw [← same, Lib.Table.get?_eq_some_iff.mpr stored'] at its
  have row : other = message := Prod.ext same (Option.some.inj its)
  exact row ▸ delivered

theorem DispatchInv.pending (inv : DispatchInv baselines s) (stored : message ∈ s.rows) :
    message ∈ s.delivered ∨ message ∈ s.clients.store.unpublished s.published := by
  by_cases marked : message.1 ∈ s.published
  · exact .inl (inv.delivered_of_id stored (inv.marked message.1 marked))
  · exact .inr (List.mem_filter.mpr ⟨stored, decide_eq_true marked⟩)

/-- The rows of a batch are ready one after another. -/
theorem DispatchInv.fetch (inv : DispatchInv baselines s) (limit : Nat) :
    Queued (· ∈ s.rows) Before s.delivered (s.fetch limit) := by
  refine queued_take (List.pairwise_insertionSort OutboxLE _) outboxLE_refl
    (fun n m known known' before => before.not_outboxLE (inv.own n known) (inv.own m known'))
    (fun m mem => ?_) (fun m known => ?_) limit
  · exact (List.mem_filter.mp ((List.mem_insertionSort OutboxLE).mp mem)).1
  · exact (inv.pending known).imp_right (List.mem_insertionSort OutboxLE).mpr

theorem before_extends {clients : LabClients R} {messages : List (LabMessage R)} (inv : DispatchInv baselines s)
    (next : Lib.Sound (labProtocol Anytime) (.empty baselines) none clients)
    (rows : clients.store.outbox.rows = s.rows ++ messages) (own : ∀ message ∈ messages, message.2.Own) :
    Extends (· ∈ s.rows) (· ∈ clients.store.outbox.rows) Before where
  kept message mem := by
    rw [rows]
    exact List.mem_append_left _ mem
  behind n m mem new old before := by
    have ascending := next.inv.runs.ascending
    rw [rows] at ascending mem
    have last : n ∈ messages := (List.mem_append.mp mem).resolve_left new
    obtain ⟨runId, sensorId, tick⟩ := (before_iff (own n last) (inv.own m old)).mp before
    have later := (List.pairwise_append.mp ascending).2.2 m old n last runId.symm sensorId.symm
    exact lt_asymm tick later

/-- A step of a client. -/
theorem DispatchInv.client {clients : LabClients R} {action : Lib.ClientAction (LabCall R)}
    (inv : DispatchInv baselines s) (meets : admits s.clients action)
    (taken : s.clients.step labProgram action = some clients) : DispatchInv baselines { s with clients } := by
  have next := inv.sound.step labGuards_anytime meets taken
  have stored : ∃ messages, clients.store.outbox.rows = s.rows ++ messages ∧ ∀ message ∈ messages, message.2.Own := by
    rcases Lib.Clients.step_history taken with ⟨same, -⟩ | ⟨client, request, extended⟩
    · rw [same]
      exact ⟨[], (List.append_nil _).symm, fun _ mem => (nomatch mem)⟩
    · have change := (next.chained.of_mem (by rw [extended]; exact List.mem_concat_self)).2.1
      exact LabChange.outbox_rows change
  obtain ⟨messages, rows, own⟩ := stored
  have wider := before_extends inv next rows own
  refine ⟨next, fun message mem => ?_, fun message mem => (inv.handed message mem).extend wider,
    inv.closed.extend wider, inv.batch.extend wider, inv.marked, inv.acknowledged⟩
  have mem' : message ∈ s.rows ++ messages := by
    rw [← rows]
    exact mem
  rcases List.mem_append.mp mem' with old | new
  · exact inv.own message old
  · exact own message new

/-- A record reaches the topic. -/
theorem DispatchInv.arrive (inv : DispatchInv baselines s) (handed : message ∈ s.handed) :
    DispatchInv baselines { s with delivered := s.delivered ++ [message] } := by
  have more : ∀ other ∈ s.delivered, other ∈ s.delivered ++ [message] := fun _ => List.mem_append_left _
  have sent : ∀ id ∈ s.delivered.map Prod.fst, id ∈ (s.delivered ++ [message]).map Prod.fst := fun id mem => by
    rw [List.map_append]
    exact List.mem_append_left _ mem
  exact ⟨inv.sound, inv.own, fun other mem => (inv.handed other mem).mono more,
    inv.closed.deliver (inv.handed message handed), inv.batch.mono more,
    fun id mem => sent id (inv.marked id mem), fun id mem => sent id (inv.acknowledged id mem)⟩

/-- The dispatcher lets go of its batch. -/
theorem DispatchInv.let_go (inv : DispatchInv baselines s) {dispatcher : Dispatcher R} (running : Bool)
    (none : dispatcher.waiting = []) (same : dispatcher.acknowledged ⊆ s.dispatcher.acknowledged) :
    DispatchInv baselines { s with dispatcher, running } :=
  ⟨inv.sound, inv.own, inv.handed, inv.closed, by rw [none]; exact queued_nil, inv.marked,
    fun id mem => inv.acknowledged id (same mem)⟩

theorem DispatchInv.step {s' : LabDispatch R} {action : DispatchAction R} (inv : DispatchInv baselines s)
    (meets : s.guard action) (taken : s.step action = some s') : DispatchInv baselines s' := by
  obtain ⟨clients, published, running, dispatcher, handed, delivered⟩ := s
  cases action with
  | client action =>
      obtain ⟨clients', ran, rfl⟩ := Option.map_eq_some_iff.mp taken
      exact inv.client meets ran
  | start | stop =>
      cases taken
      exact { inv with }
  | dispatchBatch limit =>
      cases dispatcher with
      | idle =>
          simp only [LabDispatch.step] at taken
          split at taken <;> cases taken
          · exact inv
          · exact { inv with batch := inv.fetch limit.toNat }
      | sending | awaiting | broken => cases taken
  | send =>
      cases dispatcher with
      | sending rows publishedIds =>
          cases rows with
          | nil => cases taken
          | cons row rows =>
              cases taken
              refine { inv with handed := fun message mem => ?_ }
              rcases List.mem_append.mp mem with old | new
              · exact inv.handed message old
              · rw [List.mem_singleton.mp new]
                exact inv.batch.head
      | idle | awaiting | broken => cases taken
  | arrive index =>
      obtain ⟨message, there, rfl⟩ := Option.map_eq_some_iff.mp taken
      exact inv.arrive (List.mem_of_getElem? there)
  | acknowledge =>
      cases dispatcher with
      | awaiting row rows publishedIds =>
          simp only [LabDispatch.step] at taken
          split at taken
          · rename_i sent
            cases taken
            have done := inv.delivered_of_id inv.batch.head.known sent
            refine { inv with batch := inv.batch.tail done, acknowledged := fun id mem => ?_ }
            rcases List.mem_append.mp mem with old | new
            · exact inv.acknowledged id old
            · rw [List.mem_singleton.mp new]
              exact sent
          · cases taken
      | idle | sending | broken => cases taken
  | fail =>
      cases dispatcher with
      | awaiting row rows publishedIds =>
          cases taken
          exact inv.let_go running rfl fun _ => id
      | idle | sending | broken => cases taken
  | mark =>
      have marked : ∀ id ∈ published ++ dispatcher.acknowledged, id ∈ delivered.map Prod.fst := fun id mem => by
        rcases List.mem_append.mp mem with old | new
        · exact inv.marked id old
        · exact inv.acknowledged id new
      have idle : DispatchInv baselines ⟨clients, published, running, .idle, handed, delivered⟩ :=
        inv.let_go running rfl (List.nil_subset _)
      cases dispatcher with
      | sending rows publishedIds =>
          cases rows with
          | nil =>
              cases taken
              exact { idle with marked }
          | cons => cases taken
      | broken publishedIds =>
          cases taken
          exact { idle with marked }
      | idle | awaiting => cases taken
  | abandon =>
      cases taken
      exact inv.let_go running rfl (List.nil_subset _)
  | crash =>
      cases taken
      exact inv.let_go false rfl (List.nil_subset _)

theorem dispatchInv_of_run {actions : List (DispatchAction R)} (run : DispatchRun baselines actions s) :
    DispatchInv baselines s :=
  run.invariant (fun _ _ _ inv meets taken => inv.step meets taken) (dispatchInv_initial baselines)

end Invariant

/-! ### Streams -/

/-- The observation is of the stream of a run and a sensor. -/
def Observation.isOf (runId sensorId : UUID) (observation : Observation R) : Bool :=
  observation.runId = runId ∧ observation.sensorId = sensorId

namespace LabDispatch

variable (s : LabDispatch R) (runId sensorId : UUID)

/-- The ticks of a stream, in the order in which its observations reach the topic first. -/
def firstDeliveries : List Nat :=
  firsts (fun record => record.value.isOf runId sensorId) (fun record => record.value.tick) s.topic

/-- The ticks of a stream as they are stored. -/
def storedTicks : List Nat :=
  (s.rows.filter fun message => message.2.payload.isOf runId sensorId).map fun message => message.2.payload.tick

end LabDispatch

section Main

variable [Sha256Digest] {baselines : List UUID} {s s' : LabDispatch R} {actions actions' : List (DispatchAction R)}

theorem DispatchInv.storedTicks_ascending (inv : DispatchInv baselines s) (runId sensorId : UUID) :
    (s.storedTicks runId sensorId).Pairwise (· < ·) := by
  unfold LabDispatch.storedTicks
  rw [List.pairwise_map]
  refine List.Pairwise.imp_of_mem ?_ (inv.sound.inv.runs.ascending.sublist List.filter_sublist)
  intro a b mem mem' ascending
  obtain ⟨stored, its⟩ := List.mem_filter.mp mem
  obtain ⟨stored', its'⟩ := List.mem_filter.mp mem'
  obtain ⟨runId, sensorId⟩ := of_decide_eq_true its
  obtain ⟨runId', sensorId'⟩ := of_decide_eq_true its'
  have own := inv.own a stored
  have own' := inv.own b stored'
  rw [own.tick, own'.tick]
  refine ascending ?_ ?_
  · rw [← own.runId, ← own'.runId, runId, runId']
  · rw [← own.sensorId, ← own'.sensorId, sensorId, sensorId']

theorem DispatchInv.firstDeliveries_prefix (inv : DispatchInv baselines s) (runId sensorId : UUID) :
    s.firstDeliveries runId sensorId <+: s.storedTicks runId sensorId := by
  unfold LabDispatch.firstDeliveries LabDispatch.topic
  rw [firsts_map]
  refine inv.closed.firsts_prefix (fun n m its its' tick => ?_) (inv.storedTicks_ascending runId sensorId)
    fun tick => ?_
  · obtain ⟨runId, sensorId⟩ := of_decide_eq_true its
    obtain ⟨runId', sensorId'⟩ := of_decide_eq_true its'
    exact ⟨runId.trans runId'.symm, sensorId.trans sensorId'.symm, tick⟩
  · simp [LabDispatch.storedTicks, LabOutboxRow.record, and_assoc]

theorem LabDispatch.step_clients {action : DispatchAction R} (meets : s.guard action)
    (taken : s.step action = some s') : s'.clients = s.clients ∨ ∃ call,
      admits s.clients call ∧ s.clients.step labProgram call = some s'.clients := by
  cases action with
  | client call =>
      obtain ⟨clients, ran, rfl⟩ := Option.map_eq_some_iff.mp taken
      exact .inr ⟨call, meets, ran⟩
  | arrive index =>
      obtain ⟨message, -, rfl⟩ := Option.map_eq_some_iff.mp taken
      exact .inl rfl
  | start | stop | abandon | crash =>
      cases taken
      exact .inl rfl
  | dispatchBatch | send | acknowledge | fail | mark =>
      simp only [LabDispatch.step] at taken
      repeat' split at taken
      all_goals cases taken
      all_goals exact .inl rfl

/-- What the clients do beside the dispatcher is a run of theirs. -/
theorem clients_of_run (run : Lib.Run LabDispatch.step LabDispatch.guard s actions s') : ∃ calls,
    Lib.Run (Lib.Clients.step labProgram) admits s.clients calls s'.clients := by
  induction run with
  | nil => exact ⟨[], .nil _⟩
  | cons meets taken _ ih =>
      obtain ⟨calls, rest⟩ := ih
      rcases LabDispatch.step_clients meets taken with same | ⟨call, meets, ran⟩
      · exact ⟨calls, same ▸ rest⟩
      · exact ⟨call :: calls, .cons meets ran rest⟩

/-- What holds of the topic at any time. -/
structure LabDispatch.InOrder (s : LabDispatch R) : Prop where
  ascending : ∀ runId sensorId, (s.firstDeliveries runId sensorId).Pairwise (· < ·)
  gapless : ∀ runId sensorId, s.firstDeliveries runId sensorId <+: s.storedTicks runId sensorId
  marked : ∀ id ∈ s.published, ∃ message ∈ s.delivered, message ∈ s.rows ∧ message.1 = id
  pending : ∀ message ∈ s.rows,
    message ∈ s.delivered ∨ message ∈ s.clients.store.unpublished s.published

/-- A sensor's observations of a run reach the topic first in the order of their ticks
and without a gap. What is marked has reached it; what is stored has reached it or is
pending, and stays. -/
theorem lab_outbox_in_order (run : DispatchRun baselines actions s)
    (later : Lib.Run LabDispatch.step LabDispatch.guard s actions' s') :
    s.InOrder ∧ ∀ message ∈ s.rows, message ∈ s'.rows := by
  have inv := dispatchInv_of_run run
  have first := inv.firstDeliveries_prefix
  refine ⟨⟨fun runId sensorId => ?_, first, fun id marked => ?_, fun message => inv.pending⟩,
    fun message stored => ?_⟩
  · exact (inv.storedTicks_ascending runId sensorId).sublist (first runId sensorId).sublist
  · obtain ⟨message, delivered, same⟩ := List.mem_map.mp (inv.marked id marked)
    exact ⟨message, delivered, inv.closed.known delivered, same⟩
  · obtain ⟨calls, ran⟩ := clients_of_run later
    have kept := (inv.sound.keeps labGuards_anytime ran).outbox message.1 message.2
    exact Lib.Table.get?_eq_some_iff.mp (kept (Lib.Table.get?_eq_some_iff.mpr stored))

end Main

/-! ### A run with a failure and a crash -/

/-- `run_once` is left out. -/
def DispatchAction.plain : DispatchAction R → Bool
  | .client (.request (.runOnce _ _)) => false
  | _ => true

theorem guard_of_plain {s : LabDispatch R} {action : DispatchAction R} (plain : action.plain = true) :
    s.guard action := by
  cases action with
  | client call =>
      cases call with
      | request call =>
          cases call with
          | runOnce => cases plain
          | _ => trivial
      | _ => trivial
  | _ => trivial

section Example

/-- Two samples of each of the two sensors. -/
def loopSpec : RunSpec where
  labId := 1
  labRevision := 1
  seed := 7
  speed := 1
  maxTicks := some 40
  baselineId := none
  lab_revision_pos := Nat.one_pos
  speed_allowed := RunSpec.real_time_allowed
  max_ticks_pos := by simp

/-- A client takes statements. -/
abbrev statements (client count : Nat) : List (DispatchAction ℚ) :=
  List.replicate count (.client (.advance client))

/-- The lab is saved and its run started. -/
def starting : List (DispatchAction ℚ) :=
  .client (.request (.saveLab loopLab 0)) :: statements 0 4 ++
    .client (.request (.startRun loopSpec (some 9) 0)) :: statements 1 4

/-- The second samples are stored while the dispatcher has those of the first batch. A
send fails; then two rows are sent and not marked. -/
def crashing : List (DispatchAction ℚ) :=
  statements 2 24 ++ [.start true, .dispatchBatch 10, .send] ++ statements 2 23 ++
    [.fail, .mark, .dispatchBatch 3, .send, .arrive 1, .acknowledge, .send, .arrive 2, .acknowledge, .crash]

/-- The row whose send had failed arrives late. -/
def recovering : List (DispatchAction ℚ) :=
  [.start true, .dispatchBatch 3, .send, .arrive 0, .arrive 3, .acknowledge, .send, .arrive 4, .acknowledge,
    .send, .arrive 5, .acknowledge, .mark, .dispatchBatch 3, .send, .arrive 6, .acknowledge, .mark]

variable [Sha256Digest]

def taking (s : LabDispatch ℚ) (actions : List (DispatchAction ℚ)) : Option (LabDispatch ℚ) :=
  Lib.exec LabDispatch.step (fun _ action => action.plain = true) s actions

/-- The states after the crash and at the end. -/
def loopDispatch : Option (LabDispatch ℚ × LabDispatch ℚ) :=
  (taking (.initial []) starting).bind fun started =>
    (started.clients.store.getRun 9).bind fun run =>
      (started.step (.client (.request (.runOnce run fun index => 100 + index)))).bind fun called =>
        (taking called crashing).bind fun s => (taking s recovering).map fun s' => (s, s')

theorem run_of_taking {s s' : LabDispatch ℚ} {actions : List (DispatchAction ℚ)}
    (taken : taking s actions = some s') : Lib.Run LabDispatch.step LabDispatch.guard s actions s' :=
  (Lib.Run.of_exec taken).mono fun _ _ => guard_of_plain

theorem runs_of_loopDispatch {s s' : LabDispatch ℚ} (states : loopDispatch = some (s, s')) :
    ∃ actions, DispatchRun [] actions s ∧
      Lib.Run LabDispatch.step LabDispatch.guard s recovering s' := by
  obtain ⟨started, first, rest⟩ := Option.bind_eq_some_iff.mp states
  obtain ⟨run, stored, rest⟩ := Option.bind_eq_some_iff.mp rest
  obtain ⟨called, second, rest⟩ := Option.bind_eq_some_iff.mp rest
  obtain ⟨s, third, rest⟩ := Option.bind_eq_some_iff.mp rest
  obtain ⟨s', last, same⟩ := Option.map_eq_some_iff.mp rest
  cases same
  have admissible : started.guard (.client (.request (.runOnce run fun index => 100 + index))) := by
    have own : run.runId = 9 := by
      obtain ⟨row, -, rest⟩ := Option.bind_eq_some_iff.mp stored
      obtain ⟨revision, -, made⟩ := Option.bind_eq_some_iff.mp rest
      cases made
      rfl
    exact ⟨run, own ▸ stored, rfl⟩
  exact ⟨_, (run_of_taking first).append (.cons admissible second (run_of_taking third)), run_of_taking last⟩

end Example

theorem loopLab_outbox_in_order :
    letI := knownSha256 []
    ∃ s s' : LabDispatch ℚ, s.published = [] ∧ s.delivered.map Prod.fst = [100, 101] ∧
      s'.published = [100, 101, 102, 103] ∧
      s'.delivered.map Prod.fst = [100, 101, 100, 100, 101, 102, 103] ∧
      s'.firstDeliveries 9 31 = [20, 40] ∧
      s.InOrder ∧ s'.InOrder ∧ ∀ message ∈ s.rows, message ∈ s'.rows := by
  let _ := knownSha256 []
  have computed : loopDispatch.any (fun states => decide (states.1.published = [] ∧
      states.1.delivered.map Prod.fst = [100, 101] ∧ states.2.published = [100, 101, 102, 103] ∧
      states.2.delivered.map Prod.fst = [100, 101, 100, 100, 101, 102, 103] ∧
      states.2.firstDeliveries 9 31 = [20, 40])) = true := by decide +kernel
  obtain ⟨⟨s, s'⟩, states, holds⟩ := (Option.any_eq_true _ _).mp computed
  obtain ⟨unmarked, sent, marked, again, first⟩ := of_decide_eq_true holds
  obtain ⟨actions, run, later⟩ := runs_of_loopDispatch states
  obtain ⟨inOrder, kept⟩ := lab_outbox_in_order run later
  exact ⟨s, s', unmarked, sent, marked, again, first, inOrder,
    (lab_outbox_in_order (run.append later) (.nil s')).1, kept⟩

end IndustrialReliability
