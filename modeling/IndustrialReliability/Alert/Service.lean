import IndustrialReliability.Alert.Consumer
import IndustrialReliability.Lib.Runs

/-!
The alert service: the consumer loop, the outbox dispatcher and the broker.

A state is what survives a crash (the database, the topics, the committed
offsets) and, while the process is up, its incarnation: the in-memory fetch
positions, where the consumer loop is in its batch, and where the dispatcher is
in its iteration. An action is one uninterrupted stretch of one of the two tasks,
a crash or a restart, so a run is any interleaving of them. An exception in the
consumer loop drops the rest of the batch and goes on polling: the positions stay
where `getmany` moved them.
-/

namespace IndustrialReliability

variable {F : Type} [PyFloat F]

/-- The scores topic: the records of each partition, by offset. -/
abbrev ScoresLog (F : Type) [PyFloat F] := Nat → List (ScorePayload F)

/-- Where the consumer loop is. -/
inductive LoopPhase where
  /-- About to process the first record of the batch left, or to poll. -/
  | consuming (rest : List (Nat × Nat))
  /-- Awaiting the commit after a processed record. -/
  | committing (partition offset : Nat) (rest : List (Nat × Nat))
  /-- Stopped after `SESSION_FAILED`. -/
  | halted
deriving DecidableEq, Repr

/-- Where the dispatcher is in `dispatch_one`. -/
inductive DispatcherPhase where
  | idle
  | sending (messageId : UUID) (row : OutboxRow)
  | marking (messageId : UUID)
deriving DecidableEq, Repr

/-- The memory of a running process. -/
structure Incarnation where
  position : Nat → Nat
  loop : LoopPhase
  dispatcher : DispatcherPhase

structure AlertService (F : Type) where
  world : ConsumerWorld F
  /-- The alerts topic. -/
  alerts : List AlertEventV1
  committed : Nat → Nat
  /-- The records skipped as belonging to a failed session, so far. -/
  skipped : List (Nat × Nat)
  incarnation : Option Incarnation

def AlertService.initial : AlertService F where
  world := .empty
  alerts := []
  committed := fun _ => 0
  skipped := []
  incarnation := none

inductive ServiceAction where
  /-- `getmany` returns this many records of each of these partitions. -/
  | getmany (counts : List (Nat × Nat))
  | process (stamp : ProcessStamp) (fault : Option ProcessFault)
  /-- `commit`, which may raise with the offset acknowledged or not. -/
  | commit (fault : Option Bool)
  | nextOutbox
  | sendOutbox (fault : Option Bool)
  | markPublished (fault : Option Bool)
  | crash
  | restart
deriving DecidableEq, Repr

/-- The offsets a poll returns, partition by partition. -/
def polledBatch (position : Nat → Nat) (counts : List (Nat × Nat)) : List (Nat × Nat) :=
  counts.flatMap fun (partition, count) =>
    (List.range' (position partition) count).map fun offset => (partition, offset)

/-- The positions after a poll. -/
def polledPosition (position : Nat → Nat) (counts : List (Nat × Nat)) (partition : Nat) : Nat :=
  position partition + (counts.lookup partition).getD 0

def scoreRecord (partition offset : Nat) (payload : ScorePayload F) : ScoreRecord F where
  payloadSha256 := payload.payloadSha256
  value := payload.value
  partition
  offset

namespace AlertService

/-- `consumer.getmany(timeout_ms=1000, max_records=100)`. -/
def getmany (log : ScoresLog F) (counts : List (Nat × Nat)) (s : AlertService F) :
    Option (AlertService F) :=
  match s.incarnation with
  | some inc =>
      if inc.loop = .consuming [] ∧ (counts.map Prod.fst).Nodup ∧
          (counts.map Prod.snd).sum ≤ 100 ∧
          ∀ c ∈ counts, inc.position c.1 + c.2 ≤ (log c.1).length then
        some { s with incarnation := some { inc with
          position := polledPosition inc.position counts
          loop := .consuming (polledBatch inc.position counts) } }
      else none
  | none => none

/-- One turn of the loop over the batch, up to its `commit`. -/
def processNext [Uuid5] (config : AlertConsumerConfig F) (log : ScoresLog F)
    (stamp : ProcessStamp) (fault : Option ProcessFault) (s : AlertService F) :
    Option (AlertService F) :=
  match s.incarnation with
  | some inc =>
      match inc.loop with
      | .consuming ((partition, offset) :: rest) =>
          (log partition)[offset]?.map fun payload =>
            let (world, returned) :=
              process config stamp fault (scoreRecord partition offset payload) s.world
            let s := { s with world }
            match returned with
            -- The exception leaves the batch; the loop polls on.
            | .error _ => { s with incarnation := some { inc with loop := .consuming [] } }
            | .ok .sessionFailed => { s with incarnation := some { inc with loop := .halted } }
            | .ok .skipped => { s with
                skipped := (partition, offset) :: s.skipped
                incarnation := some { inc with loop := .committing partition offset rest } }
            | .ok _ => { s with
                incarnation := some { inc with loop := .committing partition offset rest } }
      | _ => none
  | none => none

/-- `consumer.commit({tp: record.offset + 1})`. -/
def commit (fault : Option Bool) (s : AlertService F) : Option (AlertService F) :=
  match s.incarnation with
  | some inc =>
      match inc.loop with
      | .committing partition offset rest =>
          let acknowledged := Function.update s.committed partition (offset + 1)
          match fault with
          | none => some { s with
              committed := acknowledged
              incarnation := some { inc with loop := .consuming rest } }
          | some taken => some { s with
              committed := if taken then acknowledged else s.committed
              incarnation := some { inc with loop := .consuming [] } }
      | _ => none
  | none => none

/-- `next_unpublished_outbox`. -/
def nextOutbox (s : AlertService F) : Option (AlertService F) :=
  match s.incarnation with
  | some inc =>
      if inc.dispatcher = .idle then
        match s.world.store.nextUnpublishedOutbox with
        | some (messageId, row) => some { s with
            incarnation := some { inc with dispatcher := .sending messageId row } }
        | none => some s
      else none
  | none => none

/-- `producer.send_and_wait` of the selected row. -/
def sendOutbox (fault : Option Bool) (s : AlertService F) : Option (AlertService F) :=
  match s.incarnation with
  | some inc =>
      match inc.dispatcher with
      | .sending messageId row =>
          let delivered := s.alerts ++ [row.payload]
          match fault with
          | none => some { s with
              alerts := delivered
              incarnation := some { inc with dispatcher := .marking messageId } }
          | some taken => some { s with
              alerts := if taken then delivered else s.alerts
              incarnation := some { inc with dispatcher := .idle } }
      | _ => none
  | none => none

/-- `mark_outbox_published`. -/
def markPublished (fault : Option Bool) (s : AlertService F) : Option (AlertService F) :=
  match s.incarnation with
  | some inc =>
      match inc.dispatcher with
      | .marking messageId =>
          let idle := { s with incarnation := some { inc with dispatcher := .idle } }
          if fault.getD true then
            some { idle with world := { idle.world with
              store := idle.world.store.markOutboxPublished messageId } }
          else some idle
      | _ => none
  | none => none

/-- The process is lost with its memory. -/
def crash (s : AlertService F) : Option (AlertService F) :=
  if s.incarnation.isSome then some { s with incarnation := none } else none

/-- A new process: no failed sessions, and fetching from the committed offsets. -/
def restart (s : AlertService F) : Option (AlertService F) :=
  if s.incarnation.isNone then
    some { s with
      world := { s.world with failedSessions := [] }
      incarnation := some ⟨s.committed, .consuming [], .idle⟩ }
  else none

def step [Uuid5] (config : AlertConsumerConfig F) (log : ScoresLog F) (s : AlertService F) :
    ServiceAction → Option (AlertService F)
  | .getmany counts => s.getmany log counts
  | .process stamp fault => s.processNext config log stamp fault
  | .commit fault => s.commit fault
  | .nextOutbox => s.nextOutbox
  | .sendOutbox fault => s.sendOutbox fault
  | .markPublished fault => s.markPublished fault
  | .crash => s.crash
  | .restart => s.restart

/-! ### Frames -/

/-- The consumer side of two states is the same, but for the outbox. -/
structure SameConsumer (s s' : AlertService F) : Prop where
  decisions : s'.world.store.scoreDecisions = s.world.store.scoreDecisions
  quarantined : s'.world.quarantined = s.world.quarantined
  committed : s'.committed = s.committed
  skipped : s'.skipped = s.skipped
  loop : s'.incarnation.map (·.loop) = s.incarnation.map (·.loop)

/-- The actions of the dispatcher. -/
def IsDispatch : ServiceAction → Prop
  | .nextOutbox | .sendOutbox _ | .markPublished _ => True
  | _ => False

theorem sameConsumer_of_dispatch [Uuid5] {config : AlertConsumerConfig F} {log : ScoresLog F}
    {s s' : AlertService F} {a : ServiceAction} (dispatch : IsDispatch a)
    (taken : s.step config log a = some s') : SameConsumer s s' := by
  cases up : s.incarnation with
  | none => cases a <;> simp [step, nextOutbox, sendOutbox, markPublished, up, IsDispatch] at *
  | some inc =>
      cases a with
      | nextOutbox =>
          simp only [step, nextOutbox, up] at taken
          split at taken
          · split at taken
            · cases taken
              exact ⟨rfl, rfl, rfl, rfl, by rw [up]; rfl⟩
            · cases taken
              exact ⟨rfl, rfl, rfl, rfl, rfl⟩
          · cases taken
      | sendOutbox fault =>
          simp only [step, sendOutbox, up] at taken
          split at taken
          · cases fault <;> cases taken <;> exact ⟨rfl, rfl, rfl, rfl, by rw [up]; rfl⟩
          · cases taken
      | markPublished fault =>
          simp only [step, markPublished, up] at taken
          split at taken
          · split at taken <;> cases taken <;> exact ⟨rfl, rfl, rfl, rfl, by rw [up]; rfl⟩
          · cases taken
      | _ => exact absurd dispatch (by simp [IsDispatch])

/-- The record the consumer loop is about to process. -/
def nextRecord (log : ScoresLog F) (s : AlertService F) : Option (ScoreRecord F) :=
  match s.incarnation with
  | some inc =>
      match inc.loop with
      | .consuming ((partition, offset) :: _) =>
          (log partition)[offset]?.map (scoreRecord partition offset)
      | _ => none
  | none => none

/-- Where the dispatcher is; a process that is down has none. -/
def dispatcher (s : AlertService F) : DispatcherPhase :=
  (s.incarnation.map (·.dispatcher)).getD .idle

/-- A turn of the consumer loop is one call of `process`; the dispatcher stays. -/
theorem processNext_cases [Uuid5] {config : AlertConsumerConfig F} {log : ScoresLog F}
    {s s' : AlertService F} {stamp : ProcessStamp} {fault : Option ProcessFault}
    (taken : s.processNext config log stamp fault = some s') :
    ∃ record, s.nextRecord log = some record ∧
      s'.world = (process config stamp fault record s.world).1 ∧
      s'.alerts = s.alerts ∧ s'.dispatcher = s.dispatcher := by
  unfold processNext at taken
  cases up : s.incarnation with
  | none =>
      rw [up] at taken
      cases taken
  | some inc =>
      rw [up] at taken
      dsimp only at taken
      split at taken
      · rename_i partition offset rest atHead
        obtain ⟨payload, held, rfl⟩ := Option.map_eq_some_iff.mp taken
        refine ⟨scoreRecord partition offset payload, ?_, ?_⟩
        · simp only [nextRecord, up, atHead, held, Option.map_some]
        · generalize process config stamp fault (scoreRecord partition offset payload) s.world =
            called
          obtain ⟨world, returned⟩ := called
          dsimp only
          split <;> exact ⟨rfl, rfl, by simp only [dispatcher, up, Option.map_some]⟩
      · cases taken

end AlertService

end IndustrialReliability
