import IndustrialReliability.Lab.Served

/-!
`LabOutboxPublisher`: the dispatch of `lab_outbox` to Kafka.

One dispatcher works beside any number of clients of the store. It hands a row to the
producer and waits; what was handed over may reach the topic at any later time and any
number of times, also after the producer has reported a failure or the process is lost.
`publish_pending_sync`, which marks rows without sending them, has no caller and is left
out.
-/

namespace IndustrialReliability

variable {R : Type} [LabNumber R]

/-- A row of the outbox and its `message_id`. -/
abbrev LabMessage (R : Type) [LabNumber R] := UUID × LabOutboxRow R

/-- A record of the topic. JSON values are the data they render. -/
structure LabRecord (R : Type) where
  topic : String
  key : String
  value : Observation R

/-- `send_and_wait(topic, key=.., value=..)`. -/
def LabOutboxRow.record (row : LabOutboxRow R) : LabRecord R where
  topic := row.topic
  key := row.runId.str ++ ":" ++ row.payload.assetId.str ++ ":" ++ row.sensorId.str
  value := row.payload

namespace LabTables

/-- `WHERE published_at IS NULL`. -/
def unpublished (tables : LabTables R) (published : List UUID) : List (LabMessage R) :=
  tables.outbox.rows.filter fun message => message.1 ∉ published

end LabTables

/-- `ORDER BY run_id, tick, sensor_id`. -/
def OutboxLE (a b : LabMessage R) : Prop :=
  a.2.runId < b.2.runId ∨ a.2.runId = b.2.runId ∧
    (a.2.tick < b.2.tick ∨ a.2.tick = b.2.tick ∧ a.2.sensorId ≤ b.2.sensorId)

instance (a b : LabMessage R) : Decidable (OutboxLE a b) := inferInstanceAs (Decidable (_ ∨ _))

/-- Where `dispatch_batch` is, with the rows that are left of its batch and
`published_ids`. -/
inductive Dispatcher (R : Type) [LabNumber R] where
  | idle
  | sending (rows : List (LabMessage R)) (publishedIds : List UUID)
  /-- The first row has been handed to the producer. -/
  | awaiting (row : LabMessage R) (rows : List (LabMessage R)) (publishedIds : List UUID)
  /-- After the `break`. -/
  | broken (publishedIds : List UUID)

structure LabDispatch (R : Type) [LabNumber R] where
  clients : LabClients R
  /-- The messages whose `published_at` is set. -/
  published : List UUID
  running : Bool
  dispatcher : Dispatcher R
  /-- What the producer was given. -/
  handed : List (LabMessage R)
  /-- What has reached the topic, by the row it was sent for. -/
  delivered : List (LabMessage R)

inductive DispatchAction (R : Type) [LabNumber R] where
  | client (action : Lib.ClientAction (LabCall R))
  | start (connected : Bool)
  | stop
  | dispatchBatch (limit : Int)
  | send
  /-- A record reaches the topic. -/
  | arrive (index : Nat)
  | acknowledge
  /-- `send_and_wait` raises. -/
  | fail
  /-- `UPDATE lab_outbox SET published_at = now()`, committed. -/
  | mark
  /-- `dispatch_batch` raises or is cancelled; its transaction is rolled back. -/
  | abandon
  /-- The process is lost. -/
  | crash

namespace LabDispatch

/-- Before any call. -/
def initial (baselines : List UUID) : LabDispatch R :=
  ⟨.start (.empty baselines), [], false, .idle, [], []⟩

/-- The rows of the store. -/
def rows (s : LabDispatch R) : List (LabMessage R) := s.clients.store.outbox.rows

/-- `SELECT .. WHERE published_at IS NULL ORDER BY run_id, tick, sensor_id LIMIT %s`. -/
def fetch (s : LabDispatch R) (limit : Nat) : List (LabMessage R) :=
  ((s.clients.store.unpublished s.published).insertionSort OutboxLE).take limit

/-- The records of the topic. -/
def topic (s : LabDispatch R) : List (LabRecord R) := s.delivered.map fun message => message.2.record

def step [Sha256Digest] (s : LabDispatch R) : DispatchAction R → Option (LabDispatch R)
  | .client action => (s.clients.step labProgram action).map fun clients => { s with clients }
  | .start connected => some { s with running := connected }
  | .stop => some { s with running := false }
  | .dispatchBatch limit =>
      match s.dispatcher with
      | .idle =>
          -- a negative limit is an error of the database
          if s.running = false ∨ limit < 0 then some s
          else some { s with dispatcher := .sending (s.fetch limit.toNat) [] }
      | _ => none
  | .send =>
      match s.dispatcher with
      | .sending (row :: rows) publishedIds =>
          some { s with
            dispatcher := .awaiting row rows publishedIds
            handed := s.handed ++ [row] }
      | _ => none
  | .arrive index => s.handed[index]?.map fun message => { s with delivered := s.delivered ++ [message] }
  | .acknowledge =>
      match s.dispatcher with
      | .awaiting row rows publishedIds =>
          if row.1 ∈ s.delivered.map Prod.fst then
            some { s with dispatcher := .sending rows (publishedIds ++ [row.1]) }
          else none
      | _ => none
  | .fail =>
      match s.dispatcher with
      | .awaiting _ _ publishedIds => some { s with dispatcher := .broken publishedIds }
      | _ => none
  | .mark =>
      match s.dispatcher with
      | .sending [] publishedIds | .broken publishedIds =>
          some { s with
            dispatcher := .idle
            published := s.published ++ publishedIds }
      | _ => none
  | .abandon => some { s with dispatcher := .idle }
  | .crash =>
      some { s with
        dispatcher := .idle
        running := false }

/-- The clients make admissible calls. -/
def guard (s : LabDispatch R) : DispatchAction R → Prop
  | .client action => admits s.clients action
  | _ => True

end LabDispatch

/-- A run of the clients and the dispatcher from the empty tables. -/
abbrev DispatchRun [Sha256Digest] (baselines : List UUID) (actions : List (DispatchAction R))
    (s : LabDispatch R) : Prop :=
  Lib.Run LabDispatch.step LabDispatch.guard (.initial baselines) actions s

end IndustrialReliability
