import IndustrialReliability.Lib.Runs
import IndustrialReliability.Worker.Worker

/-!
The worker and the broker.

What survives a crash is the committed offsets and what the processes have done; a
process has its memory and its fetch positions. The records of the topics are given
as a log, and what the worker itself publishes on the status topic is among them. The
partitions are read in any interleaving. A process ends by an exception of a handler,
which leaves `run`, or by a crash, in a handler or between two.

With every commit the service keeps what the worker knew then (`CommitRecord`).
-/

namespace IndustrialReliability

variable {F : Type}

/-- The telemetry and status topics: the records of each partition, by offset. -/
structure WorkerLog (F : Type) [PyFloat F] where
  telemetry : Nat → List (Sha256 × Except String (Checked (TelemetryEventV1 F)))
  statuses : Nat → List (Sha256 × Except String (Checked ReplayStatusV1))

/-- The record at an offset. -/
def WorkerLog.recordAt [PyFloat F] (log : WorkerLog F) (tp : TopicPartition) (offset : Nat) :
    Option (WorkerRecord F) :=
  match tp.topic with
  | .telemetry => (log.telemetry tp.partition)[offset]?.map fun (digest, value) =>
      ⟨⟨digest, .telemetry value⟩, tp.partition, offset⟩
  | .replayStatus => (log.statuses tp.partition)[offset]?.map fun (digest, value) =>
      ⟨⟨digest, .status value⟩, tp.partition, offset⟩

/-- A commit, the memory of the worker at that moment and what its process had done. -/
structure CommitRecord (F : Type) where
  offsets : List (TopicPartition × Nat)
  memory : WorkerMemory F
  actions : List (WorkerAction F)

/-- A running process. -/
structure WorkerProcess (F : Type) where
  memory : WorkerMemory F
  position : TopicPartition → Nat
  actions : List (WorkerAction F)

structure WorkerService (F : Type) where
  committed : TopicPartition → Nat
  /-- What the processes that have ended did, in order. -/
  past : List (WorkerAction F)
  commits : List (CommitRecord F)
  process : Option (WorkerProcess F)

def WorkerService.initial : WorkerService F := ⟨fun _ => 0, [], [], none⟩

inductive WorkerStep (F : Type) where
  /-- The next record of a partition is handled; the process may be lost after some of
  the actions of its handler. -/
  | deliver (tp : TopicPartition) (stamp : HandlerStamp F) (lostAfter : Option Nat)
  | crash
  | restart

/-- The actions of a handler that are done. -/
def Handled.upTo (handled : Handled F) : Option Nat → List (WorkerAction F)
  | none => handled.actions
  | some count => handled.actions.take count

def WorkerAction.committedOffsets : WorkerAction F → Option (List (TopicPartition × Nat))
  | .commit offsets => some offsets
  | _ => none

/-- The commits among some actions. -/
def commitsOf (actions : List (WorkerAction F)) : List (List (TopicPartition × Nat)) :=
  actions.filterMap WorkerAction.committedOffsets

/-- The offsets of the group after a commit. -/
def commitOffsets (committed : TopicPartition → Nat) (offsets : List (TopicPartition × Nat))
    (tp : TopicPartition) : Nat :=
  (offsets.lookup tp).getD (committed tp)

namespace WorkerService

variable [PyFloat F] [Uuid5] [Sha256Digest]

/-- Everything the worker has done. -/
def done (s : WorkerService F) : List (WorkerAction F) :=
  s.past ++ ((s.process.map (·.actions)).getD [])

/-- The state after the actions of a handler that are done; the process lives on when
all are and the handler returned. -/
def handle (proc : WorkerProcess F) (tp : TopicPartition) (handled : Handled F)
    (lostAfter : Option Nat) (s : WorkerService F) : WorkerService F :=
  let did := handled.upTo lostAfter
  let s := { s with
    committed := (commitsOf did).foldl commitOffsets s.committed
    commits := s.commits ++ (commitsOf did).map fun offsets =>
      CommitRecord.mk offsets handled.memory (proc.actions ++ did) }
  match lostAfter, handled.returned with
  | none, .ok () => { s with process := some ⟨handled.memory,
      Function.update proc.position tp (proc.position tp + 1), proc.actions ++ did⟩ }
  | _, _ => { s with past := s.past ++ (proc.actions ++ did), process := none }

def deliver (settings : WorkerSettings) (log : WorkerLog F) (tp : TopicPartition)
    (stamp : HandlerStamp F) (lostAfter : Option Nat) (s : WorkerService F) :
    Option (WorkerService F) :=
  match s.process with
  | none => none
  | some proc => (log.recordAt tp (proc.position tp)).map fun record =>
      s.handle proc tp (handleRecord settings stamp record proc.memory) lostAfter

/-- The process is lost between two records. -/
def crash (s : WorkerService F) : Option (WorkerService F) :=
  match s.process with
  | none => none
  | some proc => some { s with past := s.past ++ proc.actions, process := none }

/-- A new process: empty memory, fetching from the committed offsets. -/
def restart (s : WorkerService F) : Option (WorkerService F) :=
  match s.process with
  | none => some { s with process := some ⟨.empty, s.committed, []⟩ }
  | some _ => none

def step (settings : WorkerSettings) (log : WorkerLog F) (s : WorkerService F) :
    WorkerStep F → Option (WorkerService F)
  | .deliver tp stamp lostAfter => s.deliver settings log tp stamp lostAfter
  | .crash => s.crash
  | .restart => s.restart

end WorkerService

end IndustrialReliability
