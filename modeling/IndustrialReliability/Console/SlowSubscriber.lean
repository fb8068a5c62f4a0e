import IndustrialReliability.Console.Stream
import IndustrialReliability.Lib.Losses

/-!
A subscriber that reads slower than its session publishes.

The broker is watched from the time the subscriber joins it. The queue holds what
follows what has been read, with a notice for all that was dropped (`Watched.Told`):
a full queue is drained for a notice, and the event that found it full is dropped as
well, whether or not the queue held an earlier notice.
-/

namespace IndustrialReliability

open Lib.Losses ConsoleServer

variable {F : Type}

/-- The event of an item; a marker has none. -/
def QueueItem.toOption : QueueItem F → Option (ConsoleEventV1 F)
  | .event published => some published
  | .resyncRequired => none

inductive BrokerAction (F : Type) where
  | subscribe (subscriber : Nat) (session : UUID)
  | unsubscribe (subscriber : Nat)
  | publish (event : ConsoleEventV1 F)
  /-- A subscriber takes the first item of its queue. -/
  | get (subscriber : Nat)

/-- A broker, with what was published for the watched session and what its subscriber
has read. -/
structure Watched (F : Type) where
  broker : ConsoleEventBroker F
  published : List (ConsoleEventV1 F)
  read : List (QueueItem F)

namespace Watched

/-- The subscriber joins. -/
def joined (subscriber : Nat) (session : UUID) (broker : ConsoleEventBroker F) : Watched F :=
  ⟨broker.subscribe subscriber session, [], []⟩

/-- The watched subscriber stays. -/
def step (subscriber : Nat) (session : UUID) (s : Watched F) : BrokerAction F → Option (Watched F)
  | .subscribe other theirs =>
      if other = subscriber then none else some { s with broker := s.broker.subscribe other theirs }
  | .unsubscribe other =>
      if other = subscriber then none else some { s with broker := s.broker.unsubscribe other }
  | .publish event =>
      some { s with
        broker := s.broker.publish event
        published := if session = event.replaySessionId then s.published ++ [event] else s.published }
  | .get other =>
      match s.broker.queue other with
      | some (_, item :: _) =>
          some { s with
            broker := s.broker.get other
            read := if other = subscriber then s.read ++ [item] else s.read }
      | _ => none

variable {subscriber : Nat} {session : UUID} {s s' : Watched F}

/-- What has been read and what waits tell of every loss. -/
structure Told (subscriber : Nat) (session : UUID) (s : Watched F) : Prop where
  tells : ∃ items, s.broker.queue subscriber = some (session, items) ∧
    Tells s.published ((s.read ++ items).map QueueItem.toOption)

theorem told_joined (broker : ConsoleEventBroker F) : (joined subscriber session broker).Told subscriber session :=
  ⟨[], queue_subscribe_self, .nil⟩

/-- Nothing happens to the subscriber. -/
theorem Told.congr (told : s.Told subscriber session)
    (queue : s'.broker.queue subscriber = s.broker.queue subscriber)
    (published : s'.published = s.published) (read : s'.read = s.read) : s'.Told subscriber session := by
  obtain ⟨items, held, tells⟩ := told
  exact ⟨items, queue.trans held, by rw [published, read]; exact tells⟩

/-- An event of the session is put or leaves a notice. -/
theorem tells_put {published : List (ConsoleEventV1 F)} {read items : List (QueueItem F)}
    (tells : Tells published ((read ++ items).map QueueItem.toOption)) (maxQueueSize : Nat) (event : ConsoleEventV1 F) :
    Tells (published ++ [event])
      ((read ++ ConsoleEventBroker.put maxQueueSize event items).map QueueItem.toOption) := by
  unfold ConsoleEventBroker.put
  split
  · simpa [QueueItem.toOption] using tells.message event
  · rw [List.map_append] at tells ⊢
    exact tells.overflow event

theorem Told.step (told : s.Told subscriber session) {action : BrokerAction F}
    (taken : s.step subscriber session action = some s') : s'.Told subscriber session := by
  cases action with
  | subscribe other theirs =>
      obtain ⟨ne, same⟩ := Option.ite_none_left_eq_some.mp taken
      cases same
      exact told.congr (queue_subscribe_ne (Ne.symm ne)) rfl rfl
  | unsubscribe other =>
      obtain ⟨ne, same⟩ := Option.ite_none_left_eq_some.mp taken
      cases same
      exact told.congr (queue_unsubscribe_ne (Ne.symm ne)) rfl rfl
  | publish event =>
      cases taken
      obtain ⟨items, held, tells⟩ := told
      by_cases mine : session = event.replaySessionId
      · refine ⟨ConsoleEventBroker.put s.broker.maxQueueSize event items, ?_, ?_⟩
        · simp [queue_publish, held, mine]
        · simpa [mine] using tells_put tells s.broker.maxQueueSize event
      · refine ⟨items, ?_, ?_⟩
        · simp [queue_publish, held, mine]
        · simpa [mine] using tells
  | get other =>
      simp only [Watched.step] at taken
      split at taken
      · rename_i theirs item rest full
        cases taken
        by_cases mine : other = subscriber
        · subst mine
          obtain ⟨items, held, tells⟩ := told
          obtain ⟨rfl, rfl⟩ := Prod.mk.inj (Option.some.inj (full.symm.trans held))
          refine ⟨rest, ?_, ?_⟩
          · simp [queue_get_self, held]
          · simpa using tells
        · refine told.congr (queue_get_ne (Ne.symm mine)) rfl ?_
          simp [mine]
      · cases taken

/-- However slowly it reads, a subscriber reads events of its session in the order of
their publication, and none twice; where it misses some, it reads a marker first. -/
theorem losses_told {broker : ConsoleEventBroker F} {actions : List (BrokerAction F)}
    (run : Lib.Run (step subscriber session) Lib.Always (joined subscriber session broker) actions s) :
    ∃ places, Located s.published (s.read.map QueueItem.toOption) places := by
  have told : s.Told subscriber session :=
    run.invariant (fun _ _ _ told _ taken => told.step taken) (told_joined broker)
  obtain ⟨items, -, tells⟩ := told
  rw [List.map_append] at tells
  exact tells.located

/-- Of four events for a queue of one item the second finds it full of an event and the third
full of the marker; the fourth comes after a read. -/
theorem overrun_told : ∃ s : Watched Int,
    s.read.map (fun item => item.toOption.map (·.eventId)) = [none, some (.message 4)] ∧
      ∃ places, Located s.published (s.read.map QueueItem.toOption) places := by
  let published (decision : UUID) :=
    BrokerAction.publish (ConsoleFeed.decode (ConsoleServer.scoreRecord decision))
  obtain ⟨s, run, read⟩ := Lib.exists_run_of_exec (step (F := Int) 0 1) Lib.Always (joined 0 1 ⟨1, .empty⟩)
    [published 1, published 2, published 3, .get 0, published 4, .get 0]
    (fun s => s.read.map (fun item => item.toOption.map (·.eventId)) = [none, some (.message 4)]) (by decide)
  exact ⟨s, read, losses_told run⟩

end Watched

end IndustrialReliability
