import IndustrialReliability.Console.Feed
import IndustrialReliability.Lib.Runs

/-!
The console stream: the in-memory broker and `stream_replay`.

A state of the server is the durable log, the sessions with a row in `replay_sessions`,
the feed with the event it is about to publish, the broker, and the streams that clients
have opened. An action is one
stretch of the feed or of a stream between two points at which another may run: the
feed appends and publishes in two actions, and a stream reads the store, yields its
messages one by one and joins the broker in separate ones.
-/

namespace IndustrialReliability

variable {F : Type}

/-- What a subscriber's queue holds. -/
inductive QueueItem (F : Type) where
  | event (event : ConsoleEventV1 F)
  | resyncRequired

/-- The queues by subscriber, with the session each belongs to. -/
structure ConsoleEventBroker (F : Type) where
  maxQueueSize : Nat
  subscribers : Lib.Table Nat (UUID × List (QueueItem F))

namespace ConsoleEventBroker

def subscribe (broker : ConsoleEventBroker F) (subscriber : Nat) (session : UUID) :
    ConsoleEventBroker F :=
  { broker with subscribers := broker.subscribers.set subscriber (session, []) }

def unsubscribe (broker : ConsoleEventBroker F) (subscriber : Nat) : ConsoleEventBroker F :=
  { broker with subscribers := broker.subscribers.erase subscriber }

/-- `put_nowait`; a full queue is drained and tells its reader to start over. A queue
of size 0 is unbounded. -/
def put (maxQueueSize : Nat) (event : ConsoleEventV1 F) (items : List (QueueItem F)) :
    List (QueueItem F) :=
  if maxQueueSize = 0 ∨ items.length < maxQueueSize then items ++ [.event event]
  else [.resyncRequired]

def publish (broker : ConsoleEventBroker F) (event : ConsoleEventV1 F) : ConsoleEventBroker F :=
  { broker with subscribers := broker.subscribers.mapValues fun (session, items) =>
      (session, if session = event.replaySessionId then put broker.maxQueueSize event items
        else items) }

/-- The queue without its first item. -/
def get (broker : ConsoleEventBroker F) (subscriber : Nat) : ConsoleEventBroker F :=
  { broker with subscribers := broker.subscribers.modify subscriber fun (session, items) =>
      (session, items.tail) }

def queue (broker : ConsoleEventBroker F) (subscriber : Nat) : Option (UUID × List (QueueItem F)) :=
  broker.subscribers.get? subscriber

end ConsoleEventBroker

/-- A row of `replay_sessions`, as far as the console shows it. -/
structure ReplaySession where
  replaySessionId : UUID
  state : ReplayState
  lastSequence : Option Int
  sourceTimestamp : Option Int
  errorCode : Option String
deriving DecidableEq, Repr

/-- A server-sent event. -/
inductive SseMessage (F : Type) where
  | snapshot (replay : Option ReplaySession)
  | resyncRequired
  | event (event : ConsoleEventV1 F)

def QueueItem.encodeSse : QueueItem F → SseMessage F
  | .event published => .event published
  | .resyncRequired => .resyncRequired

/-- Where the generator of a stream is. -/
inductive StreamPhase (F : Type) where
  | opening
  /-- The messages still to be yielded before it joins the broker. -/
  | sending (rest : List (SseMessage F))
  | live
  | closed

structure ConsoleStream (F : Type) where
  session : UUID
  lastEventId : Option ConsoleEventId
  phase : StreamPhase F
  missedEvents : List (ConsoleEventV1 F)
  /-- What the client has been sent, the latest last. -/
  sent : List (SseMessage F)

structure ConsoleServer (F : Type) where
  log : ConsoleLog F
  /-- The sessions with a row in `replay_sessions`. -/
  sessions : List UUID
  feed : ConsoleFeed F
  /-- Processed up to its publication. -/
  pending : Option (ConsoleEventV1 F)
  broker : ConsoleEventBroker F
  streams : Lib.Table Nat (ConsoleStream F)

namespace ConsoleLog

/-- The events of a session behind one of them; an id the session does not have has
none behind it. -/
def behind (log : ConsoleLog F) (session : UUID) (id : ConsoleEventId) : List (ConsoleEventV1 F) :=
  ((log.ofSession session).dropWhile fun event => event.eventId ≠ id).drop 1

/-- The event a row is read as. -/
def ofRow (row : ConsoleEventV1 F) : ConsoleEventV1 F := { row with durable := true }

/-- `events_after`. -/
def eventsAfter (log : ConsoleLog F) (session : UUID) (afterEventId : Option ConsoleEventId)
    (limit : Nat) : List (ConsoleEventV1 F) :=
  let rows := match afterEventId with
    | some id => log.behind session id
    | none => log.ofSession session
  (rows.take limit).map ofRow

end ConsoleLog

/-- The default `limit` of `events_after`. -/
def EVENTS_AFTER_LIMIT : Nat := 100

inductive ConsoleAction (F : Type) where
  /-- The feed takes a record and handles it up to the publication. -/
  | record (payload : ConsolePayload F)
  | publish
  /-- Another service stores the row of a session. -/
  | storeSession (session : UUID)
  | connect (stream : Nat) (session : UUID) (lastEventId : Option ConsoleEventId)
  /-- The stream reads the store: the session's row is the one given. -/
  | read (stream : Nat) (replay : Option ReplaySession)
  | yield (stream : Nat)
  | subscribe (stream : Nat)
  | deliver (stream : Nat)
  | disconnect (stream : Nat)

namespace ConsoleServer

/-- A process that comes up over a log, whose rows refer to their sessions. -/
def initial (log : ConsoleLog F) (intervalSeconds : Int) (maxQueueSize : Nat) : ConsoleServer F where
  log
  sessions := log.values.map (·.replaySessionId)
  feed := .initial intervalSeconds
  pending := none
  broker := ⟨maxQueueSize, .empty⟩
  streams := .empty

/-- The stream goes on. -/
def withStream (s : ConsoleServer F) (i : Nat) (stream : ConsoleStream F) : ConsoleServer F :=
  { s with streams := s.streams.set i stream }

/-- `ConsoleFeed.process` up to `broker.publish`. Where the database refuses the event it
raises, and everything is as it was. -/
def record (payload : ConsolePayload F) (s : ConsoleServer F) : Option (ConsoleServer F) :=
  match s.pending with
  | some _ => none
  | none =>
      match s.feed.receive payload with
      | (feed, none) => some { s with feed }
      | (feed, some event) =>
          match ConsoleFeed.store s.sessions s.log event with
          | .ok log => some { s with feed, log, pending := some event }
          | .error _ => some s

def publish (s : ConsoleServer F) : Option (ConsoleServer F) :=
  s.pending.map fun event => { s with broker := s.broker.publish event, pending := none }

def storeSession (session : UUID) (s : ConsoleServer F) : Option (ConsoleServer F) :=
  some { s with sessions := s.sessions.insert session }

def connect (i : Nat) (session : UUID) (lastEventId : Option ConsoleEventId)
    (s : ConsoleServer F) : Option (ConsoleServer F) :=
  match s.streams.get? i with
  | some _ => none
  | none => some (s.withStream i ⟨session, lastEventId, .opening, [], []⟩)

/-- What the generator yields before it joins the broker. -/
def opening (missedEvents : List (ConsoleEventV1 F)) (lastEventId : Option ConsoleEventId)
    (replay : Option ReplaySession) : List (SseMessage F) :=
  match lastEventId with
  | none => [.snapshot replay]
  | some _ =>
      if missedEvents.isEmpty then [.resyncRequired, .snapshot replay]
      else .snapshot replay :: missedEvents.map .event

/-- What a stream has missed. -/
def missedEvents (s : ConsoleServer F) (stream : ConsoleStream F) : List (ConsoleEventV1 F) :=
  match stream.lastEventId with
  | some id => s.log.eventsAfter stream.session (some id) EVENTS_AFTER_LIMIT
  | none => []

/-- The row is that of the session, if it has one. -/
def RowOf (s : ConsoleServer F) (session : UUID) (replay : Option ReplaySession) : Prop :=
  replay.map (·.replaySessionId) = if session ∈ s.sessions then some session else none

instance (s : ConsoleServer F) (session : UUID) (replay : Option ReplaySession) :
    Decidable (s.RowOf session replay) :=
  inferInstanceAs (Decidable (_ = _))

def read (i : Nat) (replay : Option ReplaySession) (s : ConsoleServer F) :
    Option (ConsoleServer F) :=
  match s.streams.get? i with
  | some stream =>
      match stream.phase with
      | .opening =>
          if s.RowOf stream.session replay then
            some (s.withStream i { stream with
              phase := .sending (opening (s.missedEvents stream) stream.lastEventId replay)
              missedEvents := s.missedEvents stream })
          else none
      | _ => none
  | none => none

def yield (i : Nat) (s : ConsoleServer F) : Option (ConsoleServer F) :=
  match s.streams.get? i with
  | some stream =>
      match stream.phase with
      | .sending (message :: rest) =>
          some (s.withStream i
            { stream with phase := .sending rest, sent := stream.sent ++ [message] })
      | _ => none
  | none => none

def subscribe (i : Nat) (s : ConsoleServer F) : Option (ConsoleServer F) :=
  match s.streams.get? i with
  | some stream =>
      match stream.phase with
      | .sending [] =>
          some { s.withStream i { stream with phase := .live } with
            broker := s.broker.subscribe i stream.session }
      | _ => none
  | none => none

/-- The stream yields the first item of its queue. -/
def deliver (i : Nat) (s : ConsoleServer F) : Option (ConsoleServer F) :=
  match s.streams.get? i with
  | some stream =>
      match s.broker.queue i with
      | some (_, item :: _) =>
          some { s.withStream i { stream with sent := stream.sent ++ [item.encodeSse] } with
            broker := s.broker.get i }
      | _ => none
  | none => none

def disconnect (i : Nat) (s : ConsoleServer F) : Option (ConsoleServer F) :=
  match s.streams.get? i with
  | some stream =>
      some { s.withStream i { stream with phase := .closed } with
        broker := s.broker.unsubscribe i }
  | none => none

def step (s : ConsoleServer F) : ConsoleAction F → Option (ConsoleServer F)
  | .record payload => s.record payload
  | .publish => s.publish
  | .storeSession session => s.storeSession session
  | .connect i session lastEventId => s.connect i session lastEventId
  | .read i replay => s.read i replay
  | .yield i => s.yield i
  | .subscribe i => s.subscribe i
  | .deliver i => s.deliver i
  | .disconnect i => s.disconnect i

/-! ### What each action does -/

variable {s s' : ConsoleServer F} {i : Nat} {stream : ConsoleStream F}

theorem record_eq {payload : ConsolePayload F} (taken : s.record payload = some s') :
    s.pending = none ∧ ((∃ feed, s' = { s with feed }) ∨
      ∃ feed event, event = ConsoleFeed.decode payload ∧ s' = { s with
        feed, log := ConsoleFeed.stored s.log event, pending := some event }) := by
  unfold record at taken
  cases pending : s.pending with
  | some event =>
      rw [pending] at taken
      cases taken
  | none =>
      rw [pending] at taken
      dsimp only at taken
      refine ⟨rfl, ?_⟩
      unfold ConsoleFeed.receive at taken
      split at taken
      · rename_i received
        obtain rfl := Option.some.inj taken
        exact .inl ⟨_, rfl⟩
      · rename_i feed event received
        have decoded : event = ConsoleFeed.decode payload := by
          dsimp only at received
          split at received
          · obtain ⟨-, same⟩ := Prod.mk.inj received
            split at same
            · exact (Option.some.inj same).symm
            · cases same
          · exact (Option.some.inj (Prod.mk.inj received).2).symm
        split at taken
        · rename_i log stored
          obtain rfl := Option.some.inj taken
          exact .inr ⟨feed, event, decoded, by rw [ConsoleFeed.store_eq_ok stored]⟩
        · refine .inl ⟨s.feed, ?_⟩
          rw [← pending]
          exact (Option.some.inj taken).symm

theorem connect_eq {session : UUID} {lastEventId : Option ConsoleEventId}
    (taken : s.connect i session lastEventId = some s') : s.streams.get? i = none ∧
      s' = s.withStream i ⟨session, lastEventId, .opening, [], []⟩ := by
  unfold connect at taken
  cases held : s.streams.get? i with
  | none =>
      rw [held] at taken
      exact ⟨rfl, (Option.some.inj taken).symm⟩
  | some stream =>
      rw [held] at taken
      cases taken

theorem read_eq {replay : Option ReplaySession} (taken : s.read i replay = some s') :
    ∃ stream, s.streams.get? i = some stream ∧ stream.phase = .opening ∧
      s' = s.withStream i { stream with
        phase := .sending (opening (s.missedEvents stream) stream.lastEventId replay)
        missedEvents := s.missedEvents stream } := by
  unfold read at taken
  split at taken
  · rename_i stream held
    split at taken
    · rename_i phase
      split at taken
      · exact ⟨stream, held, phase, (Option.some.inj taken).symm⟩
      · cases taken
    · cases taken
  · cases taken

theorem yield_eq (taken : s.yield i = some s') : ∃ stream message rest,
    s.streams.get? i = some stream ∧ stream.phase = .sending (message :: rest) ∧
      s' = s.withStream i
        { stream with phase := .sending rest, sent := stream.sent ++ [message] } := by
  unfold yield at taken
  split at taken
  · rename_i stream held
    split at taken
    · rename_i message rest phase
      exact ⟨stream, message, rest, held, phase, (Option.some.inj taken).symm⟩
    · cases taken
  · cases taken

theorem subscribe_eq (taken : s.subscribe i = some s') : ∃ stream,
    s.streams.get? i = some stream ∧ stream.phase = .sending [] ∧
      s' = { s.withStream i { stream with phase := .live } with
        broker := s.broker.subscribe i stream.session } := by
  unfold subscribe at taken
  split at taken
  · rename_i stream held
    split at taken
    · rename_i phase
      exact ⟨stream, held, phase, (Option.some.inj taken).symm⟩
    · cases taken
  · cases taken

theorem deliver_eq (taken : s.deliver i = some s') : ∃ stream session item items,
    s.streams.get? i = some stream ∧ s.broker.queue i = some (session, item :: items) ∧
      s' = { s.withStream i { stream with sent := stream.sent ++ [item.encodeSse] } with
        broker := s.broker.get i } := by
  unfold deliver at taken
  split at taken
  · rename_i stream held
    split at taken
    · rename_i session item items queue
      exact ⟨stream, session, item, items, held, queue, (Option.some.inj taken).symm⟩
    · cases taken
  · cases taken

theorem disconnect_eq (taken : s.disconnect i = some s') : ∃ stream,
    s.streams.get? i = some stream ∧
      s' = { s.withStream i { stream with phase := .closed } with
        broker := s.broker.unsubscribe i } := by
  unfold disconnect at taken
  split at taken
  · rename_i stream held
    exact ⟨stream, held, (Option.some.inj taken).symm⟩
  · cases taken

/-! ### Queues -/

/-- The queue of a stream. -/
def queueOf (s : ConsoleServer F) (i : Nat) : List (QueueItem F) :=
  ((s.broker.queue i).map Prod.snd).getD []

/-- The stream has joined the broker. -/
def Joined (stream : ConsoleStream F) : Prop :=
  match stream.phase with
  | .live => True
  | _ => False

instance (stream : ConsoleStream F) : Decidable (Joined stream) := by
  dsimp only [Joined]
  refine StreamPhase.casesOn stream.phase ?_ ?_ ?_ ?_ <;> intros <;> infer_instance

theorem Joined.phase_eq (joined : Joined stream) : stream.phase = .live := by
  unfold Joined at joined
  cases phase : stream.phase with
  | live => rfl
  | _ => simp [phase] at joined

theorem not_joined_of_sending {rest : List (SseMessage F)} (sending : stream.phase = .sending rest) :
    ¬ Joined stream := by
  unfold Joined
  rw [sending]
  exact id

section Queues

variable {broker : ConsoleEventBroker F} {i j : Nat} {session : UUID} {event : ConsoleEventV1 F}

theorem queue_publish (broker : ConsoleEventBroker F) (event : ConsoleEventV1 F) (i : Nat) :
    (broker.publish event).queue i = (broker.queue i).map fun entry =>
      (entry.1, if entry.1 = event.replaySessionId then
        ConsoleEventBroker.put broker.maxQueueSize event entry.2 else entry.2) :=
  Lib.Table.get?_mapValues _ _ i

theorem queue_subscribe_self : (broker.subscribe i session).queue i = some (session, []) :=
  Lib.Table.get?_set_self _ _ _

theorem queue_subscribe_ne (other : i ≠ j) :
    (broker.subscribe j session).queue i = broker.queue i :=
  Lib.Table.get?_set_ne other

theorem queue_unsubscribe_self : (broker.unsubscribe i).queue i = none :=
  Lib.Table.get?_erase_self _ _

theorem queue_unsubscribe_ne (other : i ≠ j) : (broker.unsubscribe j).queue i = broker.queue i :=
  Lib.Table.get?_erase_ne other

theorem queue_get_self : (broker.get i).queue i =
    (broker.queue i).map fun entry => (entry.1, entry.2.tail) :=
  Lib.Table.get?_modify_self _ _ _

theorem queue_get_ne (other : i ≠ j) : (broker.get j).queue i = broker.queue i :=
  Lib.Table.get?_modify_ne other

end Queues

/-- A stream has a queue exactly while it is live. -/
structure Queued (i : Nat) (s : ConsoleServer F) : Prop where
  unopened : s.streams.get? i = none → s.broker.queue i = none
  joined : ∀ stream, s.streams.get? i = some stream → Joined stream →
    s.broker.queue i = some (stream.session, s.queueOf i)
  apart : ∀ stream, s.streams.get? i = some stream → ¬ Joined stream → s.broker.queue i = none

theorem queued_initial (log : ConsoleLog F) (intervalSeconds : Int) (maxQueueSize i : Nat) :
    Queued i (initial log intervalSeconds maxQueueSize) := by
  refine ⟨fun _ => rfl, ?_, ?_⟩
  · intro stream held
    cases held
  · intro stream held
    cases held

section Queued

variable {j : Nat}

theorem Queued.congr (queued : Queued i s) (queue : s'.broker.queue i = s.broker.queue i)
    (streams : s'.streams.get? i = s.streams.get? i) : Queued i s' := by
  have queueOf : s'.queueOf i = s.queueOf i := by
    unfold ConsoleServer.queueOf
    rw [queue]
  obtain ⟨unopened, joined, apart⟩ := queued
  constructor
  · rw [streams, queue]
    exact unopened
  · rw [streams, queue, queueOf]
    exact joined
  · rw [streams, queue]
    exact apart

/-- The stream goes on without joining or leaving. -/
theorem Queued.here {stream : ConsoleStream F} (streams : s'.streams.get? i = some stream)
    (joined : Joined stream → ∃ items, s'.broker.queue i = some (stream.session, items))
    (apart : ¬ Joined stream → s'.broker.queue i = none) : Queued i s' := by
  constructor
  · intro none
    rw [streams] at none
    cases none
  · intro other held live
    rw [streams] at held
    obtain rfl := Option.some.inj held
    obtain ⟨items, queue⟩ := joined live
    unfold ConsoleServer.queueOf
    rw [queue]
    rfl
  · intro other held
    rw [streams] at held
    obtain rfl := Option.some.inj held
    exact apart

theorem Queued.step {action : ConsoleAction F} (queued : Queued i s)
    (taken : ConsoleServer.step s action = some s') : Queued i s' := by
  cases action with
  | record payload =>
      obtain ⟨-, ⟨feed, rfl⟩ | ⟨feed, event, -, rfl⟩⟩ := record_eq taken
      · exact queued.congr rfl rfl
      · exact queued.congr rfl rfl
  | publish =>
      obtain ⟨event, -, rfl⟩ := Option.map_eq_some_iff.mp taken
      cases held : s.streams.get? i with
      | none =>
          refine queued.congr ?_ rfl
          show (s.broker.publish event).queue i = _
          rw [queue_publish, queued.unopened held]
          rfl
      | some stream =>
          refine .here held (fun joined => ?_) fun apart => ?_
          · show ∃ items, (s.broker.publish event).queue i = some (stream.session, items)
            rw [queue_publish, queued.joined stream held joined]
            exact ⟨_, rfl⟩
          · show (s.broker.publish event).queue i = none
            rw [queue_publish, queued.apart stream held apart]
            rfl
  | storeSession session =>
      obtain rfl := Option.some.inj taken
      exact queued.congr rfl rfl
  | connect j session lastEventId =>
      obtain ⟨absent, rfl⟩ := connect_eq taken
      by_cases here : i = j
      · subst here
        exact .here (Lib.Table.get?_set_self _ _ _) False.elim fun _ => queued.unopened absent
      · exact queued.congr rfl (Lib.Table.get?_set_ne here)
  | read j replay =>
      obtain ⟨stream, held, phase, rfl⟩ := read_eq taken
      by_cases here : i = j
      · subst here
        refine .here (Lib.Table.get?_set_self _ _ _) False.elim fun _ => queued.apart stream held ?_
        unfold Joined
        rw [phase]
        exact id
      · exact queued.congr rfl (Lib.Table.get?_set_ne here)
  | yield j =>
      obtain ⟨stream, message, rest, held, phase, rfl⟩ := yield_eq taken
      by_cases here : i = j
      · subst here
        exact .here (Lib.Table.get?_set_self _ _ _) False.elim fun _ =>
          queued.apart stream held (not_joined_of_sending phase)
      · exact queued.congr rfl (Lib.Table.get?_set_ne here)
  | subscribe j =>
      obtain ⟨stream, held, phase, rfl⟩ := subscribe_eq taken
      by_cases here : i = j
      · subst here
        exact .here (Lib.Table.get?_set_self _ _ _) (fun _ => ⟨[], queue_subscribe_self⟩)
          fun apart => absurd trivial apart
      · exact queued.congr (queue_subscribe_ne here) (Lib.Table.get?_set_ne here)
  | deliver j =>
      obtain ⟨stream, session, item, items, held, queue, rfl⟩ := deliver_eq taken
      by_cases here : i = j
      · subst here
        have joined : Joined stream := by
          by_contra apart
          rw [queued.apart stream held apart] at queue
          cases queue
        refine .here (Lib.Table.get?_set_self _ _ _) (fun _ => ⟨items, ?_⟩)
          fun apart => absurd joined apart
        have own := queued.joined stream held joined
        rw [queue] at own
        obtain ⟨rfl, -⟩ := Prod.mk.inj (Option.some.inj own)
        show (s.broker.get i).queue i = _
        rw [queue_get_self, queue]
        rfl
      · exact queued.congr (queue_get_ne here) (Lib.Table.get?_set_ne here)
  | disconnect j =>
      obtain ⟨stream, held, rfl⟩ := disconnect_eq taken
      by_cases here : i = j
      · subst here
        exact .here (Lib.Table.get?_set_self _ _ _) False.elim fun _ => queue_unsubscribe_self
      · exact queued.congr (queue_unsubscribe_ne here) (Lib.Table.get?_set_ne here)

end Queued

/-- A decision of session 1. -/
def scoreRecord (decision : UUID) : ConsolePayload Int := .score {
  messageId := decision
  replaySessionId := 1
  sourceDatasetSha256 := 1
  contractSha256 := 1
  sourceTimestamp := 0
  emittedAt := ⟨0⟩
  decisionId := decision
  windowId := decision
  modelVersion := "v1"
  score := 0
  threshold := 1
  isAnomaly := false
  evidenceVector := [] }

end ConsoleServer

end IndustrialReliability
