import IndustrialReliability.Console.Stream
import IndustrialReliability.Lib.Catchup

/-!
Resuming a console stream.

A stream that resumes reads the events behind the id it is given and joins the
broker afterwards. An event published in between reaches neither, and a backlog of
more than a hundred events is cut off. In runs without the two the client meets no
gap it has not been told of (`resume_gapFree`).
-/

namespace IndustrialReliability

open Lib (Delivery GapFree Covers)

variable {F : Type}

/-- What a message says of the durable log. -/
def SseMessage.delivery : SseMessage F → Option (Delivery ConsoleEventId)
  | .snapshot _ => none
  | .resyncRequired => some .reset
  | .event published => if published.durable then some (.item published.eventId) else none

def deliveries (messages : List (SseMessage F)) : List (Delivery ConsoleEventId) :=
  messages.filterMap SseMessage.delivery

theorem deliveries_append (first second : List (SseMessage F)) :
    deliveries (first ++ second) = deliveries first ++ deliveries second :=
  List.filterMap_append

namespace ConsoleLog

/-- The ids of the events of a session behind one of them. -/
def idsBehind (log : ConsoleLog F) (session : UUID) (id : ConsoleEventId) : List ConsoleEventId :=
  (log.behind session id).map (·.eventId)

variable {log : ConsoleLog F} {session : UUID} {id : ConsoleEventId} {event : ConsoleEventV1 F}

theorem nodup_ids (decoded : log.Decoded) : (log.values.map (·.eventId)).Nodup := by
  have same : log.values.map (·.eventId) = log.rows.map Prod.fst := by
    unfold Lib.Table.values
    rw [List.map_map]
    apply List.map_congr_left
    rintro ⟨key, row⟩ mem
    exact (decoded key row (Lib.Table.get?_eq_some_iff.mpr mem)).2.symm
  rw [same]
  exact log.keys_nodup

theorem behind_sublist : (log.behind session id).Sublist log.values :=
  ((List.drop_sublist 1 _).trans (List.dropWhile_sublist _)).trans List.filter_sublist

theorem nodup_idsBehind (decoded : log.Decoded) : (log.idsBehind session id).Nodup :=
  (nodup_ids decoded).sublist (behind_sublist.map _)

/-- An append adds the event behind the others, or nothing. -/
theorem idsBehind_inserted (log : ConsoleLog F) (session : UUID) (id : ConsoleEventId)
    (event : ConsoleEventV1 F) : (log.inserted event).idsBehind session id = log.idsBehind session id ∨
      log.get? event.eventId = none ∧ event.replaySessionId = session ∧
        (log.inserted event).idsBehind session id = log.idsBehind session id ++ [event.eventId] := by
  cases held : log.get? event.eventId with
  | some old =>
      left
      unfold inserted
      rw [Lib.Table.insertNew_of_some held]
  | none =>
      unfold idsBehind behind ofSession inserted
      rw [Lib.Table.insertNew_values held, List.filter_append]
      by_cases mine : event.replaySessionId = session
      · rw [List.filter_cons_of_pos (by simpa using mine), List.filter_nil, List.dropWhile_append]
        cases dropped : (log.values.filter fun event => decide (event.replaySessionId = session)).dropWhile
            (fun event => decide (event.eventId ≠ id)) with
        | nil =>
            left
            rw [if_pos List.isEmpty_nil, List.dropWhile_cons]
            split <;> rfl
        | cons first rest =>
            right
            refine ⟨rfl, mine, ?_⟩
            rw [if_neg (by simp)]
            simp
      · left
        rw [List.filter_cons_of_neg (by simpa using mine), List.filter_nil, List.append_nil]

end ConsoleLog

/-! ### The invariant -/

namespace ConsoleStream

/-- What the stream will send before anything that is published from now on. -/
def ahead (stream : ConsoleStream F) (queue : List (QueueItem F)) : List (SseMessage F) :=
  match stream.phase with
  | .sending rest => rest
  | .live => queue.map QueueItem.encodeSse
  | .opening | .closed => []

/-- What the client has been and will be sent of the durable log. -/
def flow (stream : ConsoleStream F) (queue : List (QueueItem F)) :
    List (Delivery ConsoleEventId) :=
  deliveries (stream.sent ++ stream.ahead queue)

end ConsoleStream

namespace ConsoleServer

/-- The stream has read the store. -/
def HasRead (stream : ConsoleStream F) : Prop :=
  match stream.phase with
  | .sending _ | .live => True
  | _ => False

/-- The event is the one about to be published. -/
def Pending (s : ConsoleServer F) (session : UUID) (id : ConsoleEventId) : Prop :=
  ∃ event, s.pending = some event ∧ event.durable = true ∧ event.replaySessionId = session ∧
    event.eventId = id

/-- What is known of a stream that resumes behind `cursor`. -/
structure Follows (s : ConsoleServer F) (i : Nat) (stream : ConsoleStream F)
    (cursor : ConsoleEventId) : Prop where
  unsent : stream.phase = .opening → stream.sent = []
  backlog : ∀ rest, stream.phase = .sending rest → .reset ∈ stream.flow (s.queueOf i) ∨
    stream.missedEvents ≠ [] ∧
      ∀ event ∈ stream.missedEvents, .item event.eventId ∈ stream.flow (s.queueOf i)
  stored : ∀ id, .item id ∈ stream.flow (s.queueOf i) → s.log.get? id ≠ none
  gapFree : GapFree (s.log.idsBehind stream.session cursor) (stream.flow (s.queueOf i))
  covers : HasRead stream → .reset ∈ stream.flow (s.queueOf i) ∨
    ∀ id ∈ s.log.idsBehind stream.session cursor,
      .item id ∈ stream.flow (s.queueOf i) ∨ s.Pending stream.session id

/-- Every resuming stream of this number follows the log. -/
structure Following (i : Nat) (s : ConsoleServer F) : Prop where
  decoded : s.log.Decoded
  appended : ∀ event, s.pending = some event → event.durable = true →
    s.log.get? event.eventId ≠ none
  queued : Queued i s
  follows : ∀ stream, s.streams.get? i = some stream →
    ∀ cursor, stream.lastEventId = some cursor → Follows s i stream cursor

/-- When stream `i` reads the store at most a hundred events lie behind its id, and
nothing that came after the read is published before the stream has joined the
broker, unless the client is told to start over. -/
def ResumesInTime (i : Nat) (s : ConsoleServer F) : ConsoleAction F → Prop
  | .read j _ => j = i → ∀ stream ∈ s.streams.get? i, ∀ cursor ∈ stream.lastEventId,
      (s.log.behind stream.session cursor).length ≤ EVENTS_AFTER_LIMIT
  | .publish => ∀ stream ∈ s.streams.get? i, ∀ cursor ∈ stream.lastEventId,
      HasRead stream → ¬ Joined stream → stream.missedEvents ≠ [] →
        ∀ event ∈ s.pending, event.durable = true → event.replaySessionId = stream.session →
          event.eventId ∈ s.log.idsBehind stream.session cursor →
            event.eventId ∈ stream.missedEvents.map (·.eventId)
  | _ => True

section Step

variable {s s' : ConsoleServer F} {i j : Nat} {stream : ConsoleStream F} {cursor : ConsoleEventId}
  {event : ConsoleEventV1 F}

theorem Follows.congr (follows : Follows s i stream cursor) (log : s'.log = s.log)
    (pending : s'.pending = s.pending) (queue : s'.broker.queue i = s.broker.queue i) :
    Follows s' i stream cursor := by
  have queueOf : s'.queueOf i = s.queueOf i := by
    unfold ConsoleServer.queueOf
    rw [queue]
  obtain ⟨unsent, backlog, stored, gapFree, covers⟩ := follows
  constructor
  · exact unsent
  · rw [queueOf]
    exact backlog
  · rw [queueOf, log]
    exact stored
  · rw [queueOf, log]
    exact gapFree
  · unfold Pending
    rw [queueOf, log, pending]
    exact covers

/-- Another stream goes on, or none. -/
theorem Following.elsewhere (following : Following i s) (log : s'.log = s.log)
    (pending : s'.pending = s.pending) (queue : s'.broker.queue i = s.broker.queue i)
    (streams : s'.streams.get? i = s.streams.get? i) : Following i s' := by
  obtain ⟨decoded, appended, queued, follows⟩ := following
  constructor
  · rw [log]
    exact decoded
  · rw [log, pending]
    exact appended
  · exact queued.congr queue streams
  · rw [streams]
    exact fun stream held cursor named => (follows stream held cursor named).congr log pending queue

/-- The stream itself goes on. -/
theorem Following.here (following : Following i s) (queued : Queued i s') (log : s'.log = s.log)
    (pending : s'.pending = s.pending) {stream : ConsoleStream F}
    (streams : s'.streams.get? i = some stream)
    (follows : ∀ cursor, stream.lastEventId = some cursor → Follows s' i stream cursor) :
    Following i s' := by
  constructor
  · rw [log]
    exact following.decoded
  · rw [log, pending]
    exact following.appended
  · exact queued
  · intro other held cursor named
    rw [streams] at held
    obtain rfl := Option.some.inj held
    exact follows cursor named

/-- The feed appends an event. -/
theorem Following.stored (following : Following i s) (idle : s.pending = none) {feed : ConsoleFeed F}
    (shape : event = ConsoleFeed.decode event.payload) :
    Following i { s with feed, log := ConsoleFeed.stored s.log event, pending := some event } := by
  obtain ⟨decoded, appended, queued, follows⟩ := following
  have kept : ∀ id, s.log.get? id ≠ none → (ConsoleFeed.stored s.log event).get? id ≠ none := by
    intro id held
    unfold ConsoleFeed.stored
    split
    · obtain ⟨row, same⟩ := Option.ne_none_iff_exists'.mp held
      rw [ConsoleLog.inserted, Lib.Table.get?_insertNew_of_some same]
      simp
    · exact held
  constructor
  · unfold ConsoleFeed.stored
    split
    · rw [shape]
      exact decoded.inserted event.payload
    · exact decoded
  · intro other same durable
    cases same
    unfold ConsoleFeed.stored
    rw [if_pos durable]
    exact Option.isSome_iff_ne_none.mp (Lib.Table.isSome_get?_insertNew_self _ _ _)
  · exact queued.congr rfl rfl
  · intro stream held cursor named
    obtain ⟨unsent, backlog, stored, gapFree, covers⟩ := follows stream held cursor named
    have ids : (ConsoleFeed.stored s.log event).idsBehind stream.session cursor =
        s.log.idsBehind stream.session cursor ∨
        event.durable = true ∧ s.log.get? event.eventId = none ∧
          event.replaySessionId = stream.session ∧
          (ConsoleFeed.stored s.log event).idsBehind stream.session cursor =
            s.log.idsBehind stream.session cursor ++ [event.eventId] := by
      unfold ConsoleFeed.stored
      split
      · rename_i durable
        exact (ConsoleLog.idsBehind_inserted _ _ _ _).imp_right fun fresh => ⟨durable, fresh⟩
      · exact .inl rfl
    refine ⟨unsent, backlog, fun id sent => kept id (stored id sent), ?_, ?_⟩
    · show GapFree ((ConsoleFeed.stored s.log event).idsBehind stream.session cursor) _
      rcases ids with same | ⟨-, absent, -, grown⟩
      · rw [same]
        exact gapFree
      · rw [grown]
        exact gapFree.log_concat fun sent => stored _ sent absent
    · intro hasRead
      refine (covers hasRead).imp_right fun all id mem => ?_
      have before : id ∈ s.log.idsBehind stream.session cursor →
          .item id ∈ stream.flow (s.queueOf i) := by
        intro mem
        rcases all id mem with sent | ⟨other, pending, -⟩
        · exact sent
        · rw [idle] at pending
          cases pending
      replace mem : id ∈ (ConsoleFeed.stored s.log event).idsBehind stream.session cursor := mem
      rcases ids with same | ⟨durable, -, mine, grown⟩
      · rw [same] at mem
        exact .inl (before mem)
      · rw [grown] at mem
        rcases List.mem_append.mp mem with mem | last
        · exact .inl (before mem)
        · exact .inr ⟨event, rfl, durable, mine, (List.mem_singleton.mp last).symm⟩

theorem flow_of_joined (joined : Joined stream) (queue : List (QueueItem F)) :
    stream.flow queue = deliveries stream.sent ++ deliveries (queue.map QueueItem.encodeSse) := by
  unfold ConsoleStream.flow ConsoleStream.ahead
  rw [deliveries_append]
  unfold Joined at joined
  cases phase : stream.phase with
  | live => rfl
  | _ => simp [phase] at joined

theorem flow_of_not_joined (apart : ¬ Joined stream) (queue : List (QueueItem F)) :
    stream.flow queue = stream.flow [] := by
  unfold ConsoleStream.flow ConsoleStream.ahead
  unfold Joined at apart
  cases phase : stream.phase with
  | live => simp [phase] at apart
  | _ => rfl

theorem Joined.hasRead (joined : Joined stream) : HasRead stream := by
  unfold Joined at joined
  unfold HasRead
  cases phase : stream.phase with
  | live => trivial
  | _ => simp [phase] at joined

/-- A published event reaches the queue of a stream that has joined. -/
theorem Follows.put (follows : Follows s i stream cursor) (joined : Joined stream)
    (queue : s.broker.queue i = some (stream.session, s.queueOf i))
    (nodup : (s.log.idsBehind stream.session cursor).Nodup) (pending : s.pending = some event)
    (appended : event.durable = true → s.log.get? event.eventId ≠ none)
    (mine : event.replaySessionId = stream.session) :
    Follows { s with broker := s.broker.publish event, pending := none } i stream cursor := by
  obtain ⟨-, -, stored, gapFree, covers⟩ := follows
  have covers := covers joined.hasRead
  have queue' : (s.broker.publish event).queue i =
      some (stream.session, ConsoleEventBroker.put s.broker.maxQueueSize event (s.queueOf i)) := by
    rw [queue_publish, queue, Option.map_some, if_pos mine.symm]
  have queueOf : ConsoleServer.queueOf
      { s with broker := s.broker.publish event, pending := none } i =
        ConsoleEventBroker.put s.broker.maxQueueSize event (s.queueOf i) := by
    unfold ConsoleServer.queueOf
    rw [queue']
    rfl
  have others : .reset ∈ stream.flow (s.queueOf i) ∨
      ∀ id ∈ s.log.idsBehind stream.session cursor, (event.durable = true → id ≠ event.eventId) →
        .item id ∈ stream.flow (s.queueOf i) := by
    refine covers.imp_right fun all id mem differs => (all id mem).resolve_right ?_
    rintro ⟨other, same, durable, -, named⟩
    rw [pending] at same
    cases same
    exact differs durable named.symm
  -- What the stream will have sent: the event behind the rest, or a reset in place of
  -- what was in the queue.
  have flow : stream.flow (ConsoleEventBroker.put s.broker.maxQueueSize event (s.queueOf i)) =
        stream.flow (s.queueOf i) ++ deliveries [.event event] ∨
      stream.flow (ConsoleEventBroker.put s.broker.maxQueueSize event (s.queueOf i)) =
        deliveries stream.sent ++ [.reset] := by
    rw [flow_of_joined joined, flow_of_joined joined]
    unfold ConsoleEventBroker.put
    split
    · left
      rw [List.map_append, deliveries_append, List.append_assoc]
      rfl
    · right
      rfl
  have sentOnly : GapFree (s.log.idsBehind stream.session cursor) (deliveries stream.sent) := by
    rw [flow_of_joined joined] at gapFree
    exact gapFree.of_append
  constructor
  · intro opening
    rw [joined.phase_eq] at opening
    cases opening
  · intro rest sending
    rw [joined.phase_eq] at sending
    cases sending
  · rw [queueOf]
    intro id sent
    rcases flow with grown | restarted
    · rw [grown] at sent
      rcases List.mem_append.mp sent with before | now
      · exact stored id before
      · obtain ⟨message, mem, said⟩ := List.mem_filterMap.mp now
        rw [List.mem_singleton.mp mem, SseMessage.delivery] at said
        split at said
        · rename_i durable
          cases said
          exact appended durable
        · cases said
    · rw [restarted] at sent
      rcases List.mem_append.mp sent with before | now
      · apply stored id
        rw [flow_of_joined joined]
        exact List.mem_append_left _ before
      · cases List.mem_singleton.mp now
  · rw [queueOf]
    show GapFree (s.log.idsBehind stream.session cursor) _
    rcases flow with grown | restarted
    · rw [grown]
      by_cases durable : event.durable = true
      · have said : deliveries [SseMessage.event event] = [.item event.eventId] := by
          simp [deliveries, SseMessage.delivery, durable]
        rw [said]
        exact gapFree.item nodup (others.imp_right fun all id mem differs => all id mem fun _ => differs)
      · have said : deliveries [SseMessage.event event] = [] := by
          simp [deliveries, SseMessage.delivery, durable]
        rw [said, List.append_nil]
        exact gapFree
    · rw [restarted]
      exact sentOnly.reset
  · intro _
    rw [queueOf]
    show _ ∨ ∀ id ∈ s.log.idsBehind stream.session cursor, _
    rcases flow with grown | restarted
    · rw [grown]
      refine others.imp (List.mem_append_left _) fun all id mem => .inl ?_
      by_cases differs : event.durable = true → id ≠ event.eventId
      · exact List.mem_append_left _ (all id mem differs)
      · obtain ⟨durable, same⟩ := Classical.not_imp.mp differs
        rw [not_not.mp same]
        apply List.mem_append_right
        simp [deliveries, SseMessage.delivery, durable]
    · left
      rw [restarted]
      exact List.mem_append_right _ (List.mem_singleton_self _)

theorem Following.publish (following : Following i s) (inTime : ResumesInTime i s .publish)
    (taken : s.step .publish = some s') : Following i s' := by
  have queued := following.queued.step taken
  obtain ⟨event, pending, rfl⟩ := Option.map_eq_some_iff.mp taken
  constructor
  · exact following.decoded
  · intro other none
    cases none
  · exact queued
  · intro stream held cursor named
    have follows := following.follows stream held cursor named
    by_cases joined : Joined stream
    · by_cases mine : event.replaySessionId = stream.session
      · exact follows.put joined (following.queued.joined stream held joined)
          (ConsoleLog.nodup_idsBehind following.decoded) pending (following.appended event pending) mine
      · have queue := following.queued.joined stream held joined
        have same : (s.broker.publish event).queue i = s.broker.queue i := by
          rw [queue_publish, queue, Option.map_some, if_neg (fun its => mine its.symm)]
        have quiet : Follows { s with broker := s.broker.publish event } i stream cursor :=
          follows.congr rfl rfl same
        refine { quiet with covers := fun hasRead => ?_ }
        refine (quiet.covers hasRead).imp_right fun all id mem => (all id mem).imp_right ?_
        rintro ⟨other, still, -, its, -⟩
        rw [pending] at still
        cases still
        exact absurd its mine
    · have same : (s.broker.publish event).queue i = s.broker.queue i := by
        rw [queue_publish, following.queued.apart stream held joined]
        rfl
      have quiet : Follows { s with broker := s.broker.publish event } i stream cursor :=
        follows.congr rfl rfl same
      refine { quiet with covers := fun hasRead => ?_ }
      refine (quiet.covers hasRead).elim .inl fun all => ?_
      -- The stream is about to join: what it has read is on its way.
      obtain ⟨rest, sending⟩ : ∃ rest, stream.phase = .sending rest := by
        unfold HasRead at hasRead
        unfold Joined at joined
        cases phase : stream.phase with
        | sending rest => exact ⟨rest, rfl⟩
        | live => simp [phase] at joined
        | _ => simp [phase] at hasRead
      refine (quiet.backlog rest sending).imp_right fun ⟨nonempty, missed⟩ id mem => ?_
      rcases all id mem with sent | ⟨other, still, durable, its, rfl⟩
      · exact .inl sent
      · rw [pending] at still
        cases still
        have read := inTime stream held cursor named hasRead joined nonempty event pending durable its mem
        obtain ⟨old, was, same⟩ := List.mem_map.mp read
        rw [← same]
        exact .inl (missed old was)

/-- What a resuming stream sends of a backlog it has read whole. -/
theorem deliveries_opening {events : List (ConsoleEventV1 F)} (replay : Option ReplaySession) :
    deliveries (ConsoleServer.opening (events.map ConsoleLog.ofRow)
      (some cursor) replay) =
        if events = [] then [.reset] else (events.map (·.eventId)).map .item := by
  unfold ConsoleServer.opening
  cases events with
  | nil => rfl
  | cons first rest =>
      dsimp only
      rw [if_neg (by simp), if_neg (by simp), List.map_map, List.map_map]
      have each : ∀ rows : List (ConsoleEventV1 F),
          deliveries (rows.map (SseMessage.event ∘ ConsoleLog.ofRow)) =
            rows.map (Delivery.item ∘ fun event => event.eventId) := by
        intro rows
        unfold deliveries
        rw [List.filterMap_map, ← List.filterMap_eq_map]
        rfl
      exact each (first :: rest)

/-- A stream that has just read the store follows the log. -/
theorem Follows.of_read {replay : Option ReplaySession} {events : List (ConsoleEventV1 F)}
    (decoded : s.log.Decoded) (unsent : stream.sent = [])
    (all : s.log.behind stream.session cursor = events)
    (phase : stream.phase = .sending (ConsoleServer.opening (events.map ConsoleLog.ofRow)
      (some cursor) replay))
    (missed : stream.missedEvents = events.map ConsoleLog.ofRow) : Follows s i stream cursor := by
  have flow : stream.flow (s.queueOf i) =
      if events = [] then [.reset] else (events.map (·.eventId)).map .item := by
    unfold ConsoleStream.flow ConsoleStream.ahead
    rw [phase, unsent, List.nil_append]
    exact deliveries_opening replay
  have ids : s.log.idsBehind stream.session cursor = events.map (·.eventId) := by
    unfold ConsoleLog.idsBehind
    rw [all]
  constructor
  · exact fun _ => unsent
  · intro rest _
    rw [flow, missed]
    split
    · exact .inl (List.mem_singleton_self _)
    · rename_i some
      refine .inr ⟨by simpa using some, fun event read => ?_⟩
      obtain ⟨row, mem, rfl⟩ := List.mem_map.mp read
      have here : row.eventId ∈ events.map (·.eventId) := List.mem_map_of_mem mem
      exact List.mem_map_of_mem here
  · rw [flow]
    intro id sent
    split at sent
    · cases List.mem_singleton.mp sent
    · obtain ⟨other, mem, same⟩ := List.mem_map.mp sent
      cases same
      obtain ⟨event, row, rfl⟩ := List.mem_map.mp mem
      rw [← all] at row
      obtain ⟨key, held⟩ := Lib.Table.mem_values_iff.mp (ConsoleLog.behind_sublist.subset row)
      rw [← (decoded key event held).2, held]
      exact Option.some_ne_none _
  · have nodup : (s.log.idsBehind stream.session cursor).Nodup := ConsoleLog.nodup_idsBehind decoded
    rw [flow]
    split
    · have reset : GapFree (s.log.idsBehind stream.session cursor) ([] ++ [.reset]) :=
        Lib.gapFree_nil.reset
      exact reset
    · rw [ids] at nodup ⊢
      exact Lib.gapFree_items nodup
  · intro _
    rw [flow, ids]
    split
    · exact .inl (List.mem_singleton_self _)
    · exact .inr fun id mem => .inl (List.mem_map_of_mem mem)

/-- The stream reads the store. -/
theorem Following.read {replay : Option ReplaySession} (following : Following i s)
    (inTime : ResumesInTime i s (.read i replay)) (taken : s.step (.read i replay) = some s') :
    Following i s' := by
  have queued := following.queued.step taken
  obtain ⟨stream, held, phase, rfl⟩ := read_eq taken
  refine following.here queued rfl rfl (Lib.Table.get?_set_self _ _ _) fun cursor named => ?_
  have named : stream.lastEventId = some cursor := named
  have follows := following.follows stream held cursor named
  -- All that lies behind the id has been read.
  have all : s.missedEvents stream =
      (s.log.behind stream.session cursor).map ConsoleLog.ofRow := by
    unfold missedEvents ConsoleLog.eventsAfter
    rw [named]
    dsimp only
    rw [List.take_of_length_le (inTime rfl stream held cursor named)]
  have sending : StreamPhase.sending (opening (s.missedEvents stream) stream.lastEventId replay) =
      .sending (opening ((s.log.behind stream.session cursor).map ConsoleLog.ofRow)
        (some cursor) replay) := by
    rw [all, named]
  exact Follows.of_read following.decoded (follows.unsent phase) rfl sending all

/-- A stream of the same session that sends the same, at another place. -/
theorem Follows.moved {moved : ConsoleStream F} (follows : Follows s i stream cursor)
    (log : s'.log = s.log) (pending : s'.pending = s.pending) (session : moved.session = stream.session)
    (flow : moved.flow (s'.queueOf i) = stream.flow (s.queueOf i))
    (opened : moved.phase ≠ .opening)
    (backlog : ∀ rest, moved.phase = .sending rest → ∃ rest, stream.phase = .sending rest ∧
      moved.missedEvents = stream.missedEvents)
    (hasRead : HasRead moved → HasRead stream) : Follows s' i moved cursor := by
  constructor
  · exact fun opening => absurd opening opened
  · intro rest sending
    obtain ⟨rest, before, missed⟩ := backlog rest sending
    rw [flow, missed]
    exact follows.backlog rest before
  · rw [flow, log]
    exact follows.stored
  · rw [flow, log, session]
    exact follows.gapFree
  · intro read
    unfold Pending
    rw [flow, log, pending, session]
    exact follows.covers (hasRead read)

theorem Following.yield (following : Following i s) (taken : s.step (.yield i) = some s') :
    Following i s' := by
  have queued := following.queued.step taken
  obtain ⟨stream, message, rest, held, phase, rfl⟩ := yield_eq taken
  refine following.here queued rfl rfl (Lib.Table.get?_set_self _ _ _) fun cursor named => ?_
  have follows := following.follows stream held cursor named
  refine follows.moved rfl rfl rfl ?_ nofun ?_ ?_
  · unfold ConsoleStream.flow ConsoleStream.ahead
    rw [phase]
    simp [deliveries]
  · exact fun _ _ => ⟨_, phase, rfl⟩
  · intro _
    unfold HasRead
    rw [phase]
    trivial

theorem Following.subscribe (following : Following i s) (taken : s.step (.subscribe i) = some s') :
    Following i s' := by
  have queued := following.queued.step taken
  obtain ⟨stream, held, phase, rfl⟩ := subscribe_eq taken
  refine following.here queued rfl rfl (Lib.Table.get?_set_self _ _ _) fun cursor named => ?_
  have follows := following.follows stream held cursor named
  have queue : (s.broker.subscribe i stream.session).queue i = some (stream.session, []) :=
    queue_subscribe_self
  have queueOf : ConsoleServer.queueOf { s.withStream i { stream with phase := .live } with
      broker := s.broker.subscribe i stream.session } i = [] := by
    unfold ConsoleServer.queueOf
    rw [queue]
    rfl
  refine follows.moved rfl rfl rfl ?_ nofun nofun ?_
  · rw [queueOf]
    unfold ConsoleStream.flow ConsoleStream.ahead
    rw [phase]
    rfl
  · intro _
    unfold HasRead
    rw [phase]
    trivial

theorem Following.deliver (following : Following i s) (taken : s.step (.deliver i) = some s') :
    Following i s' := by
  have queued := following.queued.step taken
  obtain ⟨stream, session, item, items, held, queue, rfl⟩ := deliver_eq taken
  refine following.here queued rfl rfl (Lib.Table.get?_set_self _ _ _) fun cursor named => ?_
  have follows := following.follows stream held cursor named
  have joined : Joined stream := by
    by_contra apart
    rw [following.queued.apart stream held apart] at queue
    cases queue
  have own := following.queued.joined stream held joined
  rw [queue] at own
  obtain ⟨rfl, before⟩ := Prod.mk.inj (Option.some.inj own)
  have after : (s.broker.get i).queue i = some (stream.session, items) := by
    rw [queue_get_self, queue]
    rfl
  have queueOf : ConsoleServer.queueOf
      { s.withStream i { stream with sent := stream.sent ++ [item.encodeSse] } with
        broker := s.broker.get i } i = items := by
    unfold ConsoleServer.queueOf
    rw [after]
    rfl
  have still : Joined { stream with sent := stream.sent ++ [item.encodeSse] } := joined
  refine follows.moved rfl rfl rfl ?_ ?_ ?_ ?_
  · rw [queueOf, ← before, flow_of_joined still, flow_of_joined joined, List.map_cons,
      ← deliveries_append, ← deliveries_append, List.append_assoc]
    rfl
  · intro opening
    rw [joined.phase_eq] at opening
    cases opening
  · exact fun rest sending => ⟨rest, sending, rfl⟩
  · exact fun _ => joined.hasRead

theorem Following.disconnect (following : Following i s) (taken : s.step (.disconnect i) = some s') :
    Following i s' := by
  have queued := following.queued.step taken
  obtain ⟨stream, held, rfl⟩ := disconnect_eq taken
  refine following.here queued rfl rfl (Lib.Table.get?_set_self _ _ _) fun cursor named => ?_
  have follows := following.follows stream held cursor named
  have sent : ∀ queue, ConsoleStream.flow { stream with phase := .closed } queue =
      deliveries stream.sent := by
    intro queue
    unfold ConsoleStream.flow ConsoleStream.ahead
    rw [List.append_nil]
  have split : stream.flow (s.queueOf i) =
      deliveries stream.sent ++ deliveries (stream.ahead (s.queueOf i)) := deliveries_append _ _
  constructor
  · intro opening
    cases opening
  · intro rest sending
    cases sending
  · rw [sent]
    intro id mem
    apply follows.stored id
    rw [split]
    exact List.mem_append_left _ mem
  · have gapFree := follows.gapFree
    rw [split] at gapFree
    rw [sent]
    exact gapFree.of_append
  · exact False.elim

theorem Following.connect {session : UUID} {lastEventId : Option ConsoleEventId}
    (following : Following i s) (taken : s.step (.connect i session lastEventId) = some s') :
    Following i s' := by
  have queued := following.queued.step taken
  obtain ⟨absent, rfl⟩ := connect_eq taken
  refine following.here queued rfl rfl (Lib.Table.get?_set_self _ _ _) fun cursor named => ?_
  constructor
  · exact fun _ => rfl
  · intro rest sending
    cases sending
  · intro id sent
    cases sent
  · exact Lib.gapFree_nil
  · exact False.elim

/-- Every step keeps the stream after the log. -/
theorem Following.step {action : ConsoleAction F} (following : Following i s)
    (inTime : ResumesInTime i s action) (taken : ConsoleServer.step s action = some s') :
    Following i s' := by
  cases action with
  | record payload =>
      obtain ⟨idle, ⟨feed, rfl⟩ | ⟨feed, event, decoded, rfl⟩⟩ := record_eq taken
      · exact following.elsewhere rfl rfl rfl rfl
      · exact following.stored idle (by rw [decoded]; cases payload <;> rfl)
  | publish => exact following.publish inTime taken
  | storeSession session =>
      obtain rfl := Option.some.inj taken
      exact following.elsewhere rfl rfl rfl rfl
  | connect j session lastEventId =>
      by_cases here : i = j
      · subst here
        exact following.connect taken
      · obtain ⟨-, rfl⟩ := connect_eq taken
        exact following.elsewhere rfl rfl rfl (Lib.Table.get?_set_ne here)
  | read j replay =>
      by_cases here : i = j
      · subst here
        exact following.read inTime taken
      · obtain ⟨stream, -, -, rfl⟩ := read_eq taken
        exact following.elsewhere rfl rfl rfl (Lib.Table.get?_set_ne here)
  | yield j =>
      by_cases here : i = j
      · subst here
        exact following.yield taken
      · obtain ⟨stream, message, rest, -, -, rfl⟩ := yield_eq taken
        exact following.elsewhere rfl rfl rfl (Lib.Table.get?_set_ne here)
  | subscribe j =>
      by_cases here : i = j
      · subst here
        exact following.subscribe taken
      · obtain ⟨stream, -, -, rfl⟩ := subscribe_eq taken
        exact following.elsewhere rfl rfl (queue_subscribe_ne here) (Lib.Table.get?_set_ne here)
  | deliver j =>
      by_cases here : i = j
      · subst here
        exact following.deliver taken
      · obtain ⟨stream, session, item, items, -, -, rfl⟩ := deliver_eq taken
        exact following.elsewhere rfl rfl (queue_get_ne here) (Lib.Table.get?_set_ne here)
  | disconnect j =>
      by_cases here : i = j
      · subst here
        exact following.disconnect taken
      · obtain ⟨stream, -, rfl⟩ := disconnect_eq taken
        exact following.elsewhere rfl rfl (queue_unsubscribe_ne here) (Lib.Table.get?_set_ne here)

theorem following_initial {log : ConsoleLog F} (decoded : log.Decoded) (intervalSeconds : Int)
    (maxQueueSize i : Nat) : Following i (initial log intervalSeconds maxQueueSize) := by
  refine ⟨decoded, ?_, queued_initial log intervalSeconds maxQueueSize i, ?_⟩
  · intro event none
    cases none
  · intro stream held
    cases held

/-- The client is sent every event behind its id before any later one, unless it was
told to start over; and nothing is left out once there is nothing on its way. -/
theorem resume_gapFree {log : ConsoleLog F} (decoded : log.Decoded) {intervalSeconds : Int}
    {maxQueueSize : Nat} {actions : List (ConsoleAction F)}
    (run : Lib.Run step (ResumesInTime i) (initial log intervalSeconds maxQueueSize) actions s)
    (opened : s.streams.get? i = some stream) (resumes : stream.lastEventId = some cursor) :
    GapFree (s.log.idsBehind stream.session cursor) (deliveries stream.sent) ∧
      (Joined stream → s.queueOf i = [] → s.pending = none →
        Covers (s.log.idsBehind stream.session cursor) (deliveries stream.sent)) := by
  have following : Following i s := run.invariant (P := Following i)
    (fun _ _ _ following inTime taken => following.step inTime taken)
    (following_initial decoded intervalSeconds maxQueueSize i)
  have follows := following.follows stream opened cursor resumes
  have flow : stream.flow (s.queueOf i) =
      deliveries stream.sent ++ deliveries (stream.ahead (s.queueOf i)) := deliveries_append _ _
  constructor
  · have gapFree := follows.gapFree
    rw [flow] at gapFree
    exact gapFree.of_append
  · intro joined drained idle
    have covers := follows.covers joined.hasRead
    rw [drained, flow_of_joined joined] at covers
    refine covers.imp (by simp [deliveries]) fun all id mem => ?_
    rcases all id mem with sent | ⟨event, pending, -⟩
    · simpa [deliveries] using sent
    · rw [idle] at pending
      cases pending

end Step

/-! ### A score published at the wrong moment -/

instance (stream : ConsoleStream F) : Decidable (HasRead stream) := by
  dsimp only [HasRead]
  refine StreamPhase.casesOn stream.phase ?_ ?_ ?_ ?_ <;> intros <;> infer_instance

instance (i : Nat) (s : ConsoleServer F) (action : ConsoleAction F) :
    Decidable (ResumesInTime i s action) := by
  have reading (stream : ConsoleStream F) (p : Prop) [Decidable p] :
      Decidable (HasRead stream → p) :=
    forall_prop_decidable _
  refine ConsoleAction.casesOn action ?_ ?_ ?_ ?_ ?_ ?_ ?_ ?_ ?_ <;> intros <;>
    dsimp only [ResumesInTime] <;> infer_instance

/-- What a stream is behind, and what its client has been sent. -/
def progress (i : Nat) (cursor : ConsoleEventId) (s : ConsoleServer F) :
    Option (Option ConsoleEventId × List ConsoleEventId × List (Delivery ConsoleEventId)) :=
  (s.streams.get? i).map fun stream =>
    (stream.lastEventId, s.log.idsBehind stream.session cursor, deliveries stream.sent)

theorem resumed_gapFree : ∃ (s : ConsoleServer Int) (stream : ConsoleStream Int),
    s.streams.get? 0 = some stream ∧ deliveries stream.sent = [.item (.message 2), .item (.message 3)] ∧
      GapFree (s.log.idsBehind stream.session (.message 1)) (deliveries stream.sent) := by
  obtain ⟨s, run, reached⟩ := Lib.exists_run_of_exec (step (F := Int)) (ResumesInTime 0)
    (initial .empty 60 256)
    [.storeSession 1, .record (scoreRecord 1), .publish, .record (scoreRecord 2), .publish,
      .connect 0 1 (some (.message 1)), .read 0 (some ⟨1, .running, none, none, none⟩), .yield 0, .yield 0,
      .subscribe 0, .record (scoreRecord 3), .publish, .deliver 0]
    (fun s => s.progress 0 (.message 1) = some (some (.message 1),
      [.message 2, .message 3], [.item (.message 2), .item (.message 3)])) (by decide)
  obtain ⟨stream, opened, same⟩ := Option.map_eq_some_iff.mp reached
  obtain ⟨resumes, rest⟩ := Prod.mk.inj same
  exact ⟨s, stream, opened, (Prod.mk.inj rest).2,
    (resume_gapFree ConsoleLog.decoded_empty run opened resumes).1⟩

/-- The third score is published after the stream has read the store and before it has
joined the broker: the client is sent the second and the fourth. -/
theorem scoreBeforeJoining_lost : ∃ (s : ConsoleServer Int) (stream : ConsoleStream Int)
    (actions : List (ConsoleAction Int)),
    Lib.Run step Lib.Always (initial .empty 60 256) actions s ∧
      s.streams.get? 0 = some stream ∧ stream.lastEventId = some (.message 1) ∧
      ¬ GapFree (s.log.idsBehind stream.session (.message 1)) (deliveries stream.sent) := by
  obtain ⟨s, run, reached⟩ := Lib.exists_run_of_exec (step (F := Int)) Lib.Always
    (initial .empty 60 256)
    [.storeSession 1, .record (scoreRecord 1), .publish, .record (scoreRecord 2), .publish,
      .connect 0 1 (some (.message 1)), .read 0 (some ⟨1, .running, none, none, none⟩), .yield 0, .yield 0,
      .record (scoreRecord 3), .publish, .subscribe 0, .record (scoreRecord 4), .publish, .deliver 0]
    (fun s => s.progress 0 (.message 1) = some (some (.message 1),
      [.message 2, .message 3, .message 4], [.item (.message 2), .item (.message 4)])) (by decide)
  obtain ⟨stream, opened, same⟩ := Option.map_eq_some_iff.mp reached
  obtain ⟨resumes, rest⟩ := Prod.mk.inj same
  obtain ⟨behind, sent⟩ := Prod.mk.inj rest
  refine ⟨s, stream, _, run, opened, resumes, ?_⟩
  rw [behind, sent]
  intro gapFree
  have third := gapFree [.item (.message 2)] (.item (.message 4)) [] rfl (.message 4) rfl
  rcases third with reset | all
  · simp at reset
  · have lost := all [.message 2, .message 3] [] rfl (.message 3) (by simp)
    simp at lost

end ConsoleServer

end IndustrialReliability
