import IndustrialReliability.Console.Operator

/-!
What the operator sees against the log.

The scores on display are the last points of a run of the log that ends with its
newest score, as long as no score is published while the client has no live stream
and nothing is lost when a connection breaks (`view_reflects_log`). The client never
asks for what it has missed, so that otherwise the chart closes over the gap.
-/

namespace IndustrialReliability

variable {F : Type}

/-! ### Folding the messages -/

namespace ReplayStreamState

/-- The scores after a message. -/
def scoresAfter (scores : List (ScoreDecisionV1 F)) (message : SseMessage F) :
    List (ScoreDecisionV1 F) :=
  match message.scoreOf with
  | some decision => appendPoint scores decision
  | none => if message.isResync then [] else scores

theorem receive_scores (view : ReplayStreamState F) (message : SseMessage F) :
    (view.receive message).scores = scoresAfter view.scores message := by
  cases message with
  | snapshot replay => rfl
  | resyncRequired => rfl
  | event published =>
      unfold receive scoresAfter SseMessage.scoreOf
      dsimp only
      generalize published.payload = payload
      cases payload <;> simp only [SseMessage.isResync, Bool.false_eq_true, if_false]

theorem receive_replay (view : ReplayStreamState F) (message : SseMessage F) :
    (view.receive message).replay = match message with
      | .snapshot replay => replay <|> view.replay
      | _ => match message.statusOf with
        | some status => view.replay.map fun replay => updateReplay replay status
        | none => view.replay := by
  cases message with
  | snapshot replay => rfl
  | resyncRequired => rfl
  | event published =>
      unfold receive SseMessage.statusOf
      dsimp only
      cases published.payload <;> rfl

theorem lastPoints_lastPoints_append {α : Type} (points : List α) (point : α) :
    lastPoints (lastPoints points ++ [point]) = lastPoints (points ++ [point]) := by
  unfold lastPoints
  generalize MAX_CHART_POINTS = n
  have drop : points.drop (points.length - n) ++ [point] =
      (points ++ [point]).drop (points.length - n) := by
    rw [List.drop_append_of_le_length (Nat.sub_le _ _)]
  rw [drop, List.drop_drop]
  congr 1
  simp only [List.length_drop, List.length_append, List.length_singleton]
  omega

end ReplayStreamState

/-- A message that leaves the scores as they are. -/
def SseMessage.Harmless (message : SseMessage F) : Prop :=
  message.scoreOf = none ∧ message.isResync = false

instance (message : SseMessage F) : Decidable message.Harmless :=
  inferInstanceAs (Decidable (_ ∧ _))

open ReplayStreamState (scoresAfter lastPoints appendPoint)

theorem scoresAfter_of_harmless {message : SseMessage F} (harmless : message.Harmless)
    (scores : List (ScoreDecisionV1 F)) : scoresAfter scores message = scores := by
  unfold scoresAfter
  rw [harmless.1, harmless.2]
  rfl

theorem foldl_harmless {messages : List (SseMessage F)} (harmless : ∀ m ∈ messages, m.Harmless)
    (scores : List (ScoreDecisionV1 F)) : messages.foldl scoresAfter scores = scores := by
  induction messages with
  | nil => rfl
  | cons message messages ih =>
      rw [List.foldl_cons, scoresAfter_of_harmless (harmless _ List.mem_cons_self)]
      exact ih fun m mem => harmless m (List.mem_cons_of_mem _ mem)

theorem countP_harmless {messages : List (SseMessage F)} (harmless : ∀ m ∈ messages, m.Harmless) :
    messages.countP SseMessage.isResync = 0 := by
  rw [List.countP_eq_zero]
  intro message mem
  rw [(harmless message mem).2]
  exact Bool.false_ne_true

theorem harmless_snapshot (replay : Option ReplaySession) :
    (SseMessage.snapshot replay : SseMessage F).Harmless := ⟨rfl, rfl⟩

/-! ### A stream without a `Last-Event-ID` -/

namespace ConsoleServer

/-- A stream that was opened anew sends one snapshot and then what it is published. -/
structure OpensAnew (stream : ConsoleStream F) : Prop where
  unsent : stream.phase = .opening → stream.sent = []
  opens : ∀ rest, stream.phase = .sending rest →
    ∃ replay, stream.sent ++ rest = [.snapshot replay]
  once : ∀ message ∈ stream.sent.tail, ∀ replay, message ≠ .snapshot replay
  joined : Joined stream → stream.sent ≠ []

/-- The messages of a stream, those in its queue included. -/
def carried (s : ConsoleServer F) (i : Nat) : List (SseMessage F) :=
  ((s.streams.get? i).map (·.sent)).getD [] ++ (s.queueOf i).map QueueItem.encodeSse

/-- The queue of every stream and the shape of those opened anew. -/
structure Streams (s : ConsoleServer F) : Prop where
  queued : ∀ i, Queued i s
  anew : ∀ i stream, s.streams.get? i = some stream → stream.lastEventId = none → OpensAnew stream

variable {s s' : ConsoleServer F} {i j : Nat} {stream : ConsoleStream F}

theorem streams_initial (log : ConsoleLog F) (intervalSeconds : Int) (maxQueueSize : Nat) :
    Streams (initial log intervalSeconds maxQueueSize) := by
  refine ⟨queued_initial log intervalSeconds maxQueueSize, ?_⟩
  intro i stream held
  cases held

/-- One stream goes on. -/
theorem Streams.set (streams : Streams s) (queued : ∀ i, Queued i s')
    (set : s'.streams = s.streams.set j stream)
    (here : stream.lastEventId = none → OpensAnew stream) : Streams s' := by
  refine ⟨queued, fun i other held anew => ?_⟩
  rw [set] at held
  by_cases same : i = j
  · subst same
    rw [Lib.Table.get?_set_self] at held
    obtain rfl := Option.some.inj held
    exact here anew
  · rw [Lib.Table.get?_set_ne same] at held
    exact streams.anew i other held anew

theorem Streams.step {action : ConsoleAction F} (streams : Streams s)
    (taken : ConsoleServer.step s action = some s') : Streams s' := by
  have queued : ∀ i, Queued i s' := fun i => (streams.queued i).step taken
  cases action with
  | record payload =>
      obtain ⟨-, ⟨feed, rfl⟩ | ⟨feed, event, -, rfl⟩⟩ := record_eq taken
      · exact ⟨queued, streams.anew⟩
      · exact ⟨queued, streams.anew⟩
  | publish =>
      obtain ⟨event, -, rfl⟩ := Option.map_eq_some_iff.mp taken
      exact ⟨queued, streams.anew⟩
  | storeSession session =>
      obtain rfl := Option.some.inj taken
      exact ⟨queued, streams.anew⟩
  | connect j session lastEventId =>
      obtain ⟨-, rfl⟩ := connect_eq taken
      refine streams.set queued rfl fun _ => ⟨fun _ => rfl, ?_, ?_, False.elim⟩
      · intro rest sending
        cases sending
      · intro message mem
        cases mem
  | read j replay =>
      obtain ⟨stream, held, phase, rfl⟩ := read_eq taken
      refine streams.set queued rfl fun anew => ?_
      have anew : stream.lastEventId = none := anew
      have unsent := (streams.anew j stream held anew).unsent phase
      have messages : opening (s.missedEvents stream) stream.lastEventId replay = [.snapshot replay] := by
        rw [anew]
        rfl
      constructor
      · intro opening
        cases opening
      · intro rest sending
        obtain rfl := StreamPhase.sending.inj sending
        exact ⟨replay, by rw [unsent, messages]; rfl⟩
      · show ∀ message ∈ stream.sent.tail, _
        rw [unsent]
        intro message mem
        cases mem
      · exact False.elim
  | yield j =>
      obtain ⟨stream, message, rest, held, phase, rfl⟩ := yield_eq taken
      refine streams.set queued rfl fun anew => ?_
      obtain ⟨-, opens, once, -⟩ := streams.anew j stream held anew
      obtain ⟨replay, all⟩ := opens _ phase
      -- One message in all: what has been sent before it is nothing.
      obtain ⟨unsent, rfl, rfl⟩ : stream.sent = [] ∧ message = .snapshot replay ∧ rest = [] := by
        cases sent : stream.sent with
        | nil => simpa [sent] using all
        | cons first more => simp [sent] at all
      constructor
      · intro opening
        cases opening
      · intro more sending
        obtain rfl := StreamPhase.sending.inj sending
        exact ⟨replay, by rw [unsent]; rfl⟩
      · show ∀ message ∈ (stream.sent ++ [SseMessage.snapshot replay]).tail, _
        rw [unsent]
        intro message mem
        cases mem
      · exact False.elim
  | subscribe j =>
      obtain ⟨stream, held, phase, rfl⟩ := subscribe_eq taken
      refine streams.set queued rfl fun anew => ?_
      obtain ⟨-, opens, once, -⟩ := streams.anew j stream held anew
      obtain ⟨replay, all⟩ := opens _ phase
      refine ⟨fun opening => (nomatch opening), fun rest sending => (nomatch sending), once,
        fun _ none => ?_⟩
      rw [show stream.sent = [] from none] at all
      cases all
  | deliver j =>
      obtain ⟨stream, session, item, items, held, queue, rfl⟩ := deliver_eq taken
      refine streams.set queued rfl fun anew => ?_
      have joined : Joined stream := by
        by_contra apart
        rw [(streams.queued j).apart stream held apart] at queue
        cases queue
      obtain ⟨-, -, once, started⟩ := streams.anew j stream held anew
      have nonempty := started joined
      refine ⟨?_, ?_, ?_, fun _ => List.append_ne_nil_of_left_ne_nil nonempty _⟩
      · intro opening
        rw [joined.phase_eq] at opening
        cases opening
      · intro rest sending
        rw [joined.phase_eq] at sending
        cases sending
      · show ∀ message ∈ (stream.sent ++ [item.encodeSse]).tail, _
        rw [List.tail_append_of_ne_nil nonempty]
        intro message mem replay
        rcases List.mem_append.mp mem with mem | last
        · exact once message mem replay
        · rw [List.mem_singleton.mp last]
          intro same
          cases item <;> cases same
  | disconnect j =>
      obtain ⟨stream, held, rfl⟩ := disconnect_eq taken
      refine streams.set queued rfl fun anew => ?_
      exact ⟨fun opening => (nomatch opening), fun rest sending => (nomatch sending),
        (streams.anew j stream held anew).once, False.elim⟩

/-! ### What a stream carries -/

theorem carried_eq (held : s.streams.get? i = some stream) :
    s.carried i = stream.sent ++ (s.queueOf i).map QueueItem.encodeSse := by
  unfold carried
  rw [held]
  rfl

theorem queueOf_congr (queue : s'.broker.queue i = s.broker.queue i) :
    s'.queueOf i = s.queueOf i := by
  unfold queueOf
  rw [queue]

theorem queueOf_of_queue {session : UUID} {items : List (QueueItem F)}
    (queue : s.broker.queue i = some (session, items)) : s.queueOf i = items := by
  unfold queueOf
  rw [queue]
  rfl

theorem Queued.queueOf_apart (queued : Queued i s) (held : s.streams.get? i = some stream)
    (apart : ¬ Joined stream) : s.queueOf i = [] := by
  unfold queueOf
  rw [queued.apart stream held apart]
  rfl

/-- The stream goes on as another, with the same client. -/
structure Continues (i : Nat) (stream stream' : ConsoleStream F) (s' : ConsoleServer F) : Prop where
  held : s'.streams.get? i = some stream'
  session : stream'.session = stream.session
  lastEventId : stream'.lastEventId = stream.lastEventId
  sent : stream.sent <+: stream'.sent

/-- Apart from a publication, an action leaves what a stream carries as it is, adds a
snapshot, or drops its queue. -/
theorem carried_step {action : ConsoleAction F} (streams : Streams s)
    (taken : ConsoleServer.step s action = some s') (held : s.streams.get? i = some stream)
    (anew : stream.lastEventId = none) (quiet : action ≠ .publish) :
    ∃ stream', Continues i stream stream' s' ∧
      (s'.carried i = s.carried i ∨ (∃ replay, s'.carried i = s.carried i ++ [.snapshot replay]) ∨
        action = .disconnect i ∧ s'.carried i = stream.sent) := by
  have still : Continues i stream stream s' ∧ s'.broker.queue i = s.broker.queue i →
      ∃ stream', Continues i stream stream' s' ∧ (s'.carried i = s.carried i ∨
        (∃ replay, s'.carried i = s.carried i ++ [.snapshot replay]) ∨
          action = .disconnect i ∧ s'.carried i = stream.sent) := by
    rintro ⟨continues, queue⟩
    refine ⟨stream, continues, .inl ?_⟩
    rw [carried_eq continues.held, carried_eq held, queueOf_congr queue]
  cases action with
  | publish => exact absurd rfl quiet
  | record payload =>
      obtain ⟨-, ⟨feed, rfl⟩ | ⟨feed, event, -, rfl⟩⟩ := record_eq taken
      · exact still ⟨⟨held, rfl, rfl, List.prefix_rfl⟩, rfl⟩
      · exact still ⟨⟨held, rfl, rfl, List.prefix_rfl⟩, rfl⟩
  | storeSession session =>
      obtain rfl := Option.some.inj taken
      exact still ⟨⟨held, rfl, rfl, List.prefix_rfl⟩, rfl⟩
  | connect j session lastEventId =>
      obtain ⟨absent, rfl⟩ := connect_eq taken
      have other : i ≠ j := by
        rintro rfl
        rw [held] at absent
        cases absent
      exact still ⟨⟨(Lib.Table.get?_set_ne other).trans held, rfl, rfl, List.prefix_rfl⟩, rfl⟩
  | read j replay =>
      obtain ⟨own, itself, phase, rfl⟩ := read_eq taken
      by_cases here : i = j
      · subst here
        obtain rfl := Option.some.inj (held.symm.trans itself)
        refine ⟨_, ⟨Lib.Table.get?_set_self _ _ _, rfl, rfl, List.prefix_rfl⟩, .inl ?_⟩
        rw [carried_eq (Lib.Table.get?_set_self _ _ _), carried_eq held]
        rfl
      · exact still ⟨⟨(Lib.Table.get?_set_ne here).trans held, rfl, rfl, List.prefix_rfl⟩, rfl⟩
  | yield j =>
      obtain ⟨own, message, rest, itself, phase, rfl⟩ := yield_eq taken
      by_cases here : i = j
      · subst here
        obtain rfl := Option.some.inj (held.symm.trans itself)
        refine ⟨_, ⟨Lib.Table.get?_set_self _ _ _, rfl, rfl, List.prefix_append _ _⟩, .inr (.inl ?_)⟩
        obtain ⟨replay, all⟩ := (streams.anew i stream held anew).opens _ phase
        have last : message = .snapshot replay := by
          cases sent : stream.sent with
          | nil => exact (List.cons.inj (by simpa [sent] using all)).1
          | cons first more => simp [sent] at all
        have queue := (streams.queued i).queueOf_apart held (not_joined_of_sending phase)
        refine ⟨replay, ?_⟩
        have queue' : (s.withStream i
            { stream with phase := .sending rest, sent := stream.sent ++ [message] }).queueOf i = [] :=
          queue
        rw [carried_eq (Lib.Table.get?_set_self _ _ _), carried_eq held, queue', queue, last]
        simp
      · exact still ⟨⟨(Lib.Table.get?_set_ne here).trans held, rfl, rfl, List.prefix_rfl⟩, rfl⟩
  | subscribe j =>
      obtain ⟨own, itself, phase, rfl⟩ := subscribe_eq taken
      by_cases here : i = j
      · subst here
        obtain rfl := Option.some.inj (held.symm.trans itself)
        refine ⟨_, ⟨Lib.Table.get?_set_self _ _ _, rfl, rfl, List.prefix_rfl⟩, .inl ?_⟩
        rw [carried_eq (Lib.Table.get?_set_self _ _ _), carried_eq held,
          (streams.queued i).queueOf_apart held (not_joined_of_sending phase),
          queueOf_of_queue queue_subscribe_self]
      · exact still ⟨⟨(Lib.Table.get?_set_ne here).trans held, rfl, rfl, List.prefix_rfl⟩,
          queue_subscribe_ne here⟩
  | deliver j =>
      obtain ⟨own, session, item, items, itself, queue, rfl⟩ := deliver_eq taken
      by_cases here : i = j
      · subst here
        obtain rfl := Option.some.inj (held.symm.trans itself)
        refine ⟨_, ⟨Lib.Table.get?_set_self _ _ _, rfl, rfl, List.prefix_append _ _⟩, .inl ?_⟩
        have after : (s.broker.get i).queue i = some (session, items) := by
          rw [queue_get_self, queue]
          rfl
        rw [carried_eq (Lib.Table.get?_set_self _ _ _), carried_eq held, queueOf_of_queue after,
          queueOf_of_queue queue]
        simp
      · exact still ⟨⟨(Lib.Table.get?_set_ne here).trans held, rfl, rfl, List.prefix_rfl⟩,
          queue_get_ne here⟩
  | disconnect j =>
      obtain ⟨own, itself, rfl⟩ := disconnect_eq taken
      by_cases here : i = j
      · subst here
        obtain rfl := Option.some.inj (held.symm.trans itself)
        refine ⟨_, ⟨Lib.Table.get?_set_self _ _ _, rfl, rfl, List.prefix_rfl⟩, .inr (.inr ⟨rfl, ?_⟩)⟩
        have empty : ConsoleServer.queueOf { s.withStream i { stream with phase := .closed } with
            broker := s.broker.unsubscribe i } i = [] := by
          unfold queueOf
          rw [queue_unsubscribe_self]
          rfl
        rw [carried_eq (Lib.Table.get?_set_self _ _ _), empty]
        exact List.append_nil _
      · exact still ⟨⟨(Lib.Table.get?_set_ne here).trans held, rfl, rfl, List.prefix_rfl⟩,
          queue_unsubscribe_ne here⟩

/-- A publication reaches the queues of its session. -/
theorem queueOf_publish {event : ConsoleEventV1 F} (queued : Queued i s)
    (held : s.streams.get? i = some stream) :
    ConsoleServer.queueOf { s with broker := s.broker.publish event, pending := none } i =
      if Joined stream ∧ stream.session = event.replaySessionId then
        ConsoleEventBroker.put s.broker.maxQueueSize event (s.queueOf i) else s.queueOf i := by
  by_cases joined : Joined stream
  · have queue : (s.broker.publish event).queue i = some (stream.session,
        if stream.session = event.replaySessionId then
          ConsoleEventBroker.put s.broker.maxQueueSize event (s.queueOf i) else s.queueOf i) := by
      rw [queue_publish, queued.joined stream held joined]
      rfl
    rw [queueOf_of_queue queue]
    by_cases mine : stream.session = event.replaySessionId
    · rw [if_pos mine, if_pos ⟨joined, mine⟩]
    · rw [if_neg mine, if_neg fun both => mine both.2]
  · rw [if_neg fun both => joined both.1]
    refine queueOf_congr ?_
    show (s.broker.publish event).queue i = _
    rw [queue_publish, queued.apart stream held joined]
    rfl

end ConsoleServer

/-! ### The scores of the log -/

/-- The score an event shows to a client of the session. -/
def ConsoleEventV1.scoreFor (session : UUID) (event : ConsoleEventV1 F) : List (ScoreDecisionV1 F) :=
  if event.replaySessionId = session then (SseMessage.event event).scoreOf.toList else []

theorem ConsoleLog.scores_inserted (log : ConsoleLog F) (session : UUID) (event : ConsoleEventV1 F) :
    (log.inserted event).scores session =
      log.scores session ++ if log.get? event.eventId = none then event.scoreFor session else [] := by
  unfold scores ofSession inserted
  cases held : log.get? event.eventId with
  | some old =>
      rw [Lib.Table.insertNew_of_some held, if_neg (Option.some_ne_none old), List.append_nil]
  | none =>
      rw [Lib.Table.insertNew_values held, List.filter_append, List.filterMap_append, if_pos rfl]
      congr 1
      unfold ConsoleEventV1.scoreFor
      by_cases mine : event.replaySessionId = session
      · rw [List.filter_cons_of_pos (by simpa using mine), if_pos mine]
        cases score : (SseMessage.event event).scoreOf <;> simp [score]
      · rw [List.filter_cons_of_neg (by simpa using mine), if_neg mine]
        rfl

/-- A record that is no score, or a score with an id of its own. -/
theorem ConsoleLog.scores_stored {log : ConsoleLog F} {session : UUID} {payload : ConsolePayload F}
    (fresh : ∀ decision, payload = .score decision → decision.replaySessionId = session →
      log.get? (.message decision.decisionId) = none) :
    (ConsoleFeed.stored log (ConsoleFeed.decode payload)).scores session =
      log.scores session ++ (ConsoleFeed.decode payload).scoreFor session := by
  have scored : (ConsoleFeed.decode payload).scoreFor session = [] ∨
      (ConsoleFeed.decode payload).durable = true ∧
        log.get? (ConsoleFeed.decode payload).eventId = none := by
    cases payload with
    | score decision =>
        by_cases mine : decision.replaySessionId = session
        · exact .inr ⟨rfl, fresh decision rfl mine⟩
        · exact .inl (if_neg mine)
    | _ =>
        left
        unfold ConsoleEventV1.scoreFor
        split <;> rfl
  unfold ConsoleFeed.stored
  rcases scored with none | ⟨durable, free⟩
  · rw [none, List.append_nil]
    split
    · rw [scores_inserted, none, ite_self, List.append_nil]
    · rfl
  · rw [if_pos durable, scores_inserted, if_pos free]

namespace OperatorConsole

/-- What is on its way to the client. -/
def coming (s : OperatorConsole F) : List (SseMessage F) :=
  match s.eventSource with
  | some i => (s.server.carried i).drop s.received
  | none => []

/-- The score that is in the log and about to be published. -/
def due (s : OperatorConsole F) : List (ScoreDecisionV1 F) :=
  match s.server.pending with
  | some event => event.scoreFor s.session
  | none => []

/-- The client is connected and nothing is on its way to it. -/
structure Settled (s : OperatorConsole F) : Prop where
  connected : s.eventSource ≠ none
  arrived : s.coming = []
  published : s.due = []

/-- The chart shows the end of the log, back to the first connection or the last
`resync_required` at least, as far as it fits. -/
def ShowsScores (s : OperatorConsole F) : Prop :=
  ∃ first, (∃ n, s.since = some n ∧ first ≤ n) ∧
    s.view.scores = lastPoints ((s.server.log.scores s.session).drop first)

/-- The state on display is that of the last status that arrived over the connection. -/
def ShowsStatus (s : OperatorConsole F) : Prop :=
  ∀ stream ∈ s.stream, ∀ status ∈ ((stream.sent.take s.received).filterMap SseMessage.statusOf).getLast?,
    s.view.replay.map (·.state) = some status.state

/-- A score of the session is recorded once, and published only to a live stream once
the client has connected; a status arrives at a client that shows a replay; and what
is lost with a connection is neither a score nor a `resync_required`. -/
def ShownInTime (s : OperatorConsole F) : OperatorAction F → Prop
  | .server (.record payload) => ∀ decision, payload = .score decision →
      decision.replaySessionId = s.session →
        s.server.log.get? (.message decision.decisionId) = none
  | .server .publish => s.since ≠ none → s.due ≠ [] → ∃ stream ∈ s.stream, ConsoleServer.Joined stream
  | .server (.disconnect i) => s.eventSource = some i →
      ∀ item ∈ s.server.queueOf i, item.encodeSse.Harmless
  | .message => ∀ message ∈ s.wire.head?, message.statusOf ≠ none → s.view.replay ≠ none
  | .error => ∀ message ∈ s.coming, message.Harmless
  | _ => True

/-! ### The invariant -/

/-- The stream of the client. -/
structure Connected (s : OperatorConsole F) : Prop where
  streams : ConsoleServer.Streams s.server
  source : ∀ i, s.eventSource = some i → ∃ stream, s.server.streams.get? i = some stream ∧
    stream.session = s.session ∧ stream.lastEventId = none ∧ s.received ≤ stream.sent.length

/-- Once all that is on its way has arrived the chart shows what has been published. -/
structure Charted (s : OperatorConsole F) : Prop where
  unstarted : s.since = none → s.eventSource = none ∧ s.view.scores = []
  marks : s.marks.length = s.coming.countP SseMessage.isResync
  scores : ∃ published, s.server.log.scores s.session = published ++ s.due ∧
    ∀ n, s.since = some n → ∃ first, first ≤ published.length ∧ first ≤ s.marks.getLast?.getD n ∧
      s.coming.foldl scoresAfter s.view.scores = lastPoints (published.drop first)

section Step

variable {s s' : OperatorConsole F} {i : Nat} {stream : ConsoleStream F}

theorem stream_eq (source : s.eventSource = some i) : s.stream = s.server.streams.get? i := by
  unfold OperatorConsole.stream
  rw [source]
  rfl

theorem coming_eq (source : s.eventSource = some i) :
    s.coming = (s.server.carried i).drop s.received := by
  unfold coming
  rw [source]

theorem coming_eq_wire (source : s.eventSource = some i) (held : s.server.streams.get? i = some stream)
    (within : s.received ≤ stream.sent.length) :
    s.coming = s.wire ++ (s.server.queueOf i).map QueueItem.encodeSse := by
  unfold wire
  rw [coming_eq source, ConsoleServer.carried_eq held, stream_eq source, held]
  exact List.drop_append_of_le_length within

/-- The same scores come of both, and the same resets. -/
structure Alike (messages messages' : List (SseMessage F)) : Prop where
  scores : ∀ scores, messages'.foldl scoresAfter scores = messages.foldl scoresAfter scores
  resyncs : messages'.countP SseMessage.isResync = messages.countP SseMessage.isResync

theorem alike_append {messages more : List (SseMessage F)} (harmless : ∀ m ∈ more, m.Harmless) :
    Alike messages (messages ++ more) := by
  constructor
  · intro scores
    rw [List.foldl_append, foldl_harmless harmless]
  · rw [List.countP_append, countP_harmless harmless, Nat.add_zero]

theorem Alike.symm {messages messages' : List (SseMessage F)} (alike : Alike messages messages') :
    Alike messages' messages :=
  ⟨fun scores => (alike.scores scores).symm, alike.resyncs.symm⟩

/-- Nothing is published and what is on its way shows the same. -/
theorem Charted.congr (charted : Charted s) (started : s'.since = s.since)
    (session : s'.session = s.session) (scores : s'.view.scores = s.view.scores)
    (source : s.since = none → s'.eventSource = none) (marks : s'.marks = s.marks)
    (log : s'.server.log = s.server.log) (pending : s'.server.pending = s.server.pending)
    (coming : Alike s.coming s'.coming) : Charted s' := by
  obtain ⟨unstarted, count, published, all, runs⟩ := charted
  have due : s'.due = s.due := by
    unfold OperatorConsole.due
    rw [pending, session]
  constructor
  · intro none
    rw [started] at none
    rw [scores]
    exact ⟨source none, (unstarted none).2⟩
  · rw [marks, coming.resyncs]
    exact count
  · refine ⟨published, by rw [log, session, due]; exact all, fun n since => ?_⟩
    rw [started] at since
    obtain ⟨first, inside, reach, shows⟩ := runs n since
    refine ⟨first, inside, by rw [marks]; exact reach, ?_⟩
    rw [scores, coming.scores]
    exact shows

/-! ### The actions -/

theorem serve_eq {action : ConsoleAction F} (taken : s.serve action = some s') :
    ∃ server, s.server.step action = some server ∧
      ((action = .publish → s.overflows = false) ∧ s' = { s with server } ∨
      action = .publish ∧ s.overflows = true ∧ s' = { s with
        server
        marks := s.marks.take (s.wire.countP SseMessage.isResync) ++
          [(s.server.log.scores s.session).length] }) := by
  obtain ⟨server, stepped, rfl⟩ := Option.map_eq_some_iff.mp taken
  refine ⟨server, stepped, ?_⟩
  split
  · split
    · rename_i full
      exact .inr ⟨rfl, full, rfl⟩
    · rename_i room
      exact .inl ⟨fun _ => Bool.eq_false_iff.mpr room, rfl⟩
  · rename_i other
    exact .inl ⟨fun published => absurd published other, rfl⟩

theorem connect_eq (taken : s.connect i = some s') : s.eventSource = none ∧
    ∃ server, s.server.connect i s.session none = some server ∧ s' = { s with
      server
      view := { s.view with connectionStatus :=
        if s.view.connectionStatus = .disconnected then .connecting else .reconnecting }
      eventSource := some i
      received := 0
      since := s.since <|> some (s.server.log.scores s.session).length
      marks := [] } := by
  unfold connect at taken
  cases source : s.eventSource with
  | some old =>
      rw [source] at taken
      cases taken
  | none =>
      rw [source] at taken
      obtain ⟨server, connected, rfl⟩ := Option.map_eq_some_iff.mp taken
      exact ⟨rfl, server, connected, rfl⟩

theorem message_eq (taken : s.message = some s') : ∃ message rest, s.wire = message :: rest ∧
    s' = { s with
      view := s.view.receive message
      received := s.received + 1
      since := if message.isResync then s.marks.head? else s.since
      marks := if message.isResync then s.marks.tail else s.marks } := by
  unfold message at taken
  split at taken
  · cases taken
  · rename_i message rest wire
    exact ⟨message, rest, wire, (Option.some.inj taken).symm⟩

/-- What arrives has been sent. -/
theorem wire_cons {message : SseMessage F} {rest : List (SseMessage F)} (connected : Connected s)
    (wire : s.wire = message :: rest) : ∃ i stream, s.eventSource = some i ∧
      s.server.streams.get? i = some stream ∧ stream.lastEventId = none ∧
        stream.sent.drop s.received = message :: rest := by
  cases source : s.eventSource with
  | none =>
      unfold OperatorConsole.wire OperatorConsole.stream at wire
      rw [source] at wire
      cases wire
  | some i =>
      obtain ⟨stream, held, -, anew, -⟩ := connected.source i source
      unfold OperatorConsole.wire at wire
      rw [stream_eq source, held] at wire
      exact ⟨i, stream, rfl, held, anew, wire⟩

/-- A server's step, the client as it is. -/
theorem Connected.serve {action : ConsoleAction F} {server : ConsoleServer F} (connected : Connected s)
    (stepped : s.server.step action = some server) (streams : s'.server = server)
    (session : s'.session = s.session) (source : s'.eventSource = s.eventSource)
    (received : s'.received = s.received) : Connected s' := by
  refine ⟨streams ▸ connected.streams.step stepped, fun i at_ => ?_⟩
  rw [source] at at_
  obtain ⟨stream, held, own, anew, within⟩ := connected.source i at_
  rw [streams, session, received]
  by_cases published : action = .publish
  · subst published
    obtain ⟨event, -, rfl⟩ := Option.map_eq_some_iff.mp stepped
    exact ⟨stream, held, own, anew, within⟩
  · obtain ⟨stream', continues, -⟩ :=
      ConsoleServer.carried_step connected.streams stepped held anew published
    exact ⟨stream', continues.held, continues.session.trans own, continues.lastEventId.trans anew,
      within.trans continues.sent.length_le⟩

theorem Connected.step {action : OperatorAction F} (connected : Connected s)
    (taken : OperatorConsole.step s action = some s') : Connected s' := by
  cases action with
  | server action =>
      obtain ⟨server, stepped, ⟨-, rfl⟩ | ⟨-, -, rfl⟩⟩ := serve_eq taken
      · exact connected.serve stepped rfl rfl rfl rfl
      · exact connected.serve stepped rfl rfl rfl rfl
  | connect j =>
      obtain ⟨-, server, accepted, rfl⟩ := connect_eq taken
      have stepped : s.server.step (.connect j s.session none) = some server := accepted
      refine ⟨connected.streams.step stepped, fun i source => ?_⟩
      obtain rfl := Option.some.inj source
      obtain ⟨-, rfl⟩ := ConsoleServer.connect_eq accepted
      exact ⟨_, Lib.Table.get?_set_self _ _ _, rfl, rfl, Nat.zero_le _⟩
  | opened =>
      obtain ⟨_, -, rfl⟩ := Option.map_eq_some_iff.mp taken
      exact ⟨connected.streams, connected.source⟩
  | message =>
      obtain ⟨message, rest, wire, rfl⟩ := message_eq taken
      obtain ⟨i, stream, source, held, -, arriving⟩ := wire_cons connected wire
      refine ⟨connected.streams, fun j at_ => ?_⟩
      obtain rfl := Option.some.inj (source.symm.trans at_)
      obtain ⟨own, itself, session, anew, -⟩ := connected.source i source
      obtain rfl := Option.some.inj (held.symm.trans itself)
      refine ⟨stream, held, session, anew, ?_⟩
      have more := congrArg List.length arriving
      rw [List.length_drop, List.length_cons] at more
      show s.received + 1 ≤ stream.sent.length
      omega
  | error =>
      obtain ⟨_, -, rfl⟩ := Option.map_eq_some_iff.mp taken
      exact ⟨connected.streams, fun i source => nomatch source⟩

/-- The feed appends an event. -/
theorem Charted.record {payload : ConsolePayload F} (charted : Charted s)
    (inTime : ShownInTime s (.server (.record payload)))
    (taken : s.serve (.record payload) = some s') : Charted s' := by
  obtain ⟨server, stepped, ⟨-, rfl⟩ | ⟨other, -⟩⟩ := serve_eq taken
  · obtain ⟨idle, ⟨feed, rfl⟩ | ⟨feed, event, rfl, rfl⟩⟩ := ConsoleServer.record_eq stepped
    · exact charted.congr rfl rfl rfl (fun none => (charted.unstarted none).1) rfl rfl rfl
        ⟨fun _ => rfl, rfl⟩
    · obtain ⟨unstarted, marks, published, all, runs⟩ := charted
      refine ⟨unstarted, marks, published, ?_, runs⟩
      have none : s.due = [] := by
        unfold due
        rw [idle]
      rw [none, List.append_nil] at all
      show (ConsoleFeed.stored s.server.log (ConsoleFeed.decode payload)).scores s.session = _
      rw [ConsoleLog.scores_stored inTime, all]
      rfl
  · cases other

/-- A published score comes behind the others. -/
theorem lastPoints_concat {published : List (ScoreDecisionV1 F)} {first : Nat}
    (inside : first ≤ published.length) (decision : ScoreDecisionV1 F) :
    appendPoint (lastPoints (published.drop first)) decision =
      lastPoints ((published ++ [decision]).drop first) := by
  unfold appendPoint
  rw [ReplayStreamState.lastPoints_lastPoints_append, List.drop_append_of_le_length inside]

/-- What is published is on its way. -/
theorem Charted.published {event : ConsoleEventV1 F} (charted : Charted s)
    (pending : s.server.pending = some event) (idle : s'.server.pending = none)
    (log : s'.server.log = s.server.log) (session : s'.session = s.session)
    (source : s.since = none → s'.eventSource = none) (started : s'.since = s.since)
    (scores : s'.view.scores = s.view.scores) (marks : s'.marks = s.marks)
    (coming : s'.coming = s.coming ++ [.event event]) (mine : event.replaySessionId = s.session) :
    Charted s' := by
  obtain ⟨unstarted, count, published, all, runs⟩ := charted
  have due : s.due = (SseMessage.event event).scoreOf.toList := by
    unfold OperatorConsole.due ConsoleEventV1.scoreFor
    rw [pending]
    exact if_pos mine
  have none : s'.due = [] := by
    unfold OperatorConsole.due
    rw [idle]
  constructor
  · intro unset
    rw [started] at unset
    rw [scores]
    exact ⟨source unset, (unstarted unset).2⟩
  · rw [marks, coming, List.countP_append, count]
    rfl
  · refine ⟨s.server.log.scores s.session, by rw [log, session, none, List.append_nil], ?_⟩
    intro n since
    rw [started] at since
    obtain ⟨first, inside, reach, shows⟩ := runs n since
    refine ⟨first, ?_, by rw [marks]; exact reach, ?_⟩
    · rw [all, List.length_append]
      omega
    · rw [coming, scores, List.foldl_append, shows, all, due, List.foldl_cons, List.foldl_nil]
      unfold scoresAfter
      cases scored : (SseMessage.event event).scoreOf with
      | none =>
          rw [Option.toList_none, List.append_nil]
          rfl
      | some decision => exact lastPoints_concat inside decision

/-- A full queue is drained: the chart starts over behind what is in the log. -/
theorem Charted.drained (charted : Charted s) (started : s.since ≠ none)
    (idle : s'.server.pending = none) (log : s'.server.log = s.server.log)
    (session : s'.session = s.session) (since : s'.since = s.since)
    (marks : s'.marks = s.marks.take (s.wire.countP SseMessage.isResync) ++
      [(s.server.log.scores s.session).length])
    (wire : s.wire.countP SseMessage.isResync ≤ s.coming.countP SseMessage.isResync)
    (coming : s'.coming = s.wire ++ [.resyncRequired]) : Charted s' := by
  have none : s'.due = [] := by
    unfold OperatorConsole.due
    rw [idle]
  constructor
  · intro unset
    rw [since] at unset
    exact absurd unset started
  · rw [marks, coming, List.length_append, List.length_take, charted.marks, List.countP_append,
      Nat.min_eq_left wire]
    rfl
  · refine ⟨s.server.log.scores s.session, by rw [log, session, none, List.append_nil], ?_⟩
    intro n _
    refine ⟨(s.server.log.scores s.session).length, Nat.le_refl _, ?_, ?_⟩
    · rw [marks, List.getLast?_concat]
      exact Nat.le_refl _
    · rw [coming, List.foldl_append, List.drop_length]
      rfl

/-- A publication that is not for the stream of the client. -/
theorem Charted.elsewhere (charted : Charted s) (due : s.due = []) (idle : s'.server.pending = none)
    (log : s'.server.log = s.server.log) (session : s'.session = s.session)
    (source : s'.eventSource = s.eventSource) (since : s'.since = s.since) (view : s'.view = s.view)
    (marks : s'.marks = s.marks) (coming : s'.coming = s.coming) : Charted s' := by
  obtain ⟨unstarted, count, published, all, runs⟩ := charted
  have none : s'.due = [] := by
    unfold OperatorConsole.due
    rw [idle]
  refine ⟨?_, ?_, published, ?_, ?_⟩
  · rw [since, source, view]
    exact unstarted
  · rw [marks, coming]
    exact count
  · rw [log, session, none, all, due]
  · rw [since, marks, coming, view]
    exact runs

theorem overflows_eq {event : ConsoleEventV1 F} {session : UUID} {items : List (QueueItem F)}
    (pending : s.server.pending = some event) (source : s.eventSource = some i)
    (queue : s.server.broker.queue i = some (session, items)) :
    s.overflows = decide (session = event.replaySessionId ∧ s.server.broker.maxQueueSize ≠ 0 ∧
      s.server.broker.maxQueueSize ≤ items.length) := by
  unfold overflows
  rw [pending, source]
  dsimp only
  rw [queue]

/-- No queue of the client is full when it has none. -/
theorem overflows_of_apart (none : ∀ i, s.eventSource = some i → s.server.broker.queue i = none) :
    s.overflows = false := by
  unfold overflows
  split
  · rename_i source
    rw [none _ source]
  · rfl

theorem Charted.publish (charted : Charted s) (connected : Connected s)
    (inTime : ShownInTime s (.server .publish)) (taken : s.serve .publish = some s') : Charted s' := by
  obtain ⟨server, stepped, shape⟩ := serve_eq taken
  obtain ⟨event, pending, rfl⟩ := Option.map_eq_some_iff.mp stepped
  by_cases started : s.since = none
  · obtain ⟨source, empty⟩ := charted.unstarted started
    have quiet : s.overflows = false := overflows_of_apart fun i at_ => by
      rw [source] at at_
      cases at_
    have same : s' = { s with
        server := { s.server with broker := s.server.broker.publish event, pending := none } } := by
      rcases shape with ⟨-, same⟩ | ⟨-, full, -⟩
      · exact same
      · rw [quiet] at full
        cases full
    subst same
    have none : s.coming = [] := by
      unfold coming
      rw [source]
    refine ⟨fun _ => ⟨source, empty⟩, ?_, _, (List.append_nil _).symm, ?_⟩
    · have count := charted.marks
      rw [none] at count
      show s.marks.length = _
      rw [count]
      unfold coming
      rw [source]
    · intro n since
      rw [show s.since = some n from since] at started
      cases started
  · -- Not for the client: no score of the session is due.
    have unheard : s.due = [] → s.overflows = false →
        (∀ i, s.eventSource = some i → ConsoleServer.carried
          { s.server with broker := s.server.broker.publish event, pending := none } i =
            s.server.carried i) → Charted s' := by
      intro due quiet same
      rcases shape with ⟨-, rfl⟩ | ⟨-, full, -⟩
      · refine charted.elsewhere due rfl rfl rfl rfl rfl rfl rfl ?_
        unfold coming
        dsimp only
        split
        · rename_i i source
          rw [same i source]
        · rfl
      · rw [quiet] at full
        cases full
    cases source : s.eventSource with
    | none =>
        have absent : ∀ i, s.eventSource ≠ some i := fun i at_ => by
          rw [source] at at_
          cases at_
        refine unheard ?_ (overflows_of_apart fun i at_ => absurd at_ (absent i))
          fun i at_ => absurd at_ (absent i)
        by_contra due
        obtain ⟨stream, held, -⟩ := inTime started due
        unfold OperatorConsole.stream at held
        rw [source] at held
        cases held
    | some i =>
        obtain ⟨stream, held, own, anew, within⟩ := connected.source i source
        have queued := connected.streams.queued i
        have reaches : ConsoleServer.queueOf
            { s.server with broker := s.server.broker.publish event, pending := none } i = _ :=
          ConsoleServer.queueOf_publish queued held
        have carried : ConsoleServer.carried
            { s.server with broker := s.server.broker.publish event, pending := none } i =
              stream.sent ++ (ConsoleServer.queueOf
                { s.server with broker := s.server.broker.publish event, pending := none } i).map
                  QueueItem.encodeSse := ConsoleServer.carried_eq held
        by_cases heard : ConsoleServer.Joined stream ∧ stream.session = event.replaySessionId
        · have full := overflows_eq pending source (queued.joined stream held heard.1)
          rw [if_pos heard] at reaches
          rw [reaches] at carried
          by_cases room : s.server.broker.maxQueueSize = 0 ∨
              (s.server.queueOf i).length < s.server.broker.maxQueueSize
          · have quiet : s.overflows = false := by
              rw [full, decide_eq_false_iff_not]
              omega
            rcases shape with ⟨-, rfl⟩ | ⟨-, full, -⟩
            · refine charted.published pending rfl rfl rfl (fun none => absurd none started) rfl rfl rfl
                ?_ (heard.2.symm.trans own)
              rw [coming_eq_wire source held within]
              unfold coming
              dsimp only
              rw [source]
              dsimp only
              rw [carried, ConsoleEventBroker.put, if_pos room, List.map_append, ← List.append_assoc,
                List.drop_append_of_le_length (by rw [List.length_append]; omega),
                List.drop_append_of_le_length within]
              unfold wire
              rw [stream_eq source, held]
              rfl
            · rw [quiet] at full
              cases full
          · have overflown : s.overflows = true := by
              rw [full, decide_eq_true_iff]
              exact ⟨heard.2, by omega⟩
            rcases shape with ⟨quiet, -⟩ | ⟨-, -, rfl⟩
            · rw [quiet rfl] at overflown
              cases overflown
            · refine charted.drained started rfl rfl rfl rfl rfl ?_ ?_
              · rw [coming_eq_wire source held within, List.countP_append]
                exact Nat.le_add_right _ _
              · unfold coming
                dsimp only
                rw [source]
                dsimp only
                rw [carried, ConsoleEventBroker.put, if_neg room, List.drop_append_of_le_length within]
                unfold wire
                rw [stream_eq source, held]
                rfl
        · rw [if_neg heard] at reaches
          refine unheard ?_ ?_ ?_
          · by_contra due
            obtain ⟨other, itself, joined⟩ := inTime started due
            rw [stream_eq source, held] at itself
            obtain rfl := Option.some.inj itself
            refine due ?_
            unfold OperatorConsole.due
            rw [pending]
            exact if_neg fun mine => heard ⟨joined, own.trans mine.symm⟩
          · by_cases joined : ConsoleServer.Joined stream
            · rw [overflows_eq pending source (queued.joined stream held joined),
                decide_eq_false_iff_not]
              exact fun same => heard ⟨joined, same.1⟩
            · refine overflows_of_apart fun j at_ => ?_
              obtain rfl := Option.some.inj (source.symm.trans at_)
              exact queued.apart stream held joined
          · intro j at_
            obtain rfl := Option.some.inj (source.symm.trans at_)
            rw [carried, reaches, ConsoleServer.carried_eq held]

/-- An action of the server that neither stores nor publishes. -/
theorem serve_log {action : ConsoleAction F} {server : ConsoleServer F}
    (stepped : s.server.step action = some server) (quiet : action ≠ .publish)
    (reads : ∀ payload, action ≠ .record payload) :
    server.log = s.server.log ∧ server.pending = s.server.pending := by
  cases action with
  | record payload => exact absurd rfl (reads payload)
  | publish => exact absurd rfl quiet
  | storeSession session =>
      obtain rfl := Option.some.inj stepped
      exact ⟨rfl, rfl⟩
  | connect j session lastEventId =>
      obtain ⟨-, rfl⟩ := ConsoleServer.connect_eq stepped
      exact ⟨rfl, rfl⟩
  | read j replay =>
      obtain ⟨_, -, -, rfl⟩ := ConsoleServer.read_eq stepped
      exact ⟨rfl, rfl⟩
  | yield j =>
      obtain ⟨_, _, _, -, -, rfl⟩ := ConsoleServer.yield_eq stepped
      exact ⟨rfl, rfl⟩
  | subscribe j =>
      obtain ⟨_, -, -, rfl⟩ := ConsoleServer.subscribe_eq stepped
      exact ⟨rfl, rfl⟩
  | deliver j =>
      obtain ⟨_, _, _, _, -, -, rfl⟩ := ConsoleServer.deliver_eq stepped
      exact ⟨rfl, rfl⟩
  | disconnect j =>
      obtain ⟨_, -, rfl⟩ := ConsoleServer.disconnect_eq stepped
      exact ⟨rfl, rfl⟩

/-- The other actions of the server bring the client nothing new. -/
theorem Charted.serve {action : ConsoleAction F} (charted : Charted s) (connected : Connected s)
    (inTime : ShownInTime s (.server action)) (taken : s.serve action = some s')
    (quiet : action ≠ .publish) (reads : ∀ payload, action ≠ .record payload) : Charted s' := by
  obtain ⟨server, stepped, ⟨-, rfl⟩ | ⟨published, -⟩⟩ := serve_eq taken
  · obtain ⟨log, pending⟩ := serve_log stepped quiet reads
    refine charted.congr rfl rfl rfl (fun none => (charted.unstarted none).1) rfl log pending ?_
    rcases Option.eq_none_or_eq_some s.eventSource with source | ⟨i, source⟩
    · unfold coming
      dsimp only
      rw [source]
      exact ⟨fun _ => rfl, rfl⟩
    · obtain ⟨stream, held, -, anew, within⟩ := connected.source i source
      obtain ⟨stream', continues, carries⟩ :=
        ConsoleServer.carried_step connected.streams stepped held anew quiet
      have now : OperatorConsole.coming { s with server } = (server.carried i).drop s.received :=
        coming_eq source
      rw [now]
      rcases carries with same | ⟨replay, more⟩ | ⟨rfl, sent⟩
      · rw [same, coming_eq source]
        exact ⟨fun _ => rfl, rfl⟩
      · have more_within : s.received ≤ (s.server.carried i).length := by
          rw [ConsoleServer.carried_eq held, List.length_append]
          omega
        rw [more, coming_eq source, List.drop_append_of_le_length more_within]
        refine alike_append fun message mem => ?_
        rw [List.mem_singleton.mp mem]
        exact harmless_snapshot replay
      · -- The queue is gone with the connection.
        rw [sent, coming_eq source, ConsoleServer.carried_eq held,
          List.drop_append_of_le_length within]
        refine (alike_append fun message mem => ?_).symm
        obtain ⟨item, queued, rfl⟩ := List.mem_map.mp mem
        exact inTime source item queued
  · exact absurd published quiet

theorem Charted.connect (charted : Charted s) (connected : Connected s)
    (taken : s.connect i = some s') : Charted s' := by
  obtain ⟨source, server, accepted, rfl⟩ := connect_eq taken
  obtain ⟨absent, rfl⟩ := ConsoleServer.connect_eq accepted
  obtain ⟨unstarted, count, published, all, runs⟩ := charted
  have before : s.coming = [] := by
    unfold coming
    rw [source]
  -- The new stream has neither sent nor queued anything.
  have silent : (s.server.withStream i ⟨s.session, none, .opening, [], []⟩).carried i = [] := by
    rw [ConsoleServer.carried_eq (Lib.Table.get?_set_self _ _ _)]
    have queue : (s.server.withStream i ⟨s.session, none, .opening, [], []⟩).queueOf i = [] := by
      unfold ConsoleServer.queueOf
      show ((s.server.broker.queue i).map Prod.snd).getD [] = []
      rw [(connected.streams.queued i).unopened absent]
      rfl
    rw [queue]
    rfl
  have marks : s.marks = [] := by
    rw [before] at count
    exact List.length_eq_zero_iff.mp count
  constructor
  · intro unset
    cases started : s.since <;> simp [started] at unset
  · unfold coming
    dsimp only
    rw [silent, List.drop_nil]
    rfl
  · refine ⟨published, all, fun n since => ?_⟩
    unfold coming
    dsimp only
    rw [silent, List.drop_nil, List.foldl_nil]
    cases started : s.since with
    | none =>
        have total : (s.server.log.scores s.session).length = n := by
          simpa [started] using since
        refine ⟨published.length, Nat.le_refl _, ?_, ?_⟩
        · show published.length ≤ n
          rw [← total, all, List.length_append]
          exact Nat.le_add_right _ _
        · rw [List.drop_length, (unstarted started).2]
          rfl
    | some m =>
        have same : m = n := by simpa [started] using since
        obtain ⟨first, inside, reach, shows⟩ := runs m started
        rw [marks] at reach
        rw [before] at shows
        exact ⟨first, inside, same ▸ reach, shows⟩

theorem Charted.message (charted : Charted s) (connected : Connected s)
    (taken : s.message = some s') : Charted s' := by
  obtain ⟨message, rest, wire, rfl⟩ := message_eq taken
  obtain ⟨i, stream, source, held, -, arriving⟩ := wire_cons connected wire
  obtain ⟨unstarted, count, published, all, runs⟩ := charted
  obtain ⟨own, itself, -, -, within⟩ := connected.source i source
  obtain rfl := Option.some.inj (held.symm.trans itself)
  have coming : s.coming = message :: (s.server.carried i).drop (s.received + 1) := by
    rw [coming_eq_wire source held within, wire, ConsoleServer.carried_eq held,
      ← List.drop_drop, List.drop_append_of_le_length within, arriving]
    rfl
  have now : ∀ view since marks, OperatorConsole.coming
      { s with view, received := s.received + 1, since, marks } =
        (s.server.carried i).drop (s.received + 1) := fun _ _ _ => coming_eq source
  have started : s.since ≠ none := fun unset => by
    rw [(unstarted unset).1] at source
    cases source
  obtain ⟨n, since⟩ := Option.ne_none_iff_exists'.mp started
  obtain ⟨first, inside, reach, shows⟩ := runs n since
  rw [coming, List.foldl_cons, ← ReplayStreamState.receive_scores] at shows
  rw [coming, List.countP_cons] at count
  cases resync : message.isResync with
  | false =>
      rw [resync] at count
      refine ⟨fun unset => absurd unset started, ?_, published, all, fun m same => ?_⟩
      · rw [now]
        exact count
      · obtain rfl := Option.some.inj (since.symm.trans same)
        refine ⟨first, inside, reach, ?_⟩
        rw [now]
        exact shows
  | true =>
      rw [resync, if_pos rfl] at count
      obtain ⟨mark, marks, split⟩ := List.exists_cons_of_length_eq_add_one count
      rw [split] at count reach
      refine ⟨fun unset => ?_, ?_, published, all, fun m same => ?_⟩
      · have unset : s.marks.head? = none := unset
        rw [split] at unset
        cases unset
      · rw [now]
        show s.marks.tail.length = _
        rw [split]
        exact Nat.succ.inj count
      · have same : s.marks.head? = some m := same
        rw [split] at same
        obtain rfl := Option.some.inj same
        refine ⟨first, inside, ?_, ?_⟩
        · show first ≤ s.marks.tail.getLast?.getD mark
          rw [split, List.tail_cons]
          rw [List.getLast?_cons] at reach
          exact reach
        · rw [now]
          exact shows

theorem Charted.error (charted : Charted s) (inTime : ShownInTime s .error)
    (taken : s.error = some s') : Charted s' := by
  obtain ⟨_, -, rfl⟩ := Option.map_eq_some_iff.mp taken
  obtain ⟨unstarted, count, published, all, runs⟩ := charted
  have marks : s.marks = [] := by
    rw [countP_harmless inTime] at count
    exact List.length_eq_zero_iff.mp count
  refine ⟨fun none => ⟨rfl, (unstarted none).2⟩, rfl, published, all, fun n since => ?_⟩
  obtain ⟨first, inside, reach, shows⟩ := runs n since
  rw [marks] at reach
  rw [foldl_harmless inTime] at shows
  exact ⟨first, inside, reach, shows⟩

theorem Charted.step {action : OperatorAction F} (charted : Charted s) (connected : Connected s)
    (inTime : ShownInTime s action) (taken : OperatorConsole.step s action = some s') : Charted s' := by
  cases action with
  | server action =>
      by_cases quiet : action = .publish
      · subst quiet
        exact charted.publish connected inTime taken
      · by_cases reads : ∃ payload, action = .record payload
        · obtain ⟨payload, rfl⟩ := reads
          exact charted.record inTime taken
        · exact charted.serve connected inTime taken quiet fun payload same => reads ⟨payload, same⟩
  | connect i => exact charted.connect connected taken
  | opened =>
      obtain ⟨_, -, rfl⟩ := Option.map_eq_some_iff.mp taken
      exact charted.congr rfl rfl rfl (fun none => (charted.unstarted none).1) rfl rfl rfl
        ⟨fun _ => rfl, rfl⟩
  | message => exact charted.message connected taken
  | error => exact charted.error inTime taken

/-! ### The status -/

theorem take_of_prefix {messages messages' : List (SseMessage F)} {n : Nat}
    (more : messages <+: messages') (within : n ≤ messages.length) :
    messages'.take n = messages.take n := by
  obtain ⟨rest, rfl⟩ := more
  exact List.take_append_of_le_length within

theorem shows_of_server {action : ConsoleAction F} {server : ConsoleServer F}
    (shows : s.ShowsStatus) (connected : Connected s) (stepped : s.server.step action = some server)
    (server_eq : s'.server = server) (source : s'.eventSource = s.eventSource)
    (received : s'.received = s.received) (view : s'.view = s.view) : s'.ShowsStatus := by
  rcases Option.eq_none_or_eq_some s.eventSource with disconnected | ⟨i, at_⟩
  · intro stream held
    unfold OperatorConsole.stream at held
    rw [source, disconnected] at held
    cases held
  · obtain ⟨stream, held, -, anew, within⟩ := connected.source i at_
    intro other itself status last
    have goes_on : ∃ stream', s'.stream = some stream' ∧ stream.sent <+: stream'.sent := by
      rw [stream_eq (source.trans at_), server_eq]
      by_cases published : action = .publish
      · subst published
        obtain ⟨event, -, rfl⟩ := Option.map_eq_some_iff.mp stepped
        exact ⟨stream, held, List.prefix_rfl⟩
      · obtain ⟨stream', continues, -⟩ :=
          ConsoleServer.carried_step connected.streams stepped held anew published
        exact ⟨stream', continues.held, continues.sent⟩
    obtain ⟨stream', now, sent⟩ := goes_on
    obtain rfl := Option.some.inj (now.symm.trans itself)
    rw [received, take_of_prefix sent within] at last
    rw [view]
    exact shows stream (by rw [stream_eq at_]; exact held) status last

theorem shows_of_message (shows : s.ShowsStatus) (connected : Connected s)
    (inTime : ShownInTime s .message) (taken : s.message = some s') : s'.ShowsStatus := by
  obtain ⟨message, rest, wire, rfl⟩ := message_eq taken
  obtain ⟨i, stream, source, held, anew, arriving⟩ := wire_cons connected wire
  have current : s.stream = some stream := by
    rw [stream_eq source]
    exact held
  have within : s.received < stream.sent.length := by
    have length := congrArg List.length arriving
    rw [List.length_drop, List.length_cons] at length
    omega
  have next : stream.sent.take (s.received + 1) = stream.sent.take s.received ++ [message] := by
    rw [List.take_add, arriving]
    rfl
  intro other itself status last
  have itself : s.stream = some other := itself
  obtain rfl := Option.some.inj (current.symm.trans itself)
  show (s.view.receive message).replay.map (·.state) = some status.state
  have last : ((stream.sent.take (s.received + 1)).filterMap SseMessage.statusOf).getLast? =
      some status := last
  rw [next, List.filterMap_append] at last
  rw [ReplayStreamState.receive_replay]
  cases message with
  | snapshot replay =>
      -- The snapshot is the first message, no status came before it.
      have first : s.received = 0 := by
        by_contra later
        have mem : SseMessage.snapshot replay ∈ stream.sent.tail := by
          have sent : stream.sent.drop s.received = (stream.sent.drop 1).drop (s.received - 1) := by
            rw [List.drop_drop]
            congr 1
            omega
          rw [List.drop_one] at sent
          rw [sent] at arriving
          exact (List.drop_sublist _ _).subset (arriving ▸ List.mem_cons_self)
        exact (connected.streams.anew i stream held anew).once _ mem replay rfl
      rw [first] at last
      cases last
  | resyncRequired =>
      have silent : [(SseMessage.resyncRequired : SseMessage F)].filterMap SseMessage.statusOf = [] := rfl
      rw [silent, List.append_nil] at last
      exact shows stream current status last
  | event published =>
      cases carried : (SseMessage.event published).statusOf with
      | none =>
          rw [List.filterMap_cons, carried, List.filterMap_nil, List.append_nil] at last
          exact shows stream current status last
      | some reported =>
          rw [List.filterMap_cons, carried, List.filterMap_nil, List.getLast?_concat] at last
          obtain rfl := Option.some.inj last
          have known : s.view.replay ≠ none := by
            refine inTime (.event published) ?_ ?_
            · rw [wire]
              rfl
            · rw [carried]
              exact Option.some_ne_none _
          obtain ⟨replay, same⟩ := Option.ne_none_iff_exists'.mp known
          rw [same]
          rfl

theorem shows_of_step {action : OperatorAction F} (shows : s.ShowsStatus) (connected : Connected s)
    (inTime : ShownInTime s action) (taken : OperatorConsole.step s action = some s') :
    s'.ShowsStatus := by
  cases action with
  | server action =>
      obtain ⟨server, stepped, ⟨-, rfl⟩ | ⟨-, -, rfl⟩⟩ := serve_eq taken
      · exact shows_of_server shows connected stepped rfl rfl rfl rfl
      · exact shows_of_server shows connected stepped rfl rfl rfl rfl
  | connect i =>
      obtain ⟨-, server, -, rfl⟩ := connect_eq taken
      intro stream _ status last
      have last : (([] : List (SseMessage F)).filterMap SseMessage.statusOf).getLast? = some status :=
        last
      cases last
  | opened =>
      obtain ⟨_, -, rfl⟩ := Option.map_eq_some_iff.mp taken
      exact shows
  | message => exact shows_of_message shows connected inTime taken
  | error =>
      obtain ⟨_, -, rfl⟩ := Option.map_eq_some_iff.mp taken
      intro stream held
      cases held

/-- A settled client shows the log. -/
theorem Charted.showsScores (charted : Charted s) (settled : s.Settled) : s.ShowsScores := by
  obtain ⟨unstarted, count, published, all, runs⟩ := charted
  have started : s.since ≠ none := fun none => settled.connected (unstarted none).1
  obtain ⟨n, since⟩ := Option.ne_none_iff_exists'.mp started
  obtain ⟨first, inside, reach, shows⟩ := runs n since
  rw [settled.arrived] at shows count
  rw [List.length_eq_zero_iff.mp count] at reach
  refine ⟨first, ⟨n, since, reach⟩, ?_⟩
  rw [all, settled.published, List.append_nil]
  exact shows

/-- Between disconnects and reconnects at any time, the chart of a connected client to
which nothing is on its way shows the end of the log, and the state it displays is that
of the last status it was sent. -/
theorem view_reflects_log {log : ConsoleLog F} {intervalSeconds : Int} {maxQueueSize : Nat}
    {session : UUID} {actions : List (OperatorAction F)}
    (run : Lib.Run step ShownInTime
      (initial (ConsoleServer.initial log intervalSeconds maxQueueSize) session) actions s)
    (settled : s.Settled) : s.ShowsScores ∧ s.ShowsStatus := by
  have kept : Connected s ∧ Charted s ∧ s.ShowsStatus := by
    refine run.invariant (P := fun s => Connected s ∧ Charted s ∧ s.ShowsStatus) ?_ ?_
    · rintro s action s' ⟨connected, charted, shows⟩ inTime taken
      exact ⟨connected.step taken, charted.step connected inTime taken,
        shows_of_step shows connected inTime taken⟩
    · refine ⟨⟨ConsoleServer.streams_initial _ _ _, ?_⟩, ⟨fun _ => ⟨rfl, rfl⟩, rfl, ?_⟩, ?_⟩
      · intro i source
        cases source
      · refine ⟨log.scores session, (List.append_nil _).symm, fun n since => ?_⟩
        cases since
      · intro stream held
        cases held
  exact ⟨kept.2.1.showsScores settled, kept.2.2⟩

end Step

/-! ### A score and a status the client misses -/

instance (s : OperatorConsole F) (action : OperatorAction F) : Decidable (ShownInTime s action) := by
  cases action with
  | server action =>
      cases action with
      | record payload =>
          cases payload with
          | score decision =>
              refine decidable_of_iff (decision.replaySessionId = s.session →
                s.server.log.get? (.message decision.decisionId) = none) ⟨?_, fun all => all decision rfl⟩
              rintro fresh other same
              cases same
              exact fresh
          | _ => exact isTrue fun _ same => nomatch same
      | _ => unfold ShownInTime; infer_instance
  | _ => unfold ShownInTime; infer_instance

/-- A status of session 1. -/
def statusRecord (state : ReplayState) : ConsolePayload Int := .status {
  messageId := 9
  replaySessionId := 1
  sourceDatasetSha256 := 1
  contractSha256 := 1
  sourceTimestamp := 0
  emittedAt := ⟨0⟩
  state
  lastSequence := none
  errorCode := none }

/-- The client's stream `i` is opened and joins the broker; the row of the session is
the one given. -/
def joining (i : Nat) (replay : Option ReplaySession) : List (OperatorAction Int) :=
  [.connect i, .opened, .server (.read i replay), .server (.yield i), .message, .server (.subscribe i)]

/-- The row of a session that has not been started. -/
def createdRow : Option ReplaySession := some ⟨1, .created, none, none, none⟩

/-- A record is processed and reaches the client over stream `i`. -/
def showing (i : Nat) (payload : ConsolePayload Int) : List (OperatorAction Int) :=
  [.server (.record payload), .server .publish, .server (.deliver i), .message]

/-- What is on display and in the log. -/
def display (s : OperatorConsole Int) : Option ReplayState × List UUID × List UUID :=
  (s.view.replay.map (·.state), s.view.scores.map (·.decisionId),
    (s.server.log.scores s.session).map (·.decisionId))

instance (s : OperatorConsole F) : Decidable s.Settled :=
  decidable_of_iff (s.eventSource ≠ none ∧ s.coming = [] ∧ s.due = [])
    ⟨fun ⟨connected, arrived, published⟩ => ⟨connected, arrived, published⟩,
      fun settled => ⟨settled.connected, settled.arrived, settled.published⟩⟩

theorem reconnected_view_reflects_log : ∃ s : OperatorConsole Int, s.Settled ∧
    s.display = (some .running, [2, 3], [1, 2, 3]) ∧ s.ShowsScores ∧ s.ShowsStatus := by
  obtain ⟨s, run, settled, shown⟩ := Lib.exists_run_of_exec (step (F := Int)) ShownInTime
    (initial (ConsoleServer.initial .empty 60 256) 1)
    ([.server (.storeSession 1), .server (.record (ConsoleServer.scoreRecord 1)), .server .publish] ++
      joining 0 createdRow ++ showing 0 (ConsoleServer.scoreRecord 2) ++
      [.error, .server (.disconnect 0)] ++ joining 1 createdRow ++
      showing 1 (statusRecord .running) ++ showing 1 (ConsoleServer.scoreRecord 3))
    (fun s => s.Settled ∧ s.display = (some .running, [2, 3], [1, 2, 3])) (by decide)
  exact ⟨s, settled, shown, view_reflects_log run settled⟩

theorem lastPoints_of_le {α : Type} {points : List α} (few : points.length ≤ MAX_CHART_POINTS) :
    lastPoints points = points := by
  unfold lastPoints
  rw [Nat.sub_eq_zero_of_le few, List.drop_zero]

/-- The second score is published while the client waits to connect again: the chart
shows the first and the third. -/
theorem scoreWhileAway_lost : ∃ (s : OperatorConsole Int) (actions : List (OperatorAction Int)),
    Lib.Run step Lib.Always (initial (ConsoleServer.initial .empty 60 256) 1) actions s ∧
      s.Settled ∧ ¬ s.ShowsScores := by
  obtain ⟨s, run, settled, shown⟩ := Lib.exists_run_of_exec (step (F := Int)) Lib.Always
    (initial (ConsoleServer.initial .empty 60 256) 1)
    (.server (.storeSession 1) :: joining 0 createdRow ++ showing 0 (ConsoleServer.scoreRecord 1) ++
      [.error, .server (.disconnect 0), .server (.record (ConsoleServer.scoreRecord 2)),
        .server .publish] ++ joining 1 createdRow ++ showing 1 (ConsoleServer.scoreRecord 3))
    (fun s => s.Settled ∧ s.display = (some .created, [1, 3], [1, 2, 3])) (by decide)
  refine ⟨s, _, run, settled, ?_⟩
  rintro ⟨first, -, shows⟩
  obtain ⟨-, rest⟩ := Prod.mk.inj shown
  obtain ⟨chart, log⟩ := Prod.mk.inj rest
  have few : ((s.server.log.scores s.session).drop first).length ≤ MAX_CHART_POINTS := by
    have total := congrArg List.length log
    rw [List.length_map] at total
    rw [List.length_drop, total]
    exact (Nat.sub_le _ _).trans (by decide)
  rw [shows, lastPoints_of_le few, List.map_drop, log] at chart
  rcases first with _ | _ | _ | first <;> simp at chart

/-- The row of the session is stored behind the snapshot, and the status comes over a
connection whose snapshot had no replay: nothing is displayed. -/
theorem statusWithoutReplay_dropped : ∃ (s : OperatorConsole Int) (actions : List (OperatorAction Int)),
    Lib.Run step Lib.Always (initial (ConsoleServer.initial .empty 60 256) 1) actions s ∧
      s.Settled ∧ ¬ s.ShowsStatus := by
  obtain ⟨s, run, settled, shown, arrived⟩ := Lib.exists_run_of_exec (step (F := Int)) Lib.Always
    (initial (ConsoleServer.initial .empty 60 256) 1)
    (joining 0 none ++ .server (.storeSession 1) :: showing 0 (statusRecord .running))
    (fun s => s.Settled ∧ s.display = (none, [], []) ∧ s.stream.bind (fun stream =>
      ((stream.sent.take s.received).filterMap SseMessage.statusOf).getLast?.map (·.state)) =
        some .running) (by decide)
  refine ⟨s, _, run, settled, fun shows => ?_⟩
  obtain ⟨stream, current, last⟩ := Option.bind_eq_some_iff.mp arrived
  obtain ⟨status, reported, -⟩ := Option.map_eq_some_iff.mp last
  have displayed := shows stream current status reported
  rw [(Prod.mk.inj shown).1] at displayed
  cases displayed

end OperatorConsole

end IndustrialReliability
