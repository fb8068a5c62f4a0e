import IndustrialReliability.Console.Stream

/-!
The operator's view: `useReplayStream` against the console stream.

`ReplayStreamState` is the state of the hook and `receive` its listeners. A state of
the whole is the server and the client with the connection it holds; the client
always asks for a new stream, without a `Last-Event-ID`, and its messages arrive in
the order they were sent until the connection breaks.
-/

namespace IndustrialReliability

variable {F : Type}

def MAX_CHART_POINTS : Nat := 120

inductive ConnectionStatus where
  | disconnected | connecting | connected | reconnecting
deriving DecidableEq, Repr

/-- The state of the hook, without the alerts and the id of the last event, which it
never sends. -/
structure ReplayStreamState (F : Type) where
  connectionStatus : ConnectionStatus
  replay : Option ReplaySession
  scores : List (ScoreDecisionV1 F)
  telemetry : List (TelemetryEventV1 F)

namespace ReplayStreamState

def initial : ReplayStreamState F := ⟨.disconnected, none, [], []⟩

/-- The last points of a chart. -/
def lastPoints {α : Type} (points : List α) : List α := points.drop (points.length - MAX_CHART_POINTS)

/-- `[...prev, point]`, cut to the last points. -/
def appendPoint {α : Type} (points : List α) (point : α) : List α := lastPoints (points ++ [point])

/-- `{...prev, state, last_sequence ?? prev.last_sequence, ..}`. -/
def updateReplay (replay : ReplaySession) (status : ReplayStatusV1) : ReplaySession :=
  { replay with
    state := status.state
    lastSequence := status.lastSequence <|> replay.lastSequence
    sourceTimestamp := some status.sourceTimestamp
    errorCode := status.errorCode <|> replay.errorCode }

/-- The listeners of the event source. -/
def receive (view : ReplayStreamState F) : SseMessage F → ReplayStreamState F
  | .snapshot replay => { view with replay := replay <|> view.replay }
  | .resyncRequired => { view with scores := [], telemetry := [] }
  | .event published =>
      match published.payload with
      | .score decision => { view with scores := appendPoint view.scores decision }
      | .telemetry point => { view with telemetry := appendPoint view.telemetry point }
      | .alert _ => view
      | .status status =>
          { view with replay := view.replay.map fun replay => updateReplay replay status }

end ReplayStreamState

/-- The server and the client that watches a session. -/
structure OperatorConsole (F : Type) where
  server : ConsoleServer F
  session : UUID
  view : ReplayStreamState F
  /-- The stream the event source is connected to. -/
  eventSource : Option Nat
  /-- How many of its messages have arrived. -/
  received : Nat
  /-- The number of scores in the log when the client first connected, or was last
  told to start over. -/
  since : Option Nat
  /-- The same for the `resync_required` on their way. -/
  marks : List Nat

inductive OperatorAction (F : Type) where
  | server (action : ConsoleAction F)
  | connect (stream : Nat)
  | opened
  | message
  | error

/-- The score a message carries. -/
def SseMessage.scoreOf : SseMessage F → Option (ScoreDecisionV1 F)
  | .event published =>
      match published.payload with
      | .score decision => some decision
      | _ => none
  | _ => none

/-- The status a message carries. -/
def SseMessage.statusOf : SseMessage F → Option ReplayStatusV1
  | .event published =>
      match published.payload with
      | .status status => some status
      | _ => none
  | _ => none

def SseMessage.isResync : SseMessage F → Bool
  | .resyncRequired => true
  | _ => false

/-- The scores of a session, in the order of the log. -/
def ConsoleLog.scores (log : ConsoleLog F) (session : UUID) : List (ScoreDecisionV1 F) :=
  (log.ofSession session).filterMap fun event => (SseMessage.event event).scoreOf

namespace OperatorConsole

def initial (server : ConsoleServer F) (session : UUID) : OperatorConsole F where
  server
  session
  view := .initial
  eventSource := none
  received := 0
  since := none
  marks := []

/-- The stream the client is connected to. -/
def stream (s : OperatorConsole F) : Option (ConsoleStream F) :=
  s.eventSource.bind fun i => s.server.streams.get? i

/-- What has been sent to the client and has not arrived. -/
def wire (s : OperatorConsole F) : List (SseMessage F) :=
  match s.stream with
  | some stream => stream.sent.drop s.received
  | none => []

/-- The publication that is due finds the queue of the client full. -/
def overflows (s : OperatorConsole F) : Bool :=
  match s.server.pending, s.eventSource with
  | some event, some i =>
      match s.server.broker.queue i with
      | some (session, items) =>
          decide (session = event.replaySessionId ∧ s.server.broker.maxQueueSize ≠ 0 ∧
            s.server.broker.maxQueueSize ≤ items.length)
      | none => false
  | _, _ => false

/-- A step of the server. A full queue is drained, the `resync_required` in it too. -/
def serve (action : ConsoleAction F) (s : OperatorConsole F) : Option (OperatorConsole F) :=
  (s.server.step action).map fun server =>
    match action with
    | .publish =>
        if s.overflows then { s with
          server
          marks := s.marks.take (s.wire.countP SseMessage.isResync) ++
            [(s.server.log.scores s.session).length] }
        else { s with server }
    | _ => { s with server }

/-- `connect`. -/
def connect (i : Nat) (s : OperatorConsole F) : Option (OperatorConsole F) :=
  match s.eventSource with
  | some _ => none
  | none => (s.server.connect i s.session none).map fun server => { s with
      server
      view := { s.view with connectionStatus :=
        if s.view.connectionStatus = .disconnected then .connecting else .reconnecting }
      eventSource := some i
      received := 0
      since := s.since <|> some (s.server.log.scores s.session).length
      marks := [] }

/-- `onopen`. -/
def opened (s : OperatorConsole F) : Option (OperatorConsole F) :=
  s.eventSource.map fun _ => { s with view := { s.view with connectionStatus := .connected } }

/-- The next message arrives. -/
def message (s : OperatorConsole F) : Option (OperatorConsole F) :=
  match s.wire with
  | [] => none
  | message :: _ =>
      some { s with
        view := s.view.receive message
        received := s.received + 1
        since := if message.isResync then s.marks.head? else s.since
        marks := if message.isResync then s.marks.tail else s.marks }

/-- `onerror`: the event source is closed, to be replaced later. -/
def error (s : OperatorConsole F) : Option (OperatorConsole F) :=
  s.eventSource.map fun _ => { s with
    view := { s.view with connectionStatus := .disconnected }
    eventSource := none
    received := 0
    marks := [] }

def step (s : OperatorConsole F) : OperatorAction F → Option (OperatorConsole F)
  | .server action => s.serve action
  | .connect i => s.connect i
  | .opened => s.opened
  | .message => s.message
  | .error => s.error

end OperatorConsole

end IndustrialReliability
