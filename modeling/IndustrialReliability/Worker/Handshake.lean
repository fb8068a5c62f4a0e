import IndustrialReliability.Features.Repeats
import IndustrialReliability.Lib.Logs
import IndustrialReliability.Worker.Handles

/-!
The completion of a session, in whatever order its records come.

The telemetry of a session comes in order on one partition, an event perhaps more than
once, and the status that it is completed on another. `InSession` says what a process
knows and has done after some of each: the builder is where the events alone lead it,
what is published is what the builder has returned, and the builder is completed as soon
as the last event and the status have both come. Each kind of record keeps it
(`InSession.telemetry_next`, `InSession.telemetry_again`, `InSession.status_closes`,
`BetweenRecords.status_other`), and between two records a completed session is committed.
-/

namespace IndustrialReliability

open OnlineFeatureBuilder

variable {F : Type}

/-! ### What is published -/

/-- A vector or a decision on its way out. -/
inductive Published (F : Type) where
  | feature (vector : FeatureVectorV1 F)
  | score (decision : ScoreDecisionV1 F)

/-- The decision as if it had been emitted at another time. -/
def ScoreDecisionV1.emittedWhen (emittedAt : Instant) (decision : ScoreDecisionV1 F) : ScoreDecisionV1 F :=
  { decision with emittedAt }

def WorkerAction.published : WorkerAction F → Option (Published F)
  | .feature vector => some (.feature (vector.emittedWhen ⟨0⟩))
  | .score decision => some (.score (decision.emittedWhen ⟨0⟩))
  | _ => none

/-- The vectors and decisions that some actions publish, their times of emission apart. -/
def published (actions : List (WorkerAction F)) : List (Published F) :=
  actions.filterMap WorkerAction.published

/-- Each vector with the decision about it. -/
def scored (score : FeatureVectorV1 F → ScoreDecisionV1 F) (vectors : List (FeatureVectorV1 F)) :
    List (Published F) :=
  vectors.flatMap fun vector =>
    [.feature (vector.emittedWhen ⟨0⟩), .score (score (vector.emittedWhen ⟨0⟩))]

/-- The scoring API answers, and the same whenever it is asked. -/
def Answers (settings : WorkerSettings) (score : FeatureVectorV1 F → ScoreDecisionV1 F)
    (stamp : HandlerStamp F) : Prop :=
  ∀ vector, ∃ decision, scoringClientScore settings stamp vector = .ok decision ∧
    decision.emittedWhen ⟨0⟩ = score (vector.emittedWhen ⟨0⟩)

def WorkerAction.isFinalisation : WorkerAction F → Bool
  | .finalised _ _ => true
  | _ => false

section Publishing

variable {score : FeatureVectorV1 F → ScoreDecisionV1 F} {settings : WorkerSettings}
  {stamp : HandlerStamp F} {actions : List (WorkerAction F)}

@[simp] theorem published_append (first second : List (WorkerAction F)) :
    published (first ++ second) = published first ++ published second := List.filterMap_append

@[simp] theorem scored_nil : scored score [] = [] := rfl

@[simp] theorem scored_append (first second : List (FeatureVectorV1 F)) :
    scored score (first ++ second) = scored score first ++ scored score second := List.flatMap_append

@[simp] theorem scored_emittedWhen (emittedAt : Instant) (vectors : List (FeatureVectorV1 F)) :
    scored score (vectors.map (·.emittedWhen emittedAt)) = scored score vectors := by
  simp only [scored, List.flatMap_map]
  rfl

theorem scored_mono {first vectors : List (FeatureVectorV1 F)} (inside : first <+: vectors) :
    scored score first <+: scored score vectors := by
  obtain ⟨rest, rfl⟩ := inside
  exact ⟨scored score rest, (scored_append first rest).symm⟩

theorem published_mono {first : List (WorkerAction F)} (inside : first <+: actions) :
    published first <+: published actions := by
  obtain ⟨rest, rfl⟩ := inside
  exact ⟨published rest, (published_append first rest).symm⟩

theorem not_isFinalisation_of_messages (messages : ∀ action ∈ actions, action.IsMessage) :
    actions.countP WorkerAction.isFinalisation = 0 := by
  refine List.countP_eq_zero.mpr fun action mem => ?_
  have message := messages action mem
  cases action <;> simp_all [WorkerAction.IsMessage, WorkerAction.isFinalisation]

/-- The vectors are published and scored one after another. -/
theorem processFeatures_answered (answers : Answers settings score stamp)
    (vectors : List (FeatureVectorV1 F)) (memory : WorkerMemory F) :
    ∃ sent, processFeatures settings stamp vectors memory = ⟨sent, memory, .ok ()⟩ ∧
      published sent = scored score vectors ∧ ∀ action ∈ sent, action.IsMessage := by
  induction vectors with
  | nil => exact ⟨[], rfl, rfl, nofun⟩
  | cons vector rest ih =>
      obtain ⟨decision, answered, same⟩ := answers vector
      obtain ⟨sent, rests, out, messages⟩ := ih
      have first : processFeature settings stamp vector memory =
          ⟨[.feature vector, .score decision], memory, .ok ()⟩ := by
        unfold processFeature
        rw [Handled.andThen_of_ok rfl]
        dsimp only [Handled.acts]
        rw [answered]
        rfl
      refine ⟨[.feature vector, .score decision] ++ sent, ?_, ?_, ?_⟩
      · unfold processFeatures
        rw [first, Handled.andThen_of_ok rfl, rests]
      · rw [published_append, out]
        show [_, Published.score (decision.emittedWhen ⟨0⟩)] ++ _ = _
        rw [same]
        rfl
      · intro action mem
        rcases List.mem_append.mp mem with mine | later
        · rcases List.mem_pair.mp mine with rfl | rfl <;> trivial
        · exact messages action later

end Publishing

/-! ### Handlers that return -/

/-- The handler returns, and then this holds of the memory and of all that has been
done. -/
def Handled.Reaches (handled : Handled F) (before : List (WorkerAction F))
    (post : WorkerMemory F → List (WorkerAction F) → Prop) : Prop :=
  handled.returned = .ok () ∧ post handled.memory (before ++ handled.actions)

section Reaching

variable {first : Handled F} {next : WorkerMemory F → Handled F} {memory : WorkerMemory F}
  {before : List (WorkerAction F)} {mid post : WorkerMemory F → List (WorkerAction F) → Prop}

theorem Handled.Reaches.andThen (reaches : first.Reaches before mid)
    (later : ∀ memory actions, mid memory actions → (next memory).Reaches actions post) :
    (first.andThen next).Reaches before post := by
  obtain ⟨ok, here⟩ := reaches
  obtain ⟨ok', there⟩ := later _ _ here
  rw [andThen_of_ok ok]
  refine ⟨ok', ?_⟩
  rw [List.append_assoc] at there
  exact there

theorem Handled.Reaches.imp (reaches : first.Reaches before mid)
    (weaker : ∀ memory actions, mid memory actions → post memory actions) : first.Reaches before post :=
  ⟨reaches.1, weaker _ _ reaches.2⟩

theorem done_reaches (here : post memory before) : (Handled.done memory).Reaches before post := by
  refine ⟨rfl, ?_⟩
  show post memory (before ++ [])
  rwa [List.append_nil]

/-- A builder returns, and its vectors are published. -/
theorem emits_reaches {settings : WorkerSettings} {stamp : HandlerStamp F}
    {score : FeatureVectorV1 F → ScoreDecisionV1 F} (answers : Answers settings score stamp)
    {action : WorkerAction F} {features : List (FeatureVectorV1 F)}
    (here : ∀ sent, published sent = scored score features → (∀ action ∈ sent, action.IsMessage) →
      post memory (before ++ [action] ++ sent)) :
    ((Handled.acts action memory).andThen (processFeatures settings stamp features)).Reaches before post := by
  obtain ⟨sent, same, out, messages⟩ := processFeatures_answered answers features memory
  have acted : (Handled.acts action memory).Reaches before fun memory' actions =>
      memory' = memory ∧ actions = before ++ [action] := ⟨rfl, rfl, rfl⟩
  refine acted.andThen ?_
  rintro memory' actions ⟨rfl, rfl⟩
  rw [same]
  exact ⟨rfl, here sent out messages⟩

end Reaching

/-! ### A session -/

/-- A session that is completed: its events in order, and the status that says so. -/
structure CompletedSession (F : Type) [PyFloat F] (settings : WorkerSettings) where
  rows : List (Checked (TelemetryEventV1 F))
  status : Checked ReplayStatusV1
  nonempty : rows ≠ []
  numbered : ∀ (k : Nat), ∀ row ∈ rows[k]?, row.val.sequence = ((k + 1 : Nat) : Int)
  session : ∀ row ∈ rows, row.val.replaySessionId = status.val.replaySessionId
  dataset : ∀ row ∈ rows, row.val.sourceDatasetSha256 = settings.sourceDatasetSha256
  contract : ∀ row ∈ rows, row.val.contractSha256 = settings.contractSha256
  completed : status.val.state = .completed
  last : status.val.lastSequence = some (rows.length : Int)

namespace CompletedSession

variable [PyFloat F] {settings : WorkerSettings} (session : CompletedSession F settings)

def id : UUID := session.status.val.replaySessionId

/-- The first event makes the builder. -/
def config : BuilderConfig :=
  .ofDefaults session.id (session.rows.head session.nonempty).val.machineId
    settings.sourceDatasetSha256 settings.contractSha256 settings.featureNames

/-- The first events, pushed once each. -/
def stream (n : Nat) : List (Pushed F) := (session.rows.take n).map fun row => (⟨0⟩, row)

/-- The vectors of the session: the builder is given the events once each, then
completed. -/
def features [Uuid5] [Sha256Digest] : Except BuilderError (List (FeatureVectorV1 F)) :=
  onlineFeatures session.config .new (session.stream session.rows.length) ⟨0⟩
    session.status.val.sourceTimestamp

/-- The event of a row, emitted at any time. -/
def IsCopy (k : Nat) (event : TelemetryEventV1 F) : Prop :=
  ∃ row ∈ session.rows[k]?, ∃ sentAt, event = TelemetryEventV1.emittedWhen sentAt row.val

variable {session} {k n : Nat} {event : TelemetryEventV1 F}

theorem IsCopy.lt (copy : session.IsCopy k event) : k < session.rows.length := by
  obtain ⟨row, held, -⟩ := copy
  exact (List.getElem?_eq_some_iff.mp held).1

theorem IsCopy.sequence (copy : session.IsCopy k event) : event.sequence = ((k + 1 : Nat) : Int) := by
  obtain ⟨row, held, sentAt, rfl⟩ := copy
  exact session.numbered k row held

theorem IsCopy.ofSession (copy : session.IsCopy k event) : event.replaySessionId = session.id := by
  obtain ⟨row, held, sentAt, rfl⟩ := copy
  exact session.session row (List.mem_of_getElem? held)

theorem IsCopy.identity (copy : session.IsCopy k event) :
    event.sourceDatasetSha256 = settings.sourceDatasetSha256 ∧
      event.contractSha256 = settings.contractSha256 := by
  obtain ⟨row, held, sentAt, rfl⟩ := copy
  exact ⟨session.dataset row (List.mem_of_getElem? held), session.contract row (List.mem_of_getElem? held)⟩

/-- The builder that the first event makes. -/
theorem IsCopy.config (copy : session.IsCopy 0 event) :
    BuilderConfig.ofDefaults event.replaySessionId event.machineId settings.sourceDatasetSha256
      settings.contractSha256 settings.featureNames = session.config := by
  have same := copy.ofSession
  obtain ⟨row, held, sentAt, rfl⟩ := copy
  obtain ⟨inside, first⟩ := List.getElem?_eq_some_iff.mp held
  rw [same]
  unfold CompletedSession.config
  rw [List.head_eq_getElem, first]
  rfl

theorem isCopy_repeatable [Sha256Digest] : Repeatable session.IsCopy := by
  refine ⟨IsCopy.sequence, ?_⟩
  rintro k event event' ⟨row, held, sentAt, rfl⟩ ⟨row', held', sentAt', rfl⟩
  cases held.symm.trans held'
  exact ⟨rfl, rfl⟩

section Stages

variable [Uuid5] [Sha256Digest] {builder : OnlineFeatureBuilder F} {vectors emitted : List (FeatureVectorV1 F)}

omit [Uuid5] [Sha256Digest] in
theorem stream_succ {row : Checked (TelemetryEventV1 F)} (held : session.rows[n]? = some row) :
    session.stream (n + 1) = session.stream n ++ [(⟨0⟩, row)] := by
  unfold stream
  rw [List.take_add_one, held, List.map_append]
  rfl

/-- The builder after some events comes from the one before the last of them. -/
theorem pushAll_stream_succ {row : Checked (TelemetryEventV1 F)} (held : session.rows[n]? = some row)
    (pushed : pushAll session.config .new (session.stream (n + 1)) = .ok (builder, emitted)) :
    ∃ before earlier result, pushAll session.config .new (session.stream n) = .ok (before, earlier) ∧
      before.push session.config ⟨0⟩ row.val = .ok (builder, result) ∧ emitted = earlier ++ result.features := by
  rw [stream_succ held, pushAll_concat] at pushed
  obtain ⟨⟨before, earlier⟩, first, rest⟩ := Lib.bind_eq_ok_iff.mp pushed
  obtain ⟨⟨after, result⟩, step, same⟩ := Lib.bind_eq_ok_iff.mp rest
  cases same
  exact ⟨before, earlier, result, first, step, rfl⟩

/-- Without a crash the events are all pushed, and what is left completes the builder. -/
theorem features_eq_ok (crashFree : session.features = .ok vectors) :
    ∃ builder emitted completed result,
      pushAll session.config .new (session.stream session.rows.length) = .ok (builder, emitted) ∧
      builder.complete session.config ⟨0⟩ session.status.val.sourceTimestamp = .ok (completed, result) ∧
      vectors = emitted ++ result.features := by
  obtain ⟨⟨builder, emitted⟩, pushed, rest⟩ := Lib.bind_eq_ok_iff.mp crashFree
  obtain ⟨⟨completed, result⟩, completes, same⟩ := Lib.bind_eq_ok_iff.mp rest
  cases same
  exact ⟨builder, emitted, completed, result, pushed, completes, rfl⟩

/-- The first events are pushed on the way, and emit the first vectors. -/
theorem exists_stage (crashFree : session.features = .ok vectors) (n : Nat) (inside : n ≤ session.rows.length) :
    ∃ builder emitted, pushAll session.config .new (session.stream n) = .ok (builder, emitted) ∧
      emitted <+: vectors := by
  induction inside using Nat.decreasingInduction with
  | self =>
      obtain ⟨builder, emitted, -, result, pushed, -, rfl⟩ := features_eq_ok crashFree
      exact ⟨builder, emitted, pushed, List.prefix_append _ _⟩
  | of_succ n less ih =>
      obtain ⟨builder, emitted, pushed, inside⟩ := ih
      obtain ⟨before, earlier, result, first, -, rfl⟩ :=
        pushAll_stream_succ (List.getElem?_eq_getElem less) pushed
      exact ⟨before, earlier, first, (List.prefix_append _ _).trans inside⟩

theorem stage_accepted (inside : n ≤ session.rows.length)
    (pushed : pushAll session.config .new (session.stream n) = .ok (builder, emitted)) :
    AcceptedUpTo session.IsCopy n builder ∧ builder.isComplete = false := by
  induction n generalizing builder emitted with
  | zero =>
      cases pushed
      exact ⟨rfl, rfl⟩
  | succ n ih =>
      have held := List.getElem?_eq_getElem (show n < session.rows.length by omega)
      obtain ⟨before, earlier, result, first, step, -⟩ := pushAll_stream_succ held pushed
      obtain ⟨accepted, «open»⟩ := ih (by omega) first
      have next : session.IsCopy n session.rows[n].val := ⟨_, held, session.rows[n].val.emittedAt, rfl⟩
      exact ⟨push_next isCopy_repeatable accepted next step, (push_isComplete step).trans «open»⟩

/-- An event that is pushed next, whenever it was emitted and whatever the clock says. -/
theorem push_copy (crashFree : session.features = .ok vectors) (copy : session.IsCopy n event)
    (pushed : pushAll session.config .new (session.stream n) = .ok (builder, emitted)) (pushedAt : Instant) :
    ∃ next, ∃ result : BuilderResult F,
      pushAll session.config .new (session.stream (n + 1)) = .ok (next, emitted ++ result.features) ∧
      builder.push session.config pushedAt event = .ok (next, result.emittedWhen pushedAt) := by
  have inside := copy.lt
  obtain ⟨row, held, sentAt, rfl⟩ := copy
  obtain ⟨next, later, pushed', -⟩ := exists_stage crashFree (n + 1) inside
  obtain ⟨before, earlier, result, first, step, rfl⟩ := pushAll_stream_succ held pushed'
  cases pushed.symm.trans first
  refine ⟨next, result, pushed', ?_⟩
  rw [push_clock ⟨0⟩, step]
  rfl

end Stages

end CompletedSession

/-! ### How far a process is -/

namespace OnlineFeatureBuilder

variable [PyFloat F] [Uuid5] {config : BuilderConfig} {builder completed : OnlineFeatureBuilder F}

theorem finalizeCurrentBin_last {emittedAt : Instant} {emitted : List (FeatureVectorV1 F)}
    (returned : builder.finalizeCurrentBin config emittedAt = .ok (completed, emitted)) :
    completed.lastSequence = builder.lastSequence ∧ completed.lastEventId = builder.lastEventId ∧
      completed.lastPayloadHash = builder.lastPayloadHash := by
  unfold finalizeCurrentBin at returned
  split at returned
  · cases returned
    exact ⟨rfl, rfl, rfl⟩
  · split at returned
    · dsimp only at returned
      generalize (if config.lookbackBins < _ then _ else _) = buffer at returned
      split at returned
      · obtain ⟨vector, -, same⟩ := Lib.bind_eq_ok_iff.mp returned
        obtain ⟨rfl, -⟩ := Prod.mk.inj (Lib.pure_eq_ok_iff.mp same)
        exact ⟨rfl, rfl, rfl⟩
      · obtain ⟨rfl, -⟩ := Prod.mk.inj (Lib.pure_eq_ok_iff.mp returned)
        exact ⟨rfl, rfl, rfl⟩
    · cases returned
      exact ⟨rfl, rfl, rfl⟩

/-- A completed builder still knows the event that it has accepted last. -/
theorem complete_accepted [Sha256Digest] {item : Nat → TelemetryEventV1 F → Prop} {n : Nat} {completedAt : Instant}
    {sourceTimestamp : Int} {result : BuilderResult F} (accepted : AcceptedUpTo item n builder)
    (returned : builder.complete config completedAt sourceTimestamp = .ok (completed, result)) :
    AcceptedUpTo item n completed := by
  unfold complete at returned
  split at returned
  · cases returned
  · obtain ⟨⟨closed, emitted⟩, finalised, same⟩ := Lib.bind_eq_ok_iff.mp returned
    obtain ⟨rfl, -⟩ := Prod.mk.inj (Lib.pure_eq_ok_iff.mp same)
    obtain ⟨sequence, eventId, payloadHash⟩ := finalizeCurrentBin_last finalised
    cases n with
    | zero => exact sequence.trans accepted
    | succ k =>
        obtain ⟨event, its, last⟩ := accepted
        exact ⟨event, its, sequence.trans last.sequence, eventId.trans last.eventId,
          payloadHash.trans last.payloadHash⟩

end OnlineFeatureBuilder

/-- The events a process has had, the records it has read of the two partitions, whether
the status was among them and whether the builder is completed. -/
structure HandshakeState where
  events : Nat
  telemetryRead : Nat
  statusesRead : Nat
  closed : Bool
  complete : Bool

/-- The builder is completed when the last of the events and the status have come. -/
def HandshakeState.settled (count : Nat) (state : HandshakeState) : HandshakeState :=
  { state with complete := state.closed && state.events == count }

theorem settled_of_end {count : Nat} (state : HandshakeState) (closed : state.closed = true)
    (all : state.events = count) : state.settled count = { state with complete := true } := by
  unfold HandshakeState.settled
  rw [closed, all, beq_self_eq_true]
  rfl

/-- What is tracked of a partition after some of its records. -/
def trackedAfter : Nat → Option Nat
  | 0 => none
  | n + 1 => some (n + 1)

section InSession

variable [PyFloat F] {settings : WorkerSettings}

/-- What a process knows. -/
structure Knows (session : CompletedSession F settings) (p q : Nat) (state : HandshakeState)
    (memory : WorkerMemory F) : Prop where
  keyed : memory.Keyed
  failed : memory.failedSessions = []
  blocked : memory.blockedPartitions = []
  selfEmitted : memory.selfEmittedStatusIds = []
  terminal : memory.terminalStatus.get? session.id = if state.closed then some session.status.val else none
  sequence : (memory.lastSequence.get? session.id).getD 0 = state.events
  telemetry : memory.tracked session.id ⟨.telemetry, p⟩ = trackedAfter state.telemetryRead
  statuses : memory.tracked session.id ⟨.replayStatus, q⟩ = trackedAfter state.statusesRead

/-- What has been done before the builder is completed, and before a commit. -/
def DueBefore (session : CompletedSession F settings) (score : FeatureVectorV1 F → ScoreDecisionV1 F)
    (vectors : List (FeatureVectorV1 F)) (before : List (WorkerAction F)) : WorkerAction F → Prop
  | .finalised _ _ => ∀ k < session.rows.length, ∃ event result, .pushed event result ∈ before ∧
      session.IsCopy k event
  | .commit _ => published before = scored score vectors
  | _ => True

/-- What a process has done. -/
structure HasDone (session : CompletedSession F settings) (score : FeatureVectorV1 F → ScoreDecisionV1 F)
    (vectors : List (FeatureVectorV1 F)) (state : HandshakeState) (actions : List (WorkerAction F)) :
    Prop where
  pushed : ∀ k < state.events, ∃ event result, .pushed event result ∈ actions ∧ session.IsCopy k event
  due : Lib.Recorded (DueBefore session score vectors) actions
  finalised : actions.countP WorkerAction.isFinalisation = if state.complete then 1 else 0
  commits : commitsOf actions ≠ [] → state.complete = true

variable [Uuid5] [Sha256Digest]

/-- The builder of the session, and what is published of it. -/
inductive BuilderAt (session : CompletedSession F settings) (score : FeatureVectorV1 F → ScoreDecisionV1 F)
    (vectors : List (FeatureVectorV1 F)) (state : HandshakeState) :
    Option (BuilderConfig × OnlineFeatureBuilder F) → List (Published F) → Prop where
  | unseen : state.events = 0 → state.complete = false →
      BuilderAt session score vectors state none []
  | underway {builder : OnlineFeatureBuilder F} {emitted : List (FeatureVectorV1 F)} :
      0 < state.events → state.complete = false →
      pushAll session.config .new (session.stream state.events) = .ok (builder, emitted) →
      BuilderAt session score vectors state (some (session.config, builder)) (scored score emitted)
  | completed {builder : OnlineFeatureBuilder F} : state.complete = true → state.closed = true →
      state.events = session.rows.length → AcceptedUpTo session.IsCopy state.events builder →
      builder.isComplete = true →
      BuilderAt session score vectors state (some (session.config, builder)) (scored score vectors)

/-- What a process knows and has done that began with the session. -/
structure InSession (session : CompletedSession F settings) (score : FeatureVectorV1 F → ScoreDecisionV1 F)
    (vectors : List (FeatureVectorV1 F)) (p q : Nat) (state : HandshakeState) (memory : WorkerMemory F)
    (actions : List (WorkerAction F)) : Prop where
  knows : Knows session p q state memory
  did : HasDone session score vectors state actions
  builder : BuilderAt session score vectors state (memory.builders.get? session.id) (published actions)

/-- Between two records a completed session is committed. -/
structure BetweenRecords (session : CompletedSession F settings)
    (score : FeatureVectorV1 F → ScoreDecisionV1 F) (vectors : List (FeatureVectorV1 F)) (p q : Nat)
    (state : HandshakeState) (memory : WorkerMemory F) (actions : List (WorkerAction F)) : Prop
    extends InSession session score vectors p q state memory actions where
  committed : state.complete = true → commitsOf actions ≠ []

variable {session : CompletedSession F settings} {score : FeatureVectorV1 F → ScoreDecisionV1 F}
  {vectors : List (FeatureVectorV1 F)} {p q : Nat} {state : HandshakeState} {memory : WorkerMemory F}
  {actions sent : List (WorkerAction F)} {stamp : HandlerStamp F} {event : TelemetryEventV1 F}

theorem betweenRecords_empty :
    BetweenRecords session score vectors p q ⟨0, 0, 0, false, false⟩ .empty [] where
  knows := ⟨nofun, rfl, rfl, rfl, rfl, rfl, rfl, rfl⟩
  did := ⟨nofun, Lib.recorded_nil, rfl, fun commits => absurd rfl commits⟩
  builder := .unseen rfl rfl
  committed := nofun

/-! Reading a record. -/

omit [PyFloat F] [Uuid5] [Sha256Digest] in
theorem tracked_trackOffset_ne {τ : UUID} {tp tp' : TopicPartition} {offset : Nat} (other : tp' ≠ tp) :
    (trackOffset τ tp offset memory).tracked τ tp' = memory.tracked τ tp' := by
  simp [WorkerMemory.tracked, trackOffset, Lib.Table.get?_set_ne other]

omit [Uuid5] [Sha256Digest] in
theorem Knows.telemetryRead (knows : Knows session p q state memory) :
    Knows session p q { state with telemetryRead := state.telemetryRead + 1 }
      (trackOffset session.id ⟨.telemetry, p⟩ state.telemetryRead memory) where
  keyed := knows.keyed
  failed := knows.failed
  blocked := knows.blocked
  selfEmitted := knows.selfEmitted
  terminal := knows.terminal
  sequence := knows.sequence
  telemetry := WorkerMemory.tracked_trackOffset_self _
  statuses := (tracked_trackOffset_ne (by simp)).trans knows.statuses

omit [Uuid5] [Sha256Digest] in
theorem Knows.statusesRead (knows : Knows session p q state memory) :
    Knows session p q { state with statusesRead := state.statusesRead + 1 }
      (trackOffset session.id ⟨.replayStatus, q⟩ state.statusesRead memory) where
  keyed := knows.keyed
  failed := knows.failed
  blocked := knows.blocked
  selfEmitted := knows.selfEmitted
  terminal := knows.terminal
  sequence := knows.sequence
  telemetry := (tracked_trackOffset_ne (by simp)).trans knows.telemetry
  statuses := WorkerMemory.tracked_trackOffset_self _

theorem BuilderAt.congr {state' : HandshakeState} {entry : Option (BuilderConfig × OnlineFeatureBuilder F)}
    {out : List (Published F)} (here : BuilderAt session score vectors state entry out)
    (events : state'.events = state.events) (complete : state'.complete = state.complete)
    (closed : state.closed = true → state'.closed = true) :
    BuilderAt session score vectors state' entry out := by
  cases here with
  | unseen none «open» => exact .unseen (events.trans none) (complete.trans «open»)
  | underway some «open» pushed =>
      refine .underway (events ▸ some) (complete.trans «open») ?_
      rw [events]
      exact pushed
  | completed done shut all accepted isComplete =>
      refine .completed (complete.trans done) (closed shut) (events.trans all) ?_ isComplete
      rw [events]
      exact accepted

theorem InSession.telemetryRead (here : InSession session score vectors p q state memory actions) :
    InSession session score vectors p q { state with telemetryRead := state.telemetryRead + 1 }
      (trackOffset session.id ⟨.telemetry, p⟩ state.telemetryRead memory) actions :=
  ⟨here.knows.telemetryRead, ⟨here.did.pushed, here.did.due, here.did.finalised, here.did.commits⟩,
    here.builder.congr rfl rfl id⟩

theorem InSession.statusesRead (here : InSession session score vectors p q state memory actions) :
    InSession session score vectors p q { state with statusesRead := state.statusesRead + 1 }
      (trackOffset session.id ⟨.replayStatus, q⟩ state.statusesRead memory) actions :=
  ⟨here.knows.statusesRead, ⟨here.did.pushed, here.did.due, here.did.finalised, here.did.commits⟩,
    here.builder.congr rfl rfl id⟩

/-! Sending, pushing and completing. -/

omit [Uuid5] [Sha256Digest] in
theorem HasDone.sends (did : HasDone session score vectors state actions)
    (messages : ∀ action ∈ sent, action.IsMessage) :
    HasDone session score vectors state (actions ++ sent) := by
  refine ⟨fun k before => ?_, did.due.append fun before action mem => ?_, ?_, fun commits => did.commits ?_⟩
  · obtain ⟨event, result, mem, copy⟩ := did.pushed k before
    exact ⟨event, result, List.mem_append_left _ mem, copy⟩
  · have message := messages action mem
    cases action <;> trivial
  · rw [List.countP_append, did.finalised, not_isFinalisation_of_messages messages, Nat.add_zero]
  · rwa [commitsOf_append, commitsOf_of_messages messages, List.append_nil] at commits

omit [Uuid5] [Sha256Digest] in
theorem HasDone.push (did : HasDone session score vectors state actions) {k n : Nat} {result : BuilderResult F}
    (copy : session.IsCopy k event) (next : n ≤ state.events ∨ n = k + 1 ∧ k = state.events) :
    HasDone session score vectors { state with events := n } (actions ++ [.pushed event result]) := by
  refine ⟨fun m before => ?_, Lib.recorded_concat_iff.mpr ⟨did.due, trivial⟩, ?_, fun commits => did.commits ?_⟩
  · by_cases earlier : m < state.events
    · obtain ⟨event, result, mem, copy⟩ := did.pushed m earlier
      exact ⟨event, result, List.mem_append_left _ mem, copy⟩
    · obtain rfl : m = k := by
        have before : m < n := before
        omega
      exact ⟨event, result, by simp, copy⟩
  · rw [List.countP_append, did.finalised]
    rfl
  · rwa [commitsOf_append, show commitsOf [WorkerAction.pushed event result] = [] from rfl,
      List.append_nil] at commits

omit [Uuid5] [Sha256Digest] in
/-- A push writes the builder and the sequence number of the session. -/
theorem Knows.push (knows : Knows session p q state memory) {k : Nat}
    (entry : BuilderConfig × OnlineFeatureBuilder F) (copy : session.IsCopy k event) :
    Knows session p q { state with events := k + 1 } { memory with
      builders := memory.builders.set event.replaySessionId entry
      lastSequence := memory.lastSequence.set event.replaySessionId event.sequence } := by
  refine ⟨knows.keyed, knows.failed, knows.blocked, knows.selfEmitted, knows.terminal, ?_, knows.telemetry,
    knows.statuses⟩
  dsimp only
  rw [copy.ofSession, Lib.Table.get?_set_self, copy.sequence]
  rfl

/-- The next event is pushed, and the vectors it emits are published. -/
theorem InSession.pushes_next (crashFree : session.features = .ok vectors) (answers : Answers settings score stamp)
    (here : InSession session score vectors p q state memory actions) (running : state.complete = false)
    (copy : session.IsCopy state.events event) :
    ∃ builder next result, builderOf settings event memory = (session.config, builder) ∧
      builder.push session.config stamp.pushedAt event = .ok (next, result) ∧
      ((Handled.acts (.pushed event result) { memory with
        builders := memory.builders.set event.replaySessionId (session.config, next)
        lastSequence := memory.lastSequence.set event.replaySessionId event.sequence }).andThen
          (processFeatures settings stamp result.features)).Reaches actions
        (InSession session score vectors p q { state with events := state.events + 1 }) := by
  have known : ∃ builder emitted, builderOf settings event memory = (session.config, builder) ∧
      pushAll session.config .new (session.stream state.events) = .ok (builder, emitted) ∧
      published actions = scored score emitted := by
    obtain ⟨-, -, entry⟩ := here
    unfold builderOf
    rw [copy.ofSession]
    generalize memory.builders.get? session.id = held at entry
    generalize published actions = out at entry
    cases entry with
    | unseen none _ =>
        rw [none] at copy ⊢
        refine ⟨.new, [], ?_, rfl, rfl⟩
        rw [Option.getD_none, ← copy.config, copy.ofSession]
    | underway _ _ pushed => exact ⟨_, _, rfl, pushed, rfl⟩
    | completed done => cases running.symm.trans done
  obtain ⟨builder, emitted, found, pushed, out⟩ := known
  obtain ⟨next, result, after, step⟩ := CompletedSession.push_copy crashFree copy pushed stamp.pushedAt
  refine ⟨builder, next, _, found, step, emits_reaches answers fun sent sends messages => ⟨?_, ?_, ?_⟩⟩
  · exact here.knows.push _ copy
  · exact (here.did.push copy (.inr ⟨rfl, rfl⟩)).sends messages
  · have published' : published (actions ++ [.pushed event (result.emittedWhen stamp.pushedAt)] ++ sent) =
        scored score (emitted ++ result.features) := by
      rw [published_append, published_append, out, sends, scored_append]
      show scored score emitted ++ [] ++ scored score (result.features.map _) = _
      rw [List.append_nil, scored_emittedWhen]
    rw [published', copy.ofSession, Lib.Table.get?_set_self]
    exact .underway (Nat.succ_pos _) running after

/-- The last event is pushed again, and ignored. -/
theorem InSession.pushes_again (here : InSession session score vectors p q state memory actions) {k : Nat}
    (last : state.events = k + 1) (copy : session.IsCopy k event) :
    ∃ builder, builderOf settings event memory = (session.config, builder) ∧
      builder.push session.config stamp.pushedAt event = .ok (builder, ⟨[], none⟩) ∧
      ((Handled.acts (.pushed event ⟨[], none⟩) { memory with
        builders := memory.builders.set event.replaySessionId (session.config, builder)
        lastSequence := memory.lastSequence.set event.replaySessionId event.sequence }).andThen
          (processFeatures settings stamp [])).Reaches actions
        (InSession session score vectors p q state) := by
  have inside := copy.lt
  have known : ∃ builder, memory.builders.get? session.id = some (session.config, builder) ∧
      AcceptedUpTo session.IsCopy (k + 1) builder := by
    obtain ⟨-, -, entry⟩ := here
    generalize memory.builders.get? session.id = held at entry
    generalize published actions = out at entry
    cases entry with
    | unseen none _ => omega
    | underway _ _ pushed =>
        rw [last] at pushed
        exact ⟨_, rfl, (CompletedSession.stage_accepted inside pushed).1⟩
    | completed _ _ _ accepted _ =>
        rw [last] at accepted
        exact ⟨_, rfl, accepted⟩
  obtain ⟨builder, held, accepted⟩ := known
  refine ⟨builder, ?_, push_again CompletedSession.isCopy_repeatable _ accepted copy, ?_⟩
  · unfold builderOf
    rw [copy.ofSession, held]
    rfl
  · have same : { state with events := k + 1 } = state := by rw [← last]
    have knows := here.knows.push (session.config, builder) copy
    have did : HasDone session score vectors { state with events := k + 1 } (actions ++ [.pushed event ⟨[], none⟩]) :=
      here.did.push copy (.inl last.ge)
    rw [same] at knows did
    have pushed : (Handled.acts (.pushed event ⟨[], none⟩) { memory with
        builders := memory.builders.set event.replaySessionId (session.config, builder)
        lastSequence := memory.lastSequence.set event.replaySessionId event.sequence }).Reaches actions
        (InSession session score vectors p q state) := by
      refine ⟨rfl, knows, did, ?_⟩
      have entry := here.builder
      rw [held] at entry
      show BuilderAt session score vectors state ((memory.builders.set _ _).get? _) (published (actions ++ [_]))
      rw [copy.ofSession, Lib.Table.get?_set_self, published_append]
      show BuilderAt session score vectors state _ (published actions ++ [])
      rw [List.append_nil]
      exact entry
    exact pushed.andThen fun memory actions there => done_reaches there

theorem InSession.all_published (here : InSession session score vectors p q state memory actions)
    (complete : state.complete = true) : published actions = scored score vectors := by
  obtain ⟨-, -, entry⟩ := here
  generalize memory.builders.get? session.id = held at entry
  generalize published actions = out at entry ⊢
  cases entry with
  | unseen _ running => cases running.symm.trans complete
  | underway _ running _ => cases running.symm.trans complete
  | completed => rfl

/-- The builder of a session that has come to its end is completed, once. -/
theorem InSession.finaliseBuilder (crashFree : session.features = .ok vectors)
    (answers : Answers settings score stamp) (here : InSession session score vectors p q state memory actions)
    (closed : state.closed = true) (all : state.events = session.rows.length) :
    (finaliseBuilder settings stamp session.status.val memory).Reaches actions
      (InSession session score vectors p q { state with complete := true }) := by
  obtain ⟨knows, did, entry⟩ := here
  unfold IndustrialReliability.finaliseBuilder
  rw [show session.status.val.replaySessionId = session.id from rfl]
  generalize held : memory.builders.get? session.id = slot at entry
  generalize sent : published actions = out at entry
  cases entry with
  | unseen none _ =>
      have some := List.length_pos_iff.mpr session.nonempty
      omega
  | @underway builder emitted some running pushed =>
      rw [all] at pushed
      have «open» := (CompletedSession.stage_accepted le_rfl pushed)
      obtain ⟨builder', emitted', completed, result, pushed', completes, rfl⟩ :=
        CompletedSession.features_eq_ok crashFree
      cases pushed.symm.trans pushed'
      have done : builder.complete session.config stamp.completedAt session.status.val.sourceTimestamp =
          .ok (completed, result.emittedWhen stamp.completedAt) := by
        rw [complete_clock ⟨0⟩, completes]
        rfl
      dsimp only
      rw [if_neg (by rw [«open».2]; exact Bool.false_ne_true), done]
      refine emits_reaches answers fun sent' sends messages => ⟨?_, ?_, ?_⟩
      · exact ⟨knows.keyed, knows.failed, knows.blocked, knows.selfEmitted, knows.terminal, knows.sequence,
          knows.telemetry, knows.statuses⟩
      · have finalised : HasDone session score (emitted ++ result.features) { state with complete := true }
            (actions ++ [.finalised session.id (result.emittedWhen stamp.completedAt)]) := by
          refine ⟨fun k before => ?_, Lib.recorded_concat_iff.mpr ⟨did.due, fun k before => ?_⟩, ?_, fun _ => rfl⟩
          · obtain ⟨event, result, mem, copy⟩ := did.pushed k before
            exact ⟨event, result, List.mem_append_left _ mem, copy⟩
          · exact did.pushed k (all ▸ before)
          · rw [List.countP_append, did.finalised, running]
            rfl
        exact finalised.sends messages
      · rw [Lib.Table.get?_set_self]
        have out : published (actions ++ [.finalised session.id (result.emittedWhen stamp.completedAt)] ++ sent') =
            scored score (emitted ++ result.features) := by
          rw [published_append, published_append, sent, sends, scored_append]
          show scored score emitted ++ [] ++ scored score (result.features.map _) = _
          rw [List.append_nil, scored_emittedWhen]
        rw [out]
        refine .completed rfl closed all ?_ (complete_flushed completes).1
        rw [show ({ state with complete := true } : HandshakeState).events = session.rows.length from all]
        exact complete_accepted «open».1 completes
  | completed complete _ _ accepted isComplete =>
      dsimp only
      rw [if_pos isComplete]
      have same : { state with complete := true } = state := by rw [← complete]
      rw [same]
      refine done_reaches ⟨knows, did, ?_⟩
      rw [held, sent]
      exact .completed complete closed all accepted isComplete

omit [Uuid5] [Sha256Digest] in
/-- There is an offset to commit when a record has been read. -/
theorem Knows.commitSession (knows : Knows session p q state memory)
    (read : 0 < state.telemetryRead + state.statusesRead) :
    ∃ offsets, commitSession session.id memory = .acts (.commit offsets) memory := by
  have tracked : ∃ tp n, memory.tracked session.id tp = some n := by
    have first := knows.telemetry
    have second := knows.statuses
    cases some : state.telemetryRead with
    | succ i =>
        rw [some] at first
        exact ⟨_, _, first⟩
    | zero =>
        obtain ⟨j, same⟩ : ∃ j, state.statusesRead = j + 1 := ⟨state.statusesRead - 1, by omega⟩
        rw [same] at second
        exact ⟨_, _, second⟩
  obtain ⟨tp, n, held⟩ := tracked
  unfold IndustrialReliability.commitSession
  unfold WorkerMemory.tracked at held
  cases mine : memory.sessionOffsets.get? session.id with
  | none =>
      rw [mine] at held
      cases held
  | some offsets =>
      rw [mine] at held
      have row : (tp, n) ∈ offsets.rows := Lib.Table.get?_eq_some_iff.mp held
      dsimp only
      rw [if_neg (List.ne_nil_of_mem row)]
      exact ⟨_, rfl⟩

/-- What is committed of a completed session comes behind everything it publishes. -/
theorem InSession.commitSession (here : InSession session score vectors p q state memory actions)
    (complete : state.complete = true) (read : 0 < state.telemetryRead + state.statusesRead) :
    (commitSession session.id memory).Reaches actions
      (BetweenRecords session score vectors p q state) := by
  obtain ⟨offsets, same⟩ := here.knows.commitSession read
  rw [same]
  refine ⟨rfl, ⟨here.knows, ⟨fun k before => ?_, ?_, ?_, fun _ => complete⟩, ?_⟩, fun _ => ?_⟩
  · obtain ⟨event, result, mem, copy⟩ := here.did.pushed k before
    exact ⟨event, result, List.mem_append_left _ mem, copy⟩
  · exact Lib.recorded_concat_iff.mpr ⟨here.did.due, here.all_published complete⟩
  · rw [List.countP_append, here.did.finalised]
    rfl
  · rw [published_append]
    show BuilderAt session score vectors state _ (published actions ++ [])
    rw [List.append_nil]
    exact here.builder
  · rw [commitsOf_append]
    exact List.append_ne_nil_of_right_ne_nil _ (List.cons_ne_nil _ _)

theorem InSession.completeSession (crashFree : session.features = .ok vectors)
    (answers : Answers settings score stamp) (here : InSession session score vectors p q state memory actions)
    (closed : state.closed = true) (all : state.events = session.rows.length)
    (read : 0 < state.telemetryRead + state.statusesRead) :
    (completeSession settings stamp session.status.val memory).Reaches actions
      (BetweenRecords session score vectors p q { state with complete := true }) := by
  unfold IndustrialReliability.completeSession
  rw [if_neg (by simp [here.knows.failed])]
  refine (here.finaliseBuilder crashFree answers closed all).andThen fun memory actions there => ?_
  exact there.commitSession rfl read

/-- A process that has both the last event and the status completes the session. -/
theorem InSession.settle (here : InSession session score vectors p q state memory actions)
    (waiting : ¬ (state.closed = true ∧ state.events = session.rows.length)) :
    BetweenRecords session score vectors p q (state.settled session.rows.length) memory actions := by
  have running : state.complete = false := by
    obtain ⟨-, -, entry⟩ := here
    generalize memory.builders.get? session.id = held at entry
    generalize published actions = out at entry
    cases entry with
    | unseen _ running => exact running
    | underway _ running _ => exact running
    | completed _ closed all => exact absurd ⟨closed, all⟩ waiting
  have same : state.settled session.rows.length = state := by
    unfold HandshakeState.settled
    have not : (state.closed && state.events == session.rows.length) = false := by simpa using waiting
    rw [not, ← running]
  rw [same]
  exact ⟨here, fun complete => by cases running.symm.trans complete⟩

/-- The barrier behind the telemetry: the session completes with the last event, if the
status has come. -/
theorem InSession.checkBarrier (crashFree : session.features = .ok vectors)
    (answers : Answers settings score stamp) (here : InSession session score vectors p q state memory actions)
    (sequence : event.sequence = state.events) (mine : event.replaySessionId = session.id)
    (read : 0 < state.telemetryRead + state.statusesRead) :
    (checkBarrier settings stamp event memory).Reaches actions
      (BetweenRecords session score vectors p q (state.settled session.rows.length)) := by
  unfold IndustrialReliability.checkBarrier
  rw [mine, here.knows.terminal]
  by_cases closed : state.closed = true
  · rw [if_pos closed]
    dsimp only
    rw [session.completed, session.last, sequence]
    by_cases all : state.events = session.rows.length
    · rw [if_pos ⟨rfl, by rw [all]⟩, settled_of_end state closed all]
      exact here.completeSession crashFree answers closed all read
    · rw [if_neg fun both => all (by exact_mod_cast (Option.some.inj both.2).symm)]
      exact done_reaches (here.settle fun both => all both.2)
  · rw [if_neg closed]
    exact done_reaches (here.settle fun both => closed both.1)

/-! Handling a record. -/

theorem InSession.running (here : InSession session score vectors p q state memory actions)
    (fewer : state.events < session.rows.length) : state.complete = false := by
  obtain ⟨-, -, entry⟩ := here
  generalize memory.builders.get? session.id = held at entry
  generalize published actions = out at entry
  cases entry with
  | unseen _ running => exact running
  | underway _ running _ => exact running
  | completed _ _ all => omega

/-- An event that is pushed behind its checks. -/
theorem handleRecord_telemetry (knows : Knows session p q state memory) {k : Nat} {digest : Sha256}
    {event : Checked (TelemetryEventV1 F)} (copy : session.IsCopy k event.val) :
    handleRecord settings stamp ⟨⟨digest, .telemetry (.ok event)⟩, p, state.telemetryRead⟩ memory =
      pushTelemetry settings stamp event.val
        (trackOffset session.id ⟨.telemetry, p⟩ state.telemetryRead memory) := by
  obtain ⟨event, valid⟩ := event
  obtain ⟨dataset, contract⟩ := copy.identity
  dsimp only at dataset contract
  unfold handleRecord handleTelemetryRecord
  dsimp only
  rw [if_neg (by simp [knows.blocked]), if_neg (by simp [knows.failed]),
    if_neg (by simp [dataset, contract]), copy.ofSession]

theorem pushTelemetry_reaches {config : BuilderConfig} {builder next : OnlineFeatureBuilder F}
    {result : BuilderResult F} {mid post : WorkerMemory F → List (WorkerAction F) → Prop}
    (found : builderOf settings event memory = (config, builder))
    (pushed : builder.push config stamp.pushedAt event = .ok (next, result))
    (first : ((Handled.acts (.pushed event result) { memory with
      builders := memory.builders.set event.replaySessionId (config, next)
      lastSequence := memory.lastSequence.set event.replaySessionId event.sequence }).andThen
        (processFeatures settings stamp result.features)).Reaches actions mid)
    (later : ∀ memory actions, mid memory actions →
      (checkBarrier settings stamp event memory).Reaches actions post) :
    (pushTelemetry settings stamp event memory).Reaches actions post := by
  unfold pushTelemetry
  rw [found]
  dsimp only
  rw [pushed]
  exact first.andThen later

/-- The next event is pushed, and completes the session if it is the last and the status
has come. -/
theorem InSession.telemetry_next (crashFree : session.features = .ok vectors)
    (answers : Answers settings score stamp) (here : InSession session score vectors p q state memory actions)
    (digest : Sha256) {event : Checked (TelemetryEventV1 F)} (copy : session.IsCopy state.events event.val) :
    (handleRecord settings stamp ⟨⟨digest, .telemetry (.ok event)⟩, p, state.telemetryRead⟩ memory).Reaches
      actions (BetweenRecords session score vectors p q ({ state with
        events := state.events + 1
        telemetryRead := state.telemetryRead + 1 }.settled session.rows.length)) := by
  rw [handleRecord_telemetry here.knows copy]
  obtain ⟨builder, next, result, found, pushed, first⟩ :=
    here.telemetryRead.pushes_next crashFree answers (here.running copy.lt) copy
  exact pushTelemetry_reaches found pushed first fun memory actions there =>
    there.checkBarrier crashFree answers copy.sequence copy.ofSession (by dsimp only; omega)

/-- An event that comes again is ignored. -/
theorem InSession.telemetry_again (crashFree : session.features = .ok vectors)
    (answers : Answers settings score stamp) (here : InSession session score vectors p q state memory actions)
    (digest : Sha256) {event : Checked (TelemetryEventV1 F)} {k : Nat} (last : state.events = k + 1)
    (copy : session.IsCopy k event.val) :
    (handleRecord settings stamp ⟨⟨digest, .telemetry (.ok event)⟩, p, state.telemetryRead⟩ memory).Reaches
      actions (BetweenRecords session score vectors p q ({ state with
        telemetryRead := state.telemetryRead + 1 }.settled session.rows.length)) := by
  rw [handleRecord_telemetry here.knows copy]
  obtain ⟨builder, found, pushed, first⟩ := here.telemetryRead.pushes_again last copy
  refine pushTelemetry_reaches found pushed first fun memory actions there =>
    there.checkBarrier crashFree answers ?_ copy.ofSession (by dsimp only; omega)
  rw [copy.sequence]
  exact congrArg _ last.symm

/-- A status of the session that does not end it. -/
def Announces (session : CompletedSession F settings) (status : ReplayStatusV1) : Prop :=
  status.replaySessionId = session.id ∧ status.state ≠ .completed ∧ status.state ≠ .stopped ∧
    status.state ≠ .failed

theorem BetweenRecords.status_other (here : BetweenRecords session score vectors p q state memory actions)
    (digest : Sha256) {status : Checked ReplayStatusV1} (announces : Announces session status.val) :
    (handleRecord settings stamp ⟨⟨digest, .status (.ok status)⟩, q, state.statusesRead⟩ memory).Reaches
      actions (BetweenRecords session score vectors p q { state with
        statusesRead := state.statusesRead + 1 }) := by
  obtain ⟨status, valid⟩ := status
  obtain ⟨mine, other, stopped, failed⟩ := announces
  dsimp only at mine other stopped failed
  unfold handleRecord handleStatusRecord
  dsimp only
  rw [if_neg (by simp [here.knows.selfEmitted]), mine]
  split
  · rename_i state
    exact absurd state failed
  · rename_i state
    exact absurd state other
  · rename_i state
    exact absurd state stopped
  · exact done_reaches ⟨here.statusesRead, here.committed⟩

/-- The status completes the session if the last event has come. -/
theorem InSession.status_closes (crashFree : session.features = .ok vectors)
    (answers : Answers settings score stamp) (here : InSession session score vectors p q state memory actions)
    (digest : Sha256) (inside : state.events ≤ session.rows.length) :
    (handleRecord settings stamp ⟨⟨digest, .status (.ok session.status)⟩, q, state.statusesRead⟩ memory).Reaches
      actions (BetweenRecords session score vectors p q ({ state with
        statusesRead := state.statusesRead + 1
        closed := true }.settled session.rows.length)) := by
  have read := here.statusesRead
  have shut : InSession session score vectors p q
      { state with statusesRead := state.statusesRead + 1, closed := true }
      { trackOffset session.id ⟨.replayStatus, q⟩ state.statusesRead memory with
        terminalStatus := memory.terminalStatus.set session.id session.status.val } actions := by
    refine ⟨⟨?_, read.knows.failed, read.knows.blocked, read.knows.selfEmitted,
      Lib.Table.get?_set_self _ _ _, read.knows.sequence, read.knows.telemetry, read.knows.statuses⟩,
      ⟨read.did.pushed, read.did.due, read.did.finalised, read.did.commits⟩, read.builder.congr rfl rfl fun _ => rfl⟩
    intro τ term held
    by_cases same : τ = session.id
    · subst same
      obtain rfl := Option.some.inj ((Lib.Table.get?_set_self _ _ _).symm.trans held)
      rfl
    · exact here.knows.keyed τ term ((Lib.Table.get?_set_ne same).symm.trans held)
  unfold handleRecord handleStatusRecord
  dsimp only
  rw [if_neg (by simp [here.knows.selfEmitted]), session.completed]
  dsimp only
  unfold handleTerminal
  dsimp only
  rw [show session.status.val.replaySessionId = session.id from rfl, session.last]
  split
  · rename_i reached
    obtain ⟨last, same, below⟩ := reached
    cases same
    have sequence := shut.knows.sequence
    dsimp only at sequence
    rw [sequence] at below
    have all : state.events = session.rows.length := by omega
    rw [settled_of_end { state with statusesRead := state.statusesRead + 1, closed := true } rfl all]
    exact shut.completeSession crashFree answers rfl all (by dsimp only; omega)
  · rename_i before
    refine done_reaches (shut.settle fun both => before ⟨_, rfl, ?_⟩)
    have sequence := shut.knows.sequence
    dsimp only at sequence both
    rw [sequence, both.2]

end InSession

end IndustrialReliability
