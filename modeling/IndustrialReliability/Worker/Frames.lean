import IndustrialReliability.Worker.Service

/-!
What the handlers of the worker leave alone, and what they have done when they return.

A handler writes the entries of the session of its record only (`Within`). One that
returns has published and scored every vector that a builder has returned in it
(`AllScored`), and a commit is the last thing it does.
-/

namespace IndustrialReliability

variable {F : Type}

/-! ### Sequencing -/

namespace Handled

variable {first : Handled F} {next : WorkerMemory F → Handled F}

theorem andThen_of_ok (ok : first.returned = .ok ()) : first.andThen next =
    ⟨first.actions ++ (next first.memory).actions, (next first.memory).memory,
      (next first.memory).returned⟩ := by
  unfold andThen
  rw [ok]

theorem andThen_of_error {error : HandlerError} (raised : first.returned = .error error) :
    first.andThen next = first := by
  unfold andThen
  rw [raised]

theorem andThen_returned (ok : (first.andThen next).returned = .ok ()) :
    first.returned = .ok () ∧ (next first.memory).returned = .ok () := by
  cases before : first.returned with
  | error error =>
      rw [andThen_of_error before, before] at ok
      cases ok
  | ok _ =>
      rw [andThen_of_ok before] at ok
      exact ⟨rfl, ok⟩

end Handled

/-! ### Frames -/

namespace WorkerMemory

/-- Every terminal status is kept under its own session. -/
def Keyed (memory : WorkerMemory F) : Prop :=
  ∀ session, ∀ status ∈ memory.terminalStatus.get? session, status.replaySessionId = session

/-- Only entries of one session have been written, and sessions have failed. -/
structure Within (session : UUID) (memory memory' : WorkerMemory F) : Prop where
  offsets : memory'.sessionOffsets = memory.sessionOffsets
  blocked : memory'.blockedPartitions = memory.blockedPartitions
  failed : ∀ τ ∈ memory.failedSessions, τ ∈ memory'.failedSessions
  builders : ∀ τ, τ ≠ session → memory'.builders.get? τ = memory.builders.get? τ
  terminal : ∀ τ, τ ≠ session → memory'.terminalStatus.get? τ = memory.terminalStatus.get? τ
  sequence : ∀ τ, τ ≠ session → memory'.lastSequence.get? τ = memory.lastSequence.get? τ
  keyed : memory.Keyed → memory'.Keyed

variable {session : UUID} {memory memory' memory'' : WorkerMemory F}

theorem Within.refl (session : UUID) (memory : WorkerMemory F) : memory.Within session memory :=
  ⟨rfl, rfl, fun _ mem => mem, fun _ _ => rfl, fun _ _ => rfl, fun _ _ => rfl, id⟩

theorem Within.trans (first : memory.Within session memory')
    (second : memory'.Within session memory'') : memory.Within session memory'' where
  offsets := second.offsets.trans first.offsets
  blocked := second.blocked.trans first.blocked
  failed τ mem := second.failed τ (first.failed τ mem)
  builders τ other := (second.builders τ other).trans (first.builders τ other)
  terminal τ other := (second.terminal τ other).trans (first.terminal τ other)
  sequence τ other := (second.sequence τ other).trans (first.sequence τ other)
  keyed keyed := second.keyed (first.keyed keyed)

end WorkerMemory

theorem Handled.andThen_within {session : UUID} {memory : WorkerMemory F} {first : Handled F}
    {next : WorkerMemory F → Handled F} (before : memory.Within session first.memory)
    (after : ∀ memory : WorkerMemory F, memory.Within session (next memory).memory) :
    memory.Within session (first.andThen next).memory := by
  cases ended : first.returned with
  | error error =>
      rw [andThen_of_error ended]
      exact before
  | ok _ =>
      rw [andThen_of_ok ended]
      exact before.trans (after first.memory)

/-! ### What has been published -/

/-- The vectors a builder returned in an action. -/
def WorkerAction.returnedFeatures : WorkerAction F → List (FeatureVectorV1 F)
  | .pushed _ result | .finalised _ result => result.features
  | _ => []

/-- The vector is published, and a decision about it. -/
def Scored (actions : List (WorkerAction F)) (vector : FeatureVectorV1 F) : Prop :=
  .feature vector ∈ actions ∧ ∃ decision, .score decision ∈ actions ∧
    decision.windowId = vector.windowId

/-- Every vector that a builder returned is published and scored. -/
def AllScored (actions : List (WorkerAction F)) : Prop :=
  ∀ action ∈ actions, ∀ vector ∈ action.returnedFeatures, Scored actions vector

section Published

variable {actions actions' : List (WorkerAction F)} {vector : FeatureVectorV1 F}

theorem Scored.mono (scored : Scored actions vector) (sub : actions ⊆ actions') :
    Scored actions' vector := by
  obtain ⟨published, decision, decided, about⟩ := scored
  exact ⟨sub published, decision, sub decided, about⟩

theorem allScored_nil : AllScored ([] : List (WorkerAction F)) := nofun

theorem AllScored.append (first : AllScored actions) (second : AllScored actions') :
    AllScored (actions ++ actions') := by
  intro action mem vector returned
  rcases List.mem_append.mp mem with before | after
  · exact (first action before vector returned).mono (List.subset_append_left _ _)
  · exact (second action after vector returned).mono (List.subset_append_right _ _)

/-- Actions in which no builder returned a vector. -/
theorem allScored_of_quiet (quiet : ∀ action ∈ actions, action.returnedFeatures = []) :
    AllScored actions := by
  intro action mem vector returned
  rw [quiet action mem] at returned
  cases returned

theorem commitsOf_append (actions actions' : List (WorkerAction F)) :
    commitsOf (actions ++ actions') = commitsOf actions ++ commitsOf actions' :=
  List.filterMap_append

end Published

/-- A message on its way out: no builder is called, nothing committed. -/
def WorkerAction.IsMessage : WorkerAction F → Prop
  | .feature _ | .score _ | .status _ | .quarantine _ => True
  | _ => False

theorem commitsOf_of_messages {actions : List (WorkerAction F)}
    (messages : ∀ action ∈ actions, action.IsMessage) : commitsOf actions = [] := by
  refine List.filterMap_eq_nil_iff.mpr fun action mem => ?_
  have message := messages action mem
  cases action <;> simp_all [WorkerAction.IsMessage, WorkerAction.committedOffsets]

theorem allScored_of_messages {actions : List (WorkerAction F)}
    (messages : ∀ action ∈ actions, action.IsMessage) : AllScored actions := by
  refine allScored_of_quiet fun action mem => ?_
  have message := messages action mem
  cases action <;> simp_all [WorkerAction.IsMessage, WorkerAction.returnedFeatures]

/-- A handler that only sends messages. -/
structure Handled.Sends (memory : WorkerMemory F) (handled : Handled F) : Prop where
  messages : ∀ action ∈ handled.actions, action.IsMessage
  within : ∀ session, memory.Within session handled.memory

theorem Handled.Sends.andThen {memory : WorkerMemory F} {first : Handled F}
    {next : WorkerMemory F → Handled F} (before : first.Sends memory)
    (after : ∀ memory, (next memory).Sends memory) : (first.andThen next).Sends memory := by
  refine ⟨?_, fun session => andThen_within (before.within session)
    fun memory => (after memory).within session⟩
  cases ended : first.returned with
  | error error =>
      rw [andThen_of_error ended]
      exact before.messages
  | ok _ =>
      rw [andThen_of_ok ended]
      intro action mem
      rcases List.mem_append.mp mem with earlier | later
      · exact before.messages action earlier
      · exact (after first.memory).messages action later

section Messages

variable {settings : WorkerSettings} {stamp : HandlerStamp F} {memory : WorkerMemory F}

theorem done_sends (memory : WorkerMemory F) : (Handled.done memory).Sends memory :=
  ⟨nofun, fun session => .refl session memory⟩

theorem raised_sends (error : HandlerError) (memory : WorkerMemory F) :
    (Handled.raised error memory).Sends memory :=
  ⟨nofun, fun session => .refl session memory⟩

theorem acts_sends (action : WorkerAction F) (message : action.IsMessage)
    (memory : WorkerMemory F) : (Handled.acts action memory).Sends memory := by
  refine ⟨fun other mem => ?_, fun session => .refl session memory⟩
  rw [List.mem_singleton.mp mem]
  exact message

theorem publishWorkerQuarantine_sends (payloadSha256 : Sha256) (tp : TopicPartition) (offset : Nat)
    (errorCode errorDetail : String) :
    (publishWorkerQuarantine stamp payloadSha256 tp offset errorCode errorDetail memory).Sends
      memory :=
  acts_sends (.quarantine _) trivial memory

theorem failWorkerSession_sends (session : UUID) (errorCode : String) (lastSeq sourceTs : Int) :
    (failWorkerSession settings stamp session errorCode lastSeq sourceTs memory).Sends memory := by
  have within : ∀ τ, memory.Within τ { memory with
      failedSessions := memory.failedSessions.insert session
      selfEmittedStatusIds := memory.selfEmittedStatusIds.insert stamp.statusId } := by
    intro τ
    exact ⟨rfl, rfl, fun _ mem => List.mem_insert_of_mem mem, fun _ _ => rfl, fun _ _ => rfl,
      fun _ _ => rfl, id⟩
  unfold failWorkerSession
  dsimp only
  split
  · exact ⟨nofun, within⟩
  · refine ⟨fun action mem => ?_, within⟩
    rw [List.mem_singleton.mp mem]
    trivial

/-- A session that is failed is failed from then on. -/
theorem failWorkerSession_failed (session : UUID) (errorCode : String) (lastSeq sourceTs : Int) :
    session ∈ (failWorkerSession settings stamp session errorCode lastSeq sourceTs
      memory).memory.failedSessions := by
  unfold failWorkerSession
  dsimp only
  split <;> exact List.mem_insert_self

theorem processFeature_sends (feature : FeatureVectorV1 F) :
    (processFeature settings stamp feature memory).Sends memory := by
  refine (acts_sends (.feature feature) trivial memory).andThen fun memory => ?_
  split
  · exact (failWorkerSession_sends _ _ _ _).andThen fun memory => raised_sends _ memory
  · rename_i decision _
    exact acts_sends (.score decision) trivial memory

theorem processFeatures_sends (features : List (FeatureVectorV1 F)) :
    (processFeatures settings stamp features memory).Sends memory := by
  induction features generalizing memory with
  | nil => exact done_sends memory
  | cons feature rest ih => exact (processFeature_sends feature).andThen fun memory => ih

/-- A decision is returned about the window asked for. -/
theorem scoringClientScore_windowId {feature : FeatureVectorV1 F} {decision : ScoreDecisionV1 F}
    (scored : scoringClientScore settings stamp feature = .ok decision) :
    decision.windowId = feature.windowId := by
  obtain ⟨answered, -, validated⟩ := Lib.bind_eq_ok_iff.mp scored
  unfold validatedDecision at validated
  split at validated
  · cases validated
  · split at validated
    · cases validated
    · rename_i same
      repeat' split at validated
      all_goals cases validated
      exact not_not.mp same

/-- When a vector is processed without an exception, it is published and scored, and
the memory is as before. -/
theorem processFeature_ok {feature : FeatureVectorV1 F}
    (ok : (processFeature settings stamp feature memory).returned = .ok ()) :
    ∃ decision, scoringClientScore settings stamp feature = .ok decision ∧
      processFeature settings stamp feature memory =
        ⟨[.feature feature, .score decision], memory, .ok ()⟩ := by
  unfold processFeature at ok ⊢
  have second := (Handled.andThen_returned ok).2
  cases scored : scoringClientScore settings stamp feature with
  | error error =>
      simp only [scored] at second
      cases (Handled.andThen_returned second).2
  | ok decision => exact ⟨decision, rfl, rfl⟩

theorem processFeatures_ok {features : List (FeatureVectorV1 F)}
    (ok : (processFeatures settings stamp features memory).returned = .ok ()) :
    (processFeatures settings stamp features memory).memory = memory ∧
      ∀ vector ∈ features,
        Scored (processFeatures settings stamp features memory).actions vector := by
  induction features with
  | nil => exact ⟨rfl, nofun⟩
  | cons feature rest ih =>
      unfold processFeatures at ok ⊢
      obtain ⟨first, second⟩ := Handled.andThen_returned ok
      obtain ⟨decision, scored, same⟩ := processFeature_ok first
      rw [same] at second ⊢
      obtain ⟨kept, published⟩ := ih second
      rw [Handled.andThen_of_ok rfl]
      refine ⟨kept, List.forall_mem_cons.mpr ⟨⟨?_, decision, ?_, ?_⟩, fun vector mem => ?_⟩⟩
      · exact List.mem_append_left _ List.mem_cons_self
      · exact List.mem_append_left _ (by simp)
      · exact scoringClientScore_windowId scored
      · exact (published vector mem).mono (List.subset_append_right _ _)

/-- A builder has returned in a handler, which publishes the vectors. -/
structure Handled.Emits (memory : WorkerMemory F) (handled : Handled F) : Prop where
  within : ∀ session, memory.Within session handled.memory
  noCommit : commitsOf handled.actions = []
  scored : handled.returned = .ok () → handled.memory = memory ∧ AllScored handled.actions

theorem processFeatures_emits {action : WorkerAction F} {features : List (FeatureVectorV1 F)}
    (noCommit : action.committedOffsets = none) (returned : action.returnedFeatures = features) :
    ((Handled.acts action memory).andThen (processFeatures settings stamp features)).Emits
      memory := by
  have sends : (processFeatures settings stamp features memory).Sends memory :=
    processFeatures_sends features
  rw [Handled.andThen_of_ok rfl]
  refine ⟨sends.within, ?_, fun ok => ⟨(processFeatures_ok ok).1, ?_⟩⟩
  · have first : commitsOf (Handled.acts action memory).actions = [] := by
      unfold commitsOf Handled.acts
      rw [List.filterMap_cons, noCommit]
      rfl
    rw [commitsOf_append, first]
    exact commitsOf_of_messages sends.messages
  · intro other mem vector held
    rcases List.mem_append.mp mem with builder | sent
    · rw [List.mem_singleton.mp builder, returned] at held
      exact ((processFeatures_ok ok).2 vector held).mono (List.subset_append_right _ _)
    · exact (allScored_of_messages sends.messages other sent vector held).mono
        (List.subset_append_right _ _)

end Messages

end IndustrialReliability
