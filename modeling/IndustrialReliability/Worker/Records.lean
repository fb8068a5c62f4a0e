import IndustrialReliability.Worker.Handles

/-!
The sessions, by the records that have been read.

Of the records that a process has read, the telemetry behind an undecodable record of its
partition does not count. The rest, the latest first (`hear`), says whether a session has
failed (`FailedBy`), whether a record ends it (`Ends`), whether events came behind its end
(`Reopened`), and so whether it is closed (`ClosedBy`). Nothing of the worker's memory is
looked at.
-/

namespace IndustrialReliability

variable {F : Type}

section Records

variable [PyFloat F]

def WorkerRecord.event? (record : WorkerRecord F) : Option (TelemetryEventV1 F) :=
  match record.value with
  | .telemetry (.ok event) => some event.val
  | _ => none

def WorkerRecord.status? (record : WorkerRecord F) : Option ReplayStatusV1 :=
  match record.value with
  | .status (.ok status) => some status.val
  | _ => none

/-- The sequence number of an event of the session. -/
def WorkerRecord.sequenceOf (record : WorkerRecord F) (session : UUID) : Option Int :=
  (record.event?.filter fun event => event.replaySessionId = session).map (·.sequence)

/-- A status that closes the session. -/
def WorkerRecord.terminalOf (record : WorkerRecord F) (session : UUID) : Option ReplayStatusV1 :=
  record.status?.filter fun status =>
    status.replaySessionId = session ∧ (status.state = .completed ∨ status.state = .stopped)

/-- The session fails: an event of it does not match the scoring package, or its status
is that it failed. -/
def WorkerRecord.Fails (settings : WorkerSettings) (record : WorkerRecord F) (session : UUID) : Prop :=
  (∃ event ∈ record.event?, event.replaySessionId = session ∧
    (event.sourceDatasetSha256 ≠ settings.sourceDatasetSha256 ∨
      event.contractSha256 ≠ settings.contractSha256)) ∨
  ∃ status ∈ record.status?, status.replaySessionId = session ∧ status.state = .failed

/-! ### What has been read, the latest first -/

/-- An undecodable record of the partition has been read. -/
def Blocked (heard : List (WorkerRecord F)) (tp : TopicPartition) : Prop :=
  ∃ record ∈ heard, record.session = none ∧ record.tp = tp

/-- Telemetry behind an undecodable record of its partition. -/
def Unheard (heard : List (WorkerRecord F)) (record : WorkerRecord F) : Prop :=
  record.topic = .telemetry ∧ Blocked heard record.tp

instance (heard : List (WorkerRecord F)) (record : WorkerRecord F) :
    Decidable (Unheard heard record) :=
  inferInstanceAs (Decidable (_ ∧ ∃ earlier ∈ heard, _ ∧ _))

/-- One more record is read. -/
def hear (heard : List (WorkerRecord F)) (record : WorkerRecord F) : List (WorkerRecord F) :=
  if Unheard heard record then heard else record :: heard

def FailedBy (settings : WorkerSettings) (heard : List (WorkerRecord F)) (session : UUID) : Prop :=
  ∃ record ∈ heard, record.Fails settings session

def lastSequenceOf (heard : List (WorkerRecord F)) (session : UUID) : Option Int :=
  heard.findSome? (·.sequenceOf session)

def lastTerminal (heard : List (WorkerRecord F)) (session : UUID) : Option ReplayStatusV1 :=
  heard.findSome? (·.terminalOf session)

/-- The offset of the last record of the session on a partition. -/
def lastOffsetOf (heard : List (WorkerRecord F)) (session : UUID) (tp : TopicPartition) : Option Nat :=
  (heard.find? fun mine => mine.session = some session ∧ mine.tp = tp).map (·.offset)

/-- The last closing status names a sequence number that has been reached. -/
def Reached (heard : List (WorkerRecord F)) (session : UUID) : Prop :=
  ∃ term ∈ lastTerminal heard session, ∃ last ∈ term.lastSequence,
    last ≤ (lastSequenceOf heard session).getD 0

/-- The record ends the session: it is the last event of one that is completed, or a
closing status behind the last event. -/
def Ends (settings : WorkerSettings) (heard : List (WorkerRecord F)) (record : WorkerRecord F)
    (session : UUID) : Prop :=
  ((∃ sequence ∈ record.sequenceOf session, ∃ term ∈ lastTerminal heard session,
      term.state = .completed ∧ term.lastSequence = some sequence) ∨
    ∃ term ∈ record.terminalOf session, ∃ last ∈ term.lastSequence,
      last ≤ (lastSequenceOf heard session).getD 0) ∧
  ¬ FailedBy settings (record :: heard) session

/-- A record has ended the session, which had events. -/
def Ended (settings : WorkerSettings) : List (WorkerRecord F) → UUID → Prop
  | [], _ => False
  | record :: earlier, session =>
      Ends settings earlier record session ∧ lastSequenceOf (record :: earlier) session ≠ none ∨
        Ended settings earlier session

/-- An event with another sequence number came behind the end of the session. -/
def Reopened (settings : WorkerSettings) : List (WorkerRecord F) → UUID → Prop
  | [], _ => False
  | record :: earlier, session =>
      (Ended settings earlier session ∧ ∃ sequence ∈ record.sequenceOf session,
        lastSequenceOf earlier session ≠ some sequence) ∨ Reopened settings earlier session

/-- The session has failed, or ended with nothing left of it. -/
def ClosedBy (settings : WorkerSettings) (heard : List (WorkerRecord F)) (session : UUID) : Prop :=
  FailedBy settings heard session ∨ Reached heard session ∧
    (lastSequenceOf heard session ≠ none →
      Ended settings heard session ∧ ¬ Reopened settings heard session)

/-- A status under an id that the process was given for a status of its own is its own:
it says again that its session has failed. -/
def OwnOrForeign (settings : WorkerSettings) (heard : List (WorkerRecord F)) (drawn : List UUID)
    (record : WorkerRecord F) : Prop :=
  ∀ status ∈ record.status?, status.messageId ∈ drawn →
    status.state = .failed ∧ FailedBy settings heard status.replaySessionId

/-! ### What a record says of the other sessions -/

section Others

variable {settings : WorkerSettings} {heard : List (WorkerRecord F)} {record : WorkerRecord F}
  {session τ : UUID}

theorem WorkerRecord.event?_eq_some {event : Checked (TelemetryEventV1 F)}
    (carries : record.value = .telemetry (.ok event)) : record.event? = some event.val := by
  unfold event?
  rw [carries]

theorem WorkerRecord.status?_eq_some {status : Checked ReplayStatusV1}
    (carries : record.value = .status (.ok status)) : record.status? = some status.val := by
  unfold status?
  rw [carries]

theorem WorkerRecord.session_of_event {event : TelemetryEventV1 F} (held : event ∈ record.event?) :
    record.session = some event.replaySessionId ∧ record.topic = .telemetry ∧ record.status? = none := by
  unfold WorkerRecord.event? at held
  unfold WorkerRecord.session WorkerRecord.topic WorkerRecord.status?
  split at held
  · rename_i carries
    rw [carries]
    obtain rfl := Option.some.inj held
    exact ⟨rfl, rfl, rfl⟩
  · cases held

theorem WorkerRecord.session_of_status {status : ReplayStatusV1} (held : status ∈ record.status?) :
    record.session = some status.replaySessionId ∧ record.topic = .replayStatus ∧ record.event? = none := by
  unfold WorkerRecord.status? at held
  unfold WorkerRecord.session WorkerRecord.topic WorkerRecord.event?
  split at held
  · rename_i carries
    rw [carries]
    obtain rfl := Option.some.inj held
    exact ⟨rfl, rfl, rfl⟩
  · cases held

theorem WorkerRecord.sequenceOf_eq_none (other : record.session ≠ some τ) :
    record.sequenceOf τ = none := by
  unfold WorkerRecord.sequenceOf
  rw [Option.map_eq_none_iff, Option.filter_eq_none_iff]
  intro event held mine
  rw [(WorkerRecord.session_of_event held).1] at other
  exact other (congrArg some (of_decide_eq_true mine))

theorem WorkerRecord.terminalOf_eq_none (other : record.session ≠ some τ) :
    record.terminalOf τ = none := by
  unfold WorkerRecord.terminalOf
  rw [Option.filter_eq_none_iff]
  intro status held mine
  rw [(WorkerRecord.session_of_status held).1] at other
  exact other (congrArg some (of_decide_eq_true mine).1)

theorem WorkerRecord.session_of_fails (fails : record.Fails settings τ) : record.session = some τ := by
  rcases fails with ⟨event, held, rfl, -⟩ | ⟨status, held, rfl, -⟩
  · exact (WorkerRecord.session_of_event held).1
  · exact (WorkerRecord.session_of_status held).1

theorem blocked_cons {tp : TopicPartition} : Blocked (record :: heard) tp ↔
    (record.session = none ∧ record.tp = tp) ∨ Blocked heard tp :=
  List.exists_mem_cons_iff ..

theorem failedBy_cons : FailedBy settings (record :: heard) τ ↔
    record.Fails settings τ ∨ FailedBy settings heard τ :=
  List.exists_mem_cons_iff ..

theorem failedBy_cons_of_ne (other : record.session ≠ some τ) :
    FailedBy settings (record :: heard) τ ↔ FailedBy settings heard τ := by
  rw [failedBy_cons]
  exact or_iff_right fun fails => other (WorkerRecord.session_of_fails fails)

theorem lastSequenceOf_cons : lastSequenceOf (record :: heard) τ =
    (record.sequenceOf τ).or (lastSequenceOf heard τ) := by
  unfold lastSequenceOf
  rw [List.findSome?_cons]
  cases record.sequenceOf τ <;> rfl

theorem lastTerminal_cons : lastTerminal (record :: heard) τ =
    (record.terminalOf τ).or (lastTerminal heard τ) := by
  unfold lastTerminal
  rw [List.findSome?_cons]
  cases record.terminalOf τ <;> rfl

theorem lastOffsetOf_cons {tp : TopicPartition} : lastOffsetOf (record :: heard) τ tp =
    if record.session = some τ ∧ record.tp = tp then some record.offset else lastOffsetOf heard τ tp := by
  unfold lastOffsetOf
  rw [List.find?_cons]
  by_cases here : record.session = some τ ∧ record.tp = tp
  · rw [if_pos here, decide_eq_true here]
    rfl
  · rw [if_neg here, decide_eq_false here]

theorem exists_of_lastOffsetOf {tp : TopicPartition} {offset : Nat}
    (last : lastOffsetOf heard τ tp = some offset) :
    ∃ mine ∈ heard, mine.session = some τ ∧ mine.tp = tp ∧ mine.offset = offset := by
  obtain ⟨mine, found, same⟩ := Option.map_eq_some_iff.mp last
  obtain ⟨about, here⟩ : mine.session = some τ ∧ mine.tp = tp := by simpa using List.find?_some found
  exact ⟨mine, List.mem_of_find?_eq_some found, about, here, same⟩

theorem not_ends_of_ne (other : record.session ≠ some τ) : ¬ Ends settings heard record τ := by
  unfold Ends
  rw [WorkerRecord.sequenceOf_eq_none other, WorkerRecord.terminalOf_eq_none other]
  rintro ⟨⟨_, held, -⟩ | ⟨_, held, -⟩, -⟩ <;> cases held

theorem ended_cons_of_ne (other : record.session ≠ some τ) :
    Ended settings (record :: heard) τ ↔ Ended settings heard τ :=
  or_iff_right fun here => not_ends_of_ne other here.1

theorem reopened_cons_of_silent (silent : record.sequenceOf τ = none) :
    Reopened settings (record :: heard) τ ↔ Reopened settings heard τ := by
  refine or_iff_right ?_
  rintro ⟨-, sequence, held, -⟩
  rw [silent] at held
  cases held

theorem lastSequenceOf_of_ended (ended : Ended settings heard τ) : lastSequenceOf heard τ ≠ none := by
  induction heard with
  | nil => cases ended
  | cons record earlier ih =>
      rcases ended with ⟨-, some⟩ | before
      · exact some
      · rw [lastSequenceOf_cons, Ne, Option.or_eq_none_iff]
        exact fun none => ih before none.2

end Others

section Decidable

variable {settings : WorkerSettings} {heard : List (WorkerRecord F)} {record : WorkerRecord F}
  {session : UUID}

instance : Decidable (record.Fails settings session) :=
  inferInstanceAs (Decidable ((∃ event ∈ record.event?, _ ∧ (_ ∨ _)) ∨ ∃ status ∈ record.status?, _ ∧ _))

instance : Decidable (FailedBy settings heard session) :=
  inferInstanceAs (Decidable (∃ record ∈ heard, record.Fails settings session))

instance : Decidable (Ends settings heard record session) :=
  inferInstanceAs (Decidable (((∃ sequence ∈ record.sequenceOf session,
    ∃ term ∈ lastTerminal heard session, _ ∧ _) ∨ ∃ term ∈ record.terminalOf session,
      ∃ last ∈ term.lastSequence, _) ∧ ¬ FailedBy settings (record :: heard) session))

instance : Decidable (Ended settings heard session) :=
  heard.rec instDecidableFalse fun record earlier _ =>
    inferInstanceAs (Decidable (Ends settings earlier record session ∧
      lastSequenceOf (record :: earlier) session ≠ none ∨ Ended settings earlier session))

instance : Decidable (Reopened settings heard session) :=
  heard.rec instDecidableFalse fun record earlier _ =>
    inferInstanceAs (Decidable ((Ended settings earlier session ∧
      ∃ sequence ∈ record.sequenceOf session, _ ≠ some sequence) ∨ Reopened settings earlier session))

instance : Decidable (ClosedBy settings heard session) :=
  inferInstanceAs (Decidable (FailedBy settings heard session ∨
    (∃ term ∈ lastTerminal heard session, ∃ last ∈ term.lastSequence, _) ∧ (_ → _)))

instance (drawn : List UUID) : Decidable (OwnOrForeign settings heard drawn record) :=
  inferInstanceAs (Decidable (∀ status ∈ record.status?, _ → _))

end Decidable

end Records

end IndustrialReliability
