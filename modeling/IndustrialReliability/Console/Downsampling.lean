import IndustrialReliability.Console.Feed
import IndustrialReliability.Lib.Thinning

/-!
Telemetry downsampling across sessions.

The downsampler remembers one timestamp for each machine, whatever session it was of,
and the source clocks of two sessions are unrelated. A session gets what a feed of its
own would send it exactly when, on every machine, the events that such feeds would send
are spaced in the order they arrive (`undisturbed_iff`).
-/

namespace IndustrialReliability

variable {F : Type}

namespace ConsoleFeed

/-- What `process` returns for records processed one after another; a record that the
database refuses is passed over. -/
def forwarded (sessions : List UUID) (state : ConsoleFeed F × ConsoleLog F) :
    List (ConsolePayload F) → List (ConsoleEventV1 F)
  | [] => []
  | record :: rest =>
      match process sessions state record with
      | .ok (state, event) => event.toList ++ forwarded sessions state rest
      | .error _ => forwarded sessions state rest

/-- The event is telemetry of the session. -/
def TelemetryOf (session : UUID) (event : ConsoleEventV1 F) : Prop :=
  event.eventType = .telemetry ∧ event.replaySessionId = session

instance (session : UUID) (event : ConsoleEventV1 F) : Decidable (TelemetryOf session event) := by
  unfold TelemetryOf
  infer_instance

/-- The telemetry of a session that is forwarded. -/
def sentTelemetry (sessions : List UUID) (session : UUID) (state : ConsoleFeed F × ConsoleLog F)
    (records : List (ConsolePayload F)) : List (ConsoleEventV1 F) :=
  (forwarded sessions state records).filter fun event => TelemetryOf session event

/-- The telemetry records of a session. -/
def telemetryRecords (session : UUID) (records : List (ConsolePayload F)) :
    List (ConsolePayload F) :=
  records.filter fun record => TelemetryOf session (decode record)

/-- Every session is sent what a fresh feed would send it for its telemetry alone. -/
def Undisturbed (sessions : List UUID) (intervalSeconds : Int) (log : ConsoleLog F)
    (records : List (ConsolePayload F)) : Prop :=
  ∀ session, sentTelemetry sessions session (.initial intervalSeconds, log) records =
    sentTelemetry sessions session (.initial intervalSeconds, .empty) (telemetryRecords session records)

/-- Every session goes forward in source time. -/
def InSourceOrder (records : List (ConsolePayload F)) : Prop :=
  ∀ session, (telemetryRecords session records).Pairwise fun a b =>
    (decode a).sourceTimestamp ≤ (decode b).sourceTimestamp

/-- Records of one session that are in order, two by two. -/
theorem inSourceOrder_of_pairwise {records : List (ConsolePayload F)}
    (ordered : records.Pairwise fun a b => (decode a).replaySessionId = (decode b).replaySessionId →
      (decode a).sourceTimestamp ≤ (decode b).sourceTimestamp) : InSourceOrder records := by
  intro session
  refine (ordered.filter _).imp_of_mem fun {a b} first second apart => apart ?_
  have mine : ∀ record ∈ telemetryRecords session records,
      (decode record).replaySessionId = session := by
    intro record mem
    exact (of_decide_eq_true (List.mem_filter.mp mem).2).2
  rw [mine a first, mine b second]

/-- The telemetry events that arrive. -/
def arrivals (records : List (ConsolePayload F)) : List (ConsoleEventV1 F) :=
  (records.map decode).filter fun event => event.eventType = .telemetry

/-- The telemetry events that are due for their session: on its machine they come at
least the interval after the last such event of the session. -/
def dueAlone (intervalSeconds : Int) (records : List (ConsolePayload F)) :
    List (ConsoleEventV1 F) :=
  Lib.thin (Datetime.seconds intervalSeconds)
    (fun event => (event.replaySessionId, TelemetryDownsampler.machineId event))
    ConsoleEventV1.sourceTimestamp (fun _ => none) (arrivals records)

/-- On every machine, the events due for their sessions come at least the interval after
one another. -/
def SpacedByMachine (intervalSeconds : Int) (records : List (ConsolePayload F)) : Prop :=
  ∀ machine, (((dueAlone intervalSeconds records).filter
    (TelemetryDownsampler.machineId · = machine)).map ConsoleEventV1.sourceTimestamp).IsChain
      fun before after => Datetime.seconds intervalSeconds ≤ after - before

section Downsampling

variable {intervalSeconds : Int} {log : ConsoleLog F} {records : List (ConsolePayload F)}
  {sessions : List UUID} {session : UUID} {sampler sampler' : TelemetryDownsampler} {event : ConsoleEventV1 F}

/-- The downsampler lets through what is due for the machine, and remembers when. -/
theorem accept_of_due (due : Lib.Due (Datetime.seconds sampler.intervalSeconds)
    (sampler.lastEmittedByMachine.get? (TelemetryDownsampler.machineId event))
    event.sourceTimestamp) :
    sampler.accept event = ({ sampler with
      lastEmittedByMachine := sampler.lastEmittedByMachine.set
        (TelemetryDownsampler.machineId event) event.sourceTimestamp }, true) := by
  unfold TelemetryDownsampler.accept
  dsimp only
  cases held : sampler.lastEmittedByMachine.get? (TelemetryDownsampler.machineId event) with
  | none => rfl
  | some last => exact if_pos (decide_eq_true (due last held))

theorem accept_of_early (early : ¬ Lib.Due (Datetime.seconds sampler.intervalSeconds)
    (sampler.lastEmittedByMachine.get? (TelemetryDownsampler.machineId event))
    event.sourceTimestamp) : sampler.accept event = (sampler, false) := by
  unfold TelemetryDownsampler.accept
  dsimp only
  cases held : sampler.lastEmittedByMachine.get? (TelemetryDownsampler.machineId event) with
  | none =>
      rw [held] at early
      exact absurd nofun early
  | some last =>
      refine if_neg fun accepted => early fun before same => ?_
      rw [held] at same
      obtain rfl : last = before := Option.some.inj same
      exact of_decide_eq_true accepted

/-- What is remembered of the machines after an event has been let through. -/
theorem get?_set (sampler : TelemetryDownsampler) (machine : String) (time : Int) :
    (sampler.lastEmittedByMachine.set machine time).get? =
      Function.update sampler.lastEmittedByMachine.get? machine (some time) := by
  funext other
  by_cases same : other = machine
  · subst same
    simp
  · rw [Function.update_of_ne same, Lib.Table.get?_set_ne same]

/-- What becomes of a record of telemetry. -/
theorem process_of_telemetry (log : ConsoleLog F) {record : ConsolePayload F}
    (telemetry : (decode record).eventType = .telemetry) :
    process sessions (⟨sampler⟩, log) record =
      .ok ((⟨(sampler.accept (decode record)).1⟩, log),
        if (sampler.accept (decode record)).2 then some (decode record) else none) := by
  have live : (decode record).durable = false := by
    cases record with
    | telemetry event => rfl
    | _ => cases telemetry
  unfold process receive
  dsimp only
  rw [if_pos telemetry]
  cases (sampler.accept (decode record)).2 with
  | false => rfl
  | true =>
      unfold store
      rw [if_pos rfl]
      dsimp only
      rw [live]
      rfl

/-- Another record leaves the downsampler alone. -/
theorem process_of_other {state state' : ConsoleFeed F × ConsoleLog F} {record : ConsolePayload F}
    {event : Option (ConsoleEventV1 F)} (other : (decode record).eventType ≠ .telemetry)
    (processed : process sessions state record = .ok (state', event)) :
    state'.1 = state.1 ∧ event = some (decode record) := by
  unfold process receive at processed
  dsimp only at processed
  rw [if_neg other] at processed
  obtain ⟨log, -, same⟩ := Lib.bind_eq_ok_iff.mp processed
  cases same
  exact ⟨rfl, rfl⟩

/-- The telemetry forwarded is the telemetry that arrives, thinned by machine. -/
theorem forwarded_telemetry (sessions : List UUID) (sampler : TelemetryDownsampler) (log : ConsoleLog F)
    (records : List (ConsolePayload F)) :
    (forwarded sessions (⟨sampler⟩, log) records).filter (fun event => event.eventType = .telemetry) =
      Lib.thin (Datetime.seconds sampler.intervalSeconds) TelemetryDownsampler.machineId
        ConsoleEventV1.sourceTimestamp sampler.lastEmittedByMachine.get? (arrivals records) := by
  induction records generalizing sampler log with
  | nil => rfl
  | cons record records ih =>
      unfold forwarded arrivals
      rw [List.map_cons]
      by_cases telemetry : (decode record).eventType = .telemetry
      · rw [process_of_telemetry log telemetry]
        dsimp only
        rw [List.filter_append, List.filter_cons_of_pos (by simpa using telemetry)]
        by_cases due : Lib.Due (Datetime.seconds sampler.intervalSeconds)
            (sampler.lastEmittedByMachine.get? (TelemetryDownsampler.machineId (decode record)))
            (decode record).sourceTimestamp
        · rw [accept_of_due due, Lib.thin_of_due due, ← get?_set]
          simp only [if_true, Option.toList_some]
          rw [ih, List.filter_cons_of_pos (by simpa using telemetry)]
          rfl
        · rw [accept_of_early due, Lib.thin_of_not_due due]
          simp only [Bool.false_eq_true, if_false, Option.toList_none, List.filter_nil, List.nil_append]
          exact ih _ _
      · rw [List.filter_cons_of_neg (by simpa using telemetry)]
        cases processed : process sessions (⟨sampler⟩, log) record with
        | error refusal => exact ih _ _
        | ok result =>
            obtain ⟨⟨feed, after⟩, event⟩ := result
            obtain ⟨rfl, rfl⟩ := process_of_other telemetry processed
            dsimp only
            rw [Option.toList_some, List.filter_append,
              List.filter_cons_of_neg (by simpa using telemetry)]
            exact ih _ _

/-- What a session is sent. -/
theorem sentTelemetry_eq (session : UUID) (intervalSeconds : Int) (log : ConsoleLog F)
    (records : List (ConsolePayload F)) :
    sentTelemetry sessions session (.initial intervalSeconds, log) records =
      (Lib.thin (Datetime.seconds intervalSeconds) TelemetryDownsampler.machineId
        ConsoleEventV1.sourceTimestamp (fun _ => none) (arrivals records)).filter
          (·.replaySessionId = session) := by
  have thinned := forwarded_telemetry sessions (.initial intervalSeconds) log records
  have fresh : (TelemetryDownsampler.initial intervalSeconds).lastEmittedByMachine.get? =
      fun _ => none := rfl
  rw [fresh] at thinned
  refine Eq.trans ?_ (congrArg (List.filter (·.replaySessionId = session)) thinned)
  unfold sentTelemetry initial
  rw [List.filter_filter]
  refine List.filter_congr fun event _ => ?_
  simp [TelemetryOf, and_comm]

theorem arrivals_telemetryRecords (session : UUID) (records : List (ConsolePayload F)) :
    arrivals (telemetryRecords session records) =
      (arrivals records).filter (·.replaySessionId = session) := by
  unfold arrivals telemetryRecords
  rw [List.filter_map, List.filter_map, List.filter_map, List.filter_filter, List.filter_filter]
  congr 1
  refine List.filter_congr fun record _ => ?_
  simp [TelemetryOf, and_comm]

/-- What a fresh feed sends a session. -/
theorem sentTelemetry_alone (session : UUID) (intervalSeconds : Int) (log : ConsoleLog F)
    (records : List (ConsolePayload F)) :
    sentTelemetry sessions session (.initial intervalSeconds, log) (telemetryRecords session records) =
      Lib.thin (Datetime.seconds intervalSeconds) TelemetryDownsampler.machineId
        ConsoleEventV1.sourceTimestamp (fun _ => none)
          ((arrivals records).filter (·.replaySessionId = session)) := by
  rw [sentTelemetry_eq, arrivals_telemetryRecords]
  refine List.filter_eq_self.mpr fun event sent => ?_
  have arrived := (Lib.thin_sublist _ _ _ _ _).mem sent
  exact (List.mem_filter.mp arrived).2

/-- Sessions do not disturb one another exactly when the events due for them are spaced
on every machine. -/
theorem undisturbed_iff (log : ConsoleLog F) (ordered : InSourceOrder records) :
    Undisturbed sessions intervalSeconds log records ↔ SpacedByMachine intervalSeconds records := by
  have forward : ∀ session, ((arrivals records).filter (·.replaySessionId = session)).Pairwise
      fun a b => a.sourceTimestamp ≤ b.sourceTimestamp := by
    intro session
    rw [← arrivals_telemetryRecords]
    have decoded : ((telemetryRecords session records).map decode).Pairwise fun a b =>
        a.sourceTimestamp ≤ b.sourceTimestamp := List.pairwise_map.mpr (ordered session)
    exact decoded.filter _
  unfold Undisturbed SpacedByMachine dueAlone
  rw [← Lib.thin_apart_iff forward]
  refine forall_congr' fun session => ?_
  rw [sentTelemetry_eq, sentTelemetry_alone]

/-- Undisturbed, a session is sent its first telemetry event. -/
theorem Undisturbed.first {record : ConsolePayload F} {rest : List (ConsolePayload F)}
    (undisturbed : Undisturbed sessions intervalSeconds log records)
    (begins : telemetryRecords session records = record :: rest) :
    (sentTelemetry sessions session (.initial intervalSeconds, log) records).head? =
      some (decode record) := by
  have telemetry : TelemetryOf session (decode record) := by
    have mem : record ∈ telemetryRecords session records := by
      rw [begins]
      exact List.mem_cons_self
    simpa using (List.mem_filter.mp mem).2
  have arrives : arrivals (record :: rest) = decode record :: arrivals rest :=
    List.filter_cons_of_pos (by simpa using telemetry.1)
  rw [undisturbed session, sentTelemetry_alone, ← arrivals_telemetryRecords, begins, arrives,
    Lib.thin_of_due nofun]
  rfl

end Downsampling

/-! ### Two sessions on one machine -/

def telemetryAt (session : UUID) (second : Int) : ConsolePayload Int :=
  .telemetry {
    messageId := session
    replaySessionId := session
    sourceDatasetSha256 := 1
    contractSha256 := 1
    sourceTimestamp := Datetime.seconds second
    emittedAt := ⟨0⟩
    machineId := "metropt-compressor-01"
    sequence := 1
    analog := fun _ => 0
    digital := fun _ => 0 }

/-- A session behind another in source time is sent what it would be sent alone. -/
theorem later_session_undisturbed :
    let records := [telemetryAt 1 0, telemetryAt 1 59, telemetryAt 2 60, telemetryAt 2 90]
    Undisturbed [1, 2] 60 .empty records ∧
      (sentTelemetry [1, 2] 2 (.initial 60, .empty) records).map (·.sourceTimestamp) =
        [Datetime.seconds 60] := by
  refine ⟨(undisturbed_iff .empty (inSourceOrder_of_pairwise ?_)).mpr fun machine => ?_, by decide⟩
  · decide
  · have due : dueAlone 60 [telemetryAt 1 0, telemetryAt 1 59, telemetryAt 2 60, telemetryAt 2 90] =
        [decode (telemetryAt 1 0), decode (telemetryAt 2 60)] := rfl
    rw [due]
    by_cases mine : "metropt-compressor-01" = machine
    · subst mine
      decide
    · have none : [decode (telemetryAt 1 0), decode (telemetryAt 2 60)].filter
          (TelemetryDownsampler.machineId · = machine) = [] := by
        refine List.filter_eq_nil_iff.mpr ?_
        simp [TelemetryDownsampler.machineId, decode, telemetryAt, mine]
      rw [none]
      exact .nil

/-- A session of an earlier range is sent nothing until it has caught up with the one
before. -/
theorem earlier_session_starved :
    let records := [telemetryAt 1 600, telemetryAt 2 0]
    InSourceOrder records ∧ sentTelemetry [1, 2] 2 (.initial 60, .empty) records = [] ∧
      ¬ Undisturbed [1, 2] 60 .empty records := by
  intro records
  have starved : sentTelemetry [1, 2] 2 (.initial 60, .empty) records = [] := rfl
  refine ⟨inSourceOrder_of_pairwise (by decide), starved, fun undisturbed => ?_⟩
  have alone := undisturbed 2
  rw [starved] at alone
  have sent : (sentTelemetry [1, 2] 2 (.initial 60, .empty) (telemetryRecords 2 records)).length = 1 := rfl
  rw [← alone] at sent
  cases sent

end ConsoleFeed

end IndustrialReliability
