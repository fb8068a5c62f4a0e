import IndustrialReliability.Features.Repeats
import IndustrialReliability.Replay.Progress

/-!
The online features of a replay that is interrupted.

A replay that goes on after a crash publishes its last event again, with another time of
emission. The builder ignores it, so the features are those of the events once each.
-/

namespace IndustrialReliability

open OnlineFeatureBuilder ReplayService

variable {F : Type} [PyFloat F] [Uuid5] [Sha256Digest] {source : ReplaySource F}
  {command : ReplayCommandV1} {config : BuilderConfig}

/-- The event of a row is one but for the time of its emission. -/
theorem isEvent_repeatable : Repeatable (IsEvent source command) := by
  refine ⟨IsEvent.sequence, ?_⟩
  rintro k event event' ⟨emittedAt, row, held, rfl⟩ ⟨emittedAt', row', held', rfl⟩
  cases held.symm.trans held'
  exact ⟨rfl, rfl⟩

/-- Whatever interrupts a replay, its latest telemetry leaves the builder where the events
of the rows leave it that come once each and in order, with the same features. -/
theorem interruptions_absorbed {replay : ReplayServiceConfig F} {as : List ReplayServiceAction}
    {s : ReplayService F} (run : Lib.Run (ReplayService.step replay) (LeavesTerminal replay) .initial as s)
    {id : UUID} {effects : List (Effect F)} (latest : latestReplay id s.trace = some (command, effects))
    (stream : List (Pushed F)) (received : stream.map (·.2.val) = (telemetryOf id effects).reverse) :
    ∃ n once, once.Sublist stream ∧
      Lib.Resent (fun k (pushed : Pushed F) => IsEvent replay.source command k pushed.2.val) once.reverse n 0 ∧
      (∀ status, .status .replay status ∈ effects → ReportsEnd id status →
        n = (rangeRows replay.source command).length) ∧
      pushAll config .new stream = pushAll config .new once := by
  obtain ⟨n, r, resent, -, -, completed⟩ := (telemetry_gapless run id).2 command effects latest
  have carried : (stream.reverse).map (·.2.val) = telemetryOf id effects := by
    rw [List.map_reverse, received, List.reverse_reverse]
  rw [← carried] at resent
  obtain ⟨once, part, exactly, same, -⟩ := pushAll_resent isEvent_repeatable resent.of_map
  refine ⟨n, once.reverse, ?_, ?_, fun status mem reports => (completed status mem reports).1, ?_⟩
  · rw [← List.reverse_reverse stream]
    exact part.reverse
  · rw [List.reverse_reverse]
    exact exactly
  · rw [List.reverse_reverse] at same
    exact same

omit [Uuid5] [Sha256Digest] in
/-- The events received at one time. -/
theorem exists_received (events : List (TelemetryEventV1 F)) (valid : ∀ event ∈ events, Valid event) :
    ∃ stream : List (Pushed F), stream.map (·.2.val) = events := by
  refine ⟨events.pmap (fun event valid => (⟨0⟩, ⟨event, valid⟩)) valid, ?_⟩
  rw [List.map_pmap]
  exact (List.pmap_eq_map (f := id) valid).trans (List.map_id _)

omit [Uuid5] [Sha256Digest] in
/-- Behind a crash the first of two events comes again, and the builder ignores it. -/
theorem crashedReplay_absorbed :
    letI := knownUuid5 []
    letI : Sha256Digest := ⟨fun _ => 0⟩
    let replay := unpacedReplay true 2 [(1, .start)]
    let config := BuilderConfig.ofDefaults 1 "metropt-compressor-01" 1 1 []
    ∃ s command effects, ∃ stream : List (Pushed Int),
      Lib.Run (ReplayService.step replay) (LeavesTerminal replay) .initial
        [.restart false, .fetch replayStamp none, .mainPublish none, .commit none,
          .taskRun replayStamp none, .taskPublish none, .crash, .restart false,
          .taskRun replayStamp none, .taskPublish none, .taskRun replayStamp none,
          .taskRun replayStamp none, .taskPublish none, .taskRun replayStamp none] s ∧
      latestReplay 1 s.trace = some (command, effects) ∧ stream.length = 3 ∧
      stream.map (·.2.val) = (telemetryOf 1 effects).reverse ∧
      ∃ n once, once.Sublist stream ∧
        Lib.Resent (fun k (pushed : Pushed Int) => IsEvent replay.source command k pushed.2.val)
          once.reverse n 0 ∧
        pushAll config .new stream = pushAll config .new once := by
  let := knownUuid5 []
  let : Sha256Digest := ⟨fun _ => 0⟩
  let replay := unpacedReplay true 2 [(1, .start)]
  let config := BuilderConfig.ofDefaults 1 "metropt-compressor-01" 1 1 []
  obtain ⟨s, run, ⟨command, effects⟩, latest, three, valid⟩ := Lib.exists_run_of_exec
    (ReplayService.step replay) (LeavesTerminal replay) .initial
    [.restart false, .fetch replayStamp none, .mainPublish none, .commit none,
      .taskRun replayStamp none, .taskPublish none, .crash, .restart false,
      .taskRun replayStamp none, .taskPublish none, .taskRun replayStamp none,
      .taskRun replayStamp none, .taskPublish none, .taskRun replayStamp none]
    (fun s => ∃ latest ∈ latestReplay 1 s.trace, (telemetryOf 1 latest.2).length = 3 ∧
      ∀ event ∈ telemetryOf 1 latest.2, Valid event) (by decide)
  obtain ⟨stream, received⟩ := exists_received (telemetryOf 1 effects).reverse
    fun event mem => valid event (List.mem_reverse.mp mem)
  obtain ⟨n, once, part, exactly, -, same⟩ := interruptions_absorbed run latest stream received
  refine ⟨s, command, effects, stream, run, latest, ?_, received, n, once, part, exactly, same⟩
  rw [← List.length_map (fun pushed : Pushed Int => pushed.2.val), received, List.length_reverse]
  exact three

end IndustrialReliability
