import IndustrialReliability.Features.WindowOrder

/-!
What the emitted windows are made from.

A push accepts an event that does not carry the sequence number of the last one, and
the segments are the accepted events, cut where the numbers or the timestamps break
off (`segments_accepted`). So the bins of an emitted window are accepted events that
follow one another; the main theorem says this of every window of every stream, and
that no push of a stream fails.
-/

namespace IndustrialReliability

open Lib

variable {F : Type} [PyFloat F]

/-! ### The bins of a segment, with their events -/

section Bins

variable {config : BuilderConfig} {segment : List (Pushed F)} {window : List (Bin F)}

/-- The events of a segment, in bins. -/
def eventBins (segment : List (Pushed F)) : List (Int × List (Pushed F)) :=
  groups (fun pushed => computeBinEnd pushed.2.val.sourceTimestamp) segment

theorem binsOf_eq (config : BuilderConfig) (segment : List (Pushed F)) :
    binsOf config segment = (eventBins segment).map fun bin => (bin.1, samplesOf config bin.2) :=
  groups_map TelemetrySample.binEnd _ segment

theorem mem_eventBins (ordered : Ordered segment) {bin : Int × List (Pushed F)} (mem : bin ∈ eventBins segment) :
    ∀ pushed ∈ bin.2, computeBinEnd pushed.2.val.sourceTimestamp = bin.1 := by
  have byBin : segment.Pairwise fun a b =>
      computeBinEnd a.2.val.sourceTimestamp ≤ computeBinEnd b.2.val.sourceTimestamp :=
    ordered.imp fun le => computeBinEnd_mono le
  intro pushed inside
  rw [((mem_groups_iff byBin).mp mem).1] at inside
  exact of_decide_eq_true (List.mem_filter.mp inside).2

/-- A window is made from bins of events in a row. -/
theorem exists_eventBins (mem : window ∈ (config.windowing F).windowsFrom [] (binsOf config segment)) :
    ∃ bins, bins <:+: eventBins segment ∧ window = bins.map fun bin => (bin.1, samplesOf config bin.2) := by
  obtain ⟨before, bin, after, split, rfl, -⟩ := Windowing.mem_windowsFrom_iff.mp mem
  have inside : (config.windowing F).buffer [] (before ++ [bin]) <:+: binsOf config segment := by
    refine (Windowing.buffer_suffix _).isInfix.trans (List.IsPrefix.isInfix ⟨after, ?_⟩)
    rw [split, List.append_assoc]
    rfl
  rw [binsOf_eq] at inside
  exact List.infix_map_iff.mp inside

theorem flatMap_within {bins : List (Int × List (Pushed F))} (inside : bins <:+: eventBins segment) :
    bins.flatMap Prod.snd <:+: segment := by
  obtain ⟨front, after, split⟩ := inside
  refine ⟨front.flatMap Prod.snd, after.flatMap Prod.snd, ?_⟩
  rw [← List.flatMap_append, ← List.flatMap_append, split]
  exact flatMap_groups _ segment

end Bins

/-! ### The events of the segments -/

/-- All events of the segments, in order. -/
def Segments.events (segments : Segments F) : List (Pushed F) := segments.closed.flatten ++ segments.current

/-- Every event continues the one before it. -/
def Unbroken (segment : List (Pushed F)) : Prop := segment.IsChain fun a b => Continues a.2.val b.2.val

/-- Within a segment every event continues the one before it. -/
def Segments.AllUnbroken (segments : Segments F) : Prop :=
  ∀ segment ∈ segments.closed ++ [segments.current], Unbroken segment

theorem Segments.within_events {segments : Segments F} {segment : List (Pushed F)}
    (mem : segment ∈ segments.closed ++ [segments.current]) : segment <:+: segments.events := by
  have all : segments.events = (segments.closed ++ [segments.current]).flatten := by simp [events]
  obtain ⟨front, after, split⟩ := List.append_of_mem mem
  rw [all, split]
  exact ⟨front.flatten, after.flatten, by simp⟩

section Accepted

variable [Sha256Digest] {segments : Segments F}

theorem Segments.AllUnbroken.push (unbroken : segments.AllUnbroken) (inOrder : segments.InOrder)
    (pushed : Pushed F) : (segments.push pushed).AllUnbroken := by
  have closing (next : List (Pushed F)) (alone : Unbroken next) :
      ∀ segment ∈ (segments.closed ++ [segments.current]) ++ [next], Unbroken segment := by
    intro segment mem
    rcases List.mem_append.mp mem with earlier | same
    · exact unbroken segment earlier
    · exact List.mem_singleton.mp same ▸ alone
  have growing (continues : ∀ last ∈ segments.current.getLast?, Continues last.2.val pushed.2.val) :
      ∀ segment ∈ segments.closed ++ [segments.current ++ [pushed]], Unbroken segment := by
    intro segment mem
    rcases List.mem_append.mp mem with earlier | same
    · exact unbroken segment (List.mem_append_left _ earlier)
    · rw [List.mem_singleton.mp same]
      refine List.isChain_append.mpr ⟨unbroken _ (by simp), List.isChain_singleton _, ?_⟩
      rintro last held first ⟨⟩
      exact continues last held
  cases held : segments.last with
  | none =>
      rw [Segments.push_first pushed held]
      exact growing fun last mem => by cases held.symm.trans (inOrder.last last mem)
  | some last =>
      by_cases repeats : Repeats last.2.val pushed.2.val
      · rw [Segments.push_repeats held repeats]
        exact unbroken
      · by_cases same : pushed.2.val.sequence = last.2.val.sequence
        · rw [Segments.push_conflicts held repeats same]
          exact closing [] .nil
        · by_cases continues : Continues last.2.val pushed.2.val
          · rw [Segments.push_continues held continues]
            refine growing fun final mem => ?_
            obtain rfl : last = final := Option.some.inj (held.symm.trans (inOrder.last final mem))
            exact continues
          · rw [Segments.push_breaks held same continues]
            exact closing [pushed] (List.isChain_singleton _)

theorem segmentsOf_unbroken (stream : List (Pushed F)) : (segmentsOf stream).AllUnbroken := by
  induction stream using List.reverseRecOn with
  | nil => simp [segmentsOf, Segments.empty, Segments.AllUnbroken, Unbroken]
  | append_singleton stream pushed ih =>
      rw [segmentsOf_concat]
      exact ih.push (segmentsOf_inOrder stream) pushed

/-- An event under the last sequence number is left out, any other is the next one. -/
theorem Segments.events_push (segments : Segments F) (pushed : Pushed F) :
    (segments.push pushed).events = segments.events ++
      if segments.last.map (fun last => last.2.val.sequence) = some pushed.2.val.sequence then [] else [pushed] := by
  cases held : segments.last with
  | none => simp [Segments.push_first pushed held, Segments.events]
  | some last =>
      by_cases repeats : Repeats last.2.val pushed.2.val
      · simp [Segments.push_repeats held repeats, repeats.1]
      · by_cases same : pushed.2.val.sequence = last.2.val.sequence
        · simp [Segments.push_conflicts held repeats same, same, Segments.events]
        · by_cases continues : Continues last.2.val pushed.2.val
          · simp [Segments.push_continues held continues, Ne.symm same, Segments.events]
          · simp [Segments.push_breaks held same continues, Ne.symm same, Segments.events]

theorem segmentsOf_events_sublist (stream : List (Pushed F)) : (segmentsOf stream).events.Sublist stream := by
  induction stream using List.reverseRecOn with
  | nil => exact List.Sublist.refl _
  | append_singleton stream pushed ih =>
      rw [segmentsOf_concat, Segments.events_push]
      refine ih.append ?_
      split
      · exact List.nil_sublist _
      · exact List.Sublist.refl _

variable [Uuid5]

/-- The events of a stream that the builder does not ignore, until a push fails. -/
def acceptedFrom (config : BuilderConfig) : OnlineFeatureBuilder F → List (Pushed F) → List (Pushed F)
  | _, [] => []
  | builder, pushed :: rest =>
      match builder.push config pushed.1 pushed.2.val with
      | .error _ => []
      | .ok (next, _) =>
          let (_, shouldIgnore, _) :=
            builder.checkSequenceAndOrdering pushed.2.val (hashEventPayload pushed.2.val)
          (if shouldIgnore then [] else [pushed]) ++ acceptedFrom config next rest

omit [PyFloat F] [Sha256Digest] [Uuid5] in
theorem checkSequenceAndOrdering_ignores (builder : OnlineFeatureBuilder F) (event : TelemetryEventV1 F)
    (payloadHash : Sha256) : (builder.checkSequenceAndOrdering event payloadHash).2.1 =
      decide (builder.lastSequence = some event.sequence) := by
  unfold OnlineFeatureBuilder.checkSequenceAndOrdering
  by_cases same : builder.lastSequence = some event.sequence
  · rw [if_pos same]
    split <;> simp [same]
  · rw [if_neg same]
    split
    · simp [same]
    · split <;> simp [same]

/-- The accepted events are those of the segments. -/
theorem acceptedFrom_segments {config : BuilderConfig} (positive : 0 < config.lookbackBins)
    {stream : List (Pushed F)} {builder final : OnlineFeatureBuilder F}
    {vectors : List (FeatureVectorV1 F)} (tracks : builder.Tracks config segments) (inOrder : segments.InOrder)
    (returned : pushAll config builder stream = .ok (final, vectors)) :
    (stream.foldl Segments.push segments).events = segments.events ++ acceptedFrom config builder stream := by
  induction stream generalizing builder segments vectors with
  | nil => simp [acceptedFrom]
  | cons pushed rest ih =>
      obtain ⟨⟨next, result⟩, step, tail⟩ := bind_eq_ok_iff.mp returned
      obtain ⟨⟨last, more⟩, run, same⟩ := bind_eq_ok_iff.mp tail
      obtain ⟨rfl, rfl⟩ := Prod.mk.inj (pure_eq_ok_iff.mp same)
      obtain ⟨_, finalised, keep, reason, pushes⟩ :=
        OnlineFeatureBuilder.exists_pushes positive tracks inOrder pushed
      obtain ⟨rfl, -⟩ := pushes.made step
      rw [List.foldl_cons, ih pushes.tracks (inOrder.push pushed) run, Segments.events_push, acceptedFrom]
      simp only [step, checkSequenceAndOrdering_ignores, tracks.sequence, decide_eq_true_eq, List.append_assoc]

end Accepted

/-! ### The windows -/

/-- The bins a vector is made from: six in a row, closed on the right, of accepted events
that continue one another, at least 24 in each. -/
structure CoveredBy (config : BuilderConfig) (accepted : List (Pushed F)) (vector : FeatureVectorV1 F)
    (bins : List (List (Pushed F))) : Prop where
  six : bins.length = 6
  enough : ∀ bin ∈ bins, 24 ≤ bin.length
  inside : ∀ (i : Nat) bin, bins[i]? = some bin → ∀ pushed ∈ bin,
    vector.windowStart + i * Datetime.seconds 300 < pushed.2.val.sourceTimestamp ∧
      pushed.2.val.sourceTimestamp ≤ vector.windowStart + (i + 1) * Datetime.seconds 300
  together : bins.flatten <:+: accepted
  unbroken : Unbroken bins.flatten
  closes : vector.windowEnd = vector.windowStart + 6 * Datetime.seconds 300
  grid : binMicros ∣ vector.windowEnd
  binEnds : vector.coverage.binEnds =
    (List.range 6).map fun i => vector.windowStart + ((i : Nat) + 1) * Datetime.seconds 300
  observations : vector.coverage.observationsByBin = bins.map List.length
  values : vector.featureNames.zip vector.featureValues = config.featureNames.map fun name =>
    (name, featureValue (samplesOf config bins.flatten) config.analogCols config.digitalCols name)

section Windows

variable [Sha256Digest] [Uuid5] {config : BuilderConfig}

omit [Sha256Digest] in
theorem madeFrom_valid {window : List (Bin F)} {vector : FeatureVectorV1 F}
    (made : MadeFrom config window vector) : Valid vector ∧ Valid vector.coverage := by
  obtain ⟨emittedAt, emitted⟩ := made
  obtain ⟨first, -, last, -, values, covered, -, valid, rfl⟩ := emitWindow_eq_ok_iff.mp emitted
  exact ⟨valid, covered⟩

omit [Sha256Digest] [Uuid5] in
/-- The ends of the bins of a window, from its first. -/
theorem WindowOf.ends {segment : List (Pushed F)} {window : List (Bin F)} {windowEnd : Int}
    (windowOf : WindowOf config segment window windowEnd) :
    window.map Prod.fst = (List.range 6).map fun i =>
      windowEnd - Datetime.seconds 1500 + (i : Nat) * Datetime.seconds 300 := by
  have full := windowOf.full
  cases window with
  | nil => cases full
  | cons first rest =>
      have length : rest.length + 1 = 6 := full
      have ends := Windowing.map_ends_of_contiguous windowOf.run.contiguous
      rw [length] at ends
      have start : first.1 = windowEnd - Datetime.seconds 1500 := windowOf.first first rfl
      rw [← start]
      exact ends

omit [Sha256Digest] in
theorem coveredBy_of_madeFrom (forPhase1C : config.ForPhase1C) {segment accepted : List (Pushed F)}
    (ordered : Ordered segment) (unbroken : Unbroken segment) (within : segment <:+: accepted)
    {window : List (Bin F)} (mem : window ∈ (config.windowing F).windowsFrom [] (binsOf config segment))
    {vector : FeatureVectorV1 F} (made : MadeFrom config window vector) :
    ∃ bins, CoveredBy config accepted vector bins := by
  obtain ⟨bins, inside, rfl⟩ := exists_eventBins mem
  rw [forPhase1C.windowing] at mem
  obtain ⟨windowEnd, windowOf⟩ := windowOf_of_mem ordered mem
  obtain ⟨emittedAt, emitted⟩ := made
  obtain ⟨first, head, last, tail, values, -, computed, -, rfl⟩ := emitWindow_eq_ok_iff.mp emitted
  obtain ⟨-, -, rfl⟩ := computeFeatureValues_eq_ok_iff.mp computed
  have six : bins.length = 6 := by simpa using windowOf.full
  have ends : bins.map Prod.fst = (List.range 6).map fun i =>
      windowEnd - Datetime.seconds 1500 + (i : Nat) * Datetime.seconds 300 := by
    simpa [Function.comp_def] using windowOf.ends
  have closes : last.1 = windowEnd := windowOf.last last tail
  have start : first.1 - Datetime.seconds config.strideSeconds = windowEnd - Datetime.seconds 1800 := by
    rw [windowOf.first first head, forPhase1C.strideSeconds]
    show windowEnd - Datetime.seconds 1500 - Datetime.seconds 300 = _
    have : Datetime.seconds 1500 + Datetime.seconds 300 = Datetime.seconds 1800 := by decide
    omega
  have together := flatMap_within inside
  rw [List.flatMap_def] at together
  have sampled : (bins.map fun bin => (bin.1, samplesOf config bin.2)).flatMap Prod.snd =
      samplesOf config (bins.map Prod.snd).flatten := by
    simp [samplesOf, List.flatMap_def, Function.comp_def, List.map_flatten]
  have stride : Datetime.seconds 300 = 300000000 := by decide
  have back : Datetime.seconds 1500 = 1500000000 := by decide
  have whole : Datetime.seconds 1800 = 1800000000 := by decide
  have next (i : Nat) : ((i : Int) + 1) * Datetime.seconds 300 = i * Datetime.seconds 300 + Datetime.seconds 300 :=
    add_one_mul _ _
  refine ⟨bins.map Prod.snd, ⟨by simpa using six, ?_, ?_, together.trans within, unbroken.infix together,
    ?_, ?_, ?_, ?_, ?_⟩⟩
  · intro events mem
    obtain ⟨bin, bin_mem, rfl⟩ := List.mem_map.mp mem
    have enough : 24 ≤ (samplesOf config bin.2).length :=
      of_decide_eq_true (windowOf.run.valid _ (List.mem_map_of_mem bin_mem))
    simpa [samplesOf] using enough
  · intro i events held pushed pushed_mem
    obtain ⟨bin, bin_held, rfl⟩ := (List.getElem?_map .. ▸ held : (bins[i]?).map Prod.snd = some events) |>
      Option.map_eq_some_iff.mp
    have same := mem_eventBins ordered (inside.subset (List.mem_of_getElem? bin_held)) pushed pushed_mem
    have binEnd : some bin.1 = ((List.range 6).map fun i =>
        windowEnd - Datetime.seconds 1500 + (i : Nat) * Datetime.seconds 300)[i]? := by
      rw [← ends, List.getElem?_map, bin_held]
      rfl
    have bound : i < 6 := by
      rw [← six]
      exact (List.getElem?_eq_some_iff.mp bin_held).1
    rw [List.getElem?_map, List.getElem?_range bound] at binEnd
    have binEnd : bin.1 = windowEnd - Datetime.seconds 1500 + (i : Nat) * Datetime.seconds 300 :=
      Option.some.inj binEnd
    have above := computeBinEnd_sub_lt pushed.2.val.sourceTimestamp
    have below := le_computeBinEnd pushed.2.val.sourceTimestamp
    rw [same, binEnd] at above below
    show first.1 - Datetime.seconds config.strideSeconds + _ < _ ∧
      _ ≤ first.1 - Datetime.seconds config.strideSeconds + _
    rw [start, next]
    unfold binMicros at above
    omega
  · show last.1 = first.1 - Datetime.seconds config.strideSeconds + _
    rw [start, closes]
    omega
  · show binMicros ∣ last.1
    have last_mem := List.mem_of_getLast? tail
    obtain ⟨pushed, -, same⟩ := exists_event ordered (windowOf.bins last last_mem)
    rw [← same]
    exact computeBinEnd_dvd _
  · show (bins.map fun bin => (bin.1, samplesOf config bin.2)).map (fun bin => bin.1) = (List.range 6).map fun i =>
      first.1 - Datetime.seconds config.strideSeconds + ((i : Nat) + 1) * Datetime.seconds 300
    rw [start, List.map_map]
    refine ends.trans (List.map_congr_left fun i _ => ?_)
    rw [next]
    omega
  · show (bins.map fun bin => (bin.1, samplesOf config bin.2)).map (fun bin => bin.2.length) = _
    simp [samplesOf, Function.comp_def]
  · show config.featureNames.zip (config.featureNames.map _) = _
    rw [← sampled]
    simpa using List.zip_map' (f := id) (g := featureValue _ config.analogCols config.digitalCols)
      (l := config.featureNames)

omit [Sha256Digest] in
/-- The windows of a segment of the stream pass their schemas. -/
theorem emittable_of_segment (forPhase1C : config.ForPhase1C) {stream segment : List (Pushed F)}
    (numpy : FiniteUpTo F stream.length) (ordered : Ordered segment) (part : segment.Sublist stream) :
    ∀ window ∈ (config.windowing F).windowsFrom [] (binsOf config segment), Emittable config window := by
  intro window mem
  obtain ⟨bins, inside, rfl⟩ := exists_eventBins mem
  rw [forPhase1C.windowing] at mem
  obtain ⟨windowEnd, windowOf⟩ := windowOf_of_mem ordered mem
  refine windowOf.emittable ordered ?_ numpy forPhase1C
  have sampled := congrArg List.length (windowOf.samples ordered)
  rw [List.length_map, List.flatMap_map] at sampled
  rw [← sampled]
  have short := ((flatMap_within inside).sublist.trans part).length_le
  simpa [samplesOf, List.length_flatMap] using short

omit [Sha256Digest] [Uuid5] in
/-- The windows emitted are windows of the bins of a segment. -/
theorem Segments.exists_segment {segments : Segments F} {completed : Bool} {window : List (Bin F)}
    (mem : window ∈ segments.emitted config completed) :
    ∃ segment ∈ segments.closed ++ [segments.current],
      window ∈ (config.windowing F).windowsFrom [] (binsOf config segment) := by
  rcases List.mem_append.mp mem with closed | current
  · obtain ⟨segment, segment_mem, followed⟩ := List.mem_flatMap.mp closed
    exact ⟨segment, List.mem_append_left _ segment_mem,
      (Windowing.followedFrom_sublist _ _).subset followed⟩
  · refine ⟨segments.current, by simp, ?_⟩
    cases completed with
    | false => exact (Windowing.followedFrom_sublist _ _).subset current
    | true => exact (Windowing.promptFrom_sublist _ _).subset current

theorem emittedFeatures_none {stream : List (Pushed F)} {final : OnlineFeatureBuilder F}
    {vectors : List (FeatureVectorV1 F)} (run : pushAll config .new stream = .ok (final, vectors)) :
    emittedFeatures config stream none = .ok vectors :=
  map_eq_ok_iff.mpr ⟨_, run, rfl⟩

/-- No push of a stream fails, nor does completing the builder after it, and every
vector emitted is made from six full bins of accepted events in a row. -/
theorem online_windows_covered (forPhase1C : config.ForPhase1C) (stream : List (Pushed F))
    (numpy : FiniteUpTo F stream.length) :
    (∃ final vectors, pushAll config .new stream = .ok (final, vectors) ∧
      ∀ completedAt sourceTimestamp, (∀ last ∈ final.lastTimestamp, last ≤ sourceTimestamp) →
        ∃ completed result, final.complete config completedAt sourceTimestamp = .ok (completed, result)) ∧
      ∀ completion vectors, emittedFeatures config stream completion = .ok vectors →
        ∀ vector ∈ vectors, Valid vector ∧ Valid vector.coverage ∧
          ∃ bins, CoveredBy config (acceptedFrom config .new stream) vector bins := by
  have positive : 0 < config.lookbackBins := by
    rw [forPhase1C.lookbackBins]
    decide
  have emits (front : List (Pushed F)) (begins : front <+: stream) :
      ∀ window ∈ (config.windowing F).windowsFrom [] (binsOf config (segmentsOf front).current),
        Emittable config window := by
    have mem : (segmentsOf front).current ∈ (segmentsOf front).closed ++ [(segmentsOf front).current] := by simp
    have part := (Segments.within_events mem).sublist
    exact emittable_of_segment forPhase1C numpy (segmentsOf_inOrder front).current
      (part.trans ((segmentsOf_events_sublist front).trans begins.sublist))
  obtain ⟨final, all, run⟩ := pushAll_returns positive OnlineFeatureBuilder.tracks_new
    Segments.inOrder_empty emits
  obtain ⟨tracks, -, -, -⟩ := pushAll_segments positive OnlineFeatureBuilder.tracks_new
    Segments.inOrder_empty run
  refine ⟨⟨final, all, run, fun completedAt sourceTimestamp reached => ?_⟩,
    fun completion vectors emitted vector mem => ?_⟩
  · refine OnlineFeatureBuilder.complete_returns positive tracks completedAt (fun last mem => ?_)
      (emits stream List.prefix_rfl)
    exact reached _ (tracks.timestamp ▸ Option.mem_map_of_mem _ mem)
  have accepted : (segmentsOf stream).events = acceptedFrom config .new stream :=
    acceptedFrom_segments positive OnlineFeatureBuilder.tracks_new Segments.inOrder_empty run
  obtain ⟨window, window_mem, made⟩ : ∃ window ∈ (segmentsOf stream).emitted config completion.isSome,
      MadeFrom config window vector :=
    exists_of_forall₂ (emittedFeatures_segments positive emitted) mem
  obtain ⟨valid, covered⟩ := madeFrom_valid made
  refine ⟨valid, covered, ?_⟩
  obtain ⟨segment, segment_mem, inside⟩ := Segments.exists_segment window_mem
  have inOrder := segmentsOf_inOrder stream
  have ordered : Ordered segment := by
    rcases List.mem_append.mp segment_mem with closed | current
    · exact inOrder.closed segment closed
    · exact List.mem_singleton.mp current ▸ inOrder.current
  rw [← accepted]
  exact coveredBy_of_madeFrom forPhase1C ordered (segmentsOf_unbroken stream segment segment_mem)
    (Segments.within_events segment_mem) inside made

end Windows

/-- Six dense bins and a sample in the next one: the builder emits a window. -/
theorem emitted_streamWithLast [Uuid5] [Sha256Digest] {vectors : List (FeatureVectorV1 Int)}
    (emitted : emittedFeatures steadyConfig (streamWithLast 10) none = .ok vectors) : vectors ≠ [] := by
  rintro rfl
  obtain ⟨numbered, ascending, -⟩ := streamWithLast_ok 10 (by decide) (by decide)
  have made := emittedFeatures_segments (by decide) emitted
  obtain ⟨window, mem, -⟩ := (followedWindow_iff steadyConfig_forPhase1C.windowing ascending.ordered
    denseEnd).mpr followed_streamWithLast
  rw [segmentsOf_numbered numbered ascending.ordered, List.forall₂_nil_right_iff] at made
  simp only [Segments.emitted, List.flatMap_nil, List.nil_append, Option.isSome_none,
    Bool.false_eq_true, if_false] at made
  rw [made] at mem
  cases mem

theorem dense_window_covered :
    letI := windowNames
    letI := textDigest
    ∃ vectors, emittedFeatures steadyConfig (streamWithLast 10) none = .ok vectors ∧ vectors ≠ [] ∧
      ∀ vector ∈ vectors, ∃ bins, CoveredBy steadyConfig
        (acceptedFrom steadyConfig .new (streamWithLast 10)) vector bins := by
  have numpy : FiniteUpTo Int (streamWithLast 10).length :=
    ⟨fun _ _ _ => rfl, fun _ _ _ _ _ => ⟨rfl, rfl, rfl, rfl⟩, fun _ _ _ _ _ => rfl, fun _ _ _ _ => rfl⟩
  obtain ⟨⟨final, vectors, run, -⟩, covered⟩ := @online_windows_covered Int _ textDigest windowNames
    steadyConfig steadyConfig_forPhase1C (streamWithLast 10) numpy
  have emitted := @emittedFeatures_none Int _ textDigest windowNames _ _ _ _ run
  exact ⟨vectors, emitted, @emitted_streamWithLast windowNames textDigest vectors emitted,
    fun vector mem => (covered none vectors emitted vector mem).2.2⟩

end IndustrialReliability
