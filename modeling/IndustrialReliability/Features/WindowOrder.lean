import IndustrialReliability.Features.Parity
import IndustrialReliability.Features.Segments

/-!
The order of the emitted windows.

Within a segment the windows end later and later. A segment that begins after a
fault may go back in time, and the builder does not remember what it has emitted, so
the ends strictly increase exactly when the windows emitted of each segment end after
those of the segments before it (`windowsOrdered_iff`).
-/

namespace IndustrialReliability

variable {F : Type} [PyFloat F]

/-- The stream has a candidate window there, and an event in the bin after it. -/
def FollowedWindow (segment : List (Pushed F)) (windowEnd : Int) : Prop :=
  CandidateWindow segment windowEnd ∧ ∃ pushed ∈ segment,
    windowEnd < pushed.2.val.sourceTimestamp ∧
      pushed.2.val.sourceTimestamp ≤ windowEnd + Datetime.seconds 300

/-- The stream has a candidate window there, and ends with it or goes on in the bin
after it. -/
def ContinuedWindow (segment : List (Pushed F)) (windowEnd : Int) : Prop :=
  CandidateWindow segment windowEnd ∧ Continued segment windowEnd

/-- The window that ends the segments, when they are completed or not. -/
def FinalWindow (completed : Bool) (segment : List (Pushed F)) (windowEnd : Int) : Prop :=
  if completed then ContinuedWindow segment windowEnd else FollowedWindow segment windowEnd

/-- The windows of every segment end after those of the segments before it. -/
structure SegmentsAdvance [Sha256Digest] (stream : List (Pushed F)) (completed : Bool) : Prop where
  closed : (segmentsOf stream).closed.Pairwise fun earlier later =>
    ∀ e e', FollowedWindow earlier e → FollowedWindow later e' → e < e'
  current : ∀ earlier ∈ (segmentsOf stream).closed, ∀ e e', FollowedWindow earlier e →
    FinalWindow completed (segmentsOf stream).current e' → e < e'

/-- Every vector ends after the ones before it, is newer for the alert state machine
and has another window id. -/
def WindowsOrdered (vectors : List (FeatureVectorV1 F)) : Prop :=
  vectors.Pairwise fun earlier later => earlier.windowEnd < later.windowEnd ∧
    earlier.sourceTimestamp < later.sourceTimestamp ∧ earlier.windowId ≠ later.windowId

section Ends

variable {config : BuilderConfig} {segment : List (Pushed F)}

/-- The bin after a window comes at once exactly when the segment has an event in it. -/
theorem followed_iff (ordered : Ordered segment) {before after : List (Bin F)} {bin : Bin F}
    (split : binsOf config segment = before ++ bin :: after) :
    (PHASE1C.windowing F).Followed bin after ↔ ∃ pushed ∈ segment,
      bin.1 < pushed.2.val.sourceTimestamp ∧
        pushed.2.val.sourceTimestamp ≤ bin.1 + Datetime.seconds 300 := by
  have edge : binMicros ∣ bin.1 :=
    (binsOf_onGrid config ordered (PHASE1C.windowing F) rfl rfl).grid bin
      (by rw [split]; simp)
  have prompt := prompt_iff ordered split
  cases after with
  | nil =>
      refine ⟨fun ⟨next, held, _⟩ => (Option.not_mem_none next held).elim, ?_⟩
      rintro ⟨pushed, mem, later, -⟩
      obtain ⟨c, inBins, ends⟩ := exists_bin config ordered mem
      have upTo := (mem_upTo_iff ordered split inBins).mp (split ▸ inBins)
      rw [ends, computeBinEnd_le_iff edge] at upTo
      exact absurd later (not_lt.mpr upTo)
  | cons next rest =>
      rw [← Lib.Windowing.prompt_cons_iff, prompt]
      constructor
      · rintro (ended | continued)
        · have inBins : next ∈ binsOf config segment := by
            rw [split]
            simp
          obtain ⟨pushed, mem, ends⟩ := exists_event ordered inBins
          have less : bin.1 < next.1 := by
            have order := Lib.groups_ascending (samplesOf_byBin config ordered)
            have order : (before ++ bin :: next :: rest).Pairwise fun a b => a.1 < b.1 :=
              split ▸ order
            exact (List.pairwise_cons.mp (List.pairwise_append.mp order).2.1).1 next
              List.mem_cons_self
          have upTo := (computeBinEnd_le_iff edge).mpr (ended pushed mem)
          rw [ends] at upTo
          exact absurd less (not_lt.mpr upTo)
        · exact continued
      · exact .inr

/-- The windows met in a segment where `P` holds behind them, by their ends. -/
theorem windowEnd_iff (ordered : Ordered segment) {windows : List (List (Bin F))}
    {P : Bin F → List (Bin F) → Prop} (Q : Int → Prop)
    (met : ∀ window, window ∈ windows ↔ ∃ before bin after,
      binsOf config segment = before ++ bin :: after ∧
        window = (PHASE1C.windowing F).buffer [] (before ++ [bin]) ∧
        (PHASE1C.windowing F).IsFull window ∧ P bin after)
    (behind : ∀ {before bin after}, binsOf config segment = before ++ bin :: after →
      (P bin after ↔ Q bin.1)) (windowEnd : Int) :
    (∃ window ∈ windows, ∃ last ∈ window.getLast?, last.1 = windowEnd) ↔
      CandidateWindow segment windowEnd ∧ Q windowEnd := by
  have ends : ∀ (before : List (Bin F)) (bin : Bin F),
      (PHASE1C.windowing F).IsFull ((PHASE1C.windowing F).buffer [] (before ++ [bin])) →
      ((PHASE1C.windowing F).buffer [] (before ++ [bin])).getLast? = some bin := by
    intro before bin full
    rw [Lib.Windowing.buffer_concat] at full ⊢
    have length : ((PHASE1C.windowing F).push
      ((PHASE1C.windowing F).buffer [] before) bin).length = 6 := full
    obtain ⟨last, held⟩ := Option.ne_none_iff_exists'.mp (mt List.getLast?_eq_none_iff.mp
      (List.ne_nil_of_length_eq_add_one length))
    rw [held, Lib.Windowing.getLast?_push held]
  constructor
  · rintro ⟨window, mem, last, held, rfl⟩
    obtain ⟨before, bin, after, split, rfl, full, holds⟩ := (met window).mp mem
    obtain rfl := Option.some.inj ((ends before bin full).symm.trans held)
    exact ⟨(isFull_iff ordered split).mp full, (behind split).mp holds⟩
  · rintro ⟨candidate, holds⟩
    obtain ⟨pushed, mem, same⟩ :=
      List.countP_pos_iff.mp (Nat.lt_of_lt_of_le (by decide) (candidate 0 (by omega)))
    obtain ⟨bin, inBins, here⟩ := exists_bin config ordered mem
    rw [of_decide_eq_true same] at here
    have here : bin.1 = windowEnd := by simpa using here
    obtain ⟨before, after, split⟩ := List.append_of_mem inBins
    subst here
    have full := (isFull_iff ordered split).mpr candidate
    exact ⟨_, (met _).mpr ⟨before, bin, after, split, rfl, full, (behind split).mpr holds⟩,
      bin, ends before bin full, rfl⟩

variable (windowing : config.windowing F = PHASE1C.windowing F)
include windowing

theorem followedWindow_iff (ordered : Ordered segment) (windowEnd : Int) :
    (∃ window ∈ followedWindows config segment, ∃ last ∈ window.getLast?, last.1 = windowEnd) ↔
      FollowedWindow segment windowEnd := by
  unfold followedWindows
  rw [windowing]
  exact windowEnd_iff ordered (fun windowEnd => ∃ pushed ∈ segment,
    windowEnd < pushed.2.val.sourceTimestamp ∧
      pushed.2.val.sourceTimestamp ≤ windowEnd + Datetime.seconds 300)
    (fun _ => Lib.Windowing.mem_followedFrom_iff) (fun split => followed_iff ordered split) windowEnd

theorem continuedWindow_iff (ordered : Ordered segment) (windowEnd : Int) :
    (∃ window ∈ (config.windowing F).promptFrom [] (binsOf config segment),
      ∃ last ∈ window.getLast?, last.1 = windowEnd) ↔ ContinuedWindow segment windowEnd := by
  rw [windowing]
  exact windowEnd_iff ordered (Continued segment) (fun _ => Lib.Windowing.mem_promptFrom_iff)
    (fun split => prompt_iff ordered split) windowEnd

omit windowing in
/-- The windows met in a segment end later and later. -/
theorem segmentWindows_ascending (ordered : Ordered segment) :
    ((config.windowing F).windowsFrom [] (binsOf config segment)).Pairwise fun earlier later =>
      ∀ a ∈ earlier.getLast?, ∀ b ∈ later.getLast?, a.1 < b.1 :=
  Lib.Windowing.windowsFrom_ascending (w := config.windowing F) (Lib.groups_ascending (samplesOf_byBin config ordered))

end Ends

section Order

variable [Uuid5] [Sha256Digest] {config : BuilderConfig}

omit [Sha256Digest] in
/-- A vector is stamped with the end of its last bin. -/
theorem MadeFrom.last {window : List (Bin F)} {vector : FeatureVectorV1 F}
    (made : MadeFrom config window vector) : ∃ last ∈ window.getLast?,
      vector.windowEnd = last.1 ∧ vector.sourceTimestamp = last.1 := by
  obtain ⟨emittedAt, made⟩ := made
  obtain ⟨first, -, last, tail, values, -, -, -, rfl⟩ := emitWindow_eq_ok_iff.mp made
  exact ⟨last, tail, rfl, rfl⟩

omit [Sha256Digest] in
/-- The ends of the vectors ascend exactly when those of their windows do. -/
theorem windowEnds_iff_pairwise {windows : List (List (Bin F))}
    {vectors : List (FeatureVectorV1 F)} (made : List.Forall₂ (MadeFrom config) windows vectors) :
    vectors.Pairwise (fun earlier later => earlier.windowEnd < later.windowEnd) ↔
      windows.Pairwise fun earlier later =>
        ∀ a ∈ earlier.getLast?, ∀ b ∈ later.getLast?, a.1 < b.1 := by
  refine (Lib.pairwise_iff_of_forall₂ ?_ made).symm
  intro window vector window' vector' made made'
  obtain ⟨last, tail, ends, -⟩ := made.last
  obtain ⟨last', tail', ends', -⟩ := made'.last
  rw [ends, ends', tail, tail']
  constructor
  · intro less
    exact less last rfl last' rfl
  · rintro less a same b same'
    cases same
    cases same'
    exact less

omit [Sha256Digest] in
/-- The vectors are ordered when their ends ascend. -/
theorem windowsOrdered_iff_ends {windows : List (List (Bin F))}
    {vectors : List (FeatureVectorV1 F)} (made : List.Forall₂ (MadeFrom config) windows vectors)
    (distinct : ∀ a ∈ vectors, ∀ b ∈ vectors, a.windowId = b.windowId → a.windowEnd = b.windowEnd) :
    WindowsOrdered vectors ↔
      vectors.Pairwise fun earlier later => earlier.windowEnd < later.windowEnd := by
  have stamped : ∀ vector ∈ vectors, vector.sourceTimestamp = vector.windowEnd := by
    intro vector mem
    clear distinct
    induction made with
    | nil => cases mem
    | cons here _ ih =>
        rcases List.mem_cons.mp mem with rfl | mem
        · obtain ⟨last, -, ends, stamp⟩ := here.last
          rw [ends, stamp]
        · exact ih mem
  constructor
  · exact fun ordered => ordered.imp fun each => each.1
  · intro ends
    refine ends.imp_of_mem fun {a b} mem mem' less => ⟨less, ?_, fun same => ?_⟩
    · rw [stamped a mem, stamped b mem']
      exact less
    · exact less.ne (distinct a mem b mem' same)

omit [Uuid5] in
/-- The windows of a segmented stream end later and later exactly when its segments
advance. -/
theorem emitted_pairwise_iff (windowing : config.windowing F = PHASE1C.windowing F)
    (stream : List (Pushed F)) (completed : Bool) :
    (((segmentsOf stream).emitted config completed).Pairwise fun earlier later =>
      ∀ a ∈ earlier.getLast?, ∀ b ∈ later.getLast?, a.1 < b.1) ↔
        SegmentsAdvance stream completed := by
  have inOrder := segmentsOf_inOrder stream
  have within : ∀ segment : List (Pushed F), Ordered segment →
      (followedWindows config segment).Pairwise fun earlier later =>
        ∀ a ∈ earlier.getLast?, ∀ b ∈ later.getLast?, a.1 < b.1 :=
    fun segment ordered => (segmentWindows_ascending ordered).sublist
      (Lib.Windowing.followedFrom_sublist _ _)
  -- Windows of two lists are in order exactly when their ends are.
  have across : ∀ {earlier later : List (List (Bin F))} {P Q : Int → Prop},
      (∀ e, (∃ window ∈ earlier, ∃ last ∈ window.getLast?, last.1 = e) ↔ P e) →
      (∀ e, (∃ window ∈ later, ∃ last ∈ window.getLast?, last.1 = e) ↔ Q e) →
      ((∀ w ∈ earlier, ∀ w' ∈ later, ∀ a ∈ w.getLast?, ∀ b ∈ w'.getLast?, a.1 < b.1) ↔
        ∀ e e', P e → Q e' → e < e') := by
    intro earlier later P Q ofP ofQ
    constructor
    · intro each e e' p q
      obtain ⟨w, mem, a, tail, rfl⟩ := (ofP e).mpr p
      obtain ⟨w', mem', b, tail', rfl⟩ := (ofQ e').mpr q
      exact each w mem w' mem' a tail b tail'
    · intro each w mem w' mem' a tail b tail'
      exact each a.1 b.1 ((ofP a.1).mp ⟨w, mem, a, tail, rfl⟩) ((ofQ b.1).mp ⟨w', mem', b, tail', rfl⟩)
  have final : ((if completed then
      (config.windowing F).promptFrom [] (binsOf config (segmentsOf stream).current)
      else followedWindows config (segmentsOf stream).current).Pairwise fun earlier later =>
        ∀ a ∈ earlier.getLast?, ∀ b ∈ later.getLast?, a.1 < b.1) ∧
      ∀ e, (∃ window ∈ (if completed then
        (config.windowing F).promptFrom [] (binsOf config (segmentsOf stream).current)
        else followedWindows config (segmentsOf stream).current),
          ∃ last ∈ window.getLast?, last.1 = e) ↔
        FinalWindow completed (segmentsOf stream).current e := by
    cases completed with
    | false => exact ⟨within _ inOrder.current, followedWindow_iff windowing inOrder.current⟩
    | true =>
        exact ⟨(segmentWindows_ascending inOrder.current).sublist
          (Lib.Windowing.promptFrom_sublist _ _), continuedWindow_iff windowing inOrder.current⟩
  have followed := fun segment mem => followedWindow_iff windowing (inOrder.closed segment mem)
  unfold Segments.emitted
  rw [List.pairwise_append, List.pairwise_flatMap]
  constructor
  · rintro ⟨⟨-, closed⟩, -, last⟩
    constructor
    · refine closed.imp_of_mem fun {earlier later} mem mem' each => ?_
      exact (across (followed earlier mem) (followed later mem')).mp each
    · intro earlier mem
      refine (across (followed earlier mem) final.2).mp fun window inside => ?_
      exact last window (List.mem_flatMap.mpr ⟨earlier, mem, inside⟩)
  · rintro ⟨closed, current⟩
    refine ⟨⟨fun segment mem => within segment (inOrder.closed segment mem), ?_⟩, final.1, ?_⟩
    · refine closed.imp_of_mem fun {earlier later} mem mem' each => ?_
      exact (across (followed earlier mem) (followed later mem')).mpr each
    · intro window inside
      obtain ⟨earlier, mem, inside⟩ := List.mem_flatMap.mp inside
      exact (across (followed earlier mem) final.2).mpr (current earlier mem) window inside

/-- The vectors emitted for a stream are ordered exactly when its segments advance. -/
theorem windowsOrdered_iff (windowing : config.windowing F = PHASE1C.windowing F)
    {stream : List (Pushed F)} {completion : Option (Instant × Int)}
    {vectors : List (FeatureVectorV1 F)}
    (emitted : emittedFeatures config stream completion = .ok vectors)
    (distinct : ∀ a ∈ vectors, ∀ b ∈ vectors,
      a.windowId = b.windowId → a.windowEnd = b.windowEnd) :
    WindowsOrdered vectors ↔ SegmentsAdvance stream completion.isSome := by
  have positive : 0 < config.lookbackBins := by
    have size : config.lookbackBins = 6 := congrArg Lib.Windowing.size windowing
    omega
  have made := emittedFeatures_segments positive emitted
  rw [windowsOrdered_iff_ends made distinct, windowEnds_iff_pairwise made]
  exact emitted_pairwise_iff windowing stream completion.isSome

/-- The ends of the vectors emitted for one segment are candidates. -/
theorem candidate_of_emitted (windowing : config.windowing F = PHASE1C.windowing F)
    {stream : List (Pushed F)} {n : Int} (numbered : NumberedFrom n stream)
    (ordered : Ordered stream) {completion : Option (Instant × Int)}
    {vectors : List (FeatureVectorV1 F)}
    (emitted : emittedFeatures config stream completion = .ok vectors) :
    ∀ vector ∈ vectors, CandidateWindow stream vector.windowEnd := by
  have positive : 0 < config.lookbackBins := by
    have size : config.lookbackBins = 6 := congrArg Lib.Windowing.size windowing
    omega
  have made := emittedFeatures_segments positive emitted
  have inside : ∀ window ∈ (segmentsOf stream).emitted config completion.isSome,
      window ∈ (config.windowing F).promptFrom [] (binsOf config stream) := by
    rw [segmentsOf_numbered numbered ordered]
    intro window mem
    unfold Segments.emitted at mem
    rw [List.flatMap_nil, List.nil_append] at mem
    split at mem
    · exact mem
    · rw [Lib.Windowing.promptFrom_eq]
      exact List.mem_append_left _ mem
  clear emitted
  generalize (segmentsOf stream).emitted config completion.isSome = windows at made inside
  induction made with
  | nil => simp
  | cons here _ ih =>
      obtain ⟨windowInside, restInside⟩ := List.forall_mem_cons.mp inside
      obtain ⟨last, tail, ends, -⟩ := here.last
      refine List.forall_mem_cons.mpr ⟨?_, ih restInside⟩
      rw [ends]
      exact ((continuedWindow_iff windowing ordered last.1).mp
        ⟨_, windowInside, last, tail, rfl⟩).1

omit [Sha256Digest] in
/-- The windows of a segment whose timestamps ascend pass their schemas. -/
theorem emittable_of_ascending (numpy : NumpyFinite F) (forPhase1C : config.ForPhase1C)
    {segment : List (Pushed F)} (ascending : Ascending segment) :
    ∀ window ∈ (config.windowing F).windowsFrom [] (binsOf config segment),
      Emittable config window := by
  rw [forPhase1C.windowing]
  intro window mem
  obtain ⟨windowEnd, windowOf⟩ := windowOf_of_mem ascending.ordered mem
  exact windowOf.emittable ascending.ordered (windowOf.length_events_le ascending) numpy forPhase1C

end Order

/-! ### A stream that starts again -/

section Restarted

variable [Uuid5] [Sha256Digest] {config : BuilderConfig}

/-- A stream in order that starts again is pushed to its end. -/
theorem restarted_returns (numpy : NumpyFinite F) (forPhase1C : config.ForPhase1C)
    {stream : List (Pushed F)} {n : Int} (numbered : NumberedFrom n stream)
    (ascending : Ascending stream) (longer : 1 < stream.length) :
    segmentsOf (stream ++ stream) = ⟨[stream], stream.getLast?, stream⟩ ∧
      ∃ vectors, emittedFeatures config (stream ++ stream) none = .ok vectors := by
  have positive : 0 < config.lookbackBins := by
    rw [forPhase1C.lookbackBins]
    decide
  obtain ⟨first, rest, starts⟩ := List.exists_cons_of_length_pos (Nat.lt_of_succ_lt longer)
  obtain ⟨last, ends⟩ := Option.ne_none_iff_exists'.mp
    (mt List.getLast?_eq_none_iff.mp (List.ne_nil_of_length_pos (Nat.lt_of_succ_lt longer)))
  have lastSequence := numbered.last last ends
  have firstSequence : first.2.val.sequence = n := by
    rw [starts] at numbered
    exact numbered.1
  have other : first.2.val.sequence ≠ last.2.val.sequence := by omega
  have breaks : ¬ Continues last.2.val first.2.val := by
    rintro ⟨next, -⟩
    omega
  have whole : ∀ again : List (Pushed F), again <+: stream → again ≠ [] →
      segmentsOf (stream ++ again) = ⟨[stream], again.getLast?, again⟩ := by
    intro again within nonempty
    obtain ⟨more, split⟩ := within
    cases again with
    | nil => exact absurd rfl nonempty
    | cons pushed front =>
        obtain rfl : pushed = first := by
          rw [starts, List.cons_append] at split
          exact (List.cons.inj split).1
        exact segmentsOf_restarted numbered ascending.ordered ends rfl other breaks
          (numbered.of_prefix ⟨more, split⟩)
          (ascending.ordered.sublist (List.IsPrefix.sublist ⟨more, split⟩))
  have emits : ∀ front, front <+: stream ++ stream → ∀ window ∈ (config.windowing F).windowsFrom []
      (binsOf config (segmentsOf front).current), Emittable config window := by
    intro front within
    rcases List.prefix_or_prefix_of_prefix within (List.prefix_append stream stream) with
      early | ⟨again, rfl⟩
    · rw [segmentsOf_numbered (numbered.of_prefix early) (ascending.ordered.sublist early.sublist)]
      exact emittable_of_ascending numpy forPhase1C (ascending.sublist early.sublist)
    · rw [List.prefix_append_right_inj] at within
      by_cases nonempty : again = []
      · rw [nonempty, List.append_nil, segmentsOf_numbered numbered ascending.ordered]
        exact emittable_of_ascending numpy forPhase1C ascending
      · rw [whole again within nonempty]
        exact emittable_of_ascending numpy forPhase1C (ascending.sublist within.sublist)
  refine ⟨whole stream List.prefix_rfl (by simp [starts]), ?_⟩
  obtain ⟨final, vectors, run⟩ := pushAll_returns positive OnlineFeatureBuilder.tracks_new
    Segments.inOrder_empty emits
  exact ⟨vectors, Lib.map_eq_ok_iff.mpr ⟨_, run, rfl⟩⟩

end Restarted

/-- The end of the dense bins. -/
def denseEnd : Int := PHASE1C.train.start + Datetime.seconds 1800

theorem denseStamps_bins : ∀ ts ∈ denseStamps,
    denseEnd - Datetime.seconds 1500 ≤ computeBinEnd ts ∧ computeBinEnd ts ≤ denseEnd := by
  decide +kernel

/-- The dense bins make one window. -/
theorem candidate_streamWithLast {late windowEnd : Int}
    (candidate : CandidateWindow (streamWithLast late) windowEnd) : windowEnd = denseEnd := by
  have inDense : ∀ i < 6, ∃ ts ∈ denseStamps,
      computeBinEnd ts = windowEnd - (i : Nat) * Datetime.seconds 300 := by
    intro i less
    have enough := candidate i less
    unfold streamWithLast at enough
    rw [binCount_steadyStream, List.countP_append] at enough
    have single := List.countP_le_length (p := fun ts =>
      decide (computeBinEnd ts = windowEnd - (i : Nat) * Datetime.seconds 300))
        (l := [PHASE1C.train.start + Datetime.seconds (1800 + late)])
    rw [List.length_singleton] at single
    obtain ⟨ts, mem, same⟩ := List.countP_pos_iff.mp (show 0 < denseStamps.countP fun ts =>
      decide (computeBinEnd ts = windowEnd - (i : Nat) * Datetime.seconds 300) by omega)
    exact ⟨ts, mem, of_decide_eq_true same⟩
  obtain ⟨ts, mem, top⟩ := inDense 0 (by omega)
  obtain ⟨ts', mem', bottom⟩ := inDense 5 (by omega)
  have upper := (denseStamps_bins ts mem).2
  have lower := (denseStamps_bins ts' mem').1
  simp only [Datetime.seconds, Datetime.microsPerSecond] at *
  omega

theorem length_streamWithLast (late : Int) : (streamWithLast late).length = 145 := by
  rw [← List.length_map (f := fun pushed : Pushed Int => pushed.2.val.sourceTimestamp)]
  unfold streamWithLast
  rw [steadyStream_stamps]
  rfl

/-- A sample in the next bin follows the dense bins. -/
theorem followed_streamWithLast : FollowedWindow (streamWithLast 10) denseEnd := by
  constructor
  · unfold CandidateWindow streamWithLast
    simp only [binCount_steadyStream]
    decide +kernel
  · unfold streamWithLast
    rw [exists_steadyStream_iff
      (P := fun ts => denseEnd < ts ∧ ts ≤ denseEnd + Datetime.seconds 300)]
    decide +kernel

/-- Six dense bins and a sample in the next one: the builder emits one window. -/
theorem continuedStream_ordered :
    letI := windowNames
    letI := textDigest
    ∃ vectors, emittedFeatures steadyConfig (streamWithLast 10)
        (some (⟨0⟩, lastTimestamp (streamWithLast 10))) = .ok vectors ∧ WindowsOrdered vectors := by
  let := windowNames
  let := textDigest
  obtain ⟨numbered, ascending, within⟩ := streamWithLast_ok 10 (by decide) (by decide)
  obtain ⟨vectors, -, -, -, emitted, -⟩ := both_ok exactIntegers_finite steadyConfig_forPhase1C
    numbered ascending within ⟨0⟩ (sameRows_samples _)
  have windowing := steadyConfig_forPhase1C.windowing (F := Int)
  have emitted : emittedFeatures steadyConfig (streamWithLast 10)
    (some (⟨0⟩, lastTimestamp (streamWithLast 10))) = .ok vectors := emitted
  have candidates := candidate_of_emitted windowing numbered ascending.ordered emitted
  refine ⟨vectors, emitted, (windowsOrdered_iff windowing emitted fun a mem b mem' _ => ?_).mpr ?_⟩
  · rw [candidate_streamWithLast (candidates a mem), candidate_streamWithLast (candidates b mem')]
  · constructor <;> rw [segmentsOf_numbered numbered ascending.ordered]
    · exact .nil
    · exact nofun

/-- The same stream once more from its first event, as a replay that starts again
sends it: the builder emits the window of the dense bins twice. -/
theorem restartedStream_repeats :
    letI := windowNames
    letI := textDigest
    ∃ vectors, emittedFeatures steadyConfig (streamWithLast 10 ++ streamWithLast 10) none =
      .ok vectors ∧ ¬ WindowsOrdered vectors := by
  let := windowNames
  let := textDigest
  obtain ⟨numbered, ascending, -⟩ := streamWithLast_ok 10 (by decide) (by decide)
  have windowing := steadyConfig_forPhase1C.windowing (F := Int)
  obtain ⟨segments, vectors, emitted⟩ := restarted_returns exactIntegers_finite
    steadyConfig_forPhase1C numbered ascending (by simp [length_streamWithLast])
  refine ⟨vectors, emitted, fun ordered => ?_⟩
  have made := emittedFeatures_segments (by decide) emitted
  have advance := (emitted_pairwise_iff windowing _ false).mp
    ((windowEnds_iff_pairwise made).mp (ordered.imp fun each => each.1))
  have again := advance.current
  rw [segments] at again
  exact lt_irrefl _ (again _ (List.mem_singleton_self _) denseEnd denseEnd
    followed_streamWithLast followed_streamWithLast)

end IndustrialReliability
