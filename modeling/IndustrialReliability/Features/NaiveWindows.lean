import IndustrialReliability.Features.Training

/-!
The training windows accepted are those a naive test accepts.

A window is good when its rows follow each other second by second and all lie in
one split. `extractWithRejections` decides this by prefix sums and by the first and
last row of the window; the two tests agree on every candidate
(`training_windows_naive`).
-/

namespace IndustrialReliability

variable {F : Type} {contract : Phase1Contract} {frame : SegmentFrame F}

/-- The rows of a candidate window. -/
def trainingWindow (contract : Phase1Contract) (frame : SegmentFrame F) (candidate : Nat) :
    List (FrameRow F) :=
  Lib.window contract.windowSeconds frame.rows candidate

/-- The timestamp lies in the split. -/
def Split.Contains (split : Split) (timestamp : Int) : Prop :=
  split.start ≤ timestamp ∧ timestamp < split.stop

/-- The naive test: every difference is one second, every row lies in the split. -/
structure NaivelyAccepted (contract : Phase1Contract) (rows : List (FrameRow F)) (split : Split) :
    Prop where
  known : split ∈ contract.splits
  consecutive : rows.IsChain fun before after =>
    after.timestamp - before.timestamp = Datetime.seconds 1
  inside : ∀ row ∈ rows, split.Contains row.timestamp

/-- The number of places in a window where a digital column changes. -/
def digitalChanges (column : String) (rows : List (FrameRow F)) : Nat :=
  (rows.zip rows.tail).countP fun (before, after) => before.digital column ≠ after.digital column

/-- No timestamp lies in two of the splits. -/
def Phase1Contract.SplitsDisjoint (contract : Phase1Contract) : Prop :=
  contract.splits.Pairwise fun split split' =>
    ∀ timestamp, ¬ (split.Contains timestamp ∧ split'.Contains timestamp)

/-! ### Differences as marks -/

theorem differs_eq_marks (expected : Int) (series : List Int) :
    (differs expected series).map Bool.toNat =
      Lib.marks (fun before after => decide (after - before = expected)) series := by
  cases series with
  | nil => rfl
  | cons x xs =>
      simp only [differs, seriesDiff, Lib.marks, Lib.neighbours, List.map_cons, List.set_cons_zero,
        List.tail_cons, List.map_map]
      refine congrArg (0 :: ·) ?_
      rw [List.map_zipWith, List.map_zipWith]
      simp

/-! ### Gaps by prefix sums -/

section Candidate

variable {candidate : Nat}

theorem candidate_bounds (long : 2 ≤ contract.windowSeconds) (positive : 1 ≤ contract.strideSeconds)
    (mem : candidate ∈ contract.candidates frame.rows.length) :
    contract.windowSeconds ≤ candidate + 1 ∧ candidate < frame.rows.length := by
  obtain ⟨after, below, -⟩ := (Lib.mem_arange positive).mp mem
  omega

/-- The candidate that the extraction makes of a position. -/
def madeCandidate (contract : Phase1Contract) (frame : SegmentFrame F) (candidate : Nat) :
    TrainingCandidate :=
  trainingCandidate contract (frame.rows.map FrameRow.timestamp)
    (Lib.cumsum ((differs (Datetime.seconds 1) (frame.rows.map FrameRow.timestamp)).map Bool.toNat))
    candidate

/-- The prefix sums at the ends of a window are equal when its rows follow each other
second by second. -/
theorem crossesGap_eq_false_iff (filled : 0 < contract.windowSeconds)
    (full : contract.windowSeconds ≤ candidate + 1) (within : candidate < frame.rows.length) :
    (madeCandidate contract frame candidate).crossesGap = false ↔
      (trainingWindow contract frame candidate).IsChain fun before after =>
        after.timestamp - before.timestamp = Datetime.seconds 1 := by
  obtain ⟨n, size⟩ := Nat.exists_eq_add_of_lt filled
  rw [Nat.zero_add] at size
  have held : candidate < (frame.rows.map FrameRow.timestamp).length := by simpa using within
  have sums := Lib.cumsum_marks (fun before after : Int => decide (after - before = Datetime.seconds 1))
    (show n ≤ candidate by omega) held
  simp only [madeCandidate, trainingCandidate, trainingWindow, decide_eq_false_iff_not, not_not,
    differs_eq_marks, size]
  rw [show candidate + 1 - (n + 1) = candidate - n by omega, sums, Lib.window_map, Lib.failures_map,
    Int.natCast_eq_zero, Lib.failures_eq_zero_iff]
  simp

/-- The rolling sum of the changes of a digital column is the number of them in the window. -/
theorem rollingSum_changes (column : String) (filled : 0 < contract.windowSeconds)
    (full : contract.windowSeconds ≤ candidate + 1) :
    Lib.rollingSum (contract.windowSeconds - 1)
        ((differs 0 (frame.rows.map fun row => row.digital column)).map Bool.toNat) candidate =
      digitalChanges column (trainingWindow contract frame candidate) := by
  obtain ⟨n, size⟩ := Nat.exists_eq_add_of_lt filled
  rw [Nat.zero_add] at size
  rw [differs_eq_marks, trainingWindow, size, Nat.add_sub_cancel,
    Lib.rollingSum_marks _ _ (by omega), Lib.window_map, Lib.failures_map, Lib.failures_eq_countP]
  refine List.countP_congr fun pair _ => ?_
  have changed : pair.2.digital column - pair.1.digital column = 0 ↔
      pair.1.digital column = pair.2.digital column := sub_eq_zero.trans eq_comm
  simp [changed]

/-- Rows that follow each other second by second lie between the first and the last. -/
theorem inside_iff {rows : List (FrameRow F)} {first last : FrameRow F}
    (consecutive : rows.IsChain fun before after =>
      after.timestamp - before.timestamp = Datetime.seconds 1)
    (head : rows.head? = some first) (tail : rows.getLast? = some last) (split : Split) :
    (split.start ≤ first.timestamp ∧ last.timestamp < split.stop) ↔
      ∀ row ∈ rows, split.Contains row.timestamp := by
  have ordered : rows.Pairwise fun before after => before.timestamp ≤ after.timestamp := by
    have trans : IsTrans (FrameRow F) fun before after => before.timestamp ≤ after.timestamp :=
      ⟨fun _ _ _ => le_trans⟩
    refine List.isChain_iff_pairwise.mp (consecutive.imp fun before after step => ?_)
    simp only [Datetime.seconds, Datetime.microsPerSecond] at step
    omega
  obtain ⟨after, rfl⟩ := List.head?_eq_some_iff.mp head
  obtain ⟨before, whole⟩ := List.getLast?_eq_some_iff.mp tail
  constructor
  · rintro ⟨starts, stops⟩ row mem
    have notBefore : first.timestamp ≤ row.timestamp := by
      rcases List.mem_cons.mp mem with rfl | later
      · exact le_rfl
      · exact (List.pairwise_cons.mp ordered).1 row later
    have notAfter : row.timestamp ≤ last.timestamp := by
      rw [whole] at mem ordered
      rcases List.mem_append.mp mem with earlier | same
      · exact (List.pairwise_append.mp ordered).2.2 row earlier last List.mem_cons_self
      · exact (List.mem_singleton.mp same ▸ le_rfl)
    exact ⟨starts.trans notBefore, notAfter.trans_lt stops⟩
  · intro all
    have lastIn : last ∈ first :: after := by simp [whole]
    exact ⟨(all first List.mem_cons_self).1, (all last lastIn).2⟩

/-- The split a window is labelled with: the last that contains it, without a gap. -/
def labelledSplit (contract : Phase1Contract) (window : TrainingCandidate) : Option Split :=
  (contract.splits.filter fun split => split.start ≤ window.windowStart ∧
    window.windowEnd < split.stop ∧ window.crossesGap = false).getLast?

/-- The label is the name of the last split that passes. -/
theorem foldl_label (passes : Split → Prop) [DecidablePred passes] (splits : List Split)
    (label : Option String) :
    splits.foldl (fun name split => if passes split then some split.name else name) label =
      ((splits.filter fun split => passes split).getLast?.map Split.name).or label := by
  induction splits generalizing label with
  | nil => simp
  | cons split splits ih =>
      rw [List.foldl_cons, ih]
      by_cases here : passes split
      · simp only [here, if_true, List.filter_cons, decide_true, List.getLast?_cons]
        cases (splits.filter fun split => decide (passes split)).getLast? <;> simp
      · simp [here]

theorem splitName_eq_map (candidate : Nat) : (madeCandidate contract frame candidate).splitName =
    (labelledSplit contract (madeCandidate contract frame candidate)).map Split.name := by
  have label := foldl_label (fun split =>
    split.start ≤ (madeCandidate contract frame candidate).windowStart ∧
      (madeCandidate contract frame candidate).windowEnd < split.stop ∧
      (madeCandidate contract frame candidate).crossesGap = false) contract.splits none
  rw [Option.or_none] at label
  exact label

/-- The ends of a candidate are those of its rows. -/
theorem madeCandidate_ends (filled : 0 < contract.windowSeconds)
    (full : contract.windowSeconds ≤ candidate + 1) (within : candidate < frame.rows.length) :
    ∃ first last, (trainingWindow contract frame candidate).head? = some first ∧
      (trainingWindow contract frame candidate).getLast? = some last ∧
      (madeCandidate contract frame candidate).windowStart = first.timestamp ∧
      (madeCandidate contract frame candidate).windowEnd = last.timestamp := by
  obtain ⟨head, tail⟩ := Lib.window_ends filled full within
  have startIn : candidate + 1 - contract.windowSeconds < frame.rows.length := by omega
  refine ⟨frame.rows[candidate + 1 - contract.windowSeconds], frame.rows[candidate], ?_, ?_, ?_, ?_⟩
  · rw [trainingWindow, head, List.getElem?_eq_getElem]
  · rw [trainingWindow, tail, List.getElem?_eq_getElem]
  · simp [madeCandidate, trainingCandidate, List.getElem?_eq_getElem startIn]
  · simp [madeCandidate, trainingCandidate, List.getElem?_eq_getElem within]

/-- The label of a candidate is a split that the naive test accepts it for, and there
is one when the naive test accepts it for any. -/
theorem labelledSplit_iff (filled : 0 < contract.windowSeconds)
    (full : contract.windowSeconds ≤ candidate + 1) (within : candidate < frame.rows.length)
    (disjoint : contract.SplitsDisjoint) {split : Split} :
    labelledSplit contract (madeCandidate contract frame candidate) = some split ↔
      NaivelyAccepted contract (trainingWindow contract frame candidate) split := by
  obtain ⟨first, last, head, tail, start, stop⟩ := madeCandidate_ends filled full within
  have gapless := crossesGap_eq_false_iff filled full within
  have passing : ∀ split, split ∈ (contract.splits.filter fun split =>
      split.start ≤ (madeCandidate contract frame candidate).windowStart ∧
        (madeCandidate contract frame candidate).windowEnd < split.stop ∧
        (madeCandidate contract frame candidate).crossesGap = false) ↔
      NaivelyAccepted contract (trainingWindow contract frame candidate) split := by
    intro split
    rw [List.mem_filter, decide_eq_true_eq, start, stop, gapless]
    constructor
    · rintro ⟨known, starts, stops, consecutive⟩
      exact ⟨known, consecutive, (inside_iff consecutive head tail split).mp ⟨starts, stops⟩⟩
    · rintro ⟨known, consecutive, inside⟩
      obtain ⟨starts, stops⟩ := (inside_iff consecutive head tail split).mpr inside
      exact ⟨known, starts, stops, consecutive⟩
  constructor
  · intro label
    exact (passing split).mp (List.mem_of_getLast? label)
  · intro accepted
    have some := List.ne_nil_of_mem ((passing split).mpr accepted)
    obtain ⟨other, label⟩ := Option.ne_none_iff_exists'.mp (mt List.getLast?_eq_none_iff.mp some)
    have alike := (passing other).mp (List.mem_of_getLast? label)
    have mem := List.mem_of_mem_head? head
    have same : other = split := by
      by_contra distinct
      have symm : Std.Symm fun split split' : Split =>
          ∀ timestamp, ¬ (split.Contains timestamp ∧ split'.Contains timestamp) :=
        ⟨fun _ _ apart timestamp both => apart timestamp both.symm⟩
      have apart := List.Pairwise.forall disjoint alike.known accepted.known distinct
      exact apart first.timestamp ⟨alike.inside first mem, accepted.inside first mem⟩
    rw [labelledSplit, label, same]

/-! ### The accepted windows -/

/-- The accepted windows, each with its split. -/
def acceptedWindows (contract : Phase1Contract) (frame : SegmentFrame F) (candidates : List Nat) :
    List (Nat × Split) :=
  candidates.filterMap fun candidate =>
    (labelledSplit contract (madeCandidate contract frame candidate)).map (candidate, ·)

theorem mem_acceptedWindows {candidates : List Nat} {split : Split} :
    (candidate, split) ∈ acceptedWindows contract frame candidates ↔ candidate ∈ candidates ∧
      labelledSplit contract (madeCandidate contract frame candidate) = some split := by
  simp [acceptedWindows]

/-- A labelled window crosses no gap. -/
theorem crossesGap_of_labelled {window : TrainingCandidate} {split : Split}
    (label : labelledSplit contract window = some split) : window.crossesGap = false := by
  have passes := List.mem_of_getLast? label
  simp only [List.mem_filter, decide_eq_true_eq] at passes
  exact passes.2.2.2

/-- A candidate is accepted when it has a label. -/
theorem accepted_iff (candidate : Nat) : (madeCandidate contract frame candidate).accepted = true ↔
    (labelledSplit contract (madeCandidate contract frame candidate)).isSome := by
  rw [TrainingCandidate.accepted, splitName_eq_map, Option.isSome_map]
  cases label : labelledSplit contract (madeCandidate contract frame candidate) with
  | none => simp
  | some split => simp [crossesGap_of_labelled label]

/-- The candidates that pass are those of the accepted windows. -/
theorem filter_accepted (candidates : List Nat) :
    (candidates.map (madeCandidate contract frame)).filter TrainingCandidate.accepted =
      (acceptedWindows contract frame candidates).map fun window =>
        madeCandidate contract frame window.1 := by
  induction candidates with
  | nil => rfl
  | cons candidate candidates ih =>
      have here : (madeCandidate contract frame candidate).accepted = true ↔ _ := accepted_iff candidate
      rw [List.map_cons, List.filter_cons, ih]
      unfold acceptedWindows
      rw [List.filterMap_cons]
      cases label : labelledSplit contract (madeCandidate contract frame candidate) with
      | none =>
          rw [label] at here
          rw [if_neg (by simpa using here)]
          rfl
      | some split =>
          rw [label] at here
          rw [if_pos (here.mpr rfl)]
          rfl

/-- The splits of the accepted windows are their labels. -/
theorem filterMap_splitName (candidates : List Nat) :
    ((acceptedWindows contract frame candidates).map fun window =>
        madeCandidate contract frame window.1).filterMap TrainingCandidate.splitName =
      (acceptedWindows contract frame candidates).map fun window => window.2.name := by
  rw [List.filterMap_map]
  refine List.filterMap_eq_map_iff_forall_eq_some.mpr fun window mem => ?_
  obtain ⟨-, label⟩ := mem_acceptedWindows.mp mem
  rw [Function.comp_apply, splitName_eq_map, label]
  rfl

theorem fst_acceptedWindows_sublist (candidates : List Nat) :
    ((acceptedWindows contract frame candidates).map Prod.fst).Sublist candidates := by
  have same : (acceptedWindows contract frame candidates).map Prod.fst =
      candidates.filter fun candidate =>
        (labelledSplit contract (madeCandidate contract frame candidate)).isSome := by
    induction candidates with
    | nil => rfl
    | cons candidate candidates ih =>
        unfold acceptedWindows at ih ⊢
        rw [List.filterMap_cons, List.filter_cons]
        cases labelledSplit contract (madeCandidate contract frame candidate) with
        | none => exact ih
        | some split => exact congrArg (candidate :: ·) ih
  rw [same]
  exact List.filter_sublist

end Candidate

/-- Every candidate is accepted, or rejected for one of the two reasons. -/
theorem counts_add_up (windows : List TrainingCandidate) :
    (windows.filter TrainingCandidate.accepted).length +
        (windows.countP fun window => !window.crossesGap && window.splitName.isNone) +
        windows.countP (·.crossesGap) = windows.length := by
  induction windows with
  | nil => rfl
  | cons window windows ih =>
      rw [List.filter_cons, List.countP_cons, List.countP_cons, List.length_cons, ← ih]
      cases crosses : window.crossesGap with
      | true =>
          simp [TrainingCandidate.accepted, crosses]
          omega
      | false =>
          cases named : window.splitName with
          | none =>
              simp [TrainingCandidate.accepted, crosses, named]
              omega
          | some name =>
              simp [TrainingCandidate.accepted, crosses, named]
              omega

/-! ### The features -/

section Assignments

variable {columns statistics : List String} {statisticOf : String → String → Option (Nat → F)}
  {selected : List Nat} {P : Lib.Table String (List F) → Prop} {result result' : Lib.Table String (List F)}

/-- One assignment of the loop. -/
theorem assignment_eq_ok {column statistic : String} {result result' : Lib.Table String (List F)}
    (step : (match statisticOf column statistic with
      | some value => .ok (result.set (Phase1.featureColumn column statistic) (selected.map value))
      | none => .error (.keyError statistic) : Except TrainingError _) = .ok result') :
    ∃ value, statisticOf column statistic = some value ∧
      result' = result.set (Phase1.featureColumn column statistic) (selected.map value) := by
  cases its : statisticOf column statistic with
  | none =>
      rw [its] at step
      cases step
  | some value =>
      rw [its] at step
      cases step
      exact ⟨value, rfl, rfl⟩

/-- What each assignment keeps, the assignments of the columns keep. -/
theorem assignColumns_keeps (keeps : ∀ column ∈ columns, ∀ statistic ∈ statistics, ∀ value,
      statisticOf column statistic = some value → ∀ result, P result →
        P (result.set (Phase1.featureColumn column statistic) (selected.map value)))
    (holds : P result)
    (ran : assignColumns frame columns statistics statisticOf selected result = .ok result') :
    P result' := by
  refine Lib.foldlM_keeps (fun column known before after step its => ?_) holds ran
  split at step
  · cases step
  · refine Lib.foldlM_keeps (fun statistic mem before after step its => ?_) its step
    obtain ⟨value, that, rfl⟩ := assignment_eq_ok step
    exact keeps column known statistic mem value that before its

/-- What one assignment brings about and the others keep holds after them all. -/
theorem assignColumns_establishes {column statistic : String} (known : column ∈ columns)
    (mem : statistic ∈ statistics)
    (sets : ∀ value, statisticOf column statistic = some value → ∀ result : Lib.Table String (List F),
      P (result.set (Phase1.featureColumn column statistic) (selected.map value)))
    (keeps : ∀ column ∈ columns, ∀ statistic ∈ statistics, ∀ value,
      statisticOf column statistic = some value → ∀ result, P result →
        P (result.set (Phase1.featureColumn column statistic) (selected.map value)))
    (ran : assignColumns frame columns statistics statisticOf selected result = .ok result') :
    P result' := by
  refine Lib.foldlM_establishes known (fun before after step => ?_)
    (fun other its before after step holds => ?_) ran
  · split at step
    · cases step
    · refine Lib.foldlM_establishes mem (fun before after step => ?_)
        (fun other its before after step holds => ?_) step
      · obtain ⟨value, that, rfl⟩ := assignment_eq_ok step
        exact sets value that before
      · obtain ⟨value, that, rfl⟩ := assignment_eq_ok step
        exact keeps column known other its value that before holds
  · split at step
    · cases step
    · refine Lib.foldlM_keeps (fun statistic mem before after step holds => ?_) holds step
      obtain ⟨value, that, rfl⟩ := assignment_eq_ok step
      exact keeps other its statistic mem value that before holds

/-- The columns are assigned when each is there and each statistic is known. -/
theorem exists_assignColumns_ok (selected : List Nat)
    (there : ∀ column ∈ columns, column ∈ frame.columns)
    (known : ∀ column ∈ columns, ∀ statistic ∈ statistics, (statisticOf column statistic).isSome)
    (result : Lib.Table String (List F)) :
    ∃ result', assignColumns frame columns statistics statisticOf selected result = .ok result' := by
  refine Lib.exists_foldlM_ok (fun column mem before => ?_) result
  rw [if_neg (not_not.mpr (there column mem))]
  refine Lib.exists_foldlM_ok (fun statistic its before => ?_) before
  obtain ⟨value, that⟩ := Option.isSome_iff_exists.mp (known column mem statistic its)
  rw [that]
  exact ⟨_, rfl⟩

end Assignments

section Features

variable [PyFloat F] {rolling : Rolling F}

/-- A name made of a column and a digital statistic is that of another column only for
another statistic. -/
theorem featureColumn_inj {column column' statistic : String}
    (known : statistic ∈ Phase1.DIGITAL_STATISTICS)
    (same : Phase1.featureColumn column statistic = Phase1.featureColumn column' "transition_count") :
    column = column' ∧ statistic = "transition_count" := by
  simp only [Phase1.DIGITAL_STATISTICS, List.mem_cons, List.not_mem_nil, or_false] at known
  have backwards := congrArg (fun name => name.toList.reverse) same
  simp only [Phase1.featureColumn, String.toList_append, List.reverse_append] at backwards
  rcases known with rfl | rfl | rfl
  · simp at backwards
  · simp at backwards
  · refine ⟨?_, rfl⟩
    unfold Phase1.featureColumn at same
    exact (String.append_left_inj _).mp ((String.append_left_inj _).mp same)

theorem digitalStatistic_known {values : List Int} {statistic : String} {value : Nat → F}
    (its : digitalStatistic rolling contract values statistic = some value) :
    statistic ∈ Phase1.DIGITAL_STATISTICS := by
  unfold digitalStatistic at its
  split at its
  · simp [Phase1.DIGITAL_STATISTICS]
  · simp [Phase1.DIGITAL_STATISTICS]
  · simp [Phase1.DIGITAL_STATISTICS]
  · cases its

/-- The transition counts of the selected windows are sums of changes. -/
theorem transitions_of_windowFeatures {selected : List Nat} {features : List (String × List F)}
    (computed : windowFeatures rolling contract frame selected = .ok features) {column : String}
    (digital : column ∈ contract.digitalColumns)
    (counted : "transition_count" ∈ contract.digitalStatistics)
    (wanted : Phase1.featureColumn column "transition_count" ∈ contract.featureColumns) :
    (Phase1.featureColumn column "transition_count", selected.map fun position =>
      PyFloat.ofInt (Lib.rollingSum (contract.windowSeconds - 1)
        ((differs 0 (frame.rows.map fun row => row.digital column)).map Bool.toNat) position)) ∈
      features := by
  unfold windowFeatures at computed
  obtain ⟨analog, -, rest⟩ := Lib.bind_eq_ok_iff.mp computed
  obtain ⟨result, assigned, listed⟩ := Lib.bind_eq_ok_iff.mp rest
  have held : result.get? (Phase1.featureColumn column "transition_count") =
      some (selected.map fun position => PyFloat.ofInt (Lib.rollingSum (contract.windowSeconds - 1)
        ((differs 0 (frame.rows.map fun row => row.digital column)).map Bool.toNat) position)) := by
    refine assignColumns_establishes (P := fun result : Lib.Table String (List F) =>
      result.get? (Phase1.featureColumn column "transition_count") = some _) digital counted ?_ ?_ assigned
    · intro value its before
      cases its
      rw [Lib.Table.get?_set_self]
    · intro other _ statistic _ value its before holds
      by_cases same : Phase1.featureColumn other statistic =
          Phase1.featureColumn column "transition_count"
      · obtain ⟨rfl, rfl⟩ := featureColumn_inj (digitalStatistic_known its) same
        cases its
        rw [Lib.Table.get?_set_self]
      · rw [Lib.Table.get?_set_ne (Ne.symm same)]
        exact holds
  obtain ⟨entry, mem, its⟩ := Lib.exists_of_forall₂ (Lib.mapM_eq_ok_iff_forall₂.mp listed).flip wanted
  rw [held] at its
  cases its
  exact mem

/-- The feature columns of a contract are those its columns and statistics make. -/
structure Phase1Contract.Consistent (contract : Phase1Contract) : Prop where
  analogRequired : ∀ column ∈ contract.analogColumns, column ∈ contract.predictorColumns
  digitalRequired : ∀ column ∈ contract.digitalColumns, column ∈ contract.predictorColumns
  analogKnown : ∀ statistic ∈ contract.analogStatistics, statistic ∈ Phase1.ANALOG_STATISTICS
  digitalKnown : ∀ statistic ∈ contract.digitalStatistics, statistic ∈ Phase1.DIGITAL_STATISTICS
  produced : ∀ name ∈ contract.featureColumns,
    (∃ column ∈ contract.analogColumns, ∃ statistic ∈ contract.analogStatistics,
      name = Phase1.featureColumn column statistic) ∨
    ∃ column ∈ contract.digitalColumns, ∃ statistic ∈ contract.digitalStatistics,
      name = Phase1.featureColumn column statistic

theorem PHASE1_consistent : PHASE1.Consistent where
  analogRequired _ mem := List.mem_append_left _ mem
  digitalRequired _ mem := List.mem_append_right _ mem
  analogKnown _ mem := mem
  digitalKnown _ mem := mem
  produced name mem := by
    rcases List.mem_append.mp mem with analog | digital
    · obtain ⟨column, known, made⟩ := List.mem_flatMap.mp analog
      obtain ⟨statistic, its, rfl⟩ := List.mem_map.mp made
      exact .inl ⟨column, known, statistic, its, rfl⟩
    · obtain ⟨column, known, made⟩ := List.mem_flatMap.mp digital
      obtain ⟨statistic, its, rfl⟩ := List.mem_map.mp made
      exact .inr ⟨column, known, statistic, its, rfl⟩

theorem isSome_analogStatistic (rolling : Rolling F) (contract : Phase1Contract) (values : List F)
    {statistic : String} (known : statistic ∈ Phase1.ANALOG_STATISTICS) :
    (analogStatistic rolling contract values statistic).isSome := by
  simp only [Phase1.ANALOG_STATISTICS, List.mem_cons, List.not_mem_nil, or_false] at known
  rcases known with rfl | rfl | rfl | rfl | rfl | rfl <;> rfl

theorem isSome_digitalStatistic (rolling : Rolling F) (contract : Phase1Contract) (values : List Int)
    {statistic : String} (known : statistic ∈ Phase1.DIGITAL_STATISTICS) :
    (digitalStatistic rolling contract values statistic).isSome := by
  simp only [Phase1.DIGITAL_STATISTICS, List.mem_cons, List.not_mem_nil, or_false] at known
  rcases known with rfl | rfl | rfl <;> rfl

/-- The features of a consistent contract are computed from a table with its columns. -/
theorem exists_windowFeatures_ok (rolling : Rolling F) (consistent : contract.Consistent)
    (there : ∀ column ∈ contract.predictorColumns, column ∈ frame.columns) (selected : List Nat) :
    ∃ features, windowFeatures rolling contract frame selected = .ok features := by
  have kept : ∀ key other : String, ∀ values : List F, ∀ result : Lib.Table String (List F),
      (result.get? key).isSome → ((result.set other values).get? key).isSome := by
    intro key other values result held
    by_cases same : key = other
    · rw [same, Lib.Table.get?_set_self]
      rfl
    · rw [Lib.Table.get?_set_ne same]
      exact held
  obtain ⟨analog, first⟩ := exists_assignColumns_ok selected
    (fun column mem => there column (consistent.analogRequired column mem))
    (fun column _ statistic mem => isSome_analogStatistic rolling contract
      (frame.rows.map fun row => row.analog column) (consistent.analogKnown statistic mem))
    .empty
  obtain ⟨result, second⟩ := exists_assignColumns_ok selected
    (fun column mem => there column (consistent.digitalRequired column mem))
    (fun column _ statistic mem => isSome_digitalStatistic rolling contract
      (frame.rows.map fun row => row.digital column) (consistent.digitalKnown statistic mem))
    analog
  have listed : ∀ name ∈ contract.featureColumns, (result.get? name).isSome := by
    intro name mem
    rcases consistent.produced name mem with ⟨column, known, statistic, its, rfl⟩ |
      ⟨column, known, statistic, its, rfl⟩
    · refine assignColumns_keeps (P := fun result : Lib.Table String (List F) =>
        (result.get? (Phase1.featureColumn column statistic)).isSome) ?_ ?_ second
      · exact fun _ _ _ _ _ _ result => kept _ _ _ result
      · refine assignColumns_establishes (P := fun result : Lib.Table String (List F) =>
          (result.get? (Phase1.featureColumn column statistic)).isSome) known its ?_ ?_ first
        · intro value _ before
          rw [Lib.Table.get?_set_self]
          rfl
        · exact fun _ _ _ _ _ _ result => kept _ _ _ result
    · refine assignColumns_establishes (P := fun result : Lib.Table String (List F) =>
        (result.get? (Phase1.featureColumn column statistic)).isSome) known its ?_ ?_ second
      · intro value _ before
        rw [Lib.Table.get?_set_self]
        rfl
      · exact fun _ _ _ _ _ _ result => kept _ _ _ result
  refine Exists.imp (fun features ran => Lib.bind_eq_ok_iff.mpr ⟨analog, first,
    Lib.bind_eq_ok_iff.mpr ⟨result, second, ran⟩⟩) (Lib.exists_mapM_ok fun name mem => ?_)
  obtain ⟨values, its⟩ := Option.isSome_iff_exists.mp (listed name mem)
  refine ⟨(name, values), ?_⟩
  rw [its]

/-- What the extraction says of a segment is what the naive test says of it; the list
holds the accepted windows, each with its split. -/
structure NaiveExtraction (contract : Phase1Contract) (frame : SegmentFrame F)
    (features : FeatureFrame F) (rejected : RejectedWindows) (accepted : List (Nat × Split)) :
    Prop where
  inOrder : (accepted.map Prod.fst).Sublist (contract.candidates frame.rows.length)
  exactly : ∀ candidate ∈ contract.candidates frame.rows.length, ∀ split,
    (candidate, split) ∈ accepted ↔
      NaivelyAccepted contract (trainingWindow contract frame candidate) split
  starts : features.windowStart.map some = accepted.map fun (candidate, _) =>
    (trainingWindow contract frame candidate).head?.map FrameRow.timestamp
  ends : features.windowEnd.map some = accepted.map fun (candidate, _) =>
    (trainingWindow contract frame candidate).getLast?.map FrameRow.timestamp
  labels : features.split = accepted.map fun (_, split) => split.name
  transitions : ∀ column ∈ contract.digitalColumns, "transition_count" ∈ contract.digitalStatistics →
    Phase1.featureColumn column "transition_count" ∈ contract.featureColumns →
    (Phase1.featureColumn column "transition_count", accepted.map fun (candidate, _) =>
      PyFloat.ofInt (digitalChanges column (trainingWindow contract frame candidate))) ∈
      features.features
  counts : accepted.length + rejected.splitBoundary + rejected.timestampGap =
    (contract.candidates frame.rows.length).length

/-- The candidates that the extraction makes of a segment. -/
def madeCandidates (contract : Phase1Contract) (frame : SegmentFrame F) : List TrainingCandidate :=
  (contract.candidates frame.rows.length).map (madeCandidate contract frame)

/-- When the extraction succeeds, and with what. -/
theorem extractWithRejections_eq_ok_iff (long : 2 ≤ contract.windowSeconds)
    (positive : 1 ≤ contract.strideSeconds) {features : FeatureFrame F} {rejected : RejectedWindows} :
    extractWithRejections rolling contract frame = .ok (features, rejected) ↔
      (∀ column ∈ "timestamp" :: contract.predictorColumns, column ∈ frame.columns) ∧
      ((contract.candidates frame.rows.length = [] ∧
          features = ⟨[], [], [], contract.featureColumns.map fun column => (column, [])⟩ ∧
          rejected = ⟨0, 0⟩) ∨
        (contract.candidates frame.rows.length ≠ [] ∧ ∃ columns,
          windowFeatures rolling contract frame
            (((madeCandidates contract frame).filter TrainingCandidate.accepted).map (·.candidate)) =
              .ok columns ∧
          features = {
            windowStart := ((madeCandidates contract frame).filter
              TrainingCandidate.accepted).map (·.windowStart)
            windowEnd := ((madeCandidates contract frame).filter
              TrainingCandidate.accepted).map (·.windowEnd)
            split := ((madeCandidates contract frame).filter
              TrainingCandidate.accepted).filterMap (·.splitName)
            features := columns } ∧
          rejected = {
            splitBoundary := (madeCandidates contract frame).countP fun window =>
              !window.crossesGap && window.splitName.isNone
            timestampGap := (madeCandidates contract frame).countP (·.crossesGap) })) := by
  have notShort : ¬ (contract.windowSeconds < 2 ∨ contract.strideSeconds < 1) := by omega
  unfold extractWithRejections
  dsimp only
  by_cases missing : ("timestamp" :: contract.predictorColumns).filter
      (fun column => column ∉ frame.columns) = []
  · have there : ∀ column ∈ "timestamp" :: contract.predictorColumns, column ∈ frame.columns := by
      simpa [List.filter_eq_nil_iff] using missing
    rw [if_neg (not_not.mpr missing), if_neg notShort]
    by_cases none : contract.candidates frame.rows.length = []
    · rw [if_pos none]
      constructor
      · intro same
        cases same
        exact ⟨there, .inl ⟨none, rfl, rfl⟩⟩
      · rintro ⟨-, ⟨-, rfl, rfl⟩ | ⟨some, -⟩⟩
        · rfl
        · exact absurd none some
    · rw [if_neg none, Lib.bind_eq_ok_iff]
      constructor
      · rintro ⟨columns, computed, same⟩
        cases same
        exact ⟨there, .inr ⟨none, columns, computed, rfl, rfl⟩⟩
      · rintro ⟨-, ⟨empty, -⟩ | ⟨-, columns, computed, rfl, rfl⟩⟩
        · exact absurd empty none
        · exact ⟨columns, computed, rfl⟩
  · have absent : ¬ ∀ column ∈ "timestamp" :: contract.predictorColumns, column ∈ frame.columns := by
      simpa [List.filter_eq_nil_iff] using missing
    rw [if_pos missing]
    exact ⟨nofun, fun ⟨there, _⟩ => absurd there absent⟩

/-- The accepted candidates of a segment are those of the naive test. -/
theorem naiveExtraction_of_windows (long : 2 ≤ contract.windowSeconds)
    (positive : 1 ≤ contract.strideSeconds) (disjoint : contract.SplitsDisjoint)
    {columns : List (String × List F)}
    (computed : windowFeatures rolling contract frame
      (((madeCandidates contract frame).filter TrainingCandidate.accepted).map (·.candidate)) =
        .ok columns) :
    NaiveExtraction contract frame {
        windowStart := ((madeCandidates contract frame).filter
          TrainingCandidate.accepted).map (·.windowStart)
        windowEnd := ((madeCandidates contract frame).filter
          TrainingCandidate.accepted).map (·.windowEnd)
        split := ((madeCandidates contract frame).filter
          TrainingCandidate.accepted).filterMap (·.splitName)
        features := columns } {
        splitBoundary := (madeCandidates contract frame).countP fun window =>
          !window.crossesGap && window.splitName.isNone
        timestampGap := (madeCandidates contract frame).countP (·.crossesGap) }
      (acceptedWindows contract frame (contract.candidates frame.rows.length)) := by
  have filled : 0 < contract.windowSeconds := by omega
  have bounds : ∀ candidate ∈ contract.candidates frame.rows.length,
      contract.windowSeconds ≤ candidate + 1 ∧ candidate < frame.rows.length :=
    fun candidate mem => candidate_bounds long positive mem
  have ends : ∀ window ∈ acceptedWindows contract frame (contract.candidates frame.rows.length),
      ∃ first last, (trainingWindow contract frame window.1).head? = some first ∧
        (trainingWindow contract frame window.1).getLast? = some last ∧
        (madeCandidate contract frame window.1).windowStart = first.timestamp ∧
        (madeCandidate contract frame window.1).windowEnd = last.timestamp := by
    intro window mem
    obtain ⟨full, within⟩ := bounds window.1 (mem_acceptedWindows.mp mem).1
    exact madeCandidate_ends filled full within
  have passed : (madeCandidates contract frame).filter TrainingCandidate.accepted =
      (acceptedWindows contract frame (contract.candidates frame.rows.length)).map fun window =>
        madeCandidate contract frame window.1 := filter_accepted _
  refine ⟨fst_acceptedWindows_sublist _, ?_, ?_, ?_, ?_, ?_, ?_⟩
  · intro candidate mem split
    obtain ⟨full, within⟩ := bounds candidate mem
    rw [mem_acceptedWindows, labelledSplit_iff filled full within disjoint]
    exact and_iff_right mem
  · rw [passed, List.map_map, List.map_map]
    refine List.map_congr_left fun window mem => ?_
    obtain ⟨first, last, head, -, start, -⟩ := ends window mem
    simp only [Function.comp_apply, start, head, Option.map_some]
  · rw [passed, List.map_map, List.map_map]
    refine List.map_congr_left fun window mem => ?_
    obtain ⟨first, last, -, tail, -, stop⟩ := ends window mem
    simp only [Function.comp_apply, stop, tail, Option.map_some]
  · rw [passed]
    exact filterMap_splitName _
  · intro column digital counted wanted
    have entry := transitions_of_windowFeatures computed digital counted wanted
    rw [passed, List.map_map, List.map_map] at entry
    refine Eq.subst (motive := fun values => (_, values) ∈ columns) ?_ entry
    refine List.map_congr_left fun window mem => ?_
    obtain ⟨full, -⟩ := bounds window.1 (mem_acceptedWindows.mp mem).1
    exact congrArg (fun changes : Nat => (PyFloat.ofInt changes : F))
      (rollingSum_changes column filled full)
  · have length := counts_add_up (madeCandidates contract frame)
    rw [passed, List.length_map] at length
    rw [length, madeCandidates, List.length_map]

/-- The windows that the extraction accepts are those of the naive test, each labelled
with its split, its transition counts are those of its rows, and every candidate is
counted once; a segment with the columns of a consistent contract is extracted. -/
theorem training_windows_naive (rolling : Rolling F) (contract : Phase1Contract)
    (frame : SegmentFrame F) (long : 2 ≤ contract.windowSeconds)
    (positive : 1 ≤ contract.strideSeconds) (disjoint : contract.SplitsDisjoint) :
    (∀ features rejected, extractWithRejections rolling contract frame = .ok (features, rejected) →
      ∃ accepted, NaiveExtraction contract frame features rejected accepted) ∧
    (contract.Consistent →
      (∀ column ∈ "timestamp" :: contract.predictorColumns, column ∈ frame.columns) →
      ∃ features rejected, extractWithRejections rolling contract frame = .ok (features, rejected)) := by
  constructor
  · intro features rejected extracted
    obtain ⟨-, ⟨none, rfl, rfl⟩ | ⟨some, columns, computed, rfl, rfl⟩⟩ :=
      (extractWithRejections_eq_ok_iff long positive).mp extracted
    · refine ⟨[], List.nil_sublist _, ?_, rfl, rfl, rfl, ?_, ?_⟩
      · rw [none]
        nofun
      · exact fun column _ _ wanted => List.mem_map.mpr ⟨_, wanted, rfl⟩
      · rw [none]
        rfl
    · exact ⟨_, naiveExtraction_of_windows long positive disjoint computed⟩
  · intro consistent there
    by_cases none : contract.candidates frame.rows.length = []
    · exact ⟨_, _, (extractWithRejections_eq_ok_iff long positive).mpr
        ⟨there, .inl ⟨none, rfl, rfl⟩⟩⟩
    · obtain ⟨columns, computed⟩ := exists_windowFeatures_ok rolling consistent
        (fun column mem => there column (List.mem_cons_of_mem _ mem))
        (((madeCandidates contract frame).filter TrainingCandidate.accepted).map (·.candidate))
      exact ⟨_, _, (extractWithRejections_eq_ok_iff long positive).mpr
        ⟨there, .inr ⟨none, columns, computed, rfl, rfl⟩⟩⟩

end Features

theorem PHASE1_disjoint : PHASE1.SplitsDisjoint := by
  have apart : ∀ split split' : Split, split.stop ≤ split'.start →
      ∀ timestamp, ¬ (split.Contains timestamp ∧ split'.Contains timestamp) := by
    rintro split split' before timestamp ⟨⟨-, below⟩, above, -⟩
    omega
  refine .cons (fun split' mem => apart _ _ ?_) (.cons (fun split' mem => apart _ _ ?_)
    (List.pairwise_singleton _ _))
  · simp only [List.mem_cons, List.not_mem_nil, or_false] at mem
    rcases mem with rfl | rfl <;> decide
  · simp only [List.mem_cons, List.not_mem_nil, or_false] at mem
    rcases mem with rfl
    decide

/-- A segment at the start of the training range, with a gap before its last row. -/
def gappedSegment : SegmentFrame Int where
  columns := "timestamp" :: PHASE1.predictorColumns
  rows := [0, 1, 3].map fun second => {
    timestamp := Datetime.seconds (1641016800 + second)
    analog := fun _ => 0
    digital := fun _ => second }

/-- The windows of two rows of a segment with a gap. -/
theorem two_row_windows_naive : ∃ features rejected accepted,
    extractWithRejections ⟨fun _ _ _ => 0, fun _ _ _ _ => 0, fun _ _ _ => 0, fun _ _ _ => 0⟩
        { PHASE1 with windowSeconds := 2, strideSeconds := 1 } gappedSegment = .ok (features, rejected) ∧
      NaiveExtraction { PHASE1 with windowSeconds := 2, strideSeconds := 1 } gappedSegment features
        rejected accepted := by
  obtain ⟨each, total⟩ := training_windows_naive
    ⟨fun _ _ _ => 0, fun _ _ _ _ => 0, fun _ _ _ => 0, fun _ _ _ => 0⟩
    { PHASE1 with windowSeconds := 2, strideSeconds := 1 } gappedSegment le_rfl le_rfl PHASE1_disjoint
  have consistent : { PHASE1 with windowSeconds := 2, strideSeconds := 1 : Phase1Contract }.Consistent :=
    ⟨PHASE1_consistent.1, PHASE1_consistent.2, PHASE1_consistent.3, PHASE1_consistent.4,
      PHASE1_consistent.5⟩
  obtain ⟨features, rejected, extracted⟩ := total consistent fun _ mem => mem
  obtain ⟨accepted, naive⟩ := each features rejected extracted
  exact ⟨features, rejected, accepted, extracted, naive⟩

end IndustrialReliability
