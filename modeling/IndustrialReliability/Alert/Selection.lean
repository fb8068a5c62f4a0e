import IndustrialReliability.Alert.Simulation
import Mathlib.Algebra.Order.Ring.Rat
import Mathlib.Data.List.Dedup
import Mathlib.Tactic.NormNum

/-!
The selection of the alert policy.

`select_policy` tries the candidates in the order of `product` and takes the first that
passes both gates on the calibration windows. Which candidates can pass follows from
what each parameter does to the simulation: a longer persistence and a shorter cooldown
only shorten the time in alert, a wider merge gap only lowers the number of episodes.
The live machine follows the simulation, so under the selected policy its alerts keep to
the gates too.
-/

namespace IndustrialReliability

/-- The floats of the metrics, of which none is NaN. -/
class MetricNumber (F : Type) extends LinearOrder F where
  /-- The float closest to a rational. -/
  ofRat : ℚ → F
  add : F → F → F
  mul : F → F → F
  div : F → F → F

/-- Rounding keeps the order. -/
class RoundsInOrder (F : Type) [MetricNumber F] : Prop where
  ofRat_mono : ∀ {a b : ℚ}, a ≤ b → (MetricNumber.ofRat a : F) ≤ MetricNumber.ofRat b
  div_mono : ∀ {a b c : F}, a ≤ b → MetricNumber.ofRat 0 < c →
    MetricNumber.div a c ≤ MetricNumber.div b c
  /-- `1.0 / 288.0` is positive. -/
  shortest_pos : (MetricNumber.ofRat 0 : F) <
    MetricNumber.div (MetricNumber.ofRat 1) (MetricNumber.ofRat 288)

/-! ### Candidates -/

def PERSISTENCE_CANDIDATES : List Int := [1, 2, 3]

def COOLDOWN_CANDIDATES : List Int := [1, 2, 3, 6]

def MERGE_GAP_SECONDS_CANDIDATES : List Int := [0, 300, 900]

structure PolicyCandidate where
  persistence : Int
  cooldown : Int
  mergeGapSeconds : Int
deriving DecidableEq

/-- `product` of the three. -/
def policyCandidates : List PolicyCandidate :=
  PERSISTENCE_CANDIDATES.flatMap fun persistence => COOLDOWN_CANDIDATES.flatMap fun cooldown =>
    MERGE_GAP_SECONDS_CANDIDATES.map fun mergeGapSeconds => ⟨persistence, cooldown, mergeGapSeconds⟩

/-- The columns of a frame that the selection reads. -/
structure CalibrationWindow extends CalibrationRow where
  split : String
  windowStart : Int
deriving DecidableEq

structure PolicyMetrics (F : Type) where
  falseEpisodesPerDay : F
  timeInAlert : F
deriving DecidableEq

structure PolicySelection (F : Type) where
  candidate : PolicyCandidate
  metrics : PolicyMetrics F
deriving DecidableEq

inductive SelectionError where
  | splits (uniqueSplits : List String)
  | noCandidate
deriving DecidableEq

/-- The text of the error; the set is printed in some order. -/
def SelectionError.message : SelectionError → String
  | splits [] => "policy selection accepts calibration rows only, got splits: set()"
  | splits uniqueSplits => "policy selection accepts calibration rows only, got splits: \x7b" ++
      ", ".intercalate (uniqueSplits.map fun split => "'" ++ split ++ "'") ++ "\x7d"
  | noCandidate => "no predeclared alert policy satisfies the calibration gates"

section Source

variable {F : Type} [MetricNumber F]

open MetricNumber

/-- `max((end_time - start_time).total_seconds() / 86400.0, 1.0 / 288.0)`. -/
def durationDays (rows : List CalibrationWindow) : F :=
  let startTime := ((rows.map (·.windowStart)).min?).getD 0
  let endTime := ((rows.map (·.windowEnd)).max?).getD 0
  let totalSeconds : ℚ := ((endTime - startTime : Int) : ℚ) / (Datetime.microsPerSecond : ℚ)
  max (div (ofRat totalSeconds) (ofRat 86400)) (div (ofRat 1) (ofRat 288))

/-- `sortValues` is `sort_values("window_end")`, which leaves the order of equal ends
open. -/
def evaluateCandidate (sortValues : List CalibrationWindow → List CalibrationWindow)
    (frame : List CalibrationWindow) (candidate : PolicyCandidate) : PolicyMetrics F :=
  if frame.length = 0 then ⟨ofRat 0, ofRat 0⟩
  else
    let sorted := sortValues frame
    let counts := simulateAlertStream (sorted.map (·.toCalibrationRow)) candidate.persistence
      candidate.cooldown candidate.mergeGapSeconds
    { falseEpisodesPerDay := div (ofRat counts.1) (durationDays sorted)
      timeInAlert := ofRat ((counts.2 : ℚ) / (max sorted.length 1 : Nat)) }

/-- Both gates. -/
def PolicyMetrics.Passes (metrics : PolicyMetrics F) : Prop :=
  metrics.falseEpisodesPerDay ≤ ofRat 1 ∧ metrics.timeInAlert ≤ ofRat 0.05

instance (metrics : PolicyMetrics F) : Decidable metrics.Passes := by
  unfold PolicyMetrics.Passes
  infer_instance

def PolicyMetrics.cost (metrics : PolicyMetrics F) : F :=
  add metrics.falseEpisodesPerDay (mul (ofRat 100) metrics.timeInAlert)

/-- The loop over the candidates: the one it returns, or the best when it ends. No best
yet is the cost `inf`. -/
def searchPolicy (evaluate : PolicyCandidate → PolicyMetrics F) :
    Option (PolicySelection F) → List PolicyCandidate →
      PolicySelection F ⊕ Option (PolicySelection F)
  | best, [] => .inr best
  | best, candidate :: later =>
      let metrics := evaluate candidate
      if metrics.Passes then .inl ⟨candidate, metrics⟩
      else if best.all fun best => decide (metrics.cost < best.metrics.cost) then
        searchPolicy evaluate (some ⟨candidate, metrics⟩) later
      else searchPolicy evaluate best later

def selectPolicy (sortValues : List CalibrationWindow → List CalibrationWindow)
    (frame : List CalibrationWindow) (allowFallback : Bool) :
    Except SelectionError (PolicySelection F) :=
  let uniqueSplits := (frame.map (·.split)).dedup
  if uniqueSplits ≠ ["calibration"] ∧ allowFallback = false then .error (.splits uniqueSplits)
  else
    match searchPolicy (evaluateCandidate sortValues frame) none policyCandidates with
    | .inl selection => .ok selection
    | .inr (some best) => if allowFallback then .ok best else .error .noCandidate
    | .inr none => .error .noCandidate

end Source

/-! ### What the parameters do to the simulation -/

section Simulation

variable {persistence persistence' cooldown cooldown' gap gap' : Int} {s s' : SimState}

/-- The second simulation is active only where the first one is. -/
structure Quieter (s s' : SimState) : Prop where
  anomalies : s'.anomalyStreak = s.anomalyStreak
  normals : s'.normalStreak = s.normalStreak
  active : s'.isActive = true → s.isActive = true
  windows : s'.alertWindowCount ≤ s.alertWindowCount

/-- One window that is counted where the simulation is active. -/
theorem counted_le {windows windows' : Nat} {active active' : Bool} (le : windows' ≤ windows)
    (only : active' = true → active = true) :
    windows' + (if active' then 1 else 0) ≤ windows + if active then 1 else 0 := by
  by_cases on : active' = true
  · rw [if_pos on, if_pos (only on)]
    omega
  · rw [if_neg on]
    omega

theorem Quieter.step (quieter : Quieter s s') (longer : persistence ≤ persistence')
    (shorter : cooldown' ≤ cooldown) (row : CalibrationRow) :
    Quieter (simStep persistence cooldown gap s row)
      (simStep persistence' cooldown' gap' s' row) := by
  obtain ⟨ts, anomaly⟩ := row
  obtain ⟨anomalies, normals, active, windows⟩ := quieter
  cases anomaly with
  | true =>
      have only : (s'.isActive || decide (persistence' ≤ (s'.anomalyStreak : Int) + 1)) = true →
          (s.isActive || decide (persistence ≤ (s.anomalyStreak : Int) + 1)) = true := by
        rw [anomalies, Bool.or_eq_true, Bool.or_eq_true, decide_eq_true_iff, decide_eq_true_iff]
        rintro (on | raised)
        · exact .inl (active on)
        · exact .inr (longer.trans raised)
      rw [simStep_anomaly, simStep_anomaly]
      exact ⟨congrArg Nat.succ anomalies, rfl, only, counted_le windows only⟩
  | false =>
      have only : (s'.isActive &&
          !(s'.isActive && decide (cooldown' ≤ (s'.normalStreak : Int) + 1))) = true →
            (s.isActive && !(s.isActive && decide (cooldown ≤ (s.normalStreak : Int) + 1))) =
              true := by
        simp only [normals, Bool.and_eq_true, Bool.not_eq_true', Bool.and_eq_false_imp,
          decide_eq_false_iff_not]
        rintro ⟨on, stays⟩
        exact ⟨active on, fun _ ended => stays on (shorter.trans ended)⟩
      rw [simStep_normal, simStep_normal]
      exact ⟨rfl, congrArg Nat.succ normals, only, counted_le windows only⟩

theorem Quieter.run (quieter : Quieter s s') (longer : persistence ≤ persistence')
    (shorter : cooldown' ≤ cooldown) (rows : List CalibrationRow) :
    Quieter (rows.foldl (simStep persistence cooldown gap) s)
      (rows.foldl (simStep persistence' cooldown' gap') s') := by
  induction rows generalizing s s' with
  | nil => exact quieter
  | cons row rows ih => exact ih (quieter.step longer shorter row)

/-- The second simulation merges more episodes and does the same otherwise. -/
structure MergesMore (s s' : SimState) : Prop where
  same : s' = { s with episodes := s'.episodes }
  episodes : s'.episodes ≤ s.episodes

theorem merges_mono (wider : gap ≤ gap') {lastResolution : Option Int} {ts : Int}
    (merged : merges gap lastResolution ts = true) : merges gap' lastResolution ts = true := by
  unfold merges withinSeconds Datetime.seconds Datetime.microsPerSecond at *
  cases lastResolution with
  | none => cases merged
  | some resolution =>
      simp only [Option.any_some, Bool.and_eq_true, decide_eq_true_eq] at *
      omega

theorem MergesMore.step (more : MergesMore s s') (wider : gap ≤ gap') (row : CalibrationRow) :
    MergesMore (simStep persistence cooldown gap s row)
      (simStep persistence cooldown gap' s' row) := by
  obtain ⟨ts, anomaly⟩ := row
  obtain ⟨same, episodes⟩ := more
  rw [same]
  cases anomaly with
  | true =>
      rw [simStep_anomaly, simStep_anomaly]
      refine ⟨rfl, ?_⟩
      refine counted_le episodes fun opened => ?_
      rw [Bool.and_eq_true, Bool.not_eq_true'] at *
      refine ⟨opened.1, Bool.eq_false_iff.mpr fun merged => ?_⟩
      rw [merges_mono wider merged] at opened
      cases opened.2
  | false =>
      rw [simStep_normal, simStep_normal]
      exact ⟨rfl, episodes⟩

theorem MergesMore.run (more : MergesMore s s') (wider : gap ≤ gap') (rows : List CalibrationRow) :
    MergesMore (rows.foldl (simStep persistence cooldown gap) s)
      (rows.foldl (simStep persistence cooldown gap') s') := by
  induction rows generalizing s s' with
  | nil => exact more
  | cons row rows ih => exact ih (more.step wider row)

/-- A longer persistence and a shorter cooldown do not add a window in alert. -/
theorem alertWindows_le (rows : List CalibrationRow) (longer : persistence ≤ persistence')
    (shorter : cooldown' ≤ cooldown) :
    (simulateAlertStream rows persistence' cooldown' gap').2 ≤
      (simulateAlertStream rows persistence cooldown gap).2 :=
  (Quieter.run ⟨rfl, rfl, id, le_rfl⟩ longer shorter rows).windows

/-- A wider merge gap does not add an episode. -/
theorem episodes_le (rows : List CalibrationRow) (wider : gap ≤ gap') :
    (simulateAlertStream rows persistence cooldown gap').1 ≤
      (simulateAlertStream rows persistence cooldown gap).1 :=
  (MergesMore.run ⟨rfl, le_rfl⟩ wider rows).episodes

end Simulation

/-! ### The metrics of a candidate -/

section Metrics

variable {F : Type} [MetricNumber F] {sortValues : List CalibrationWindow → List CalibrationWindow}
  {frame : List CalibrationWindow}

open MetricNumber

theorem durationDays_pos [RoundsInOrder F] (rows : List CalibrationWindow) :
    ofRat 0 < (durationDays rows : F) :=
  RoundsInOrder.shortest_pos.trans_le (le_max_right _ _)

theorem timeInAlert_le [RoundsInOrder F] {candidate candidate' : PolicyCandidate}
    (longer : candidate.persistence ≤ candidate'.persistence)
    (shorter : candidate'.cooldown ≤ candidate.cooldown) :
    (evaluateCandidate sortValues frame candidate' : PolicyMetrics F).timeInAlert ≤
      (evaluateCandidate sortValues frame candidate).timeInAlert := by
  unfold evaluateCandidate
  by_cases empty : frame.length = 0
  · rw [if_pos empty, if_pos empty]
  · rw [if_neg empty, if_neg empty]
    refine RoundsInOrder.ofRat_mono (div_le_div_of_nonneg_right ?_ (Nat.cast_nonneg _))
    exact Nat.cast_le.mpr (alertWindows_le _ longer shorter)

theorem falseEpisodesPerDay_le [RoundsInOrder F] {persistence cooldown gap gap' : Int}
    (wider : gap ≤ gap') :
    (evaluateCandidate sortValues frame ⟨persistence, cooldown, gap'⟩ :
        PolicyMetrics F).falseEpisodesPerDay ≤
      (evaluateCandidate sortValues frame ⟨persistence, cooldown, gap⟩).falseEpisodesPerDay := by
  unfold evaluateCandidate
  by_cases empty : frame.length = 0
  · rw [if_pos empty, if_pos empty]
  · rw [if_neg empty, if_neg empty]
    refine RoundsInOrder.div_mono (RoundsInOrder.ofRat_mono ?_) (durationDays_pos _)
    exact Nat.cast_le.mpr (episodes_le _ wider)

/-- A candidate that passes does so with a wider merge gap. -/
theorem passes_wider [RoundsInOrder F] {persistence cooldown gap gap' : Int} (wider : gap ≤ gap')
    (passes : (evaluateCandidate sortValues frame ⟨persistence, cooldown, gap⟩ :
      PolicyMetrics F).Passes) :
    (evaluateCandidate sortValues frame ⟨persistence, cooldown, gap'⟩ :
      PolicyMetrics F).Passes := by
  have time : (evaluateCandidate sortValues frame ⟨persistence, cooldown, gap'⟩ :
      PolicyMetrics F).timeInAlert ≤
        (evaluateCandidate sortValues frame ⟨persistence, cooldown, gap⟩).timeInAlert :=
    timeInAlert_le le_rfl le_rfl
  exact ⟨(falseEpisodesPerDay_le wider).trans passes.1, time.trans passes.2⟩

theorem mem_policyCandidates {candidate : PolicyCandidate} : candidate ∈ policyCandidates ↔
    candidate.persistence ∈ PERSISTENCE_CANDIDATES ∧ candidate.cooldown ∈ COOLDOWN_CANDIDATES ∧
      candidate.mergeGapSeconds ∈ MERGE_GAP_SECONDS_CANDIDATES := by
  unfold policyCandidates
  simp only [List.mem_flatMap, List.mem_map]
  constructor
  · rintro ⟨persistence, first, cooldown, second, gap, third, rfl⟩
    exact ⟨first, second, third⟩
  · rintro ⟨first, second, third⟩
    exact ⟨_, first, _, second, _, third, rfl⟩

/-- Some candidate passes exactly when one with the widest merge gap does. -/
theorem exists_passes_iff [RoundsInOrder F] :
    (∃ candidate ∈ policyCandidates,
      (evaluateCandidate sortValues frame candidate : PolicyMetrics F).Passes) ↔
    ∃ persistence ∈ PERSISTENCE_CANDIDATES, ∃ cooldown ∈ COOLDOWN_CANDIDATES,
      (evaluateCandidate sortValues frame ⟨persistence, cooldown, 900⟩ :
        PolicyMetrics F).Passes := by
  constructor
  · rintro ⟨⟨persistence, cooldown, gap⟩, mem, passes⟩
    obtain ⟨first, second, third⟩ := mem_policyCandidates.mp mem
    have widest : ∀ gap ∈ MERGE_GAP_SECONDS_CANDIDATES, gap ≤ 900 := by decide
    exact ⟨persistence, first, cooldown, second, passes_wider (widest gap third) passes⟩
  · rintro ⟨persistence, first, cooldown, second, passes⟩
    have widest : 900 ∈ MERGE_GAP_SECONDS_CANDIDATES := by decide
    exact ⟨_, mem_policyCandidates.mpr ⟨first, second, widest⟩, passes⟩

end Metrics

/-! ### The search -/

section Search

variable {F : Type} [MetricNumber F] {evaluate : PolicyCandidate → PolicyMetrics F}
  {best last : Option (PolicySelection F)} {candidates : List PolicyCandidate}
  {selection : PolicySelection F}

/-- The first candidate that passes, with its metrics. -/
structure FirstPassing (evaluate : PolicyCandidate → PolicyMetrics F)
    (candidates : List PolicyCandidate) (selection : PolicySelection F) : Prop where
  measured : selection.metrics = evaluate selection.candidate
  passes : selection.metrics.Passes
  first : ∃ before after, candidates = before ++ selection.candidate :: after ∧
    ∀ earlier ∈ before, ¬ (evaluate earlier).Passes

theorem searchPolicy_found_iff :
    searchPolicy evaluate best candidates = .inl selection ↔
      FirstPassing evaluate candidates selection := by
  induction candidates generalizing best with
  | nil =>
      refine iff_of_false (fun found => by cases found) fun firstPassing => ?_
      obtain ⟨before, after, split, -⟩ := firstPassing.first
      exact List.append_ne_nil_of_right_ne_nil before (List.cons_ne_nil _ _) split.symm
  | cons candidate later ih =>
      unfold searchPolicy
      by_cases passes : (evaluate candidate).Passes
      · rw [if_pos passes]
        constructor
        · intro found
          cases found
          exact ⟨rfl, passes, [], later, rfl, fun _ none => absurd none List.not_mem_nil⟩
        · rintro ⟨measured, -, before, after, split, fail⟩
          cases before with
          | nil =>
              cases split
              rw [← measured]
          | cons head before =>
              cases split
              exact absurd passes (fail candidate List.mem_cons_self)
      · rw [if_neg passes]
        refine (show _ ↔ FirstPassing evaluate later selection by split <;> exact ih).trans ?_
        constructor
        · rintro ⟨measured, own, before, after, rfl, fail⟩
          exact ⟨measured, own, candidate :: before, after, rfl,
            List.forall_mem_cons.mpr ⟨passes, fail⟩⟩
        · rintro ⟨measured, own, before, after, split, fail⟩
          cases before with
          | nil =>
              cases split
              rw [measured] at own
              exact absurd own passes
          | cons head before =>
              cases split
              exact ⟨measured, own, before, after, rfl, (List.forall_mem_cons.mp fail).2⟩

/-- What the loop knows when it ends: nothing passes, and nothing costs less than the
best. -/
structure SearchEnded (evaluate : PolicyCandidate → PolicyMetrics F)
    (candidates : List PolicyCandidate) (best last : Option (PolicySelection F)) : Prop where
  fail : ∀ candidate ∈ candidates, ¬ (evaluate candidate).Passes
  origin : ∀ selection ∈ last, selection ∈ best ∨
    selection.candidate ∈ candidates ∧ selection.metrics = evaluate selection.candidate
  best : ∀ before ∈ best, ∃ selection ∈ last, selection.metrics.cost ≤ before.metrics.cost
  least : ∀ candidate ∈ candidates, ∃ selection ∈ last,
    selection.metrics.cost ≤ (evaluate candidate).cost

theorem searchPolicy_ended (ended : searchPolicy evaluate best candidates = .inr last) :
    SearchEnded evaluate candidates best last := by
  induction candidates generalizing best with
  | nil =>
      cases ended
      exact ⟨fun _ none => absurd none List.not_mem_nil, fun _ mem => .inl mem,
        fun before mem => ⟨before, mem, le_rfl⟩, fun _ none => absurd none List.not_mem_nil⟩
  | cons candidate later ih =>
      unfold searchPolicy at ended
      by_cases passes : (evaluate candidate).Passes
      · rw [if_pos passes] at ended
        cases ended
      · rw [if_neg passes] at ended
        by_cases cheaper : (best.all fun best =>
            decide ((evaluate candidate).cost < best.metrics.cost)) = true
        · rw [if_pos cheaper] at ended
          obtain ⟨fail, origin, kept, least⟩ := ih ended
          obtain ⟨selection, found, le⟩ := kept _ rfl
          refine ⟨List.forall_mem_cons.mpr ⟨passes, fail⟩, fun other mem => ?_,
            fun before mem => ?_, List.forall_mem_cons.mpr ⟨⟨selection, found, le⟩, least⟩⟩
          · rcases origin other mem with same | ⟨there, measured⟩
            · cases same
              exact .inr ⟨List.mem_cons_self, rfl⟩
            · exact .inr ⟨List.mem_cons_of_mem _ there, measured⟩
          · cases mem
            exact ⟨selection, found, le.trans (of_decide_eq_true cheaper).le⟩
        · rw [if_neg cheaper] at ended
          obtain ⟨fail, origin, kept, least⟩ := ih ended
          refine ⟨List.forall_mem_cons.mpr ⟨passes, fail⟩, fun other mem => ?_, kept,
            List.forall_mem_cons.mpr ⟨?_, least⟩⟩
          · rcases origin other mem with same | ⟨there, measured⟩
            · exact .inl same
            · exact .inr ⟨List.mem_cons_of_mem _ there, measured⟩
          · cases best with
            | none => exact absurd rfl cheaper
            | some before =>
                have costs := not_lt.mp fun less => cheaper (decide_eq_true less)
                obtain ⟨selection, found, le⟩ := kept before rfl
                exact ⟨selection, found, le.trans costs⟩

theorem exists_firstPassing_iff : (∃ selection, FirstPassing evaluate candidates selection) ↔
    ∃ candidate ∈ candidates, (evaluate candidate).Passes := by
  constructor
  · rintro ⟨selection, measured, passes, before, after, split, -⟩
    rw [measured] at passes
    refine ⟨selection.candidate, ?_, passes⟩
    rw [split]
    exact List.mem_append_right _ List.mem_cons_self
  · rintro ⟨candidate, mem, passes⟩
    cases searched : searchPolicy evaluate none candidates with
    | inl selection => exact ⟨selection, searchPolicy_found_iff.mp searched⟩
    | inr last => exact absurd passes ((searchPolicy_ended searched).fail candidate mem)

/-- No candidate passes, and none costs less. -/
structure Cheapest (evaluate : PolicyCandidate → PolicyMetrics F)
    (candidates : List PolicyCandidate) (selection : PolicySelection F) : Prop where
  mem : selection.candidate ∈ candidates
  measured : selection.metrics = evaluate selection.candidate
  fail : ∀ candidate ∈ candidates, ¬ (evaluate candidate).Passes
  least : ∀ candidate ∈ candidates, selection.metrics.cost ≤ (evaluate candidate).cost

/-- A search that ends has a best candidate, if it has tried any. -/
theorem exists_cheapest (ended : searchPolicy evaluate none candidates = .inr last)
    (nonempty : candidates ≠ []) :
    ∃ selection, last = some selection ∧ Cheapest evaluate candidates selection := by
  obtain ⟨fail, origin, -, least⟩ := searchPolicy_ended ended
  obtain ⟨candidate, mem⟩ := List.exists_mem_of_ne_nil candidates nonempty
  obtain ⟨selection, found, -⟩ := least candidate mem
  obtain ⟨there, measured⟩ := (origin selection found).resolve_left (Option.not_mem_none _)
  refine ⟨selection, found, there, measured, fail, fun other its => ?_⟩
  obtain ⟨_, again, le⟩ := least other its
  cases found.symm.trans again
  exact le

end Search

/-! ### The selection -/

def CalibrationOnly (frame : List CalibrationWindow) : Prop :=
  frame ≠ [] ∧ ∀ window ∈ frame, window.split = "calibration"

theorem uniqueSplits_iff {frame : List CalibrationWindow} :
    (frame.map (·.split)).dedup = ["calibration"] ↔ CalibrationOnly frame := by
  constructor
  · intro only
    have splits : ∀ split, split ∈ frame.map (·.split) ↔ split = "calibration" := by
      intro split
      rw [← List.mem_dedup, only, List.mem_singleton]
    refine ⟨fun empty => ?_, fun window mem => (splits _).mp (List.mem_map_of_mem mem)⟩
    have mem := (splits "calibration").mpr rfl
    rw [empty] at mem
    cases mem
  · rintro ⟨nonempty, all⟩
    have same : frame.map (·.split) = List.replicate frame.length "calibration" :=
      List.eq_replicate_iff.mpr ⟨List.length_map _, List.forall_mem_map.mpr all⟩
    rw [same]
    exact List.replicate_dedup (mt List.length_eq_zero_iff.mp nonempty)

section Selection

variable {F : Type} [MetricNumber F] {sortValues : List CalibrationWindow → List CalibrationWindow}
  {frame : List CalibrationWindow}

theorem selectPolicy_eq_ok_iff {selection : PolicySelection F} :
    selectPolicy sortValues frame false = .ok selection ↔ CalibrationOnly frame ∧
      FirstPassing (evaluateCandidate sortValues frame) policyCandidates selection := by
  rw [← uniqueSplits_iff, ← searchPolicy_found_iff]
  unfold selectPolicy
  by_cases only : (frame.map (·.split)).dedup = ["calibration"]
  · rw [if_neg fun refused => refused.1 only]
    cases searchPolicy (F := F) (evaluateCandidate sortValues frame) none policyCandidates with
    | inl found => simp [only]
    | inr last => cases last <;> simp
  · rw [if_pos ⟨only, rfl⟩]
    simp [only]

/-- With the fallback something is always selected. -/
theorem selectPolicy_fallback (sortValues : List CalibrationWindow → List CalibrationWindow)
    (frame : List CalibrationWindow) :
    ∃ selection : PolicySelection F, selectPolicy sortValues frame true = .ok selection ∧
      (FirstPassing (evaluateCandidate sortValues frame) policyCandidates selection ∨
        Cheapest (evaluateCandidate sortValues frame) policyCandidates selection) := by
  unfold selectPolicy
  rw [if_neg fun refused => Bool.noConfusion refused.2]
  let evaluate : PolicyCandidate → PolicyMetrics F := evaluateCandidate sortValues frame
  cases searched : searchPolicy evaluate none policyCandidates with
  | inl selection => exact ⟨selection, rfl, .inl (searchPolicy_found_iff.mp searched)⟩
  | inr last =>
      obtain ⟨selection, rfl, cheapest⟩ := exists_cheapest searched (by decide)
      exact ⟨selection, rfl, .inr cheapest⟩

/-- A policy is locked on calibration windows only. It is the first candidate that passes
both gates, and there is one exactly when some persistence and cooldown pass with the
widest merge gap; then every policy that is slower to raise and quicker to resolve keeps
to the time in alert too. With the fallback there is always a policy, the cheapest one
where none passes. -/
theorem policy_selected [RoundsInOrder F]
    (sortValues : List CalibrationWindow → List CalibrationWindow)
    (frame : List CalibrationWindow) :
    (∀ selection : PolicySelection F, selectPolicy sortValues frame false = .ok selection ↔
      CalibrationOnly frame ∧
        FirstPassing (evaluateCandidate sortValues frame) policyCandidates selection) ∧
    ((∃ selection : PolicySelection F, selectPolicy sortValues frame false = .ok selection) ↔
      CalibrationOnly frame ∧ ∃ persistence ∈ PERSISTENCE_CANDIDATES,
        ∃ cooldown ∈ COOLDOWN_CANDIDATES,
          (evaluateCandidate sortValues frame ⟨persistence, cooldown, 900⟩ :
            PolicyMetrics F).Passes) ∧
    (∀ selection : PolicySelection F, selectPolicy sortValues frame false = .ok selection →
      ∀ candidate : PolicyCandidate, selection.candidate.persistence ≤ candidate.persistence →
        candidate.cooldown ≤ selection.candidate.cooldown →
          (evaluateCandidate sortValues frame candidate : PolicyMetrics F).timeInAlert ≤
            MetricNumber.ofRat 0.05) ∧
    ∃ selection : PolicySelection F, selectPolicy sortValues frame true = .ok selection ∧
      (FirstPassing (evaluateCandidate sortValues frame) policyCandidates selection ∨
        Cheapest (evaluateCandidate sortValues frame) policyCandidates selection) := by
  refine ⟨fun selection => selectPolicy_eq_ok_iff, ?_,
    fun selection selected candidate longer shorter => ?_, selectPolicy_fallback sortValues frame⟩
  · rw [← exists_passes_iff, ← exists_firstPassing_iff]
    simp only [selectPolicy_eq_ok_iff, exists_and_left]
  · obtain ⟨-, measured, passes, -⟩ := selectPolicy_eq_ok_iff.mp selected
    rw [measured] at passes
    exact (timeInAlert_le longer shorter).trans passes.2

end Selection

/-! #### Hourly windows -/

abbrev rationalMetrics : MetricNumber ℚ :=
  { (inferInstance : LinearOrder ℚ) with
    ofRat := id
    add := (· + ·)
    mul := (· * ·)
    div := (· / ·) }

theorem rationalMetrics_roundsInOrder : @RoundsInOrder ℚ rationalMetrics :=
  let _ := rationalMetrics
  { ofRat_mono := fun le => le
    div_mono := fun le pos => div_le_div_of_nonneg_right le (le_of_lt pos)
    shortest_pos := by decide +kernel }

/-- Sixty windows with four anomalies alone and two in a row. -/
def hourlyFrame : List CalibrationWindow :=
  (List.range 60).map fun hour =>
    { windowStart := Datetime.seconds (3600 * hour)
      windowEnd := Datetime.seconds (3600 * (hour + 1))
      isAnomaly := [10, 20, 30, 40, 50, 51].contains hour
      split := "calibration" }

theorem hourlyFrame_passes :
    letI := rationalMetrics
    (evaluateCandidate id hourlyFrame ⟨2, 1, 0⟩ : PolicyMetrics ℚ).Passes := by
  decide +kernel

theorem hourlyFrame_fails :
    letI := rationalMetrics
    ∀ earlier ∈ policyCandidates.take 12,
      ¬ (evaluateCandidate id hourlyFrame earlier : PolicyMetrics ℚ).Passes := by
  decide +kernel

/-- Single anomalies are too many alerts a day, two in a row are not. -/
theorem hourlyFrame_selected :
    letI := rationalMetrics
    ∃ selection : PolicySelection ℚ, selectPolicy id hourlyFrame false = .ok selection ∧
      selection.candidate = ⟨2, 1, 0⟩ := by
  let _ := rationalMetrics
  have rounds := rationalMetrics_roundsInOrder
  refine ⟨⟨⟨2, 1, 0⟩, evaluateCandidate id hourlyFrame ⟨2, 1, 0⟩⟩,
    ((policy_selected id hourlyFrame).1 _).mpr ⟨⟨by decide, by decide⟩, rfl, hourlyFrame_passes,
      policyCandidates.take 12, policyCandidates.drop 13, rfl, hourlyFrame_fails⟩, rfl⟩

/-! ### The machine with the selected policy -/

section Live

variable {F M : Type} [PyFloat F] [Uuid5] [MetricNumber M] {policy : LockedAlertPolicyV1 F}
  {sortValues : List CalibrationWindow → List CalibrationWindow} {frame : List CalibrationWindow}
  {selection : PolicySelection M} {stream : List (TransitionStamp × Checked (ScoreDecisionV1 F))}
  {results : List (TransitionResult F)}

/-- What `lock_alert_policy` writes of a selection. -/
structure Locks (policy : LockedAlertPolicyV1 F) (candidate : PolicyCandidate) : Prop where
  persistence : policy.persistenceDecisions = candidate.persistence
  cooldown : policy.cooldownDecisions = candidate.cooldown
  mergeGapSeconds : policy.mergeGapSeconds = candidate.mergeGapSeconds

/-- The metrics of the alerts that the machine has raised over the windows. -/
def alertMetrics (rows : List CalibrationWindow) (results : List (TransitionResult F)) :
    PolicyMetrics M :=
  let opened := results.countP fun result => decide (result.action? = some .opened)
  let active := results.countP fun result => result.state.activeAlertId.isSome
  { falseEpisodesPerDay := MetricNumber.div (MetricNumber.ofRat opened) (durationDays rows)
    timeInAlert := MetricNumber.ofRat ((active : ℚ) / (max rows.length 1 : Nat)) }

/-- Where the machine runs through the calibration windows under the locked policy, its
alerts have the metrics that were measured for the selection, so they keep to the gates. -/
theorem locked_policy_meets_gates {session : UUID} {machineId : String}
    (selected : selectPolicy sortValues frame false = .ok selection)
    (locks : Locks policy selection.candidate) (named : machineId ≠ "") (inOrder : InOrder stream)
    (replayed : calibrationRows stream = (sortValues frame).map (·.toCalibrationRow))
    (folded : foldTransition policy (.empty session machineId) stream = .ok results) :
    alertMetrics (sortValues frame) results = selection.metrics ∧ selection.metrics.Passes := by
  obtain ⟨⟨nonempty, -⟩, measured, passes, -⟩ := selectPolicy_eq_ok_iff.mp selected
  have follows := follows_empty session machineId
  have wellFormed : (AlertState.empty session machineId).WellFormed :=
    AlertState.wellFormed_empty (one_le_length_of_ne named)
  have precedes : ∀ delivered ∈ stream,
      (AlertState.empty session machineId).Precedes delivered.2.val :=
    fun _ _ => ⟨fun same => (by cases same), fun _ mem => absurd mem (Option.not_mem_none _)⟩
  have converts := foldTransition_converts follows wellFormed precedes inOrder folded
  obtain ⟨results', again, agrees⟩ := foldTransition_ok follows wellFormed precedes inOrder converts
  cases folded.symm.trans again
  have simulated : simulateAlertStream ((sortValues frame).map (·.toCalibrationRow))
      selection.candidate.persistence selection.candidate.cooldown
      selection.candidate.mergeGapSeconds =
        (results.countP fun result => decide (result.action? = some .opened),
          results.countP fun result => result.state.activeAlertId.isSome) := by
    rw [← replayed, ← locks.persistence, ← locks.cooldown, ← locks.mergeGapSeconds]
    exact Prod.ext (agrees.opened.trans (Nat.zero_add _)) (agrees.active.trans (Nat.zero_add _))
  refine ⟨?_, passes⟩
  rw [measured]
  unfold evaluateCandidate
  rw [if_neg (mt List.length_eq_zero_iff.mp nonempty)]
  dsimp only
  rw [simulated]
  rfl

end Live

/-! #### A day of windows -/

/-- One anomaly, and normal windows for a day. -/
def dayStream : List (TransitionStamp × Checked (ScoreDecisionV1 Int)) :=
  (stampAt 0, checkedWindow 5 true [⟨"tp2__mean", 8, 3⟩]) ::
    (List.range 26).map fun hour => (stampAt (hour + 1), checkedWindow (10 + 60 * hour) false [])

def dayFrame : List CalibrationWindow :=
  dayStream.map fun delivered =>
    { delivered.2.val.calibrationRow with
      split := "calibration"
      windowStart := delivered.2.val.sourceTimestamp - Datetime.minutes 30 }

def dayPolicy : LockedAlertPolicyV1 Int := { promptPolicy with mergeGapSeconds := 0 }

theorem dayStream_runs :
    letI := episodeNames
    (foldTransition dayPolicy (.empty 1 "metropt3") dayStream).toOption.any (fun results =>
      decide (results.countP (fun result => decide (result.action? = some .opened)) = 1)) =
        true := by
  decide +kernel

theorem dayFrame_selected :
    letI := rationalMetrics
    (selectPolicy id dayFrame false : Except SelectionError (PolicySelection ℚ)).toOption.any
      (fun selection => decide (selection.candidate = ⟨1, 1, 0⟩)) = true := by
  decide +kernel

/-- The machine raises one alert, as the policy allows. -/
theorem dayStream_meets_gates :
    letI := episodeNames
    letI := rationalMetrics
    ∃ (selection : PolicySelection ℚ) (results : List (TransitionResult Int)),
      foldTransition dayPolicy (.empty 1 "metropt3") dayStream = .ok results ∧
      results.countP (fun result => decide (result.action? = some .opened)) = 1 ∧
      alertMetrics dayFrame results = selection.metrics ∧ selection.metrics.Passes := by
  let _ := episodeNames
  let _ := rationalMetrics
  obtain ⟨results, ran, opened⟩ := (Option.any_eq_true _ _).mp dayStream_runs
  obtain ⟨selection, made, first⟩ := (Option.any_eq_true _ _).mp dayFrame_selected
  have folded := Lib.toOption_eq_some_iff.mp ran
  have selected := Lib.toOption_eq_some_iff.mp made
  have candidate : selection.candidate = ⟨1, 1, 0⟩ := of_decide_eq_true first
  have locks : Locks dayPolicy selection.candidate := by
    rw [candidate]
    exact ⟨rfl, rfl, rfl⟩
  exact ⟨selection, results, folded, of_decide_eq_true opened,
    locked_policy_meets_gates selected locks (by decide) (by decide +kernel) rfl folded⟩

end IndustrialReliability
