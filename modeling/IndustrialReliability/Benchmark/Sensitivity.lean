import IndustrialReliability.Benchmark.Evaluation
import IndustrialReliability.Lib.Spans

/-!
Detection at a lower threshold.

A lower threshold leaves all anomalous decisions anomalous, and so each episode lies
in one of the new ones. The episode that it lies in may begin before the horizon of an
event and end before its source interval, and then the event is matched by neither;
the main theorem says that a detection is lost in no other way.
-/

namespace IndustrialReliability.Evaluation

open Lib

variable {F : Type}

@[simp] theorem refuse_eq_ok_iff {wrong : Bool} {message : String} {done : Unit} :
    refuse wrong message = .ok done ↔ wrong = false := by
  cases wrong <;> simp [refuse]

theorem stalls_eq_false_iff {times : List Int} : stalls times = false ↔ times.Pairwise (· < ·) := by
  rw [← List.isChain_iff_pairwise]
  induction times with
  | nil => simp [stalls]
  | cons first rest ih =>
      cases rest with
      | nil => simp [stalls]
      | cons second rest =>
          rw [List.isChain_cons_cons, ← ih]
          simp [stalls]

/-! ### Episodes -/

def Episode.ofSpan (span : Span Int) : Episode := ⟨span.first, span.last, span.count⟩

theorem episodesFrom_eq (contract : EvaluationPolicy F) (span : Span Int) (ends : List Int) :
    episodesFrom contract (.ofSpan span) ends =
      (spansFrom (seconds contract.strideSeconds) span ends).map Episode.ofSpan := by
  induction ends generalizing span with
  | nil => rfl
  | cons current rest ih =>
      unfold episodesFrom spansFrom
      by_cases near : current - span.last ≤ seconds contract.strideSeconds
      · rw [if_pos near, if_pos (show current - (Episode.ofSpan span).lastDetectionTime ≤ _ from near), ← ih]
        rfl
      · rw [if_neg near, if_neg (show ¬ current - (Episode.ofSpan span).lastDetectionTime ≤ _ from near),
          List.map_cons, ← ih]
        rfl

theorem mergedEpisodes_eq (contract : EvaluationPolicy F) (ends : List Int) :
    mergedEpisodes contract ends = (spans (seconds contract.strideSeconds) ends).map Episode.ofSpan := by
  cases ends with
  | nil => rfl
  | cons first rest => exact episodesFrom_eq contract ⟨first, first, 1⟩ rest

variable [PyFloat F] {contract : EvaluationPolicy F} {scores : List (ScoredWindow F)}
  {threshold threshold' : F} {episodes episodes' : List Episode} {events : List Event} {event : Event}
  {ends : List Int}

/-- The frame and the policy are accepted. -/
structure Accepts (contract : EvaluationPolicy F) (scores : List (ScoredWindow F)) : Prop where
  contract : validateContract contract = .ok ()
  scores : validatedScores scores = .ok ()

theorem Accepts.stride (accepts : Accepts contract scores) : 0 < contract.strideSeconds := by
  have checked := accepts.contract
  simp only [validateContract, bind_eq_ok_iff, refuse_eq_ok_iff, decide_eq_false_iff_not] at checked
  obtain ⟨-, positive, -⟩ := checked
  omega

theorem Accepts.ascending (accepts : Accepts contract scores) :
    (scores.map (·.windowEnd)).Pairwise (· < ·) := by
  have checked := accepts.scores
  simp only [validatedScores, bind_eq_ok_iff, refuse_eq_ok_iff, stalls_eq_false_iff] at checked
  obtain ⟨-, -, -, -, -, ascending, -⟩ := checked
  exact ascending

theorem anomalousEnds_sublist (contract : EvaluationPolicy F) (threshold : F) (scores : List (ScoredWindow F)) :
    (anomalousEnds contract threshold scores).Sublist (scores.map (·.windowEnd)) :=
  List.filter_sublist.map _

/-- The episodes are the spans of the anomalous decisions. -/
theorem buildEpisodes_eq_ok_iff : buildEpisodes scores threshold contract = .ok episodes ↔
    Accepts contract scores ∧ PyFloat.isFinite threshold = true ∧ episodes =
      (spans (seconds contract.strideSeconds) (anomalousEnds contract threshold scores)).map Episode.ofSpan := by
  unfold buildEpisodes
  rw [mergedEpisodes_eq]
  simp only [bind_eq_ok_iff, pure_eq_ok_iff, validateThreshold, refuse_eq_ok_iff, Bool.not_eq_false']
  constructor
  · rintro ⟨_, policy, _, finite, _, frame, rfl⟩
    exact ⟨⟨policy, frame⟩, finite, rfl⟩
  · rintro ⟨⟨policy, frame⟩, finite, rfl⟩
    exact ⟨(), policy, (), finite, (), frame, rfl⟩

theorem validatedEpisodes_ofSpan {stride : Int} (positive : 0 < stride) {found : List (Span Int)}
    (apart : found.Pairwise fun one other => stride < other.first - one.last)
    (forward : ∀ span ∈ found, span.first ≤ span.last ∧ 0 < span.count) {previous : Option Int}
    (behind : ∀ last ∈ previous, ∀ span ∈ found, last < span.first) :
    validatedEpisodes previous (found.map Episode.ofSpan) = .ok () := by
  induction found generalizing previous with
  | nil => rfl
  | cons span found ih =>
      obtain ⟨later, apart⟩ := List.pairwise_cons.mp apart
      obtain ⟨⟨ordered, some⟩, forward⟩ := List.forall_mem_cons.mp forward
      have after (last : Int) (held : last ∈ previous) : last < span.first :=
        behind last held span List.mem_cons_self
      refine bind_eq_ok_iff.mpr ⟨(), ?_, bind_eq_ok_iff.mpr ⟨(), ?_, ih apart forward ?_⟩⟩
      · rw [refuse_eq_ok_iff, decide_eq_false_iff_not]
        show ¬ (span.count = 0 ∨ span.last < span.first)
        omega
      · cases previous with
        | none => simp
        | some last =>
            rw [refuse_eq_ok_iff, Option.any_some, decide_eq_false_iff_not]
            exact not_le.mpr (after last rfl)
      · rintro - ⟨⟩ next mem
        have gap := later next mem
        show span.last < next.first
        omega

/-- What `buildEpisodes` returns passes the checks of `evaluate`. -/
theorem buildEpisodes_valid (built : buildEpisodes scores threshold contract = .ok episodes) :
    validatedEpisodes none episodes = .ok () := by
  obtain ⟨accepts, -, rfl⟩ := buildEpisodes_eq_ok_iff.mp built
  have ascending := (accepts.ascending.sublist (anomalousEnds_sublist contract threshold scores)).imp le_of_lt
  refine validatedEpisodes_ofSpan ?_ (spans_apart ascending) (fun span mem => ?_) nofun
  · have stride := accepts.stride
    unfold seconds
    omega
  · obtain ⟨-, linked, some⟩ := mem_spans ascending mem
    exact ⟨linked.le, some⟩

/-- An episode lies in another one. -/
def Episode.Within (episode larger : Episode) : Prop :=
  larger.detectionTime ≤ episode.detectionTime ∧ episode.lastDetectionTime ≤ larger.lastDetectionTime

/-- Each episode lies in one at a lower threshold. -/
theorem buildEpisodes_absorbed (trans : ∀ a b c : F, PyFloat.le a b → PyFloat.le b c → PyFloat.le a c)
    (lower : PyFloat.le threshold' threshold) (built : buildEpisodes scores threshold contract = .ok episodes)
    (built' : buildEpisodes scores threshold' contract = .ok episodes') :
    ∀ episode ∈ episodes, ∃ larger ∈ episodes', episode.Within larger := by
  obtain ⟨accepts, -, rfl⟩ := buildEpisodes_eq_ok_iff.mp built
  obtain ⟨-, -, rfl⟩ := buildEpisodes_eq_ok_iff.mp built'
  have stays (score : F) (high : anomalous contract threshold score = true) :
      anomalous contract threshold' score = true := by
    unfold anomalous at *
    cases inclusive : contract.anomalyInclusive with
    | true =>
        simp only [inclusive, if_true] at *
        exact trans _ _ _ lower high
    | false =>
        simp only [inclusive, Bool.false_eq_true, if_false, Bool.not_eq_true'] at *
        exact Bool.eq_false_iff.mpr fun low => Bool.eq_false_iff.mp high (trans _ _ _ low lower)
  have part : (anomalousEnds contract threshold scores).Sublist (anomalousEnds contract threshold' scores) :=
    (List.monotone_filter_right scores fun row => stays row.score).map _
  have ascending := (accepts.ascending.sublist (anomalousEnds_sublist contract threshold' scores)).imp le_of_lt
  intro episode mem
  obtain ⟨span, span_mem, rfl⟩ := List.mem_map.mp mem
  obtain ⟨larger, larger_mem, first, last⟩ := spans_absorbed ascending part span_mem
  exact ⟨.ofSpan larger, List.mem_map_of_mem larger_mem, first, last⟩

/-! ### Events -/

theorem eventResult_eq_ok_iff {result : EventResult F} : eventResult contract ends episodes event = .ok result ↔
    ends.countP (inHorizon contract event) ≠ 0 ∧ result = reported contract ends episodes event := by
  simp only [eventResult, bind_eq_ok_iff, pure_eq_ok_iff, refuse_eq_ok_iff, decide_eq_false_iff_not]
  constructor
  · rintro ⟨-, evaluable, rfl⟩
    exact ⟨evaluable, rfl⟩
  · rintro ⟨evaluable, rfl⟩
    exact ⟨(), evaluable, rfl⟩

theorem reported_detected_iff : (reported contract ends episodes event).detected = true ↔
    ∃ episode ∈ episodes, episodeMatchesEvent episode event contract = true := by
  simp [reported, List.isSome_min?_iff]

variable {averagePrecisionScore : List Bool → List F → F} {result : EvaluationResult F}

theorem evaluate_eventResults
    (ran : evaluate averagePrecisionScore scores episodes threshold events contract = .ok result) :
    result.eventResults = events.map (reported contract (scores.map (·.windowEnd)) episodes) := by
  simp only [evaluate, bind_eq_ok_iff, pure_eq_ok_iff] at ran
  obtain ⟨-, -, -, -, -, -, -, -, -, -, results, reports, -, -, rfl⟩ := ran
  exact ((mapM_eq_ok_iff fun _ _ => eventResult_eq_ok_iff).mp reports).2

/-- What `evaluate` refuses depends on the threshold and the episodes only as far as
each is well formed. -/
theorem evaluate_returns (ran : evaluate averagePrecisionScore scores episodes threshold events contract = .ok result)
    (finite : PyFloat.isFinite threshold' = true) (valid : validatedEpisodes none episodes' = .ok ()) :
    ∃ result', evaluate averagePrecisionScore scores episodes' threshold' events contract = .ok result' := by
  simp only [evaluate, bind_eq_ok_iff, pure_eq_ok_iff, refuse_eq_ok_iff] at ran ⊢
  obtain ⟨_, policy, _, -, _, frame, _, labels, _, -, results, reports, _, exposure, -⟩ := ran
  have evaluable := ((mapM_eq_ok_iff fun _ _ => eventResult_eq_ok_iff).mp reports).1
  exact ⟨_, (), policy, (), by simpa [validateThreshold] using finite, (), frame, (), labels, (), valid, _,
    (mapM_eq_ok_iff fun _ _ => eventResult_eq_ok_iff).mpr ⟨evaluable, rfl⟩, (), exposure, rfl⟩

/-- The event at a place of the list is reported as detected. -/
def EvaluationResult.Detects (result : EvaluationResult F) (place : Nat) : Prop :=
  ∃ reported, result.eventResults[place]? = some reported ∧ reported.detected = true

theorem detects_iff (ran : evaluate averagePrecisionScore scores episodes threshold events contract = .ok result)
    {place : Nat} (labelled : events[place]? = some event) :
    result.Detects place ↔ ∃ episode ∈ episodes, episodeMatchesEvent episode event contract = true := by
  simp [EvaluationResult.Detects, evaluate_eventResults ran, labelled, reported_detected_iff]

/-- An episode begins before the horizon of an event and ends by its source interval. -/
def Episode.Precedes (episode : Episode) (contract : EvaluationPolicy F) (event : Event) : Prop :=
  episode.detectionTime < horizonStart contract event ∧ episodeEnd contract episode ≤ event.sourceStart

omit [PyFloat F] in
theorem Episode.Within.matches_or_precedes {episode larger : Episode} (within : episode.Within larger)
    (matched : episodeMatchesEvent episode event contract = true) :
    episodeMatchesEvent larger event contract = true ∨ larger.Precedes contract event := by
  obtain ⟨first, last⟩ := within
  simp only [episodeMatchesEvent, inHorizon, Bool.or_eq_true, decide_eq_true_eq] at *
  unfold Episode.Precedes episodeEnd at *
  omega

/-- An event that is detected is detected at a lower threshold too, unless each of its
episodes has become part of one that begins before its horizon and ends by its source
interval. -/
theorem detected_or_absorbed (threshold' : F)
    (trans : ∀ a b c : F, PyFloat.le a b → PyFloat.le b c → PyFloat.le a c)
    (lower : PyFloat.le threshold' threshold) (finite : PyFloat.isFinite threshold' = true)
    (built : buildEpisodes scores threshold contract = .ok episodes)
    (ran : evaluate averagePrecisionScore scores episodes threshold events contract = .ok result) :
    ∃ episodes' result', buildEpisodes scores threshold' contract = .ok episodes' ∧
      evaluate averagePrecisionScore scores episodes' threshold' events contract = .ok result' ∧
      ∀ place event, events[place]? = some event → result.Detects place → result'.Detects place ∨
        ∀ episode ∈ episodes, episodeMatchesEvent episode event contract = true →
          ∃ larger ∈ episodes', episode.Within larger ∧ larger.Precedes contract event := by
  have built' := buildEpisodes_eq_ok_iff.mpr ⟨(buildEpisodes_eq_ok_iff.mp built).1, finite, rfl⟩
  obtain ⟨result', ran'⟩ := evaluate_returns ran finite (buildEpisodes_valid built')
  refine ⟨_, result', built', ran', fun place event labelled _ => ?_⟩
  rw [detects_iff ran' labelled, or_iff_not_imp_left]
  intro missed episode mem matched
  obtain ⟨larger, larger_mem, within⟩ := buildEpisodes_absorbed trans lower built built' episode mem
  refine ⟨larger, larger_mem, within, (within.matches_or_precedes matched).resolve_left fun found => ?_⟩
  exact missed ⟨larger, larger_mem, found⟩

/-! ### A detection that is lost -/

/-- Decisions around the horizon of an event, and before and after it. -/
def minutes : List (ScoredWindow Int) := [
  ⟨seconds 240, seconds 300, 0⟩, ⟨seconds 360, seconds 420, 1⟩, ⟨seconds 420, seconds 480, 2⟩,
  ⟨seconds 540, seconds 600, 0⟩, ⟨seconds 840, seconds 900, 0⟩]

def minutePolicy : EvaluationPolicy Int := ⟨60, 120, true, 1, 1, 1⟩

def failure : Event := ⟨"failure", seconds 600, seconds 720, none⟩

theorem minutes_absorbed : ∃ episodes' result', buildEpisodes minutes 1 minutePolicy = .ok episodes' ∧
    evaluate (fun _ _ => 0) minutes episodes' 1 [failure] minutePolicy = .ok result' ∧
      (result'.Detects 0 ∨ ∃ larger ∈ episodes', larger.Precedes minutePolicy failure) := by
  have built : buildEpisodes minutes 2 minutePolicy = .ok [⟨seconds 480, seconds 480, 1⟩] := by decide
  obtain ⟨result, ran⟩ : ∃ result,
      evaluate (fun _ _ => 0) minutes [⟨seconds 480, seconds 480, 1⟩] 2 [failure] minutePolicy = .ok result :=
    ⟨_, rfl⟩
  obtain ⟨episodes', result', built', ran', kept⟩ := detected_or_absorbed 1 (fun a b c => by
    simpa [PyFloat.le] using Int.le_trans) (by decide) rfl built ran
  refine ⟨episodes', result', built', ran', (kept 0 failure rfl ?_).imp_right fun absorbed => ?_⟩
  · exact (detects_iff ran rfl).mpr ⟨_, List.mem_cons_self, by decide⟩
  · obtain ⟨larger, mem, -, precedes⟩ := absorbed _ List.mem_cons_self (by decide)
    exact ⟨larger, mem, precedes⟩

/-- At the lower threshold the episode begins a minute before the horizon, and the event
is missed. -/
theorem lower_misses : ∃ (scores : List (ScoredWindow Int)) (contract : EvaluationPolicy Int) (events : List Event)
    (episodes episodes' : List Episode) (result result' : EvaluationResult Int),
    buildEpisodes scores 2 contract = .ok episodes ∧ buildEpisodes scores 1 contract = .ok episodes' ∧
      evaluate (fun _ _ => 0) scores episodes 2 events contract = .ok result ∧
      evaluate (fun _ _ => 0) scores episodes' 1 events contract = .ok result' ∧
      result.Detects 0 ∧ ¬ result'.Detects 0 := by
  refine ⟨minutes, minutePolicy, [failure], [⟨seconds 480, seconds 480, 1⟩], [⟨seconds 420, seconds 480, 2⟩],
    _, _, by decide, by decide, rfl, rfl, ⟨_, rfl, by decide⟩, ?_⟩
  rintro ⟨missed, ⟨⟩, impossible⟩
  revert impossible
  decide

end IndustrialReliability.Evaluation
