import IndustrialReliability.Lib.Results
import IndustrialReliability.Runtime.Ids

/-!
Event evaluation of a holdout.

`buildEpisodes` merges the anomalous decisions of a score frame into episodes, and
`evaluate` matches them with the labelled events. Times are naive datetimes in
microseconds and scores are numbers, so that neither is checked again; a refusal is
the text of a `ValueError`.
-/

namespace IndustrialReliability.Evaluation

variable {F : Type}

structure EvaluationPolicy (F : Type) where
  strideSeconds : Int
  eventHorizonSeconds : Int
  anomalyInclusive : Bool
  minDetectedEvents : Int
  maxFalseEpisodesPerDay : F
  maxTimeInAlert : F

structure Event where
  eventId : String
  sourceStart : Int
  sourceEnd : Int
  localLpsTransition : Option Int
deriving DecidableEq, Repr

/-- A row of a score frame. -/
structure ScoredWindow (F : Type) where
  windowStart : Int
  windowEnd : Int
  score : F

structure Episode where
  detectionTime : Int
  lastDetectionTime : Int
  decisionCount : Nat
deriving DecidableEq, Repr

structure EventResult (F : Type) where
  eventId : String
  evaluable : Bool
  matchingHorizonValidDecisions : Nat
  sourceIntervalValidDecisions : Nat
  sourceIntervalCoverageSeconds : Int
  detected : Bool
  firstDetectionTime : Option Int
  leadSecondsToSourceStart : Option F
  leadSecondsToLocalLps : Option F

structure EvaluationResult (F : Type) where
  threshold : F
  validHoldoutDecisions : Nat
  positiveDecisions : Nat
  anomalousDecisions : Nat
  normalValidDecisions : Nat
  normalExposureDays : F
  timeInAlert : F
  prAuc : F
  detectedEvents : Nat
  totalEvents : Nat
  falseEpisodes : Nat
  falseEpisodesPerDay : F
  eventResults : List (EventResult F)
  feasible : Bool

/-- `timedelta(seconds=seconds)`. -/
def seconds (seconds : Int) : Int := seconds * 1000000

/-- `if wrong: raise ValueError(message)`. -/
def refuse (wrong : Bool) (message : String) : Except String Unit :=
  if wrong then .error message else .ok ()

section Frames

variable [PyFloat F]

/-- `timedelta.total_seconds()`. -/
def totalSeconds (micros : Int) : F := PyFloat.div (PyFloat.ofInt micros) (PyFloat.ofInt 1000000)

def validateContract (contract : EvaluationPolicy F) : Except String Unit := do
  refuse (contract.strideSeconds ≤ 0) "stride_seconds must be positive"
  refuse (contract.eventHorizonSeconds < 0) "event_horizon_seconds must be non-negative"

def validateThreshold (threshold : F) : Except String Unit :=
  refuse (!PyFloat.isFinite threshold) "threshold must be finite"

/-- `any(current <= previous for previous, current in pairwise(times))`. -/
def stalls (times : List Int) : Bool := (times.zip times.tail).any fun (previous, current) => current ≤ previous

/-- The ends and the scores are the columns of the frame. -/
def validatedScores (scores : List (ScoredWindow F)) : Except String Unit := do
  refuse scores.isEmpty "score frame must not be empty"
  refuse (scores.any fun row => !PyFloat.isFinite row.score) "scores must be a finite one-dimensional sequence"
  refuse (stalls (scores.map (·.windowEnd))) "window_end must be strictly increasing"
  refuse (stalls (scores.map (·.windowStart))) "window_start must be strictly increasing"
  refuse (scores.any fun row => row.windowEnd < row.windowStart) "window_start must not follow window_end"

/-- `_anomalies` of one score; finite numbers are in a total order. -/
def anomalous (contract : EvaluationPolicy F) (threshold score : F) : Bool :=
  if contract.anomalyInclusive then PyFloat.le threshold score else !PyFloat.le score threshold

/-- The episodes behind one that has begun. -/
def episodesFrom (contract : EvaluationPolicy F) : Episode → List Int → List Episode
  | episode, [] => [episode]
  | episode, current :: rest =>
      -- Both sides are in microseconds here.
      if current - episode.lastDetectionTime ≤ seconds contract.strideSeconds then
        episodesFrom contract
          ⟨episode.detectionTime, current, episode.decisionCount + 1⟩ rest
      else episode :: episodesFrom contract ⟨current, current, 1⟩ rest

/-- The anomalous decisions, merged. -/
def mergedEpisodes (contract : EvaluationPolicy F) : List Int → List Episode
  | [] => []
  | first :: rest => episodesFrom contract ⟨first, first, 1⟩ rest

def anomalousEnds (contract : EvaluationPolicy F) (threshold : F) (scores : List (ScoredWindow F)) : List Int :=
  (scores.filter fun row => anomalous contract threshold row.score).map (·.windowEnd)

def buildEpisodes (scores : List (ScoredWindow F)) (threshold : F) (contract : EvaluationPolicy F) :
    Except String (List Episode) := do
  validateContract contract
  validateThreshold threshold
  validatedScores scores
  return mergedEpisodes contract (anomalousEnds contract threshold scores)

end Frames

/-! ### Matching -/

def horizonStart (contract : EvaluationPolicy F) (event : Event) : Int :=
  event.sourceStart - seconds contract.eventHorizonSeconds

/-- `horizon_start <= end < event.source_end`. -/
def inHorizon (contract : EvaluationPolicy F) (event : Event) (time : Int) : Bool :=
  horizonStart contract event ≤ time ∧ time < event.sourceEnd

def episodeEnd (contract : EvaluationPolicy F) (episode : Episode) : Int :=
  episode.lastDetectionTime + seconds contract.strideSeconds

def episodeMatchesEvent (episode : Episode) (event : Event) (contract : EvaluationPolicy F) : Bool :=
  let detectedInHorizon := inHorizon contract event episode.detectionTime
  let overlapsSource :=
    episode.detectionTime < event.sourceEnd ∧ event.sourceStart < episodeEnd contract episode
  detectedInHorizon || overlapsSource

def validatedEvents (events : List Event) : Except String Unit := do
  refuse events.isEmpty "events must not be empty"
  refuse (events.any fun event => event.sourceEnd ≤ event.sourceStart) "event source interval must be non-empty"

/-- The episodes from one on, after the last detection of the one before. -/
def validatedEpisodes : Option Int → List Episode → Except String Unit
  | _, [] => .ok ()
  | previous, episode :: rest => do
      refuse (episode.decisionCount = 0 ∨ episode.lastDetectionTime < episode.detectionTime)
        "episode fields are inconsistent"
      refuse (previous.any fun last => episode.detectionTime ≤ last)
        "episodes must be strictly ordered and non-overlapping"
      validatedEpisodes episode.lastDetectionTime rest

section Evaluate

variable [PyFloat F]

/-- What is reported of an event. -/
def reported (contract : EvaluationPolicy F) (ends : List Int) (episodes : List Episode) (event : Event) :
    EventResult F :=
  let source := ends.countP fun time => event.sourceStart ≤ time ∧ time < event.sourceEnd
  let matched := episodes.filter fun episode => episodeMatchesEvent episode event contract
  let firstDetection := (matched.map (·.detectionTime)).min?
  { eventId := event.eventId
    evaluable := true
    matchingHorizonValidDecisions := ends.countP (inHorizon contract event)
    sourceIntervalValidDecisions := source
    sourceIntervalCoverageSeconds := source * contract.strideSeconds
    detected := firstDetection.isSome
    firstDetectionTime := firstDetection
    leadSecondsToSourceStart := firstDetection.map fun first => totalSeconds (event.sourceStart - first)
    leadSecondsToLocalLps := do return totalSeconds ((← event.localLpsTransition) - (← firstDetection)) }

/-- The body of the loop over the events. -/
def eventResult (contract : EvaluationPolicy F) (ends : List Int) (episodes : List Episode) (event : Event) :
    Except String (EventResult F) := do
  refuse (ends.countP (inHorizon contract event) = 0) ("event '" ++ event.eventId ++ "' is not evaluable")
  return reported contract ends episodes event

/-- `average_precision_score` is a parameter. -/
def evaluate (averagePrecisionScore : List Bool → List F → F) (holdoutScores : List (ScoredWindow F))
    (episodes : List Episode) (threshold : F) (events : List Event) (contract : EvaluationPolicy F) :
    Except String (EvaluationResult F) := do
  validateContract contract
  validateThreshold threshold
  validatedScores holdoutScores
  validatedEvents events
  validatedEpisodes none episodes
  let ends := holdoutScores.map (·.windowEnd)
  let scores := holdoutScores.map (·.score)
  let eventResults ← events.mapM (eventResult contract ends episodes)
  let positive := ends.map fun time => events.any fun event => inHorizon contract event time
  let validDecisions := ends.length
  let positiveDecisions := positive.countP id
  let normalDecisions := validDecisions - positiveDecisions
  refuse (normalDecisions = 0) "normal exposure must be greater than zero"
  let anomalousDecisions := scores.countP (anomalous contract threshold)
  let normalExposureDays :=
    PyFloat.div (PyFloat.ofInt (normalDecisions * contract.strideSeconds)) (PyFloat.ofInt 86400)
  let falseEpisodes := episodes.countP fun episode =>
    !events.any fun event => episodeMatchesEvent episode event contract
  let falseEpisodesPerDay := PyFloat.div (PyFloat.ofInt falseEpisodes) normalExposureDays
  let timeInAlert := PyFloat.div (PyFloat.ofInt anomalousDecisions) (PyFloat.ofInt validDecisions)
  let detectedEvents := eventResults.countP (·.detected)
  return {
    threshold
    validHoldoutDecisions := validDecisions
    positiveDecisions
    anomalousDecisions
    normalValidDecisions := normalDecisions
    normalExposureDays
    timeInAlert
    prAuc := averagePrecisionScore positive scores
    detectedEvents
    totalEvents := events.length
    falseEpisodes
    falseEpisodesPerDay
    eventResults
    feasible := contract.minDetectedEvents ≤ detectedEvents ∧
      PyFloat.le falseEpisodesPerDay contract.maxFalseEpisodesPerDay ∧
      PyFloat.le timeInAlert contract.maxTimeInAlert }

end Evaluate

end IndustrialReliability.Evaluation
