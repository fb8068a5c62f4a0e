import IndustrialReliability.Runtime.Messages
import Mathlib.Algebra.Field.Rat

/-!
The replay session controller.

`ReplayController.apply` is the lifecycle of a session: which action is allowed in
which state, and the controller it leads to. A status is the controller's position
as a message.
-/

namespace IndustrialReliability

/-- `ReplayContractError`. -/
structure ReplayContractError where
  detail : String
deriving DecidableEq, Repr

def ALLOWED_TRANSITIONS : ReplayState → List ReplayAction
  | .created => [.start]
  | .running => [.pause, .stop]
  | .paused => [.resume, .stop]
  | .stopped => []
  | .completed => []
  | .failed => []

/-- The source seconds from one event to the next at a speed. The code divides in
double precision. -/
def paceSeconds (previous current : Int) (speed : Int) : Except ReplayContractError ℚ :=
  if ¬(speed = 1 ∨ speed = 100 ∨ speed = 1000) ∨ current ≤ previous then
    .error ⟨"invalid speed or non-increasing source time"⟩
  else .ok ((current - previous : Int) / (Datetime.microsPerSecond : ℚ) / speed)

structure ReplayController where
  sessionId : UUID
  sourceDatasetSha256 : Sha256
  contractSha256 : Sha256
  state : ReplayState
  speed : Int
  rangeStart : Option Int
  rangeEnd : Option Int
  currentSourceTimestamp : Option Int
  lastSequence : Option Int
  errorCode : Option String
deriving DecidableEq, Repr

namespace ReplayController

def created (sessionId : UUID) (datasetSha256 contractSha256 : Sha256) : ReplayController where
  sessionId
  sourceDatasetSha256 := datasetSha256
  contractSha256
  state := .created
  speed := 1
  rangeStart := none
  rangeEnd := none
  currentSourceTimestamp := none
  lastSequence := none
  errorCode := none

def apply (ctrl : ReplayController) (command : ReplayCommandV1) :
    Except ReplayContractError ReplayController :=
  if command.replaySessionId ≠ ctrl.sessionId then
    .error ⟨"Command replay_session_id does not match controller session"⟩
  else if command.action ∉ ALLOWED_TRANSITIONS ctrl.state then
    .error ⟨"Transition " ++ command.action.str ++ " is not allowed from state " ++
      ctrl.state.str⟩
  else
    match command.action with
    | .start => .ok {
        sessionId := ctrl.sessionId
        sourceDatasetSha256 := command.sourceDatasetSha256
        contractSha256 := command.contractSha256
        state := .running
        speed := command.speed
        rangeStart := command.rangeStart
        rangeEnd := command.rangeEnd
        currentSourceTimestamp := some command.sourceTimestamp
        lastSequence := some 0
        errorCode := none }
    | .pause => .ok { ctrl with
        state := .paused
        currentSourceTimestamp := some command.sourceTimestamp
        errorCode := none }
    | .resume => .ok { ctrl with
        state := .running
        speed := command.speed
        currentSourceTimestamp := some command.sourceTimestamp
        errorCode := none }
    | .stop => .ok { ctrl with
        state := .stopped
        currentSourceTimestamp := some command.sourceTimestamp
        lastSequence := some (ctrl.lastSequence.getD 0)
        errorCode := none }

def markCompleted (ctrl : ReplayController) (lastSequence sourceTimestamp : Int) :
    ReplayController :=
  { ctrl with
    state := .completed
    currentSourceTimestamp := some sourceTimestamp
    lastSequence := some lastSequence
    errorCode := none }

def markFailed (ctrl : ReplayController) (errorCode : String)
    (lastSequence sourceTimestamp : Int) : ReplayController :=
  { ctrl with
    state := .failed
    currentSourceTimestamp := some sourceTimestamp
    lastSequence := some lastSequence
    errorCode := some errorCode }

/-- The status at the time `emittedAt`. -/
def status [Uuid5] (ctrl : ReplayController) (emittedAt : Instant) : ReplayStatusV1 where
  messageId := runtimeId "status" ctrl.sessionId
    (ctrl.state.str ++ ":" ++ (ctrl.lastSequence.map toString).getD "None")
  replaySessionId := ctrl.sessionId
  sourceDatasetSha256 := ctrl.sourceDatasetSha256
  contractSha256 := ctrl.contractSha256
  sourceTimestamp := (ctrl.currentSourceTimestamp <|> ctrl.rangeStart).getD epoch2020
  emittedAt
  state := ctrl.state
  lastSequence := ctrl.lastSequence
  errorCode := ctrl.errorCode

variable {ctrl ctrl' : ReplayController} {command : ReplayCommandV1}

/-- A command is applied exactly when it is the session's and the state allows its
action. -/
theorem exists_apply_iff (ctrl : ReplayController) (command : ReplayCommandV1) :
    (∃ ctrl', ctrl.apply command = .ok ctrl') ↔
    command.replaySessionId = ctrl.sessionId ∧ command.action ∈ ALLOWED_TRANSITIONS ctrl.state := by
  unfold apply
  by_cases session : command.replaySessionId = ctrl.sessionId
  · by_cases allowed : command.action ∈ ALLOWED_TRANSITIONS ctrl.state
    · cases action : command.action <;> simp [session] <;>
        simp [action] at allowed <;> simp [allowed]
    · simp [session, allowed]
  · simp [session]

/-- The state an action leads to. -/
def stateAfter : ReplayAction → ReplayState
  | .start => .running
  | .pause => .paused
  | .resume => .running
  | .stop => .stopped

/-- What an applied command leads to. -/
structure Applied (ctrl : ReplayController) (command : ReplayCommandV1)
    (ctrl' : ReplayController) : Prop where
  session : command.replaySessionId = ctrl.sessionId
  allowed : command.action ∈ ALLOWED_TRANSITIONS ctrl.state
  sessionId : ctrl'.sessionId = ctrl.sessionId
  state : ctrl'.state = stateAfter command.action
  timestamp : ctrl'.currentSourceTimestamp = some command.sourceTimestamp
  lastSequence : ctrl'.lastSequence = match command.action with
    | .start => some 0
    | .stop => some (ctrl.lastSequence.getD 0)
    | _ => ctrl.lastSequence
  errorCode : ctrl'.errorCode = none

theorem apply_eq_ok (applied : ctrl.apply command = .ok ctrl') : ctrl.Applied command ctrl' := by
  obtain ⟨session, allowed⟩ := (exists_apply_iff _ _).mp ⟨ctrl', applied⟩
  unfold apply at applied
  rw [if_neg (not_not.mpr session), if_neg (not_not.mpr allowed)] at applied
  cases action : command.action with
  | start =>
      rw [action] at applied
      obtain rfl := Except.ok.inj applied
      exact ⟨session, allowed, rfl, by rw [action]; rfl, rfl, by rw [action], rfl⟩
  | pause =>
      rw [action] at applied
      obtain rfl := Except.ok.inj applied
      exact ⟨session, allowed, rfl, by rw [action]; rfl, rfl, by rw [action], rfl⟩
  | resume =>
      rw [action] at applied
      obtain rfl := Except.ok.inj applied
      exact ⟨session, allowed, rfl, by rw [action]; rfl, rfl, by rw [action], rfl⟩
  | stop =>
      rw [action] at applied
      obtain rfl := Except.ok.inj applied
      exact ⟨session, allowed, rfl, by rw [action]; rfl, rfl, by rw [action], rfl⟩

end ReplayController

end IndustrialReliability
