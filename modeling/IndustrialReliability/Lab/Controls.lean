import IndustrialReliability.Lab.Commands
import IndustrialReliability.Lib.Latest
import IndustrialReliability.Lib.Results

/-!
`execute_command_in_controls`: what a command does to the controls of a run.

The parameters of a command are any JSON. Python's `float` and the schema of a fault
read numbers out of them, each in its own way (`FloatConversions`); what they refuse is
an error, and the controls stay as they are.
-/

namespace IndustrialReliability

open Lib

/-- Conversions to a float that other code makes. -/
class FloatConversions (R : Type) where
  /-- `float(n)`; `none` is an `OverflowError`. -/
  ofInt : Int → Option R
  /-- `float(text)`; `none` is a `ValueError`. -/
  ofText : String → Option R
  /-- The float that pydantic reads in a text. -/
  ofModelText : String → Option R

/-- Conversions that know no text of a number. -/
abbrev exactConversions : FloatConversions ℚ where
  ofInt n := some n
  ofText _ := none
  ofModelText _ := none

inductive FloatError where
  | typeError | valueError | overflowError
deriving DecidableEq, Repr

inductive ControlError where
  /-- `assert target_id is not None`. -/
  | missingTarget
  /-- `params["kind"]`. -/
  | missingKind
  /-- `float(params[key])`. -/
  | notFloat (key : String) (error : FloatError)
  /-- The fields of the fault that its schema refuses. -/
  | invalidFault (fields : List (List String))
deriving DecidableEq, Repr

namespace FaultKind

def str : FaultKind → String
  | LEAK => "LEAK"
  | VALVE_STUCK => "VALVE_STUCK"
  | SENSOR_BIAS => "SENSOR_BIAS"
  | SENSOR_DROPOUT => "SENSOR_DROPOUT"
  | COMPRESSOR_UNAVAILABLE => "COMPRESSOR_UNAVAILABLE"

def ofStr? : String → Option FaultKind
  | "LEAK" => some LEAK
  | "VALVE_STUCK" => some VALVE_STUCK
  | "SENSOR_BIAS" => some SENSOR_BIAS
  | "SENSOR_DROPOUT" => some SENSOR_DROPOUT
  | "COMPRESSOR_UNAVAILABLE" => some COMPRESSOR_UNAVAILABLE
  | _ => none

end FaultKind

variable {R : Type} [LabNumber R] [FloatConversions R]

/-! ### Reading the parameters -/

namespace JsonValue

/-- `float(value)`. -/
def toFloat : JsonValue R → Except FloatError R
  | bool value => .ok (if value then num 1 else num 0)
  | integer value =>
      match FloatConversions.ofInt value with
      | some float => .ok float
      | none => .error .overflowError
  | number value => .ok value
  | text value =>
      match FloatConversions.ofText value with
      | some float => .ok float
      | none => .error .valueError
  | null | array _ | object _ => .error .typeError

omit [FloatConversions R] in
/-- `bool(value)`. -/
def toBool : JsonValue R → Bool
  | null => false
  | bool value => value
  | integer value => value ≠ 0
  | number value => !LabNumber.pyEq value (num 0)
  | text value => value ≠ ""
  | array items => !items.isEmpty
  | object members => !members.isEmpty

/-- The float a schema reads. -/
def modelFloat? : JsonValue R → Option R
  | bool value => some (if value then num 1 else num 0)
  | integer value => FloatConversions.ofInt value
  | number value => some value
  | text value => FloatConversions.ofModelText value
  | null | array _ | object _ => none

omit [LabNumber R] [FloatConversions R] in
/-- The kind of fault that a value is the name of. -/
def faultKind? : JsonValue R → Option FaultKind
  | text value => FaultKind.ofStr? value
  | _ => none

omit [LabNumber R] [FloatConversions R] in
/-- A value of type `str | None`. -/
def optionalText? : JsonValue R → Option (Option String)
  | null => some none
  | text value => some (some value)
  | _ => none

end JsonValue

/-- The parameters of a command. -/
abbrev CommandParams (R : Type) := Table String (JsonValue R)

namespace CommandParams

/-- `float(params.get(key, default))`. -/
def float (params : CommandParams R) (key : String) (default : ℚ) : Except ControlError R :=
  match params.get? key with
  | none => .ok (num default)
  | some value =>
      match value.toFloat with
      | .ok float => .ok float
      | .error error => .error (.notFloat key error)

omit [FloatConversions R] in
/-- `bool(params.get(key, default))`. -/
def bool (params : CommandParams R) (key : String) (default : Bool) : Bool :=
  match params.get? key with
  | none => default
  | some value => value.toBool

omit [LabNumber R] [FloatConversions R] in
/-- `params["kind"]`. -/
def kind (params : CommandParams R) : Except ControlError (JsonValue R) :=
  match params.get? "kind" with
  | some kind => .ok kind
  | none => .error .missingKind

end CommandParams

/-! ### Faults -/

/-- `values: dict[str, float]`, or the fields it refuses. -/
def faultValues : JsonValue R → Except (List (List String)) (Table String R)
  | .object members =>
      match members.filter fun member => member.2.modelFloat?.isNone with
      | [] => .ok (tableOf (members.filterMap fun member => member.2.modelFloat?.map (member.1, ·)))
      | refused => .error (refused.map fun member => ["values", member.1])
  | _ => .error [["values"]]

/-- `ActiveFault(target_id=.., kind=.., port=.., values=..)`. -/
def activeFault (target : UUID) (kind port values : JsonValue R) : Except ControlError (ActiveFault R) :=
  match kind.faultKind?, port.optionalText?, faultValues values with
  | some kind, some port, .ok values => .ok ⟨target, kind, port, values⟩
  | kind, port, values => .error (.invalidFault (
      (if kind.isNone then [["kind"]] else []) ++ (if port.isNone then [["port"]] else []) ++
        (match values with
          | .ok _ => []
          | .error fields => fields)))

/-- `params.get("port")` and `params.get("values", {})`. -/
def injectedFault (target : UUID) (kind : JsonValue R) (params : CommandParams R) :
    Except ControlError (ActiveFault R) :=
  activeFault target kind ((params.get? "port").getD .null) ((params.get? "values").getD (.object []))

namespace ControlState

omit [LabNumber R] [FloatConversions R] in
/-- `setpoints.setdefault(str(target), {})[key] = value`. -/
def setSetpoint (controls : ControlState R) (target : UUID) (key : String) (value : ParamValue R) :
    ControlState R :=
  { controls with
    setpoints := controls.setpoints.set target (((controls.setpoints.get? target).getD .empty).set key value) }

omit [LabNumber R] [FloatConversions R] in
/-- `not (f.target_id == target_id and f.kind == kind)`, for each of the faults. -/
def faultsBut (controls : ControlState R) (target : UUID) (kind : JsonValue R) : List (ActiveFault R) :=
  controls.activeFaults.filter fun fault => ¬ (fault.targetId = target ∧ kind.faultKind? = some fault.kind)

end ControlState

/-! ### Commands -/

/-- What `execute_command_in_controls` is called with. -/
structure ControlCommand (R : Type) where
  action : String
  targetId : Option UUID
  params : CommandParams R

omit [LabNumber R] [FloatConversions R] in
/-- `assert target_id is not None`. -/
def ControlCommand.target (command : ControlCommand R) : Except ControlError UUID :=
  match command.targetId with
  | some target => .ok target
  | none => .error .missingTarget

/-- `sp[key] = float(params.get(key, 1.0))`. -/
def setFloat (controls : ControlState R) (command : ControlCommand R) (key : String) :
    Except ControlError (ControlState R) := do
  let target ← command.target
  let value ← command.params.float key 1.0
  return controls.setSetpoint target key (.number value)

def executeCommandInControls (controls : ControlState R) (command : ControlCommand R) :
    Except ControlError (ControlState R) :=
  match command.action with
  | "SET_COMPRESSOR_LOAD" => setFloat controls command "load"
  | "SET_COMPRESSOR_ENABLED" => do
      let target ← command.target
      return controls.setSetpoint target "enabled" (.flag (command.params.bool "enabled" true))
  | "SET_VALVE_OPENING" => setFloat controls command "opening"
  | "SET_LOAD_FACTOR" => setFloat controls command "load_factor"
  | "INJECT_FAULT" => do
      let target ← command.target
      let kind ← command.params.kind
      let fault ← injectedFault target kind command.params
      return { controls with activeFaults := controls.faultsBut target kind ++ [fault] }
  | "CLEAR_FAULT" => do
      let target ← command.target
      let kind ← command.params.kind
      return { controls with activeFaults := controls.faultsBut target kind }
  | _ => .ok controls

/-- The commands of a history, applied in order. -/
def applyCommands (controls : ControlState R) (history : List (ControlCommand R)) :
    Except ControlError (ControlState R) :=
  history.foldlM executeCommandInControls controls

/-! ### What a command does -/

/-- The change a command stands for. -/
inductive ControlChange (R : Type) where
  | set (target : UUID) (key : String) (value : ParamValue R)
  | inject (fault : ActiveFault R)
  | clear (target : UUID) (kind : FaultKind)
  | nothing

namespace ControlChange

omit [LabNumber R] [FloatConversions R] in
/-- The controls after a change. -/
def apply (controls : ControlState R) : ControlChange R → ControlState R
  | set target key value => controls.setSetpoint target key value
  | inject fault =>
      { controls with activeFaults := (controls.activeFaults.filter fun other =>
          ¬ (other.targetId = fault.targetId ∧ other.kind = fault.kind)) ++ [fault] }
  | clear target kind =>
      { controls with activeFaults := controls.activeFaults.filter fun other =>
          ¬ (other.targetId = target ∧ other.kind = kind) }
  | nothing => controls

end ControlChange

namespace ControlCommand

/-- `sp[key] = float(..)`, as a change. -/
def setting (command : ControlCommand R) (key : String) : Except ControlError (ControlChange R) := do
  let target ← command.target
  let value ← command.params.float key 1.0
  return .set target key (.number value)

/-- The change that a command stands for, whatever the controls are. -/
def change (command : ControlCommand R) : Except ControlError (ControlChange R) :=
  match command.action with
  | "SET_COMPRESSOR_LOAD" => command.setting "load"
  | "SET_COMPRESSOR_ENABLED" => do
      let target ← command.target
      return .set target "enabled" (.flag (command.params.bool "enabled" true))
  | "SET_VALVE_OPENING" => command.setting "opening"
  | "SET_LOAD_FACTOR" => command.setting "load_factor"
  | "INJECT_FAULT" => do
      let target ← command.target
      let kind ← command.params.kind
      let fault ← injectedFault target kind command.params
      return .inject fault
  | "CLEAR_FAULT" => do
      let target ← command.target
      let kind ← command.params.kind
      match kind.faultKind? with
      | some kind => return .clear target kind
      | none => return .nothing
  | _ => .ok .nothing

end ControlCommand

theorem setFloat_eq (controls : ControlState R) (command : ControlCommand R) (key : String) :
    setFloat controls command key = (command.setting key).map (·.apply controls) := by
  unfold setFloat ControlCommand.setting
  cases command.target with
  | error error => rfl
  | ok target => cases command.params.float key 1.0 <;> rfl

theorem activeFault_eq_ok {target : UUID} {kind port values : JsonValue R} {fault : ActiveFault R}
    (made : activeFault target kind port values = .ok fault) :
    fault.targetId = target ∧ kind.faultKind? = some fault.kind := by
  unfold activeFault at made
  split at made
  · cases made
    exact ⟨rfl, ‹_›⟩
  · cases made

/-- A command changes the controls by the change it stands for. -/
theorem executeCommandInControls_eq (controls : ControlState R) (command : ControlCommand R) :
    executeCommandInControls controls command = command.change.map (·.apply controls) := by
  unfold executeCommandInControls ControlCommand.change
  split
  · exact setFloat_eq controls command "load"
  · cases command.target <;> rfl
  · exact setFloat_eq controls command "opening"
  · exact setFloat_eq controls command "load_factor"
  · cases command.target with
    | error error => rfl
    | ok target =>
        cases command.params.kind with
        | error error => rfl
        | ok kind =>
            cases made : injectedFault target kind command.params with
            | error error => simp [made, Except.map, Bind.bind, Except.bind]
            | ok fault =>
                obtain ⟨rfl, named⟩ := activeFault_eq_ok made
                simp only [bind, Except.bind, made, pure, Except.pure, Except.map, ControlChange.apply,
                  ControlState.faultsBut, named, Option.some.injEq, eq_comm]
  · cases command.target with
    | error error => rfl
    | ok target =>
        cases command.params.kind with
        | error error => rfl
        | ok kind =>
            show Except.ok { controls with activeFaults := controls.faultsBut target kind } = _
            cases named : kind.faultKind? with
            | none =>
                simp [bind, Except.bind, pure, Except.pure, Except.map, ControlChange.apply,
                  ControlState.faultsBut, named]
            | some kind =>
                simp only [bind, Except.bind, pure, Except.pure, Except.map, ControlChange.apply,
                  ControlState.faultsBut, named, Option.some.injEq, eq_comm]
  · rfl

/-- The changes that the commands of a history stand for. -/
def changesOf (history : List (ControlCommand R)) : List (ControlChange R) :=
  history.filterMap fun command => command.change.toOption

/-- A history that is applied makes its changes, one after another. -/
theorem applyCommands_eq_ok {controls final : ControlState R} {history : List (ControlCommand R)}
    (applied : applyCommands controls history = .ok final) :
    final = (changesOf history).foldl ControlChange.apply controls := by
  induction history generalizing controls with
  | nil => exact (Except.ok.inj applied).symm
  | cons command history ih =>
      obtain ⟨next, first, rest⟩ := bind_eq_ok_iff.mp applied
      rw [executeCommandInControls_eq, map_eq_ok_iff] at first
      obtain ⟨change, read, rfl⟩ := first
      unfold changesOf
      rw [List.filterMap_cons, read]
      exact ih rest

/-! ### Reading the controls after a change -/

section Changed

omit [LabNumber R] [FloatConversions R]

variable {controls : ControlState R} {target : UUID} {key : String} {value : ParamValue R}

theorem ControlState.setting_set (asset : UUID) (name : String) :
    ((ControlChange.apply controls (.set target key value)).setpoint asset).get? name =
      if target = asset ∧ key = name then some value else (controls.setpoint asset).get? name := by
  unfold ControlState.setpoint
  show ((controls.setpoints.set target _).get? asset |>.getD .empty).get? name = _
  by_cases here : target = asset
  · subst here
    rw [Table.get?_set_self]
    by_cases same : key = name
    · simp [same]
    · simp [same, Table.get?_set_ne (Ne.symm same)]
  · simp [here, Table.get?_set_ne (Ne.symm here)]

@[simp] theorem ControlState.fault_set (asset : UUID) (kind : FaultKind) :
    (ControlChange.apply controls (.set target key value)).fault asset kind = controls.fault asset kind := rfl

@[simp] theorem ControlState.setpoint_inject (fault : ActiveFault R) (asset : UUID) :
    (ControlChange.apply controls (.inject fault)).setpoint asset = controls.setpoint asset := rfl

@[simp] theorem ControlState.setpoint_clear (kind : FaultKind) (asset : UUID) :
    (ControlChange.apply controls (.clear target kind)).setpoint asset = controls.setpoint asset := rfl

/-- The fault in force for a target and a kind, after an injection. -/
theorem ControlState.fault_inject (fault : ActiveFault R) (target : UUID) (kind : FaultKind) :
    (ControlChange.apply controls (.inject fault)).fault target kind =
      if fault.targetId = target ∧ fault.kind = kind then some fault else controls.fault target kind := by
  show latest _ (_ ++ [fault]) = _
  rw [latest_concat]
  by_cases same : fault.targetId = target ∧ fault.kind = kind
  · rw [if_pos (decide_eq_true same), if_pos same]
  · rw [if_neg (by simpa using same), if_neg same]
    refine latest_filter fun kept _ its => decide_eq_true ?_
    obtain ⟨rfl, rfl⟩ := of_decide_eq_true its
    exact fun equal => same ⟨equal.1.symm, equal.2.symm⟩

/-- The fault in force for a target and a kind, after a clearance. -/
theorem ControlState.fault_clear (cleared : UUID) (clearedKind : FaultKind) (target : UUID) (kind : FaultKind) :
    (ControlChange.apply controls (.clear cleared clearedKind)).fault target kind =
      if cleared = target ∧ clearedKind = kind then none else controls.fault target kind := by
  show latest _ _ = _
  by_cases same : cleared = target ∧ clearedKind = kind
  · obtain ⟨rfl, rfl⟩ := same
    rw [if_pos ⟨rfl, rfl⟩, latest_eq_none_iff]
    intro fault mem its
    exact of_decide_eq_true (List.mem_filter.mp mem).2 (of_decide_eq_true its)
  · rw [if_neg same]
    refine latest_filter fun kept _ its => decide_eq_true ?_
    obtain ⟨rfl, rfl⟩ := of_decide_eq_true its
    exact fun equal => same ⟨equal.1.symm, equal.2.symm⟩

end Changed

end IndustrialReliability
