import IndustrialReliability.Lab.Sensors

/-!
Commands to a run and their payload hash.
-/

namespace IndustrialReliability

/-- A value of type `Any` in the parameters of a command. -/
inductive JsonValue (R : Type) where
  | null
  | bool (value : Bool)
  | integer (value : Int)
  | number (value : R)
  | text (value : String)
  | array (items : List (JsonValue R))
  | object (members : List (String × JsonValue R))

variable {R : Type} [LabNumber R]

namespace Json

/-- `sort_keys=True`. -/
def sorted {α : Type} (members : List (String × α)) : List (String × α) :=
  members.insertionSort fun a b => a.1 ≤ b.1

end Json

namespace JsonValue

mutual

/-- The canonical JSON of a value. -/
def json : JsonValue R → String
  | null => "null"
  | bool value => Json.bool value
  | integer value => toString value
  | number value => Json.number value
  | text value => Json.string value
  | array items => Json.array (jsonItems items)
  | object members => Json.object ((Json.sorted (jsonMembers members)).map fun (key, value) =>
      (Json.escaped key, value))

def jsonItems : List (JsonValue R) → List String
  | [] => []
  | item :: items => item.json :: jsonItems items

def jsonMembers : List (String × JsonValue R) → List (String × String)
  | [] => []
  | (key, value) :: members => (key, value.json) :: jsonMembers members

end

mutual

/-- The value has no NaN and no infinity (`allow_nan=False`). -/
def isFinite : JsonValue R → Bool
  | number value => LabNumber.isFinite value
  | array items => finiteItems items
  | object members => finiteMembers members
  | _ => true

def finiteItems : List (JsonValue R) → Bool
  | [] => true
  | item :: items => item.isFinite && finiteItems items

def finiteMembers : List (String × JsonValue R) → Bool
  | [] => true
  | (_, value) :: members => value.isFinite && finiteMembers members

end

end JsonValue

inductive CommandStatus where
  | ACCEPTED | APPLIED | REJECTED | FAILED
deriving DecidableEq, Repr

structure CommandRequest (R : Type) where
  commandId : UUID
  expectedControlRevision : Nat
  action : String
  targetId : Option UUID
  parameters : Lib.Table String (JsonValue R)

structure CommandReceipt where
  commandId : UUID
  status : CommandStatus
  acceptedSequence : Nat
  effectiveTick : Option Nat
  controlRevision : Nat
  reasonCode : Option String
deriving DecidableEq, Repr

namespace CommandRequest

/-- `canonical_json_bytes(request.model_dump(mode="json"))`. -/
def json (request : CommandRequest R) : String :=
  Json.object [
    ("action", Json.string request.action),
    ("command_id", Json.uuid request.commandId),
    ("expected_control_revision", toString request.expectedControlRevision),
    ("parameters", (JsonValue.object request.parameters.rows).json),
    ("target_id", Json.option Json.uuid request.targetId)]

def payloadHash [Sha256Digest] (request : CommandRequest R) : Sha256 := sha256 request.json

end CommandRequest

end IndustrialReliability
