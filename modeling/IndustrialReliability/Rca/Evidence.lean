import IndustrialReliability.Alert.Store
import IndustrialReliability.Lab.Commands
import IndustrialReliability.Rca.Report

/-!
Evidence bundles for a root-cause report.

`getAlertDetail` reads what the store has on an alert: its events by message id, its
evidence by evidence id and its decisions by source timestamp. `gatherEvidence` makes
four items of facts out of it, each named by the hash of its facts, and the bundle is
hashed in turn.
-/

namespace IndustrialReliability

variable {F : Type}

structure AlertSummaryRecord where
  alertId : UUID
  replaySessionId : UUID
  machineId : String
  state : AlertRowState
  firstDetection : Int
  lastDetection : Int
  resolvedAt : Option Int
  latestDecisionId : UUID
  policySha256 : Sha256
deriving DecidableEq, Repr

structure AlertDetailRecord (F : Type) where
  alert : AlertSummaryRecord
  events : List AlertEventV1
  evidence : List (EvidenceSnapshotV1 F)
  decisions : List (ScoreDecisionV1 F)
  rca : Option RcaReportV1
deriving DecidableEq

namespace RuntimeStore

/-- `SELECT payload FROM alert_events WHERE alert_id = .. ORDER BY message_id`. -/
def eventsOf (store : RuntimeStore F) (alertId : UUID) : List AlertEventV1 :=
  ((store.alertEvents.rows.filter fun row => row.2.alertId = alertId).insertionSort
    fun a b => a.1 ≤ b.1).map (·.2.payload)

/-- `SELECT payload FROM evidence_snapshots WHERE alert_id = .. ORDER BY evidence_id`. -/
def evidenceOf (store : RuntimeStore F) (alertId : UUID) : List (EvidenceSnapshotV1 F) :=
  ((store.evidenceSnapshots.rows.filter fun row => row.2.alertId = alertId).insertionSort
    fun a b => a.1 ≤ b.1).map (·.2.payload)

/-- The decisions of the events of an alert, `ORDER BY d.source_timestamp`. Rows that tie
stay in the order of the events. -/
def decisionsOf (store : RuntimeStore F) (alertId : UUID) : List (ScoreDecisionV1 F) :=
  ((store.alertEvents.values.filter fun row => row.alertId = alertId).filterMap fun row =>
    store.scoreDecisions.get? row.decisionId).insertionSort
      fun a b => a.sourceTimestamp ≤ b.sourceTimestamp

/-- `get_alert_detail`. -/
def getAlertDetail (store : RuntimeStore F) (reports : RcaReports) (alertId : UUID) :
    Option (AlertDetailRecord F) :=
  (store.alerts.get? alertId).map fun row => {
    alert := {
      alertId
      replaySessionId := row.replaySessionId
      machineId := row.machineId
      state := row.state
      firstDetection := row.firstDetection
      lastDetection := row.lastDetection
      resolvedAt := row.resolvedAt
      latestDecisionId := row.latestDecisionId
      policySha256 := row.policySha256 }
    events := store.eventsOf alertId
    evidence := store.evidenceOf alertId
    decisions := store.decisionsOf alertId
    rca := (reports.latest alertId.str).map (·.val) }

end RuntimeStore

/-! ### Facts -/

inductive JsonScalar (F : Type) where
  | text (value : String)
  | integer (value : Int)
  | number (value : F)
  | flag (value : Bool)
deriving DecidableEq, Repr

/-- `dict[str, JsonScalar]`. -/
abbrev Facts (F : Type) := Lib.Table String (JsonScalar F)

inductive EvidenceError where
  | alertNotFound (detail : String)
  | value (detail : String)
  | validation (error : ValidationError)
deriving DecidableEq, Repr

inductive RcaTool where
  | getAlert | getScoreEvidence | getModelProvenance | getSystemHealth
deriving DecidableEq, Repr

def RcaTool.str : RcaTool → String
  | .getAlert => "get_alert"
  | .getScoreEvidence => "get_score_evidence"
  | .getModelProvenance => "get_model_provenance"
  | .getSystemHealth => "get_system_health"

structure EvidenceItemV1 (F : Type) where
  evidenceId : String
  toolName : RcaTool
  observedAt : Instant
  facts : Facts F
deriving DecidableEq

structure EvidenceBundleV1 (F : Type) where
  alertId : String
  /-- The source keeps its rendering. -/
  replaySessionId : UUID
  modelVersion : String
  contractSha256 : Sha256
  sourceDatasetSha256 : Sha256
  items : List (EvidenceItemV1 F)
  bundleSha256 : Sha256
deriving DecidableEq

instance : FrozenMessage (EvidenceBundleV1 F) where
  checks bundle :=
    [(decide (1 ≤ bundle.alertId.length), "alert_id: String should have at least 1 character"),
     (decide (1 ≤ bundle.modelVersion.length),
        "model_version: String should have at least 1 character")]

def AlertAction.str : AlertAction → String
  | .opened => "OPENED"
  | .updated => "UPDATED"
  | .resolved => "RESOLVED"
  | .reopened => "REOPENED"

def AlertRowState.str : AlertRowState → String
  | .opened => "OPEN"
  | .resolved => "RESOLVED"

/-- What `manifest.json` of the champion directory says; `threshold` when it is a number. -/
structure ChampionManifest (F : Type) where
  modelId : String
  threshold : Option F

variable [PyFloat F]

namespace JsonScalar

def json : JsonScalar F → String
  | text value => Json.string value
  | integer value => toString value
  | number value => PyFloat.repr value
  | flag value => Json.bool value

/-- Not a NaN and not an infinity. -/
def isFinite : JsonScalar F → Bool
  | number value => PyFloat.isFinite value
  | _ => true

end JsonScalar

namespace Facts

def json (facts : Facts F) : String :=
  Json.object ((Json.sorted facts.rows).map fun (key, value) => (Json.escaped key, value.json))

def isFinite (facts : Facts F) : Bool := facts.values.all JsonScalar.isFinite

end Facts

/-- `_sanitize_scalar`. -/
def sanitizeScalar : EvidenceScalar F → Except EvidenceError (JsonScalar F)
  | .flag value => .ok (.flag value)
  | .number value =>
      if PyFloat.isFinite value then .ok (.number value)
      else .error (.value ("Non-finite float not allowed: " ++ PyFloat.repr value))
  | .text value => .ok (.text value)

/-- `_evidence_id`. -/
def evidenceId [Sha256Digest] (toolName : RcaTool) (facts : Facts F) :
    Except EvidenceError String :=
  if facts.isFinite then
    let digest := sha256 (Json.object [("facts", facts.json), ("tool_name", Json.string toolName.str)])
    .ok ("evidence-" ++ String.ofList ((Sha256.hex digest).toList.take 24))
  else .error (.value "Out of range float values are not JSON compliant")

/-- An item that names itself by its facts. -/
def evidenceItem [Sha256Digest] (detail : AlertDetailRecord F) (toolName : RcaTool)
    (facts : Facts F) : Except EvidenceError (EvidenceItemV1 F) := do
  let evidenceId ← evidenceId toolName facts
  return {
    evidenceId
    toolName
    observedAt := ⟨detail.alert.lastDetection⟩
    facts }

/-! ### The tools -/

variable [Sha256Digest]

def getAlertEvidence (detail : AlertDetailRecord F) : Except EvidenceError (EvidenceItemV1 F) := do
  let alert := detail.alert
  let action := match detail.events with
    | event :: _ => event.action.str
    | [] => "OPENED"
  let activeDuration :=
    PyFloat.div (PyFloat.ofInt (alert.lastDetection - alert.firstDetection))
      (PyFloat.ofInt Datetime.microsPerSecond)
  let facts : Facts F := ((((((((Lib.Table.empty).set "action" (.text action)).set
    "active_duration_seconds" (.number activeDuration)).set
    "alert_id" (.text alert.alertId.str)).set
    "decision_count" (.integer detail.decisions.length)).set
    "first_detection" (.text (Datetime.isoformat alert.firstDetection))).set
    "last_detection" (.text (Datetime.isoformat alert.lastDetection))).set
    "machine_id" (.text alert.machineId)).set
    "state" (.text alert.state.str)
  let facts ← match detail.decisions with
    | first :: _ => do
        let score ← sanitizeScalar (.number first.score)
        let threshold ← sanitizeScalar (.number first.threshold)
        pure ((facts.set "score" score).set "threshold" threshold)
    | [] => pure facts
  evidenceItem detail .getAlert facts

/-- The facts of a section, under a prefix. -/
def sectionFacts (label : String) (facts : Facts F) (entries : List (String × EvidenceScalar F)) :
    Except EvidenceError (Facts F) :=
  entries.foldlM (fun facts (key, value) => do
    let value ← sanitizeScalar value
    return facts.set (label ++ key) value) facts

def getScoreEvidence (detail : AlertDetailRecord F) : Except EvidenceError (EvidenceItemV1 F) := do
  let facts ← match detail.evidence with
    | first :: _ => do
        let deviations ← first.featureDeviations.foldlM (fun (facts : Facts F) dev => do
          let observed ← sanitizeScalar (.number dev.observedValue)
          let deviation ← sanitizeScalar (.number dev.absoluteDeviation)
          return (facts.set ("feature_" ++ dev.featureName ++ "_observed") observed).set
            ("feature_" ++ dev.featureName ++ "_deviation") deviation) Lib.Table.empty
        sectionFacts "dq_" deviations first.dataQuality
    | [] => pure Lib.Table.empty
  evidenceItem detail .getScoreEvidence facts

def getModelProvenanceEvidence (manifest : Option (ChampionManifest F))
    (detail : AlertDetailRecord F) : Except EvidenceError (EvidenceItemV1 F) :=
  let (modelVersion, contractSha256, datasetSha256) := match detail.decisions with
    | first :: _ => (first.modelVersion, first.contractSha256, first.sourceDatasetSha256)
    | [] => ("champion-statistical-v1", 0, 0)
  let facts : Facts F := (((Lib.Table.empty).set
    "contract_sha256" (.text (Sha256.hex contractSha256))).set
    "model_version" (.text modelVersion)).set
    "source_dataset_sha256" (.text (Sha256.hex datasetSha256))
  let facts := match manifest with
    | some manifest =>
        let named := facts.set "champion_manifest_model_id" (.text manifest.modelId)
        match manifest.threshold with
        | some threshold => named.set "champion_threshold" (.number threshold)
        | none => named
    | none => facts
  evidenceItem detail .getModelProvenance facts

def getSystemHealthEvidence (detail : AlertDetailRecord F) :
    Except EvidenceError (EvidenceItemV1 F) := do
  let facts ← match detail.evidence with
    | first :: _ => sectionFacts "health_" Lib.Table.empty first.systemHealth
    | [] => pure Lib.Table.empty
  let facts := if facts.rows.isEmpty then facts.set "health_status" (.text "normal") else facts
  evidenceItem detail .getSystemHealth facts

/-! ### The bundle -/

def EvidenceItemV1.json (item : EvidenceItemV1 F) : String :=
  Json.object [
    ("evidence_id", Json.string item.evidenceId),
    ("facts", item.facts.json),
    ("observed_at", Json.string (Datetime.isoformat item.observedAt.micros ++ "+00:00")),
    ("tool_name", Json.string item.toolName.str)]

/-- `_compute_bundle_hash`: the hash of the bundle with an empty hash. -/
def EvidenceBundleV1.computeHash (bundle : EvidenceBundleV1 F) : Sha256 :=
  sha256 (Json.object [
    ("alert_id", Json.string bundle.alertId),
    ("bundle_sha256", Json.string ""),
    ("contract_sha256", Json.string (Sha256.hex bundle.contractSha256)),
    ("items", Json.array (bundle.items.map EvidenceItemV1.json)),
    ("model_version", Json.string bundle.modelVersion),
    ("replay_session_id", Json.uuid bundle.replaySessionId),
    ("schema_version", Json.string "rca-evidence-bundle-v1"),
    ("source_dataset_sha256", Json.string (Sha256.hex bundle.sourceDatasetSha256))])

/-- The session, the model version and the two digests of the first decision. -/
def bundleIds : List (ScoreDecisionV1 F) → UUID × String × Sha256 × Sha256
  | first :: _ => (first.replaySessionId, first.modelVersion, first.contractSha256,
      first.sourceDatasetSha256)
  | [] => (0, "champion-statistical-v1", 0, 0)

/-- The bundle of an alert's detail. -/
def bundleOf (manifest : Option (ChampionManifest F)) (alertId : UUID)
    (detail : AlertDetailRecord F) : Except EvidenceError (EvidenceBundleV1 F) := do
  let item1 ← getAlertEvidence detail
  let item2 ← getScoreEvidence detail
  let item3 ← getModelProvenanceEvidence manifest detail
  let item4 ← getSystemHealthEvidence detail
  let (replaySessionId, modelVersion, contractSha256, sourceDatasetSha256) :=
    bundleIds detail.decisions
  let raw : EvidenceBundleV1 F := {
    alertId := alertId.str
    replaySessionId
    modelVersion
    contractSha256
    sourceDatasetSha256
    items := [item1, item2, item3, item4]
    bundleSha256 := 0 }
  match construct { raw with bundleSha256 := raw.computeHash } with
  | .ok bundle => return bundle
  | .error error => .error (.validation error)

/-- `gather_evidence`. -/
def gatherEvidence (manifest : Option (ChampionManifest F)) (store : RuntimeStore F)
    (reports : RcaReports) (alertId : UUID) : Except EvidenceError (EvidenceBundleV1 F) :=
  match store.getAlertDetail reports alertId with
  | none => .error (.alertNotFound ("Alert '" ++ alertId.str ++ "' not found in runtime store"))
  | some detail => bundleOf manifest alertId detail

end IndustrialReliability
