import IndustrialReliability.Lib.Table
import IndustrialReliability.Runtime.Messages
import Mathlib.Data.List.Sort

/-!
Root-cause reports and the table that keeps them.

A report cites evidence items by id; its schema checks that it cites none but its own.
`rca_reports` holds the payloads of reports by report id, at most one for an alert and
the hash of its evidence bundle: a second one is compared with the first and refused
(`saveRca`), and so is one with a text that no column takes (`Storable`).
-/

namespace IndustrialReliability

structure RcaObservationV1 where
  claim : String
  evidenceIds : List String
deriving DecidableEq, Repr

instance : FrozenMessage RcaObservationV1 where
  checks observation :=
    [(decide (1 ≤ observation.claim.length), "claim: String should have at least 1 character"),
     (decide (observation.claim.length ≤ 500), "claim: String should have at most 500 characters"),
     (decide (1 ≤ observation.evidenceIds.length), "evidence_ids: Tuple should have at least 1 item"),
     (decide (observation.evidenceIds.length ≤ 8), "evidence_ids: Tuple should have at most 8 items")]

inductive RcaStatus where
  | complete | unavailable
deriving DecidableEq, Repr

structure RcaReportV1 where
  messageId : UUID
  replaySessionId : UUID
  sourceDatasetSha256 : Sha256
  contractSha256 : Sha256
  sourceTimestamp : Int
  emittedAt : Instant
  reportId : String
  alertId : String
  status : RcaStatus
  summary : String
  observations : List RcaObservationV1
  uncertainty : List String
  nextChecks : List String
  evidenceIds : List String
  evidenceBundleSha256 : Sha256
  providerModel : Option String
deriving DecidableEq, Repr

instance : FrozenMessage RcaReportV1 where
  checks report :=
    [(decide (1 ≤ report.reportId.length), "report_id: String should have at least 1 character"),
     (decide (1 ≤ report.alertId.length), "alert_id: String should have at least 1 character"),
     (decide (1 ≤ report.summary.length), "summary: String should have at least 1 character"),
     (decide (report.summary.length ≤ 1000), "summary: String should have at most 1000 characters"),
     (decide (report.observations.length ≤ 12), "observations: Tuple should have at most 12 items"),
     (decide (1 ≤ report.uncertainty.length), "uncertainty: Tuple should have at least 1 item"),
     (decide (report.uncertainty.length ≤ 8), "uncertainty: Tuple should have at most 8 items"),
     (decide (report.nextChecks.length ≤ 8), "next_checks: Tuple should have at most 8 items"),
     (decide (1 ≤ report.evidenceIds.length), "evidence_ids: Tuple should have at least 1 item"),
     (decide (report.evidenceIds.length ≤ 64), "evidence_ids: Tuple should have at most 64 items"),
     (decide report.evidenceIds.Nodup, "evidence_ids must be unique")] ++
    (report.observations.flatMap (·.evidenceIds)).map (fun id =>
      (decide (id ∈ report.evidenceIds), "Observation citation '" ++ id ++ "' is not in evidence_ids")) ++
    [(decide (report.status = .complete → report.providerModel.isSome),
        "provider_model is required when status is COMPLETE"),
     (decide (report.status = .unavailable → report.providerModel = none),
        "provider_model must be None when status is UNAVAILABLE")]

/-! ### The table -/

/-- `rca_reports` by `report_id`: the payloads, whose fields the other columns repeat. -/
abbrev RcaReports := Lib.Table String (Checked RcaReportV1)

inductive RcaError where
  /-- `IdentityMismatchError`. -/
  | identityMismatch (detail : String)
  | uniqueViolation (constraint : String)
  | foreignKeyViolation (constraint : String)
  /-- `psycopg.DataError`: a text with U+0000. -/
  | dataError (table : String)
deriving DecidableEq, Repr

/-- Every text of the report, in whichever column or in the payload. -/
def RcaReportV1.texts (report : RcaReportV1) : List String :=
  [report.reportId, report.alertId, report.summary] ++
    report.observations.flatMap (fun observation => observation.claim :: observation.evidenceIds) ++
    report.uncertainty ++ report.nextChecks ++ report.evidenceIds ++ report.providerModel.toList

/-- Every text of the report can be stored. -/
def RcaReportV1.Storable (report : RcaReportV1) : Prop :=
  ∀ text ∈ report.texts, Lib.Storable text

instance RcaReportV1.decidableStorable (report : RcaReportV1) : Decidable report.Storable :=
  inferInstanceAs (Decidable (∀ text ∈ report.texts, Lib.Storable text))

namespace RcaReports

/-- `get_rca` of an alert and a bundle. -/
def getRca (reports : RcaReports) (alertId : String) (evidenceBundleSha256 : Sha256) :
    Option (Checked RcaReportV1) :=
  reports.values.find? fun row =>
    row.val.alertId = alertId ∧ row.val.evidenceBundleSha256 = evidenceBundleSha256

/-- `ORDER BY created_at DESC LIMIT 1`, among the reports of an alert. -/
def latest (reports : RcaReports) (alertId : String) : Option (Checked RcaReportV1) :=
  ((reports.values.filter fun row => row.val.alertId = alertId).insertionSort fun a b =>
    b.val.emittedAt.micros ≤ a.val.emittedAt.micros).head?

/-- `INSERT .. ON CONFLICT (alert_id, evidence_bundle_sha256) DO NOTHING`; `alerts` are
the alerts there are. The values are converted before any row is compared. -/
def insert (reports : RcaReports) (alerts : List UUID) (report : Checked RcaReportV1) :
    Except RcaError RcaReports :=
  if ¬ report.val.Storable then .error (.dataError "rca_reports")
  else if (reports.getRca report.val.alertId report.val.evidenceBundleSha256).isSome then .ok reports
  else if (reports.get? report.val.reportId).isSome then
    .error (.uniqueViolation "rca_reports_pkey")
  else if alerts.all fun alertId => alertId.str ≠ report.val.alertId then
    .error (.foreignKeyViolation "rca_reports_alert_id_fkey")
  else .ok (reports.insertNew report.val.reportId report)

/-- `save_rca`: the report is inserted, and the one then stored is read back. -/
def saveRca (reports : RcaReports) (alerts : List UUID) (report : Checked RcaReportV1) :
    Except RcaError (RcaReports × Checked RcaReportV1) := do
  let reports ← reports.insert alerts report
  match reports.getRca report.val.alertId report.val.evidenceBundleSha256 with
  | some existing =>
      if existing ≠ report then .error (.identityMismatch "Stored RCA report payload does not match")
      else return (reports, existing)
  | none => return (reports, report)

/-! ### What is stored -/

variable {reports reports' : RcaReports} {alerts : List UUID} {report stored : Checked RcaReportV1}

/-- The first report of an alert and a bundle is the one found from then on. -/
theorem getRca_insertNew (free : reports.get? report.val.reportId = none)
    (none : reports.getRca report.val.alertId report.val.evidenceBundleSha256 = none) :
    RcaReports.getRca (reports.insertNew report.val.reportId report) report.val.alertId
      report.val.evidenceBundleSha256 = some report := by
  unfold getRca at none ⊢
  rw [Lib.Table.insertNew_values free, List.find?_append, none]
  simp

/-- A report that is stored for its alert and bundle is saved again without change. -/
theorem saveRca_stored (storable : report.val.Storable)
    (found : reports.getRca report.val.alertId report.val.evidenceBundleSha256 = some report) :
    reports.saveRca alerts report = .ok (reports, report) := by
  unfold saveRca insert
  rw [if_neg (not_not.mpr storable), if_pos (by simp [found])]
  change (match reports.getRca _ _ with
    | some existing => _
    | none => _) = _
  rw [found]
  simp
  rfl

/-- A report with a text that cannot be stored is refused. -/
theorem saveRca_unstorable (unstorable : ¬ report.val.Storable) :
    ∃ error, reports.saveRca alerts report = .error error := by
  refine ⟨.dataError "rca_reports", ?_⟩
  unfold saveRca insert
  rw [if_pos unstorable]
  rfl

/-- Another one is in the way. -/
theorem saveRca_mismatch
    (found : reports.getRca report.val.alertId report.val.evidenceBundleSha256 = some stored)
    (other : stored ≠ report) :
    ∃ error, reports.saveRca alerts report = .error error := by
  by_cases storable : report.val.Storable
  · refine ⟨.identityMismatch "Stored RCA report payload does not match", ?_⟩
    unfold saveRca insert
    rw [if_neg (not_not.mpr storable), if_pos (by simp [found])]
    change (match reports.getRca _ _ with
      | some existing => _
      | none => _) = _
    rw [found]
    simp [other]
  · exact saveRca_unstorable storable

/-- The id of the report is not taken and its alert is known. -/
def Insertable (reports : RcaReports) (alerts : List UUID) (report : Checked RcaReportV1) : Prop :=
  reports.get? report.val.reportId = none ∧ ∃ alertId ∈ alerts, alertId.str = report.val.alertId

/-- With none stored, an insertable report is. -/
theorem saveRca_first (storable : report.val.Storable)
    (none : reports.getRca report.val.alertId report.val.evidenceBundleSha256 = none)
    (insertable : reports.Insertable alerts report) :
    reports.saveRca alerts report = .ok (reports.insertNew report.val.reportId report, report) := by
  obtain ⟨free, alertId, mem, same⟩ := insertable
  have inserted : reports.insert alerts report =
      .ok (reports.insertNew report.val.reportId report) := by
    unfold insert
    rw [if_neg (not_not.mpr storable), if_neg (by simp [none]), if_neg (by simp [free]), if_neg]
    intro unknown
    simpa [same] using List.all_eq_true.mp unknown alertId mem
  unfold saveRca
  rw [inserted]
  change (match RcaReports.getRca _ _ _ with
    | some existing => _
    | .none => _) = _
  rw [getRca_insertNew free none]
  simp
  rfl

/-- With none stored, any other is refused. -/
theorem saveRca_refused
    (none : reports.getRca report.val.alertId report.val.evidenceBundleSha256 = none)
    (blocked : ¬ reports.Insertable alerts report) :
    ∃ error, reports.saveRca alerts report = .error error := by
  by_cases storable : report.val.Storable
  case neg => exact saveRca_unstorable storable
  have refused : ∃ error, reports.insert alerts report = .error error := by
    unfold insert
    rw [if_neg (not_not.mpr storable), if_neg (by simp [none])]
    split
    · exact ⟨_, rfl⟩
    · rename_i free
      split
      · exact ⟨_, rfl⟩
      · rename_i known
        refine absurd ⟨by simpa using free, ?_⟩ blocked
        simpa using known
  obtain ⟨error, refused⟩ := refused
  refine ⟨error, ?_⟩
  unfold saveRca
  rw [refused]
  rfl

/-- A storable report is saved when none is stored for its alert and bundle, or it is. -/
theorem saveRca_isOk_iff : (reports.saveRca alerts report).isOk ↔ report.val.Storable ∧
    ((reports.getRca report.val.alertId report.val.evidenceBundleSha256 = none ∧
        reports.Insertable alerts report) ∨
      reports.getRca report.val.alertId report.val.evidenceBundleSha256 = some report) := by
  by_cases storable : report.val.Storable
  case neg =>
    obtain ⟨error, refused⟩ : ∃ error, reports.saveRca alerts report = .error error :=
      saveRca_unstorable storable
    simp [refused, storable, Except.isOk, Except.toBool]
  cases found : reports.getRca report.val.alertId report.val.evidenceBundleSha256 with
  | none =>
      by_cases insertable : reports.Insertable alerts report
      · simp [saveRca_first storable found insertable, insertable, storable, Except.isOk,
          Except.toBool]
      · obtain ⟨error, refused⟩ := saveRca_refused found insertable
        simp [refused, insertable, Except.isOk, Except.toBool]
  | some stored =>
      by_cases same : stored = report
      · subst same
        simp [saveRca_stored storable found, storable, Except.isOk, Except.toBool]
      · obtain ⟨error, refused⟩ : ∃ error, reports.saveRca alerts report = .error error :=
          saveRca_mismatch found same
        simp [refused, same, Except.isOk, Except.toBool]

/-- What `save_rca` returns is then stored, and what was stored stays so. -/
theorem saveRca_eq_ok (saved : reports.saveRca alerts report = .ok (reports', stored)) :
    reports'.getRca report.val.alertId report.val.evidenceBundleSha256 = some stored ∧
      ∀ alertId sha256 kept, reports.getRca alertId sha256 = some kept →
        reports'.getRca alertId sha256 = some kept := by
  have ok : (reports.saveRca alerts report).isOk := by rw [saved]; rfl
  obtain ⟨storable, ⟨none, insertable⟩ | found⟩ := saveRca_isOk_iff.mp ok
  · rw [saveRca_first storable none insertable] at saved
    cases saved
    refine ⟨getRca_insertNew insertable.1 none, fun alertId sha256 kept found => ?_⟩
    unfold getRca at found ⊢
    rw [Lib.Table.insertNew_values insertable.1, List.find?_append, found]
    rfl
  · rw [saveRca_stored storable found] at saved
    cases saved
    exact ⟨found, fun _ _ _ kept => kept⟩

end RcaReports

end IndustrialReliability
