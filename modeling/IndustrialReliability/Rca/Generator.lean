import IndustrialReliability.Lib.Results
import IndustrialReliability.Rca.Evidence

/-!
Root-cause reports from an evidence bundle.

`generate` asks the provider for a draft that cites the items of the bundle only. When
the provider raises, answers nothing, cites anything else or drafts what is no report,
and when no provider is configured, `evidenceOnlyReport` says so in its place.
-/

namespace IndustrialReliability

variable {F : Type}

section Schema

variable {X : Type} [FrozenMessage X]

/-- `construct`, with what the schema checked. -/
def constructChecked (x : X) : Except ValidationError (Checked X) :=
  match made : construct x with
  | .ok y => .ok ⟨y, by
      obtain ⟨valid, rfl⟩ := construct_eq_ok_iff.mp made
      exact valid⟩
  | .error error => .error error

theorem constructChecked_of_valid {x : X} (valid : Valid x) :
    constructChecked x = .ok ⟨x, valid⟩ := by
  unfold constructChecked
  split
  · rename_i y made
    obtain ⟨-, rfl⟩ := construct_eq_ok_iff.mp made
    rfl
  · rename_i error made
    rw [construct_of_valid valid] at made
    cases made

theorem constructChecked_eq_ok {x : X} {made : Checked X} (ok : constructChecked x = .ok made) :
    made.val = x := by
  unfold constructChecked at ok
  split at ok
  · rename_i y constructed
    cases ok
    exact (construct_eq_ok_iff.mp constructed).2
  · cases ok

/-- What the schema accepts is what is valid. -/
theorem constructChecked_isOk_iff {x : X} : (constructChecked x).isOk ↔ Valid x := by
  constructor
  · intro ok
    cases made : constructChecked x with
    | ok y => exact constructChecked_eq_ok made ▸ y.property
    | error error => rw [made] at ok; cases ok
  · intro valid
    rw [constructChecked_of_valid valid]
    rfl

end Schema

/-- What `uuid4()` and the clock say while a report is built. -/
structure ReportStamp where
  messageId : UUID
  sourceTimestamp : Int
  emittedAt : Instant
  /-- The one whose first twelve digits name the report. -/
  reportUuid : UUID
deriving DecidableEq, Repr

/-- `uuid4().hex[:12]`. -/
def ReportStamp.digits (stamp : ReportStamp) : String :=
  String.ofList ((Lib.JsonText.hexDigits 32 stamp.reportUuid).take 12)

def EvidenceBundleV1.evidenceIds (bundle : EvidenceBundleV1 F) : List String :=
  bundle.items.map (·.evidenceId)

/-! ### Without a provider -/

/-- The first observation of a report that only shows evidence. -/
def scoreClaim (reason : String) : String :=
  "Persisted score and threshold evidence recorded during anomaly window (" ++ reason ++ ")."

/-- The second. -/
def qualityClaim : String := "Data quality and system health telemetry recorded at emission."

/-- `item_1_id`. -/
def EvidenceBundleV1.scoreItemId (bundle : EvidenceBundleV1 F) : String :=
  match bundle.items with
  | item :: _ => item.evidenceId
  | [] => "evidence-score-0"

/-- `item_2_id`. -/
def EvidenceBundleV1.qualityItemId (bundle : EvidenceBundleV1 F) : String :=
  match bundle.items with
  | _ :: item :: _ => item.evidenceId
  | _ => bundle.scoreItemId

/-- The fields of a report that only shows evidence. -/
def unavailableReport (stamp : ReportStamp) (bundle : EvidenceBundleV1 F) (reason : String)
    (observations : List RcaObservationV1) : RcaReportV1 where
  messageId := stamp.messageId
  replaySessionId := bundle.replaySessionId
  sourceDatasetSha256 := bundle.sourceDatasetSha256
  contractSha256 := bundle.contractSha256
  sourceTimestamp := stamp.sourceTimestamp
  emittedAt := stamp.emittedAt
  reportId := "rca-fallback-" ++ stamp.digits
  alertId := bundle.alertId
  status := .unavailable
  summary := "Provider RCA unavailable; showing persisted evidence only."
  observations
  uncertainty := [
    "Anomaly evidence does not prove a mechanical root cause.",
    "Provider execution status: " ++ reason ++ "."]
  nextChecks := ["Verify physical machine operational indicators and calibration status."]
  evidenceIds := bundle.evidenceIds
  evidenceBundleSha256 := bundle.bundleSha256
  providerModel := none

/-- `evidence_only_report`. -/
def evidenceOnlyReport (stamp : ReportStamp) (bundle : EvidenceBundleV1 F) (reason : String) :
    Except ValidationError (Checked RcaReportV1) := do
  let scores ← constructChecked ⟨scoreClaim reason, [bundle.scoreItemId]⟩
  let quality ← constructChecked ⟨qualityClaim, [bundle.qualityItemId]⟩
  constructChecked (unavailableReport stamp bundle reason [scores.val, quality.val])

/-! ### With one -/

structure ProviderRcaDraft where
  summary : String
  observations : List RcaObservationV1
  uncertainty : List String
  nextChecks : List String
deriving DecidableEq, Repr

instance : FrozenMessage ProviderRcaDraft where
  checks draft :=
    [(decide (1 ≤ draft.summary.length), "summary: String should have at least 1 character"),
     (decide (draft.summary.length ≤ 1000),
        "summary: String should have at most 1000 characters")] ++
    draft.observations.flatMap FrozenMessage.checks ++
    [(decide (draft.observations.length ≤ 12),
        "observations: Tuple should have at most 12 items"),
     (decide (1 ≤ draft.uncertainty.length), "uncertainty: Tuple should have at least 1 item"),
     (decide (draft.uncertainty.length ≤ 8), "uncertainty: Tuple should have at most 8 items"),
     (decide (draft.nextChecks.length ≤ 8), "next_checks: Tuple should have at most 8 items")]

/-- What the client's call does. -/
inductive ProviderResponse where
  /-- It raises an exception of this class. -/
  | raised (className : String)
  /-- It returns, with the parsed output if there is one. -/
  | parsed (output : Option (Checked ProviderRcaDraft))

/-- An exception by its class and text. -/
structure PyException where
  className : String
  detail : String
deriving DecidableEq, Repr

/-- `generate_draft`. -/
def generateDraft (response : ProviderResponse) (allowedIds : List String) :
    Except PyException ProviderRcaDraft :=
  match response with
  | .raised className => .error ⟨className, ""⟩
  | .parsed none => .error ⟨"ValueError", "Structured output missing from provider response"⟩
  | .parsed (some draft) => do
      draft.val.observations.forM fun observation => do
        if observation.evidenceIds.isEmpty then
          .error ⟨"ValueError", "Observation has empty evidence citations"⟩
        observation.evidenceIds.forM fun id => do
          if id ∉ allowedIds then
            .error ⟨"ValueError", "Unknown evidence citation '" ++ id ++ "'"⟩
      return draft.val

/-- The fields of the report of a draft. -/
def completeReport (model : String) (stamp : ReportStamp) (bundle : EvidenceBundleV1 F)
    (draft : ProviderRcaDraft) : RcaReportV1 where
  messageId := stamp.messageId
  replaySessionId := bundle.replaySessionId
  sourceDatasetSha256 := bundle.sourceDatasetSha256
  contractSha256 := bundle.contractSha256
  sourceTimestamp := stamp.sourceTimestamp
  emittedAt := stamp.emittedAt
  reportId := "rca-" ++ stamp.digits
  alertId := bundle.alertId
  status := .complete
  summary := draft.summary
  observations := draft.observations
  uncertainty := draft.uncertainty
  nextChecks := draft.nextChecks
  evidenceIds := bundle.evidenceIds
  evidenceBundleSha256 := bundle.bundleSha256
  providerModel := some model

/-- A configured generator and what its client's call does. -/
structure Provider where
  model : String
  response : ProviderResponse

/-- The body of the `try` of `generate`. -/
def Provider.draftedReport (provider : Provider) (stamp : ReportStamp)
    (bundle : EvidenceBundleV1 F) : Except PyException (Checked RcaReportV1) := do
  let draft ← generateDraft provider.response bundle.evidenceIds
  match constructChecked (completeReport provider.model stamp bundle draft) with
  | .ok report => return report
  | .error error => .error ⟨"ValidationError", error.detail⟩

/-- `OpenAiRcaGenerator.generate`; `retry` stamps the report that only shows evidence. -/
def Provider.generate (provider : Provider) (stamp retry : ReportStamp)
    (bundle : EvidenceBundleV1 F) : Except ValidationError (Checked RcaReportV1) :=
  match provider.draftedReport stamp bundle with
  | .ok report => .ok report
  | .error raised => evidenceOnlyReport retry bundle raised.className

/-- The report of a request that has found none. -/
def generateReport (provider : Option Provider) (stamp retry : ReportStamp)
    (bundle : EvidenceBundleV1 F) : Except ValidationError (Checked RcaReportV1) :=
  match provider with
  | none => evidenceOnlyReport retry bundle "provider_not_configured"
  | some provider => provider.generate stamp retry bundle

/-! ### When there is a report -/

section Reports

variable {bundle : EvidenceBundleV1 F} {stamp retry : ReportStamp} {reason : String}
  {provider : Provider} {report : Checked RcaReportV1} {raised : PyException}

/-- The report is about the alert of the bundle, carries its hash and cites its items. -/
structure RcaReportV1.IsAbout (report : RcaReportV1) (bundle : EvidenceBundleV1 F) : Prop where
  alertId : report.alertId = bundle.alertId
  evidenceBundleSha256 : report.evidenceBundleSha256 = bundle.bundleSha256
  evidenceIds : report.evidenceIds = bundle.evidenceIds

theorem evidenceOnlyReport_isAbout
    (made : evidenceOnlyReport stamp bundle reason = .ok report) : report.val.IsAbout bundle := by
  obtain ⟨scores, -, made⟩ := Lib.bind_eq_ok_iff.mp made
  obtain ⟨quality, -, made⟩ := Lib.bind_eq_ok_iff.mp made
  rw [constructChecked_eq_ok made]
  exact ⟨rfl, rfl, rfl⟩

theorem evidenceOnlyReport_messageId
    (made : evidenceOnlyReport stamp bundle reason = .ok report) :
    report.val.messageId = stamp.messageId := by
  obtain ⟨scores, -, made⟩ := Lib.bind_eq_ok_iff.mp made
  obtain ⟨quality, -, made⟩ := Lib.bind_eq_ok_iff.mp made
  rw [constructChecked_eq_ok made]
  rfl

theorem Provider.draftedReport_isAbout
    (made : provider.draftedReport stamp bundle = .ok report) : report.val.IsAbout bundle := by
  obtain ⟨draft, -, made⟩ := Lib.bind_eq_ok_iff.mp made
  split at made
  · rename_i constructed
    cases made
    rw [constructChecked_eq_ok constructed]
    exact ⟨rfl, rfl, rfl⟩
  · cases made

/-- Whatever the provider answers, the report is about the bundle. -/
theorem generateReport_isAbout {provider : Option Provider}
    (made : generateReport provider stamp retry bundle = .ok report) :
    report.val.IsAbout bundle := by
  cases provider with
  | none => exact evidenceOnlyReport_isAbout made
  | some provider =>
      unfold generateReport Provider.generate at made
      dsimp only at made
      split at made
      · rename_i drafted
        cases made
        exact Provider.draftedReport_isAbout drafted
      · exact evidenceOnlyReport_isAbout made

/-- A bundle of as many items as a report can cite. -/
structure EvidenceBundleV1.Citable (bundle : EvidenceBundleV1 F) : Prop where
  alertId : 1 ≤ bundle.alertId.length
  several : 2 ≤ bundle.items.length
  bounded : bundle.items.length ≤ 64

theorem RcaReportV1.IsAbout.distinct (about : report.val.IsAbout bundle) :
    bundle.evidenceIds.Nodup := by
  have checked := report.property (decide report.val.evidenceIds.Nodup,
    "evidence_ids must be unique") (by simp [FrozenMessage.checks])
  exact about.evidenceIds ▸ of_decide_eq_true checked

theorem valid_observation {claim : String} (id : String) (nonempty : 1 ≤ claim.length)
    (bounded : claim.length ≤ 500) : Valid (⟨claim, [id]⟩ : RcaObservationV1) := by
  simp [Valid, FrozenMessage.checks, nonempty, bounded]

theorem scoreClaim_nonempty (reason : String) : 1 ≤ (scoreClaim reason).length := by
  unfold scoreClaim
  rw [String.length_append]
  exact Nat.le_trans (by decide : 1 ≤ ").".length) (Nat.le_add_left _ _)

theorem EvidenceBundleV1.Citable.itemIds (citable : bundle.Citable) :
    bundle.scoreItemId ∈ bundle.evidenceIds ∧ bundle.qualityItemId ∈ bundle.evidenceIds := by
  have several := citable.several
  unfold scoreItemId qualityItemId evidenceIds
  match items : bundle.items with
  | [] => simp [items] at several
  | [_] => simp [items] at several
  | first :: second :: rest => simp

theorem valid_unavailableReport (stamp : ReportStamp) (reason : String)
    (citable : bundle.Citable) (distinct : bundle.evidenceIds.Nodup) (scores quality : String) :
    Valid (unavailableReport stamp bundle reason
      [⟨scores, [bundle.scoreItemId]⟩, ⟨quality, [bundle.qualityItemId]⟩]) := by
  obtain ⟨first, second⟩ := citable.itemIds
  have nonempty := citable.several
  have bounded := citable.bounded
  have items : bundle.evidenceIds.length = bundle.items.length := List.length_map _
  have named : 1 ≤ "rca-fallback-".length := by decide
  simp [Valid, FrozenMessage.checks, unavailableReport, citable.alertId, distinct, first, second,
    items, bounded]
  exact ⟨by omega, decide_eq_true (by decide +kernel), decide_eq_true (by decide +kernel),
    by omega⟩

/-- The evidence alone makes a report when its items have distinct ids and the reason
fits into a claim. -/
theorem evidenceOnlyReport_isOk_iff (citable : bundle.Citable) :
    (evidenceOnlyReport stamp bundle reason).isOk ↔
      bundle.evidenceIds.Nodup ∧ (scoreClaim reason).length ≤ 500 := by
  constructor
  · intro ok
    cases made : evidenceOnlyReport stamp bundle reason with
    | error error =>
        rw [made] at ok
        cases ok
    | ok report =>
        refine ⟨(evidenceOnlyReport_isAbout made).distinct, ?_⟩
        obtain ⟨scores, first, -⟩ := Lib.bind_eq_ok_iff.mp made
        have bounded := scores.property (decide (scores.val.claim.length ≤ 500),
          "claim: String should have at most 500 characters") (by simp [FrozenMessage.checks])
        rw [constructChecked_eq_ok first] at bounded
        exact of_decide_eq_true bounded
  · rintro ⟨distinct, bounded⟩
    have scores := valid_observation bundle.scoreItemId (scoreClaim_nonempty reason) bounded
    have quality : Valid (⟨qualityClaim, [bundle.qualityItemId]⟩ : RcaObservationV1) :=
      valid_observation _ (by decide +kernel) (by decide +kernel)
    have fields := valid_unavailableReport stamp reason citable distinct (scoreClaim reason)
      qualityClaim
    have made : evidenceOnlyReport stamp bundle reason = .ok ⟨_, fields⟩ :=
      Lib.bind_eq_ok_iff.mpr ⟨_, constructChecked_of_valid scores,
        Lib.bind_eq_ok_iff.mpr ⟨_, constructChecked_of_valid quality,
          constructChecked_of_valid fields⟩⟩
    rw [made]
    rfl

/-! ### What the provider can do to it -/

/-- What `generate_draft` raises is what the client raised or a `ValueError`. -/
theorem generateDraft_raised {response : ProviderResponse} {allowedIds : List String}
    (failed : generateDraft response allowedIds = .error raised) :
    response = .raised raised.className ∨ raised.className = "ValueError" := by
  match response with
  | .raised className =>
      cases failed
      exact .inl rfl
  | .parsed none =>
      cases failed
      exact .inr rfl
  | .parsed (some draft) =>
      refine .inr ?_
      rcases Lib.bind_eq_error_iff.mp failed with failed | ⟨_, -, failed⟩
      · obtain ⟨observation, -, failed⟩ := Lib.exists_of_forM_eq_error failed
        split at failed
        · cases failed
          rfl
        · obtain ⟨id, -, failed⟩ := Lib.exists_of_forM_eq_error failed
          split at failed
          · cases failed
            rfl
          · cases failed
      · cases failed

/-- The name of the exception that the provider raises, if it does, fits into a claim. -/
def ProviderResponse.Claimable : ProviderResponse → Prop
  | .raised className => (scoreClaim className).length ≤ 500
  | .parsed _ => True

theorem Provider.draftedReport_claimable
    (made : provider.draftedReport stamp bundle = .ok report) : provider.response.Claimable := by
  obtain ⟨draft, drafted, -⟩ := Lib.bind_eq_ok_iff.mp made
  match response : provider.response with
  | .raised className =>
      rw [response] at drafted
      cases drafted
  | .parsed output => trivial

theorem Provider.draftedReport_raised
    (failed : provider.draftedReport stamp bundle = .error raised) :
    (scoreClaim raised.className).length ≤ 500 ↔ provider.response.Claimable := by
  match response : provider.response with
  | .raised className =>
      unfold draftedReport at failed
      rw [response] at failed
      cases failed
      rfl
  | .parsed output =>
      refine ⟨fun _ => trivial, fun _ => ?_⟩
      have named : raised.className = "ValueError" ∨ raised.className = "ValidationError" := by
        rcases Lib.bind_eq_error_iff.mp failed with undrafted | ⟨draft, -, failed⟩
        · rcases generateDraft_raised undrafted with other | named
          · rw [response] at other
            cases other
          · exact .inl named
        · split at failed
          · cases failed
          · cases failed
            exact .inr rfl
      rcases named with named | named
      · rw [named]
        decide +kernel
      · rw [named]
        decide +kernel

/-- There is a report exactly when the items of the bundle have distinct ids and what the
provider raises has a name that fits. -/
theorem generateReport_isOk_iff (stamp retry : ReportStamp) (provider : Option Provider)
    (citable : bundle.Citable) :
    (generateReport provider stamp retry bundle).isOk ↔
      bundle.evidenceIds.Nodup ∧ ∀ configured ∈ provider, configured.response.Claimable := by
  cases provider with
  | none =>
      unfold generateReport
      rw [evidenceOnlyReport_isOk_iff citable]
      refine and_congr_right fun _ => ⟨fun _ => nofun, fun _ => ?_⟩
      decide +kernel
  | some provider =>
      unfold generateReport Provider.generate
      simp only [Option.mem_some_iff, forall_eq']
      cases drafted : provider.draftedReport stamp bundle with
      | ok report =>
          exact ⟨fun _ => ⟨(Provider.draftedReport_isAbout drafted).distinct,
            Provider.draftedReport_claimable drafted⟩, fun _ => rfl⟩
      | error raised =>
          rw [← Provider.draftedReport_raised drafted]
          exact evidenceOnlyReport_isOk_iff citable

theorem construct_citable {raw : EvidenceBundleV1 F} (made : construct raw = .ok bundle)
    {alertId : UUID} (about : raw.alertId = alertId.str) (items : raw.items.length = 4) :
    bundle.alertId = alertId.str ∧ bundle.Citable := by
  obtain ⟨valid, rfl⟩ := construct_eq_ok_iff.mp made
  have named := valid (decide (1 ≤ bundle.alertId.length),
    "alert_id: String should have at least 1 character") List.mem_cons_self
  exact ⟨about, of_decide_eq_true named, by omega, by omega⟩

/-- A gathered bundle is about its alert and has four items. -/
theorem gatherEvidence_citable [PyFloat F] [Sha256Digest] {manifest : Option (ChampionManifest F)}
    {store : RuntimeStore F} {reports : RcaReports} {alertId : UUID}
    (gathered : gatherEvidence manifest store reports alertId = .ok bundle) :
    bundle.alertId = alertId.str ∧ bundle.Citable := by
  unfold gatherEvidence at gathered
  split at gathered
  · cases gathered
  · unfold bundleOf at gathered
    simp only [Lib.bind_eq_ok_iff] at gathered
    obtain ⟨item1, -, item2, -, item3, -, item4, -, gathered⟩ := gathered
    split at gathered
    · rename_i made
      obtain rfl := Lib.pure_eq_ok_iff.mp gathered
      exact construct_citable made rfl rfl
    · cases gathered

end Reports

end IndustrialReliability
