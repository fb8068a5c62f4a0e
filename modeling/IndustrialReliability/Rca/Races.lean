import IndustrialReliability.Lib.Runs
import IndustrialReliability.Rca.Generator
import IndustrialReliability.Rca.Histories

/-!
Requests for the root-cause report of one alert that run at the same time.

A request reads the alert, gathers its evidence and looks up the report stored for the
alert and the bundle; when it finds none it generates one and saves it. Each is a step of
its own, and the steps of other requests come in between. `saveRca` compares what is
stored with what the request has generated, so a request that loses the race between
its lookup and its save is refused the report that won.
-/

namespace IndustrialReliability

variable {F : Type}

inductive RcaResponse where
  /-- 200. -/
  | report (report : Checked RcaReportV1)
  /-- 404, `ALERT_NOT_FOUND`. -/
  | alertNotFound
  /-- 503, `RCA_PERSISTENCE_FAILED`. -/
  | persistenceFailed
  /-- 500: an exception that the endpoint does not catch. -/
  | serverError
deriving DecidableEq

/-- How far `generate_alert_rca` has come. -/
inductive RcaRequest (F : Type) where
  | received
  | found
  | gathered (bundle : EvidenceBundleV1 F)
  | missed (bundle : EvidenceBundleV1 F)
  | generated (report : Checked RcaReportV1)
  | answered (response : RcaResponse)

/-- The operations a request has before it at most. -/
def RcaRequest.remaining : RcaRequest F → Nat
  | .received => 5
  | .found => 4
  | .gathered _ => 3
  | .missed _ => 2
  | .generated _ => 1
  | .answered _ => 0

/-- Answered with an error. -/
def RcaRequest.Failed : RcaRequest F → Prop
  | .answered (.report _) => False
  | .answered _ => True
  | _ => False

/-- The next thing a request does, with what it reads from outside the table of reports. -/
inductive RcaOperation (F : Type) where
  | getAlertDetail (store : RuntimeStore F)
  | gatherEvidence (manifest : Option (ChampionManifest F)) (store : RuntimeStore F)
  | getRca
  | generate (provider : Option Provider) (stamp retry : ReportStamp)
  | saveRca (store : RuntimeStore F)

structure RcaEndpoint (F : Type) where
  requests : Nat → RcaRequest F
  reports : RcaReports

namespace RcaEndpoint

def initial (reports : RcaReports) : RcaEndpoint F := ⟨fun _ => .received, reports⟩

section Steps

variable [PyFloat F] [Sha256Digest]

/-- What an operation makes of a request and of the reports. -/
def react (alertId : UUID) (reports : RcaReports) :
    RcaRequest F → RcaOperation F → Option (RcaRequest F × RcaReports)
  | .received, .getAlertDetail store =>
      match store.getAlertDetail reports alertId with
      | some _ => some (.found, reports)
      | none => some (.answered .alertNotFound, reports)
  | .found, .gatherEvidence manifest store =>
      match IndustrialReliability.gatherEvidence manifest store reports alertId with
      | .ok bundle => some (.gathered bundle, reports)
      | .error (.alertNotFound _) => some (.answered .alertNotFound, reports)
      | .error _ => some (.answered .serverError, reports)
  | .gathered bundle, .getRca =>
      match reports.getRca alertId.str bundle.bundleSha256 with
      | some existing => some (.answered (.report existing), reports)
      | none => some (.missed bundle, reports)
  | .missed bundle, .generate provider stamp retry =>
      match generateReport provider stamp retry bundle with
      | .ok report => some (.generated report, reports)
      | .error _ => some (.answered .serverError, reports)
  | .generated report, .saveRca store =>
      match reports.saveRca store.alerts.keys report with
      | .ok (reports, stored) => some (.answered (.report stored), reports)
      | .error _ => some (.answered .persistenceFailed, reports)
  | _, _ => none

/-- A step of one of the requests. -/
def step (alertId : UUID) (s : RcaEndpoint F) (a : Nat × RcaOperation F) :
    Option (RcaEndpoint F) :=
  (react alertId s.reports (s.requests a.1) a.2).map fun (request, reports) =>
    ⟨Function.update s.requests a.1 request, reports⟩

end Steps

/-! ### Every request is answered -/

variable [PyFloat F] [Sha256Digest] {alertId : UUID} {bundle : EvidenceBundleV1 F}
  {reports reports' : RcaReports} {request request' : RcaRequest F} {op : RcaOperation F}

theorem react_remaining (reacted : react alertId reports request op = some (request', reports')) :
    request'.remaining < request.remaining := by
  unfold react at reacted
  split at reacted
  case h_6 => cases reacted
  all_goals
    split at reacted <;> cases reacted <;> simp [RcaRequest.remaining]

/-- A request that is not answered can go on. -/
theorem exists_react (pending : 0 < request.remaining) (store : RuntimeStore F) :
    ∃ op next, react alertId reports request op = some next := by
  cases request with
  | received =>
      refine ⟨.getAlertDetail store, ?_⟩
      unfold react
      dsimp only
      split <;> exact ⟨_, rfl⟩
  | found =>
      refine ⟨.gatherEvidence none store, ?_⟩
      unfold react
      dsimp only
      split <;> exact ⟨_, rfl⟩
  | gathered bundle =>
      refine ⟨.getRca, ?_⟩
      unfold react
      dsimp only
      split <;> exact ⟨_, rfl⟩
  | missed bundle =>
      refine ⟨.generate none ⟨0, 0, ⟨0⟩, 0⟩ ⟨0, 0, ⟨0⟩, 0⟩, ?_⟩
      unfold react
      dsimp only
      split <;> exact ⟨_, rfl⟩
  | generated report =>
      refine ⟨.saveRca store, ?_⟩
      unfold react
      dsimp only
      split <;> exact ⟨_, rfl⟩
  | answered response => cases pending

/-! ### While the evidence does not change -/

/-- The alert is known and its evidence is this bundle whenever it is read. -/
def Steady (alertId : UUID) (bundle : EvidenceBundleV1 F) (reports : RcaReports) :
    RcaOperation F → Prop
  | .getAlertDetail store => (store.alerts.get? alertId).isSome
  | .gatherEvidence manifest store =>
      IndustrialReliability.gatherEvidence manifest store reports alertId = .ok bundle
  | .getRca => True
  | .generate _ _ _ => True
  | .saveRca store => (store.alerts.get? alertId).isSome

/-- What a request has of the bundle and of the reports. -/
def Consistent (alertId : UUID) (bundle : EvidenceBundleV1 F) (reports : RcaReports) :
    RcaRequest F → Prop
  | .received => True
  | .found => True
  | .gathered its => its = bundle ∧ its.alertId = alertId.str ∧ its.Citable
  | .missed its => its = bundle ∧ its.alertId = alertId.str ∧ its.Citable
  | .generated report =>
      report.val.alertId = alertId.str ∧ report.val.evidenceBundleSha256 = bundle.bundleSha256
  | .answered (.report report) =>
      reports.getRca alertId.str bundle.bundleSha256 = some report
  | .answered _ => True

/-- No report has come in between: when a request generates one, the ids it cites are
distinct and what the provider raises can be named; when it saves it, its texts can be
stored, and none is stored for its alert and bundle and its id is not taken, or the one
stored is the very same. -/
def Uncontested (reports : RcaReports) : RcaRequest F → RcaOperation F → Prop
  | .missed bundle, .generate provider _ _ =>
      bundle.evidenceIds.Nodup ∧ ∀ configured ∈ provider, configured.response.Claimable
  | .generated report, .saveRca _ => report.val.Storable ∧
      ((reports.getRca report.val.alertId report.val.evidenceBundleSha256 = none ∧
          reports.get? report.val.reportId = none) ∨
        reports.getRca report.val.alertId report.val.evidenceBundleSha256 = some report)
  | _, _ => True

/-- Whoever was answered was answered with the report stored for the alert and the
bundle. -/
def Idempotent (alertId : UUID) (bundle : EvidenceBundleV1 F) (s : RcaEndpoint F) : Prop :=
  ∀ i response, s.requests i = .answered response → ∃ report,
    s.reports.getRca alertId.str bundle.bundleSha256 = some report ∧ response = .report report

/-! ### What a step keeps -/

/-- Reports are only added. -/
theorem react_reports (reacted : react alertId reports request op = some (request', reports'))
    {id : String} {sha256 : Sha256} {report : Checked RcaReportV1}
    (found : reports.getRca id sha256 = some report) : reports'.getRca id sha256 = some report := by
  unfold react at reacted
  split at reacted
  case h_5 =>
    split at reacted
    · rename_i saved
      cases reacted
      exact (RcaReports.saveRca_eq_ok saved).2 _ _ _ found
    · cases reacted
      exact found
  case h_6 => cases reacted
  all_goals
    split at reacted <;> cases reacted <;> exact found

omit [PyFloat F] [Sha256Digest] in
theorem Consistent.mono (consistent : Consistent alertId bundle reports request)
    (kept : ∀ id sha256 report, reports.getRca id sha256 = some report →
      reports'.getRca id sha256 = some report) : Consistent alertId bundle reports' request := by
  match request with
  | .answered (.report report) => exact kept _ _ _ consistent
  | .received | .found | .gathered _ | .missed _ | .generated _ => exact consistent
  | .answered .alertNotFound | .answered .persistenceFailed | .answered .serverError => trivial

omit [PyFloat F] [Sha256Digest] in
theorem getAlertDetail_isSome (reports : RcaReports) {store : RuntimeStore F}
    (known : (store.alerts.get? alertId).isSome) :
    ∃ detail, store.getAlertDetail reports alertId = some detail := by
  obtain ⟨row, known⟩ := Option.isSome_iff_exists.mp known
  unfold RuntimeStore.getAlertDetail
  rw [known]
  exact ⟨_, rfl⟩

omit [PyFloat F] [Sha256Digest] in
/-- The save of a report of a known alert succeeds exactly when it is not contested. -/
theorem save_isOk_iff (reports : RcaReports) {store : RuntimeStore F} {report : Checked RcaReportV1}
    (known : (store.alerts.get? alertId).isSome) (about : report.val.alertId = alertId.str) :
    (reports.saveRca store.alerts.keys report).isOk ↔
      Uncontested reports (.generated report) (.saveRca store) := by
  have mem := Lib.Table.isSome_get?_iff.mp known
  have insertable : reports.Insertable store.alerts.keys report ↔
      reports.get? report.val.reportId = none :=
    ⟨And.left, fun free => ⟨free, alertId, mem, about.symm⟩⟩
  rw [RcaReports.saveRca_isOk_iff, insertable]
  rfl

/-- A request stays consistent, and it fails exactly when it is contested. -/
theorem react_settles (steady : Steady alertId bundle reports op)
    (consistent : Consistent alertId bundle reports request)
    (reacted : react alertId reports request op = some (request', reports')) :
    Consistent alertId bundle reports' request' ∧
      (request'.Failed ↔ ¬ Uncontested reports request op) := by
  cases request with
  | received =>
      cases op with
      | getAlertDetail store =>
          obtain ⟨detail, read⟩ := getAlertDetail_isSome reports steady
          simp only [react, read] at reacted
          cases reacted
          exact ⟨trivial, nofun, fun contested => contested trivial⟩
      | _ => cases reacted
  | found =>
      cases op with
      | gatherEvidence manifest store =>
          simp only [Steady] at steady
          simp only [react, steady] at reacted
          cases reacted
          exact ⟨⟨rfl, gatherEvidence_citable steady⟩, nofun, fun contested => contested trivial⟩
      | _ => cases reacted
  | gathered its =>
      cases op with
      | getRca =>
          obtain ⟨rfl, about, citable⟩ := consistent
          simp only [react] at reacted
          split at reacted
          · rename_i existing found
            cases reacted
            exact ⟨found, nofun, fun contested => contested trivial⟩
          · cases reacted
            exact ⟨⟨rfl, about, citable⟩, nofun, fun contested => contested trivial⟩
      | _ => cases reacted
  | missed its =>
      cases op with
      | generate provider stamp retry =>
          obtain ⟨rfl, about, citable⟩ := consistent
          have ok := generateReport_isOk_iff stamp retry provider citable
          simp only [react] at reacted
          split at reacted
          · rename_i report made
            cases reacted
            rw [made] at ok
            have its := generateReport_isAbout made
            exact ⟨⟨its.alertId.trans about, its.evidenceBundleSha256⟩, nofun,
              fun contested => contested (ok.mp rfl)⟩
          · rename_i error made
            cases reacted
            rw [made] at ok
            refine ⟨trivial, fun _ uncontested => ?_, fun _ => trivial⟩
            cases ok.mpr uncontested
      | _ => cases reacted
  | generated report =>
      cases op with
      | saveRca store =>
          obtain ⟨about, hashed⟩ := consistent
          have ok := save_isOk_iff reports steady about
          simp only [react] at reacted
          split at reacted
          · rename_i stored saved
            cases reacted
            rw [saved] at ok
            have found := (RcaReports.saveRca_eq_ok saved).1
            rw [about, hashed] at found
            exact ⟨found, nofun, fun contested => contested (ok.mp rfl)⟩
          · rename_i refused
            cases reacted
            rw [refused] at ok
            refine ⟨trivial, fun _ uncontested => ?_, fun _ => trivial⟩
            cases ok.mpr uncontested
      | _ => cases reacted
  | answered response => cases op <;> cases reacted

/-! ### Every interleaving -/

section Runs

variable {s s' : RcaEndpoint F} {a : Nat × RcaOperation F}

omit [PyFloat F] [Sha256Digest] in
theorem idempotent_iff_none_failed
    (consistent : ∀ i, Consistent alertId bundle s.reports (s.requests i)) :
    Idempotent alertId bundle s ↔ ∀ i, ¬ (s.requests i).Failed := by
  constructor
  · intro idempotent i failed
    cases request : s.requests i with
    | answered response =>
        obtain ⟨report, -, rfl⟩ := idempotent i response request
        rw [request] at failed
        exact failed
    | _ =>
        rw [request] at failed
        exact failed
  · intro none i response answered
    have here := consistent i
    have fine := none i
    rw [answered] at here fine
    cases response with
    | report report => exact ⟨report, here, rfl⟩
    | _ => exact absurd trivial fine

/-- A step is one operation of one request. -/
theorem step_cases (stepped : step alertId s a = some s') : ∃ request,
    react alertId s.reports (s.requests a.1) a.2 = some (request, s'.reports) ∧
      s'.requests = Function.update s.requests a.1 request := by
  obtain ⟨⟨request, reports⟩, reacted, rfl⟩ := Option.map_eq_some_iff.mp stepped
  exact ⟨request, reacted, rfl⟩

theorem step_consistent (steady : Steady alertId bundle s.reports a.2)
    (consistent : ∀ i, Consistent alertId bundle s.reports (s.requests i))
    (stepped : step alertId s a = some s') (i : Nat) :
    Consistent alertId bundle s'.reports (s'.requests i) := by
  obtain ⟨request, reacted, written⟩ := step_cases stepped
  rw [written]
  by_cases mine : i = a.1
  · subst mine
    rw [Function.update_self]
    exact (react_settles steady (consistent a.1) reacted).1
  · rw [Function.update_of_ne mine]
    exact (consistent i).mono fun _ _ _ => react_reports reacted

/-- After a step some request has failed if one had before or the step was contested. -/
theorem step_failed_iff (steady : Steady alertId bundle s.reports a.2)
    (consistent : ∀ i, Consistent alertId bundle s.reports (s.requests i))
    (stepped : step alertId s a = some s') :
    (∃ i, (s'.requests i).Failed) ↔
      (∃ i, (s.requests i).Failed) ∨ ¬ Uncontested s.reports (s.requests a.1) a.2 := by
  obtain ⟨request, reacted, written⟩ := step_cases stepped
  have settled := (react_settles steady (consistent a.1) reacted).2
  have pending : ¬ (s.requests a.1).Failed := by
    have fewer := react_remaining reacted
    intro failed
    cases before : s.requests a.1 with
    | answered response =>
        rw [before] at fewer
        cases fewer
    | _ =>
        rw [before] at failed
        exact failed
  rw [← settled, written]
  constructor
  · rintro ⟨i, failed⟩
    by_cases mine : i = a.1
    · subst mine
      rw [Function.update_self] at failed
      exact .inr failed
    · rw [Function.update_of_ne mine] at failed
      exact .inl ⟨i, failed⟩
  · rintro (⟨i, failed⟩ | failed)
    · have other : i ≠ a.1 := by
        rintro rfl
        exact pending failed
      exact ⟨i, by rwa [Function.update_of_ne other]⟩
    · exact ⟨a.1, by rwa [Function.update_self]⟩

/-- Whatever was stored before and however the requests interleave, every answer is the
report stored for the alert and the bundle exactly when no step was contested. -/
theorem idempotent_iff {actions : List (Nat × RcaOperation F)}
    (run : Lib.Run (step alertId) (fun s a => Steady alertId bundle s.reports a.2)
      (initial reports) actions s) :
    Idempotent alertId bundle s ↔
      Lib.Run (step alertId) (fun s a => Steady alertId bundle s.reports a.2 ∧
        Uncontested s.reports (s.requests a.1) a.2) (initial reports) actions s := by
  have none_failed {s : RcaEndpoint F}
      (consistent : ∀ i, Consistent alertId bundle s.reports (s.requests i)) :
      Idempotent alertId bundle s ↔ ¬ ∃ i, (s.requests i).Failed := by
    rw [idempotent_iff_none_failed consistent, not_exists]
  refine Lib.Run.holds_iff_good
    (I := fun s : RcaEndpoint F => ∀ i, Consistent alertId bundle s.reports (s.requests i))
    ?_ ?_ ?_ ?_ run (fun _ => trivial) (fun _ _ answered => nomatch answered)
  · intro s a s' consistent steady stepped
    exact step_consistent steady consistent stepped
  · intro s a s' consistent steady stepped uncontested fine
    rw [none_failed (step_consistent steady consistent stepped),
      step_failed_iff steady consistent stepped]
    rintro (failed | contested)
    · exact (none_failed consistent).mp fine failed
    · exact contested uncontested
  · intro s a s' consistent steady stepped contested
    rw [none_failed (step_consistent steady consistent stepped), not_not,
      step_failed_iff steady consistent stepped]
    exact .inr contested
  · intro s a s' consistent steady stepped failed
    rw [none_failed consistent, not_not] at failed
    rw [none_failed (step_consistent steady consistent stepped), not_not,
      step_failed_iff steady consistent stepped]
    exact .inl failed

end Runs

/-! ### Two requests -/

section Two

variable (requests : Nat → RcaRequest F) {i j : Nat} {manifest : Option (ChampionManifest F)}
  {store : RuntimeStore F} {provider : Option Provider} {stamp retry : ReportStamp}
  {first second report : Checked RcaReportV1}

/-- The runs in which no step is contested. -/
abbrev UncontestedRun (alertId : UUID) (bundle : EvidenceBundleV1 F) :=
  Lib.Run (step alertId) fun s a =>
    Steady alertId bundle s.reports a.2 ∧ Uncontested s.reports (s.requests a.1) a.2

variable {requests} in
theorem step_of_react (phase : requests i = request)
    (reacted : react alertId reports request op = some (request', reports')) :
    step alertId ⟨requests, reports⟩ (i, op) =
      some ⟨Function.update requests i request', reports'⟩ := by
  unfold step
  dsimp only
  rw [phase, reacted]
  rfl

/-- An operation of a request, the others staying where they are. -/
theorem run_react (i : Nat) (steady : Steady alertId bundle reports op)
    (uncontested : Uncontested reports request op)
    (reacted : react alertId reports request op = some (request', reports')) :
    UncontestedRun alertId bundle ⟨Function.update requests i request, reports⟩ [(i, op)]
      ⟨Function.update requests i request', reports'⟩ := by
  refine .single ⟨steady, ?_⟩ ?_
  · dsimp only
    rwa [Function.update_self]
  · rw [step_of_react (Function.update_self ..) reacted, Function.update_idem]

theorem run_gathered (i : Nat) (known : (store.alerts.get? alertId).isSome)
    (gathered : IndustrialReliability.gatherEvidence manifest store reports alertId = .ok bundle) :
    UncontestedRun alertId bundle ⟨Function.update requests i .received, reports⟩
      [(i, .getAlertDetail store), (i, .gatherEvidence manifest store)]
      ⟨Function.update requests i (.gathered bundle), reports⟩ := by
  obtain ⟨detail, read⟩ := getAlertDetail_isSome reports known
  have opened : UncontestedRun alertId bundle ⟨Function.update requests i .received, reports⟩
      [(i, .getAlertDetail store)] ⟨Function.update requests i .found, reports⟩ :=
    run_react requests i known trivial (by simp only [react, read])
  exact opened.append (run_react requests i gathered trivial (by simp only [react, gathered]))

/-- What a request does up to its save when it finds no report. -/
def upToSave (i : Nat) (manifest : Option (ChampionManifest F)) (store : RuntimeStore F)
    (provider : Option Provider) (stamp retry : ReportStamp) : List (Nat × RcaOperation F) :=
  [(i, .getAlertDetail store), (i, .gatherEvidence manifest store), (i, .getRca),
    (i, .generate provider stamp retry)]

/-- A request that finds no report has one of its own to save. -/
theorem run_upToSave (i : Nat) (known : (store.alerts.get? alertId).isSome)
    (gathered : IndustrialReliability.gatherEvidence manifest store reports alertId = .ok bundle)
    (none : reports.getRca alertId.str bundle.bundleSha256 = none)
    (made : generateReport provider stamp retry bundle = .ok report) :
    UncontestedRun alertId bundle ⟨Function.update requests i .received, reports⟩
      (upToSave i manifest store provider stamp retry)
      ⟨Function.update requests i (.generated report), reports⟩ := by
  have fine := (generateReport_isOk_iff stamp retry provider
    (gatherEvidence_citable gathered).2).mp (by rw [made]; rfl)
  have missed : UncontestedRun alertId bundle
      ⟨Function.update requests i (.gathered bundle), reports⟩ [(i, .getRca)]
      ⟨Function.update requests i (.missed bundle), reports⟩ :=
    run_react requests i trivial trivial (by simp only [react, none])
  exact (run_gathered requests i known gathered).append
    (missed.append (run_react requests i trivial fine (by simp only [react, made])))

/-- Where a report is that is about the bundle of the alert. -/
theorem about_gathered (gathered :
      IndustrialReliability.gatherEvidence manifest store reports alertId = .ok bundle)
    (made : generateReport provider stamp retry bundle = .ok report) :
    report.val.alertId = alertId.str ∧ report.val.evidenceBundleSha256 = bundle.bundleSha256 :=
  ⟨(generateReport_isAbout made).alertId.trans (gatherEvidence_citable gathered).1,
    (generateReport_isAbout made).evidenceBundleSha256⟩

/-- Of two requests that both look up before either saves, the second to save is refused. -/
theorem race_refused {provider' : Option Provider} {stamp' retry' : ReportStamp}
    (apart : i ≠ j) (known : (store.alerts.get? alertId).isSome)
    (gathered : IndustrialReliability.gatherEvidence manifest store reports alertId = .ok bundle)
    (none : reports.getRca alertId.str bundle.bundleSha256 = none)
    (made : generateReport provider stamp retry bundle = .ok first)
    (made' : generateReport provider' stamp' retry' bundle = .ok second)
    (differ : first ≠ second) (storable : first.val.Storable)
    (insertable : reports.Insertable store.alerts.keys first) :
    ∃ s, Lib.Run (step alertId) (fun s a => Steady alertId bundle s.reports a.2) (initial reports)
        (upToSave i manifest store provider stamp retry ++
          (upToSave j manifest store provider' stamp' retry' ++
            [(i, .saveRca store), (j, .saveRca store)])) s ∧
      s.requests i = .answered (.report first) ∧ s.requests j = .answered .persistenceFailed := by
  have about := about_gathered gathered made
  have about' := about_gathered gathered made'
  have one := run_upToSave (fun _ => .received) i known gathered none made
  rw [Function.update_eq_self_iff.mpr rfl] at one
  have two := run_upToSave (Function.update (fun _ => .received) i (.generated first)) j known
    gathered none made'
  rw [Function.update_eq_self_iff.mpr (Function.update_of_ne apart.symm ..).symm] at two
  have free : reports.getRca first.val.alertId first.val.evidenceBundleSha256 = .none := by
    rw [about.1, about.2]
    exact none
  have saved := RcaReports.saveRca_first storable free insertable
  have found := RcaReports.getRca_insertNew insertable.1 free
  rw [about.1, about.2, ← about'.1, ← about'.2] at found
  obtain ⟨error, lost⟩ : ∃ error, RcaReports.saveRca _ store.alerts.keys second = .error error :=
    RcaReports.saveRca_mismatch found differ
  generalize raced : Function.update (Function.update (fun _ => RcaRequest.received) i
    (.generated first)) j (.generated second) = racing at two
  have winner : racing i = .generated first := by
    rw [← raced, Function.update_of_ne apart, Function.update_self]
  have loser : racing j = .generated second := by
    rw [← raced, Function.update_self]
  have save : step alertId ⟨racing, reports⟩ (i, .saveRca store) =
      some ⟨Function.update racing i (.answered (.report first)),
        reports.insertNew first.val.reportId first⟩ :=
    step_of_react winner (by simp only [react, saved])
  have refuse : step alertId ⟨Function.update racing i (.answered (.report first)),
        reports.insertNew first.val.reportId first⟩ (j, .saveRca store) =
      some ⟨Function.update (Function.update racing i (.answered (.report first))) j
        (.answered .persistenceFailed), reports.insertNew first.val.reportId first⟩ :=
    step_of_react ((Function.update_of_ne apart.symm ..).trans loser) (by simp only [react, lost])
  have steady {as : List (Nat × RcaOperation F)} {s s' : RcaEndpoint F}
      (run : UncontestedRun alertId bundle s as s') :
      Lib.Run (step alertId) (fun s a => Steady alertId bundle s.reports a.2) s as s' :=
    run.mono fun _ _ both => both.1
  refine ⟨_, (steady one).append ((steady two).append (.cons known save (.single known refuse))),
    ?_, Function.update_self ..⟩
  dsimp only
  rw [Function.update_of_ne apart, Function.update_self]

/-- A request that comes after another's save is answered with the same report. -/
theorem later_request_found (apart : i ≠ j) (known : (store.alerts.get? alertId).isSome)
    (gathered : ∀ reports, IndustrialReliability.gatherEvidence manifest store reports alertId =
      .ok bundle)
    (none : reports.getRca alertId.str bundle.bundleSha256 = none)
    (made : generateReport provider stamp retry bundle = .ok report)
    (storable : report.val.Storable)
    (insertable : reports.Insertable store.alerts.keys report) :
    ∃ s, UncontestedRun alertId bundle (initial reports)
        (upToSave i manifest store provider stamp retry ++ ([(i, .saveRca store)] ++
          ([(j, .getAlertDetail store), (j, .gatherEvidence manifest store)] ++
            [(j, .getRca)]))) s ∧
      s.requests i = .answered (.report report) ∧ s.requests j = .answered (.report report) := by
  have about := about_gathered (gathered reports) made
  have free : reports.getRca report.val.alertId report.val.evidenceBundleSha256 = .none := by
    rw [about.1, about.2]
    exact none
  have saved := RcaReports.saveRca_first storable free insertable
  have found := RcaReports.getRca_insertNew insertable.1 free
  rw [about.1, about.2] at found
  have one := run_upToSave (fun _ => .received) i known (gathered reports) none made
  rw [Function.update_eq_self_iff.mpr rfl] at one
  have save : UncontestedRun alertId bundle
      ⟨Function.update (fun _ => .received) i (.generated report), reports⟩ [(i, .saveRca store)]
      ⟨Function.update (fun _ => .received) i (.answered (.report report)),
        reports.insertNew report.val.reportId report⟩ :=
    run_react _ i known ⟨storable, .inl ⟨free, insertable.1⟩⟩ (by simp only [react, saved])
  have two := run_gathered (Function.update (fun _ => .received) i (.answered (.report report))) j
    known (gathered (reports.insertNew report.val.reportId report))
  rw [Function.update_eq_self_iff.mpr (Function.update_of_ne apart.symm ..).symm] at two
  have answer (requests : Nat → RcaRequest F) : UncontestedRun alertId bundle
      ⟨Function.update requests j (.gathered bundle), reports.insertNew report.val.reportId report⟩
      [(j, .getRca)]
      ⟨Function.update requests j (.answered (.report report)),
        reports.insertNew report.val.reportId report⟩ :=
    run_react requests j trivial trivial (by simp only [react, found])
  refine ⟨_, one.append (save.append (two.append (answer _))), ?_, Function.update_self ..⟩
  dsimp only
  rw [Function.update_of_ne apart, Function.update_self]

end Two

/-! ### The alert of two anomalies -/

end RcaEndpoint

/-- Evidence does not depend on the reports there are. -/
theorem gatherEvidence_reports [PyFloat F] [Sha256Digest] (manifest : Option (ChampionManifest F))
    (store : RuntimeStore F) (reports reports' : RcaReports) (alertId : UUID) :
    gatherEvidence manifest store reports alertId =
      gatherEvidence manifest store reports' alertId := by
  unfold gatherEvidence RuntimeStore.getAlertDetail
  cases store.alerts.get? alertId with
  | none => rfl
  | some row => exact bundleOf_eq rfl

namespace RcaEndpoint

/-- The store after the two anomalies. -/
def anomalyStore [Uuid5] : RuntimeStore Int :=
  (alertRun (twoAnomalies (stampAt 0) (stampAt 1))).1

def reportStampAt (n : Nat) : ReportStamp := ⟨900 + n, n, ⟨n⟩, n * 2 ^ 80⟩

/-- A request up to its save; no provider is configured. -/
def unconfiguredRequest [Uuid5] (i : Nat) : List (Nat × RcaOperation Int) :=
  upToSave i none anomalyStore none (reportStampAt i) (reportStampAt i)

/-- What the two requests need of the store. -/
theorem anomalyStore_reports :
    letI := episodeNames
    letI := foldedDigest
    (anomalyStore.alerts.get? anomalyAlert).isSome ∧
      ∃ bundle, (∀ reports, gatherEvidence none anomalyStore reports anomalyAlert = .ok bundle) ∧
        (∀ report, generateReport none (reportStampAt 0) (reportStampAt 0) bundle = .ok report →
          report.val.Storable) ∧
        ∀ n, ∃ report,
          generateReport none (reportStampAt n) (reportStampAt n) bundle = .ok report ∧
          report.val.messageId = 900 + n ∧
          RcaReports.Insertable .empty anomalyStore.alerts.keys report := by
  let := episodeNames
  let := foldedDigest
  have known : (anomalyStore.alerts.get? anomalyAlert).isSome := by decide +kernel
  have read : (gatherEvidence none anomalyStore .empty anomalyAlert).toOption.any
      (fun bundle => decide bundle.evidenceIds.Nodup &&
        (generateReport none (reportStampAt 0) (reportStampAt 0) bundle).toOption.all
          fun report => decide report.val.Storable) = true := by decide +kernel
  obtain ⟨bundle, gathered, read⟩ := (Option.any_eq_true _ _).mp read
  obtain ⟨distinct, storable⟩ := Bool.and_eq_true_iff.mp read
  have gathered := Lib.toOption_eq_some_iff.mp gathered
  refine ⟨known, bundle, fun reports => ?_, fun report made => ?_, fun n => ?_⟩
  · rw [gatherEvidence_reports none anomalyStore reports .empty, gathered]
  · rw [made] at storable
    exact of_decide_eq_true storable
  · have ok := (generateReport_isOk_iff (reportStampAt n) (reportStampAt n) none
      (gatherEvidence_citable gathered).2).mpr ⟨of_decide_eq_true distinct, nofun⟩
    cases made : generateReport none (reportStampAt n) (reportStampAt n) bundle with
    | error error =>
        rw [made] at ok
        cases ok
    | ok report =>
        exact ⟨report, rfl, evidenceOnlyReport_messageId made, rfl, anomalyAlert,
          Lib.Table.isSome_get?_iff.mp known, (about_gathered gathered made).1.symm⟩

/-- The second request comes when the first has saved its report. -/
theorem later_request_idempotent :
    letI := episodeNames
    letI := foldedDigest
    ∃ bundle s, gatherEvidence none anomalyStore .empty anomalyAlert = .ok bundle ∧
      Lib.Run (step anomalyAlert) (fun s a => Steady anomalyAlert bundle s.reports a.2)
        (initial .empty) (unconfiguredRequest 0 ++ ([(0, .saveRca anomalyStore)] ++
          ([(1, .getAlertDetail anomalyStore), (1, .gatherEvidence none anomalyStore)] ++
            [(1, .getRca)]))) s ∧
      (∃ report, s.requests 0 = .answered (.report report) ∧
        s.requests 1 = .answered (.report report)) ∧
      Idempotent anomalyAlert bundle s := by
  let := episodeNames
  let := foldedDigest
  obtain ⟨known, bundle, gathered, storable, reports⟩ := anomalyStore_reports
  obtain ⟨report, made, -, insertable⟩ := reports 0
  obtain ⟨s, run, first, second⟩ := later_request_found (i := 0) (j := 1) (by decide) known
    gathered rfl made (storable report made) insertable
  have steady := run.mono fun _ _ both => both.1
  exact ⟨bundle, s, gathered _, steady, ⟨report, first, second⟩, (idempotent_iff steady).mpr run⟩

/-- Both look up before either saves. -/
theorem racing_request_refused :
    letI := episodeNames
    letI := foldedDigest
    ∃ bundle s, gatherEvidence none anomalyStore .empty anomalyAlert = .ok bundle ∧
      Lib.Run (step anomalyAlert) (fun s a => Steady anomalyAlert bundle s.reports a.2)
        (initial .empty) (unconfiguredRequest 0 ++ (unconfiguredRequest 1 ++
          [(0, .saveRca anomalyStore), (1, .saveRca anomalyStore)])) s ∧
      (∃ report, s.requests 0 = .answered (.report report)) ∧
      s.requests 1 = .answered .persistenceFailed ∧ ¬ Idempotent anomalyAlert bundle s := by
  let := episodeNames
  let := foldedDigest
  obtain ⟨known, bundle, gathered, storable, reports⟩ := anomalyStore_reports
  obtain ⟨first, made, id, insertable⟩ := reports 0
  obtain ⟨second, made', id', -⟩ := reports 1
  have differ : first ≠ second := by
    rintro rfl
    rw [id] at id'
    cases id'
  obtain ⟨s, run, won, lost⟩ := race_refused (i := 0) (j := 1) (by decide) known (gathered _) rfl
    made made' differ (storable first made) insertable
  refine ⟨bundle, s, gathered _, run, ⟨first, won⟩, lost, fun idempotent => ?_⟩
  obtain ⟨report, -, same⟩ := idempotent 1 _ lost
  cases same

end RcaEndpoint

end IndustrialReliability
