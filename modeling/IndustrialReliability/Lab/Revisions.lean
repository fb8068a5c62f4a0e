import IndustrialReliability.Lab.Served
import Mathlib.Data.Nat.Digits.Lemmas

/-!
The revisions of a lab and their digests.

A revision is stored by one save, which finds its predecessor current, and stays as it
was stored; a run executes the revision it was validated with. The digest of a revision
is taken before the number is written into the definition, that of a run afterwards.
-/

namespace IndustrialReliability

open LabStore Lib.Protocol

variable {R : Type} [LabNumber R] [Sha256Digest] {permits : LabPermits R} {baselines : List UUID}
  {actions actions' : List (Lib.ClientAction (LabCall R))} {clients clients' : LabClients R}
  {call : LabCall R} {tables tables' : LabTables R} {lab : UUID} {revision : Nat}

/-! ### Saves -/

omit [Sha256Digest] in
def revisionStored (lab : UUID) (revision : Nat) (tables : LabTables R) : Bool :=
  (tables.revisions.get? (lab, revision)).isSome

/-- The row of a definition that is saved as the revision after another. -/
def savedRow (definition : LabDefinition R) (before : Nat) : RevisionRow R where
  definition := { definition with
    revision := before + 1
    revision_pos := Nat.succ_pos before }
  digest := computeDefinitionDigest definition

/-- The revision number that a save expects to find; a first save may also expect the
one that it creates. -/
def Expects (expected : Int) (before : Nat) : Prop :=
  expected = before ∨ before = 0 ∧ expected = 1

/-- The commit stores the revision after `before`. -/
structure Saves (definition : LabDefinition R) (before : Nat) (commit : LabCommit R) : Prop where
  request : ∃ expected, commit.request = .saveLab definition expected ∧ Expects expected before
  current : currentRevision commit.before definition.labId = before
  next : currentRevision commit.after definition.labId = before + 1
  stored : commit.after.revisions.get? (definition.labId, before + 1) = some (savedRow definition before)

/-- A revision is stored by its save only. -/
theorem LabChange.saved (change : LabChange call tables tables') (inv : RevisionsInv tables)
    (client : Nat) (absent : revisionStored lab revision tables = false)
    (there : revisionStored lab revision tables' = true) :
    ∃ definition before, Saves definition before ⟨client, call, tables, tables'⟩ ∧
      definition.labId = lab ∧ revision = before + 1 := by
  have same : tables'.revisions = tables.revisions → False := by
    intro same
    unfold revisionStored at absent there
    rw [same, absent] at there
    cases there
  have changed := inv.change change
  have added : ∀ definition before (between : LabTables R), between.revisions = tables.revisions →
      tables' = addRevision definition before between → definition.labId = lab ∧ revision = before + 1 ∧
        tables'.revisions.get? (lab, revision) = some (savedRow definition before) := by
    rintro definition before between kept rfl
    obtain ⟨row, found⟩ := Option.isSome_iff_exists.mp there
    have inserted : (tables.revisions.insertNew (definition.labId, before + 1)
        (savedRow definition before)).get? (lab, revision) = some row := by
      rw [← kept]
      exact found
    rcases Lib.Table.get?_insertNew_eq_some inserted with old | ⟨here, rfl⟩
    · unfold revisionStored at absent
      rw [old] at absent
      cases absent
    · cases here
      exact ⟨rfl, rfl, found⟩
  cases change with
  | nothing | start | accept | status => exact (same rfl).elim
  | checkpoint => exact (same (addMessages_other _ _).2.1).elim
  | @firstSave definition expected tables expects free =>
      obtain ⟨rfl, rfl, stored⟩ := added definition 0 (addLab definition tables) rfl rfl
      have none : currentRevision tables definition.labId = 0 := by
        unfold currentRevision
        rw [free]
        rfl
      have held : (addRevision definition 0 (addLab definition tables)).labs.get? definition.labId =
          some ⟨definition.name, 1⟩ := Lib.Table.get?_insertNew_self_of_none free
      refine ⟨definition, 0, ⟨⟨expected, rfl, ?_⟩, none, currentRevision_of_get? held, stored⟩, rfl, rfl⟩
      rcases expects with rfl | rfl
      · exact .inl rfl
      · exact .inr ⟨rfl, rfl⟩
  | @nextSave definition expected tables row held expects =>
      obtain ⟨rfl, rfl, stored⟩ := added definition row.currentRevision
        (updateLab definition (row.currentRevision + 1) tables) rfl rfl
      have updated : (updateLab definition (row.currentRevision + 1) tables).labs.get? definition.labId =
          some ⟨definition.name, row.currentRevision + 1⟩ := by
        show (tables.labs.modify definition.labId _).get? definition.labId = _
        rw [Lib.Table.get?_modify_self, held]
        rfl
      exact ⟨definition, row.currentRevision, ⟨⟨expected, rfl, .inl expects.symm⟩,
        currentRevision_of_get? held, currentRevision_of_get? updated, stored⟩, rfl, rfl⟩

section Histories

variable {history : List (LabCommit R)} {last : LabTables R}

omit [Sha256Digest] in
theorem revisionStored_keeps (keeps : LabKeeps tables tables')
    (stored : revisionStored lab revision tables = true) : revisionStored lab revision tables' = true := by
  obtain ⟨row, held⟩ := Option.isSome_iff_exists.mp stored
  exact Option.isSome_iff_exists.mpr ⟨row, keeps.revisions _ _ held⟩

/-- A stored revision has been saved once, and is as it was saved. -/
theorem exists_saves (chained : (labProtocol permits).Chained (.empty baselines) history last)
    {row : RevisionRow R} (stored : last.revisions.get? (lab, revision) = some row) :
    ∃ commit definition before, history.filter (brings (revisionStored lab revision)) = [commit] ∧
      Saves definition before commit ∧ definition.labId = lab ∧ revision = before + 1 ∧
        row = savedRow definition before := by
  obtain ⟨commit, only⟩ := (chained.brought (revisionStored lab revision) rfl
    revisionStored_keeps).2 (Option.isSome_iff_exists.mpr ⟨row, stored⟩)
  have its : commit ∈ history.filter (brings (revisionStored lab revision)) := by
    rw [only]
    exact List.mem_cons_self
  obtain ⟨mem, stores⟩ := List.mem_filter.mp its
  obtain ⟨inv, change, -, later⟩ := chained.of_mem mem
  obtain ⟨absent, there⟩ := brings_eq_true.mp stores
  obtain ⟨definition, before, saves, rfl, rfl⟩ := change.saved inv.revisions commit.client absent there
  refine ⟨commit, definition, before, only, saves, rfl, rfl, ?_⟩
  exact Option.some.inj (stored.symm.trans (later.revisions _ _ saves.stored))

end Histories

/-- Whatever the clients do, the revisions of a lab are numbered without a gap up to its
current one, each saved by exactly one commit that found its predecessor current. A
revision never changes again, a save that fails leaves the tables as they were, and a
run has the definition that it was validated with when it was started. -/
theorem revisions_linear (ran : LabRun baselines admits actions clients)
    (later : Lib.Run (Lib.Clients.step labProgram) admits clients actions' clients') :
    (∀ lab revision, revisionStored lab revision clients.store = true ↔
      1 ≤ revision ∧ revision ≤ currentRevision clients.store lab) ∧
    (∀ lab revision row, clients.store.revisions.get? (lab, revision) = some row →
      clients'.store.revisions.get? (lab, revision) = some row ∧
      ∃ commit definition before,
        clients.history.filter (brings (revisionStored lab revision)) = [commit] ∧
          Saves definition before commit ∧ definition.labId = lab ∧ revision = before + 1 ∧
            row = savedRow definition before) ∧
    (∀ answer ∈ clients.answers, ∀ definition expected error,
      answer.request = .saveLab definition expected → answer.result = .error error →
        ∀ commit ∈ Lib.commitsOf clients.history answer.client, commit.1 = commit.2) ∧
    ∀ answer ∈ clients.answers, ∀ spec runId fresh run, answer.request = .startRun spec runId fresh →
      answer.result = .ok (.started run) → (validateLab run.definition).runEligible = true ∧
        RunStored clients'.store run := by
  have sound := served ran
  have keeps := keeps_of_run ran later
  refine ⟨fun lab revision => sound.inv.revisions.numbered lab revision, fun lab revision row stored =>
    ⟨keeps.revisions _ _ stored, exists_saves sound.chained stored⟩,
    fun answer mem definition expected error asked failed => ?_,
    fun answer mem spec runId fresh run asked returned => ?_⟩
  · have post := sound.answered answer mem
    rw [asked, failed] at post
    exact post.unchanged trivial
  · have post := sound.answered answer mem
    rw [asked, returned] at post
    exact ⟨post.2, post.1.mono keeps⟩

/-! #### Two saves of one revision -/

/-- The lab is saved; two clients change its first revision, one after the other has
locked it. -/
def savingTwice : List (Lib.ClientAction (LabCall ℚ)) :=
  .request (.saveLab loopLab 0) :: advances 0 4 ++
    [.request (.saveLab loopLab 1), .request (.saveLab loopLab 1)] ++ advances 1 4 ++ advances 2 2

/-- How a save has ended: the number it saved, or the revision it conflicts with. -/
def saveOutcome (answer : Lib.Answer (LabCall R) (LabError R) (LabAnswer R)) : Option (Nat ⊕ Nat) :=
  match answer.result with
  | .ok (.saved saved) => some (.inl saved.revision)
  | .error (.labRevisionConflict current _) => some (.inr current)
  | _ => none

omit [Sha256Digest] in
theorem loopLab_saved_once :
    letI := knownSha256 []
    ∃ clients : LabClients ℚ, LabRun [] admits savingTwice clients ∧
      clients.answers.map saveOutcome = [some (.inl 1), some (.inl 2), some (.inr 2)] ∧
      revisionStored 1 2 clients.store = true ∧ revisionStored 1 3 clients.store = false := by
  let _ := knownSha256 []
  obtain ⟨clients, run, outcomes, current⟩ := exists_labRun (R := ℚ) [] savingTwice
    (fun clients => clients.answers.map saveOutcome = [some (.inl 1), some (.inl 2), some (.inr 2)] ∧
      currentRevision clients.store 1 = 2) (by decide +kernel)
  have numbered := (revisions_linear run (.nil clients)).1
  refine ⟨clients, run, outcomes, (numbered 1 2).mpr (by omega), ?_⟩
  rw [← Bool.not_eq_true, numbered, current]
  omega

/-! ### Digests -/

omit [Sha256Digest] in
/-- Texts that are joined differ where one of them does. -/
theorem intercalate_congr_iff (separator : String) (before after : List String) {text text' : String} :
    separator.intercalate (before ++ text :: after) = separator.intercalate (before ++ text' :: after) ↔
      text = text' := by
  have rest : separator.intercalate (text :: after) = separator.intercalate (text' :: after) ↔
      text = text' := by
    by_cases last : after = []
    · subst last
      rw [String.intercalate_singleton, String.intercalate_singleton]
    · rw [String.intercalate_cons_of_ne_nil last, String.intercalate_cons_of_ne_nil last,
        String.append_assoc, String.append_assoc, String.append_left_inj]
  by_cases first : before = []
  · subst first
    exact rest
  · rw [String.intercalate_append_of_ne_nil first (by simp),
      String.intercalate_append_of_ne_nil first (by simp), String.append_right_inj, rest]

omit [Sha256Digest] in
/-- The text of a definition tells its number. -/
theorem json_revision (definition : LabDefinition R) {n : Nat} (pos : 1 ≤ n) :
    ({ definition with revision := n, revision_pos := pos } : LabDefinition R).json = definition.json ↔
      n = definition.revision := by
  let member (key value : String) : String := "\"" ++ key ++ "\":" ++ value
  have joined : _ = _ ↔ member "revision" (toString n) = member "revision" (toString definition.revision) :=
    intercalate_congr_iff ","
      [member "assets" (Json.array (definition.assets.map Asset.json)),
        member "lab_id" (Json.uuid definition.labId), member "name" (Json.string definition.name),
        member "pipes" (Json.array (definition.pipes.map Pipe.json))]
      [member "scene_revision" (Json.string definition.sceneRevision),
        member "schema_version" (Json.string definition.schemaVersion),
        member "sensors" (Json.array (definition.sensors.map Sensor.json))]
  unfold LabDefinition.json Json.object
  rw [String.append_left_inj, String.append_right_inj]
  refine joined.trans ⟨fun same => ?_, fun same => by rw [same]⟩
  have digits := congrArg String.toList ((String.append_right_inj _).mp same)
  rw [Nat.toString_eq_ofList_toDigits, Nat.toString_eq_ofList_toDigits, String.toList_ofList,
    String.toList_ofList] at digits
  have read := congrArg (Nat.ofDigitChars 10 · 0) digits
  rwa [Nat.ofDigitChars_ten_toDigits, Nat.ofDigitChars_ten_toDigits] at read

/-- The digest of a run is that of the definition it executes. The digest of a revision
was taken of the definition as it was sent, so it is that of the stored one, and of the
runs of the revision, exactly when the sender had numbered it as the save does. -/
theorem revision_digest_iff (injective : Function.Injective (sha256 : String → Sha256))
    (ran : LabRun baselines admits actions clients) {row : RevisionRow R}
    (stored : clients.store.revisions.get? (lab, revision) = some row) :
    ∃ commit ∈ clients.history, ∃ definition before, Saves definition before commit ∧
      definition.labId = lab ∧ revision = before + 1 ∧
      (row.digest = computeDefinitionDigest row.definition ↔ definition.revision = revision) ∧
      ∀ id run, clients.store.getRun id = some run → run.spec.labId = lab →
        run.spec.labRevision = revision → run.definition = row.definition ∧
          run.definitionDigest = computeDefinitionDigest run.definition ∧
          (row.digest = run.definitionDigest ↔ definition.revision = revision) := by
  have sound := served ran
  obtain ⟨commit, definition, before, only, saves, rfl, rfl, rfl⟩ := exists_saves sound.chained stored
  have mem : commit ∈ clients.history := by
    have its : commit ∈ [commit] := List.mem_singleton_self commit
    rw [← only] at its
    exact List.mem_of_mem_filter its
  have verifies : (savedRow definition before).digest =
      computeDefinitionDigest (savedRow definition before).definition ↔
        definition.revision = before + 1 := by
    show sha256 _ = sha256 _ ↔ _
    rw [injective.eq_iff]
    exact ⟨fun same => ((json_revision definition _).mp same.symm).symm,
      fun same => ((json_revision definition _).mpr same.symm).symm⟩
  refine ⟨commit, mem, definition, before, saves, rfl, rfl, verifies, ?_⟩
  intro id run found labId labRevision
  obtain ⟨row, held, rest⟩ := Option.bind_eq_some_iff.mp found
  obtain ⟨revision, there, same⟩ := Option.bind_eq_some_iff.mp rest
  cases same
  obtain ⟨revision', there', own⟩ := sound.inv.runs.runs id row held
  cases there.symm.trans there'
  have here : (row.spec.labId, row.spec.labRevision) = (definition.labId, before + 1) :=
    Prod.ext labId labRevision
  rw [here] at there
  cases stored.symm.trans there
  have digest : row.definitionDigest = computeDefinitionDigest (savedRow definition before).definition :=
    own.digest
  refine ⟨rfl, digest, ?_⟩
  show _ = row.definitionDigest ↔ _
  rw [digest]
  exact verifies

/-- The characters of a text as the digits of a number: a digest without collisions. -/
abbrev spelledSha256 : Sha256Digest where
  sha256 text := Nat.ofDigits 1114113 (text.toList.map fun c => c.toNat + 1)

omit [Sha256Digest] in
theorem spelledSha256_injective : Function.Injective spelledSha256.sha256 := by
  intro text text' same
  have digits : ∀ text : String, Nat.digits 1114113 (spelledSha256.sha256 text) =
      text.toList.map fun c => c.toNat + 1 := by
    intro text
    refine Nat.digits_ofDigits 1114113 (by norm_num) _ (fun digit mem => ?_) fun nonempty => ?_
    · obtain ⟨c, -, rfl⟩ := List.mem_map.mp mem
      have valid : c.toNat < 0xd800 ∨ 0xdfff < c.toNat ∧ c.toNat < 0x110000 := c.valid
      omega
    · obtain ⟨c, -, last⟩ := List.mem_map.mp (List.getLast_mem nonempty)
      omega
  have equal : text.toList.map (fun c => c.toNat + 1) = text'.toList.map fun c => c.toNat + 1 := by
    rw [← digits text, ← digits text', same]
  have injective : Function.Injective fun c : Char => c.toNat + 1 := fun c c' same =>
    Char.toNat_inj.mp (Nat.succ.inj same)
  exact String.toList_inj.mp (List.map_injective_iff.mpr injective equal)

omit [Sha256Digest] in
/-- The second revision was sent with the number of the first. -/
theorem loopLab_digest_differs :
    letI := spelledSha256
    ∃ (clients : LabClients ℚ) (row : RevisionRow ℚ), LabRun [] admits savingTwice clients ∧
      clients.store.revisions.get? (1, 2) = some row ∧
      row.digest ≠ computeDefinitionDigest row.definition := by
  let _ := spelledSha256
  obtain ⟨clients, run, stored, sent⟩ := exists_labRun (R := ℚ) [] savingTwice
    (fun clients => (clients.store.revisions.get? (1, 2)).isSome = true ∧
      clients.history.all (fun commit => match commit.request with
        | .saveLab definition _ => definition.revision = 1
        | _ => true) = true) (by decide +kernel)
  obtain ⟨row, held⟩ := Option.isSome_iff_exists.mp stored
  obtain ⟨commit, mem, definition, before, saves, -, number, verifies, -⟩ :=
    revision_digest_iff spelledSha256_injective run held
  obtain ⟨expected, asked, -⟩ := saves.request
  have own := List.all_eq_true.mp sent commit mem
  rw [asked] at own
  refine ⟨clients, row, run, held, fun same => ?_⟩
  have two := verifies.mp same
  have one : definition.revision = 1 := of_decide_eq_true own
  omega

end IndustrialReliability
