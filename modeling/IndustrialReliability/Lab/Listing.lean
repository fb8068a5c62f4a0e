import IndustrialReliability.Lab.Chain
import IndustrialReliability.Lab.Revisions
import IndustrialReliability.Lib.Keyset

/-!
The listing of the labs, page by page.

`list_labs` returns the labs after a cursor in the order of their ids. A reader follows
the cursor while other clients create labs and save revisions.
-/

namespace IndustrialReliability

variable {R : Type} [LabNumber R]

/-- What `list_labs` returns of a row. -/
structure LabSummary where
  labId : UUID
  name : String
  currentRevision : Nat
  createdAt : String
deriving DecidableEq

namespace LabStore

/-- `created_at` is set by the insert of a lab and by nothing else. -/
def summary (createdAt : UUID → String) (row : UUID × LabRow) : LabSummary where
  labId := row.1
  name := row.2.name
  currentRevision := row.2.currentRevision
  createdAt := createdAt row.1

def cappedLimit (limit : Int) : Nat := (min (max 1 limit) 100).toNat

def listLabs (createdAt : UUID → String) (tables : LabTables R) (after : Option UUID)
    (limit : Int) : List LabSummary :=
  (Lib.Keyset.page tables.labs after (cappedLimit limit)).map (summary createdAt)

theorem cappedLimit_pos (limit : Int) : 0 < cappedLimit limit := by
  unfold cappedLimit
  omega

end LabStore

open LabStore SimulationEngine Lib.Protocol

/-- The cursor that a reader gives with the next request. -/
def nextAfter (after : Option UUID) (page : List LabSummary) : Option UUID :=
  match page.getLast? with
  | some summary => some summary.labId
  | none => after

theorem nextAfter_map (createdAt : UUID → String) (after : Option UUID)
    (rows : List (UUID × LabRow)) :
    nextAfter after (rows.map (summary createdAt)) = Lib.Keyset.next after rows := by
  unfold nextAfter Lib.Keyset.next
  rw [List.getLast?_map]
  cases rows.getLast? with
  | none => rfl
  | some row => rfl

theorem exists_summary {createdAt : UUID → String} {rows : List (UUID × LabRow)}
    {P : LabSummary → Prop} : (∃ shown ∈ rows.map (summary createdAt), P shown) ↔
      ∃ row ∈ rows, P (summary createdAt row) := by
  simp only [List.mem_map, exists_exists_and_eq_and]

/-! ### Names -/

/-- A lab is listed under the name of its current revision. -/
def NamedByRevision (tables : LabTables R) : Prop :=
  ∀ lab row, tables.labs.get? lab = some row →
    ∃ revision, tables.revisions.get? (lab, row.currentRevision) = some revision ∧
      revision.definition.name = row.name

variable [Sha256Digest] {call : LabCall R} {tables tables' : LabTables R}

omit [Sha256Digest] in
theorem NamedByRevision.congr (named : NamedByRevision tables) (labs : tables'.labs = tables.labs)
    (revisions : tables'.revisions = tables.revisions) : NamedByRevision tables' := by
  unfold NamedByRevision
  rw [labs, revisions]
  exact named

omit [Sha256Digest] in
theorem RevisionsInv.next_free (inv : RevisionsInv tables) (lab : UUID) :
    tables.revisions.get? (lab, currentRevision tables lab + 1) = none := by
  rw [← Option.not_isSome_iff_eq_none, inv.numbered]
  omega

/-- A save writes the name with the revision. -/
theorem NamedByRevision.add {definition : LabDefinition R} {before : Nat} (named : NamedByRevision tables)
    (inv : RevisionsInv tables) (current : currentRevision tables definition.labId = before)
    (held : tables'.labs.get? definition.labId = some ⟨definition.name, before + 1⟩)
    (others : ∀ lab, lab ≠ definition.labId → tables'.labs.get? lab = tables.labs.get? lab)
    (revisions : tables'.revisions = tables.revisions) :
    NamedByRevision (addRevision definition before tables') := by
  intro lab row found
  have stored : tables'.labs.get? lab = some row := found
  show ∃ revision, (tables'.revisions.insertNew (definition.labId, before + 1)
    (savedRow definition before)).get? (lab, row.currentRevision) = some revision ∧ _
  rw [revisions]
  by_cases here : lab = definition.labId
  · subst here
    cases held.symm.trans stored
    have free := inv.next_free definition.labId
    rw [current] at free
    exact ⟨_, Lib.Table.get?_insertNew_self_of_none free, rfl⟩
  · rw [others lab here] at stored
    obtain ⟨revision, there, name⟩ := named lab row stored
    have differ : (lab, row.currentRevision) ≠ (definition.labId, before + 1) :=
      fun same => here (congrArg Prod.fst same)
    refine ⟨revision, ?_, name⟩
    rw [Lib.Table.get?_insertNew_ne differ]
    exact there

theorem LabChange.named (change : LabChange call tables tables') (inv : LabInv tables)
    (named : NamedByRevision tables) : NamedByRevision tables' := by
  cases change with
  | nothing => exact named
  | @firstSave definition expected tables _ free =>
      refine named.add inv.revisions ?_ (Lib.Table.get?_insertNew_self_of_none free)
        (fun lab differ => Lib.Table.get?_insertNew_ne differ) rfl
      unfold currentRevision
      rw [free]
      rfl
  | @nextSave definition expected tables row held _ =>
      refine named.add inv.revisions (currentRevision_of_get? held) ?_
        (fun lab differ => Lib.Table.get?_modify_ne differ) rfl
      show (tables.labs.modify definition.labId _).get? definition.labId = _
      rw [Lib.Table.get?_modify_self, held]
      rfl
  | start => exact named.congr rfl rfl
  | accept => exact named.congr rfl rfl
  | @checkpoint run _ tables row _ physical _ messages =>
      have other := addMessages_other messages
        (updateCheckpoint run.runId (newCheckpoint run row.checkpoint physical) 0 tables)
      exact named.congr other.1 other.2.1
  | status => exact named.congr rfl rfl

variable {baselines : List UUID} {actions : List (Lib.ClientAction (LabCall R))}
  {clients last : LabClients R} {createdAt : UUID → String} {limit : Int} {after : Option UUID}
  {pages : List (List LabSummary)}

theorem named_of_run (ran : LabRun baselines admits actions clients) : NamedByRevision clients.store := by
  refine (served ran).chained.invariant (fun lab row held => ?_) ?_
  · cases held
  · intro call tables tables' inv change before
    exact LabChange.named change inv before

/-! ### Listings -/

/-- A reader follows the cursor while the clients go on; `last` is where they are when
the last page is read. -/
inductive Listing (createdAt : UUID → String) (limit : Int) :
    Option UUID → LabClients R → List (List LabSummary) → LabClients R → Prop
  | stop (after : Option UUID) (clients : LabClients R) :
      Listing createdAt limit after clients [] clients
  | page {after : Option UUID} {clients now last : LabClients R}
      {actions : List (Lib.ClientAction (LabCall R))} {pages : List (List LabSummary)}
      (went : Lib.Run (Lib.Clients.step labProgram) admits clients actions now)
      (rest : Listing createdAt limit (nextAfter after (listLabs createdAt now.store after limit))
        now pages last) :
      Listing createdAt limit after clients (listLabs createdAt now.store after limit :: pages) last

/-- The pages are those of a listing of tables that only grow. -/
theorem Listing.read (listing : Listing createdAt limit after clients pages last)
    (ran : LabRun baselines admits actions clients) :
    ∃ moments : List (LabTables R), pages = (Lib.Keyset.pages (cappedLimit limit) after
        (moments.map (·.labs))).map (List.map (summary createdAt)) ∧
      LabKeeps clients.store last.store ∧
      ∀ tables ∈ moments, LabKeeps clients.store tables ∧ LabKeeps tables last.store ∧
        NamedByRevision tables := by
  induction listing generalizing actions with
  | stop after clients => exact ⟨[], rfl, .refl _, fun _ mem => absurd mem List.not_mem_nil⟩
  | @page after clients now last _ pages went rest ih =>
      obtain ⟨moments, read, grown, each⟩ := ih (ran.append went)
      have kept := keeps_of_run ran went
      refine ⟨now.store :: moments, ?_, kept.trans grown, ?_⟩
      · rw [read]
        unfold listLabs
        rw [nextAfter_map]
        rfl
      · refine List.forall_mem_cons.mpr ⟨⟨kept, grown, named_of_run (ran.append went)⟩, ?_⟩
        intro tables mem
        obtain ⟨since, later, named⟩ := each tables mem
        exact ⟨kept.trans since, later, named⟩

omit [Sha256Digest] in
theorem LabKeeps.labs_keys (keeps : LabKeeps tables tables') {lab : UUID}
    (stored : lab ∈ tables.labs.keys) : lab ∈ tables'.labs.keys := by
  rw [← Lib.Table.isSome_get?_iff] at *
  obtain ⟨row, held⟩ := Option.isSome_iff_exists.mp stored
  obtain ⟨row', held', -⟩ := keeps.labs lab row held
  exact Option.isSome_iff_exists.mpr ⟨row', held'⟩

omit [Sha256Digest] in
theorem LabKeeps.currentRevision_le (keeps : LabKeeps tables tables') (lab : UUID) :
    currentRevision tables lab ≤ currentRevision tables' lab := by
  cases held : tables.labs.get? lab with
  | none =>
      have zero : currentRevision tables lab = 0 := by
        unfold currentRevision
        rw [held]
        rfl
      rw [zero]
      exact Nat.zero_le _
  | some row =>
      obtain ⟨row', held', le⟩ := keeps.labs lab row held
      rw [currentRevision_of_get? held, currentRevision_of_get? held']
      exact le

/-- Whatever the clients do between the pages, a listing shows each lab at most once, in
the order of the ids, with a revision that was current while it was read and the name of
that revision. A lab that was there at the start is listed once the listing has passed
its id, and in any case when a page is not full; and there are only as many full pages
as the labs can fill. -/
theorem listing_complete (ran : LabRun baselines admits actions clients)
    (listing : Listing createdAt limit after clients pages last) :
    pages.flatten.Pairwise (fun first second => first.labId < second.labId) ∧
    (∀ shown ∈ pages.flatten, Lib.Keyset.After after shown.labId ∧
      currentRevision clients.store shown.labId ≤ shown.currentRevision ∧
      shown.currentRevision ≤ currentRevision last.store shown.labId ∧
      ∃ revision, last.store.revisions.get? (shown.labId, shown.currentRevision) = some revision ∧
        revision.definition.name = shown.name) ∧
    (∀ lab ∈ clients.store.labs.keys, Lib.Keyset.After after lab →
      ((∃ shown ∈ pages.flatten, shown.labId = lab) ↔ ∃ shown ∈ pages.flatten, lab ≤ shown.labId) ∧
      ∀ page ∈ pages, page.length < cappedLimit limit →
        ∃ shown ∈ pages.flatten, shown.labId = lab) ∧
    pages.countP (fun page => page.length = cappedLimit limit) ≤
      last.store.labs.rows.length / cappedLimit limit := by
  obtain ⟨moments, rfl, grown, each⟩ := listing.read ran
  rw [← List.map_flatten]
  refine ⟨List.pairwise_map.mpr (Lib.Keyset.pages_ascending _ _ _),
    List.forall_mem_map.mpr fun row mem => ?_, fun lab there beyond => ?_, ?_⟩
  · obtain ⟨beyond, _, its, stored⟩ := Lib.Keyset.mem_of_mem_pages mem
    obtain ⟨tables, moment, rfl⟩ := List.mem_map.mp its
    obtain ⟨since, later, named⟩ := each tables moment
    have held := Lib.Table.get?_eq_some_iff.mpr stored
    have current : currentRevision tables row.1 = row.2.currentRevision :=
      currentRevision_of_get? held
    obtain ⟨revision, found, name⟩ := named row.1 row.2 held
    refine ⟨beyond, ?_, ?_, revision, later.revisions _ _ found, name⟩
    · exact (since.currentRevision_le row.1).trans current.le
    · exact current.ge.trans (later.currentRevision_le row.1)
  · have stored : ∀ table ∈ moments.map (·.labs), lab ∈ table.keys :=
      List.forall_mem_map.mpr fun tables moment => (each tables moment).1.labs_keys there
    simp only [exists_summary]
    refine ⟨Lib.Keyset.listed_iff stored beyond, List.forall_mem_map.mpr fun rows mem short => ?_⟩
    rw [List.length_map] at short
    exact Lib.Keyset.listed_of_short stored beyond mem short
  · have kept : ∀ table ∈ moments.map (·.labs), ∀ lab ∈ table.keys, lab ∈ last.store.labs.keys :=
      List.forall_mem_map.mpr fun tables moment _ mem => (each tables moment).2.1.labs_keys mem
    have lengths : (fun page => decide (page.length = cappedLimit limit)) ∘
        List.map (summary createdAt) = fun rows => decide (rows.length = cappedLimit limit) := by
      funext rows
      rw [Function.comp_apply, List.length_map]
    rw [Nat.le_div_iff_mul_le (cappedLimit_pos limit), List.countP_map, lengths]
    exact Lib.Keyset.full_pages_le kept

/-! #### Labs created between the pages -/

omit [Sha256Digest] in
/-- The client that creates the lab is the one whose number it is given. -/
def creating (client : Nat) (lab : UUID) : List (Lib.ClientAction (LabCall ℚ)) :=
  .request (.saveLab { loopLab with labId := lab } 0) :: advances client 4

/-- The listing of a reader, with what the clients do before each page. -/
def followCursor (createdAt : UUID → String) (limit : Int) :
    Option UUID → LabClients ℚ → List (List (Lib.ClientAction (LabCall ℚ))) →
      Option (List (List LabSummary) × LabClients ℚ)
  | _, clients, [] => some ([], clients)
  | after, clients, actions :: later =>
      (takingPlain clients actions).bind fun now =>
        let page := listLabs createdAt now.store after limit
        (followCursor createdAt limit (nextAfter after page) now later).map fun rest =>
          (page :: rest.1, rest.2)

theorem listing_of_followCursor {clients : LabClients ℚ}
    {between : List (List (Lib.ClientAction (LabCall ℚ)))}
    {followed : List (List LabSummary) × LabClients ℚ}
    (computed : followCursor createdAt limit after clients between = some followed) :
    Listing createdAt limit after clients followed.1 followed.2 := by
  induction between generalizing after clients followed with
  | nil =>
      cases computed
      exact .stop after clients
  | cons actions later ih =>
      obtain ⟨now, went, rest⟩ := Option.bind_eq_some_iff.mp computed
      obtain ⟨follows, reads, rfl⟩ := Option.map_eq_some_iff.mp rest
      exact .page (run_of_takingPlain went) (ih reads)

/-- Two labs are created when the listing has passed the first. -/
def createdBetween : Option (LabClients ℚ × List (List LabSummary) × LabClients ℚ) :=
  (takingPlain (.start (.empty [])) (creating 0 2 ++ creating 1 4)).bind fun clients =>
    (followCursor (fun _ => "2026-01-01T00:00:00+00:00") 1 none clients
      [[], creating 2 1 ++ creating 3 3, [], []]).map fun followed => (clients, followed)

omit [Sha256Digest] in
/-- The lab behind the cursor is not listed, the two that were there at the start are. -/
theorem createdBetween_listed :
    letI := knownSha256 []
    ∃ (clients last : LabClients ℚ) (pages : List (List LabSummary)) (createdAt : UUID → String),
      (∃ actions, LabRun [] admits actions clients) ∧ Listing createdAt 1 none clients pages last ∧
        pages.flatten.map (·.labId) = [2, 3, 4] ∧ 1 ∈ last.store.labs.keys ∧
        ∀ lab ∈ clients.store.labs.keys, ∃ shown ∈ pages.flatten, shown.labId = lab := by
  let _ := knownSha256 []
  have computed : createdBetween.any (fun found => decide (
      found.2.1.flatten.map (·.labId) = [2, 3, 4] ∧ 1 ∈ found.2.2.store.labs.keys ∧
        [] ∈ found.2.1)) = true := by decide +kernel
  obtain ⟨⟨clients, pages, last⟩, found, holds⟩ := (Option.any_eq_true _ _).mp computed
  obtain ⟨listed, stored, short⟩ := of_decide_eq_true holds
  obtain ⟨started, first, rest⟩ := Option.bind_eq_some_iff.mp found
  obtain ⟨followed, reads, same⟩ := Option.map_eq_some_iff.mp rest
  cases same
  have ran := run_of_takingPlain first
  have listing := listing_of_followCursor reads
  refine ⟨_, _, _, _, ⟨_, ran⟩, listing, listed, stored, fun lab there => ?_⟩
  have complete := (listing_complete ran listing).2.2.1 lab there Lib.Keyset.after_none
  exact complete.2 [] short (by decide)

end IndustrialReliability
