import IndustrialReliability.Lab.Engine

/-!
Any number of clients of the lab tables, whatever the order of their statements and
wherever they are lost.
-/

namespace IndustrialReliability

variable {R : Type} [LabNumber R] [Sha256Digest] {permits : LabPermits R} {baselines : List UUID}
  {actions : List (Lib.ClientAction (LabCall R))} {clients : LabClients R}

abbrev LabCommit (R : Type) [LabNumber R] := Lib.Commit (LabCall R) (LabTables R)

/-- A run of the clients from the empty tables. -/
abbrev LabRun (baselines : List UUID) (guard : LabClients R → Lib.ClientAction (LabCall R) → Prop)
    (actions : List (Lib.ClientAction (LabCall R))) (clients : LabClients R) : Prop :=
  Lib.Run (Lib.Clients.step labProgram) guard (.start (.empty baselines)) actions clients

/-- Calls are admissible and take their steps where they may. -/
def admitsWhen (permits : LabPermits R) (clients : LabClients R)
    (action : Lib.ClientAction (LabCall R)) : Prop :=
  admits clients action ∧ ∀ client session, action = .advance client →
    clients.sessions.get? client = some session →
      permits session.request session.program clients.store

/-- Calls may take any step. -/
def Anytime : LabPermits R := fun _ _ _ => True

theorem labInv_empty (baselines : List UUID) : LabInv (.empty baselines : LabTables R) where
  revisions := ⟨fun _ _ => ⟨fun held => (nomatch held), fun ⟨first, last⟩ =>
    absurd (first.trans last) (Nat.not_succ_le_zero 0)⟩, fun _ _ _ held => (nomatch held)⟩
  commands := ⟨fun _ _ held => (nomatch held), fun _ _ held => (nomatch held)⟩
  runs := ⟨fun _ _ held => (nomatch held), fun _ _ held => (nomatch held)⟩

theorem labGuards (permits : LabPermits R) :
    Lib.Guards (labProtocol permits) labProgram (admitsWhen permits) where
  request clients call meets _ := by
    cases call with
    | saveLab definition expected => exact verified_saveLab definition expected
    | getLab lab revision => exact verified_getLab lab revision
    | startRun spec runId fresh => exact verified_startRun spec runId fresh
    | getRun run => exact verified_getRun run
    | submitCommand run request => exact verified_submitCommand run request
    | runOnce run messageIds => exact verified_runOnce meets.1
    | setStatus run status => exact verified_setStatus run status
  advance _ client session meets held := meets.2 client session rfl held

theorem labGuards_anytime : Lib.Guards (labProtocol (R := R) Anytime) labProgram admits where
  request clients call meets := (labGuards Anytime).request clients call ⟨meets, fun _ _ _ _ => trivial⟩
  advance _ _ _ _ _ := trivial

/-- The clients keep the protocol of the lab tables. -/
theorem served_when (run : LabRun baselines (admitsWhen permits) actions clients) :
    Lib.Sound (labProtocol permits) (.empty baselines) none clients :=
  .run (labGuards permits) (labInv_empty baselines) run

theorem served (run : LabRun baselines admits actions clients) :
    Lib.Sound (labProtocol Anytime) (.empty baselines) none clients :=
  .run labGuards_anytime (labInv_empty baselines) run

/-- What the store keeps from one state of the clients to any later one. -/
theorem keeps_of_run {actions' : List (Lib.ClientAction (LabCall R))} {clients' : LabClients R}
    (run : LabRun baselines admits actions clients)
    (later : Lib.Run (Lib.Clients.step labProgram) admits clients actions' clients') :
    LabKeeps clients.store clients'.store :=
  (served run).keeps labGuards_anytime later

/-! ### Concrete runs -/

/-- Not a batch of the engine, which must be given a run of the store. -/
def isPlain : Lib.ClientAction (LabCall R) → Bool
  | .request (.runOnce _ _) => false
  | _ => true

omit [Sha256Digest] in
theorem admits_of_isPlain {action : Lib.ClientAction (LabCall R)} (plain : isPlain action = true) :
    admits clients action := by
  cases action with
  | request call =>
      cases call with
      | runOnce => cases plain
      | _ => trivial
  | _ => trivial

/-- A run that is computed. -/
theorem exists_labRun (baselines : List UUID) (actions : List (Lib.ClientAction (LabCall R)))
    (P : LabClients R → Prop) [DecidablePred P]
    (computed : (Lib.exec (Lib.Clients.step labProgram) (fun _ action => isPlain action = true)
      (.start (.empty baselines)) actions).any (fun clients => decide (P clients)) = true) :
    ∃ clients, LabRun baselines admits actions clients ∧ P clients := by
  obtain ⟨clients, run, holds⟩ := Lib.exists_run_of_exec _ _ _ _ P computed
  exact ⟨clients, run.mono fun _ _ => admits_of_isPlain, holds⟩

/-- A client takes statements. -/
abbrev advances (client count : Nat) : List (Lib.ClientAction (LabCall R)) :=
  List.replicate count (.advance client)

end IndustrialReliability
