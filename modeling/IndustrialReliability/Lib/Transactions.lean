import IndustrialReliability.Lib.Runs
import IndustrialReliability.Lib.Table

/-!
Clients of a store at the isolation level READ COMMITTED.

A client is a `Program`: each statement reads the committed store under the client's
own writes, locks rows until its transaction ends and adds a write; the writes are
applied to the committed store by the commit. A statement waits for the rows it locks
that another client has locked. The insertion of a row locks its key, so it waits for
another transaction that has inserted the key.

A `Protocol` says what a commit may do and what it leaves alone. While a client holds
a row, no other commit changes it (`Protocol.Others`); a program is `Verified` when it
keeps the protocol whatever commits come between its statements, and clients whose
programs are verified keep it together (`Sound.run`).
-/

namespace Lib

/-- A call to the store: the statements of its transactions, and its answer. An error
of a statement or a raised one rolls back. -/
inductive Program (σ κ ε α : Type) where
  | statement (locks : σ → List κ) (run : σ → Except ε (σ → σ)) (next : σ → Program σ κ ε α)
  | commit (next : Program σ κ ε α)
  | ret (answer : α)
  | raise (error : ε)

namespace Program

variable {σ κ ε α : Type}

/-- `SELECT`. -/
def select (next : σ → Program σ κ ε α) : Program σ κ ε α :=
  .statement (fun _ => []) (fun _ => .ok id) next

/-- `SELECT .. FOR UPDATE`. -/
def lock (locks : σ → List κ) (next : σ → Program σ κ ε α) : Program σ κ ε α :=
  .statement locks (fun _ => .ok id) next

/-- A write, with the rows it locks. -/
def write (locks : List κ) (run : σ → Except ε (σ → σ)) (next : Program σ κ ε α) : Program σ κ ε α :=
  .statement (fun _ => locks) run fun _ => next

end Program

structure Session (ρ σ κ ε α : Type) where
  request : ρ
  program : Program σ κ ε α
  writes : σ → σ
  held : List κ

structure Commit (ρ σ : Type) where
  client : Nat
  request : ρ
  before : σ
  after : σ

structure Answer (ρ ε α : Type) where
  client : Nat
  request : ρ
  result : Except ε α

structure Clients (ρ σ κ ε α : Type) where
  store : σ
  sessions : Table Nat (Session ρ σ κ ε α)
  /-- The name of the next client. -/
  next : Nat
  history : List (Commit ρ σ)
  answers : List (Answer ρ ε α)

/-- A client comes, takes its next step or is lost with its open transaction. -/
inductive ClientAction (ρ : Type) where
  | request (request : ρ)
  | advance (client : Nat)
  | lose (client : Nat)

variable {ρ σ κ ε α : Type}

/-- The commits of one client. -/
def commitsOf (history : List (Commit ρ σ)) (client : Nat) : List (σ × σ) :=
  (history.filter (·.client = client)).map fun commit => (commit.before, commit.after)

namespace Clients

def start (store : σ) : Clients ρ σ κ ε α := ⟨store, .empty, 0, [], []⟩

/-- No other client has locked one of the rows. -/
def free [DecidableEq κ] (clients : Clients ρ σ κ ε α) (client : Nat) (rows : List κ) : Bool :=
  clients.sessions.rows.all fun (other, session) =>
    other = client || rows.all fun key => decide (key ∉ session.held)

def put (clients : Clients ρ σ κ ε α) (client : Nat) (session : Session ρ σ κ ε α) :
    Clients ρ σ κ ε α :=
  { clients with sessions := clients.sessions.set client session }

/-- The writes of a session are applied to the store. -/
def commit (clients : Clients ρ σ κ ε α) (client : Nat) (session : Session ρ σ κ ε α) :
    Clients ρ σ κ ε α :=
  { clients with
    store := session.writes clients.store
    history := clients.history ++
      [⟨client, session.request, clients.store, session.writes clients.store⟩] }

def answer (clients : Clients ρ σ κ ε α) (client : Nat) (session : Session ρ σ κ ε α)
    (result : Except ε α) : Clients ρ σ κ ε α :=
  { clients with
    sessions := clients.sessions.erase client
    answers := clients.answers ++ [⟨client, session.request, result⟩] }

variable [DecidableEq κ]

def advance (clients : Clients ρ σ κ ε α) (client : Nat) (session : Session ρ σ κ ε α) :
    Option (Clients ρ σ κ ε α) :=
  match session.program with
  | .statement locks run next =>
      let view := session.writes clients.store
      if clients.free client (locks view) then
        match run view with
        | .ok write => some (clients.put client { session with
            program := next view
            writes := write ∘ session.writes
            held := locks view ++ session.held })
        | .error e => some (clients.answer client session (.error e))
      else none
  | .commit next => some ((clients.commit client session).put client { session with
      program := next
      writes := id
      held := [] })
  | .ret value => some ((clients.commit client session).answer client session (.ok value))
  | .raise e => some (clients.answer client session (.error e))

def step (program : ρ → Program σ κ ε α) (clients : Clients ρ σ κ ε α) :
    ClientAction ρ → Option (Clients ρ σ κ ε α)
  | .request request => some { clients.put clients.next ⟨request, program request, id, []⟩ with
      next := clients.next + 1 }
  | .advance client => (clients.sessions.get? client).bind (clients.advance client)
  | .lose client => (clients.sessions.get? client).map fun _ =>
      { clients with sessions := clients.sessions.erase client }

end Clients

/-! ### Protocols -/

structure Protocol (ρ σ κ ε α : Type) where
  Inv : σ → Prop
  /-- What no commit takes back. -/
  Keeps : σ → σ → Prop
  /-- The row has not changed. -/
  Same : κ → σ → σ → Prop
  /-- What a commit of a request does. -/
  Change : ρ → σ → σ → Prop
  /-- What an answer says of the commits of its client and of the store. -/
  Post : ρ → List (σ × σ) → Except ε α → σ → Prop
  /-- When a request may take a step. -/
  Permits : ρ → Program σ κ ε α → σ → Prop
  keeps_refl : ∀ s, Keeps s s
  keeps_trans : ∀ {s s' s''}, Keeps s s' → Keeps s' s'' → Keeps s s''
  same_refl : ∀ key s, Same key s s
  same_trans : ∀ {key s s' s''}, Same key s s' → Same key s' s'' → Same key s s''
  post_stable : ∀ {request commits result s s'}, Post request commits result s → Inv s' → Keeps s s' →
    Post request commits result s'

namespace Protocol

variable (P : Protocol ρ σ κ ε α)

/-- What the commits of others do to a client that holds some rows. -/
structure Others (held : List κ) (s s' : σ) : Prop where
  inv : P.Inv s'
  keeps : P.Keeps s s'
  same : ∀ key ∈ held, P.Same key s s'

/-- What a commit must do. -/
structure Commits (request : ρ) (held : List κ) (s s' : σ) : Prop where
  inv : P.Inv s'
  keeps : P.Keeps s s'
  same : ∀ key, key ∉ held → P.Same key s s'
  change : P.Change request s s'

/-- The program keeps the protocol from here on, whatever others commit meanwhile. -/
def Verified (request : ρ) : Program σ κ ε α → List κ → (σ → σ) → List (σ × σ) → σ → Prop
  | .statement locks run next, held, writes, commits, s => ∀ s', P.Others held s s' →
      P.Permits request (.statement locks run next) s' →
        (∀ e, run (writes s') = .error e → P.Post request commits (.error e) s') ∧
        ∀ write, run (writes s') = .ok write →
          Verified request (next (writes s')) (locks (writes s') ++ held) (write ∘ writes) commits s'
  | .commit next, held, writes, commits, s => ∀ s', P.Others held s s' →
      P.Permits request (.commit next) s' → P.Commits request held s' (writes s') ∧
        Verified request next [] id (commits ++ [(s', writes s')]) (writes s')
  | .ret value, held, writes, commits, s => ∀ s', P.Others held s s' →
      P.Permits request (.ret value) s' → P.Commits request held s' (writes s') ∧
        P.Post request (commits ++ [(s', writes s')]) (.ok value) (writes s')
  | .raise e, held, _, commits, s => ∀ s', P.Others held s s' →
      P.Permits request (.raise e) s' → P.Post request commits (.error e) s'

variable {P} {request : ρ} {held : List κ} {writes : σ → σ} {commits : List (σ × σ)} {s s' s'' : σ}

theorem Others.refl (inv : P.Inv s) (held : List κ) : P.Others held s s :=
  ⟨inv, P.keeps_refl s, fun key _ => P.same_refl key s⟩

theorem Others.trans (first : P.Others held s s') (second : P.Others held s' s'') :
    P.Others held s s'' :=
  ⟨second.inv, P.keeps_trans first.keeps second.keeps,
    fun key mem => P.same_trans (first.same key mem) (second.same key mem)⟩

/-- A commit is one of others to a client that holds other rows. -/
theorem Commits.others {held' : List κ} (change : P.Commits request held s s')
    (apart : ∀ key ∈ held', key ∉ held) : P.Others held' s s' :=
  ⟨change.inv, change.keeps, fun key mem => change.same key (apart key mem)⟩

theorem Verified.mono {program : Program σ κ ε α}
    (verified : P.Verified request program held writes commits s) (others : P.Others held s s') :
    P.Verified request program held writes commits s' := by
  cases program <;> exact fun s'' later => verified s'' (others.trans later)

/-! ### Rules -/

theorem verified_select {next : σ → Program σ κ ε α}
    (rest : ∀ s', P.Others held s s' → P.Permits request (.select next) s' →
      P.Verified request (next (writes s')) held writes commits s') :
    P.Verified request (.select next) held writes commits s := by
  intro s' others permitted
  refine ⟨fun e failed => (nomatch failed), fun write same => ?_⟩
  cases same
  exact rest s' others permitted

theorem verified_lock {locks : σ → List κ} {next : σ → Program σ κ ε α}
    (rest : ∀ s', P.Others held s s' → P.Permits request (.lock locks next) s' →
      P.Verified request (next (writes s')) (locks (writes s') ++ held) writes commits s') :
    P.Verified request (.lock locks next) held writes commits s := by
  intro s' others permitted
  refine ⟨fun e failed => (nomatch failed), fun write same => ?_⟩
  cases same
  exact rest s' others permitted

theorem verified_write {rows : List κ} {run : σ → Except ε (σ → σ)} {next : Program σ κ ε α}
    (fails : ∀ s' e, P.Others held s s' → run (writes s') = .error e →
      P.Post request commits (.error e) s')
    (rest : ∀ s' write, P.Others held s s' → run (writes s') = .ok write →
      P.Verified request next (rows ++ held) (write ∘ writes) commits s') :
    P.Verified request (.write rows run next) held writes commits s :=
  fun s' others _ => ⟨fun e failed => fails s' e others failed, fun write ran => rest s' write others ran⟩

/-! ### Systems of clients -/

/-- The commits lead from one store to another. -/
inductive Chained (P : Protocol ρ σ κ ε α) (start : σ) : List (Commit ρ σ) → σ → Prop
  | nil : Chained P start [] start
  | concat {history : List (Commit ρ σ)} {s s' : σ} (before : Chained P start history s)
      (client : Nat) (request : ρ) (inv : P.Inv s) (keeps : P.Keeps s s')
      (change : P.Change request s s') :
      Chained P start (history ++ [⟨client, request, s, s'⟩]) s'

/-! ### Histories -/

section Histories

variable {start : σ} {history : List (Commit ρ σ)}

/-- What every commit keeps holds of the last store. -/
theorem Chained.invariant {holds : σ → Prop} (first : holds start)
    (keeps : ∀ {request s s'}, P.Inv s → P.Change request s s' → holds s → holds s')
    (chained : P.Chained start history s) : holds s := by
  induction chained with
  | nil => exact first
  | concat _ client request inv _ change ih => exact keeps inv change ih

/-- A commit of the history is a change of a store with the invariant, and nothing
takes back what it keeps. -/
theorem Chained.of_mem (chained : P.Chained start history s) {commit : Commit ρ σ}
    (mem : commit ∈ history) : P.Inv commit.before ∧
      P.Change commit.request commit.before commit.after ∧ P.Keeps commit.before commit.after ∧
        P.Keeps commit.after s := by
  induction chained with
  | nil => cases mem
  | concat _ client request inv keeps change ih =>
      rcases List.mem_append.mp mem with old | new
      · obtain ⟨own, its, here, later⟩ := ih old
        exact ⟨own, its, here, P.keeps_trans later keeps⟩
      · cases List.mem_singleton.mp new
        exact ⟨inv, change, keeps, P.keeps_refl _⟩

/-- A commit comes after all those before it. -/
theorem Chained.pairwise (chained : P.Chained start history s) :
    history.Pairwise fun first second => P.Keeps first.after second.before := by
  induction chained with
  | nil => exact .nil
  | concat before _ _ _ _ _ ih =>
      refine List.pairwise_append.mpr ⟨ih, List.pairwise_singleton _ _, fun first old second new => ?_⟩
      cases List.mem_singleton.mp new
      exact (before.of_mem old).2.2.2

/-- The commit brings something about. -/
def brings (present : σ → Bool) (commit : Commit ρ σ) : Bool :=
  !present commit.before && present commit.after

theorem brings_eq_true {present : σ → Bool} {commit : Commit ρ σ} :
    brings present commit = true ↔ present commit.before = false ∧ present commit.after = true := by
  unfold brings
  rw [Bool.and_eq_true, Bool.not_eq_true']

/-- What is there and is never taken back was brought about by exactly one commit. -/
theorem Chained.brought (present : σ → Bool) (absent : present start = false)
    (stays : ∀ {s s'}, P.Keeps s s' → present s = true → present s' = true)
    (chained : P.Chained start history s) :
    (present s = false → history.filter (brings present) = []) ∧
      (present s = true → ∃ commit, history.filter (brings present) = [commit]) := by
  induction chained with
  | nil =>
      refine ⟨fun _ => rfl, fun there => ?_⟩
      rw [absent] at there
      cases there
  | @concat history s s' _ client request _ keeps _ ih =>
      rw [List.filter_append]
      cases before : present s with
      | true =>
          obtain ⟨commit, only⟩ := ih.2 before
          have after := stays keeps before
          have nothing : [Commit.mk client request s s'].filter (brings present) = [] := by
            simp [brings, before]
          rw [nothing, List.append_nil, only]
          refine ⟨fun gone => ?_, fun _ => ⟨commit, rfl⟩⟩
          rw [after] at gone
          cases gone
      | false =>
          rw [ih.1 before, List.nil_append]
          refine ⟨fun still => ?_, fun there => ⟨⟨client, request, s, s'⟩, ?_⟩⟩
          · simp [brings, still]
          · simp [brings, before, there]

/-- A counter that only grows is counted once, by the commits in their order. -/
theorem Chained.covered (count : σ → Nat) (zero : count start = 0)
    (grows : ∀ {s s'}, P.Keeps s s' → count s ≤ count s') (chained : P.Chained start history s) :
    history.flatMap (fun commit =>
      List.range' (count commit.before + 1) (count commit.after - count commit.before)) =
        List.range' 1 (count s) := by
  induction chained with
  | nil =>
      rw [zero]
      rfl
  | @concat history s s' _ client request _ keeps _ ih =>
      have later := grows keeps
      have added : List.range' 1 (count s) ++ List.range' (1 + count s) (count s' - count s) =
          List.range' 1 (count s') := by
        rw [List.range'_append_1]
        congr 1
        omega
      rw [List.flatMap_append, ih, ← added, Nat.add_comm 1]
      simp

end Histories

end Protocol

/-- What holds of a system of verified clients; the client that is just taking a step
is left out. -/
structure Sound (P : Protocol ρ σ κ ε α) (start : σ) (out : Option Nat)
    (clients : Clients ρ σ κ ε α) : Prop where
  inv : P.Inv clients.store
  verified : ∀ client session, some client ≠ out → clients.sessions.get? client = some session →
    P.Verified session.request session.program session.held session.writes
      (commitsOf clients.history client) clients.store
  apart : ∀ client client' session session', client ≠ client' →
    clients.sessions.get? client = some session → clients.sessions.get? client' = some session' →
      ∀ key ∈ session.held, key ∉ session'.held
  chained : P.Chained start clients.history clients.store
  answered : ∀ answer ∈ clients.answers, P.Post answer.request
    (commitsOf clients.history answer.client) answer.result clients.store
  sessions_old : ∀ client session, clients.sessions.get? client = some session → client < clients.next
  history_old : ∀ commit ∈ clients.history, commit.client < clients.next
  answers_gone : ∀ answer ∈ clients.answers, answer.client < clients.next ∧
    clients.sessions.get? answer.client = none

section Soundness

variable {P : Protocol ρ σ κ ε α} {start : σ} {clients clients' : Clients ρ σ κ ε α}
  {client : Nat} {session : Session ρ σ κ ε α}

theorem commitsOf_concat (history : List (Commit ρ σ)) (commit : Commit ρ σ) (client : Nat) :
    commitsOf (history ++ [commit]) client =
      commitsOf history client ++ if commit.client = client then [(commit.before, commit.after)] else [] := by
  unfold commitsOf
  rw [List.filter_append, List.map_append]
  by_cases same : commit.client = client <;> simp [same]

theorem commitsOf_eq_nil {history : List (Commit ρ σ)} {client : Nat}
    (absent : ∀ commit ∈ history, commit.client ≠ client) : commitsOf history client = [] := by
  unfold commitsOf
  rw [List.filter_eq_nil_iff.mpr fun commit mem => by simpa using absent commit mem]
  rfl

theorem sound_start (inv : P.Inv start) : Sound P start none (.start start) where
  inv := inv
  verified _ _ _ held := nomatch held
  apart _ _ _ _ _ held := nomatch held
  chained := .nil
  answered _ mem := nomatch mem
  sessions_old _ _ held := nomatch held
  history_old _ mem := nomatch mem
  answers_gone _ mem := nomatch mem

theorem Sound.leave (sound : Sound P start none clients) (client : Nat) :
    Sound P start (some client) clients :=
  { sound with verified := fun other session _ held =>
      sound.verified other session (fun none => nomatch none) held }

/-- The next session of the client. -/
theorem Sound.put (sound : Sound P start (some client) clients)
    (held : clients.sessions.get? client = some session) {next : Session ρ σ κ ε α}
    (verified : P.Verified next.request next.program next.held next.writes
      (commitsOf clients.history client) clients.store)
    (apart : ∀ other session', other ≠ client → clients.sessions.get? other = some session' →
      ∀ key ∈ next.held, key ∉ session'.held) :
    Sound P start none (clients.put client next) := by
  refine ⟨sound.inv, fun other session' _ found => ?_, fun first second session' session'' differ one two => ?_,
    sound.chained, sound.answered, fun other session' found => ?_, sound.history_old,
    fun answer mem => ⟨(sound.answers_gone answer mem).1, ?_⟩⟩
  · unfold Clients.put at found
    by_cases here : other = client
    · subst here
      rw [Table.get?_set_self] at found
      cases found
      exact verified
    · rw [Table.get?_set_ne here] at found
      exact sound.verified other session' (fun same => here (Option.some.inj same)) found
  · unfold Clients.put at one two
    by_cases here : first = client
    · subst here
      rw [Table.get?_set_self] at one
      rw [Table.get?_set_ne (Ne.symm differ)] at two
      cases one
      exact apart second session'' (Ne.symm differ) two
    · rw [Table.get?_set_ne here] at one
      by_cases there : second = client
      · subst there
        rw [Table.get?_set_self] at two
        cases two
        exact fun key mem other => apart first session' here one key other mem
      · rw [Table.get?_set_ne there] at two
        exact sound.apart first second session' session'' differ one two
  · unfold Clients.put at found
    by_cases here : other = client
    · subst here
      exact sound.sessions_old _ session held
    · rw [Table.get?_set_ne here] at found
      exact sound.sessions_old other session' found
  · have gone := (sound.answers_gone answer mem).2
    have elsewhere : answer.client ≠ client := by
      rintro rfl
      rw [held] at gone
      cases gone
    exact (Table.get?_set_ne elsewhere).trans gone

/-- The client commits. -/
theorem Sound.commit (sound : Sound P start (some client) clients)
    (held : clients.sessions.get? client = some session)
    (commits : P.Commits session.request session.held clients.store (session.writes clients.store)) :
    Sound P start (some client) (clients.commit client session) := by
  refine ⟨commits.inv, fun other session' away found => ?_, sound.apart,
    .concat sound.chained client session.request sound.inv commits.keeps commits.change,
    fun answer mem => ?_, sound.sessions_old, fun commit mem => ?_, sound.answers_gone⟩
  · have differ : client ≠ other := fun same => away (same ▸ rfl)
    have before := sound.verified other session' away found
    show P.Verified _ _ _ _ (commitsOf (clients.history ++ [_]) other) _
    rw [commitsOf_concat, if_neg differ, List.append_nil]
    exact before.mono (commits.others fun key mem =>
      sound.apart other client session' session (Ne.symm differ) found held key mem)
  · have differ : client ≠ answer.client := by
      rintro rfl
      have gone := (sound.answers_gone answer mem).2
      rw [held] at gone
      cases gone
    show P.Post _ (commitsOf (clients.history ++ [_]) answer.client) _ _
    rw [commitsOf_concat, if_neg differ, List.append_nil]
    exact P.post_stable (sound.answered answer mem) commits.inv commits.keeps
  · rcases List.mem_append.mp mem with old | new
    · exact sound.history_old commit old
    · rw [List.mem_singleton.mp new]
      exact sound.sessions_old client session held

/-- The client goes. -/
theorem Sound.erase (sound : Sound P start (some client) clients) :
    Sound P start none { clients with sessions := clients.sessions.erase client } := by
  have before : ∀ other session', (clients.sessions.erase client).get? other = some session' →
      other ≠ client ∧ clients.sessions.get? other = some session' := by
    intro other session' found
    by_cases here : other = client
    · subst here
      rw [Table.get?_erase_self] at found
      cases found
    · exact ⟨here, (Table.get?_erase_ne here).symm.trans found⟩
  refine ⟨sound.inv, fun other session' _ found => ?_, fun first second session' session'' differ one two =>
    sound.apart first second session' session'' differ (before _ _ one).2 (before _ _ two).2,
    sound.chained, sound.answered, fun other session' found =>
      sound.sessions_old other session' (before _ _ found).2, sound.history_old,
    fun answer mem => ⟨(sound.answers_gone answer mem).1, ?_⟩⟩
  · obtain ⟨elsewhere, found⟩ := before other session' found
    exact sound.verified other session' (fun same => elsewhere (Option.some.inj same)) found
  · by_cases here : answer.client = client
    · exact here ▸ Table.get?_erase_self _ _
    · exact (Table.get?_erase_ne here).trans (sound.answers_gone answer mem).2

theorem Sound.answer (sound : Sound P start (some client) clients)
    (held : clients.sessions.get? client = some session) {result : Except ε α}
    (post : P.Post session.request (commitsOf clients.history client) result clients.store) :
    Sound P start none (clients.answer client session result) := by
  have gone := sound.erase
  refine { gone with answered := fun answer mem => ?_, answers_gone := fun answer mem => ?_ }
  · rcases List.mem_append.mp mem with old | new
    · exact sound.answered answer old
    · rw [List.mem_singleton.mp new]
      exact post
  · rcases List.mem_append.mp mem with old | new
    · exact gone.answers_gone answer old
    · rw [List.mem_singleton.mp new]
      exact ⟨sound.sessions_old client session held, Table.get?_erase_self _ _⟩

/-- A new client. -/
theorem Sound.request (sound : Sound P start none clients) {request : ρ} {program : Program σ κ ε α}
    (verified : P.Verified request program [] id [] clients.store) :
    Sound P start none { clients.put clients.next ⟨request, program, id, []⟩ with
      next := clients.next + 1 } := by
  have fresh : commitsOf clients.history clients.next = [] :=
    commitsOf_eq_nil fun commit mem => Nat.ne_of_lt (sound.history_old commit mem)
  have lookup : ∀ {client session'},
      (clients.sessions.set clients.next ⟨request, program, id, []⟩).get? client = some session' →
        client = clients.next ∧ session' = ⟨request, program, id, []⟩ ∨
          clients.sessions.get? client = some session' := by
    intro client session' found
    by_cases here : client = clients.next
    · subst here
      rw [Table.get?_set_self] at found
      exact .inl ⟨rfl, (Option.some.inj found).symm⟩
    · exact .inr ((Table.get?_set_ne here).symm.trans found)
  refine ⟨sound.inv, fun client session' away found => ?_,
    fun first second session' session'' differ one two => ?_, sound.chained, sound.answered,
    fun client session' found => ?_, fun commit mem => Nat.lt_succ_of_lt (sound.history_old commit mem),
    fun answer mem => ⟨Nat.lt_succ_of_lt (sound.answers_gone answer mem).1, ?_⟩⟩
  · rcases lookup found with ⟨rfl, rfl⟩ | found
    · show P.Verified _ _ _ _ (commitsOf clients.history clients.next) _
      rw [fresh]
      exact verified
    · exact sound.verified client session' away found
  · rcases lookup one with ⟨rfl, rfl⟩ | one
    · exact fun key mem => (nomatch mem)
    · rcases lookup two with ⟨rfl, rfl⟩ | two
      · exact fun key _ mem => (nomatch mem)
      · exact sound.apart first second session' session'' differ one two
  · rcases lookup found with ⟨rfl, -⟩ | found
    · exact Nat.lt_succ_self _
    · exact Nat.lt_succ_of_lt (sound.sessions_old client session' found)
  · have old := sound.answers_gone answer mem
    exact (Table.get?_set_ne (Nat.ne_of_lt old.1)).trans old.2

variable [DecidableEq κ]

theorem Clients.free_iff {rows : List κ} : clients.free client rows = true ↔
    ∀ other session', other ≠ client → clients.sessions.get? other = some session' →
      ∀ key ∈ rows, key ∉ session'.held := by
  unfold Clients.free
  rw [List.all_eq_true]
  constructor
  · intro all other session' differ found key mem
    have row := all _ (Table.get?_eq_some_iff.mp found)
    simp only [differ, decide_false, Bool.false_or, List.all_eq_true, decide_eq_true_eq] at row
    exact row key mem
  · rintro all ⟨other, session'⟩ mem
    by_cases here : other = client
    · simp [here]
    · have apart := all other session' here (Table.get?_eq_some_iff.mpr mem)
      simpa [here] using apart

/-- The client takes its next step. -/
theorem Sound.advance (sound : Sound P start none clients)
    (held : clients.sessions.get? client = some session)
    (permitted : P.Permits session.request session.program clients.store)
    (taken : clients.advance client session = some clients') : Sound P start none clients' := by
  have verified := sound.verified client session (fun none => nomatch none) held
  have elsewhere : ∀ other session', other ≠ client → clients.sessions.get? other = some session' →
      ∀ key ∈ session.held, key ∉ session'.held := fun other session' differ found =>
    sound.apart client other session session' (Ne.symm differ) held found
  have out := sound.leave client
  obtain ⟨request, program, writes, rows⟩ := session
  unfold Clients.advance at taken
  cases program with
  | statement locks run next =>
      obtain ⟨fails, continues⟩ := verified clients.store (.refl sound.inv _) permitted
      dsimp only at taken
      split at taken
      · rename_i free
        cases ran : run (writes clients.store) with
        | error e =>
            rw [ran] at taken
            cases taken
            exact out.answer held (fails e ran)
        | ok write =>
            rw [ran] at taken
            cases taken
            refine out.put held (continues write ran) fun other session' differ found key mem => ?_
            rcases List.mem_append.mp mem with new | old
            · exact Clients.free_iff.mp free other session' differ found key new
            · exact elsewhere other session' differ found key old
      · cases taken
  | commit next =>
      obtain ⟨commits, continues⟩ := verified clients.store (.refl sound.inv _) permitted
      cases taken
      refine (out.commit held commits).put held ?_ fun _ _ _ _ _ mem => (nomatch mem)
      show P.Verified _ _ _ _ (commitsOf (clients.history ++ [_]) client) _
      rw [commitsOf_concat, if_pos rfl]
      exact continues
  | ret value =>
      obtain ⟨commits, post⟩ := verified clients.store (.refl sound.inv _) permitted
      cases taken
      refine (out.commit held commits).answer held ?_
      show P.Post _ (commitsOf (clients.history ++ [_]) client) _ _
      rw [commitsOf_concat, if_pos rfl]
      exact post
  | raise e =>
      cases taken
      exact out.answer held (verified clients.store (.refl sound.inv _) permitted)

/-- What the guard of a run must give. -/
structure Guards (P : Protocol ρ σ κ ε α) (program : ρ → Program σ κ ε α)
    (guard : Clients ρ σ κ ε α → ClientAction ρ → Prop) : Prop where
  request : ∀ clients request, guard clients (.request request) → P.Inv clients.store →
    P.Verified request (program request) [] id [] clients.store
  advance : ∀ clients client session, guard clients (.advance client) →
    clients.sessions.get? client = some session →
      P.Permits session.request session.program clients.store

theorem Sound.step {program : ρ → Program σ κ ε α} {guard : Clients ρ σ κ ε α → ClientAction ρ → Prop}
    (guards : Guards P program guard) {action : ClientAction ρ} (sound : Sound P start none clients)
    (meets : guard clients action) (taken : clients.step program action = some clients') :
    Sound P start none clients' := by
  cases action with
  | request request =>
      cases taken
      exact sound.request (guards.request clients request meets sound.inv)
  | advance client =>
      obtain ⟨session, held, taken⟩ := Option.bind_eq_some_iff.mp taken
      exact sound.advance held (guards.advance clients client session meets held) taken
  | lose client =>
      obtain ⟨session, -, rfl⟩ := Option.map_eq_some_iff.mp taken
      exact (sound.leave client).erase

/-- A step leaves the store as it is, or makes one commit of it. -/
theorem Clients.step_history {program : ρ → Program σ κ ε α} {action : ClientAction ρ}
    (taken : clients.step program action = some clients') :
    clients'.store = clients.store ∧ clients'.history = clients.history ∨
      ∃ client request, clients'.history =
        clients.history ++ [⟨client, request, clients.store, clients'.store⟩] := by
  cases action with
  | request =>
      cases taken
      exact .inl ⟨rfl, rfl⟩
  | lose =>
      obtain ⟨session, -, rfl⟩ := Option.map_eq_some_iff.mp taken
      exact .inl ⟨rfl, rfl⟩
  | advance client =>
      obtain ⟨⟨request, program, writes, held⟩, -, taken⟩ := Option.bind_eq_some_iff.mp taken
      unfold Clients.advance at taken
      cases program with
      | statement locks run next =>
          dsimp only at taken
          split at taken
          · split at taken <;> cases taken <;> exact .inl ⟨rfl, rfl⟩
          · cases taken
      | commit | ret =>
          cases taken
          exact .inr ⟨client, request, rfl⟩
      | raise =>
          cases taken
          exact .inl ⟨rfl, rfl⟩

/-- The requests of the answers and the commits are those that were made. -/
structure Requested (made : List (ClientAction ρ)) (clients : Clients ρ σ κ ε α) : Prop where
  sessions : ∀ client session, clients.sessions.get? client = some session →
    ClientAction.request session.request ∈ made
  history : ∀ commit ∈ clients.history, ClientAction.request commit.request ∈ made
  answers : ∀ answer ∈ clients.answers, ClientAction.request answer.request ∈ made

omit [DecidableEq κ] in
theorem requested_start (made : List (ClientAction ρ)) (store : σ) :
    Requested made (.start store : Clients ρ σ κ ε α) where
  sessions _ _ held := nomatch held
  history _ mem := nomatch mem
  answers _ mem := nomatch mem

theorem Requested.step {program : ρ → Program σ κ ε α} {made : List (ClientAction ρ)}
    {action : ClientAction ρ} (before : Requested made clients) (its : action ∈ made)
    (taken : clients.step program action = some clients') : Requested made clients' := by
  have put : ∀ {client : Nat} {session : Session ρ σ κ ε α} {sessions : Table Nat (Session ρ σ κ ε α)},
      (∀ client session, sessions.get? client = some session →
        ClientAction.request session.request ∈ made) →
      ClientAction.request session.request ∈ made → ∀ other session',
        (sessions.set client session).get? other = some session' →
          ClientAction.request session'.request ∈ made := by
    intro client session sessions all own other session' found
    by_cases here : other = client
    · rw [here, Table.get?_set_self] at found
      cases found
      exact own
    · exact all other session' ((Table.get?_set_ne here).symm.trans found)
  have erase : ∀ client other session', (clients.sessions.erase client).get? other = some session' →
      ClientAction.request session'.request ∈ made := by
    intro client other session' found
    by_cases here : other = client
    · rw [here, Table.get?_erase_self] at found
      cases found
    · exact before.sessions other session' ((Table.get?_erase_ne here).symm.trans found)
  cases action with
  | request request =>
      cases taken
      exact ⟨put before.sessions its, before.history, before.answers⟩
  | lose client =>
      obtain ⟨session, -, rfl⟩ := Option.map_eq_some_iff.mp taken
      exact ⟨erase client, before.history, before.answers⟩
  | advance client =>
      obtain ⟨⟨request, program, writes, held⟩, found, taken⟩ := Option.bind_eq_some_iff.mp taken
      have own := before.sessions client _ found
      have committed : ∀ commit ∈ clients.history ++
          [⟨client, request, clients.store, writes clients.store⟩],
          ClientAction.request commit.request ∈ made := by
        intro commit mem
        rcases List.mem_append.mp mem with old | new
        · exact before.history commit old
        · rw [List.mem_singleton.mp new]
          exact own
      have answered : ∀ result, ∀ answer ∈ clients.answers ++ [⟨client, request, result⟩],
          ClientAction.request answer.request ∈ made := by
        intro result answer mem
        rcases List.mem_append.mp mem with old | new
        · exact before.answers answer old
        · rw [List.mem_singleton.mp new]
          exact own
      unfold Clients.advance at taken
      cases program with
      | statement locks run next =>
          dsimp only at taken
          split at taken
          · split at taken <;> cases taken
            · exact ⟨put before.sessions own, before.history, before.answers⟩
            · exact ⟨erase client, before.history, answered _⟩
          · cases taken
      | commit next =>
          cases taken
          exact ⟨put before.sessions own, committed, before.answers⟩
      | ret value =>
          cases taken
          exact ⟨erase client, committed, answered _⟩
      | raise e =>
          cases taken
          exact ⟨erase client, before.history, answered _⟩

theorem requested_of_run {program : ρ → Program σ κ ε α}
    {guard : Clients ρ σ κ ε α → ClientAction ρ → Prop} {actions made : List (ClientAction ρ)}
    (run : Run (Clients.step program) guard clients actions clients') (all : ∀ action ∈ actions, action ∈ made)
    (before : Requested made clients) : Requested made clients' := by
  induction run with
  | nil => exact before
  | cons _ taken _ ih =>
      exact ih (fun action mem => all action (List.mem_cons_of_mem _ mem))
        (before.step (all _ List.mem_cons_self) taken)

/-- A request whose program only raises has that error for its answer. -/
structure Raised (request : ρ) (e : ε) (clients : Clients ρ σ κ ε α) : Prop where
  sessions : ∀ client session, clients.sessions.get? client = some session → session.request = request →
    session.program = .raise e
  answers : ∀ answer ∈ clients.answers, answer.request = request → answer.result = .error e

theorem Raised.step {program : ρ → Program σ κ ε α} {request : ρ} {e : ε} {action : ClientAction ρ}
    (raises : program request = .raise e) (before : Raised request e clients)
    (taken : clients.step program action = some clients') : Raised request e clients' := by
  have put : ∀ {client : Nat} {session : Session ρ σ κ ε α},
      (session.request = request → session.program = .raise e) → ∀ other session',
        (clients.sessions.set client session).get? other = some session' →
          session'.request = request → session'.program = .raise e := by
    intro client session own other session' found
    by_cases here : other = client
    · rw [here, Table.get?_set_self] at found
      cases found
      exact own
    · exact before.sessions other session' ((Table.get?_set_ne here).symm.trans found)
  have erase : ∀ client other session', (clients.sessions.erase client).get? other = some session' →
      session'.request = request → session'.program = .raise e := by
    intro client other session' found
    by_cases here : other = client
    · rw [here, Table.get?_erase_self] at found
      cases found
    · exact before.sessions other session' ((Table.get?_erase_ne here).symm.trans found)
  cases action with
  | request asked =>
      cases taken
      refine ⟨put ?_, before.answers⟩
      rintro rfl
      exact raises
  | lose client =>
      obtain ⟨session, -, rfl⟩ := Option.map_eq_some_iff.mp taken
      exact ⟨erase client, before.answers⟩
  | advance client =>
      obtain ⟨⟨asked, program, writes, held⟩, found, taken⟩ := Option.bind_eq_some_iff.mp taken
      have own := before.sessions client _ found
      -- A session of the request has nothing to do but to raise.
      have answered : ∀ result, (asked = request → result = .error e) →
          ∀ answer ∈ clients.answers ++ [⟨client, asked, result⟩], answer.request = request →
            answer.result = .error e := by
        intro result same answer mem
        rcases List.mem_append.mp mem with old | new
        · exact before.answers answer old
        · rw [List.mem_singleton.mp new]
          exact same
      unfold Clients.advance at taken
      cases program with
      | statement locks run next =>
          dsimp only at taken
          split at taken
          · split at taken <;> cases taken
            · exact ⟨put (fun same => nomatch own same), before.answers⟩
            · exact ⟨erase client, answered _ fun same => nomatch own same⟩
          · cases taken
      | commit next =>
          cases taken
          exact ⟨put (fun same => nomatch own same), before.answers⟩
      | ret value =>
          cases taken
          exact ⟨erase client, answered _ fun same => nomatch own same⟩
      | raise e' =>
          cases taken
          refine ⟨erase client, answered _ fun same => ?_⟩
          cases own same
          rfl

theorem raised_of_run {program : ρ → Program σ κ ε α} {guard : Clients ρ σ κ ε α → ClientAction ρ → Prop}
    {actions : List (ClientAction ρ)} {request : ρ} {e : ε} (raises : program request = .raise e)
    (run : Run (Clients.step program) guard (.start start) actions clients) : Raised request e clients :=
  run.invariant (fun _ _ _ before _ taken => before.step raises taken)
    ⟨nofun, nofun⟩

/-- Verified clients keep their protocol together. -/
theorem Sound.run {program : ρ → Program σ κ ε α} {guard : Clients ρ σ κ ε α → ClientAction ρ → Prop}
    (guards : Guards P program guard) (inv : P.Inv start) {actions : List (ClientAction ρ)}
    (run : Run (Clients.step program) guard (.start start) actions clients) :
    Sound P start none clients :=
  run.invariant (fun _ _ _ sound meets taken => sound.step guards meets taken) (sound_start inv)

/-- What they keep from one state to any later one. -/
theorem Sound.keeps {program : ρ → Program σ κ ε α} {guard : Clients ρ σ κ ε α → ClientAction ρ → Prop}
    (guards : Guards P program guard) (sound : Sound P start none clients)
    {actions : List (ClientAction ρ)} (run : Run (Clients.step program) guard clients actions clients') :
    P.Keeps clients.store clients'.store := by
  refine (run.related (R := fun before after => P.Keeps before.store after.store)
    (fun clients => P.keeps_refl clients.store) (fun _ _ _ => P.keeps_trans)
    (fun clients action clients' sound meets taken => ?_) sound).2
  have next := sound.step guards meets taken
  refine ⟨next, ?_⟩
  rcases Clients.step_history taken with ⟨same, -⟩ | ⟨client, request, extended⟩
  · rw [same]
    exact P.keeps_refl _
  · have mem : ⟨client, request, clients.store, clients'.store⟩ ∈ clients'.history := by
      rw [extended]
      exact List.mem_append_right _ List.mem_cons_self
    exact (next.chained.of_mem mem).2.2.1

end Soundness

end Lib
