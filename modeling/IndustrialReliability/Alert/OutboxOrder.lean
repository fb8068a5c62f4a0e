import IndustrialReliability.Alert.Service
import IndustrialReliability.Lib.Outbox

/-!
The order in which the alert events are published.

The events of an alert are written to the outbox in the order of its
transitions, and the dispatcher takes the unpublished row with the least message
id, which is random. `PublishedInOrder` is the order of the first publications;
`IdsAscend` is the condition on the ids, at the steps where it matters: an event
is written while earlier events of its alert wait, and a send is given up while
later ones do.
-/

namespace IndustrialReliability

variable {F : Type}

namespace AlertService

/-- The message ids of the events of an alert, in the order of its transitions. -/
def eventOrder (s : AlertService F) (alertId : UUID) : List UUID :=
  (s.world.store.alertOutbox.rows.filter fun row => row.2.payload.alertId == alertId).map Prod.fst

/-- The message ids published for an alert, in the order of first publication. -/
def firstPublications (s : AlertService F) (alertId : UUID) : List UUID :=
  ((s.alerts.filter fun event => event.alertId == alertId).map (·.messageId)).eraseDups

/-- The row the dispatcher is sending. -/
def inFlight (s : AlertService F) : Option UUID :=
  match s.dispatcher with
  | .sending messageId _ => some messageId
  | _ => none

/-- The events of an alert that wait: not published, and not being sent. -/
def waiting (s : AlertService F) (alertId : UUID) : List UUID :=
  Lib.Outbox.waiting (s.eventOrder alertId) (s.firstPublications alertId) s.inFlight

end AlertService

/-- The first publications of each alert occur in the order of its transitions. -/
def PublishedInOrder (s : AlertService F) : Prop :=
  ∀ alertId, (s.firstPublications alertId).Sublist (s.eventOrder alertId)

/-- The ids that wait behind a row whose send is given up exceed its own. -/
def GivesUpInOrder (s : AlertService F) : Prop :=
  match s.dispatcher with
  | .sending messageId row => messageId ∉ s.firstPublications row.payload.alertId →
      ∀ w ∈ s.waiting row.payload.alertId, messageId < w
  | _ => True

/-- An event written to the outbox has a larger id than the events of its alert
that wait there, and a send that fails, or dies with the process, leaves no
event of its alert waiting with a smaller id. -/
def IdsAscend [PyFloat F] [Uuid5] (config : AlertConsumerConfig F) (log : ScoresLog F) (s : AlertService F) :
    ServiceAction → Prop
  | .process stamp fault => ∀ record ∈ s.nextRecord log,
      ∀ event ∈ insertedEvent config stamp fault record s.world,
        ∀ w ∈ s.waiting event.alertId, w < event.messageId
  | .sendOutbox (some false) | .crash => GivesUpInOrder s
  | _ => True

/-! ### The invariant -/

structure OutboxInvariant (s : AlertService F) : Prop where
  keyed : ∀ row ∈ s.world.store.alertOutbox.rows, row.2.payload.messageId = row.1
  inStep : ∀ alertId, Lib.Outbox.InStep (s.eventOrder alertId) (s.firstPublications alertId)
    s.inFlight
  published : ∀ row ∈ s.world.store.alertOutbox.rows, row.2.published = true →
    row.1 ∈ s.firstPublications row.2.payload.alertId
  sending : ∀ messageId row, s.dispatcher = .sending messageId row →
    ∃ published, (messageId, { row with published }) ∈ s.world.store.alertOutbox.rows
  marking : ∀ messageId, s.dispatcher = .marking messageId →
    ∃ row, (messageId, row) ∈ s.world.store.alertOutbox.rows ∧
      messageId ∈ s.firstPublications row.payload.alertId

theorem outboxInvariant_initial : OutboxInvariant (.initial : AlertService F) := by
  refine ⟨nofun, fun alertId => Lib.Outbox.inStep_nil _, nofun, nofun, nofun⟩

theorem OutboxInvariant.publishedInOrder {s : AlertService F} (inv : OutboxInvariant s) :
    PublishedInOrder s :=
  fun alertId => (inv.inStep alertId).sentFirst.sublist

/-- The invariant reads the outbox, the alerts topic and the dispatcher only. -/
theorem OutboxInvariant.congr {s s' : AlertService F} (inv : OutboxInvariant s)
    (outbox : s'.world.store.alertOutbox = s.world.store.alertOutbox)
    (alerts : s'.alerts = s.alerts) (dispatcher : s'.dispatcher = s.dispatcher) :
    OutboxInvariant s' := by
  have order : s'.eventOrder = s.eventOrder := by
    funext alertId
    rw [AlertService.eventOrder, outbox]
    rfl
  have firsts : s'.firstPublications = s.firstPublications := by
    funext alertId
    rw [AlertService.firstPublications, alerts]
    rfl
  have flight : s'.inFlight = s.inFlight := by
    rw [AlertService.inFlight, dispatcher]
    rfl
  constructor
  · rw [outbox]
    exact inv.keyed
  · rw [order, firsts, flight]
    exact inv.inStep
  · rw [outbox, firsts]
    exact inv.published
  · rw [outbox, dispatcher]
    exact inv.sending
  · rw [outbox, dispatcher, firsts]
    exact inv.marking

section Views

variable {s s' : AlertService F}

theorem mem_eventOrder_iff {alertId id : UUID} : id ∈ s.eventOrder alertId ↔
    ∃ row, (id, row) ∈ s.world.store.alertOutbox.rows ∧ row.payload.alertId = alertId := by
  simp [AlertService.eventOrder]

/-- A publication adds its id unless it was published before. -/
theorem firstPublications_append {event : AlertEventV1} (alerts : s'.alerts = s.alerts ++ [event])
    (alertId : UUID) :
    s'.firstPublications alertId =
      if event.alertId = alertId ∧ event.messageId ∉ s.firstPublications alertId
      then s.firstPublications alertId ++ [event.messageId] else s.firstPublications alertId := by
  unfold AlertService.firstPublications
  rw [alerts, List.filter_append]
  by_cases same : event.alertId = alertId
  · have kept : [event].filter (fun event => event.alertId == alertId) = [event] := by simp [same]
    rw [kept, List.map_append, List.eraseDups_append]
    by_cases old : event.messageId ∈ (s.alerts.filter fun event => event.alertId == alertId).map
        (·.messageId)
    · simp [same, old, List.removeAll]
    · simp [same, old, List.removeAll, List.eraseDups_cons]
  · simp [same]

end Views

section Steps

variable {s s' : AlertService F}

/-- An event is written to the outbox. -/
theorem insert_keeps {event : AlertEventV1} (inv : OutboxInvariant s)
    (free : s.world.store.alertOutbox.get? event.messageId = none)
    (ascends : ∀ w ∈ s.waiting event.alertId, w < event.messageId)
    (outbox : s'.world.store.alertOutbox = s.world.store.alertOutbox.insertNew event.messageId
      (RuntimeStore.outboxRow event))
    (alerts : s'.alerts = s.alerts) (dispatcher : s'.dispatcher = s.dispatcher) :
    OutboxInvariant s' := by
  have rows : s'.world.store.alertOutbox.rows = s.world.store.alertOutbox.rows ++
      [(event.messageId, RuntimeStore.outboxRow event)] := by
    rw [outbox, Lib.Table.insertNew_rows free]
  have absent : ∀ row, (event.messageId, row) ∉ s.world.store.alertOutbox.rows := by
    intro row mem
    exact Lib.Table.get?_eq_none_iff.mp free (List.mem_map_of_mem mem)
  have firsts : s'.firstPublications = s.firstPublications := by
    funext alertId
    rw [AlertService.firstPublications, alerts]
    rfl
  have flight : s'.inFlight = s.inFlight := by
    rw [AlertService.inFlight, dispatcher]
    rfl
  have notFlying : s.inFlight ≠ some event.messageId := by
    intro flying
    unfold AlertService.inFlight at flying
    split at flying
    · rename_i messageId row sending
      cases flying
      obtain ⟨published, mem⟩ := inv.sending _ _ sending
      exact absent _ mem
    · cases flying
  have order : ∀ alertId, s'.eventOrder alertId = s.eventOrder alertId ++
      if event.alertId = alertId then [event.messageId] else [] := by
    intro alertId
    unfold AlertService.eventOrder
    rw [rows, List.filter_append, List.map_append]
    by_cases same : event.alertId = alertId
    · simp [same, RuntimeStore.outboxRow]
    · simp [same, RuntimeStore.outboxRow]
  constructor
  · intro row mem
    rw [rows] at mem
    rcases List.mem_append.mp mem with old | last
    · exact inv.keyed row old
    · rw [List.mem_singleton.mp last]
      rfl
  · intro alertId
    rw [order, firsts, flight]
    by_cases same : event.alertId = alertId
    · subst same
      rw [if_pos rfl]
      refine (inv.inStep _).record (fun mem => ?_) notFlying ascends
      obtain ⟨row, held, -⟩ := mem_eventOrder_iff.mp mem
      exact absent row held
    · rw [if_neg same, List.append_nil]
      exact inv.inStep alertId
  · intro row mem marked
    rw [rows] at mem
    rw [firsts]
    rcases List.mem_append.mp mem with old | last
    · exact inv.published row old marked
    · rw [List.mem_singleton.mp last] at marked
      cases marked
  · intro messageId row sending
    rw [dispatcher] at sending
    obtain ⟨published, mem⟩ := inv.sending messageId row sending
    exact ⟨published, by rw [rows]; exact List.mem_append_left _ mem⟩
  · intro messageId marking
    rw [dispatcher] at marking
    obtain ⟨row, mem, sent⟩ := inv.marking messageId marking
    exact ⟨row, by rw [rows]; exact List.mem_append_left _ mem, by rw [firsts]; exact sent⟩

/-- A row's alert is the one whose events hold its id. -/
theorem alert_of_mem_eventOrder {messageId alertId : UUID} {row : OutboxRow}
    (mem : (messageId, row) ∈ s.world.store.alertOutbox.rows)
    (ordered : messageId ∈ s.eventOrder alertId) : alertId = row.payload.alertId := by
  obtain ⟨row', held, rfl⟩ := mem_eventOrder_iff.mp ordered
  have first := Lib.Table.get?_eq_some_iff.mpr mem
  have second := Lib.Table.get?_eq_some_iff.mpr held
  rw [Option.some.inj (second.symm.trans first)]

/-- The dispatcher takes the row with the least id. -/
theorem select_keeps {messageId : UUID} {row : OutboxRow} (inv : OutboxInvariant s)
    (idle : s.inFlight = none)
    (picked : s.world.store.nextUnpublishedOutbox = some (messageId, row))
    (world : s'.world = s.world) (alerts : s'.alerts = s.alerts)
    (sending : s'.dispatcher = .sending messageId row) : OutboxInvariant s' := by
  obtain ⟨mem, unpublished, least⟩ := RuntimeStore.nextUnpublishedOutbox_eq_some picked
  have order : s'.eventOrder = s.eventOrder := by
    funext alertId
    rw [AlertService.eventOrder, world]
    rfl
  have firsts : s'.firstPublications = s.firstPublications := by
    funext alertId
    rw [AlertService.firstPublications, alerts]
    rfl
  have flight : s'.inFlight = some messageId := by
    rw [AlertService.inFlight, sending]
  constructor
  · rw [world]
    exact inv.keyed
  · intro alertId
    have before := inv.inStep alertId
    rw [idle] at before
    rw [order, firsts, flight]
    refine before.select fun _ _ w ordered unsent => ?_
    obtain ⟨row', held, same⟩ := mem_eventOrder_iff.mp ordered
    refine least (w, row') held ?_
    cases marked : row'.published with
    | false => rfl
    | true => exact absurd (same ▸ inv.published (w, row') held marked) unsent
  · rw [world, firsts]
    exact inv.published
  · intro messageId' row' same
    cases sending.symm.trans same
    exact ⟨row.published, by rw [world]; exact mem⟩
  · intro messageId' same
    cases sending.symm.trans same

/-- The row in flight reaches the topic. -/
theorem deliver_keeps {messageId : UUID} {row : OutboxRow} (inv : OutboxInvariant s)
    (sending : s.dispatcher = .sending messageId row) (world : s'.world = s.world)
    (alerts : s'.alerts = s.alerts ++ [row.payload])
    (dispatcher : s'.dispatcher = .idle ∨ s'.dispatcher = .marking messageId) :
    OutboxInvariant s' := by
  obtain ⟨published, mem⟩ := inv.sending messageId row sending
  have keyed : row.payload.messageId = messageId := inv.keyed _ mem
  have order : s'.eventOrder = s.eventOrder := by
    funext alertId
    rw [AlertService.eventOrder, world]
    rfl
  have firsts := firstPublications_append alerts
  rw [keyed] at firsts
  have grows : ∀ alertId, ∀ id ∈ s.firstPublications alertId, id ∈ s'.firstPublications alertId := by
    intro alertId id old
    rw [firsts]
    split
    · exact List.mem_append_left _ old
    · exact old
  have sent : messageId ∈ s'.firstPublications row.payload.alertId := by
    rw [firsts]
    split
    · simp
    · rename_i known
      simpa using known
  have flight : s'.inFlight = none := by
    unfold AlertService.inFlight
    rcases dispatcher with now | now <;> rw [now]
  have flying : s.inFlight = some messageId := by
    rw [AlertService.inFlight, sending]
  constructor
  · rw [world]
    exact inv.keyed
  · intro alertId
    have before := inv.inStep alertId
    rw [flying] at before
    rw [order, flight, firsts]
    split
    · rename_i new
      obtain ⟨here, unsent⟩ := new
      refine before.deliver (mem_eventOrder_iff.mpr ⟨_, mem, here⟩) unsent
    · rename_i old
      refine before.redeliver fun ordered => ?_
      have here : alertId = ({ row with published } : OutboxRow).payload.alertId :=
        alert_of_mem_eventOrder mem ordered
      by_contra unsent
      exact old ⟨here.symm, unsent⟩
  · intro row' held marked
    rw [world] at held
    exact grows _ _ (inv.published row' held marked)
  · intro messageId' row' same
    rcases dispatcher with now | now <;> cases now.symm.trans same
  · intro messageId' same
    rcases dispatcher with now | now
    · cases now.symm.trans same
    · cases now.symm.trans same
      exact ⟨{ row with published }, by rw [world]; exact mem, sent⟩

/-- The row in flight is given up. -/
theorem abandon_keeps {messageId : UUID} {row : OutboxRow} (inv : OutboxInvariant s)
    (sending : s.dispatcher = .sending messageId row) (givesUp : GivesUpInOrder s)
    (outbox : s'.world.store.alertOutbox = s.world.store.alertOutbox)
    (alerts : s'.alerts = s.alerts) (idle : s'.dispatcher = .idle) : OutboxInvariant s' := by
  obtain ⟨published, mem⟩ := inv.sending messageId row sending
  have order : s'.eventOrder = s.eventOrder := by
    funext alertId
    rw [AlertService.eventOrder, outbox]
    rfl
  have firsts : s'.firstPublications = s.firstPublications := by
    funext alertId
    rw [AlertService.firstPublications, alerts]
    rfl
  have flight : s'.inFlight = none := by
    rw [AlertService.inFlight, idle]
  have flying : s.inFlight = some messageId := by
    rw [AlertService.inFlight, sending]
  rw [GivesUpInOrder, sending] at givesUp
  constructor
  · rw [outbox]
    exact inv.keyed
  · intro alertId
    have before := inv.inStep alertId
    rw [flying] at before
    rw [order, firsts, flight]
    by_cases new : messageId ∈ s.eventOrder alertId ∧ messageId ∉ s.firstPublications alertId
    · obtain ⟨ordered, unsent⟩ := new
      have here : alertId = ({ row with published } : OutboxRow).payload.alertId :=
        alert_of_mem_eventOrder mem ordered
      subst here
      have below := givesUp unsent
      rw [AlertService.waiting, flying] at below
      exact before.abandon ordered unsent below
    · refine before.redeliver fun ordered => ?_
      by_contra unsent
      exact new ⟨ordered, unsent⟩
  · rw [outbox, firsts]
    exact inv.published
  · intro messageId' row' same
    cases idle.symm.trans same
  · intro messageId' same
    cases idle.symm.trans same

/-- The row is marked published, or the mark fails. -/
theorem mark_keeps {messageId : UUID} (inv : OutboxInvariant s)
    (marking : s.dispatcher = .marking messageId)
    (outbox : s'.world.store.alertOutbox = s.world.store.alertOutbox ∨
      s'.world.store = s.world.store.markOutboxPublished messageId)
    (alerts : s'.alerts = s.alerts) (idle : s'.dispatcher = .idle) : OutboxInvariant s' := by
  obtain ⟨known, mem, sent⟩ := inv.marking messageId marking
  have firsts : s'.firstPublications = s.firstPublications := by
    funext alertId
    rw [AlertService.firstPublications, alerts]
    rfl
  have flight : s'.inFlight = s.inFlight := by
    simp only [AlertService.inFlight, idle, marking]
  have noneSending : ∀ messageId' row', s'.dispatcher = .sending messageId' row' →
      ∃ published, (messageId', { row' with published }) ∈ s'.world.store.alertOutbox.rows := by
    intro messageId' row' same
    cases idle.symm.trans same
  have noneMarking : ∀ messageId', s'.dispatcher = .marking messageId' →
      ∃ row, (messageId', row) ∈ s'.world.store.alertOutbox.rows ∧
        messageId' ∈ s'.firstPublications row.payload.alertId := by
    intro messageId' same
    cases idle.symm.trans same
  rcases outbox with same | marked
  · have order : s'.eventOrder = s.eventOrder := by
      funext alertId
      rw [AlertService.eventOrder, same]
      rfl
    refine ⟨?_, ?_, ?_, noneSending, noneMarking⟩
    · rw [same]
      exact inv.keyed
    · rw [order, firsts, flight]
      exact inv.inStep
    · rw [same, firsts]
      exact inv.published
  · have rows : s'.world.store.alertOutbox.rows = s.world.store.alertOutbox.rows.map fun row =>
        if row.1 = messageId then (row.1, { row.2 with published := true }) else row := by
      rw [marked]
      rfl
    -- A marked row keeps its id and its event.
    have origin : ∀ row ∈ s'.world.store.alertOutbox.rows, ∃ row₀ ∈ s.world.store.alertOutbox.rows,
        row.1 = row₀.1 ∧ row.2.payload = row₀.2.payload ∧
          (row.2.published = true → row₀.2.published = true ∨ row.1 = messageId) := by
      intro row held
      rw [rows] at held
      obtain ⟨row₀, held₀, rfl⟩ := List.mem_map.mp held
      refine ⟨row₀, held₀, ?_⟩
      split
      · rename_i hit
        exact ⟨rfl, rfl, fun _ => .inr hit⟩
      · exact ⟨rfl, rfl, .inl⟩
    have order : s'.eventOrder = s.eventOrder := by
      funext alertId
      unfold AlertService.eventOrder
      rw [rows, List.filter_map, List.map_map]
      have kept : (fun row : UUID × OutboxRow => row.2.payload.alertId == alertId) ∘
          (fun row => if row.1 = messageId then (row.1, { row.2 with published := true }) else row)
          = fun row => row.2.payload.alertId == alertId := by
        funext row
        by_cases hit : row.1 = messageId <;> simp [hit]
      rw [kept]
      apply List.map_congr_left
      intro row _
      by_cases hit : row.1 = messageId <;> simp [hit]
    refine ⟨?_, ?_, ?_, noneSending, noneMarking⟩
    · intro row held
      obtain ⟨row₀, held₀, key, payload, -⟩ := origin row held
      rw [payload, key]
      exact inv.keyed row₀ held₀
    · rw [order, firsts, flight]
      exact inv.inStep
    · intro row held isPublished
      obtain ⟨row₀, held₀, key, payload, why⟩ := origin row held
      rw [firsts, key, payload]
      rcases why isPublished with before | hit
      · exact inv.published row₀ held₀ before
      · rw [key] at hit
        have first := Lib.Table.get?_eq_some_iff.mpr mem
        have second : s.world.store.alertOutbox.get? messageId = some row₀.2 :=
          Lib.Table.get?_eq_some_iff.mpr (hit ▸ held₀)
        rw [Option.some.inj (second.symm.trans first), hit]
        exact sent

variable [PyFloat F] [Uuid5] {config : AlertConsumerConfig F} {log : ScoresLog F}

theorem processNext_keepsOrder {stamp : ProcessStamp} {fault : Option ProcessFault}
    (inv : OutboxInvariant s) (ascends : IdsAscend config log s (.process stamp fault))
    (taken : s.processNext config log stamp fault = some s') : OutboxInvariant s' := by
  obtain ⟨record, next, world, alerts, dispatcher⟩ := AlertService.processNext_cases taken
  have outbox := process_outbox config stamp fault record s.world
  rw [← world] at outbox
  cases inserted : insertedEvent config stamp fault record s.world with
  | none =>
      rw [inserted] at outbox
      exact inv.congr outbox alerts dispatcher
  | some event =>
      rw [inserted] at outbox
      exact insert_keeps inv (insertedEvent_free inserted) (ascends record next event inserted)
        outbox alerts dispatcher

omit [PyFloat F] [Uuid5] in
theorem nextOutbox_keepsOrder (inv : OutboxInvariant s) (taken : s.nextOutbox = some s') :
    OutboxInvariant s' := by
  unfold AlertService.nextOutbox at taken
  cases up : s.incarnation with
  | none =>
      rw [up] at taken
      cases taken
  | some inc =>
      rw [up] at taken
      dsimp only at taken
      split at taken
      · rename_i idle
        have noFlight : s.inFlight = none := by
          simp only [AlertService.inFlight, AlertService.dispatcher, up, Option.map_some, idle,
            Option.getD_some]
        split at taken
        · rename_i messageId row picked
          cases taken
          exact select_keeps inv noFlight picked rfl rfl rfl
        · cases taken
          exact inv
      · cases taken

omit [PyFloat F] [Uuid5] in
theorem sendOutbox_keepsOrder {fault : Option Bool} (inv : OutboxInvariant s)
    (givesUp : fault = some false → GivesUpInOrder s) (taken : s.sendOutbox fault = some s') :
    OutboxInvariant s' := by
  unfold AlertService.sendOutbox at taken
  cases up : s.incarnation with
  | none =>
      rw [up] at taken
      cases taken
  | some inc =>
      rw [up] at taken
      dsimp only at taken
      split at taken
      · rename_i messageId row phase
        have sending : s.dispatcher = .sending messageId row := by
          simp only [AlertService.dispatcher, up, Option.map_some, phase, Option.getD_some]
        rcases fault with _ | _ | _
        · cases taken
          exact deliver_keeps inv sending rfl rfl (.inr rfl)
        · cases taken
          exact abandon_keeps inv sending (givesUp rfl) rfl rfl rfl
        · cases taken
          exact deliver_keeps inv sending rfl rfl (.inl rfl)
      · cases taken

omit [PyFloat F] [Uuid5] in
theorem markPublished_keepsOrder {fault : Option Bool} (inv : OutboxInvariant s)
    (taken : s.markPublished fault = some s') : OutboxInvariant s' := by
  unfold AlertService.markPublished at taken
  cases up : s.incarnation with
  | none =>
      rw [up] at taken
      cases taken
  | some inc =>
      rw [up] at taken
      dsimp only at taken
      split at taken
      · rename_i messageId phase
        have marking : s.dispatcher = .marking messageId := by
          simp only [AlertService.dispatcher, up, Option.map_some, phase, Option.getD_some]
        split at taken
        · cases taken
          exact mark_keeps inv marking (.inr rfl) rfl rfl
        · cases taken
          exact mark_keeps inv marking (.inl rfl) rfl rfl
      · cases taken

omit [PyFloat F] [Uuid5] in
/-- A crash gives up the row in flight and forgets the mark. -/
theorem crash_keepsOrder (inv : OutboxInvariant s) (givesUp : GivesUpInOrder s)
    (taken : s.crash = some s') : OutboxInvariant s' := by
  unfold AlertService.crash at taken
  split at taken
  · cases taken
    cases phase : s.dispatcher with
    | idle => exact inv.congr rfl rfl phase.symm
    | sending messageId row => exact abandon_keeps inv phase givesUp rfl rfl rfl
    | marking messageId => exact mark_keeps inv phase (.inl rfl) rfl rfl
  · cases taken

/-- Every step that meets the condition keeps the invariant. -/
theorem outboxInvariant_step {a : ServiceAction} (inv : OutboxInvariant s)
    (ascends : IdsAscend config log s a) (taken : s.step config log a = some s') :
    OutboxInvariant s' := by
  cases a with
  | getmany counts =>
      simp only [AlertService.step, AlertService.getmany] at taken
      split at taken
      · rename_i inc up
        split at taken
        · cases taken
          exact inv.congr rfl rfl (by simp only [AlertService.dispatcher, up, Option.map_some])
        · cases taken
      · cases taken
  | process stamp fault => exact processNext_keepsOrder inv ascends taken
  | commit fault =>
      simp only [AlertService.step, AlertService.commit] at taken
      split at taken
      · rename_i inc up
        split at taken
        · cases fault <;> cases taken <;>
            exact inv.congr rfl rfl (by simp only [AlertService.dispatcher, up, Option.map_some])
        · cases taken
      · cases taken
  | nextOutbox => exact nextOutbox_keepsOrder inv taken
  | sendOutbox fault =>
      refine sendOutbox_keepsOrder inv (fun failed => ?_) taken
      subst failed
      exact ascends
  | markPublished fault => exact markPublished_keepsOrder inv taken
  | crash => exact crash_keepsOrder inv ascends taken
  | restart =>
      simp only [AlertService.step, AlertService.restart] at taken
      split at taken
      · rename_i down
        cases taken
        refine inv.congr rfl rfl ?_
        simp only [AlertService.dispatcher, Option.isNone_iff_eq_none.mp down, Option.map_none,
          Option.map_some, Option.getD_some, Option.getD_none]
      · cases taken

/-- In every run whose events get ascending ids where events wait, the first
publications of each alert occur in the order of its transitions. -/
theorem publishedInOrder_of_run {as : List ServiceAction}
    (run : Lib.Run (AlertService.step config log) (IdsAscend config log) .initial as s) :
    PublishedInOrder s :=
  (run.invariant (fun _ _ _ inv ascends taken => outboxInvariant_step inv ascends taken)
    outboxInvariant_initial).publishedInOrder

end Steps

/-! ### Concrete runs -/

instance (s : AlertService F) : Decidable (GivesUpInOrder s) := by
  unfold GivesUpInOrder
  cases s.dispatcher <;> dsimp only <;> infer_instance

instance [PyFloat F] [Uuid5] (config : AlertConsumerConfig F) (log : ScoresLog F)
    (s : AlertService F) (a : ServiceAction) : Decidable (IdsAscend config log s a) := by
  refine ServiceAction.casesOn a ?_ ?_ ?_ ?_ ?_ ?_ ?_ ?_ <;> intros <;> dsimp only [IdsAscend]
  case refine_5 fault =>
    refine Option.casesOn fault ?_ fun lost => Bool.casesOn lost ?_ ?_ <;> dsimp only <;>
      infer_instance
  all_goals infer_instance

/-- Two anomalies: an alert is opened and updated. -/
def openedAndUpdated : ScoresLog Int
  | 0 => [⟨1, .ok (checkedWindow 5 true [⟨"tp2__mean", 8, 3⟩])⟩,
      ⟨2, .ok (checkedWindow 10 true [⟨"tp2__mean", 9, 4⟩])⟩]
  | _ => []

/-- Both events wait before the dispatcher takes the first; the first send is
acknowledged but not marked. -/
def dispatchedRun (first second : ProcessStamp) : List ServiceAction :=
  [.restart, .getmany [(0, 2)], .process first none, .commit none, .process second none,
    .commit none, .nextOutbox, .sendOutbox none, .crash, .restart, .nextOutbox, .sendOutbox none,
    .markPublished none, .nextOutbox, .sendOutbox none, .markPublished none]

theorem ascendingRun_publishedInOrder :
    letI := episodeNames
    ∃ s, Lib.Run (AlertService.step promptConsumer openedAndUpdated)
        (IdsAscend promptConsumer openedAndUpdated) .initial
        (dispatchedRun (processStampAt 0) (processStampAt 1)) s ∧
      s.alerts.map (·.action) = [.opened, .opened, .updated] ∧ PublishedInOrder s := by
  let := episodeNames
  obtain ⟨s, run, published⟩ := Lib.exists_run_of_exec
    (AlertService.step promptConsumer openedAndUpdated)
    (IdsAscend promptConsumer openedAndUpdated) .initial
    (dispatchedRun (processStampAt 0) (processStampAt 1))
    (fun s => s.alerts.map (·.action) = [.opened, .opened, .updated]) (by decide)
  exact ⟨s, run, published, publishedInOrder_of_run run⟩

/-- The same run with the two message ids exchanged publishes the update first. -/
theorem descendingRun_publishes_update_first :
    letI := episodeNames
    ∃ s, Lib.Reachable (AlertService.step promptConsumer openedAndUpdated) .initial s ∧
      ¬ PublishedInOrder s := by
  let := episodeNames
  obtain ⟨s, run, swapped⟩ := Lib.exists_run_of_exec
    (AlertService.step promptConsumer openedAndUpdated) Lib.Always .initial
    (dispatchedRun (processStampAt 1) (processStampAt 0))
    (fun s => (s.firstPublications (alertIdFor 1 5)).isSublist
      (s.eventOrder (alertIdFor 1 5)) = false) (by decide)
  refine ⟨s, ⟨_, run⟩, fun ordered => ?_⟩
  have contained := List.isSublist_iff_sublist.mpr (ordered (alertIdFor 1 5))
  rw [swapped] at contained
  cases contained

end IndustrialReliability
