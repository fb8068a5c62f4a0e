import IndustrialReliability.Lib.Brackets
import IndustrialReliability.Lib.Logs
import IndustrialReliability.Alert.Simulation
import Mathlib.Data.List.DropRight
import Mathlib.Data.Set.Function

/-!
The grammar of the alert event log.

`eventLog` pairs every decision that the fold of `transition` takes with the event
it emits, up to the first that raises. `EventLogGrammar` is what the log says on its
own: the events are the beginning of a word of brackets, one alert id to a bracket;
an opened id is new; a reopening reuses the id resolved last, within the merge gap;
an event lists the anomalies since the streak that opened its bracket; and a
resolution stands exactly where the cooldown of a bracket is full.

`Tracks` says which fields of the state carry which part of the log. `Tracks.step`
takes it over one outcome of a transition, and `eventLog_grammar` over a run.
-/

namespace IndustrialReliability

variable {F : Type}

/-! ### The log -/

/-- A decision with the event it emits. -/
abbrev LogEntry (F : Type) := ScoreDecisionV1 F × Option AlertEventV1

namespace LogEntry

def isAnomaly (entry : LogEntry F) : Bool := entry.1.isAnomaly

@[simp] theorem isAnomaly_mk (decision : ScoreDecisionV1 F) (event : Option AlertEventV1) :
    isAnomaly (decision, event) = decision.isAnomaly := rfl

/-- The entry begins a bracket. -/
def isOnset (entry : LogEntry F) : Bool :=
  entry.2.any fun event => decide (event.action = .opened ∨ event.action = .reopened)

end LogEntry

namespace EventLog

variable {log : List (LogEntry F)} {entry : LogEntry F} {event : AlertEventV1}

def events (log : List (LogEntry F)) : List AlertEventV1 := log.filterMap Prod.snd

def decisionIds (log : List (LogEntry F)) : List UUID := log.map (·.1.decisionId)

def openedIds (log : List (LogEntry F)) : List UUID :=
  ((events log).filter (·.action = .opened)).map (·.alertId)

/-- The event that resolved an alert last. -/
def lastResolved (log : List (LogEntry F)) : Option AlertEventV1 :=
  ((events log).filter (·.action = .resolved)).getLast?

/-- The anomalies that the log ends with. -/
def streak (log : List (LogEntry F)) : List (LogEntry F) := log.rtakeWhile LogEntry.isAnomaly

/-- The log without the anomalies it ends with. -/
def settled (log : List (LogEntry F)) : List (LogEntry F) := log.rdropWhile LogEntry.isAnomaly

/-- The anomalous decisions since the first of the streak that began the last
bracket. -/
def bracketDecisions (log : List (LogEntry F)) : List UUID :=
  let triggering := streak (log.rdropWhile fun entry => !entry.isOnset)
  let since := log.rtakeWhile fun entry => !entry.isOnset
  decisionIds ((triggering ++ since).filter LogEntry.isAnomaly)

/-- The log ends with `n` normal decisions after an anomalous one of a bracket,
which is one that emitted an event. -/
def NormalsAfterAlert (log : List (LogEntry F)) (n : Nat) : Prop :=
  ∃ earlier anomaly normals, log = earlier ++ anomaly :: normals ∧
    anomaly.isAnomaly = true ∧ anomaly.2.isSome = true ∧
    (∀ normal ∈ normals, normal.isAnomaly = false) ∧ normals.length = n

section Concat

theorem events_concat : events (log ++ [entry]) = events log ++ entry.2.toList := by
  unfold events
  rw [List.filterMap_append]
  cases held : entry.2 <;> simp [held]

theorem openedIds_concat_opened (emitted : entry.2 = some event) (opened : event.action = .opened) :
    openedIds (log ++ [entry]) = openedIds log ++ [event.alertId] := by
  unfold openedIds
  rw [events_concat, emitted, List.filter_append, List.map_append]
  simp [opened]

theorem openedIds_concat_other (other : ∀ event ∈ entry.2, event.action ≠ .opened) :
    openedIds (log ++ [entry]) = openedIds log := by
  unfold openedIds
  rw [events_concat, List.filter_append]
  cases held : entry.2 with
  | none => simp
  | some event => simp [other event held]

theorem lastResolved_concat_resolved (emitted : entry.2 = some event)
    (resolved : event.action = .resolved) : lastResolved (log ++ [entry]) = some event := by
  unfold lastResolved
  rw [events_concat, emitted, List.filter_append]
  simp [resolved]

theorem lastResolved_concat_other (other : ∀ event ∈ entry.2, event.action ≠ .resolved) :
    lastResolved (log ++ [entry]) = lastResolved log := by
  unfold lastResolved
  rw [events_concat, List.filter_append]
  cases held : entry.2 with
  | none => simp
  | some event => simp [other event held]

theorem streak_concat_anomaly (anomalous : entry.isAnomaly = true) :
    streak (log ++ [entry]) = streak log ++ [entry] :=
  List.rtakeWhile_concat_pos _ _ _ anomalous

theorem streak_concat_normal (normal : entry.isAnomaly = false) :
    streak (log ++ [entry]) = [] :=
  List.rtakeWhile_concat_neg _ _ _ (by simp [normal])

theorem settled_concat_anomaly (anomalous : entry.isAnomaly = true) :
    settled (log ++ [entry]) = settled log :=
  List.rdropWhile_concat_pos _ _ _ anomalous

theorem settled_concat_normal (normal : entry.isAnomaly = false) :
    settled (log ++ [entry]) = log ++ [entry] :=
  List.rdropWhile_concat_neg _ _ _ (by simp [normal])

theorem settled_subset_concat : settled log ⊆ settled (log ++ [entry]) := by
  cases anomalous : entry.isAnomaly with
  | true => rw [settled_concat_anomaly anomalous]; exact fun _ mem => mem
  | false =>
      rw [settled_concat_normal anomalous]
      exact fun _ mem => List.mem_append_left _ ((List.rdropWhile_prefix _ log).subset mem)

theorem settled_append_streak (log : List (LogEntry F)) : settled log ++ streak log = log :=
  List.rdropWhile_append_rtakeWhile

/-- At an onset the bracket's decisions are the triggering streak. -/
theorem bracketDecisions_concat_onset (onset : entry.isOnset = true)
    (anomalous : entry.isAnomaly = true) :
    bracketDecisions (log ++ [entry]) = decisionIds (streak log) ++ [entry.1.decisionId] := by
  have only : (streak log ++ [entry]).filter LogEntry.isAnomaly = streak log ++ [entry] := by
    refine List.filter_eq_self.mpr fun each mem => ?_
    rcases List.mem_append.mp mem with inStreak | last
    · exact List.mem_rtakeWhile_imp inStreak
    · rwa [List.mem_singleton.mp last]
  unfold bracketDecisions
  rw [List.rdropWhile_concat_neg _ _ _ (by simp [onset]),
    List.rtakeWhile_concat_neg _ _ _ (by simp [onset]), streak_concat_anomaly anomalous]
  dsimp only
  rw [List.append_nil, only]
  simp [decisionIds]

/-- Inside a bracket an anomaly is listed, and a normal decision is not. -/
theorem bracketDecisions_concat_inner (inner : entry.isOnset = false) :
    bracketDecisions (log ++ [entry]) =
      bracketDecisions log ++ decisionIds ([entry].filter LogEntry.isAnomaly) := by
  unfold bracketDecisions
  rw [List.rdropWhile_concat_pos _ _ _ (by simp [inner]),
    List.rtakeWhile_concat_pos _ _ _ (by simp [inner])]
  simp [decisionIds]

/-- A bracket's decisions are decisions of the log, in their order. -/
theorem bracketDecisions_sublist (log : List (LogEntry F)) :
    (bracketDecisions log).Sublist (decisionIds log) := by
  refine (List.filter_sublist.trans ?_).map _
  have whole : log.rdropWhile (fun entry => !entry.isOnset) ++
      log.rtakeWhile (fun entry => !entry.isOnset) = log := List.rdropWhile_append_rtakeWhile
  conv_rhs => rw [← whole]
  exact (List.rtakeWhile_suffix _ _).sublist.append (List.Sublist.refl _)

/-! ### Counting normal decisions -/

theorem not_normalsAfterAlert_nil {n : Nat} : ¬ NormalsAfterAlert ([] : List (LogEntry F)) n := by
  rintro ⟨earlier, anomaly, normals, split, -⟩
  simp at split

theorem normalsAfterAlert_concat_zero :
    NormalsAfterAlert (log ++ [entry]) 0 ↔ entry.isAnomaly = true ∧ entry.2.isSome = true := by
  constructor
  · rintro ⟨earlier, anomaly, normals, split, anomalous, emitted, -, none⟩
    obtain rfl := List.length_eq_zero_iff.mp none
    obtain ⟨-, same⟩ := List.append_inj' split rfl
    cases same
    exact ⟨anomalous, emitted⟩
  · rintro ⟨anomalous, emitted⟩
    exact ⟨log, entry, [], rfl, anomalous, emitted, by simp, rfl⟩

theorem normalsAfterAlert_concat_succ {n : Nat} :
    NormalsAfterAlert (log ++ [entry]) (n + 1) ↔
      entry.isAnomaly = false ∧ NormalsAfterAlert log n := by
  constructor
  · rintro ⟨earlier, anomaly, normals, split, anomalous, emitted, normal, counted⟩
    rcases List.eq_nil_or_concat' normals with rfl | ⟨front, last, rfl⟩
    · simp at counted
    · rw [← List.cons_append, ← List.append_assoc] at split
      obtain ⟨rfl, same⟩ := List.append_inj' split rfl
      cases same
      refine ⟨normal _ (by simp), earlier, anomaly, front, rfl, anomalous, emitted, ?_, ?_⟩
      · exact fun each mem => normal each (List.mem_append_left _ mem)
      · simpa using counted
  · rintro ⟨last, earlier, anomaly, normals, rfl, anomalous, emitted, normal, counted⟩
    refine ⟨earlier, anomaly, normals ++ [entry], by simp, anomalous, emitted, ?_, by simp [counted]⟩
    intro each mem
    rcases List.mem_append.mp mem with inside | atEnd
    · exact normal each inside
    · rwa [List.mem_singleton.mp atEnd]

end Concat

end EventLog

/-! ### The grammar -/

section Grammar

open EventLog Computability

/-- What the grammar reads of an event. -/
def AlertEventV1.tag (event : AlertEventV1) : AlertAction × UUID := (event.action, event.alertId)

def opening (alertId : UUID) : Language (AlertAction × UUID) :=
  {[(.opened, alertId)], [(.reopened, alertId)]}

def updating (alertId : UUID) : Language (AlertAction × UUID) := {[(.updated, alertId)]}

def resolving (alertId : UUID) : Language (AlertAction × UUID) := {[(.resolved, alertId)]}

/-- The words of `((OPENED | REOPENED) UPDATED* RESOLVED)*`, with one alert id to a
bracket. -/
def alertWords : Language (AlertAction × UUID) := Lib.brackets opening updating resolving

/-- What an entry says of the log before it. -/
structure EntryInOrder (policy : LockedAlertPolicyV1 F) (before : List (LogEntry F))
    (entry : LogEntry F) : Prop where
  reopened : ∀ event ∈ entry.2, event.action = .reopened →
    ∃ resolved ∈ lastResolved before, event.alertId = resolved.alertId ∧
      0 < policy.mergeGapSeconds ∧
      event.sourceTimestamp - resolved.sourceTimestamp ≤ Datetime.seconds policy.mergeGapSeconds
  decisions : ∀ event ∈ entry.2, event.decisionIds = bracketDecisions (before ++ [entry]) ∧
    event.decisionIds.Nodup
  resolved : (∃ event ∈ entry.2, event.action = .resolved) ↔
    NormalsAfterAlert (before ++ [entry]) policy.cooldownDecisions.toNat

structure EventLogGrammar (policy : LockedAlertPolicyV1 F) (log : List (LogEntry F)) : Prop where
  words : ∃ rest, (events log).map AlertEventV1.tag ++ rest ∈ alertWords
  openedOnce : (openedIds log).Nodup
  entries : Lib.Recorded (EntryInOrder policy) log

end Grammar

section Live

variable [Uuid5]

/-! ### The log and the state -/

section Tracks

open EventLog

/-- The state of session `session` after the log. -/
structure Tracks (policy : LockedAlertPolicyV1 F) (session : UUID) (log : List (LogEntry F))
    (state : AlertState) : Prop where
  reads : Lib.Reads opening updating resolving ((events log).map AlertEventV1.tag)
    state.activeAlertId
  entries : Lib.Recorded (EntryInOrder policy) log
  openedOnce : (openedIds log).Nodup
  quiet : state.activeAlertId = none → state.anomalyDecisionIds = decisionIds (streak log)
  raised : state.activeAlertId ≠ none → state.anomalyDecisionIds = bracketDecisions log
  previous : state.previousAlertId = (lastResolved log).map (·.alertId)
  resolvedAt : state.activeAlertId = none →
    state.resolvedAt = (lastResolved log).map (·.sourceTimestamp)
  cooling : state.activeAlertId ≠ none →
    NormalsAfterAlert log state.normalStreak ∧ (state.normalStreak : Int) < policy.cooldownDecisions
  counted : ∀ n, NormalsAfterAlert log n →
    n = state.normalStreak ∧ ((n : Int) < policy.cooldownDecisions → state.activeAlertId ≠ none)
  /-- An alert in the log is named after a decision of it, -/
  named : ∀ alertId ∈ openedIds log, ∃ entry ∈ log,
    alertId = alertIdFor session entry.1.decisionId
  /-- and while none is active, after one before the streak. -/
  namedBefore : state.activeAlertId = none → ∀ alertId ∈ openedIds log, ∃ entry ∈ settled log,
    alertId = alertIdFor session entry.1.decisionId
  last : ∀ decisionId ∈ state.lastDecisionId, decisionId ∈ decisionIds log

variable {policy : LockedAlertPolicyV1 F} {session : UUID} {log : List (LogEntry F)}
  {state : AlertState} {stamp : TransitionStamp} {decision : ScoreDecisionV1 F}
  {result : TransitionResult F}

theorem tracks_empty (machineId : String) : Tracks policy session [] (.empty session machineId) where
  reads := .start
  entries := Lib.recorded_nil
  openedOnce := List.nodup_nil
  quiet _ := rfl
  raised active := absurd rfl active
  previous := rfl
  resolvedAt _ := rfl
  cooling active := absurd rfl active
  counted _ normals := absurd normals not_normalsAfterAlert_nil
  named _ mem := absurd mem List.not_mem_nil
  namedBefore _ _ mem := absurd mem List.not_mem_nil
  last _ held := nomatch held

theorem Tracks.grammar (tracks : Tracks policy session log state) : EventLogGrammar policy log where
  words := tracks.reads.completes fun alertId => ⟨[(.resolved, alertId)], rfl⟩
  openedOnce := tracks.openedOnce
  entries := tracks.entries

/-- The decisions are distinct, and so are the alerts named after them. -/
structure Identified (session : UUID) (ids : List UUID) : Prop where
  distinct : ids.Nodup
  injective : Set.InjOn (alertIdFor session) {decisionId | decisionId ∈ ids}

theorem Identified.of_append {ids more : List UUID} (identified : Identified session (ids ++ more)) :
    Identified session ids where
  distinct := (List.nodup_append.mp identified.distinct).1
  injective := identified.injective.mono fun _ mem => List.mem_append_left _ mem

/-- An alert named after a decision of the streak is not named after an earlier one. -/
theorem Identified.notMem_of_streak {entry : LogEntry F} (identified : Identified session (decisionIds log))
    (inStreak : entry ∈ streak log) {alertId : UUID}
    (named : ∃ earlier ∈ settled log, alertId = alertIdFor session earlier.1.decisionId) :
    alertId ≠ alertIdFor session entry.1.decisionId := by
  obtain ⟨earlier, before, rfl⟩ := named
  have whole := settled_append_streak log
  intro same
  have sameId := identified.injective
    (List.mem_map.mpr ⟨earlier, whole ▸ List.mem_append_left _ before, rfl⟩)
    (List.mem_map.mpr ⟨entry, whole ▸ List.mem_append_right _ inStreak, rfl⟩) same
  have distinct := identified.distinct
  unfold decisionIds at distinct
  rw [← whole, List.map_append, List.nodup_append] at distinct
  exact distinct.2.2 _ (List.mem_map_of_mem before) _ (List.mem_map_of_mem inStreak) sameId

/-! ### One step -/

/-- A decision without an event. -/
theorem Tracks.silent (tracks : Tracks policy session log state) {next : AlertState}
    (active : next.activeAlertId = state.activeAlertId)
    (previous : next.previousAlertId = state.previousAlertId)
    (resolvedAt : next.resolvedAt = state.resolvedAt)
    (decided : next.lastDecisionId = some decision.decisionId)
    (quiet : state.activeAlertId = none →
      next.anomalyDecisionIds = decisionIds (streak (log ++ [(decision, none)])))
    (raised : state.activeAlertId ≠ none →
      next.anomalyDecisionIds = bracketDecisions (log ++ [(decision, none)]))
    (cooling : state.activeAlertId ≠ none →
      NormalsAfterAlert (log ++ [(decision, none)]) next.normalStreak ∧
        (next.normalStreak : Int) < policy.cooldownDecisions)
    (counted : ∀ n, NormalsAfterAlert (log ++ [(decision, none)]) n → n = next.normalStreak ∧
      (n : Int) ≠ policy.cooldownDecisions ∧
        ((n : Int) < policy.cooldownDecisions → state.activeAlertId ≠ none))
    (positive : 1 ≤ policy.cooldownDecisions) :
    Tracks policy session (log ++ [(decision, none)]) next := by
  have sameEvents : events (log ++ [(decision, none)]) = events log := by simp [events_concat]
  have sameOpened : openedIds (log ++ [(decision, none)]) = openedIds log :=
    openedIds_concat_other (by simp)
  have sameResolved : lastResolved (log ++ [(decision, none)]) = lastResolved log :=
    lastResolved_concat_other (by simp)
  have silent : EntryInOrder policy log (decision, none) := by
    refine ⟨by simp, by simp, iff_of_false (by simp) fun cooled => ?_⟩
    have full := (counted _ cooled).2.1
    omega
  exact {
    reads := by rw [sameEvents, active]; exact tracks.reads
    entries := Lib.recorded_concat_iff.mpr ⟨tracks.entries, silent⟩
    openedOnce := by rw [sameOpened]; exact tracks.openedOnce
    quiet := by rw [active]; exact quiet
    raised := by rw [active]; exact raised
    previous := by rw [sameResolved, previous]; exact tracks.previous
    resolvedAt := by rw [sameResolved, active, resolvedAt]; exact tracks.resolvedAt
    cooling := by rw [active]; exact cooling
    counted := by rw [active]; exact fun n normals => ⟨(counted n normals).1, (counted n normals).2.2⟩
    named := by
      rw [sameOpened]
      intro alertId mem
      obtain ⟨entry, inLog, named⟩ := tracks.named alertId mem
      exact ⟨entry, List.mem_append_left _ inLog, named⟩
    namedBefore := by
      rw [sameOpened, active]
      intro inactive alertId mem
      obtain ⟨entry, before, named⟩ := tracks.namedBefore inactive alertId mem
      exact ⟨entry, settled_subset_concat before, named⟩
    last := by
      rw [decided]
      rintro _ ⟨⟩
      simp [decisionIds] }

theorem Tracks.pending (positive : 1 ≤ policy.cooldownDecisions)
    (tracks : Tracks policy session log state) (anomalous : decision.isAnomaly = true)
    (inactive : state.activeAlertId = none) (newStreak : Nat) :
    Tracks policy session (log ++ [(decision, none)])
      (state.pending decision newStreak (state.candidates decision)) := by
  refine tracks.silent inactive.symm rfl rfl rfl ?_ (absurd inactive) (absurd inactive) ?_ positive
  · intro _
    rw [streak_concat_anomaly (by simpa using anomalous)]
    simp [AlertState.pending, AlertState.candidates, tracks.quiet inactive, decisionIds]
  · rintro (_ | n) normals
    · simpa using (normalsAfterAlert_concat_zero.mp normals).2
    · have normal := (normalsAfterAlert_concat_succ.mp normals).1
      simp [anomalous] at normal

theorem Tracks.idle (positive : 1 ≤ policy.cooldownDecisions)
    (tracks : Tracks policy session log state) (normal : decision.isAnomaly = false)
    (inactive : state.activeAlertId = none) :
    Tracks policy session (log ++ [(decision, none)])
      (state.idle decision (state.normalStreak + 1)) := by
  refine tracks.silent inactive.symm rfl rfl rfl ?_ (absurd inactive) (absurd inactive) ?_ positive
  · intro _
    rw [streak_concat_normal (by simpa using normal)]
    rfl
  · rintro (_ | n) normals
    · simpa using (normalsAfterAlert_concat_zero.mp normals).2
    · obtain ⟨same, within⟩ := tracks.counted n (normalsAfterAlert_concat_succ.mp normals).2
      have beyond : policy.cooldownDecisions ≤ n := not_lt.mp fun short => within short inactive
      exact ⟨congrArg (· + 1) same, by omega, fun short => absurd short (by omega)⟩

theorem Tracks.warm (positive : 1 ≤ policy.cooldownDecisions)
    (tracks : Tracks policy session log state) (normal : decision.isAnomaly = false)
    (active : state.activeAlertId ≠ none)
    (short : ((state.normalStreak + 1 : Nat) : Int) < policy.cooldownDecisions) :
    Tracks policy session (log ++ [(decision, none)])
      (state.cooling decision (state.normalStreak + 1)) := by
  refine tracks.silent rfl rfl rfl rfl (fun inactive => absurd inactive active) ?_ ?_ ?_ positive
  · intro _
    rw [bracketDecisions_concat_inner (by rfl)]
    simpa [AlertState.cooling, normal, decisionIds] using tracks.raised active
  · intro _
    exact ⟨normalsAfterAlert_concat_succ.mpr ⟨normal, (tracks.cooling active).1⟩, short⟩
  · rintro (_ | n) normals
    · simpa using (normalsAfterAlert_concat_zero.mp normals).2
    · obtain ⟨rfl, -⟩ := tracks.counted n (normalsAfterAlert_concat_succ.mp normals).2
      exact ⟨rfl, short.ne, fun _ => active⟩

/-- An anomaly with an event, which raises the alert it names. -/
theorem Tracks.raise (positive : 1 ≤ policy.cooldownDecisions)
    (tracks : Tracks policy session log state) (anomalous : decision.isAnomaly = true)
    {event : AlertEventV1} {firstDet : Int} {newStreak : Nat}
    (notResolved : event.action ≠ .resolved)
    (reads : Lib.Reads opening updating resolving
      ((events log).map AlertEventV1.tag ++ [event.tag]) (some event.alertId))
    (lists : event.decisionIds = bracketDecisions (log ++ [(decision, some event)]))
    (identified : Identified session (decisionIds (log ++ [(decision, some event)])))
    (reopened : event.action = .reopened → ∃ resolved ∈ lastResolved log,
      event.alertId = resolved.alertId ∧ 0 < policy.mergeGapSeconds ∧
      event.sourceTimestamp - resolved.sourceTimestamp ≤ Datetime.seconds policy.mergeGapSeconds)
    (openedOnce : (openedIds (log ++ [(decision, some event)])).Nodup)
    (named : ∀ alertId ∈ openedIds (log ++ [(decision, some event)]),
      ∃ entry ∈ log ++ [(decision, some event)], alertId = alertIdFor session entry.1.decisionId) :
    Tracks policy session (log ++ [(decision, some event)])
      (state.raised decision event.alertId firstDet newStreak event.decisionIds) := by
  have sameResolved : lastResolved (log ++ [(decision, some event)]) = lastResolved log :=
    lastResolved_concat_other (by simpa using notResolved)
  have distinct : event.decisionIds.Nodup := by
    rw [lists]
    exact identified.distinct.sublist (bracketDecisions_sublist _)
  have counted : ∀ n, NormalsAfterAlert (log ++ [(decision, some event)]) n → n = 0 := by
    rintro (_ | n) normals
    · rfl
    · have normal := (normalsAfterAlert_concat_succ.mp normals).1
      simp [anomalous] at normal
  have here : EntryInOrder policy log (decision, some event) := by
    refine ⟨?_, ?_, iff_of_false ?_ fun cooled => ?_⟩
    · rintro _ ⟨⟩
      exact reopened
    · rintro _ ⟨⟩
      exact ⟨lists, distinct⟩
    · rintro ⟨_, ⟨⟩, resolved⟩
      exact notResolved resolved
    · have none := counted _ cooled
      omega
  exact {
    reads := by
      rw [events_concat, List.map_append]
      exact reads
    entries := Lib.recorded_concat_iff.mpr ⟨tracks.entries, here⟩
    openedOnce
    quiet := fun inactive => nomatch inactive
    raised := fun _ => lists
    previous := by
      rw [sameResolved]
      exact tracks.previous
    resolvedAt := fun inactive => nomatch inactive
    cooling := fun _ =>
      ⟨normalsAfterAlert_concat_zero.mpr ⟨anomalous, rfl⟩, Int.lt_of_lt_of_le Int.zero_lt_one positive⟩
    counted := fun n normals => ⟨counted n normals, fun _ => by simp [AlertState.raised]⟩
    named
    namedBefore := fun inactive => nomatch inactive
    last := by
      rintro _ ⟨⟩
      simp [decisionIds] }

theorem Tracks.resolve (positive : 1 ≤ policy.cooldownDecisions)
    (tracks : Tracks policy session log state) (normal : decision.isAnomaly = false)
    (cooled : policy.cooldownDecisions ≤ ((state.normalStreak + 1 : Nat) : Int))
    {event : AlertEventV1} {firstDet lastDet : Int} (resolved : event.action = .resolved)
    (active : state.activeAlertId = some event.alertId)
    (lists : event.decisionIds = state.anomalyDecisionIds)
    (stamped : event.sourceTimestamp = decision.sourceTimestamp)
    (identified : Identified session (decisionIds (log ++ [(decision, some event)]))) :
    Tracks policy session (log ++ [(decision, some event)])
      (state.resolved decision event.alertId firstDet lastDet (state.normalStreak + 1)) := by
  have raised : state.activeAlertId ≠ none := by simp [active]
  have lastEvent : lastResolved (log ++ [(decision, some event)]) = some event :=
    lastResolved_concat_resolved rfl resolved
  have sameOpened : openedIds (log ++ [(decision, some event)]) = openedIds log :=
    openedIds_concat_other (by simp [resolved])
  have bracket : event.decisionIds = bracketDecisions (log ++ [(decision, some event)]) := by
    rw [bracketDecisions_concat_inner (by simp [LogEntry.isOnset, resolved]), lists,
      tracks.raised raised]
    simp [normal, decisionIds]
  have distinct : event.decisionIds.Nodup := by
    rw [bracket]
    exact identified.distinct.sublist (bracketDecisions_sublist _)
  obtain ⟨normals, short⟩ := tracks.cooling raised
  have full : NormalsAfterAlert (log ++ [(decision, some event)])
      policy.cooldownDecisions.toNat := by
    have exactly : policy.cooldownDecisions.toNat = state.normalStreak + 1 := by omega
    rw [exactly]
    exact normalsAfterAlert_concat_succ.mpr ⟨normal, normals⟩
  have here : EntryInOrder policy log (decision, some event) := by
    refine ⟨?_, ?_, iff_of_true ⟨event, rfl, resolved⟩ full⟩
    · rintro _ ⟨⟩ reopened
      simp [resolved] at reopened
    · rintro _ ⟨⟩
      exact ⟨bracket, distinct⟩
  have named : ∀ alertId ∈ openedIds log, ∃ entry ∈ log ++ [(decision, some event)],
      alertId = alertIdFor session entry.1.decisionId := by
    intro alertId mem
    obtain ⟨entry, inLog, named⟩ := tracks.named alertId mem
    exact ⟨entry, List.mem_append_left _ inLog, named⟩
  have closes : Lib.Reads opening updating resolving
      ((events log).map AlertEventV1.tag ++ [event.tag]) none := by
    have tag : event.tag = (.resolved, event.alertId) := by simp [AlertEventV1.tag, resolved]
    rw [tag]
    exact Lib.Reads.closes (active ▸ tracks.reads) rfl
  exact {
    reads := by
      rw [events_concat, List.map_append]
      exact closes
    entries := Lib.recorded_concat_iff.mpr ⟨tracks.entries, here⟩
    openedOnce := by
      rw [sameOpened]
      exact tracks.openedOnce
    quiet := by
      rw [streak_concat_normal (by simpa using normal)]
      exact fun _ => rfl
    raised := fun active => absurd rfl active
    previous := by
      rw [lastEvent]
      rfl
    resolvedAt := by
      rw [lastEvent]
      exact fun _ => congrArg some stamped.symm
    cooling := fun active => absurd rfl active
    counted := by
      rintro (_ | n) normals
      · have anomalous := (normalsAfterAlert_concat_zero.mp normals).1
        simp [normal] at anomalous
      · obtain ⟨rfl, -⟩ := tracks.counted n (normalsAfterAlert_concat_succ.mp normals).2
        exact ⟨rfl, fun short => absurd short (not_lt.mpr cooled)⟩
    named := by
      rw [sameOpened]
      exact named
    namedBefore := by
      rw [sameOpened, settled_concat_normal (by simpa using normal)]
      exact fun _ => named
    last := by
      rintro _ ⟨⟩
      simp [decisionIds] }

/-- The candidates of an onset are the decisions of the streak, itself included. -/
theorem Tracks.candidates_eq (tracks : Tracks policy session log state)
    (anomalous : decision.isAnomaly = true) (inactive : state.activeAlertId = none)
    (event : Option AlertEventV1) :
    state.candidates decision = decisionIds (streak (log ++ [(decision, event)])) := by
  rw [streak_concat_anomaly (by simpa using anomalous)]
  simp [AlertState.candidates, tracks.quiet inactive, decisionIds]

/-- A new alert is named after a decision of the streak. -/
theorem Tracks.newAlertId_eq (tracks : Tracks policy session log state)
    (ofSession : decision.replaySessionId = session) (anomalous : decision.isAnomaly = true)
    (inactive : state.activeAlertId = none) (event : Option AlertEventV1) :
    ∃ entry ∈ streak (log ++ [(decision, event)]),
      state.newAlertId decision = alertIdFor session entry.1.decisionId := by
  unfold AlertState.newAlertId
  rw [tracks.candidates_eq anomalous inactive event, ofSession]
  cases held : streak (log ++ [(decision, event)]) with
  | nil =>
      rw [streak_concat_anomaly (by simpa using anomalous)] at held
      simp at held
  | cons first rest => exact ⟨first, List.mem_cons_self, rfl⟩

theorem Tracks.open (positive : 1 ≤ policy.cooldownDecisions)
    (tracks : Tracks policy session log state) (ofSession : decision.replaySessionId = session)
    (anomalous : decision.isAnomaly = true) (inactive : state.activeAlertId = none)
    {event : AlertEventV1} {firstDet : Int} {newStreak : Nat} (opened : event.action = .opened)
    (alertId : event.alertId = state.newAlertId decision)
    (lists : event.decisionIds = state.candidates decision)
    (identified : Identified session (decisionIds (log ++ [(decision, some event)]))) :
    Tracks policy session (log ++ [(decision, some event)])
      (state.raised decision event.alertId firstDet newStreak event.decisionIds) := by
  have onset : LogEntry.isOnset (decision, some event) = true := by
    simp [LogEntry.isOnset, opened]
  have opens : openedIds (log ++ [(decision, some event)]) = openedIds log ++ [event.alertId] :=
    openedIds_concat_opened rfl opened
  obtain ⟨first, inStreak, named⟩ :=
    tracks.newAlertId_eq ofSession anomalous inactive (some event)
  rw [← alertId] at named
  have inLog : first ∈ log ++ [(decision, some event)] := (List.rtakeWhile_suffix _ _).subset inStreak
  have fresh : event.alertId ∉ openedIds log := by
    intro mem
    obtain ⟨earlier, before, same⟩ := tracks.namedBefore inactive _ mem
    exact identified.notMem_of_streak inStreak
      ⟨earlier, settled_subset_concat before, same⟩ named
  refine tracks.raise positive anomalous (by simp [opened]) ?_ ?_ identified (by simp [opened]) ?_ ?_
  · have tag : event.tag = (.opened, event.alertId) := by simp [AlertEventV1.tag, opened]
    rw [tag]
    exact Lib.Reads.opens (inactive ▸ tracks.reads) (.inl rfl)
  · rw [lists, bracketDecisions_concat_onset onset (by simpa using anomalous), ← tracks.quiet inactive]
    rfl
  · rw [opens]
    refine List.nodup_append.mpr ⟨tracks.openedOnce, List.nodup_singleton _, ?_⟩
    rintro earlier mem _ (_ | ⟨_, ⟨⟩⟩) rfl
    exact fresh mem
  · rw [opens]
    intro each mem
    rcases List.mem_append.mp mem with earlier | new
    · obtain ⟨entry, before, same⟩ := tracks.named each earlier
      exact ⟨entry, List.mem_append_left _ before, same⟩
    · rw [List.mem_singleton.mp new]
      exact ⟨first, inLog, named⟩

theorem Tracks.reopen (positive : 1 ≤ policy.cooldownDecisions)
    (tracks : Tracks policy session log state)
    (anomalous : decision.isAnomaly = true) (inactive : state.activeAlertId = none)
    (merged : isReopen state decision.sourceTimestamp policy = true)
    {event : AlertEventV1} {firstDet : Int} {newStreak : Nat} (reopened : event.action = .reopened)
    (alertId : state.previousAlertId = some event.alertId)
    (lists : event.decisionIds = state.candidates decision)
    (stamped : event.sourceTimestamp = decision.sourceTimestamp)
    (identified : Identified session (decisionIds (log ++ [(decision, some event)]))) :
    Tracks policy session (log ++ [(decision, some event)])
      (state.raised decision event.alertId firstDet newStreak event.decisionIds) := by
  have onset : LogEntry.isOnset (decision, some event) = true := by
    simp [LogEntry.isOnset, reopened]
  have opens : openedIds (log ++ [(decision, some event)]) = openedIds log :=
    openedIds_concat_other (by simp [reopened])
  obtain ⟨-, resolvedAt, held, gap, within⟩ := isReopen_eq_true_iff.mp merged
  refine tracks.raise positive anomalous (by simp [reopened]) ?_ ?_ identified (fun _ => ?_) ?_ ?_
  · have tag : event.tag = (.reopened, event.alertId) := by simp [AlertEventV1.tag, reopened]
    rw [tag]
    exact Lib.Reads.opens (inactive ▸ tracks.reads) (.inr rfl)
  · rw [lists, bracketDecisions_concat_onset onset (by simpa using anomalous), ← tracks.quiet inactive]
    rfl
  · rw [tracks.previous] at alertId
    obtain ⟨resolved, last, same⟩ := Option.map_eq_some_iff.mp alertId
    rw [tracks.resolvedAt inactive, last] at held
    cases held
    refine ⟨resolved, last, same.symm, gap, ?_⟩
    rw [stamped]
    simpa [withinSeconds] using within
  · rw [opens]
    exact tracks.openedOnce
  · rw [opens]
    intro each mem
    obtain ⟨entry, before, same⟩ := tracks.named each mem
    exact ⟨entry, List.mem_append_left _ before, same⟩

theorem Tracks.update (positive : 1 ≤ policy.cooldownDecisions)
    (tracks : Tracks policy session log state) (anomalous : decision.isAnomaly = true)
    {event : AlertEventV1} {firstDet : Int} {newStreak : Nat} (updated : event.action = .updated)
    (active : state.activeAlertId = some event.alertId)
    (lists : event.decisionIds = state.candidates decision)
    (identified : Identified session (decisionIds (log ++ [(decision, some event)]))) :
    Tracks policy session (log ++ [(decision, some event)])
      (state.raised decision event.alertId firstDet newStreak event.decisionIds) := by
  have opens : openedIds (log ++ [(decision, some event)]) = openedIds log :=
    openedIds_concat_other (by simp [updated])
  refine tracks.raise positive anomalous (by simp [updated]) ?_ ?_ identified (by simp [updated]) ?_ ?_
  · have tag : event.tag = (.updated, event.alertId) := by simp [AlertEventV1.tag, updated]
    rw [tag]
    exact Lib.Reads.stays (active ▸ tracks.reads) rfl
  · rw [bracketDecisions_concat_inner (by simp [LogEntry.isOnset, updated]), lists,
      ← tracks.raised (by simp [active])]
    simp [anomalous, decisionIds, AlertState.candidates]
  · rw [opens]
    exact tracks.openedOnce
  · rw [opens]
    intro each mem
    obtain ⟨entry, before, same⟩ := tracks.named each mem
    exact ⟨entry, List.mem_append_left _ before, same⟩

/-- One decision. -/
theorem Tracks.step (positive : 1 ≤ policy.cooldownDecisions)
    (tracks : Tracks policy session log state) (ofSession : decision.replaySessionId = session)
    (outcome : Outcome stamp state decision policy result)
    (identified : Identified session (decisionIds (log ++ [(decision, result.event)]))) :
    Tracks policy session (log ++ [(decision, result.event)]) result.state := by
  cases outcome with
  | pending anomalous inactive _ => exact tracks.pending positive anomalous inactive _
  | opened _ anomalous inactive _ _ =>
      exact tracks.open positive ofSession anomalous inactive rfl rfl rfl identified
  | reopened _ anomalous inactive _ merged previous =>
      exact tracks.reopen positive anomalous inactive merged rfl previous rfl rfl identified
  | updated _ anomalous active => exact tracks.update positive anomalous rfl active rfl identified
  | resolved normal active cooled =>
      exact tracks.resolve positive normal cooled rfl active rfl rfl identified
  | cooling normal active short => exact tracks.warm positive normal (by simp [active]) short
  | idle normal inactive => exact tracks.idle positive normal inactive

end Tracks

/-! ### The fold -/

variable [PyFloat F]

/-- The events of the fold of `transition` over a stream, with their decisions, up
to the first decision that raises. -/
def eventLog (policy : LockedAlertPolicyV1 F) :
    AlertState → List (TransitionStamp × Checked (ScoreDecisionV1 F)) → List (LogEntry F)
  | _, [] => []
  | state, (stamp, decision) :: rest =>
      match transition stamp state decision.val policy with
      | .error _ => []
      | .ok result => (decision.val, result.event) :: eventLog policy result.state rest

/-- When the fold goes through, the log is what it returned. -/
theorem eventLog_of_foldTransition {policy : LockedAlertPolicyV1 F} {state : AlertState}
    {stream : List (TransitionStamp × Checked (ScoreDecisionV1 F))}
    {results : List (TransitionResult F)} (folded : foldTransition policy state stream = .ok results) :
    eventLog policy state stream =
      (stream.map (·.2.val)).zip (results.map TransitionResult.event) := by
  induction stream generalizing state results with
  | nil => rfl
  | cons delivered rest ih =>
      obtain ⟨stamp, decision⟩ := delivered
      obtain ⟨result, taken, folded⟩ := Lib.bind_eq_ok_iff.mp folded
      obtain ⟨tail, rest, returned⟩ := Lib.bind_eq_ok_iff.mp folded
      obtain rfl := Lib.pure_eq_ok_iff.mp returned
      unfold eventLog
      rw [taken]
      exact congrArg _ (ih rest)

section Run

open EventLog

variable {policy : LockedAlertPolicyV1 F} {session : UUID} {log : List (LogEntry F)}
  {state : AlertState} {stream : List (TransitionStamp × Checked (ScoreDecisionV1 F))}

/-- A stream of decisions of the session, not seen before. -/
theorem Tracks.grammar_append (positive : 1 ≤ policy.cooldownDecisions)
    (tracks : Tracks policy session log state)
    (ofSession : ∀ delivered ∈ stream, delivered.2.val.replaySessionId = session)
    (identified : Identified session (decisionIds log ++ stream.map (·.2.val.decisionId))) :
    EventLogGrammar policy (log ++ eventLog policy state stream) := by
  induction stream generalizing log state with
  | nil => simpa [eventLog] using tracks.grammar
  | cons delivered rest ih =>
      obtain ⟨stamp, decision⟩ := delivered
      unfold eventLog
      cases taken : transition stamp state decision.val policy with
      | error raised => simpa using tracks.grammar
      | ok result =>
          have sameIds : decisionIds log ++
              ((stamp, decision) :: rest).map (·.2.val.decisionId) =
              decisionIds (log ++ [(decision.val, result.event)]) ++
                rest.map (·.2.val.decisionId) := by simp [decisionIds]
          rw [sameIds] at identified
          have fresh : state.lastDecisionId ≠ some decision.val.decisionId := by
            intro last
            have distinct := identified.of_append.distinct
            simp only [decisionIds, List.map_append, List.nodup_append] at distinct
            exact distinct.2.2 _ (tracks.last _ last) _ (by simp) rfl
          have next := tracks.step positive (ofSession _ List.mem_cons_self)
            (transition_outcome fresh taken) identified.of_append
          have grammar := ih next (fun later mem => ofSession later (List.mem_cons_of_mem _ mem))
            identified
          rwa [List.append_assoc] at grammar

/-- The events of any stream of distinct decisions of a session, in order, follow
the grammar of the alert log, with the alert ids of the session taken to be distinct
for distinct decisions. -/
theorem eventLog_grammar (session : UUID) (machineId : String)
    (positive : 1 ≤ policy.cooldownDecisions)
    (ofSession : ∀ delivered ∈ stream, delivered.2.val.replaySessionId = session)
    (inOrder : InOrder stream)
    (injective : Set.InjOn (alertIdFor session)
      {decisionId | decisionId ∈ stream.map (·.2.val.decisionId)}) :
    EventLogGrammar policy (eventLog policy (.empty session machineId) stream) := by
  have distinct : (stream.map (·.2.val.decisionId)).Nodup :=
    List.pairwise_map.mpr (inOrder.imp And.right)
  exact (tracks_empty machineId).grammar_append positive ofSession ⟨distinct, injective⟩

end Run

end Live

theorem reopenedStream_grammar :
    letI := episodeNames
    EventLogGrammar promptPolicy (eventLog promptPolicy (.empty 1 "metropt3") reopenedStream) := by
  let := episodeNames
  refine eventLog_grammar 1 "metropt3" (by decide) (by decide) (by decide) ?_
  have distinct : ∀ a ∈ reopenedStream.map (·.2.val.decisionId),
      ∀ b ∈ reopenedStream.map (·.2.val.decisionId), alertIdFor 1 a = alertIdFor 1 b → a = b := by
    decide
  exact fun a first b second => distinct a first b second

end IndustrialReliability
