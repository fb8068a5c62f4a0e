import IndustrialReliability.Lab.Controls

/-!
The faults that a history of injections and clearances leaves in force.

A change addresses a target and a kind: it takes what is in force there away, and an
injection puts its fault at the end. So in force are the faults of the start that no
change addresses, and then those injected that no later change addresses
(`activeFaults_foldl`). What was addressed is in force at most once, and therefore two
histories that leave the same faults leave the same fault to each reader that asks for
a target and a kind (`SameFaults.fault_alike`).
-/

namespace IndustrialReliability

open Lib

variable {R : Type} [LabNumber R]

omit [LabNumber R] in
/-- The same target, kind, port and values. -/
structure SameFault (f g : ActiveFault R) : Prop where
  targetId : f.targetId = g.targetId
  kind : f.kind = g.kind
  port : f.port = g.port
  values : ∀ key, f.values.get? key = g.values.get? key

omit [LabNumber R] in
/-- The same faults, as sets. -/
structure SameFaults (fs gs : List (ActiveFault R)) : Prop where
  left : ∀ f ∈ fs, ∃ g ∈ gs, SameFault f g
  right : ∀ g ∈ gs, ∃ f ∈ fs, SameFault f g

section Sets

omit [LabNumber R]

variable {f g : ActiveFault R} {fs gs : List (ActiveFault R)}

theorem SameFault.refl (f : ActiveFault R) : SameFault f f := ⟨rfl, rfl, rfl, fun _ => rfl⟩

theorem SameFault.symm (same : SameFault f g) : SameFault g f :=
  ⟨same.targetId.symm, same.kind.symm, same.port.symm, fun key => (same.values key).symm⟩

theorem SameFault.rel_symm {f g : Option (ActiveFault R)} (related : Option.Rel SameFault f g) :
    Option.Rel SameFault g f := by
  cases related with
  | some same => exact .some same.symm
  | none => exact .none

theorem SameFaults.symm (same : SameFaults fs gs) : SameFaults gs fs where
  left g mem := by
    obtain ⟨f, its, equal⟩ := same.right g mem
    exact ⟨f, its, equal.symm⟩
  right f mem := by
    obtain ⟨g, its, equal⟩ := same.left f mem
    exact ⟨g, its, equal.symm⟩

theorem SameFaults.of_perm (perm : fs.Perm gs) : SameFaults fs gs :=
  ⟨fun f mem => ⟨f, perm.mem_iff.mp mem, .refl f⟩, fun g mem => ⟨g, perm.mem_iff.mpr mem, .refl g⟩⟩

end Sets

theorem SameFault.float {f g : ActiveFault R} (same : SameFault f g) (key : String) (default : ℚ) :
    f.float key default = g.float key default := by
  unfold ActiveFault.float
  rw [same.values]

/-! ### What a history leaves -/

namespace ControlChange

omit [LabNumber R]

/-- The change is about the faults of this kind at this target. -/
def Addresses (change : ControlChange R) (target : UUID) (kind : FaultKind) : Prop :=
  match change with
  | inject fault => fault.targetId = target ∧ fault.kind = kind
  | clear cleared clearedKind => cleared = target ∧ clearedKind = kind
  | set .. | nothing => False

instance (change : ControlChange R) (target : UUID) (kind : FaultKind) :
    Decidable (change.Addresses target kind) := by
  cases change <;> unfold Addresses <;> infer_instance

/-- The fault that an injection brings. -/
def injected : ControlChange R → List (ActiveFault R)
  | inject fault => [fault]
  | _ => []

/-- A change of no setpoint. -/
def OfFaults : ControlChange R → Prop
  | set .. => False
  | _ => True

variable {change : ControlChange R} {controls : ControlState R} {fault : ActiveFault R}

theorem addresses_of_injected (mem : fault ∈ change.injected) :
    change.Addresses fault.targetId fault.kind := by
  cases change with
  | inject other =>
      obtain rfl := List.mem_singleton.mp mem
      exact ⟨rfl, rfl⟩
  | set _ _ _ | clear _ _ | nothing => cases mem

theorem activeFaults_apply (change : ControlChange R) (controls : ControlState R) :
    (apply controls change).activeFaults = (controls.activeFaults.filter fun fault =>
      ¬ change.Addresses fault.targetId fault.kind) ++ change.injected := by
  cases change with
  | inject fault | clear target kind => simp [apply, Addresses, injected, eq_comm]
  | set _ _ _ | nothing => simp [apply, Addresses, injected, ControlState.setSetpoint]

theorem setpoints_apply (ofFaults : change.OfFaults) (controls : ControlState R) :
    (apply controls change).setpoints = controls.setpoints := by
  cases change with
  | set _ _ _ => exact ofFaults.elim
  | inject _ | clear _ _ | nothing => rfl

/-- A change leaves the reader of another target or kind what it read. -/
theorem fault_apply {target : UUID} {kind : FaultKind} (other : ¬ change.Addresses target kind) :
    (apply controls change).fault target kind = controls.fault target kind := by
  cases change with
  | set _ _ _ | nothing => rfl
  | inject fault => exact (ControlState.fault_inject fault target kind).trans (if_neg other)
  | clear cleared clearedKind => exact (ControlState.fault_clear cleared clearedKind target kind).trans (if_neg other)

end ControlChange

section History

omit [LabNumber R]

variable {changes : List (ControlChange R)} {start : ControlState R} {target : UUID} {kind : FaultKind}

/-- Some change is about the faults of this kind at this target. -/
def Addressed (changes : List (ControlChange R)) (target : UUID) (kind : FaultKind) : Prop :=
  ∃ change ∈ changes, change.Addresses target kind

instance (changes : List (ControlChange R)) (target : UUID) (kind : FaultKind) :
    Decidable (Addressed changes target kind) :=
  inferInstanceAs (Decidable (∃ change ∈ changes, change.Addresses target kind))

/-- The faults that are injected and not addressed again. -/
def standing : List (ControlChange R) → List (ActiveFault R)
  | [] => []
  | change :: later =>
      (change.injected.filter fun fault => ¬ Addressed later fault.targetId fault.kind) ++ standing later

/-- The faults in force after a history, in the order of their injection. -/
def faultsInForce (start : ControlState R) (changes : List (ControlChange R)) : List (ActiveFault R) :=
  (start.activeFaults.filter fun fault => ¬ Addressed changes fault.targetId fault.kind) ++ standing changes

theorem addressed_cons {change : ControlChange R} :
    Addressed (change :: changes) target kind ↔ change.Addresses target kind ∨ Addressed changes target kind := by
  simp [Addressed]

theorem activeFaults_foldl (changes : List (ControlChange R)) (start : ControlState R) :
    (changes.foldl ControlChange.apply start).activeFaults = faultsInForce start changes := by
  induction changes generalizing start with
  | nil => simp [faultsInForce, standing, Addressed]
  | cons change later ih =>
      rw [List.foldl_cons, ih]
      unfold faultsInForce
      rw [ControlChange.activeFaults_apply, List.filter_append, List.filter_filter, standing,
        List.append_assoc]
      congr 1
      refine List.filter_congr fun fault _ => ?_
      rw [← Bool.decide_and]
      refine decide_eq_decide.mpr ?_
      rw [addressed_cons, not_or, and_comm]

theorem setpoints_foldl (ofFaults : ∀ change ∈ changes, change.OfFaults) (start : ControlState R) :
    (changes.foldl ControlChange.apply start).setpoints = start.setpoints := by
  induction changes generalizing start with
  | nil => rfl
  | cons change later ih =>
      obtain ⟨first, rest⟩ := List.forall_mem_cons.mp ofFaults
      exact (ih rest _).trans (ControlChange.setpoints_apply first start)

theorem fault_foldl (other : ¬ Addressed changes target kind) :
    (changes.foldl ControlChange.apply start).fault target kind = start.fault target kind := by
  induction changes generalizing start with
  | nil => rfl
  | cons change later ih =>
      obtain ⟨first, rest⟩ := not_or.mp (addressed_cons.not.mp other)
      exact (ih rest).trans (ControlChange.fault_apply first)

/-- One fault of this kind at this target, at most. -/
def ControlState.Single (controls : ControlState R) (target : UUID) (kind : FaultKind) : Prop :=
  ∀ f ∈ controls.activeFaults, ∀ g ∈ controls.activeFaults,
    f.targetId = target ∧ f.kind = kind → g.targetId = target ∧ g.kind = kind → f = g

/-- What is addressed is in force at most once, whatever the start holds. -/
theorem single_apply_of_addresses {change : ControlChange R} (addresses : change.Addresses target kind)
    (start : ControlState R) : (ControlChange.apply start change).Single target kind := by
  have each : ∀ f ∈ (ControlChange.apply start change).activeFaults,
      f.targetId = target ∧ f.kind = kind → f ∈ change.injected := by
    rintro f mem ⟨rfl, rfl⟩
    rw [ControlChange.activeFaults_apply] at mem
    refine (List.mem_append.mp mem).resolve_left fun kept => ?_
    exact of_decide_eq_true (List.mem_filter.mp kept).2 addresses
  intro f first g second its its'
  have left := each f first its
  have right := each g second its'
  cases change with
  | inject fault => rw [List.mem_singleton.mp left, List.mem_singleton.mp right]
  | set _ _ _ | clear _ _ | nothing => cases left

theorem ControlState.Single.apply (single : start.Single target kind) (change : ControlChange R) :
    (ControlChange.apply start change).Single target kind := by
  by_cases addresses : change.Addresses target kind
  · exact single_apply_of_addresses addresses start
  · have each : ∀ f ∈ (ControlChange.apply start change).activeFaults,
        f.targetId = target ∧ f.kind = kind → f ∈ start.activeFaults := by
      rintro f mem ⟨rfl, rfl⟩
      rw [ControlChange.activeFaults_apply] at mem
      rcases List.mem_append.mp mem with kept | brought
      · exact List.mem_of_mem_filter kept
      · exact absurd (ControlChange.addresses_of_injected brought) addresses
    exact fun f first g second its its' => single f (each f first its) g (each g second its') its its'

theorem ControlState.Single.foldl (single : start.Single target kind) (changes : List (ControlChange R)) :
    (changes.foldl ControlChange.apply start).Single target kind := by
  induction changes generalizing start with
  | nil => exact single
  | cons change later ih => exact ih (single.apply change)

theorem single_of_addressed (addressed : Addressed changes target kind) :
    (changes.foldl ControlChange.apply start).Single target kind := by
  induction changes generalizing start with
  | nil => simp [Addressed] at addressed
  | cons change later ih =>
      rcases addressed_cons.mp addressed with first | rest
      · exact (single_apply_of_addresses first start).foldl later
      · exact ih rest

/-! ### Histories that leave the same faults -/

variable {c₁ c₂ : ControlState R} {changes₁ changes₂ : List (ControlChange R)}

theorem ControlState.fault_eq_some {controls : ControlState R} {fault : ActiveFault R}
    (read : controls.fault target kind = some fault) :
    fault ∈ controls.activeFaults ∧ fault.targetId = target ∧ fault.kind = kind := by
  obtain ⟨mem, its⟩ := latest_eq_some read
  exact ⟨mem, of_decide_eq_true its⟩

theorem SameFaults.fault_of_single (same : SameFaults c₁.activeFaults c₂.activeFaults)
    (single : c₁.Single target kind) : Option.Rel SameFault (c₁.fault target kind) (c₂.fault target kind) := by
  cases second : c₂.fault target kind with
  | none =>
      have absent : c₁.fault target kind = none := by
        refine latest_eq_none_iff.mpr fun f mem its => ?_
        obtain ⟨g, there, equal⟩ := same.left f mem
        have its := of_decide_eq_true its
        rw [equal.targetId, equal.kind] at its
        exact latest_eq_none_iff.mp second g there (decide_eq_true its)
      rw [absent]
      exact .none
  | some g =>
      obtain ⟨mem, its⟩ := ControlState.fault_eq_some second
      obtain ⟨f, there, equal⟩ := same.right g mem
      rw [← equal.targetId, ← equal.kind] at its
      obtain ⟨f', first⟩ := exists_latest (p := fun f : ActiveFault R => f.targetId = target ∧ f.kind = kind)
        there (decide_eq_true its)
      obtain ⟨there', its'⟩ := ControlState.fault_eq_some first
      obtain rfl := single f there f' there' its its'
      rw [show c₁.fault target kind = some f from first]
      exact .some equal

/-- Histories that leave the same faults leave the same one to every reader that asks for
a target and a kind. -/
theorem SameFaults.fault_alike
    (same : SameFaults (faultsInForce start changes₁) (faultsInForce start changes₂)) (target : UUID)
    (kind : FaultKind) : Option.Rel SameFault ((changes₁.foldl ControlChange.apply start).fault target kind)
      ((changes₂.foldl ControlChange.apply start).fault target kind) := by
  rw [← activeFaults_foldl, ← activeFaults_foldl] at same
  by_cases first : Addressed changes₁ target kind
  · exact same.fault_of_single (single_of_addressed first)
  by_cases second : Addressed changes₂ target kind
  · exact SameFault.rel_symm (same.symm.fault_of_single (single_of_addressed second))
  · rw [fault_foldl first, fault_foldl second]
    cases start.fault target kind with
    | none => exact .none
    | some fault => exact .some (.refl fault)

end History

/-! ### Histories of commands -/

section Commands

variable [FloatConversions R] {command : ControlCommand R} {history : List (ControlCommand R)}
  {start controls : ControlState R}

omit [LabNumber R] [FloatConversions R] in
/-- An injection or a clearance. -/
def ControlCommand.OnFaults (command : ControlCommand R) : Prop :=
  command.action = "INJECT_FAULT" ∨ command.action = "CLEAR_FAULT"

theorem ControlCommand.OnFaults.change (onFaults : command.OnFaults) {change : ControlChange R}
    (read : command.change = .ok change) : change.OfFaults := by
  unfold ControlCommand.change at read
  rcases onFaults with action | action
  · rw [action] at read
    obtain ⟨target, -, read⟩ := bind_eq_ok_iff.mp read
    obtain ⟨kind, -, read⟩ := bind_eq_ok_iff.mp read
    obtain ⟨fault, -, read⟩ := bind_eq_ok_iff.mp read
    obtain rfl := pure_eq_ok_iff.mp read
    trivial
  · rw [action] at read
    obtain ⟨target, -, read⟩ := bind_eq_ok_iff.mp read
    obtain ⟨kind, -, read⟩ := bind_eq_ok_iff.mp read
    split at read
    · obtain rfl := pure_eq_ok_iff.mp read
      trivial
    · obtain rfl := pure_eq_ok_iff.mp read
      trivial

theorem changesOf_ofFaults (onFaults : ∀ command ∈ history, command.OnFaults) :
    ∀ change ∈ changesOf history, change.OfFaults := by
  intro change mem
  obtain ⟨command, its, read⟩ := List.mem_filterMap.mp mem
  exact (onFaults command its).change (toOption_eq_some_iff.mp read)

/-- The controls with the faults that a history leaves in force. -/
def ControlState.leftBy (start : ControlState R) (history : List (ControlCommand R)) : ControlState R :=
  { start with activeFaults := faultsInForce start (changesOf history) }

/-- Injections and clearances change the faults in force alone. -/
theorem applyCommands_leftBy (onFaults : ∀ command ∈ history, command.OnFaults)
    (applied : applyCommands start history = .ok controls) : controls = start.leftBy history := by
  obtain rfl := applyCommands_eq_ok applied
  have setpoints := setpoints_foldl (changesOf_ofFaults onFaults) start
  have faults := activeFaults_foldl (changesOf history) start
  unfold ControlState.leftBy
  rw [← setpoints, ← faults]

end Commands

end IndustrialReliability
