import IndustrialReliability.Lab.Controls
import IndustrialReliability.Lab.Readings

/-!
How far a valve is open, from the commands a run has been given.

A valve is stuck, or as open as it was last commanded, or as its definition has it
(`ValvePosition.effectiveOpening`). The network is compiled with the opening of the
definition in the conductance, and a step multiplies it by the opening in the controls;
the main theorem says when the product is the rated conductance at the effective opening.
-/

namespace IndustrialReliability

open Lib

/-! ### The position of a valve -/

/-- The opening last commanded, and that at which the valve is stuck. -/
structure ValvePosition (R : Type) where
  commanded : Option R
  stuck : Option R

namespace ValvePosition

def untouched {R : Type} : ValvePosition R := ⟨none, none⟩

variable {R : Type} [LabNumber R]

/-- A change moves the valve, makes it stick or frees it. -/
def change (valve : UUID) (position : ValvePosition R) : ControlChange R → ValvePosition R
  | .set target key value =>
      if target = valve ∧ key = "opening" then { position with commanded := some value.toFloat } else position
  | .inject fault =>
      if fault.targetId = valve ∧ fault.kind = .VALVE_STUCK then
        { position with stuck := some (fault.float "opening" 0.0) }
      else position
  | .clear target kind =>
      if target = valve ∧ kind = .VALVE_STUCK then { position with stuck := none } else position
  | .nothing => position

/-- The position after the commands of a history. -/
def of [FloatConversions R] (valve : UUID) (history : List (ControlCommand R)) : ValvePosition R :=
  (changesOf history).foldl (change valve) untouched

omit [LabNumber R] in
/-- The stuck opening, else the one last commanded, else the initial one. -/
def effectiveOpening (position : ValvePosition R) (initial : R) : R :=
  (position.stuck <|> position.commanded).getD initial

end ValvePosition

variable {R : Type} [LabNumber R]

/-- The controls hold the position of a valve. -/
structure HoldsPosition (controls : ControlState R) (valve : UUID) (position : ValvePosition R) : Prop where
  commanded : ((controls.setpoint valve).get? "opening").map ParamValue.toFloat = position.commanded
  stuck : (controls.fault valve .VALVE_STUCK).map (·.float "opening" 0.0) = position.stuck

theorem holdsPosition_initial (valve : UUID) :
    HoldsPosition (.initial : ControlState R) valve .untouched := ⟨rfl, rfl⟩

/-- A change does to the controls what it does to the valve. -/
theorem HoldsPosition.change {controls : ControlState R} {valve : UUID} {position : ValvePosition R}
    (holds : HoldsPosition controls valve position) (change : ControlChange R) :
    HoldsPosition (change.apply controls) valve (position.change valve change) := by
  obtain ⟨commanded, stuck⟩ := holds
  cases change with
  | set target key value =>
      by_cases moves : target = valve ∧ key = "opening"
      · constructor <;> simp [ValvePosition.change, ControlState.setting_set, moves, stuck]
      · constructor <;> simp [ValvePosition.change, ControlState.setting_set, moves, commanded, stuck]
  | inject fault =>
      by_cases sticks : fault.targetId = valve ∧ fault.kind = .VALVE_STUCK
      · constructor <;> simp [ValvePosition.change, ControlState.fault_inject, sticks, commanded]
      · constructor <;> simp [ValvePosition.change, ControlState.fault_inject, sticks, commanded, stuck]
  | clear target kind =>
      by_cases frees : target = valve ∧ kind = .VALVE_STUCK
      · constructor <;> simp [ValvePosition.change, ControlState.fault_clear, frees, commanded]
      · constructor <;> simp [ValvePosition.change, ControlState.fault_clear, frees, commanded, stuck]
  | nothing => exact ⟨commanded, stuck⟩

theorem holdsPosition_foldl {controls : ControlState R} {valve : UUID} {position : ValvePosition R}
    (holds : HoldsPosition controls valve position) (changes : List (ControlChange R)) :
    HoldsPosition (changes.foldl ControlChange.apply controls) valve
      (changes.foldl (ValvePosition.change valve) position) := by
  induction changes generalizing controls position with
  | nil => exact holds
  | cons change changes ih => exact ih (holds.change change)

/-- The controls after a history hold the position its commands give. -/
theorem holdsPosition_of_applied [FloatConversions R] {history : List (ControlCommand R)}
    {controls : ControlState R} (applied : applyCommands .initial history = .ok controls) (valve : UUID) :
    HoldsPosition controls valve (.of valve history) := by
  rw [applyCommands_eq_ok applied]
  exact holdsPosition_foldl (holdsPosition_initial valve) _

/-- A step takes a valve that is neither stuck nor commanded to be open. -/
theorem HoldsPosition.valveOpening {controls : ControlState R} {valve : UUID} {position : ValvePosition R}
    (holds : HoldsPosition controls valve position) :
    valveOpening controls valve = position.effectiveOpening (num 1.0) := by
  unfold IndustrialReliability.valveOpening ValvePosition.effectiveOpening Parameters.float
  rw [← holds.stuck, ← holds.commanded]
  cases controls.fault valve .VALVE_STUCK with
  | some stuck => rfl
  | none => cases (controls.setpoint valve).get? "opening" <;> rfl

/-! ### The conductance -/

/-- `conductance_kg_s_pa` of a valve. -/
def ratedConductance (valve : Asset R) : R := valve.parameters.float "conductance_kg_s_pa" 2e-7

/-- `opening` of a valve. -/
def initialOpening (valve : Asset R) : R := valve.parameters.float "opening" 1.0

section Edge

variable {definition : LabDefinition R} {network : CompiledNetwork R} {pipes valves : List (NetworkEdge R)}

/-- Every valve has its edge. -/
theorem Compiled.exists_valveEdge (compiled : Compiled definition network pipes valves)
    (eligible : RunEligible definition) {valve : Asset R} (mem : valve ∈ definition.assets)
    (isValve : valve.type.isValve = true) : ∃ edge ∈ network.edges,
      edge.edgeId = .internal valve.assetId ∧ ∀ controls : ControlState R, edgeConductance controls edge =
        ratedConductance valve * initialOpening valve * clamp 1.0 (valveOpening controls valve.assetId) := by
  have kept : valve ∈ (sortedAssets definition).filter (·.type.isValve) :=
    List.mem_filter.mpr ⟨(perm_sortedAssets definition).mem_iff.mpr mem, isValve⟩
  obtain ⟨edge, made, shape⟩ := exists_of_forall₂ compiled.valvesMade.flip kept
  obtain ⟨i, j, -, -, rfl⟩ := valveEdge_eq_ok shape
  have inEdges := List.mem_append_right pipes made
  rw [← (compiled.edgeTable eligible).1] at inEdges
  exact ⟨_, inEdges, rfl, fun controls => rfl⟩

/-- The conductance of a valve in a step. -/
structure ValveConductance (network : CompiledNetwork R) (controls : ControlState R) (valve : UUID)
    (conductance : R) : Prop where
  exists_index : ∃ index conductances, network.edgeIdToIndex.get? (.internal valve) = some index ∧
    edgeConductances network controls = .ok conductances ∧ conductances index = conductance
  exists_edge : ∃ edge ∈ network.edges, edge.edgeId = .internal valve ∧
    edgeConductance controls edge = conductance

theorem Compiled.valveConductance (compiled : Compiled definition network pipes valves)
    (eligible : RunEligible definition) {valve : Asset R} (mem : valve ∈ definition.assets)
    (isValve : valve.type.isValve = true) (controls : ControlState R) :
    ValveConductance network controls valve.assetId
      (ratedConductance valve * initialOpening valve * clamp 1.0 (valveOpening controls valve.assetId)) := by
  obtain ⟨edge, inEdges, id, conductance⟩ := compiled.exists_valveEdge eligible mem isValve
  obtain ⟨conductances, known, values⟩ := compiled.edgeConductances eligible controls
  obtain ⟨index, held⟩ := compiled.edge_found eligible inEdges
  exact ⟨⟨index, conductances, id ▸ held, known,
    (values edge inEdges index held).trans (conductance controls)⟩, edge, inEdges, id, conductance controls⟩

theorem ValveConductance.unique {controls : ControlState R} {valve : UUID} {k k' : R}
    (first : ValveConductance network controls valve k)
    (second : ValveConductance network controls valve k') : k = k' := by
  obtain ⟨index, conductances, held, known, rfl⟩ := first.exists_index
  obtain ⟨index', conductances', held', known', rfl⟩ := second.exists_index
  rw [held, Option.some.injEq] at held'
  rw [known, Except.ok.injEq] at known'
  rw [held', known']

end Edge

section Exact

variable {K : Type} [ExactNumber K] [FloatConversions K]

omit [FloatConversions K] in
theorem clamp_one (value : K) : clamp 1.0 value = max 0 (min 1 value) := by
  unfold clamp
  rw [LabNumber.pyMax_eq, LabNumber.pyMin_eq, LabNumber.num_eq, LabNumber.num_eq]
  norm_num

omit [FloatConversions K] in
theorem clamp_eq_zero_iff (value : K) : clamp 1.0 value = 0 ↔ value ≤ 0 := by
  rw [clamp_one, max_eq_left_iff, min_le_iff]
  simp [not_le.mpr (zero_lt_one (α := K))]

omit [FloatConversions K] in
/-- A factor in the conductance shows unless it is one or the valve is shut. -/
theorem conductance_eq_iff {rated : K} (positive : 0 < rated) (initial opening : K) :
    rated * initial * clamp 1.0 opening = rated * clamp 1.0 opening ↔ initial = 1 ∨ opening ≤ 0 := by
  rw [← clamp_eq_zero_iff opening, mul_assoc, mul_right_inj' positive.ne']
  constructor
  · intro same
    by_cases shut : clamp 1.0 opening = 0
    · exact .inr shut
    · exact .inl (mul_right_cancel₀ shut (same.trans (one_mul _).symm))
  · rintro (full | shut)
    · rw [full, one_mul]
    · rw [shut, mul_zero]

/-- A step uses the rated conductance at the effective opening exactly when the valve has
been left alone, its initial opening is full, or it is now shut. -/
theorem valve_conductance_iff [Sha256Digest] {definition : LabDefinition K}
    (eligible : (validateLab definition).runEligible = true) {dt : K} {network : CompiledNetwork K}
    (ok : compileLab definition dt = .ok network) {valve : Asset K} (mem : valve ∈ definition.assets)
    (isValve : valve.type.isValve = true) {history : List (ControlCommand K)} {controls : ControlState K}
    (applied : applyCommands .initial history = .ok controls) :
    ValveConductance network controls valve.assetId (ratedConductance valve *
        clamp 1.0 ((ValvePosition.of valve.assetId history).effectiveOpening (initialOpening valve))) ↔
      ValvePosition.of valve.assetId history = .untouched ∨ initialOpening valve = 1 ∨
        (ValvePosition.of valve.assetId history).effectiveOpening (initialOpening valve) ≤ 0 := by
  obtain ⟨pipes, valves, compiled⟩ := compileLab_eq_ok ok
  have used := compiled.valveConductance (runEligible_of_validateLab eligible) mem isValve controls
  obtain ⟨positive, nonneg, atMost⟩ := valve.valve_range isValve
  have positive : 0 < ratedConductance valve := positive
  have nonneg : 0 ≤ initialOpening valve := nonneg
  have atMost : initialOpening valve ≤ 1 := atMost
  have initial : clamp 1.0 (initialOpening valve) = initialOpening valve := by
    rw [clamp_one, min_eq_right atMost, max_eq_right nonneg]
  have whole : clamp 1.0 (num 1.0 : K) = 1 := by
    rw [clamp_one, LabNumber.num_eq]
    norm_num
  rw [(holdsPosition_of_applied applied valve.assetId).valveOpening] at used
  generalize ValvePosition.of valve.assetId history = position at used ⊢
  have same_iff (k : K) : ValveConductance network controls valve.assetId k ↔
      ratedConductance valve * initialOpening valve * clamp 1.0 (position.effectiveOpening (num 1.0)) = k :=
    ⟨used.unique, fun same => same ▸ used⟩
  rw [same_iff]
  obtain ⟨commanded, stuck⟩ := position
  cases stuck with
  | some opening =>
      have touched : (⟨commanded, some opening⟩ : ValvePosition K) ≠ .untouched := nofun
      simp [touched, ValvePosition.effectiveOpening, conductance_eq_iff positive]
  | none =>
      cases commanded with
      | some opening =>
          have touched : (⟨some opening, none⟩ : ValvePosition K) ≠ .untouched := nofun
          simp [touched, ValvePosition.effectiveOpening, conductance_eq_iff positive]
      | none =>
          refine iff_of_true ?_ (.inl rfl)
          show ratedConductance valve * initialOpening valve * clamp 1.0 (num 1.0) =
            ratedConductance valve * clamp 1.0 (initialOpening valve)
          rw [whole, initial, mul_one]

end Exact

/-- A control valve that is defined half open. -/
def halfOpenValve : Asset ℚ :=
  ⟨12, .controlValve, (1, 0, 0), 0, tableOf [("opening", .number (1 / 2))], by decide +kernel⟩

def halfOpenLab : LabDefinition ℚ where
  schemaVersion := "lab-definition-v1"
  labId := 1
  revision := 1
  name := "half open"
  assets := [
    ⟨11, .tank, (0, 0, 0), 0, .empty, default_tank_valid⟩,
    halfOpenValve]
  pipes := [⟨21, ⟨11, .B⟩, ⟨12, .A⟩, 2e-7, [], default_conductance_range, by decide⟩]
  sensors := []
  sceneRevision := "scene"
  revision_pos := Nat.one_pos

theorem halfOpenValve_mem : halfOpenValve ∈ halfOpenLab.assets := by simp [halfOpenLab]

/-- The valve sticks, and is repaired. -/
def stuckAndFreed : List (ControlCommand ℚ) := [
  ⟨"INJECT_FAULT", some 12, tableOf [("kind", .text "VALVE_STUCK"),
    ("values", .object [("opening", .number (1 / 5))])]⟩,
  ⟨"CLEAR_FAULT", some 12, tableOf [("kind", .text "VALVE_STUCK")]⟩]

theorem halfOpen_freed :
    letI := knownSha256 []
    letI := exactConversions
    ∃ network controls, compileLab halfOpenLab (1 / 20) = .ok network ∧
      applyCommands .initial stuckAndFreed = .ok controls ∧ ValveConductance network controls 12
        (ratedConductance halfOpenValve * clamp 1.0
          ((ValvePosition.of 12 stuckAndFreed).effectiveOpening (initialOpening halfOpenValve))) := by
  let _ := knownSha256 []
  let _ := exactConversions
  have eligible : (validateLab halfOpenLab).runEligible = true := by decide +kernel
  obtain ⟨network, compiled⟩ := compileLab_ok (runEligible_of_validateLab eligible) (1 / 20)
  obtain ⟨controls, applied⟩ : ∃ controls, applyCommands .initial stuckAndFreed = .ok controls := ⟨_, rfl⟩
  exact ⟨network, controls, compiled, applied,
    (valve_conductance_iff eligible compiled halfOpenValve_mem rfl applied).mpr (.inl rfl)⟩

/-- The valve is commanded fully open. -/
def openedFully : List (ControlCommand ℚ) :=
  [⟨"SET_VALVE_OPENING", some 12, tableOf [("opening", .number 1)]⟩]

/-- A valve that is defined half open and then opened fully has half its conductance. -/
theorem halfOpen_opened :
    letI := knownSha256 []
    letI := exactConversions
    (validateLab halfOpenLab).runEligible = true ∧ ∃ network controls,
      compileLab halfOpenLab (1 / 20) = .ok network ∧ applyCommands .initial openedFully = .ok controls ∧
        ValveConductance network controls 12 (ratedConductance halfOpenValve / 2) ∧
        ¬ ValveConductance network controls 12 (ratedConductance halfOpenValve * clamp 1.0
          ((ValvePosition.of 12 openedFully).effectiveOpening (initialOpening halfOpenValve))) := by
  let _ := knownSha256 []
  let _ := exactConversions
  have eligible : (validateLab halfOpenLab).runEligible = true := by decide +kernel
  obtain ⟨network, ok⟩ := compileLab_ok (runEligible_of_validateLab eligible) (1 / 20)
  obtain ⟨pipes, valves, compiled⟩ := compileLab_eq_ok ok
  obtain ⟨controls, applied, half⟩ : ∃ controls, applyCommands .initial openedFully = .ok controls ∧
      ratedConductance halfOpenValve * initialOpening halfOpenValve * clamp 1.0 (valveOpening controls 12) =
        ratedConductance halfOpenValve / 2 := ⟨_, rfl, by decide +kernel⟩
  have used := compiled.valveConductance (runEligible_of_validateLab eligible) halfOpenValve_mem rfl controls
  rw [show halfOpenValve.assetId = 12 from rfl, half] at used
  have full : ratedConductance halfOpenValve / 2 ≠ ratedConductance halfOpenValve * clamp 1.0
      ((ValvePosition.of 12 openedFully).effectiveOpening (initialOpening halfOpenValve)) := by decide +kernel
  exact ⟨eligible, network, controls, ok, applied, used, fun whole => full (used.unique whole)⟩

end IndustrialReliability
