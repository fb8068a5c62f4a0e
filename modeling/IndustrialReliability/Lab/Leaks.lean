import IndustrialReliability.Lab.Convergence
import IndustrialReliability.Lab.Faults

/-!
What a step takes from the faults in force.

Valves and compressors ask for the fault of a target and a kind; leaks are added up at
their nodes. So controls that agree for every target and kind make the same steps if
their leaks have the same conductance at every node (`Compiled.step_alike`). Only if:
from the pressures whose drains lead to one level in a step, controls with more of a
leak do not lead to that level (`Compiled.exists_step_ne`).
-/

namespace IndustrialReliability

open Lib

variable {K : Type} [ExactNumber K]

/-! ### Readers of a target and a kind -/

/-- The same setpoints, and the same fault for every target and kind. -/
structure ControlState.Alike (c₁ c₂ : ControlState K) : Prop where
  setpoints : c₁.setpoints = c₂.setpoints
  faults : ∀ target kind, Option.Rel SameFault (c₁.fault target kind) (c₂.fault target kind)

namespace ControlState.Alike

variable {c₁ c₂ : ControlState K}

omit [ExactNumber K] in
theorem setpoint (alike : Alike c₁ c₂) (asset : UUID) : c₁.setpoint asset = c₂.setpoint asset := by
  unfold ControlState.setpoint
  rw [alike.setpoints]

omit [ExactNumber K] in
theorem symm (alike : Alike c₁ c₂) : Alike c₂ c₁ :=
  ⟨alike.setpoints.symm, fun target kind => SameFault.rel_symm (alike.faults target kind)⟩

theorem valveOpening (alike : Alike c₁ c₂) (asset : UUID) : valveOpening c₁ asset = valveOpening c₂ asset := by
  unfold IndustrialReliability.valveOpening
  rw [alike.setpoint]
  have related := alike.faults asset .VALVE_STUCK
  generalize c₁.fault asset .VALVE_STUCK = first, c₂.fault asset .VALVE_STUCK = second
    at related ⊢
  cases related with
  | some same => exact same.float "opening" 0.0
  | none => rfl

theorem edgeConductance (alike : Alike c₁ c₂) : edgeConductance c₁ = edgeConductance c₂ := by
  funext edge
  unfold IndustrialReliability.edgeConductance
  simp only [alike.valveOpening]

theorem edgeConductances (alike : Alike c₁ c₂) (network : CompiledNetwork K) :
    edgeConductances network c₁ = edgeConductances network c₂ := by
  unfold IndustrialReliability.edgeConductances
  rw [alike.edgeConductance]

theorem compressorConfig (alike : Alike c₁ c₂) : compressorConfig c₁ = compressorConfig c₂ := by
  funext compressor
  unfold IndustrialReliability.compressorConfig
  rw [alike.setpoint]
  congr 1
  have related := alike.faults compressor.assetId .COMPRESSOR_UNAVAILABLE
  generalize c₁.fault compressor.assetId .COMPRESSOR_UNAVAILABLE = first,
    c₂.fault compressor.assetId .COMPRESSOR_UNAVAILABLE = second at related ⊢
  cases related <;> rfl

theorem operatingMode (alike : Alike c₁ c₂) : operatingMode c₁ = operatingMode c₂ := by
  funext compressor
  unfold IndustrialReliability.operatingMode
  rw [alike.compressorConfig]
  have related := alike.faults compressor.assetId .COMPRESSOR_UNAVAILABLE
  generalize c₁.fault compressor.assetId .COMPRESSOR_UNAVAILABLE = first,
    c₂.fault compressor.assetId .COMPRESSOR_UNAVAILABLE = second at related ⊢
  cases related <;> rfl

theorem demandConfig (alike : Alike c₁ c₂) : demandConfig c₁ = demandConfig c₂ := by
  funext demand
  unfold IndustrialReliability.demandConfig
  rw [alike.setpoint]

end ControlState.Alike

/-! ### Leaks -/

namespace StepSetup

/-- Other leaks. -/
def withLeaks (setup : StepSetup K) (leaks : List (SinkConfig K)) : StepSetup K := { setup with leaks }

variable {setup : StepSetup K} {leaks : List (SinkConfig K)}

/-- The part of the leaks in a fold over the active sources. -/
theorem sum_leakSources (f : Source K → K) (factor : K)
    (scaled : ∀ node k, f ⟨node, k * num P_ATM, k⟩ = k * factor) (setup : StepSetup K) (p : Nat → K) (i : Nat) :
    ((setup.leaks.filterMap (sinkSource p)).map fun source => if source.node = i then f source else 0).sum =
      if (P_ATM : K) < p i then setup.leakAt i * factor else 0 := by
  have zero : (num 0 : K) = 0 := Rat.cast_zero
  have each (leak : SinkConfig K) :
      ((sinkSource p leak).elim 0 fun source => if source.node = i then f source else 0) =
        if (P_ATM : K) < p i then (if leak.node = i ∧ 0 < leak.k then leak.k else 0) * factor else 0 := by
    unfold sinkSource
    rw [zero, LabNumber.num_eq]
    by_cases here : leak.node = i
    · subst here
      by_cases above : (P_ATM : K) < p leak.node
      · by_cases positive : 0 < leak.k
        · have scaled := scaled leak.node leak.k
          rw [LabNumber.num_eq] at scaled
          simp [above, positive, scaled]
        · simp [above, positive]
      · simp [above]
    · split <;> simp [here]
  rw [sum_map_filterMap, funext each]
  split
  · exact List.sum_map_mul_right ..
  · simp

theorem foldl_sources (f : Source K → K) (factor : K)
    (scaled : ∀ node k, f ⟨node, k * num P_ATM, k⟩ = k * factor)
    (same : ∀ i, (setup.withLeaks leaks).leakAt i = setup.leakAt i) (p : Nat → K) (i : Nat) :
    ((setup.withLeaks leaks).sources p).foldl (fun vector source => addTo vector source.node (f source))
        (fun _ => num 0) i =
      (setup.sources p).foldl (fun vector source => addTo vector source.node (f source)) (fun _ => num 0) i := by
  rw [foldl_addTo _ f, foldl_addTo _ f]
  unfold sources
  simp only [List.filterMap_append, List.map_append, List.sum_append]
  rw [sum_leakSources f factor scaled, sum_leakSources f factor scaled, same]
  rfl

/-- Leaks with the same conductance at every node give the same systems. -/
theorem nextIterate_withLeaks (same : ∀ i, (setup.withLeaks leaks).leakAt i = setup.leakAt i) (p : Nat → K) :
    (setup.withLeaks leaks).nextIterate p = setup.nextIterate p := by
  have given : (setup.withLeaks leaks).aVec p = setup.aVec p :=
    funext (foldl_sources Source.a (num P_ATM) (fun _ _ => rfl) same p)
  have taken : (setup.withLeaks leaks).bVec p = setup.bVec p :=
    funext (foldl_sources Source.b 1 (fun _ k => (mul_one k).symm) same p)
  unfold nextIterate matrix rhs
  rw [given, taken]
  rfl

theorem activeSet_withLeaks (same : ∀ i, (setup.withLeaks leaks).leakAt i = setup.leakAt i) (rounds : Nat)
    (p : Nat → K) : (setup.withLeaks leaks).activeSet rounds p = setup.activeSet rounds p := by
  induction rounds generalizing p with
  | zero => rfl
  | succ rounds ih =>
      unfold activeSet
      rw [nextIterate_withLeaks same]
      simp only [ih]
      rfl

/-- The flow of the leaks, node by node. -/
theorem sum_leakFlows (inside : ∀ leak ∈ setup.leaks, leak.node < setup.size) (p : Nat → K) :
    (setup.leaks.map fun leak =>
        if num 0 < leak.k then leak.k * LabNumber.pyMax (num 0) (p leak.node - num P_ATM) else 0).sum =
      ∑ i ∈ Finset.range setup.size, setup.leakAt i * LabNumber.pyMax (num 0) (p i - num P_ATM) := by
  have zero : (num 0 : K) = 0 := Rat.cast_zero
  rw [← sum_nodes setup.leaks SinkConfig.node (fun leak i =>
    if num 0 < leak.k then leak.k * LabNumber.pyMax (num 0) (p i - num P_ATM) else 0) inside]
  refine Finset.sum_congr rfl fun i _ => ?_
  unfold leakAt
  rw [← List.sum_map_mul_right, zero]
  refine congrArg List.sum (List.map_congr_left fun leak _ => ?_)
  by_cases here : leak.node = i
  · simp [here, ite_mul]
  · simp [here]

theorem outflow_withLeaks (same : ∀ i, (setup.withLeaks leaks).leakAt i = setup.leakAt i)
    (inside : ∀ leak ∈ setup.leaks, leak.node < setup.size) (inside' : ∀ leak ∈ leaks, leak.node < setup.size)
    (p : Nat → K) : (setup.withLeaks leaks).outflow p = setup.outflow p := by
  have split (setup : StepSetup K) (inside : ∀ leak ∈ setup.leaks, leak.node < setup.size) :
      setup.outflow p = num 0 + ((setup.demands.map fun sink =>
          if num 0 < sink.k then sink.k * LabNumber.pyMax (num 0) (p sink.node - num P_ATM) else 0).sum +
        ∑ i ∈ Finset.range setup.size, setup.leakAt i * LabNumber.pyMax (num 0) (p i - num P_ATM)) := by
    rw [← sum_leakFlows inside, ← List.sum_append, ← List.map_append]
    exact foldl_flows _ (fun sink : SinkConfig K => num 0 < sink.k) _ _
  rw [split setup inside, split (setup.withLeaks leaks) inside']
  simp only [same]
  rfl

theorem gates_withLeaks (same : ∀ i, (setup.withLeaks leaks).leakAt i = setup.leakAt i)
    (inside : ∀ leak ∈ setup.leaks, leak.node < setup.size) (inside' : ∀ leak ∈ leaks, leak.node < setup.size)
    (capacitances : List K) (p : Nat → K) (dt : K) :
    (setup.withLeaks leaks).gates capacitances p dt = setup.gates capacitances p dt := by
  unfold gates
  rw [outflow_withLeaks same inside inside']
  rfl

end StepSetup

/-- The conductance of the leaks in force at a node. -/
def leakConductance (network : CompiledNetwork K) (controls : ControlState K) (i : Nat) : K :=
  ((leakConfigs network controls).map fun leak => if leak.node = i ∧ 0 < leak.k then leak.k else 0).sum

section Steps

variable {definition : LabDefinition K} {network : CompiledNetwork K} {pipes valves : List (NetworkEdge K)}
  {c₁ c₂ : ControlState K} {state : PhysicalState K} {dt : K}

theorem Compiled.leaks_inside (compiled : Compiled definition network pipes valves)
    (eligible : RunEligible definition) {leak : SinkConfig K} (mem : leak ∈ leakConfigs network c₁) :
    leak.node < network.nodes.length := by
  obtain ⟨fault, -, made⟩ := List.mem_filterMap.mp mem
  obtain ⟨index, found, rfl⟩ := Option.map_eq_some_iff.mp made
  exact compiled.leakNode_inside eligible found

/-- Leaks that add up to the same make the same step. -/
theorem Compiled.step_alike (compiled : Compiled definition network pipes valves)
    (eligible : RunEligible definition) (alike : c₁.Alike c₂)
    (leaks : ∀ i, leakConductance network c₁ i = leakConductance network c₂ i) (state : PhysicalState K) (dt : K) :
    step network state c₁ dt = step network state c₂ dt := by
  have prepared : IndustrialReliability.prepare network state c₁ dt =
      (IndustrialReliability.prepare network state c₂ dt).map (·.withLeaks (leakConfigs network c₁)) := by
    unfold IndustrialReliability.prepare StepSetup.withLeaks
    rw [alike.edgeConductance, alike.compressorConfig, alike.demandConfig]
    cases network.nodes.mapM (IndustrialReliability.previousPressure state) <;> rfl
  unfold step
  rw [prepared, alike.edgeConductances, alike.operatingMode]
  cases made : IndustrialReliability.prepare network state c₂ dt with
  | error e => rfl
  | ok setup =>
      obtain ⟨same, inside, inside'⟩ :
          (∀ i, (setup.withLeaks (leakConfigs network c₁)).leakAt i = setup.leakAt i) ∧
            (∀ leak ∈ setup.leaks, leak.node < setup.size) ∧
            ∀ leak ∈ leakConfigs network c₁, leak.node < setup.size := by
        obtain ⟨pPrev, -, rfl⟩ := prepare_eq_ok made
        exact ⟨leaks, fun leak => compiled.leaks_inside eligible, fun leak => compiled.leaks_inside eligible⟩
      simp only [Except.map, bind, Except.bind, StepSetup.activeSet_withLeaks same,
        StepSetup.gates_withLeaks same inside inside']
      rfl

end Steps

/-! ### A leak too many -/

namespace StepSetup

variable {setup : StepSetup K} {ceiling level : K} {p q : Nat → K}

/-- What the loop returns is a solution. -/
theorem exists_of_activeSet {rounds : Nat} (iterate : setup.Iterate p)
    (solved : setup.activeSet (rounds + 1) p = .ok q) :
    ∃ before, setup.Iterate before ∧ setup.nextIterate before = some q := by
  induction rounds generalizing p with
  | zero =>
      unfold activeSet at solved
      cases next : setup.nextIterate p with
      | none => simp [next] at solved
      | some pSol =>
          simp only [next, activeSet, ite_self, Except.ok.injEq] at solved
          exact ⟨p, iterate, solved ▸ next⟩
  | succ rounds ih =>
      unfold activeSet at solved
      cases next : setup.nextIterate p with
      | none => simp [next] at solved
      | some pSol =>
          simp only [next] at solved
          split at solved
          · exact ⟨p, iterate, Except.ok.inj solved ▸ next⟩
          · exact ih (.next iterate next) solved

theorem Powered.above_of_iterate (powered : setup.Powered ceiling) (iterate : setup.Iterate p) {i : Nat}
    (inside : i < setup.size) (above : (P_ATM : K) < setup.pPrev i) : (P_ATM : K) < p i := by
  cases iterate with
  | start => exact above
  | next before solved =>
      have started : (setup.clipped powered).base < (setup.clipped powered).start ⟨i, inside⟩ := above
      exact (powered.solves solved).base_lt started

theorem leakError_eq_zero (setup : StepSetup K) {i : Nat} (before : (P_ATM : K) < p i)
    (after : (P_ATM : K) < q i) : setup.leakError p q i = 0 := by
  refine List.sum_eq_zero fun term mem => ?_
  obtain ⟨leak, -, rfl⟩ := List.mem_map.mp mem
  by_cases here : leak.node = i
  · subst here
    rw [sinkTerm_eq_flow fun _ => iff_of_true after before, sub_self]
  · simp [here, sinkTerm]

/-- Every node starts with what its sinks take at the level. -/
structure Drained (setup : StepSetup K) (level : K) : Prop where
  above : (P_ATM : K) < level
  limits : ∀ compressor ∈ setup.compressors, compressor.pMax ≤ level
  taken : ∀ i < setup.size, setup.cDt i * (setup.pPrev i - level) = setup.drainAt i * (level - (P_ATM : K))

theorem Powered.feed_limit (powered : setup.Powered ceiling)
    (limits : ∀ compressor ∈ setup.compressors, compressor.pMax ≤ level) :
    ∀ feed ∈ (setup.clipped powered).feeds, feed.limit ≤ level := by
  intro feed mem
  obtain ⟨compressor, its, made⟩ := List.mem_filterMap.mp mem
  obtain ⟨-, -, -, limit⟩ := feed?_eq_some made
  exact limit ▸ limits compressor its

theorem Drained.started (drained : setup.Drained level) (powered : setup.Powered ceiling) {i : Nat}
    (inside : i < setup.size) : level ≤ setup.pPrev i := by
  have drain : 0 ≤ setup.drainAt i := (setup.clipped powered).drain_nonneg ⟨i, inside⟩
  have taken := mul_nonneg drain (sub_nonneg.mpr drained.above.le)
  rw [← drained.taken i inside] at taken
  exact sub_nonneg.mp (nonneg_of_mul_nonneg_right taken (powered.cDt_pos i inside))

theorem Drained.next (drained : setup.Drained level) (powered : setup.Powered ceiling)
    (acting : ∀ i < setup.size, level ≤ p i) (solved : setup.nextIterate p = some q) :
    ∀ i < setup.size, q i = level := by
  have solves : (setup.clipped powered).Solves (fun i => p i) fun _ => level :=
    ClippedNetwork.solves_level (powered.feed_limit drained.limits) drained.above
      (fun i => acting i i.isLt) fun i => drained.taken i i.isLt
  exact fun i inside => congrFun ((powered.solves solved).unique solves) ⟨i, inside⟩

/-- The loop converges to the level. -/
theorem Drained.converges (drained : setup.Drained level) (powered : setup.Powered ceiling) :
    ∃ rounds ≤ 2, ∃ q, setup.Converges rounds setup.pPrev q ∧ ∀ i < setup.size, q i = level := by
  obtain ⟨q, solved⟩ := powered.exists_next setup.pPrev
  have flat := drained.next powered (fun i inside => drained.started powered inside) solved
  cases test : setup.converged setup.pPrev q with
  | true => exact ⟨1, by omega, q, .now solved test, flat⟩
  | false =>
      obtain ⟨q', solved'⟩ := powered.exists_next q
      have still : q' = q := by
        funext i
        by_cases inside : i < setup.size
        · rw [drained.next powered (fun i inside => (flat i inside).ge) solved' i inside, flat i inside]
        · have beyond := not_lt.mp inside
          rw [powered.outside solved' beyond, powered.outside solved beyond]
      subst still
      exact ⟨2, le_rfl, q', .later solved test (.now solved' (converged_self setup q')), flat⟩

/-- The level passes the gates. -/
theorem Drained.gates (drained : setup.Drained level) (powered : setup.Powered ceiling)
    (low : level ≤ ((2.0e6 : ℚ) : K)) {rounds : Nat} (converges : setup.Converges rounds setup.pPrev q)
    (flat : ∀ i < setup.size, q i = level) {capacitances : List K} {dt : K} (positive : 0 < dt)
    (charged : ∀ i < setup.size, setup.cDt i = vec capacitances i / dt) :
    setup.gates capacitances q dt = .ok () := by
  have zero : (num 0 : K) = 0 := Rat.cast_zero
  have atm : (0 : K) < (P_ATM : K) := Rat.cast_pos.mpr (by norm_num [P_ATM])
  obtain ⟨p, iterate, solved, passed⟩ := converges.last .start
  have seen : ∑ i ∈ Finset.range setup.size, setup.leakError p q i = 0 := by
    refine Finset.sum_eq_zero fun i mem => ?_
    have inside := Finset.mem_range.mp mem
    have above := drained.above.trans_le (drained.started powered inside)
    exact leakError_eq_zero setup (powered.above_of_iterate iterate inside above)
      (drained.above.trans_eq (flat i inside).symm)
  have balance := powered.mass_balance solved passed positive charged
  rw [seen, mul_zero] at balance
  have positives (i : Nat) (mem : i ∈ List.range setup.size) : 0 < q i ∧ q i ≤ ((2.0e6 : ℚ) : K) := by
    rw [flat i (List.mem_range.mp mem)]
    exact ⟨atm.trans drained.above, low⟩
  have tolerated : (0 : K) ≤ num 1e-9 + num 1e-8 * LabNumber.sum ((List.range setup.size).map fun i =>
      LabNumber.pyAbs (vec capacitances i * setup.pPrev i)) := by
    refine add_nonneg (Rat.cast_nonneg.mpr (by norm_num)) (mul_nonneg (Rat.cast_nonneg.mpr (by norm_num)) ?_)
    refine List.sum_nonneg fun value mem => ?_
    obtain ⟨i, -, rfl⟩ := List.mem_map.mp mem
    rw [LabNumber.pyAbs_eq]
    exact abs_nonneg _
  unfold StepSetup.gates
  dsimp only
  rw [if_neg, if_neg, if_neg, if_neg]
  · rw [LabNumber.pyAbs_eq]
    refine not_lt.mpr (le_of_eq_of_le ?_ tolerated)
    exact abs_eq_zero.mpr balance
  · simp only [List.any_eq_true, decide_eq_true_eq, not_exists, not_and, not_lt]
    exact fun i mem => (positives i mem).2
  · simp only [List.any_eq_true, decide_eq_true_eq, not_exists, not_and, not_le, zero]
    exact fun i mem => (positives i mem).1
  · simp only [List.any_eq_true, not_exists, not_and]
    exact fun i mem => Bool.false_ne_true

theorem drainAt_eq (setup : StepSetup K) (i : Nat) : setup.drainAt i =
    (setup.demands.map fun sink => if sink.node = i ∧ 0 < sink.k then sink.k else 0).sum + setup.leakAt i := by
  unfold drainAt
  rw [List.map_append, List.sum_append]
  rfl

end StepSetup

/-- The conductance of the demands and leaks at a node. -/
def drainConductance (network : CompiledNetwork K) (controls : ControlState K) (i : Nat) : K :=
  ((network.demands.map (demandConfig controls)).map fun sink =>
    if sink.node = i ∧ 0 < sink.k then sink.k else 0).sum + leakConductance network controls i

/-- The pressure from which the sinks at a node lead to the level in a step. -/
def drainedPressure (network : CompiledNetwork K) (controls : ControlState K) (dt level : K) (i : Nat) : K :=
  level + drainConductance network controls i * (level - (P_ATM : K)) * dt / vec network.capacitances i

def drainedState (network : CompiledNetwork K) (controls : ControlState K) (dt level : K) : PhysicalState K where
  tick := 0
  pressuresPa := tableOf (network.nodes.map fun node =>
    (node.nodeId, drainedPressure network controls dt level node.nodeIndex))
  flowsKgS := .empty
  operatingModes := .empty

section Steps

variable {definition : LabDefinition K} {network : CompiledNetwork K} {pipes valves : List (NetworkEdge K)}
  {c₁ c₂ : ControlState K} {state : PhysicalState K} {dt level ceiling : K}

/-- The pressures of a table are those a step starts from. -/
theorem Compiled.pPrev_eq (compiled : Compiled definition network pipes valves)
    (eligible : RunEligible definition) {p : Nat → K}
    (made : state.pressuresPa = tableOf (network.nodes.map fun node => (node.nodeId, p node.nodeIndex)))
    {setup : StepSetup K} (prepared : IndustrialReliability.prepare network state c₁ dt = .ok setup) {i : Nat}
    (inside : i < network.nodes.length) : setup.pPrev i = p i := by
  obtain ⟨pPrev, read, rfl⟩ := prepare_eq_ok prepared
  have paired := mapM_eq_ok_iff_forall₂.mp read
  have inside' : i < pPrev.length := paired.length_eq ▸ inside
  have here : IndustrialReliability.previousPressure state network.nodes[i] = .ok pPrev[i] :=
    paired.get inside inside'
  unfold IndustrialReliability.previousPressure at here
  rw [compiled.get?_pressures eligible made (List.getElem?_eq_getElem inside)] at here
  dsimp only [Option.getD_some] at here
  split at here
  · cases here
  · show pPrev.getD i _ = _
    rw [List.getD_eq_getElem?_getD, List.getElem?_eq_getElem inside']
    exact (Except.ok.inj here).symm

/-- A step from the pressures that the sinks lead to a level. -/
theorem Compiled.step_drained (compiled : Compiled definition network pipes valves)
    (eligible : RunEligible definition) {setup : StepSetup K} (powered : setup.Powered ceiling)
    (drained : setup.Drained level) (low : level ≤ ((2.0e6 : ℚ) : K)) (positive : 0 < dt)
    (prepared : IndustrialReliability.prepare network state c₁ dt = .ok setup)
    (size : setup.size = network.nodes.length)
    (charged : ∀ i < setup.size, setup.cDt i = vec network.capacitances i / dt) :
    ∃ state', ∃ pNext : Nat → K, step network state c₁ dt = .ok state' ∧ state'.pressuresPa =
      tableOf (network.nodes.map fun node => (node.nodeId, pNext node.nodeIndex)) ∧
        ∀ i < network.nodes.length, pNext i = level := by
  obtain ⟨conductances, known, values⟩ := compiled.edgeConductances eligible c₁
  obtain ⟨rounds, few, q, converges, flat⟩ := drained.converges powered
  obtain ⟨flows, flowing⟩ : ∃ flows, network.edges.mapM (edgeFlow network conductances q) = .ok flows :=
    exists_mapM_ok fun edge mem => ⟨_, compiled.edgeFlow_ok eligible mem values⟩
  have solved := converges.activeSet (show rounds ≤ 16 by omega)
  have passed := drained.gates powered low converges flat positive charged
  obtain ⟨state', taken⟩ : ∃ state', step network state c₁ dt = .ok state' := by
    unfold step
    simp only [prepared, known, solved, passed, flowing, bind, Except.bind]
    exact ⟨_, rfl⟩
  obtain ⟨_, _, _, _, prepared', -, solved', -, -, rfl⟩ := step_eq_ok taken
  cases prepared.symm.trans prepared'
  cases solved.symm.trans solved'
  exact ⟨_, q, taken, rfl, fun i inside => flat i (inside.trans_eq size.symm)⟩

theorem leakConductance_nonneg (network : CompiledNetwork K) (controls : ControlState K) (i : Nat) :
    0 ≤ leakConductance network controls i := by
  refine List.sum_nonneg fun value mem => ?_
  obtain ⟨leak, -, rfl⟩ := List.mem_map.mp mem
  split
  · exact (‹_ ∧ _› : _ ∧ 0 < leak.k).2.le
  · exact le_rfl

theorem drainConductance_nonneg (network : CompiledNetwork K) (controls : ControlState K) (i : Nat) :
    0 ≤ drainConductance network controls i := by
  refine add_nonneg (List.sum_nonneg fun value mem => ?_) (leakConductance_nonneg network controls i)
  obtain ⟨demand, -, rfl⟩ := List.mem_map.mp mem
  split
  · exact (‹_ ∧ _› : _ ∧ 0 < demand.k).2.le
  · exact le_rfl

/-- No leak is outside the network. -/
theorem Compiled.leakConductance_outside (compiled : Compiled definition network pipes valves)
    (eligible : RunEligible definition) {i : Nat} (beyond : network.nodes.length ≤ i) :
    leakConductance network c₁ i = 0 := by
  refine List.sum_eq_zero fun value mem => ?_
  obtain ⟨leak, its, rfl⟩ := List.mem_map.mp mem
  refine if_neg fun here => ?_
  have inside := compiled.leaks_inside eligible its
  omega

theorem Compiled.vec_capacitances_pos (compiled : Compiled definition network pipes valves)
    (eligible : RunEligible definition) {i : Nat} (inside : i < network.nodes.length) :
    0 < vec network.capacitances i := by
  rw [compiled.capacitances]
  refine vec_of_forall (fun value mem => ?_) (by rwa [List.length_map])
  obtain ⟨node, its, rfl⟩ := List.mem_map.mp mem
  exact compiled.capacitance_pos eligible its

/-- What a node starts with over the level is what its sinks take. -/
theorem Compiled.drainedState_taken (compiled : Compiled definition network pipes valves)
    (eligible : RunEligible definition) (positive : 0 < dt) {setup : StepSetup K}
    (prepared : IndustrialReliability.prepare network (drainedState network c₁ dt level) c₂ dt = .ok setup)
    (charged : ∀ i < setup.size, setup.cDt i = vec network.capacitances i / dt)
    (size : setup.size = network.nodes.length) {i : Nat} (inside : i < setup.size) :
    setup.cDt i * (setup.pPrev i - level) = drainConductance network c₁ i * (level - (P_ATM : K)) := by
  have capacitance := compiled.vec_capacitances_pos eligible (size ▸ inside)
  rw [charged i inside, compiled.pPrev_eq eligible rfl prepared (size ▸ inside), drainedPressure,
    add_sub_cancel_left]
  field_simp

/-- Controls with less and more of a leak are told apart by a step. -/
theorem Compiled.exists_step_ne (compiled : Compiled definition network pipes valves)
    (eligible : RunEligible definition) (positive : 0 < dt) (alike : c₁.Alike c₂) {n : Nat}
    (less : leakConductance network c₁ n < leakConductance network c₂ n) :
    ∃ state, step network state c₁ dt ≠ step network state c₂ dt := by
  let level : K := ((1500000.0 : ℚ) : K)
  have above : (P_ATM : K) < level := Rat.cast_lt.mpr (by norm_num [P_ATM])
  have low : level ≤ ((2.0e6 : ℚ) : K) := Rat.cast_le.mpr (by norm_num)
  have inside : n < network.nodes.length := by
    by_contra beyond
    rw [compiled.leakConductance_outside eligible (not_lt.mp beyond),
      compiled.leakConductance_outside eligible (not_lt.mp beyond)] at less
    exact lt_irrefl _ less
  have reads : ∀ node ∈ network.nodes,
      (P_ATM : K) ≤ readPressure (drainedState network c₁ dt level) node := by
    intro node mem
    obtain ⟨i, held⟩ := List.mem_iff_getElem?.mp mem
    have capacitance := compiled.vec_capacitances_pos eligible (List.getElem?_eq_some_iff.mp held).1
    unfold readPressure
    rw [compiled.get?_pressures eligible rfl held]
    have taken := mul_nonneg (drainConductance_nonneg network c₁ i) (sub_nonneg.mpr above.le)
    exact above.le.trans (le_add_of_nonneg_right (div_nonneg (mul_nonneg taken positive.le) capacitance.le))
  obtain ⟨ceiling, greatest, within⟩ := exists_ceiling eligible reads
  obtain ⟨setup₁, prepared₁, powered₁, size₁, charged₁⟩ := compiled.powered eligible greatest within positive c₁
  obtain ⟨setup₂, prepared₂, powered₂, size₂, charged₂⟩ := compiled.powered eligible greatest within positive c₂
  have limits (controls : ControlState K) :
      ∀ config ∈ network.compressors.map (compressorConfig controls), config.pMax ≤ level := by
    intro config mem
    obtain ⟨asset, -, type, -, -, limit⟩ := compiled.exists_compressor eligible mem
    exact limit ▸ (compressor_range asset type).2.2
  have drained : setup₁.Drained level := by
    refine ⟨above, ?_, fun i inside => ?_⟩
    · obtain ⟨pPrev, -, rfl⟩ := prepare_eq_ok prepared₁
      exact limits c₁
    · rw [compiled.drainedState_taken eligible positive prepared₁ charged₁ size₁ inside, setup₁.drainAt_eq]
      obtain ⟨pPrev, -, rfl⟩ := prepare_eq_ok prepared₁
      rfl
  obtain ⟨state', pNext, taken, made, flat⟩ :=
    compiled.step_drained eligible powered₁ drained low positive prepared₁ size₁ charged₁
  refine ⟨drainedState network c₁ dt level, fun same => ?_⟩
  -- the other controls would have to solve for the same level, with more taken at the node
  rw [taken] at same
  obtain ⟨_, _, q, _, prepared, -, solved, -, -, rfl⟩ := step_eq_ok same.symm
  cases prepared₂.symm.trans prepared
  have level₂ : (fun i : Fin setup₂.size => q i) = fun _ => level := by
    funext i
    have held := List.getElem?_eq_getElem (i.isLt.trans_eq size₂)
    have read := compiled.get?_pressures eligible made held
    rw [compiled.get?_pressures eligible rfl held, flat i (i.isLt.trans_eq size₂)] at read
    exact Option.some.inj read
  obtain ⟨before, iterate, next⟩ := StepSetup.exists_of_activeSet .start solved
  have solves := powered₂.solves next
  rw [level₂] at solves
  have inside₂ : n < setup₂.size := size₂ ▸ inside
  have limits₂ : ∀ compressor ∈ setup₂.compressors, compressor.pMax ≤ level := by
    obtain ⟨pPrev, -, rfl⟩ := prepare_eq_ok prepared₂
    exact limits c₂
  have started : (P_ATM : K) < setup₂.pPrev n := by
    rw [compiled.pPrev_eq eligible rfl prepared₂ inside,
      ← compiled.pPrev_eq eligible rfl prepared₁ inside]
    exact above.trans_le (drained.started powered₁ (size₁ ▸ inside))
  have more : drainConductance network c₁ n < setup₂.drainAt n := by
    rw [setup₂.drainAt_eq, drainConductance, alike.demandConfig]
    obtain ⟨pPrev, -, rfl⟩ := prepare_eq_ok prepared₂
    exact add_lt_add_right less _
  have bound := solves.drain_le (i := ⟨n, inside₂⟩) (powered₂.feed_limit limits₂)
    (powered₂.above_of_iterate iterate inside₂ started)
  have taken₂ := compiled.drainedState_taken eligible positive prepared₂ charged₂ size₂ inside₂
  have exceeds := mul_lt_mul_of_pos_right more (sub_pos.mpr above)
  exact absurd (bound.trans_eq taken₂) (not_le.mpr exceeds)

end Steps

end IndustrialReliability
