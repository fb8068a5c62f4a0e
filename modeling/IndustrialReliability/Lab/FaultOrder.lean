import IndustrialReliability.Lab.Changes
import IndustrialReliability.Lab.Leaks

/-!
Whether the order of faults matters.

The sensors ask for the fault of a target alone, the one injected last, and the physics
adds leaks up. So two histories that leave the same faults are told apart by a sensor
with two faults, and by leaks that the start holds more than once
(`fault_order_irrelevant_iff`).
-/

namespace IndustrialReliability

open Lib

variable {K : Type} [ExactNumber K]

/-! ### Sensors -/

/-- What a fault does to a reading. -/
inductive SensorEffect (K : Type) where
  | dropout
  | bias (value : K)

def ActiveFault.effect (fault : ActiveFault K) : SensorEffect K :=
  match fault.kind with
  | .SENSOR_DROPOUT => .dropout
  | .SENSOR_BIAS => .bias (fault.float "bias" 0.0)
  | .LEAK | .VALVE_STUCK | .COMPRESSOR_UNAVAILABLE => .bias 0

/-- The effect of the fault that was injected last on a sensor. -/
def sensorEffect (controls : ControlState K) (sensor : UUID) : SensorEffect K :=
  match sensorFault controls sensor with
  | some fault => fault.effect
  | none => .bias 0

/-- Some dropout is in force on a sensor. -/
def DroppedOut (controls : ControlState K) (sensor : UUID) : Prop :=
  ∃ fault ∈ controls.activeFaults, fault.targetId = sensor ∧ fault.kind = .SENSOR_DROPOUT

section Sensors

variable [Sha256Digest] {run : SimulationRun K} {sensor : Sensor K} {tick : Nat}

/-- The observation of a sensor under an effect. -/
def SensorEffect.sample (run : SimulationRun K) (sensor : Sensor K) (tick : Nat) (truth : Option K)
    (effect : SensorEffect K) : Observation K :=
  match truth, effect with
  | none, _ | some _, .dropout => observation run sensor tick none .MISSING
  | some truth, .bias added =>
      let value := truth + sensor.noiseStd * computeGaussianNoise run.spec.seed sensor.sensorId tick + added
      observation run sensor tick (some value)
        (if sensor.target.unit = .pa ∧ value < 0 then .INVALID else .GOOD)

/-- Exact values are finite. -/
theorem sample_eq_of_not_dropout {fault : Option (ActiveFault K)}
    (reads : fault.any (fun fault => decide (fault.kind = .SENSOR_DROPOUT)) = false) (truth : K) :
    sample run sensor tick fault (some truth) =
      observation run sensor tick (some (measured run sensor tick fault truth))
        (if sensor.target.unit = .pa ∧ measured run sensor tick fault truth < 0 then .INVALID else .GOOD) := by
  have zero : (num 0.0 : K) = 0 := by
    rw [LabNumber.num_eq]
    norm_num
  unfold sample
  simp only [reads, zero, Bool.false_eq_true, if_false]
  split
  · rename_i infinite
    cases infinite
  · split <;> rfl

theorem sample_eq (controls : ControlState K) (truth : Option K) :
    sample run sensor tick (sensorFault controls sensor.sensorId) truth =
      (sensorEffect controls sensor.sensorId).sample run sensor tick truth := by
  unfold sensorEffect
  cases truth with
  | none => cases sensorFault controls sensor.sensorId <;> rfl
  | some truth =>
      cases sensorFault controls sensor.sensorId with
      | none =>
          rw [sample_eq_of_not_dropout rfl]
          simp only [measured, SensorEffect.sample, add_zero]
          rfl
      | some fault =>
          by_cases dropout : fault.kind = .SENSOR_DROPOUT
          · simp [sample, ActiveFault.effect, SensorEffect.sample, dropout]
          · rw [sample_eq_of_not_dropout (by simp [dropout])]
            cases kind : fault.kind with
            | SENSOR_DROPOUT => exact absurd kind dropout
            | SENSOR_BIAS | LEAK | VALVE_STUCK | COMPRESSOR_UNAVAILABLE =>
                simp [measured, ActiveFault.effect, SensorEffect.sample, kind]

theorem SensorEffect.sample_value (truth : K) (effect : SensorEffect K) :
    (effect.sample run sensor tick (some truth)).value = match effect with
      | .dropout => none
      | .bias added =>
          some (truth + sensor.noiseStd * computeGaussianNoise run.spec.seed sensor.sensorId tick + added) := by
  cases effect <;> rfl

/-- A reading tells effects apart. -/
theorem SensorEffect.sample_injective (truth : K) :
    Function.Injective (SensorEffect.sample run sensor tick (some truth)) := by
  intro first second same
  have values := congrArg Observation.value same
  rw [SensorEffect.sample_value, SensorEffect.sample_value] at values
  cases first with
  | dropout =>
      cases second with
      | dropout => rfl
      | bias _ => cases values
  | bias added =>
      cases second with
      | dropout => cases values
      | bias added' => rw [add_left_cancel (Option.some.inj values)]

theorem SensorEffect.sample_missing_iff (truth : K) (effect : SensorEffect K) :
    (effect.sample run sensor tick (some truth)).quality = .MISSING ↔ effect = .dropout := by
  cases effect with
  | dropout => exact iff_of_true rfl rfl
  | bias added =>
      refine iff_of_false (fun missing => ?_) nofun
      unfold sample observation at missing
      dsimp only at missing
      split at missing <;> cases missing

theorem observe_eq (run : SimulationRun K) (state : PhysicalState K) (controls : ControlState K) :
    observe run state controls = run.definition.sensors.filterMap fun sensor =>
      (sensorTruth run.definition state sensor).map fun truth =>
        (sensorEffect controls sensor.sensorId).sample run sensor state.tick truth := by
  unfold observe
  simp only [← sample_eq]

end Sensors

/-! ### Results -/

section Results

variable [Sha256Digest]

/-- Dropouts that are in force are seen. -/
def DropoutsSeen (run : SimulationRun K) (controls : ControlState K) : Prop :=
  ∀ sensor ∈ run.definition.sensors, DroppedOut controls sensor.sensorId → ∀ state,
    ∀ observed ∈ observe run state controls, observed.sensorId = sensor.sensorId → observed.quality = .MISSING

/-- The same steps and observations, and no dropout that goes unseen. -/
structure SameResults (run : SimulationRun K) (network : CompiledNetwork K) (c₁ c₂ : ControlState K) : Prop where
  steps : ∀ ticks state, steps network c₁ run.dt ticks state = steps network c₂ run.dt ticks state
  observed : ∀ state, observe run state c₁ = observe run state c₂
  seen : DropoutsSeen run c₁ ∧ DropoutsSeen run c₂

omit [Sha256Digest] in
/-- Sensors whose last fault has the same effect, a dropout if there is one, and nodes
with the same leaks. -/
structure OrderFree (definition : LabDefinition K) (network : CompiledNetwork K) (c₁ c₂ : ControlState K) :
    Prop where
  effects : ∀ sensor ∈ definition.sensors, sensorEffect c₁ sensor.sensorId = sensorEffect c₂ sensor.sensorId
  dropouts : ∀ sensor ∈ definition.sensors, DroppedOut c₁ sensor.sensorId →
    sensorEffect c₁ sensor.sensorId = .dropout
  leaks : ∀ i, leakConductance network c₁ i = leakConductance network c₂ i

variable {run : SimulationRun K} {network : CompiledNetwork K} {pipes valves : List (NetworkEdge K)}
  {controls c₁ c₂ : ControlState K}

/-- A dropout that is in force is seen if its effect is the last. -/
theorem dropoutsSeen (last : ∀ sensor ∈ run.definition.sensors, DroppedOut controls sensor.sensorId →
    sensorEffect controls sensor.sensorId = .dropout) : DropoutsSeen run controls := by
  intro sensor mem dropped state observed read same
  rw [observe_eq] at read
  obtain ⟨other, -, read⟩ := List.mem_filterMap.mp read
  obtain ⟨truth, -, rfl⟩ := Option.map_eq_some_iff.mp read
  have its : other.sensorId = sensor.sensorId := by
    rw [← same]
    cases truth <;> cases sensorEffect controls other.sensorId <;> rfl
  rw [its, last sensor mem dropped]
  cases truth <;> rfl

omit [Sha256Digest] in
theorem steps_one (network : CompiledNetwork K) (controls : ControlState K) (dt : K) (state : PhysicalState K) :
    steps network controls dt 1 state = step network state controls dt := by
  show (step network state controls dt >>= fun next => .ok next) = _
  cases step network state controls dt <;> rfl

omit [Sha256Digest] in
theorem steps_eq (same : ∀ state, step network state c₁ run.dt = step network state c₂ run.dt) (ticks : Nat)
    (state : PhysicalState K) : steps network c₁ run.dt ticks state = steps network c₂ run.dt ticks state := by
  induction ticks generalizing state with
  | zero => rfl
  | succ ticks ih =>
      unfold steps
      rw [same, funext ih]

omit [Sha256Digest] [ExactNumber K] in
theorem DroppedOut.of_same (same : SameFaults c₁.activeFaults c₂.activeFaults) {sensor : UUID}
    (dropped : DroppedOut c₂ sensor) : DroppedOut c₁ sensor := by
  obtain ⟨fault, mem, target, kind⟩ := dropped
  obtain ⟨other, its, equal⟩ := same.right fault mem
  exact ⟨other, its, equal.targetId.trans target, equal.kind.trans kind⟩

/-- The condition is enough, in every lab that may run. -/
theorem OrderFree.sameResults (orderFree : OrderFree run.definition network c₁ c₂)
    (compiled : Compiled run.definition network pipes valves) (eligible : RunEligible run.definition)
    (alike : c₁.Alike c₂) (same : SameFaults c₁.activeFaults c₂.activeFaults) :
    SameResults run network c₁ c₂ := by
  refine ⟨steps_eq fun state => compiled.step_alike eligible alike orderFree.leaks state run.dt, fun state => ?_,
    dropoutsSeen orderFree.dropouts, dropoutsSeen fun sensor mem dropped => ?_⟩
  · rw [observe_eq, observe_eq]
    exact List.filterMap_congr fun sensor mem => by rw [orderFree.effects sensor mem]
  · rw [← orderFree.effects sensor mem]
    exact orderFree.dropouts sensor mem (dropped.of_same same)

/-- In some state every sensor has something to read. -/
theorem exists_observed (compiled : Compiled run.definition network pipes valves)
    (eligible : RunEligible run.definition) : ∃ state, ∃ value : Sensor K → K, ∀ controls,
      observe run state controls = run.definition.sensors.map fun sensor =>
        (sensorEffect controls sensor.sensorId).sample run sensor state.tick (some (value sensor)) := by
  let state := drainedState network .initial 0 0
  refine ⟨state, fun sensor => ((sensorTruth run.definition state sensor).getD none).getD 0, fun controls => ?_⟩
  rw [observe_eq, ← List.filterMap_eq_map]
  refine List.filterMap_congr fun sensor mem => ?_
  have read : ∃ value, sensorTruth run.definition state sensor = some (some value) := by
    cases target : sensor.target with
    | pressure port =>
        have made : state.pressuresPa = tableOf (network.nodes.map fun node =>
          (node.nodeId, drainedPressure network .initial 0 0 node.nodeIndex)) := rfl
        obtain ⟨value, read, -⟩ := compiled.pressureTruth eligible made mem target
        exact ⟨value, read⟩
    | flow pipe =>
        unfold sensorTruth
        rw [target]
        exact ⟨_, rfl⟩
  obtain ⟨value, read⟩ := read
  simp [read]

/-- The condition is needed. -/
theorem SameResults.orderFree (results : SameResults run network c₁ c₂)
    (compiled : Compiled run.definition network pipes valves) (eligible : RunEligible run.definition)
    (positive : 0 < run.dt) (alike : c₁.Alike c₂) : OrderFree run.definition network c₁ c₂ := by
  obtain ⟨state, value, observed⟩ := exists_observed compiled eligible
  refine ⟨fun sensor mem => ?_, fun sensor mem dropped => ?_, fun i => ?_⟩
  · have same := results.observed state
    rw [observed, observed] at same
    exact SensorEffect.sample_injective _ (List.map_inj_left.mp same sensor mem)
  · have missing := results.seen.1 sensor mem dropped state
    rw [observed] at missing
    refine (SensorEffect.sample_missing_iff _ _).mp (missing _ (List.mem_map_of_mem mem) ?_)
    cases sensorEffect c₁ sensor.sensorId <;> rfl
  · have single (state : PhysicalState K) : step network state c₁ run.dt = step network state c₂ run.dt := by
      rw [← steps_one, ← steps_one]
      exact results.steps 1 state
    by_contra differ
    rcases lt_or_gt_of_ne differ with less | more
    · obtain ⟨state, differ⟩ := compiled.exists_step_ne eligible positive alike less
      exact differ (single state)
    · obtain ⟨state, differ⟩ := compiled.exists_step_ne eligible positive alike.symm more
      exact differ (single state).symm

/-- The order of injections and clearances that leave the same faults makes no difference,
to the steps or to the sensors, exactly if on every sensor the last fault in force has the
same effect, which is a dropout if there is one, and every node has the same leaks. -/
theorem fault_order_irrelevant_iff [FloatConversions K]
    (passed : (validateLab run.definition).runEligible = true)
    (ok : compileLab run.definition run.dt = .ok network) (positive : 0 < run.dt) {start : ControlState K}
    {history₁ history₂ : List (ControlCommand K)} (onFaults₁ : ∀ command ∈ history₁, command.OnFaults)
    (onFaults₂ : ∀ command ∈ history₂, command.OnFaults) (applied₁ : applyCommands start history₁ = .ok c₁)
    (applied₂ : applyCommands start history₂ = .ok c₂) (same : SameFaults c₁.activeFaults c₂.activeFaults) :
    SameResults run network c₁ c₂ ↔
      OrderFree run.definition network (start.leftBy history₁) (start.leftBy history₂) := by
  obtain ⟨pipes, valves, compiled⟩ := compileLab_eq_ok ok
  have eligible := runEligible_of_validateLab passed
  have left₁ := applyCommands_leftBy onFaults₁ applied₁
  have left₂ := applyCommands_leftBy onFaults₂ applied₂
  have alike : c₁.Alike c₂ := by
    refine ⟨left₁ ▸ left₂ ▸ rfl, fun target kind => ?_⟩
    rw [applyCommands_eq_ok applied₁, applyCommands_eq_ok applied₂]
    refine SameFaults.fault_alike ?_ target kind
    rw [left₁, left₂] at same
    exact same
  rw [← left₁, ← left₂]
  exact ⟨fun results => results.orderFree compiled eligible positive alike,
    fun orderFree => orderFree.sameResults compiled eligible alike same⟩

end Results

/-- A run of the lab of a compressor and a tank. -/
def loopRun : SimulationRun ℚ where
  runId := 41
  spec := ⟨1, 1, 7, 1, none, none, Nat.one_pos, RunSpec.real_time_allowed, nofun⟩
  status := .RUNNING
  definition := loopLab
  definitionDigest := 0
  sceneDigest := 0
  profileDigest := 0
  samplingDigest := 0
  baselineId := none
  modelVersion := "v1"
  dt := 1 / 20
  epoch := "epoch"
  profileId := "profile"
  tick := 0
  controlRevision := 0
  eventSequence := 0

def dropoutOn (sensor : UUID) : ControlCommand ℚ :=
  ⟨"INJECT_FAULT", some sensor, tableOf [("kind", .text "SENSOR_DROPOUT")]⟩

def biasOn (sensor : UUID) : ControlCommand ℚ :=
  ⟨"INJECT_FAULT", some sensor, tableOf [("kind", .text "SENSOR_BIAS"),
    ("values", .object [("bias", .number 5)])]⟩

theorem onFaults_injected {sensor other : UUID} :
    (∀ command ∈ [dropoutOn sensor, biasOn other], command.OnFaults) ∧
      ∀ command ∈ [biasOn other, dropoutOn sensor], command.OnFaults := by
  simp [dropoutOn, biasOn, ControlCommand.OnFaults]

/-- A dropout and a bias in force. -/
def dropoutAndBias (other : UUID) : ControlState ℚ :=
  ⟨.empty, [⟨31, .SENSOR_DROPOUT, none, .empty⟩, ⟨other, .SENSOR_BIAS, none, tableOf [("bias", 5)]⟩]⟩

def biasAndDropout (other : UUID) : ControlState ℚ :=
  ⟨.empty, (dropoutAndBias other).activeFaults.reverse⟩

theorem dropoutAndBias_applied :
    letI := exactConversions
    (applyCommands .initial [dropoutOn 31, biasOn 32] = .ok (dropoutAndBias 32) ∧
      applyCommands .initial [biasOn 32, dropoutOn 31] = .ok (biasAndDropout 32)) ∧
    applyCommands .initial [dropoutOn 31, biasOn 31] = .ok (dropoutAndBias 31) ∧
      applyCommands .initial [biasOn 31, dropoutOn 31] = .ok (biasAndDropout 31) :=
  ⟨⟨rfl, rfl⟩, rfl, rfl⟩

theorem dropoutAndBias_same (other : UUID) :
    SameFaults (dropoutAndBias other).activeFaults (biasAndDropout other).activeFaults :=
  .of_perm (List.reverse_perm _).symm

theorem dropoutAndBias_orderFree (network : CompiledNetwork ℚ) :
    OrderFree loopLab network (dropoutAndBias 32) (biasAndDropout 32) := by
  have sensors : ∀ sensor ∈ loopLab.sensors, sensor.sensorId = 31 ∨ sensor.sensorId = 32 := by
    simp [loopLab]
  have clear : ¬ DroppedOut (dropoutAndBias 32) 32 := by
    simp [DroppedOut, dropoutAndBias]
  refine ⟨fun sensor mem => ?_, fun sensor mem dropped => ?_, fun i => rfl⟩
  · rcases sensors sensor mem with here | here
    · rw [here]
      rfl
    · rw [here]
      rfl
  · rcases sensors sensor mem with here | here
    · rw [here]
      rfl
    · exact absurd (here ▸ dropped) clear

/-- The order of faults on two sensors. -/
theorem loopLab_order_irrelevant :
    letI := knownSha256 []
    ∃ network, compileLab loopLab (1 / 20) = .ok network ∧
      SameResults loopRun network (dropoutAndBias 32) (biasAndDropout 32) := by
  let _ := knownSha256 []
  let _ := exactConversions
  have passed : (validateLab loopRun.definition).runEligible = true := by decide +kernel
  obtain ⟨network, ok⟩ := compileLab_ok (runEligible_of_validateLab passed) loopRun.dt
  have positive : 0 < loopRun.dt := show (0 : ℚ) < 1 / 20 by norm_num
  obtain ⟨⟨applied₁, applied₂⟩, -⟩ := dropoutAndBias_applied
  refine ⟨network, ok, (fault_order_irrelevant_iff passed ok positive onFaults_injected.1 onFaults_injected.2
    applied₁ applied₂ (dropoutAndBias_same 32)).mpr ?_⟩
  rw [← applyCommands_leftBy onFaults_injected.1 applied₁, ← applyCommands_leftBy onFaults_injected.2 applied₂]
  exact dropoutAndBias_orderFree network

/-- What the sensors report under two controls after a first step. -/
def firstQualities [Sha256Digest] (controls c₁ c₂ : ControlState ℚ) :
    Option (List ObservationQuality × List ObservationQuality) := do
  let network ← (compileLab loopLab (1 / 20)).toOption
  let state ← (step network (initialPhysical loopLab) controls (1 / 20)).toOption
  return ((observe loopRun state c₁).map (·.quality), (observe loopRun state c₂).map (·.quality))

/-- A dropout is masked by the bias that is injected after it. -/
theorem loopLab_dropout_masked :
    letI := knownSha256 []
    letI := exactConversions
    (validateLab loopLab).runEligible = true ∧ ∃ network c₁ c₂ state,
      compileLab loopLab (1 / 20) = .ok network ∧
      applyCommands .initial [dropoutOn 31, biasOn 31] = .ok c₁ ∧
      applyCommands .initial [biasOn 31, dropoutOn 31] = .ok c₂ ∧
      SameFaults c₁.activeFaults c₂.activeFaults ∧ DroppedOut c₁ 31 ∧
      step network (initialPhysical loopLab) c₁ (1 / 20) = .ok state ∧
      (observe loopRun state c₁).map (·.quality) = [.GOOD, .GOOD] ∧
      (observe loopRun state c₂).map (·.quality) = [.MISSING, .GOOD] ∧
      ¬ SameResults loopRun network c₁ c₂ := by
  let _ := knownSha256 []
  let _ := exactConversions
  have passed : (validateLab loopLab).runEligible = true := by decide +kernel
  obtain ⟨-, applied₁, applied₂⟩ := dropoutAndBias_applied
  have dropped : DroppedOut (dropoutAndBias 31) 31 := by
    simp [DroppedOut, dropoutAndBias]
  have qualities : firstQualities (dropoutAndBias 31) (dropoutAndBias 31) (biasAndDropout 31) =
      some ([.GOOD, .GOOD], [.MISSING, .GOOD]) := by decide +kernel
  obtain ⟨network, ok⟩ := compileLab_ok (runEligible_of_validateLab passed) (1 / 20)
  unfold firstQualities at qualities
  rw [ok] at qualities
  cases taken : step network (initialPhysical loopLab) (dropoutAndBias 31) (1 / 20) with
  | error e =>
      simp only [taken, Except.toOption, Option.bind_eq_bind, Option.bind_some, Option.bind_none] at qualities
      cases qualities
  | ok state =>
      simp only [taken, Except.toOption, Option.bind_eq_bind, Option.bind_some] at qualities
      obtain ⟨masked, missing⟩ := Prod.mk.inj (Option.some.inj qualities)
      refine ⟨passed, network, _, _, state, ok, applied₁, applied₂, dropoutAndBias_same 31, dropped, taken,
        masked, missing, fun results => ?_⟩
      rw [results.observed, missing] at masked
      cases masked

end IndustrialReliability
