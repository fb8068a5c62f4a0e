import IndustrialReliability.Lab.Readings
import IndustrialReliability.Lab.Checkpoints
import IndustrialReliability.Lib.Runs

/-!
The maximum principle: in exact arithmetic no pressure leaves the range of the
pressures that the lab starts with and is driven to.

Every system of a step is a positive diagonal and a Laplacian. Each source that is
active pulls the pressure of its node towards a target inside the range, whether or
not it should be active at the solution, so every iterate stays inside.
-/

namespace IndustrialReliability

variable {K : Type} [ExactNumber K]

/-- The initial pressures of a lab and the greatest pressures of its compressors. -/
def drivingPressures (definition : LabDefinition K) : Set K :=
  {p | ∃ asset ∈ definition.assets, p = initialPressure asset ∨
    asset.type = .compressor ∧ p = asset.parameters.float "p_max_pa" 900000.0}

/-- `P_ATM <= p <= ceiling`. -/
def Within (ceiling p : K) : Prop := (P_ATM : K) ≤ p ∧ p ≤ ceiling

/-! ### The sources of a system -/

/-- A source pulls towards a pressure inside the range. -/
structure Pulls (ceiling : K) (a b : K) : Prop where
  nonneg : 0 ≤ b
  below : (P_ATM : K) * b ≤ a
  above : a ≤ ceiling * b

theorem pulls_zero (ceiling : K) : Pulls ceiling 0 0 :=
  ⟨le_rfl, (mul_zero _).le, (mul_zero _).ge⟩

theorem Pulls.add {ceiling a b a' b' : K} (first : Pulls ceiling a b) (second : Pulls ceiling a' b') :
    Pulls ceiling (a + a') (b + b') := by
  refine ⟨add_nonneg first.nonneg second.nonneg, ?_, ?_⟩
  · rw [mul_add]
    exact add_le_add first.below second.below
  · rw [mul_add]
    exact add_le_add first.above second.above

/-- One target. -/
theorem pulls_target {ceiling target b : K} (nonneg : 0 ≤ b) (within : Within ceiling target) :
    Pulls ceiling (b * target) b := by
  refine ⟨nonneg, ?_, ?_⟩
  · rw [mul_comm]
    exact mul_le_mul_of_nonneg_left within.1 nonneg
  · rw [mul_comm ceiling]
    exact mul_le_mul_of_nonneg_left within.2 nonneg

theorem pulls_foldl {ceiling : K} {sources : List (Source K)}
    (each : ∀ source ∈ sources, Pulls ceiling source.a source.b) {a b : Nat → K}
    (before : ∀ i, Pulls ceiling (a i) (b i)) (i : Nat) :
    Pulls ceiling (sources.foldl (fun vector source => addTo vector source.node source.a) a i)
      (sources.foldl (fun vector source => addTo vector source.node source.b) b i) := by
  induction sources generalizing a b with
  | nil => exact before i
  | cons source sources ih =>
      refine ih (fun source mem => each source (List.mem_cons_of_mem _ mem)) fun j => ?_
      show Pulls ceiling (if j = source.node then a j + source.a else a j)
        (if j = source.node then b j + source.b else b j)
      split
      · exact (before j).add (each source List.mem_cons_self)
      · exact before j

/-- The settings of a step and the pressures it starts from are in their ranges. -/
structure StepSetup.Driven (setup : StepSetup K) (ceiling : K) : Prop where
  cDt_pos : ∀ i < setup.size, 0 < setup.cDt i
  laplacian : Lib.IsLaplacian (leading setup.size setup.laplacian)
  compressors : ∀ compressor ∈ setup.compressors, 0 ≤ compressor.qNom ∧ 0 < compressor.pMax ∧
    Within ceiling compressor.pMax
  started : ∀ i < setup.size, Within ceiling (setup.pPrev i)
  ceiling_above : (P_ATM : K) ≤ ceiling

namespace StepSetup

variable {setup : StepSetup K} {ceiling : K}

theorem Driven.compressorSource (driven : setup.Driven ceiling) {p : Nat → K}
    {compressor : CompressorConfig K} (mem : compressor ∈ setup.compressors) {source : Source K}
    (active : compressorSource p compressor = some source) : Pulls ceiling source.a source.b := by
  obtain ⟨qNom, pMax, within⟩ := driven.compressors compressor mem
  unfold StepSetup.compressorSource at active
  split at active
  · rename_i on
    cases active
    have load : 0 ≤ compressor.load := le_of_lt (by simpa [LabNumber.num_eq] using on.2.1)
    have flow : 0 ≤ compressor.qNom * compressor.load := mul_nonneg qNom load
    have towards := pulls_target (div_nonneg flow pMax.le) within
    rwa [div_mul_cancel₀ _ pMax.ne'] at towards
  · cases active

theorem Driven.sinkSource (driven : setup.Driven ceiling) {p : Nat → K} {sink : SinkConfig K}
    {source : Source K} (active : sinkSource p sink = some source) :
    Pulls ceiling source.a source.b := by
  unfold StepSetup.sinkSource at active
  split at active
  · rename_i on
    cases active
    have conductance : 0 ≤ sink.k := le_of_lt (by simpa [LabNumber.num_eq] using on.2)
    exact pulls_target conductance ⟨le_rfl, driven.ceiling_above⟩
  · cases active

theorem Driven.pulls (driven : setup.Driven ceiling) (p : Nat → K) (i : Nat) :
    Pulls ceiling (setup.aVec p i) (setup.bVec p i) := by
  refine pulls_foldl (fun source mem => ?_) (fun j => ?_) i
  · unfold sources at mem
    rcases List.mem_append.mp mem with mem | mem
    · obtain ⟨compressor, its, active⟩ := List.mem_filterMap.mp mem
      exact driven.compressorSource its active
    · obtain ⟨sink, -, active⟩ := List.mem_filterMap.mp mem
      exact driven.sinkSource active
  · have zero : (num 0 : K) = 0 := Rat.cast_zero
    rw [zero]
    exact pulls_zero ceiling

/-! ### The systems -/

/-- A positive diagonal and a Laplacian. -/
theorem leading_matrix (setup : StepSetup K) (p : Nat → K) : leading setup.size (setup.matrix p) =
    Matrix.diagonal (fun i : Fin setup.size => setup.cDt i + setup.bVec p i) +
      leading setup.size setup.laplacian := by
  have zero : (num 0 : K) = 0 := Rat.cast_zero
  funext i j
  show (if (i : Nat) = j then setup.cDt i + setup.bVec p i else num 0) + setup.laplacian i j =
    Matrix.diagonal _ i j + setup.laplacian i j
  rw [Matrix.diagonal_apply, zero]
  simp only [Fin.ext_iff]

theorem Driven.diagonal_pos (driven : setup.Driven ceiling) (p : Nat → K) (i : Fin setup.size) :
    0 < setup.cDt i + setup.bVec p i :=
  add_pos_of_pos_of_nonneg (driven.cDt_pos i i.isLt) (driven.pulls p i).nonneg

/-- The system at any vector of pressures. -/
def Solves (setup : StepSetup K) (p : Nat → K) (x : Fin setup.size → K) : Prop :=
  (leading setup.size (setup.matrix p)).mulVec x = fun i : Fin setup.size => setup.rhs p i

theorem Driven.regular (driven : setup.Driven ceiling) (p : Nat → K) :
    (leading setup.size (setup.matrix p)).det ≠ 0 := by
  rw [leading_matrix]
  exact driven.laplacian.det_ne_zero (driven.diagonal_pos p)

/-- Every system has one solution. -/
theorem Driven.existsUnique (driven : setup.Driven ceiling) (p : Nat → K) :
    ∃! x, setup.Solves p x :=
  ⟨_, Lib.mulVec_cramerSolution (driven.regular p) _, fun _ solves =>
    Lib.eq_cramerSolution (driven.regular p) solves⟩

/-- The maximum principle for one system. -/
theorem Driven.within (driven : setup.Driven ceiling) {p : Nat → K} {x : Fin setup.size → K}
    (solves : setup.Solves p x) (i : Fin setup.size) : Within ceiling (x i) := by
  unfold Solves at solves
  rw [leading_matrix] at solves
  constructor
  · refine driven.laplacian.ge_of_mulVec_eq (driven.diagonal_pos p) solves (fun j => ?_) i
    have charge := mul_le_mul_of_nonneg_left (driven.started j j.isLt).1 (driven.cDt_pos j j.isLt).le
    have pull := (driven.pulls p j).below
    show _ ≤ setup.cDt j * setup.pPrev j + setup.aVec p j
    rw [add_mul, mul_comm (setup.bVec p j)]
    exact add_le_add charge pull
  · refine driven.laplacian.le_of_mulVec_eq (driven.diagonal_pos p) solves (fun j => ?_) i
    have charge := mul_le_mul_of_nonneg_left (driven.started j j.isLt).2 (driven.cDt_pos j j.isLt).le
    have pull := (driven.pulls p j).above
    show setup.cDt j * setup.pPrev j + setup.aVec p j ≤ _
    rw [add_mul, mul_comm (setup.bVec p j)]
    exact add_le_add charge pull

/-- The iterates of the active-set loop, for any number of rounds. -/
inductive Iterate (setup : StepSetup K) : (Nat → K) → Prop
  | start : Iterate setup setup.pPrev
  | next {p q : Nat → K} (before : Iterate setup p) (solved : setup.nextIterate p = some q) :
      Iterate setup q

theorem Driven.nextIterate (driven : setup.Driven ceiling) (p : Nat → K) :
    ∃ q, setup.nextIterate p = some q ∧ setup.Solves p (fun i : Fin setup.size => q i) ∧
      ∀ i < setup.size, Within ceiling (q i) := by
  refine ⟨_, leading_det (driven.regular p), ?_⟩
  have solves := Lib.mulVec_cramerSolution (driven.regular p) fun i : Fin setup.size => setup.rhs p i
  constructor
  · refine Eq.trans (congrArg _ (funext fun i => ?_)) solves
    exact dif_pos i.isLt
  · intro i inside
    rw [dif_pos inside]
    exact driven.within solves ⟨i, inside⟩

theorem Driven.iterate (driven : setup.Driven ceiling) {p : Nat → K} (iterate : setup.Iterate p) :
    ∀ i < setup.size, Within ceiling (p i) := by
  cases iterate with
  | start => exact driven.started
  | @next p q _ solved =>
      obtain ⟨_, same, -, within⟩ := driven.nextIterate p
      cases solved.symm.trans same
      exact within

/-- The loop returns one of its iterates. -/
theorem Driven.activeSet (driven : setup.Driven ceiling) (rounds : Nat) {p : Nat → K}
    (before : setup.Iterate p) : ∃ q, setup.activeSet rounds p = .ok q ∧ setup.Iterate q := by
  induction rounds generalizing p with
  | zero => exact ⟨p, rfl, before⟩
  | succ rounds ih =>
      obtain ⟨q, solved, -, -⟩ := driven.nextIterate p
      unfold StepSetup.activeSet
      rw [solved]
      dsimp only
      split
      · exact ⟨q, rfl, .next before solved⟩
      · exact ih (.next before solved)

/-- Inside the range only the conservation of mass may fail. -/
theorem gates_eq_error {capacitances : List K} {p : Nat → K} {dt : K} {e : StepError K}
    (low : (ceiling : K) ≤ ((2.0e6 : ℚ) : K)) (within : ∀ i < setup.size, Within ceiling (p i))
    (failed : setup.gates capacitances p dt = .error e) :
    ∃ error tolerance, e = .conservation error tolerance := by
  unfold gates at failed
  dsimp only at failed
  split_ifs at failed with infinite negative extreme mass
  · obtain ⟨i, -, none⟩ := List.any_eq_true.mp infinite
    cases none
  · obtain ⟨i, mem, nonpos⟩ := List.any_eq_true.mp negative
    have above := (within i (List.mem_range.mp mem)).1
    have positive : (0 : K) < (P_ATM : K) := by
      have atm : (0 : ℚ) < P_ATM := by norm_num [P_ATM]
      exact_mod_cast atm
    have zero : p i ≤ 0 := by simpa [LabNumber.num_eq] using nonpos
    exact absurd (positive.trans_le (above.trans zero)) (lt_irrefl _)
  · obtain ⟨i, mem, exceeds⟩ := List.any_eq_true.mp extreme
    have below := (within i (List.mem_range.mp mem)).2.trans low
    have beyond : ((2.0e6 : ℚ) : K) < p i := of_decide_eq_true exceeds
    exact absurd below (not_le.mpr beyond)
  · exact ⟨_, _, (Except.error.inj failed).symm⟩

end StepSetup

/-! ### The settings of a step -/

theorem vec_of_forall {values : List K} {P : K → Prop} (all : ∀ value ∈ values, P value) {i : Nat}
    (inside : i < values.length) : P (vec values i) := by
  unfold vec
  rw [List.getD_eq_getElem?_getD, List.getElem?_eq_getElem inside]
  exact all _ (List.getElem_mem inside)

/-- The values of a dictionary are those of its rows. -/
theorem mem_of_get?_tableOf {κ ρ : Type} [DecidableEq κ] {rows : List (κ × ρ)} {key : κ} {value : ρ}
    (held : (tableOf rows).get? key = some value) : (key, value) ∈ rows := by
  have each : ∀ table : Lib.Table κ ρ, (rows.foldl (fun table row => table.set row.1 row.2) table).get?
      key = some value → (key, value) ∈ rows ∨ table.get? key = some value := by
    clear held
    induction rows with
    | nil => exact fun table held => .inr held
    | cons row rows ih =>
        intro table held
        rcases ih _ held with later | here
        · exact .inl (List.mem_cons_of_mem _ later)
        · by_cases same : key = row.1
          · subst same
            rw [Lib.Table.get?_set_self] at here
            cases here
            exact .inl List.mem_cons_self
          · rw [Lib.Table.get?_set_ne same] at here
            exact .inr here
  exact (each .empty held).resolve_right fun none => nomatch none

theorem initialPressure_range (asset : Asset K) : Within ((1500000.0 : ℚ) : K) (initialPressure asset) := by
  have known : (DEFAULT_PARAMETERS_BY_ASSET_TYPE asset.type).lookup "initial_pressure_pa" =
      some (.number (num 400000.0 : K)) := by
    cases asset.type <;> rfl
  exact asset.float_range rfl List.mem_cons_self known

theorem compressor_range (asset : Asset K) (type : asset.type = .compressor) :
    0 < asset.parameters.float "q_nom_kg_s" 0.02 ∧ (P_ATM : K) < asset.parameters.float "p_max_pa" 900000.0 ∧
      asset.parameters.float "p_max_pa" 900000.0 ≤ ((1500000.0 : ℚ) : K) := by
  have flow : ((0.001 : ℚ) : K) ≤ asset.parameters.float "q_nom_kg_s" 0.02 :=
    (asset.float_range type (List.mem_cons_of_mem _ List.mem_cons_self) rfl).1
  have pressure : ((200000.0 : ℚ) : K) ≤ asset.parameters.float "p_max_pa" 900000.0 ∧
      asset.parameters.float "p_max_pa" 900000.0 ≤ ((1500000.0 : ℚ) : K) :=
    asset.float_range type (List.mem_cons_of_mem _ (List.mem_cons_of_mem _ List.mem_cons_self)) rfl
  refine ⟨lt_of_lt_of_le ?_ flow, lt_of_lt_of_le ?_ pressure.1, pressure.2⟩
  · exact Rat.cast_pos.mpr (by norm_num)
  · exact Rat.cast_lt.mpr (by norm_num [P_ATM])

theorem nodeSlots_volume_pos (asset : Asset K) {slot : NodeSlot K} (mem : slot ∈ nodeSlots asset) :
    0 < slot.volume := by
  unfold nodeSlots at mem
  cases type : asset.type with
  | tank =>
      rw [type] at mem
      obtain rfl := List.mem_singleton.mp mem
      have volume : ((0.01 : ℚ) : K) ≤ asset.parameters.float "volume_m3" 0.5 :=
        (asset.float_range type (List.mem_cons_of_mem _ List.mem_cons_self) rfl).1
      exact (Rat.cast_pos.mpr (by norm_num)).trans_le volume
  | compressor =>
      rw [type] at mem
      obtain rfl := List.mem_singleton.mp mem
      exact Rat.cast_pos.mpr (by norm_num)
  | demand =>
      rw [type] at mem
      obtain rfl := List.mem_singleton.mp mem
      exact Rat.cast_pos.mpr (by norm_num)
  | isolationValve | controlValve =>
      rw [type] at mem
      rcases List.mem_cons.mp mem with rfl | mem
      · exact Rat.cast_pos.mpr (by norm_num)
      · obtain rfl := List.mem_singleton.mp mem
        exact Rat.cast_pos.mpr (by norm_num)

section Eligible

variable {definition : LabDefinition K} {network : CompiledNetwork K}
  {pipes valves : List (NetworkEdge K)} {ceiling dt : K} {state : PhysicalState K}

/-- A node is one of its asset. -/
theorem Compiled.exists_asset (compiled : Compiled definition network pipes valves)
    (eligible : RunEligible definition) {node : NetworkNode K} (mem : node ∈ network.nodes) :
    ∃ asset ∈ definition.assets, ∃ slot ∈ nodeSlots asset, ∃ index,
      node = NodeTable.newNode index asset slot := by
  obtain ⟨index, held⟩ := List.mem_iff_getElem?.mp mem
  rw [congrArg NodeTable.nodes compiled.nodes, eligible.numbered.getElem?] at held
  obtain ⟨pair, made, rfl⟩ := Option.map_eq_some_iff.mp held
  obtain ⟨its, own⟩ := mem_allSlots.mp (List.mem_of_getElem? made)
  exact ⟨pair.1, (perm_sortedAssets definition).mem_iff.mp its, pair.2, own, index, rfl⟩

/-- The pressures of a state are in the range. -/
def PhysicalState.Bounded (state : PhysicalState K) (ceiling : K) : Prop :=
  ∀ key p, state.pressuresPa.get? key = some p → Within ceiling p

/-- `state.pressures_pa.get(node.node_id, node.initial_pressure_pa)`. -/
def readPressure (state : PhysicalState K) (node : NetworkNode K) : K :=
  (state.pressuresPa.get? node.nodeId).getD node.initialPressurePa

theorem previousPressure_eq_ok {node : NetworkNode K} (above : (P_ATM : K) ≤ readPressure state node) :
    previousPressure state node = .ok (readPressure state node) := by
  refine if_neg ?_
  rintro (infinite | nonpos)
  · cases infinite
  · have positive : (0 : K) < (P_ATM : K) := Rat.cast_pos.mpr (by norm_num [P_ATM])
    have zero : (num 0 : K) = 0 := Rat.cast_zero
    rw [zero] at nonpos
    exact absurd (positive.trans_le (above.trans nonpos)) (lt_irrefl _)

theorem Compiled.readPressure_within (compiled : Compiled definition network pipes valves)
    (eligible : RunEligible definition) (greatest : ceiling ∈ upperBounds (drivingPressures definition))
    (bounded : state.Bounded ceiling) {node : NetworkNode K} (mem : node ∈ network.nodes) :
    Within ceiling (readPressure state node) := by
  unfold readPressure
  cases held : state.pressuresPa.get? node.nodeId with
  | some p => exact bounded _ _ held
  | none =>
      obtain ⟨asset, its, slot, -, index, rfl⟩ := compiled.exists_asset eligible mem
      exact ⟨(initialPressure_range asset).1, greatest ⟨asset, its, .inl rfl⟩⟩

theorem Compiled.previousPressure (compiled : Compiled definition network pipes valves)
    (eligible : RunEligible definition) (greatest : ceiling ∈ upperBounds (drivingPressures definition))
    (bounded : state.Bounded ceiling) {node : NetworkNode K} (mem : node ∈ network.nodes) :
    ∃ p, previousPressure state node = .ok p ∧ Within ceiling p := by
  have within := compiled.readPressure_within eligible greatest bounded mem
  exact ⟨_, previousPressure_eq_ok within.1, within⟩

theorem Compiled.capacitance_pos (compiled : Compiled definition network pipes valves)
    (eligible : RunEligible definition) {node : NetworkNode K} (mem : node ∈ network.nodes) :
    0 < node.capacitance := by
  obtain ⟨asset, -, slot, own, index, rfl⟩ := compiled.exists_asset eligible mem
  have gas : (0 : K) < (R_AIR : K) * (T_REF : K) :=
    mul_pos (Rat.cast_pos.mpr (by norm_num [R_AIR])) (Rat.cast_pos.mpr (by norm_num [T_REF]))
  exact div_pos (nodeSlots_volume_pos asset own) gas

theorem ceiling_above (eligible : RunEligible definition)
    (greatest : ceiling ∈ upperBounds (drivingPressures definition)) : (P_ATM : K) ≤ ceiling := by
  obtain ⟨asset, mem⟩ := List.exists_mem_of_ne_nil _ eligible.assets_nonempty
  exact (initialPressure_range asset).1.trans (greatest ⟨asset, mem, .inl rfl⟩)

theorem prepare_eq_ok {controls : ControlState K} {setup : StepSetup K}
    (prepared : prepare network state controls dt = .ok setup) :
    ∃ pPrev, network.nodes.mapM (previousPressure state) = .ok pPrev ∧ setup = {
      size := network.nodes.length
      pPrev := vec pPrev
      cDt := vec (network.capacitances.map (· / dt))
      laplacian := laplacian network.edges (edgeConductance controls)
      compressors := network.compressors.map (compressorConfig controls)
      demands := network.demands.map (demandConfig controls)
      leaks := leakConfigs network controls } := by
  obtain ⟨pPrev, read, rest⟩ := Lib.bind_eq_ok_iff.mp prepared
  exact ⟨pPrev, read, (Lib.pure_eq_ok_iff.mp rest).symm⟩

/-- The settings of a compressor are those of its asset. -/
theorem Compiled.exists_compressor (compiled : Compiled definition network pipes valves)
    (eligible : RunEligible definition) {controls : ControlState K} {config : CompressorConfig K}
    (mem : config ∈ network.compressors.map (compressorConfig controls)) :
    ∃ asset ∈ definition.assets, asset.type = .compressor ∧ config.node < network.nodes.length ∧
      config.qNom = asset.parameters.float "q_nom_kg_s" 0.02 ∧
      config.pMax = asset.parameters.float "p_max_pa" 900000.0 := by
  obtain ⟨source, its, rfl⟩ := List.mem_map.mp mem
  obtain ⟨asset, from_asset, made⟩ := Lib.exists_of_forall₂ compiled.compressors its
  obtain ⟨of_lab, type⟩ := List.mem_filter.mp from_asset
  obtain ⟨index, mapped, rest⟩ := Lib.bind_eq_ok_iff.mp made
  obtain rfl := Lib.pure_eq_ok_iff.mp rest
  exact ⟨asset, (perm_sortedAssets definition).mem_iff.mp of_lab, of_decide_eq_true type,
    compiled.inside eligible (portIndex_eq_ok.mp mapped), rfl, rfl⟩

/-- The settings of a step that starts inside the range. -/
theorem Compiled.prepare_of_reads (compiled : Compiled definition network pipes valves)
    (eligible : RunEligible definition) (greatest : ceiling ∈ upperBounds (drivingPressures definition))
    (reads : ∀ node ∈ network.nodes, Within ceiling (readPressure state node)) (positive : 0 < dt)
    (controls : ControlState K) : ∃ setup, prepare network state controls dt = .ok setup ∧
      setup.Driven ceiling ∧ setup.size = network.nodes.length := by
  obtain ⟨pPrev, read⟩ : ∃ pPrev, network.nodes.mapM (IndustrialReliability.previousPressure state) =
      .ok pPrev :=
    Lib.exists_mapM_ok fun node mem => ⟨_, previousPressure_eq_ok (reads node mem).1⟩
  refine ⟨_, Lib.bind_eq_ok_iff.mpr ⟨pPrev, read, rfl⟩, ?_, rfl⟩
  have paired := Lib.mapM_eq_ok_iff_forall₂.mp read
  refine ⟨fun i inside => ?_, compiled.isLaplacian eligible controls, ?_, fun i inside => ?_,
    ceiling_above eligible greatest⟩
  · refine vec_of_forall (fun value mem => ?_) (by
      rw [List.length_map, compiled.capacitances, List.length_map]
      exact inside)
    rw [compiled.capacitances, List.map_map] at mem
    obtain ⟨node, its, rfl⟩ := List.mem_map.mp mem
    exact div_pos (compiled.capacitance_pos eligible its) positive
  · intro config mem
    obtain ⟨asset, held, compressor, -, flow, limit⟩ := compiled.exists_compressor eligible mem
    obtain ⟨pushes, above, -⟩ := compressor_range asset compressor
    have positive : (0 : K) < (P_ATM : K) := Rat.cast_pos.mpr (by norm_num [P_ATM])
    rw [flow, limit]
    exact ⟨pushes.le, positive.trans above, above.le, greatest ⟨asset, held, .inr ⟨compressor, rfl⟩⟩⟩
  · refine vec_of_forall (fun value mem => ?_) (paired.length_eq ▸ inside)
    obtain ⟨node, its, same⟩ := Lib.exists_of_forall₂ paired mem
    cases same.symm.trans (previousPressure_eq_ok (reads node its).1)
    exact reads node its

theorem Compiled.prepare (compiled : Compiled definition network pipes valves)
    (eligible : RunEligible definition) (greatest : ceiling ∈ upperBounds (drivingPressures definition))
    (bounded : state.Bounded ceiling) (positive : 0 < dt) (controls : ControlState K) :
    ∃ setup, prepare network state controls dt = .ok setup ∧ setup.Driven ceiling ∧
      setup.size = network.nodes.length :=
  compiled.prepare_of_reads eligible greatest
    (fun _ mem => compiled.readPressure_within eligible greatest bounded mem) positive controls

/-! ### Steps -/

/-- The pressure of a node that is not in the range is not written. -/
theorem Compiled.step_bounded (compiled : Compiled definition network pipes valves)
    (eligible : RunEligible definition) (greatest : ceiling ∈ upperBounds (drivingPressures definition))
    (bounded : state.Bounded ceiling) (positive : 0 < dt) {controls : ControlState K}
    {state' : PhysicalState K} (taken : step network state controls dt = .ok state') :
    state'.Bounded ceiling := by
  obtain ⟨setup, driven, size, pNext, iterate, made⟩ : ∃ setup : StepSetup K, setup.Driven ceiling ∧
      setup.size = network.nodes.length ∧ ∃ pNext, setup.Iterate pNext ∧ state'.pressuresPa =
        tableOf (network.nodes.map fun node => (node.nodeId, pNext node.nodeIndex)) := by
    obtain ⟨setup, _, pNext, _, prepared, -, solved, -, -, rfl⟩ := step_eq_ok taken
    obtain ⟨_, same, driven, size⟩ := compiled.prepare eligible greatest bounded positive controls
    cases prepared.symm.trans same
    obtain ⟨_, same, iterate⟩ := driven.activeSet 16 .start
    cases solved.symm.trans same
    exact ⟨setup, driven, size, pNext, iterate, rfl⟩
  intro key p held
  rw [made] at held
  obtain ⟨node, mem, same⟩ := List.mem_map.mp (mem_of_get?_tableOf held)
  cases same
  obtain ⟨index, place⟩ := List.mem_iff_getElem?.mp mem
  have inside := (List.getElem?_eq_some_iff.mp place).1
  rw [network.indexed index node place]
  exact driven.iterate iterate index (size ▸ inside)

/-- A step that starts inside the range fails only for the conservation of mass. -/
theorem Compiled.step_eq_error (compiled : Compiled definition network pipes valves)
    (eligible : RunEligible definition) (greatest : ceiling ∈ upperBounds (drivingPressures definition))
    (low : ceiling ≤ ((2.0e6 : ℚ) : K)) (bounded : state.Bounded ceiling) (positive : 0 < dt)
    {controls : ControlState K} {e : StepError K} (failed : step network state controls dt = .error e) :
    ∃ error tolerance, e = .conservation error tolerance := by
  obtain ⟨setup, prepared, driven, size⟩ :=
    compiled.prepare eligible greatest bounded positive controls
  obtain ⟨conductances, known, values⟩ := compiled.edgeConductances eligible controls
  obtain ⟨pNext, solved, iterate⟩ := driven.activeSet 16 .start
  rcases Lib.bind_eq_error_iff.mp failed with none | ⟨_, same, failed⟩
  · cases prepared.symm.trans none
  cases prepared.symm.trans same
  rcases Lib.bind_eq_error_iff.mp failed with none | ⟨_, same, failed⟩
  · cases known.symm.trans none
  cases known.symm.trans same
  rcases Lib.bind_eq_error_iff.mp failed with none | ⟨_, same, failed⟩
  · cases solved.symm.trans none
  cases solved.symm.trans same
  rcases Lib.bind_eq_error_iff.mp failed with gate | ⟨_, -, failed⟩
  · exact StepSetup.gates_eq_error low (driven.iterate iterate) gate
  rcases Lib.bind_eq_error_iff.mp failed with flowing | ⟨_, -, none⟩
  · obtain ⟨edge, mem, missing⟩ := Lib.exists_of_mapM_eq_error flowing
    cases (compiled.edgeFlow_ok eligible mem values).symm.trans missing
  · cases none

/-- The lab starts inside the range. -/
theorem initialPhysical_bounded (greatest : ceiling ∈ upperBounds (drivingPressures definition)) :
    (initialPhysical definition).Bounded ceiling := by
  intro key p held
  obtain ⟨asset, mem, its⟩ := List.mem_flatMap.mp (mem_of_get?_tableOf held)
  obtain ⟨port, -, same⟩ := List.mem_map.mp its
  cases same
  exact ⟨(initialPressure_range asset).1, greatest ⟨asset, mem, .inl rfl⟩⟩

/-- The greatest driving pressure. -/
theorem exists_greatest (eligible : RunEligible definition) :
    ∃ ceiling, IsGreatest (drivingPressures definition) ceiling ∧ ceiling ≤ ((2.0e6 : ℚ) : K) := by
  let candidates := definition.assets.flatMap fun asset =>
    initialPressure asset ::
      if asset.type = .compressor then [asset.parameters.float "p_max_pa" 900000.0] else []
  have same : drivingPressures definition = {p | p ∈ candidates} := by
    ext p
    show (∃ asset ∈ definition.assets, _) ↔ p ∈ candidates
    rw [List.mem_flatMap]
    refine exists_congr fun asset => and_congr_right fun _ => ?_
    rw [List.mem_cons]
    refine or_congr_right ?_
    split <;> simp_all
  have nonempty : candidates.toFinset.Nonempty := by
    obtain ⟨asset, mem⟩ := List.exists_mem_of_ne_nil _ eligible.assets_nonempty
    exact ⟨initialPressure asset, List.mem_toFinset.mpr
      (List.mem_flatMap.mpr ⟨asset, mem, List.mem_cons_self⟩)⟩
  have greatest : IsGreatest (drivingPressures definition) (candidates.toFinset.max' nonempty) := by
    have top := candidates.toFinset.isGreatest_max' nonempty
    rw [same]
    rwa [List.coe_toFinset] at top
  refine ⟨_, greatest, ?_⟩
  have low : ((1500000.0 : ℚ) : K) ≤ ((2.0e6 : ℚ) : K) := Rat.cast_le.mpr (by norm_num)
  refine le_trans ?_ low
  obtain ⟨asset, -, first | ⟨compressor, second⟩⟩ := greatest.1
  · exact first ▸ (initialPressure_range asset).2
  · exact second ▸ (compressor_range asset compressor).2.2

end Eligible

/-- A state inside the range, and the steps from it. -/
structure Safe (network : CompiledNetwork K) (ceiling dt : K) (state : PhysicalState K) : Prop where
  bounded : state.Bounded ceiling
  nodes : ∀ node ∈ network.nodes, ∃ p, previousPressure state node = .ok p ∧ Within ceiling p
  /-- The systems of the active-set loop, and its iterates. -/
  systems : ∀ controls, ∃ setup, prepare network state controls dt = .ok setup ∧
    setup.size = network.nodes.length ∧ ∀ p, setup.Iterate p →
      (∃! x, setup.Solves p x) ∧ ∀ i < setup.size, Within ceiling (p i)
  failures : ∀ controls e, step network state controls dt = .error e →
    ∃ error tolerance, e = .conservation error tolerance

/-- The states that steps under any controls lead to. -/
def Simulated (network : CompiledNetwork K) (dt : K) : PhysicalState K → PhysicalState K → Prop :=
  Lib.Reachable fun state controls => (step network state controls dt).toOption

theorem maximum_principle [Sha256Digest] (definition : LabDefinition K) {dt : K} (positive : 0 < dt)
    (passed : (validateLab definition).runEligible = true) :
    ∃ network ceiling, compileLab definition dt = .ok network ∧
      IsGreatest (drivingPressures definition) ceiling ∧
      ∀ state, Simulated network dt (initialPhysical definition) state →
        Safe network ceiling dt state := by
  have eligible := runEligible_of_validateLab passed
  obtain ⟨network, ok⟩ := compileLab_ok eligible dt
  obtain ⟨pipes, valves, compiled⟩ := compileLab_eq_ok ok
  obtain ⟨ceiling, greatest, low⟩ := exists_greatest eligible
  refine ⟨network, ceiling, ok, greatest, fun state simulated => ?_⟩
  have bounded : state.Bounded ceiling := by
    refine simulated.invariant (P := fun state => state.Bounded ceiling) ?_ ?_
    · intro state controls state' before taken
      exact compiled.step_bounded eligible greatest.2 before positive
        (Lib.toOption_eq_some_iff.mp taken)
    · exact initialPhysical_bounded greatest.2
  refine ⟨bounded, fun node mem => compiled.previousPressure eligible greatest.2 bounded mem,
    fun controls => ?_, fun controls e failed =>
      compiled.step_eq_error eligible greatest.2 low bounded positive failed⟩
  obtain ⟨setup, prepared, driven, size⟩ :=
    compiled.prepare eligible greatest.2 bounded positive controls
  exact ⟨setup, prepared, size, fun p iterate => ⟨driven.existsUnique p, driven.iterate iterate⟩⟩

theorem loopLab_maximum_principle :
    letI := knownSha256 []
    ∃ network ceiling, compileLab loopLab (1 / 20) = .ok network ∧
      IsGreatest (drivingPressures loopLab) ceiling ∧
      ∀ state, Simulated network (1 / 20) (initialPhysical loopLab) state →
        Safe network ceiling (1 / 20) state := by
  let _ := knownSha256 []
  have positive : (0 : ℚ) < 1 / 20 := by norm_num
  have passed : (validateLab loopLab).runEligible = true := by decide +kernel
  exact maximum_principle loopLab positive passed

example : ((compileLab loopLab (1 / 20)).toOption.bind fun network =>
    (step network (initialPhysical loopLab) .initial (1 / 20)).toOption).isSome = true := by
  decide +kernel

end IndustrialReliability
