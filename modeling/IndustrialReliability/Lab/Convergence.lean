import Mathlib.Tactic.LinearCombination
import IndustrialReliability.Lab.Pressures
import IndustrialReliability.Lib.ActiveSet

/-!
The active-set loop converges and its solution balances the network.

A step is a clipped network (`StepSetup.clipped`): compressors are its feeds, demands and
leaks at a node are its drain. The rounds of the loop are the iteration of the library,
so two of them agree after as many rounds as there are compressors running, and four
(`Powered.converges`). What the loop returns when it converges satisfies the implicit
balance of every node, but for a leak that has just begun (`Powered.balanced`).
-/

namespace IndustrialReliability

open Lib

variable {K : Type} [ExactNumber K]

/-! ### Flows -/

/-- `enabled and load > 0`. -/
def CompressorConfig.Running (compressor : CompressorConfig K) : Prop :=
  compressor.enabled = true ∧ 0 < compressor.load

instance (compressor : CompressorConfig K) : Decidable compressor.Running :=
  inferInstanceAs (Decidable (_ ∧ _))

/-- `q_nom * load * max(0, 1 - p / p_max)`. -/
def CompressorConfig.flow (compressor : CompressorConfig K) (p : K) : K :=
  if compressor.Running then compressor.qNom * compressor.load * max 0 (1 - p / compressor.pMax) else 0

/-- `k * max(0, p - p_atm)`. -/
def SinkConfig.flow (sink : SinkConfig K) (p : K) : K :=
  if 0 < sink.k then sink.k * max 0 (p - (P_ATM : K)) else 0

namespace StepSetup

/-- What the compressors at a node give. -/
def inflowAt (setup : StepSetup K) (p : Nat → K) (i : Nat) : K :=
  (setup.compressors.map fun compressor => if compressor.node = i then compressor.flow (p i) else 0).sum

/-- What the demands and leaks at a node take. -/
def outflowAt (setup : StepSetup K) (p : Nat → K) (i : Nat) : K :=
  ((setup.demands ++ setup.leaks).map fun sink => if sink.node = i then sink.flow (p i) else 0).sum

/-- The conductance of the leaks at a node. -/
def leakAt (setup : StepSetup K) (i : Nat) : K :=
  (setup.leaks.map fun leak => if leak.node = i ∧ 0 < leak.k then leak.k else 0).sum

/-- The loop, started at a vector, passes its convergence test in this round. -/
inductive Converges (setup : StepSetup K) : Nat → (Nat → K) → (Nat → K) → Prop
  | now {p q : Nat → K} (solved : setup.nextIterate p = some q) (passed : setup.converged p q = true) :
      Converges setup 1 p q
  | later {rounds : Nat} {p next q : Nat → K} (solved : setup.nextIterate p = some next)
      (failed : setup.converged p next = false) (rest : Converges setup rounds next q) :
      Converges setup (rounds + 1) p q

/-- A loop that may run as long returns the solution. -/
theorem Converges.activeSet {setup : StepSetup K} {rounds limit : Nat} {p q : Nat → K}
    (converges : setup.Converges rounds p q) (within : rounds ≤ limit) : setup.activeSet limit p = .ok q := by
  induction converges generalizing limit with
  | now solved passed =>
      obtain ⟨limit, rfl⟩ := Nat.exists_eq_add_of_le' within
      simp [StepSetup.activeSet, solved, passed]
  | later solved failed _ ih =>
      obtain ⟨limit, rfl⟩ := Nat.exists_eq_add_of_le' (Nat.one_le_of_lt within)
      simp only [StepSetup.activeSet, solved, failed, Bool.false_eq_true, if_false]
      exact ih (by omega)

/-- The last solve of a loop that converges. -/
theorem Converges.last {setup : StepSetup K} {rounds : Nat} {p q : Nat → K}
    (converges : setup.Converges rounds p q) (iterate : setup.Iterate p) :
    ∃ before, setup.Iterate before ∧ setup.nextIterate before = some q ∧ setup.converged before q = true := by
  induction converges with
  | now solved passed => exact ⟨_, iterate, solved, passed⟩
  | later solved _ _ ih => exact ih (.next iterate solved)

/-- The balance of every node and of the whole network. -/
structure Balanced (setup : StepSetup K) (capacitances : List K) (dt : K) (p : Nat → K) : Prop where
  node : ∀ i < setup.size, ∃ error, 0 ≤ error ∧ error ≤ ((1e-7 : ℚ) : K) * setup.leakAt i ∧
    vec capacitances i * (p i - setup.pPrev i) / dt + ∑ j ∈ Finset.range setup.size, setup.laplacian i j * p j =
      setup.inflowAt p i - setup.outflowAt p i + error
  total : |∑ i ∈ Finset.range setup.size, (vec capacitances i * p i - vec capacitances i * setup.pPrev i) -
      dt * (setup.inflow p - setup.outflow p)| ≤
    dt * ∑ i ∈ Finset.range setup.size, ((1e-7 : ℚ) : K) * setup.leakAt i

/-- Compressors that push, and elements at nodes of the network. -/
structure Powered (setup : StepSetup K) (ceiling : K) : Prop extends setup.Driven ceiling where
  qNom_pos : ∀ compressor ∈ setup.compressors, 0 < compressor.qNom
  pMax_above : ∀ compressor ∈ setup.compressors, (P_ATM : K) < compressor.pMax
  compressors_inside : ∀ compressor ∈ setup.compressors, compressor.node < setup.size
  sinks_inside : ∀ sink ∈ setup.demands ++ setup.leaks, sink.node < setup.size

/-! ### The step as a clipped network -/

/-- A running compressor at a node of the network. -/
def feed? (size : Nat) (compressor : CompressorConfig K) : Option (Feed (Fin size) K) :=
  if inside : compressor.node < size then
    if compressor.Running then
      some ⟨⟨compressor.node, inside⟩, compressor.qNom * compressor.load / compressor.pMax, compressor.pMax⟩
    else none
  else none

theorem feed?_eq_some {size : Nat} {compressor : CompressorConfig K} {feed : Feed (Fin size) K}
    (made : feed? size compressor = some feed) : compressor.Running ∧ feed.node = compressor.node ∧
      feed.slope = compressor.qNom * compressor.load / compressor.pMax ∧ feed.limit = compressor.pMax := by
  unfold feed? at made
  split_ifs at made with inside running
  cases made
  exact ⟨running, rfl, rfl, rfl⟩

/-- The conductance of the sinks at a node. -/
def drainAt (setup : StepSetup K) (i : Nat) : K :=
  ((setup.demands ++ setup.leaks).map fun sink => if sink.node = i ∧ 0 < sink.k then sink.k else 0).sum

variable {setup : StepSetup K} {ceiling : K}

/-- The clipped network that a step solves. -/
def clipped (setup : StepSetup K) (powered : setup.Powered ceiling) : ClippedNetwork (Fin setup.size) K where
  L := leading setup.size setup.laplacian
  charge i := setup.cDt i
  start i := setup.pPrev i
  base := (P_ATM : K)
  drain i := setup.drainAt i
  feeds := setup.compressors.filterMap (feed? setup.size)
  laplacian := powered.laplacian
  charge_pos i := powered.cDt_pos i i.isLt
  start_above i := (powered.started i i.isLt).1
  drain_nonneg i := List.sum_nonneg fun value mem => by
    obtain ⟨sink, -, rfl⟩ := List.mem_map.mp mem
    split
    · exact (‹_ ∧ _› : _ ∧ 0 < sink.k).2.le
    · exact le_rfl
  slope_pos feed mem := by
    obtain ⟨compressor, its, made⟩ := List.mem_filterMap.mp mem
    obtain ⟨running, -, slope, -⟩ := feed?_eq_some made
    rw [slope]
    exact div_pos (mul_pos (powered.qNom_pos compressor its) running.2) (powered.compressors compressor its).2.1
  limit_above feed mem := by
    obtain ⟨compressor, its, made⟩ := List.mem_filterMap.mp mem
    obtain ⟨-, -, -, limit⟩ := feed?_eq_some made
    rw [limit]
    exact powered.pMax_above compressor its

/-! ### The terms of a system -/

/-- What a compressor that is active at `p` gives to a node at the pressure `y`. -/
def compressorTerm (p : Nat → K) (i : Nat) (y : K) (compressor : CompressorConfig K) : K :=
  if compressor.node = i ∧ compressor.Running ∧ p i < compressor.pMax then
    compressor.qNom * compressor.load * (1 - y / compressor.pMax)
  else 0

/-- What a sink that is active at `p` takes from a node at the pressure `y`. -/
def sinkTerm (p : Nat → K) (i : Nat) (y : K) (sink : SinkConfig K) : K :=
  if sink.node = i ∧ 0 < sink.k ∧ (P_ATM : K) < p i then sink.k * (y - (P_ATM : K)) else 0

theorem foldl_addTo (sources : List (Source K)) (f : Source K → K) (vector : Nat → K) (i : Nat) :
    sources.foldl (fun vector source => addTo vector source.node (f source)) vector i =
      vector i + (sources.map fun source => if source.node = i then f source else 0).sum := by
  induction sources generalizing vector with
  | nil => simp
  | cons source sources ih =>
      rw [List.foldl_cons, ih, List.map_cons, List.sum_cons, ← add_assoc]
      congr 1
      unfold addTo
      by_cases here : source.node = i
      · simp [here]
      · simp [here, Ne.symm here]

theorem sum_map_filterMap {α β : Type} (xs : List α) (g : α → Option β) (f : β → K) :
    ((xs.filterMap g).map f).sum = (xs.map fun x => (g x).elim 0 f).sum := by
  induction xs with
  | nil => rfl
  | cons x xs ih =>
      rw [List.filterMap_cons, List.map_cons, List.sum_cons, ← ih]
      cases g x <;> simp

theorem sources_term (p : Nat → K) (i : Nat) (y : K) (compressor : CompressorConfig K)
    (positive : compressor.pMax ≠ 0) :
    ((compressorSource p compressor).elim 0 fun source =>
      if source.node = i then source.a - source.b * y else 0) = compressorTerm p i y compressor := by
  have zero : (num 0 : K) = 0 := Rat.cast_zero
  by_cases here : compressor.node = i
  · subst here
    unfold compressorSource compressorTerm CompressorConfig.Running
    rw [zero]
    by_cases active : compressor.enabled = true ∧ 0 < compressor.load ∧ p compressor.node < compressor.pMax
    · rw [if_pos active, if_pos ⟨rfl, ⟨active.1, active.2.1⟩, active.2.2⟩]
      simp only [Option.elim_some, if_true]
      field_simp
    · rw [if_neg active, if_neg fun both => active ⟨both.2.1.1, both.2.1.2, both.2.2⟩]
      rfl
  · have idle : compressorTerm p i y compressor = 0 := if_neg fun both => here both.1
    rw [idle]
    unfold compressorSource
    split <;> simp [here]

theorem sinks_term (p : Nat → K) (i : Nat) (y : K) (sink : SinkConfig K) :
    ((sinkSource p sink).elim 0 fun source => if source.node = i then source.a - source.b * y else 0) =
      -sinkTerm p i y sink := by
  have zero : (num 0 : K) = 0 := Rat.cast_zero
  by_cases here : sink.node = i
  · subst here
    unfold sinkSource sinkTerm
    rw [zero, LabNumber.num_eq]
    by_cases active : (P_ATM : K) < p sink.node ∧ 0 < sink.k
    · rw [if_pos active, if_pos ⟨rfl, active.2, active.1⟩]
      simp only [Option.elim_some, if_true]
      ring
    · rw [if_neg active, if_neg fun both => active ⟨both.2.2, both.2.1⟩]
      simp
  · have idle : sinkTerm p i y sink = 0 := if_neg fun both => here both.1
    rw [idle]
    unfold sinkSource
    split <;> simp [here]

/-- What the system of a vector gives to a node at the pressure `y`. -/
theorem aVec_sub_bVec (positive : ∀ compressor ∈ setup.compressors, compressor.pMax ≠ 0) (p : Nat → K)
    (i : Nat) (y : K) : setup.aVec p i - setup.bVec p i * y =
      (setup.compressors.map (compressorTerm p i y)).sum -
        ((setup.demands ++ setup.leaks).map (sinkTerm p i y)).sum := by
  have zero : (num 0 : K) = 0 := Rat.cast_zero
  have merged : setup.aVec p i - setup.bVec p i * y = ((setup.sources p).map fun source =>
      if source.node = i then source.a - source.b * y else 0).sum := by
    unfold aVec bVec
    rw [foldl_addTo _ Source.a, foldl_addTo _ Source.b, zero, zero_add, zero_add]
    induction setup.sources p with
    | nil => simp
    | cons source sources ih =>
        simp only [List.map_cons, List.sum_cons, ← ih]
        split <;> ring
  rw [merged]
  unfold sources
  rw [List.map_append, List.sum_append, sum_map_filterMap, sum_map_filterMap, sub_eq_add_neg]
  congr 1
  · exact congrArg List.sum (List.map_congr_left fun compressor mem =>
      sources_term p i y compressor (positive compressor mem))
  · rw [List.sum_neg, List.map_map]
    exact congrArg List.sum (List.map_congr_left fun sink _ => sinks_term p i y sink)

/-! ### Convergence -/

section Powered

variable (powered : setup.Powered ceiling)

theorem Powered.pMax_ne (powered : setup.Powered ceiling) :
    ∀ compressor ∈ setup.compressors, compressor.pMax ≠ 0 :=
  fun compressor mem => (powered.compressors compressor mem).2.1.ne'

theorem clipped_inflow (p : Nat → K) (i : Fin setup.size) (y : K) :
    (setup.clipped powered).inflow (fun i => p i) i y = (setup.compressors.map (compressorTerm p i y)).sum := by
  show ((setup.compressors.filterMap (feed? setup.size)).map _).sum = _
  rw [sum_map_filterMap]
  refine congrArg List.sum (List.map_congr_left fun compressor mem => ?_)
  have positive := powered.pMax_ne compressor mem
  have inside := powered.compressors_inside compressor mem
  unfold feed? compressorTerm
  rw [dif_pos inside]
  by_cases running : compressor.Running
  · rw [if_pos running]
    simp only [Option.elim_some, ClippedNetwork.feedTerm, Fin.ext_iff, running, true_and]
    refine if_congr Iff.rfl ?_ rfl
    field_simp
  · rw [if_neg running, if_neg fun both => running both.2.1]
    rfl

theorem clipped_outflow (p : Nat → K) (i : Fin setup.size) (y : K) :
    (setup.clipped powered).outflow (fun i => p i) i y =
      ((setup.demands ++ setup.leaks).map (sinkTerm p i y)).sum := by
  show (if (P_ATM : K) < p i then setup.drainAt i * (y - (P_ATM : K)) else 0) = _
  unfold drainAt
  by_cases above : (P_ATM : K) < p i
  · rw [if_pos above, ← List.sum_map_mul_right]
    refine congrArg List.sum (List.map_congr_left fun sink _ => ?_)
    unfold sinkTerm
    rw [ite_mul, zero_mul]
    exact if_congr (by simp [above]) rfl rfl
  · rw [if_neg above]
    have none : (setup.demands ++ setup.leaks).map (sinkTerm p i y) =
        (setup.demands ++ setup.leaks).map fun _ => 0 :=
      List.map_congr_left fun sink _ => if_neg fun both => above both.2.2
    rw [none]
    simp

/-- A solve of the loop is one of the clipped network. -/
theorem Powered.solves (powered : setup.Powered ceiling) {p q : Nat → K} (solved : setup.nextIterate p = some q) :
    (setup.clipped powered).Solves (fun i => p i) fun i => q i := by
  obtain ⟨_, same, solves, -⟩ := powered.toDriven.nextIterate p
  cases solved.symm.trans same
  intro i
  have row := congrFun solves i
  rw [leading_matrix, diagonal_add_mulVec] at row
  have terms := aVec_sub_bVec powered.pMax_ne p i (q i)
  unfold ClippedNetwork.residual
  rw [clipped_inflow, clipped_outflow]
  show setup.cDt i * (q i - setup.pPrev i) + (leading setup.size setup.laplacian).mulVec (fun i => q i) i - _ + _ = 0
  have right : setup.rhs p i = setup.cDt i * setup.pPrev i + setup.aVec p i := rfl
  rw [right] at row
  linear_combination row + terms

theorem Powered.exists_next (powered : setup.Powered ceiling) (p : Nat → K) : ∃ q, setup.nextIterate p = some q := by
  obtain ⟨q, solved, -⟩ := powered.toDriven.nextIterate p
  exact ⟨q, solved⟩

/-- A solution is nothing outside the network. -/
theorem Powered.outside (powered : setup.Powered ceiling) {p q : Nat → K} (solved : setup.nextIterate p = some q)
    {i : Nat} (beyond : setup.size ≤ i) : q i = 0 := by
  have same : setup.nextIterate p = _ := leading_det (powered.toDriven.regular p)
  rw [solved, Option.some.injEq] at same
  rw [same]
  exact dif_neg (not_lt.mpr beyond)

/-- The rounds of a loop that never stops. -/
def iterates (setup : StepSetup K) : Nat → Nat → K
  | 0 => setup.pPrev
  | k + 1 => (setup.nextIterate (setup.iterates k)).getD (setup.iterates k)

theorem Powered.iterates_next (powered : setup.Powered ceiling) (k : Nat) :
    setup.nextIterate (setup.iterates k) = some (setup.iterates (k + 1)) := by
  obtain ⟨q, solved⟩ := powered.exists_next (setup.iterates k)
  rw [iterates, solved]
  rfl

theorem converged_self (setup : StepSetup K) (p : Nat → K) : setup.converged p p = true := by
  have small : ((0 : ℚ) : K) ≤ ((1e-7 : ℚ) : K) := Rat.cast_le.mpr (by norm_num)
  unfold converged
  simp [LabNumber.pyAbs_eq, LabNumber.num_eq] at small ⊢
  exact fun _ _ => small

/-- The first round that passes the test ends the loop. -/
theorem Powered.converges_of_converged (powered : setup.Powered ceiling) (m : Nat) : ∀ start,
    setup.converged (setup.iterates (start + m)) (setup.iterates (start + m + 1)) = true →
      ∃ rounds ≤ m + 1, ∃ q, setup.Converges rounds (setup.iterates start) q := by
  induction m with
  | zero => exact fun start passed => ⟨1, le_rfl, _, .now (powered.iterates_next start) passed⟩
  | succ m ih =>
      intro start passed
      have solved := powered.iterates_next start
      cases test : setup.converged (setup.iterates start) (setup.iterates (start + 1)) with
      | true => exact ⟨1, by omega, _, .now solved test⟩
      | false =>
          have shift : start + 1 + m = start + (m + 1) := by omega
          obtain ⟨rounds, within, q, rest⟩ := ih (start + 1) (by rw [shift]; exact passed)
          exact ⟨rounds + 1, by omega, q, .later solved test rest⟩

/-- The compressors that are running. -/
def running (setup : StepSetup K) : Nat := setup.compressors.countP fun compressor => decide compressor.Running

theorem Powered.feeds_le_running : (setup.clipped powered).feeds.length ≤ setup.running := by
  show (setup.compressors.filterMap (feed? setup.size)).length ≤ _
  rw [List.length_filterMap_eq_countP]
  refine List.countP_mono_left fun compressor _ made => decide_eq_true ?_
  obtain ⟨feed, made⟩ := Option.isSome_iff_exists.mp made
  exact (feed?_eq_some made).1

/-- The loop converges in as many rounds as there are compressors running, and four. -/
theorem Powered.converges (powered : setup.Powered ceiling) :
    ∃ rounds ≤ setup.running + 4, ∃ q, setup.Converges rounds setup.pPrev q := by
  have iterates : (setup.clipped powered).Iterates fun k i => setup.iterates k i :=
    ⟨rfl, fun k => powered.solves (powered.iterates_next k)⟩
  obtain ⟨k, within, still⟩ := iterates.settles
  have few := powered.feeds_le_running
  have same : setup.iterates (k + 4) = setup.iterates (k + 3) := by
    funext i
    by_cases inside : i < setup.size
    · exact congrFun still ⟨i, inside⟩
    · have beyond := not_lt.mp inside
      rw [powered.outside (powered.iterates_next (k + 3)) beyond,
        powered.outside (powered.iterates_next (k + 2)) beyond]
  have passed : setup.converged (setup.iterates (0 + (k + 3))) (setup.iterates (0 + (k + 3) + 1)) = true := by
    rw [Nat.zero_add, same]
    exact converged_self setup _
  obtain ⟨rounds, bound, q, converges⟩ := powered.converges_of_converged (k + 3) 0 passed
  exact ⟨rounds, by omega, q, converges⟩

/-! ### Balance -/

/-- The test of the loop, element by element. -/
theorem converged_spec {p q : Nat → K} (passed : setup.converged p q = true) :
    (∀ compressor ∈ setup.compressors, compressor.Running →
      (q compressor.node < compressor.pMax ↔ p compressor.node < compressor.pMax)) ∧
    (∀ demand ∈ setup.demands, 0 < demand.k →
      ((P_ATM : K) < q demand.node ↔ (P_ATM : K) < p demand.node)) ∧
    ∀ i < setup.size, |q i - p i| ≤ ((1e-7 : ℚ) : K) := by
  have zero : (num 0 : K) = 0 := Rat.cast_zero
  unfold converged at passed
  rw [Bool.and_eq_true, Bool.and_eq_true, List.all_eq_true, List.all_eq_true, List.all_eq_true] at passed
  obtain ⟨⟨compressors, demands⟩, deltas⟩ := passed
  refine ⟨fun compressor mem running => ?_, fun demand mem positive => ?_, fun i inside => ?_⟩
  · have test := compressors compressor mem
    rw [zero, running.1, decide_eq_true running.2] at test
    simpa using test
  · have test := demands demand mem
    rw [zero, decide_eq_true positive] at test
    simpa [LabNumber.num_eq] using test
  · have test := of_decide_eq_true (deltas i (List.mem_range.mpr inside))
    rwa [LabNumber.pyAbs_eq] at test

/-- A compressor whose state is that of the solution gives its flow. -/
theorem compressorTerm_eq_flow {p q : Nat → K} {i : Nat} {compressor : CompressorConfig K}
    (positive : 0 < compressor.pMax) (same : compressor.Running →
      (q compressor.node < compressor.pMax ↔ p compressor.node < compressor.pMax)) :
    compressorTerm p i (q i) compressor = if compressor.node = i then compressor.flow (q i) else 0 := by
  unfold compressorTerm CompressorConfig.flow
  by_cases here : compressor.node = i
  · subst here
    by_cases running : compressor.Running
    · have same := same running
      by_cases below : q compressor.node < compressor.pMax
      · have room : 0 ≤ 1 - q compressor.node / compressor.pMax :=
          sub_nonneg.mpr ((div_le_one positive).mpr below.le)
        rw [if_pos ⟨rfl, running, same.mp below⟩, if_pos rfl, if_pos running, max_eq_right room]
      · have full : 1 - q compressor.node / compressor.pMax ≤ 0 :=
          sub_nonpos.mpr ((one_le_div positive).mpr (not_lt.mp below))
        rw [if_neg fun both => below (same.mpr both.2.2), if_pos rfl, if_pos running, max_eq_left full, mul_zero]
    · rw [if_neg fun both => running both.2.1, if_pos rfl, if_neg running]
  · rw [if_neg fun both => here both.1, if_neg here]

/-- A sink whose state is that of the solution takes its flow. -/
theorem sinkTerm_eq_flow {p q : Nat → K} {i : Nat} {sink : SinkConfig K}
    (same : 0 < sink.k → ((P_ATM : K) < q sink.node ↔ (P_ATM : K) < p sink.node)) :
    sinkTerm p i (q i) sink = if sink.node = i then sink.flow (q i) else 0 := by
  unfold sinkTerm SinkConfig.flow
  by_cases here : sink.node = i
  · subst here
    by_cases positive : 0 < sink.k
    · have same := same positive
      by_cases above : (P_ATM : K) < q sink.node
      · rw [if_pos ⟨rfl, positive, same.mp above⟩, if_pos rfl, if_pos positive,
          max_eq_right (sub_nonneg.mpr above.le)]
      · rw [if_neg fun both => above (same.mpr both.2.2), if_pos rfl, if_pos positive,
          max_eq_left (sub_nonpos.mpr (not_lt.mp above)), mul_zero]
    · rw [if_neg fun both => positive both.2.1, if_pos rfl, if_neg positive]
  · rw [if_neg fun both => here both.1, if_neg here]

/-- A leak that has just begun is missed, but it is small. -/
theorem leak_error {p q : Nat → K} {i : Nat} (before : (P_ATM : K) ≤ p i) (after : (P_ATM : K) ≤ q i)
    (near : |q i - p i| ≤ ((1e-7 : ℚ) : K)) (leak : SinkConfig K) :
    0 ≤ (if leak.node = i then leak.flow (q i) else 0) - sinkTerm p i (q i) leak ∧
      (if leak.node = i then leak.flow (q i) else 0) - sinkTerm p i (q i) leak ≤
        ((1e-7 : ℚ) : K) * if leak.node = i ∧ 0 < leak.k then leak.k else 0 := by
  by_cases leaks : leak.node = i ∧ 0 < leak.k
  · obtain ⟨rfl, positive⟩ := leaks
    have flow : leak.flow (q leak.node) = leak.k * (q leak.node - (P_ATM : K)) := by
      rw [SinkConfig.flow, if_pos positive, max_eq_right (sub_nonneg.mpr after)]
    rw [if_pos rfl, if_pos ⟨rfl, positive⟩, flow]
    by_cases above : (P_ATM : K) < p leak.node
    · have term : sinkTerm p leak.node (q leak.node) leak = leak.k * (q leak.node - (P_ATM : K)) :=
        if_pos ⟨rfl, positive, above⟩
      have small : (0 : K) ≤ ((1e-7 : ℚ) : K) := Rat.cast_nonneg.mpr (by norm_num)
      rw [term, sub_self]
      exact ⟨le_rfl, mul_nonneg small positive.le⟩
    · have term : sinkTerm p leak.node (q leak.node) leak = 0 := if_neg fun both => above both.2.2
      have rest : p leak.node = (P_ATM : K) := le_antisymm (not_lt.mp above) before
      rw [rest, abs_of_nonneg (sub_nonneg.mpr after)] at near
      rw [term, sub_zero, mul_comm ((1e-7 : ℚ) : K)]
      exact ⟨mul_nonneg positive.le (sub_nonneg.mpr after), mul_le_mul_of_nonneg_left near positive.le⟩
  · have term : sinkTerm p i (q i) leak = 0 := if_neg fun both => leaks ⟨both.1, both.2.1⟩
    have flow : (if leak.node = i then leak.flow (q i) else 0) = 0 := by
      by_cases here : leak.node = i
      · rw [if_pos here]
        exact if_neg fun positive => leaks ⟨here, positive⟩
      · exact if_neg here
    rw [term, flow, if_neg leaks, mul_zero, sub_zero]
    exact ⟨le_rfl, le_rfl⟩

/-- What the leaks at a node take that the last system did not see. -/
def leakError (setup : StepSetup K) (p q : Nat → K) (i : Nat) : K :=
  (setup.leaks.map fun leak => (if leak.node = i then leak.flow (q i) else 0) - sinkTerm p i (q i) leak).sum

theorem leakError_bounds (setup : StepSetup K) {p q : Nat → K} {i : Nat}
    (before : (P_ATM : K) ≤ p i) (after : (P_ATM : K) ≤ q i)
    (near : |q i - p i| ≤ ((1e-7 : ℚ) : K)) :
    0 ≤ setup.leakError p q i ∧ setup.leakError p q i ≤ ((1e-7 : ℚ) : K) * setup.leakAt i := by
  unfold leakError leakAt
  constructor
  · refine List.sum_nonneg fun value mem => ?_
    obtain ⟨leak, -, rfl⟩ := List.mem_map.mp mem
    exact (leak_error before after near leak).1
  · rw [← List.sum_map_mul_left]
    exact List.sum_le_sum fun leak _ => (leak_error before after near leak).2

/-- The balance of a node at the solution of the loop. -/
theorem Powered.node_balance (powered : setup.Powered ceiling) {p q : Nat → K}
    (solved : setup.nextIterate p = some q) (passed : setup.converged p q = true) {i : Nat}
    (inside : i < setup.size) :
    setup.cDt i * (q i - setup.pPrev i) + ∑ j ∈ Finset.range setup.size, setup.laplacian i j * q j =
      setup.inflowAt q i - setup.outflowAt q i + setup.leakError p q i := by
  obtain ⟨compressors, demands, -⟩ := converged_spec passed
  have balance := powered.solves solved ⟨i, inside⟩
  unfold ClippedNetwork.residual at balance
  rw [clipped_inflow, clipped_outflow] at balance
  have row : (leading setup.size setup.laplacian).mulVec (fun j => q j) ⟨i, inside⟩ =
      ∑ j ∈ Finset.range setup.size, setup.laplacian i j * q j :=
    Fin.sum_univ_eq_sum_range (fun j => setup.laplacian i j * q j) setup.size
  have given : (setup.compressors.map (compressorTerm p i (q i))).sum = setup.inflowAt q i :=
    congrArg List.sum (List.map_congr_left fun compressor mem =>
      compressorTerm_eq_flow (powered.compressors compressor mem).2.1 (compressors compressor mem))
  have taken : ((setup.demands ++ setup.leaks).map (sinkTerm p i (q i))).sum =
      setup.outflowAt q i - setup.leakError p q i := by
    have demanded : (setup.demands.map (sinkTerm p i (q i))).sum =
        (setup.demands.map fun sink => if sink.node = i then sink.flow (q i) else 0).sum :=
      congrArg List.sum (List.map_congr_left fun demand mem => sinkTerm_eq_flow (demands demand mem))
    have leaked : (setup.leaks.map fun sink => if sink.node = i then sink.flow (q i) else 0).sum =
        (setup.leaks.map (sinkTerm p i (q i))).sum + setup.leakError p q i := by
      unfold leakError
      rw [← List.sum_map_add]
      exact congrArg List.sum (List.map_congr_left fun leak _ => (add_sub_cancel _ _).symm)
    unfold outflowAt
    rw [List.map_append, List.sum_append, List.map_append, List.sum_append, demanded, leaked]
    ring
  show setup.cDt i * (q i - setup.pPrev i) + _ = _
  have balance : setup.cDt i * (q i - setup.pPrev i) +
      (leading setup.size setup.laplacian).mulVec (fun j => q j) ⟨i, inside⟩ -
        (setup.compressors.map (compressorTerm p i (q i))).sum +
      ((setup.demands ++ setup.leaks).map (sinkTerm p i (q i))).sum = 0 := balance
  rw [row, given, taken] at balance
  linear_combination balance

/-- Elements at nodes of the network, summed over the nodes. -/
theorem sum_nodes {α : Type} (xs : List α) (node : α → Nat) (f : α → Nat → K) {size : Nat}
    (inside : ∀ x ∈ xs, node x < size) :
    ∑ i ∈ Finset.range size, (xs.map fun x => if node x = i then f x i else 0).sum =
      (xs.map fun x => f x (node x)).sum := by
  induction xs with
  | nil => simp
  | cons x xs ih =>
      simp only [List.map_cons, List.sum_cons, Finset.sum_add_distrib]
      rw [ih fun y mem => inside y (List.mem_cons_of_mem _ mem)]
      congr 1
      rw [Finset.sum_ite_eq, if_pos (Finset.mem_range.mpr (inside x List.mem_cons_self))]

theorem foldl_flows {α : Type} (xs : List α) (on : α → Prop) [DecidablePred on] (f : α → K) (start : K) :
    xs.foldl (fun total x => if on x then total + f x else total) start =
      start + (xs.map fun x => if on x then f x else 0).sum := by
  induction xs generalizing start with
  | nil => simp
  | cons x xs ih =>
      rw [List.foldl_cons, ih, List.map_cons, List.sum_cons]
      split <;> ring

theorem Powered.inflow_eq (powered : setup.Powered ceiling) (q : Nat → K) :
    setup.inflow q = ∑ i ∈ Finset.range setup.size, setup.inflowAt q i := by
  have zero : (num 0 : K) = 0 := Rat.cast_zero
  have one : (num 1 : K) = 1 := Rat.cast_one
  unfold inflowAt inflow
  rw [sum_nodes _ CompressorConfig.node (fun compressor i => compressor.flow (q i)) powered.compressors_inside]
  refine (foldl_flows setup.compressors (fun compressor => compressor.enabled = true ∧ num 0 < compressor.load)
    (fun compressor => compressor.qNom * compressor.load *
      LabNumber.pyMax (num 0) (num 1 - q compressor.node / compressor.pMax)) (num 0)).trans ?_
  rw [zero, zero_add]
  refine congrArg List.sum (List.map_congr_left fun compressor _ => ?_)
  rw [LabNumber.pyMax_eq, one]
  exact if_congr Iff.rfl rfl rfl

theorem Powered.outflow_eq (powered : setup.Powered ceiling) (q : Nat → K) :
    setup.outflow q = ∑ i ∈ Finset.range setup.size, setup.outflowAt q i := by
  have zero : (num 0 : K) = 0 := Rat.cast_zero
  unfold outflowAt outflow
  rw [sum_nodes _ SinkConfig.node (fun sink i => sink.flow (q i)) powered.sinks_inside,
    foldl_flows _ fun sink : SinkConfig K => num 0 < sink.k, zero, zero_add]
  refine congrArg List.sum (List.map_congr_left fun sink _ => ?_)
  unfold SinkConfig.flow
  rw [LabNumber.pyMax_eq, LabNumber.num_eq]

/-- The mass that a solution of the loop loses is that of the leaks its last system did
not see. -/
theorem Powered.mass_balance (powered : setup.Powered ceiling) {p q : Nat → K}
    (solved : setup.nextIterate p = some q) (passed : setup.converged p q = true) {capacitances : List K}
    {dt : K} (positive : 0 < dt) (charged : ∀ i < setup.size, setup.cDt i = vec capacitances i / dt) :
    ∑ i ∈ Finset.range setup.size, (vec capacitances i * q i - vec capacitances i * setup.pPrev i) -
      dt * (setup.inflow q - setup.outflow q) = dt * ∑ i ∈ Finset.range setup.size, setup.leakError p q i := by
  have still : ∑ i ∈ Finset.range setup.size, ∑ j ∈ Finset.range setup.size, setup.laplacian i j * q j = 0 := by
    have none := powered.laplacian.sum_mulVec fun j : Fin setup.size => q j
    rw [← Fin.sum_univ_eq_sum_range, ← none]
    exact Finset.sum_congr rfl fun i _ =>
      (Fin.sum_univ_eq_sum_range (fun j => setup.laplacian i j * q j) setup.size).symm
  have each : ∀ i ∈ Finset.range setup.size,
      vec capacitances i * q i - vec capacitances i * setup.pPrev i =
        dt * (setup.inflowAt q i - setup.outflowAt q i + setup.leakError p q i -
          ∑ j ∈ Finset.range setup.size, setup.laplacian i j * q j) := by
    intro i mem
    have inside := Finset.mem_range.mp mem
    rw [← powered.node_balance solved passed inside, add_sub_cancel_right, charged i inside]
    field_simp
  rw [Finset.sum_congr rfl each, ← Finset.mul_sum, Finset.sum_sub_distrib, still, Finset.sum_add_distrib,
    Finset.sum_sub_distrib, powered.inflow_eq, powered.outflow_eq]
  ring

/-- What a converged loop returns is balanced. -/
theorem Powered.balanced (powered : setup.Powered ceiling) {rounds : Nat} {q : Nat → K}
    (converges : setup.Converges rounds setup.pPrev q) {capacitances : List K} {dt : K} (positive : 0 < dt)
    (charged : ∀ i < setup.size, setup.cDt i = vec capacitances i / dt) : setup.Balanced capacitances dt q := by
  obtain ⟨p, iterate, solved, passed⟩ := converges.last .start
  have near := (converged_spec passed).2.2
  have within := powered.toDriven.iterate iterate
  have within' := powered.toDriven.iterate (.next iterate solved)
  have error (i : Nat) (inside : i < setup.size) :=
    leakError_bounds setup (within i inside).1 (within' i inside).1 (near i inside)
  refine ⟨fun i inside => ⟨_, (error i inside).1, (error i inside).2, ?_⟩, ?_⟩
  · rw [← powered.node_balance solved passed inside, charged i inside]
    ring
  · have nonneg : 0 ≤ ∑ i ∈ Finset.range setup.size, setup.leakError p q i :=
      Finset.sum_nonneg fun i mem => (error i (Finset.mem_range.mp mem)).1
    rw [powered.mass_balance solved passed positive charged, abs_of_nonneg (mul_nonneg positive.le nonneg)]
    exact mul_le_mul_of_nonneg_left
      (Finset.sum_le_sum fun i mem => (error i (Finset.mem_range.mp mem)).2) positive.le

end Powered

end StepSetup

/-! ### Steps of an eligible lab -/

section Eligible

variable {definition : LabDefinition K} {network : CompiledNetwork K}
  {pipes valves : List (NetworkEdge K)} {ceiling dt : K} {state : PhysicalState K}

/-- A leak is at a node of the network. -/
theorem Compiled.leakNode_inside (compiled : Compiled definition network pipes valves)
    (eligible : RunEligible definition) {fault : ActiveFault K} {index : Nat}
    (at_node : leakNode network fault = some index) : index < network.nodes.length := by
  unfold leakNode at at_node
  split at at_node
  iterate 2
    obtain ⟨node, found, rfl⟩ := Option.map_eq_some_iff.mp at_node
    obtain ⟨i, held⟩ := List.mem_iff_getElem?.mp (List.mem_of_find?_eq_some found)
    rw [network.indexed i node held]
    exact (List.getElem?_eq_some_iff.mp held).1
  obtain ⟨port, -, mapped⟩ := Option.bind_eq_some_iff.mp at_node
  exact compiled.inside eligible mapped

/-- The settings of a step from pressures that are not below the atmosphere. -/
theorem Compiled.powered (compiled : Compiled definition network pipes valves)
    (eligible : RunEligible definition) (greatest : ceiling ∈ upperBounds (drivingPressures definition))
    (reads : ∀ node ∈ network.nodes, Within ceiling (readPressure state node)) (positive : 0 < dt)
    (controls : ControlState K) : ∃ setup, IndustrialReliability.prepare network state controls dt = .ok setup ∧
      setup.Powered ceiling ∧ setup.size = network.nodes.length ∧
        ∀ i < setup.size, setup.cDt i = vec network.capacitances i / dt := by
  obtain ⟨setup, prepared, driven, size⟩ := compiled.prepare_of_reads eligible greatest reads positive controls
  obtain ⟨pPrev, -, rfl⟩ := prepare_eq_ok prepared
  have made : ∀ config ∈ network.compressors.map (compressorConfig controls), 0 < config.qNom ∧
      (P_ATM : K) < config.pMax ∧ config.node < network.nodes.length := by
    intro config mem
    obtain ⟨asset, -, type, inside, flow, limit⟩ := compiled.exists_compressor eligible mem
    obtain ⟨pushes, above, -⟩ := compressor_range asset type
    rw [flow, limit]
    exact ⟨pushes, above, inside⟩
  refine ⟨_, prepared, ⟨driven, fun config mem => (made config mem).1, fun config mem => (made config mem).2.1,
    fun config mem => (made config mem).2.2, fun sink mem => ?_⟩, size, fun i inside => ?_⟩
  · rcases List.mem_append.mp mem with demand | leak
    · obtain ⟨source, its, rfl⟩ := List.mem_map.mp demand
      obtain ⟨asset, -, made⟩ := exists_of_forall₂ compiled.demands its
      obtain ⟨index, mapped, rest⟩ := bind_eq_ok_iff.mp made
      obtain rfl := pure_eq_ok_iff.mp rest
      exact compiled.inside eligible (portIndex_eq_ok.mp mapped)
    · obtain ⟨fault, -, made⟩ := List.mem_filterMap.mp leak
      obtain ⟨index, found, rfl⟩ := Option.map_eq_some_iff.mp made
      exact compiled.leakNode_inside eligible found
  · have long : i < network.capacitances.length := by
      rw [compiled.capacitances, List.length_map]
      exact inside
    show vec (network.capacitances.map (· / dt)) i = _
    unfold vec
    rw [List.getD_eq_getElem?_getD, List.getD_eq_getElem?_getD, List.getElem?_map,
      List.getElem?_eq_getElem long]
    rfl

/-- The driving pressures and those read have a bound. -/
theorem exists_ceiling (eligible : RunEligible definition)
    (above : ∀ node ∈ network.nodes, (P_ATM : K) ≤ readPressure state node) :
    ∃ ceiling, ceiling ∈ upperBounds (drivingPressures definition) ∧
      ∀ node ∈ network.nodes, Within ceiling (readPressure state node) := by
  obtain ⟨top, greatest, -⟩ := exists_greatest eligible
  obtain ⟨most, bound⟩ := (List.finite_toSet (network.nodes.map (readPressure state))).bddAbove
  refine ⟨max top most, fun p driving => (greatest.2 driving).trans (le_max_left _ _), fun node mem => ?_⟩
  exact ⟨above node mem, (bound (List.mem_map_of_mem mem)).trans (le_max_right _ _)⟩

end Eligible

/-- From pressures that are not below the atmosphere the active-set loop of a step
converges within as many rounds as compressors are running, and four; it converges only
to pressures at which the network is balanced. -/
theorem active_set_solves [Sha256Digest] {definition : LabDefinition K}
    (passed : (validateLab definition).runEligible = true) {compileDt : K} {network : CompiledNetwork K}
    (ok : compileLab definition compileDt = .ok network) {state : PhysicalState K}
    (above : ∀ node ∈ network.nodes, (P_ATM : K) ≤ readPressure state node) (controls : ControlState K)
    {dt : K} (positive : 0 < dt) :
    ∃ setup, prepare network state controls dt = .ok setup ∧ setup.size = network.nodes.length ∧
      (∃ rounds ≤ setup.running + 4, ∃ q, setup.Converges rounds setup.pPrev q) ∧
      (setup.running ≤ 12 → ∃ rounds ≤ 16, ∃ q, setup.Converges rounds setup.pPrev q ∧
        setup.activeSet 16 setup.pPrev = .ok q) ∧
      ∀ rounds q, setup.Converges rounds setup.pPrev q →
        (rounds ≤ 16 → setup.activeSet 16 setup.pPrev = .ok q) ∧ setup.Balanced network.capacitances dt q := by
  have eligible := runEligible_of_validateLab passed
  obtain ⟨pipes, valves, compiled⟩ := compileLab_eq_ok ok
  obtain ⟨ceiling, greatest, reads⟩ := exists_ceiling eligible above
  obtain ⟨setup, prepared, powered, size, charged⟩ := compiled.powered eligible greatest reads positive controls
  obtain ⟨rounds, within, q, converges⟩ := powered.converges
  refine ⟨setup, prepared, size, ⟨rounds, within, q, converges⟩, fun few => ?_, fun rounds q converges => ?_⟩
  · have limit : rounds ≤ 16 := by omega
    exact ⟨rounds, limit, q, converges, converges.activeSet limit⟩
  · exact ⟨fun limit => converges.activeSet limit, powered.balanced converges positive charged⟩

/-- A lab of a compressor, a tank and a leak that starts at the tank. -/
def leaking : ControlState ℚ := ⟨.empty, [⟨12, .LEAK, none, tableOf [("conductance_kg_s_pa", 1e-8)]⟩]⟩

theorem loopLab_leak_solved :
    letI := knownSha256 []
    ∃ network setup q, compileLab loopLab (1 / 20) = .ok network ∧
      prepare network (initialPhysical loopLab) leaking (1 / 20) = .ok setup ∧
        setup.activeSet 16 setup.pPrev = .ok q ∧ setup.Balanced network.capacitances (1 / 20) q := by
  let _ := knownSha256 []
  have eligible : (validateLab loopLab).runEligible = true := by decide +kernel
  obtain ⟨network, compiled⟩ := compileLab_ok (runEligible_of_validateLab eligible) (1 / 20)
  obtain ⟨pipes, valves, made⟩ := compileLab_eq_ok compiled
  obtain ⟨ceiling, greatest, -⟩ := exists_greatest (runEligible_of_validateLab eligible)
  have above : ∀ node ∈ network.nodes, (P_ATM : ℚ) ≤ readPressure (initialPhysical loopLab) node :=
    fun node mem => (made.readPressure_within (runEligible_of_validateLab eligible) greatest.2
      (initialPhysical_bounded greatest.2) mem).1
  obtain ⟨setup, prepared, -, -, limit, balanced⟩ :=
    active_set_solves eligible compiled above leaking (show (0 : ℚ) < 1 / 20 by norm_num)
  have few : setup.running ≤ 12 := by
    obtain ⟨pPrev, -, rfl⟩ := prepare_eq_ok prepared
    refine List.countP_le_length.trans ?_
    rw [List.length_map, ← made.compressors.length_eq]
    decide +kernel
  obtain ⟨rounds, -, q, converges, returned⟩ := limit few
  exact ⟨network, setup, q, compiled, prepared, returned, (balanced rounds q converges).2⟩

end IndustrialReliability
