import IndustrialReliability.Lib.Laplacian

/-!
The active-set iteration of a clipped network.

Nodes are joined by a Laplacian and held to the values they start from. Feeds raise a
node while it is below their limit, a drain lowers it while it is above a base that no
start is below. Each solve lets those act that should at the last solution.

From the first solution on the nodes at the base are always the same, since they have
no feed and no neighbour above it (`Quiet`), so the drains are settled. The feeds are
convex: what acts at one vector gives too little at another, which makes the solutions
rise from the second on and feeds only ever stop (`rising`). After as many solves as
there are feeds two agree (`settles`).
-/

namespace Lib

open Matrix

/-- A sequence that falls from `n` stands still within `n` steps. -/
theorem exists_still {f : Nat → Nat} {n : Nat} (falls : ∀ k, f (k + 1) ≤ f k) (bound : f 0 ≤ n) :
    ∃ k ≤ n, f (k + 1) = f k := by
  by_contra moving
  have drops : ∀ k, k ≤ n + 1 → f k + k ≤ n := by
    intro k
    induction k with
    | zero => exact fun _ => bound
    | succ k ih =>
        intro within
        have before := ih (by omega)
        have less := lt_of_le_of_ne (falls k) fun same => moving ⟨k, by omega, same⟩
        omega
  have last := drops (n + 1) le_rfl
  omega

/-- A test that accepts less and as often accepts the same. -/
theorem iff_of_countP_eq {α : Type} {p q : α → Bool} {xs : List α} (less : ∀ x ∈ xs, p x → q x)
    (same : xs.countP p = xs.countP q) : ∀ x ∈ xs, p x ↔ q x := by
  induction xs with
  | nil => simp
  | cons y xs ih =>
      have rest : ∀ x ∈ xs, p x → q x := fun x mem => less x (List.mem_cons_of_mem _ mem)
      have below := List.countP_mono_left rest
      have here := less y List.mem_cons_self
      rw [List.countP_cons, List.countP_cons] at same
      intro x mem
      rcases List.mem_cons.mp mem with rfl | mem
      · refine ⟨here, fun accepted => ?_⟩
        by_contra refused
        simp only [refused, accepted] at same
        simp at same
        omega
      · refine ih rest ?_ x mem
        by_cases accepted : p y
        · simpa [accepted, here accepted] using same
        · by_cases accepted' : q y
          · simp [accepted, accepted'] at same
            omega
          · simpa [accepted, accepted'] using same

/-- A source that raises its node in proportion to how far it is below a limit. -/
structure Feed (ι K : Type) where
  node : ι
  slope : K
  limit : K

structure ClippedNetwork (ι K : Type) [Fintype ι] [Field K] [LinearOrder K] [IsStrictOrderedRing K] where
  L : Matrix ι ι K
  charge : ι → K
  start : ι → K
  base : K
  drain : ι → K
  feeds : List (Feed ι K)
  laplacian : IsLaplacian L
  charge_pos : ∀ i, 0 < charge i
  start_above : ∀ i, base ≤ start i
  drain_nonneg : ∀ i, 0 ≤ drain i
  slope_pos : ∀ feed ∈ feeds, 0 < feed.slope
  limit_above : ∀ feed ∈ feeds, base < feed.limit

namespace ClippedNetwork

variable {ι K : Type} [Fintype ι] [DecidableEq ι] [Field K] [LinearOrder K] [IsStrictOrderedRing K]
  {net : ClippedNetwork ι K} {p q x y : ι → K} {i : ι} {a b : K}

/-- What a feed that acts at `p` gives to a node at the value `a`. -/
def feedTerm (p : ι → K) (i : ι) (a : K) (feed : Feed ι K) : K :=
  if feed.node = i ∧ p i < feed.limit then feed.slope * (feed.limit - a) else 0

def inflow (net : ClippedNetwork ι K) (p : ι → K) (i : ι) (a : K) : K := (net.feeds.map (feedTerm p i a)).sum

omit [DecidableEq ι] in
/-- What the drain of a node takes from it at the value `a`, if it acts at `p`. -/
def outflow (net : ClippedNetwork ι K) (p : ι → K) (i : ι) (a : K) : K :=
  if net.base < p i then net.drain i * (a - net.base) else 0

/-- The balance of a node: what it holds and passes on, less what it is given. -/
def residual (net : ClippedNetwork ι K) (p x : ι → K) (i : ι) : K :=
  net.charge i * (x i - net.start i) + (net.L *ᵥ x) i - net.inflow p i (x i) + net.outflow p i (x i)

/-- The solution for what acts at `p`. -/
def Solves (net : ClippedNetwork ι K) (p x : ι → K) : Prop := ∀ i, net.residual p x i = 0

/-! ### Feeds and drains -/

theorem inflow_anti (le : a ≤ b) : net.inflow p i b ≤ net.inflow p i a := by
  refine List.sum_le_sum fun feed mem => ?_
  unfold feedTerm
  split
  · exact mul_le_mul_of_nonneg_left (sub_le_sub_left le _) (net.slope_pos feed mem).le
  · exact le_rfl

omit [DecidableEq ι] in
theorem outflow_mono (le : a ≤ b) : net.outflow p i a ≤ net.outflow p i b := by
  unfold outflow
  split
  · exact mul_le_mul_of_nonneg_left (sub_le_sub_right le _) (net.drain_nonneg i)
  · exact le_rfl

theorem feedTerm_nonneg (low : a ≤ net.base) {feed : Feed ι K} (mem : feed ∈ net.feeds) :
    0 ≤ feedTerm p i a feed := by
  unfold feedTerm
  split
  · exact mul_nonneg (net.slope_pos feed mem).le (sub_nonneg.mpr (low.trans (net.limit_above feed mem).le))
  · exact le_rfl

theorem inflow_nonneg (low : a ≤ net.base) : 0 ≤ net.inflow p i a :=
  List.sum_nonneg fun term mem => by
    obtain ⟨feed, its, rfl⟩ := List.mem_map.mp mem
    exact feedTerm_nonneg low its

/-- Feeds give nothing above their limits. -/
theorem inflow_nonpos (high : ∀ feed ∈ net.feeds, feed.node = i → feed.limit ≤ a) : net.inflow p i a ≤ 0 := by
  have each : net.inflow p i a ≤ (net.feeds.map fun _ => (0 : K)).sum := by
    refine List.sum_le_sum fun feed mem => ?_
    unfold feedTerm
    split
    · rename_i acts
      exact mul_nonpos_of_nonneg_of_nonpos (net.slope_pos feed mem).le (sub_nonpos.mpr (high feed mem acts.1))
    · exact le_rfl
  simpa using each

/-- The feeds that act at a vector give the most there. -/
theorem inflow_le_self (p x : ι → K) (i : ι) : net.inflow p i (x i) ≤ net.inflow x i (x i) := by
  refine List.sum_le_sum fun feed mem => ?_
  have slope := net.slope_pos feed mem
  by_cases acts : feed.node = i ∧ x i < feed.limit
  · have gives : feedTerm x i (x i) feed = feed.slope * (feed.limit - x i) := if_pos acts
    rw [gives]
    unfold feedTerm
    split
    · exact le_rfl
    · exact mul_nonneg slope.le (sub_nonneg.mpr acts.2.le)
  · have rests : feedTerm x i (x i) feed = 0 := if_neg acts
    rw [rests]
    unfold feedTerm
    split
    · rename_i acted
      have exceeds := not_lt.mp fun less => acts ⟨acted.1, less⟩
      exact mul_nonpos_of_nonneg_of_nonpos slope.le (sub_nonpos.mpr exceeds)
    · exact le_rfl

omit [DecidableEq ι] in
theorem outflow_nonneg (above : net.base ≤ a) : 0 ≤ net.outflow p i a := by
  unfold outflow
  split
  · exact mul_nonneg (net.drain_nonneg i) (sub_nonneg.mpr above)
  · exact le_rfl

omit [DecidableEq ι] in
theorem outflow_nonpos (below : a ≤ net.base) : net.outflow p i a ≤ 0 := by
  unfold outflow
  split
  · exact mul_nonpos_of_nonneg_of_nonpos (net.drain_nonneg i) (sub_nonpos.mpr below)
  · exact le_rfl

/-! ### One system -/

/-- A vector with the smaller balances is the smaller one. -/
theorem le_of_residual_le (le : ∀ i, net.residual p x i ≤ net.residual p y i) (i : ι) : x i ≤ y i := by
  have : Nonempty ι := ⟨i⟩
  obtain ⟨bottom, least⟩ := Finite.exists_min (y - x)
  by_contra above
  have below : (y - x) bottom < 0 := (least i).trans_lt (sub_neg.mpr (not_le.mp above))
  have less : y bottom < x bottom := sub_neg.mp below
  have falls := net.laplacian.mulVec_nonpos least
  rw [Matrix.mulVec_sub, Pi.sub_apply] at falls
  have charge := mul_lt_mul_of_pos_left less (net.charge_pos bottom)
  have feeds := net.inflow_anti (p := p) (i := bottom) less.le
  have drains := net.outflow_mono (p := p) (i := bottom) less.le
  have balance := le bottom
  unfold residual at balance
  rw [mul_sub, mul_sub] at balance
  linarith

theorem Solves.unique (first : net.Solves p x) (second : net.Solves p y) : x = y := by
  funext i
  refine le_antisymm ?_ ?_
  · exact le_of_residual_le (fun j => ((first j).trans (second j).symm).le) i
  · exact le_of_residual_le (fun j => ((second j).trans (first j).symm).le) i

/-- No solution is below the base. -/
theorem Solves.base_le (solves : net.Solves p x) (i : ι) : net.base ≤ x i := by
  have : Nonempty ι := ⟨i⟩
  obtain ⟨bottom, least⟩ := Finite.exists_min x
  by_contra below
  have low : x bottom < net.base := (least i).trans_lt (not_le.mp below)
  have charge := mul_neg_of_pos_of_neg (net.charge_pos bottom)
    (sub_neg.mpr (low.trans_le (net.start_above bottom)))
  have falls := net.laplacian.mulVec_nonpos least
  have feeds := net.inflow_nonneg (p := p) (i := bottom) low.le
  have drains := net.outflow_nonpos (p := p) (i := bottom) low.le
  have balance := solves bottom
  unfold residual at balance
  linarith

/-! ### Nodes at the base -/

/-- Nodes that start at the base and have no feed and no neighbour but each other. -/
structure Quiet (net : ClippedNetwork ι K) (W : Finset ι) : Prop where
  closed : ∀ i ∈ W, ∀ j, net.L i j ≠ 0 → j ∈ W
  resting : ∀ i ∈ W, net.start i = net.base
  unfed : ∀ feed ∈ net.feeds, feed.node ∉ W

/-- The nodes at the base. -/
def zeros (net : ClippedNetwork ι K) (x : ι → K) : Finset ι := Finset.univ.filter fun i => x i = net.base

omit [DecidableEq ι] in
theorem mem_zeros_iff : i ∈ net.zeros x ↔ x i = net.base := by simp [zeros]

omit [DecidableEq ι] in
/-- A node of a closed set whose value is greatest there. -/
theorem exists_greatest_of_closed {W : Finset ι} (closed : ∀ i ∈ W, ∀ j, net.L i j ≠ 0 → j ∈ W)
    (mem : i ∈ W) (x : ι → K) : ∃ top ∈ W, (∀ j ∈ W, x j ≤ x top) ∧ 0 ≤ (net.L *ᵥ x) top := by
  obtain ⟨top, inside, greatest⟩ := W.exists_max_image x ⟨i, mem⟩
  exact ⟨top, inside, greatest,
    net.laplacian.mulVec_nonneg_of_joined fun j joined => greatest j (closed top inside j joined)⟩

/-- Quiet nodes stay at the base. -/
theorem Quiet.stay {W : Finset ι} (quiet : net.Quiet W) (solves : net.Solves p x) : W ⊆ net.zeros x := by
  intro i mem
  obtain ⟨top, inside, greatest, rises⟩ := exists_greatest_of_closed quiet.closed mem x
  have above := solves.base_le top
  have feeds : net.inflow p top (x top) ≤ 0 :=
    inflow_nonpos fun feed its same => absurd (same ▸ inside) (quiet.unfed feed its)
  have drains := net.outflow_nonneg (p := p) (i := top) above
  have balance := solves top
  unfold residual at balance
  rw [quiet.resting top inside] at balance
  have charge : net.charge top * (x top - net.base) ≤ 0 := by linarith
  have low := nonpos_of_mul_nonpos_right charge (net.charge_pos top)
  rw [mem_zeros_iff]
  exact le_antisymm ((greatest i mem).trans (sub_nonpos.mp low)) (solves.base_le i)

/-- A node at the base has nothing that would raise it. -/
theorem Solves.at_base (solves : net.Solves p x) (base : x i = net.base) :
    net.start i = net.base ∧ (∀ j, net.L i j ≠ 0 → x j = net.base) ∧
      ∀ feed ∈ net.feeds, feed.node = i → feed.limit ≤ p i := by
  have least : ∀ j, x i ≤ x j := fun j => base ▸ solves.base_le j
  have falls := net.laplacian.mulVec_nonpos least
  have feeds := net.inflow_nonneg (p := p) (i := i) base.le
  have drains := net.outflow_nonpos (p := p) (i := i) base.le
  have charge := mul_nonpos_of_nonneg_of_nonpos (net.charge_pos i).le
    (sub_nonpos.mpr (base.le.trans (net.start_above i)))
  have balance := solves i
  unfold residual at balance
  refine ⟨?_, fun j joined => ?_, fun feed mem here => ?_⟩
  · have held : net.charge i * (x i - net.start i) = 0 := by linarith
    have same := (mul_eq_zero.mp held).resolve_left (net.charge_pos i).ne'
    exact (sub_eq_zero.mp same).symm.trans base
  · exact (net.laplacian.eq_of_mulVec_eq_zero least (by linarith) joined).trans base
  · by_contra acts
    have term : 0 < feedTerm p i (x i) feed := by
      rw [feedTerm, if_pos ⟨here, not_le.mp acts⟩, base]
      exact mul_pos (net.slope_pos feed mem) (sub_pos.mpr (net.limit_above feed mem))
    have part : feedTerm p i (x i) feed ≤ net.inflow p i (x i) := by
      refine List.single_le_sum (fun term its => ?_) _ (List.mem_map_of_mem mem)
      obtain ⟨other, mem, rfl⟩ := List.mem_map.mp its
      exact feedTerm_nonneg base.le mem
    linarith

/-- A node that starts above the base stays above it. -/
theorem Solves.base_lt (solves : net.Solves p x) (above : net.base < net.start i) : net.base < x i := by
  refine lt_of_le_of_ne (solves.base_le i) fun base => ?_
  exact above.ne' (solves.at_base base.symm).1

/-! ### Solutions that are level -/

omit [DecidableEq ι] in
theorem mulVec_level (net : ClippedNetwork ι K) (level : K) (i : ι) : (net.L *ᵥ fun _ => level) i = 0 :=
  le_antisymm (net.laplacian.mulVec_nonpos fun _ => le_rfl) (net.laplacian.mulVec_nonneg fun _ => le_rfl)

/-- Above the limits of the feeds a level is the solution if every node starts with what its
drain takes. -/
theorem solves_level {level : K} (high : ∀ feed ∈ net.feeds, feed.limit ≤ level) (above : net.base < level)
    (acting : ∀ i, level ≤ p i)
    (taken : ∀ i, net.charge i * (net.start i - level) = net.drain i * (level - net.base)) :
    net.Solves p fun _ => level := by
  intro i
  have feeds : net.inflow p i level = 0 := by
    refine List.sum_eq_zero fun term mem => ?_
    obtain ⟨feed, its, rfl⟩ := List.mem_map.mp mem
    exact if_neg fun acts => not_lt.mpr ((high feed its).trans (acting i)) acts.2
  have drains : net.outflow p i level = net.drain i * (level - net.base) := if_pos (above.trans_le (acting i))
  unfold residual
  rw [feeds, drains, net.mulVec_level, ← taken i]
  ring

/-- At a level above the limits of the feeds no drain takes more than its node started with. -/
theorem Solves.drain_le {level : K} (solves : net.Solves p fun _ => level)
    (high : ∀ feed ∈ net.feeds, feed.limit ≤ level) (acts : net.base < p i) :
    net.drain i * (level - net.base) ≤ net.charge i * (net.start i - level) := by
  have feeds : net.inflow p i level ≤ 0 := inflow_nonpos fun feed mem _ => high feed mem
  have drains : net.outflow p i level = net.drain i * (level - net.base) := if_pos acts
  have balance := solves i
  unfold residual at balance
  rw [drains, net.mulVec_level] at balance
  linarith

/-! ### The iteration -/

/-- The solutions, each for what acts at the last. -/
structure Iterates (net : ClippedNetwork ι K) (x : Nat → ι → K) : Prop where
  start : x 0 = net.start
  next : ∀ k, net.Solves (x k) (x (k + 1))

variable {x : Nat → ι → K}

/-- A feed in a closed set that starts at the base acts all along if its limit is the
greatest there. -/
theorem Iterates.below_limit (iterates : net.Iterates x) {W : Finset ι}
    (closed : ∀ i ∈ W, ∀ j, net.L i j ≠ 0 → j ∈ W) (resting : ∀ i ∈ W, net.start i = net.base)
    {limit : K} (above : net.base < limit)
    (greatest : ∀ feed ∈ net.feeds, feed.node ∈ W → feed.limit ≤ limit) (k : Nat) :
    ∀ i ∈ W, x k i < limit := by
  cases k with
  | zero =>
      intro i mem
      rw [iterates.start, resting i mem]
      exact above
  | succ k =>
      intro i mem
      obtain ⟨top, inside, most, rises⟩ := exists_greatest_of_closed closed mem (x (k + 1))
      refine (most i mem).trans_lt ?_
      by_contra exceeds
      have exceeds := not_lt.mp exceeds
      have solves := iterates.next k
      have feeds : net.inflow (x k) top (x (k + 1) top) ≤ 0 :=
        inflow_nonpos fun feed its same => (greatest feed its (same ▸ inside)).trans exceeds
      have drains := net.outflow_nonneg (p := x k) (i := top) (solves.base_le top)
      have charge := mul_pos (net.charge_pos top) (sub_pos.mpr (above.trans_le exceeds))
      have balance := solves top
      unfold residual at balance
      rw [resting top inside] at balance
      linarith

/-- The nodes at the base of a solution are quiet. -/
theorem Iterates.quiet (iterates : net.Iterates x) (k : Nat) : net.Quiet (net.zeros (x (k + 1))) := by
  have solves := iterates.next k
  have closed : ∀ i ∈ net.zeros (x (k + 1)), ∀ j, net.L i j ≠ 0 → j ∈ net.zeros (x (k + 1)) :=
    fun i mem j joined => mem_zeros_iff.mpr ((solves.at_base (mem_zeros_iff.mp mem)).2.1 j joined)
  have resting : ∀ i ∈ net.zeros (x (k + 1)), net.start i = net.base :=
    fun i mem => (solves.at_base (mem_zeros_iff.mp mem)).1
  refine ⟨closed, resting, fun feed mem inside => ?_⟩
  -- of the feeds at these nodes the one with the greatest limit would act at the last solution
  obtain ⟨top, ⟨its, there⟩, greatest⟩ :=
    Set.exists_max_image {feed | feed ∈ net.feeds ∧ feed.node ∈ net.zeros (x (k + 1))} Feed.limit
      ((List.finite_toSet net.feeds).subset fun _ both => both.1) ⟨feed, mem, inside⟩
  have acts := iterates.below_limit closed resting (net.limit_above top its)
    (fun feed mem inside => greatest feed ⟨mem, inside⟩) k top.node there
  exact absurd ((solves.at_base (mem_zeros_iff.mp there)).2.2 top its rfl) (not_le.mpr acts)

/-- From the first solution on the same drains act. -/
theorem Iterates.drains_settled (iterates : net.Iterates x) (k m : Nat) (i : ι) :
    net.base < x (k + 1) i ↔ net.base < x (m + 1) i := by
  have stays (k m : Nat) : net.zeros (x (k + 1)) ⊆ net.zeros (x (m + 1)) :=
    (iterates.quiet k).stay (iterates.next m)
  have same : x (k + 1) i = net.base ↔ x (m + 1) i = net.base := by
    rw [← mem_zeros_iff, ← mem_zeros_iff]
    exact ⟨fun mem => stays k m mem, fun mem => stays m k mem⟩
  rw [((iterates.next k).base_le i).lt_iff_ne', ((iterates.next m).base_le i).lt_iff_ne']
  exact not_congr same

/-- The solutions rise from the second on. -/
theorem Iterates.rising (iterates : net.Iterates x) (k : Nat) (i : ι) : x (k + 2) i ≤ x (k + 3) i := by
  have solves := iterates.next (k + 2)
  suffices balances : ∀ j, net.residual (x (k + 2)) (x (k + 2)) j ≤ net.residual (x (k + 2)) (x (k + 3)) j from
    le_of_residual_le balances i
  intro j
  rw [solves j, ← iterates.next (k + 1) j]
  unfold residual
  have feeds := net.inflow_le_self (x (k + 1)) (x (k + 2)) j
  have drains : net.outflow (x (k + 2)) j (x (k + 2) j) = net.outflow (x (k + 1)) j (x (k + 2) j) := by
    unfold outflow
    rw [if_congr (iterates.drains_settled (k + 1) k j) rfl rfl]
  rw [drains]
  linarith

/-- What acts is all that matters of the vector it is read from. -/
theorem residual_congr {p q y : ι → K}
    (feeds : ∀ feed ∈ net.feeds, p feed.node < feed.limit ↔ q feed.node < feed.limit)
    (drains : ∀ i, net.base < p i ↔ net.base < q i) : net.residual p y = net.residual q y := by
  funext i
  have inflow : net.inflow p i (y i) = net.inflow q i (y i) := by
    refine congrArg List.sum (List.map_congr_left fun feed mem => if_congr ?_ rfl rfl)
    constructor
    · rintro ⟨rfl, acts⟩
      exact ⟨rfl, (feeds feed mem).mp acts⟩
    · rintro ⟨rfl, acts⟩
      exact ⟨rfl, (feeds feed mem).mpr acts⟩
  unfold residual outflow
  rw [inflow, if_congr (drains i) rfl rfl]

/-- Two solutions agree after at most as many solves as there are feeds, and three. -/
theorem Iterates.settles (iterates : net.Iterates x) : ∃ k ≤ net.feeds.length, x (k + 4) = x (k + 3) := by
  let acting (k : Nat) (feed : Feed ι K) : Bool := decide (x (k + 2) feed.node < feed.limit)
  have stops (k : Nat) : ∀ feed ∈ net.feeds, acting (k + 1) feed → acting k feed := fun feed _ acts =>
    decide_eq_true ((iterates.rising k feed.node).trans_lt (of_decide_eq_true acts))
  obtain ⟨k, within, still⟩ := exists_still (f := fun k => net.feeds.countP (acting k))
    (fun k => List.countP_mono_left (stops k)) List.countP_le_length
  refine ⟨k, within, ?_⟩
  have same := iff_of_countP_eq (stops k) still
  have again : net.Solves (x (k + 3)) (x (k + 3)) := by
    intro i
    rw [residual_congr (fun feed mem => ?_) (iterates.drains_settled (k + 2) (k + 1))]
    · exact iterates.next (k + 2) i
    · simpa [acting] using same feed mem
  exact (iterates.next (k + 3)).unique again

end ClippedNetwork

end Lib
