import Mathlib.Algebra.Order.Group.Defs
import Mathlib.Data.List.Pairwise
import Mathlib.Logic.Relation
import Mathlib.Tactic.Abel
import Mathlib.Tactic.Linarith

/-!
Points on a line, merged into spans.

Ascending points belong to one span as long as each is within a gap of the one
before. The points of a span are linked by steps of at most the gap (`mem_spans`),
every point is in a span (`spans_covers`), and two spans are more than the gap apart
(`spans_apart`). So more points can only join spans: each span of a part of the points
lies in one of all of them (`spans_absorbed`).
-/

namespace Lib

structure Span (α : Type) where
  first : α
  last : α
  count : Nat
deriving DecidableEq, Repr

section Spans

variable {α : Type} [AddCommGroup α] [LinearOrder α] {gap : α} {span : Span α}
  {point : α} {points few many : List α}

/-- The spans of the points behind a span that has begun. -/
def spansFrom (gap : α) : Span α → List α → List (Span α)
  | span, [] => [span]
  | span, point :: points =>
      if point - span.last ≤ gap then spansFrom gap ⟨span.first, point, span.count + 1⟩ points
      else span :: spansFrom gap ⟨point, point, 1⟩ points

def spans (gap : α) : List α → List (Span α)
  | [] => []
  | point :: points => spansFrom gap ⟨point, point, 1⟩ points

/-- Two places are linked by points, each within the gap of the one before. -/
def Linked (gap : α) (points : List α) : α → α → Prop :=
  Relation.ReflTransGen fun a b => b ∈ points ∧ a ≤ b ∧ b - a ≤ gap

theorem Linked.le {a b : α} (linked : Linked gap points a b) : a ≤ b := by
  induction linked with
  | refl => exact le_refl a
  | tail _ step ih => exact ih.trans step.2.1

theorem spansFrom_linked (span : Span α) (ascending : (span.last :: points).Pairwise (· ≤ ·)) (sub : points ⊆ many)
    (first : span.first ∈ many) (linked : Linked gap many span.first span.last) (some : 0 < span.count) :
    ∀ found ∈ spansFrom gap span points,
      found.first ∈ many ∧ Linked gap many found.first found.last ∧ 0 < found.count := by
  induction points generalizing span with
  | nil =>
      intro found mem
      obtain rfl := List.mem_singleton.mp mem
      exact ⟨first, linked, some⟩
  | cons point points ih =>
      obtain ⟨here, rest⟩ := List.cons_subset.mp sub
      obtain ⟨later, ascending⟩ := List.pairwise_cons.mp ascending
      unfold spansFrom
      split
      · rename_i near
        exact ih _ ascending rest first (linked.tail ⟨here, later point List.mem_cons_self, near⟩)
          (Nat.succ_pos _)
      · intro found mem
        rcases List.mem_cons.mp mem with rfl | mem
        · exact ⟨first, linked, some⟩
        · exact ih ⟨point, point, 1⟩ ascending rest here .refl Nat.one_pos found mem

/-- A span begins at a point, and its end is linked to it. -/
theorem mem_spans (ascending : points.Pairwise (· ≤ ·)) (mem : span ∈ spans gap points) :
    span.first ∈ points ∧ Linked gap points span.first span.last ∧ 0 < span.count := by
  cases points with
  | nil => cases mem
  | cons point points =>
      exact spansFrom_linked ⟨point, point, 1⟩ ascending (List.subset_cons_self _ _)
        List.mem_cons_self .refl Nat.one_pos span mem

theorem spansFrom_covers (span : Span α) (ascending : (span.last :: points).Pairwise (· ≤ ·))
    (forward : span.first ≤ span.last)
    (inside : span.first ≤ point ∧ point ≤ span.last ∨ point ∈ points) :
    ∃ found ∈ spansFrom gap span points, found.first ≤ point ∧ point ≤ found.last := by
  induction points generalizing span with
  | nil =>
      rcases inside with inside | impossible
      · exact ⟨span, List.mem_cons_self, inside⟩
      · cases impossible
  | cons next points ih =>
      obtain ⟨later, ascending⟩ := List.pairwise_cons.mp ascending
      have after := later next List.mem_cons_self
      unfold spansFrom
      split
      · refine ih _ ascending (forward.trans after) ?_
        rcases inside with ⟨first, last⟩ | inside
        · exact .inl ⟨first, last.trans after⟩
        · rcases List.mem_cons.mp inside with rfl | inside
          · exact .inl ⟨forward.trans after, le_refl _⟩
          · exact .inr inside
      · rcases inside with inside | inside
        · exact ⟨span, List.mem_cons_self, inside⟩
        · obtain ⟨found, mem, within⟩ := ih ⟨next, next, 1⟩ ascending (le_refl _) <| by
            rcases List.mem_cons.mp inside with rfl | inside
            · exact .inl ⟨le_refl _, le_refl _⟩
            · exact .inr inside
          exact ⟨found, List.mem_cons_of_mem _ mem, within⟩

/-- Every point is in a span. -/
theorem spans_covers (gap : α) (ascending : points.Pairwise (· ≤ ·)) (mem : point ∈ points) :
    ∃ span ∈ spans gap points, span.first ≤ point ∧ point ≤ span.last := by
  cases points with
  | nil => cases mem
  | cons first points =>
      refine spansFrom_covers ⟨first, first, 1⟩ ascending (le_refl _) ?_
      rcases List.mem_cons.mp mem with rfl | mem
      · exact .inl ⟨le_refl _, le_refl _⟩
      · exact .inr mem

theorem first_le_of_mem_spansFrom (ascending : (span.last :: points).Pairwise (· ≤ ·))
    (forward : span.first ≤ span.last) : ∀ found ∈ spansFrom gap span points, span.first ≤ found.first := by
  induction points generalizing span with
  | nil => simp [spansFrom]
  | cons point points ih =>
      obtain ⟨later, ascending⟩ := List.pairwise_cons.mp ascending
      have after := forward.trans (later point List.mem_cons_self)
      unfold spansFrom
      split
      · exact ih ascending after
      · intro found mem
        rcases List.mem_cons.mp mem with rfl | mem
        · exact le_refl _
        · exact after.trans (ih ascending (le_refl _) found mem)

variable [IsOrderedAddMonoid α]

theorem spansFrom_apart (span : Span α) (ascending : (span.last :: points).Pairwise (· ≤ ·))
    (forward : span.first ≤ span.last) :
    (spansFrom gap span points).Pairwise fun one other => gap < other.first - one.last := by
  induction points generalizing span with
  | nil => simp [spansFrom]
  | cons point points ih =>
      obtain ⟨later, ascending⟩ := List.pairwise_cons.mp ascending
      have after := later point List.mem_cons_self
      unfold spansFrom
      split
      · exact ih _ ascending (forward.trans after)
      · rename_i far
        refine List.pairwise_cons.mpr ⟨fun found mem => ?_, ih _ ascending (le_refl _)⟩
        have behind := first_le_of_mem_spansFrom ascending (le_refl point) found mem
        exact (not_le.mp far).trans_le (sub_le_sub_right behind _)

/-- Two spans are more than the gap apart. -/
theorem spans_apart (ascending : points.Pairwise (· ≤ ·)) :
    (spans gap points).Pairwise fun one other => gap < other.first - one.last := by
  cases points with
  | nil => exact .nil
  | cons point points => exact spansFrom_apart ⟨point, point, 1⟩ ascending (le_refl _)

theorem spans_apart_of_ne (ascending : points.Pairwise (· ≤ ·)) {one other : Span α}
    (mem : one ∈ spans gap points) (other_mem : other ∈ spans gap points) (differ : one ≠ other) :
    gap < other.first - one.last ∨ gap < one.first - other.last := by
  let apart (one other : Span α) : Prop := gap < other.first - one.last ∨ gap < one.first - other.last
  have symmetric : Std.Symm apart := ⟨fun _ _ => Or.symm⟩
  exact ((spans_apart ascending).imp .inl : (spans gap points).Pairwise apart).forall mem other_mem differ

/-- A span reaches as far as points are linked to what is in it. -/
theorem spans_linked (ascending : points.Pairwise (· ≤ ·)) (mem : span ∈ spans gap points) {a b : α}
    (first : span.first ≤ a) (last : a ≤ span.last) (linked : Linked gap points a b) : b ≤ span.last := by
  induction linked with
  | refl => exact last
  | @tail b c reached step ih =>
      obtain ⟨inside, forward, near⟩ := step
      obtain ⟨other, other_mem, begins, ends⟩ := spans_covers gap ascending inside
      by_cases same : span = other
      · exact same ▸ ends
      · exfalso
        rcases spans_apart_of_ne ascending mem other_mem same with beyond | behind
        · have near' : other.first - span.last ≤ c - b := sub_le_sub begins ih
          exact absurd (near'.trans near) (not_le.mpr beyond)
        · have least : span.first - other.last ≤ b - c := sub_le_sub (first.trans (Linked.le reached)) ends
          have wide : 0 < span.first - other.last := (sub_nonneg.mpr forward).trans_lt (near.trans_lt behind)
          exact absurd (wide.trans_le least) (not_lt.mpr (sub_nonpos.mpr forward))

/-- Each span of a part of the points lies in a span of all of them. -/
theorem spans_absorbed (ascending : many.Pairwise (· ≤ ·)) (part : few.Sublist many)
    (mem : span ∈ spans gap few) :
    ∃ larger ∈ spans gap many, larger.first ≤ span.first ∧ span.last ≤ larger.last := by
  obtain ⟨begins, linked, -⟩ := mem_spans (ascending.sublist part) mem
  obtain ⟨larger, larger_mem, first, last⟩ := spans_covers gap ascending (part.subset begins)
  have linked : Linked gap many span.first span.last :=
    Relation.ReflTransGen.mono (fun _ _ step => ⟨part.subset step.1, step.2⟩) _ _ linked
  exact ⟨larger, larger_mem, first, spans_linked ascending larger_mem first last linked⟩

end Spans

end Lib
