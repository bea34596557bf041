import SearchQuery.Proofs.Criteria.Bounds
import SearchQuery.Proofs.Criteria.Content

/-!
# Combinations of criteria

What combining a list of criteria comes to, whatever their shapes.

* `combinations_hold`: a combination means what its parts mean together, and there is none only of
  combinations of nothing.
* `canCombine_iff`: bounds without repetitions can be combined where those on one side are all the
  same. So it does not matter which of them come first, and bounds that were added to either do
  not help.
* `mergeBounds_cases`: bounds are added to one of the ranges that can take them, or to the end.
* `Settled`: ranges none of which can take another. Merging a range into settled ranges leaves them
  settled, and merging leaves settled ranges alone.
* `mergeRanges_normalForm`: so merged ranges are a normal form, and combining twice is combining
  once.
-/

namespace SearchQuery

namespace Criteria

/-! ### The meaning of combinations -/

/-- **Combining keeps the meaning.** A conjunction holds where all of its parts do and a disjunction
where some of them does, also where parts are flattened and ranges merged. -/
theorem combinations_hold (v : Valuation) (cs : List Criteria) (current : Option Criteria)
    (new : Criteria) :
    ((andAll cs = none ↔ ∀ c ∈ cs, c = .and []) ∧
      ∀ combined, andAll cs = some combined →
        (combined.holds v = true ↔ ∀ c ∈ cs, c.holds v = true)) ∧
    ((orAll cs = none ↔ ∀ c ∈ cs, c = .or []) ∧
      ∀ combined, orAll cs = some combined →
        (combined.holds v = true ↔ ∃ c ∈ cs, c.holds v = true)) ∧
    ((andInto current new).holds v = true ↔
      (∀ c ∈ current, c.holds v = true) ∧ new.holds v = true) := by
  refine ⟨⟨andAll_eq_none_iff, fun combined hcombined => ?_⟩,
    ⟨orAll_eq_none_iff, fun combined hcombined => ?_⟩, ?_⟩
  · have hall : combined.holds v = cs.all (holds v) := by
      simpa [hcombined] using all_andAll (v := v) cs
    rw [hall, List.all_eq_true]
  · have hany : combined.holds v = cs.any (holds v) := by
      simpa [hcombined] using any_orAll (v := v) cs
    rw [hany, List.any_eq_true]
  · rw [holds_andInto, Bool.and_eq_true]
    cases current <;> simp

end Criteria

/-! ### Bounds that can be combined -/

namespace RangeBound

variable {bounds more all : List RangeBound} {a b : RangeBound}

theorem same_iff : a.same b = true ↔ a.canonical = b.canonical := beq_iff_eq

theorem same_symm (h : a.same b = true) : b.same a = true := same_iff.2 (same_iff.1 h).symm

theorem comparison_eq_of_same (h : a.same b = true) : a.comparison = b.comparison :=
  (RangeBound.mk.inj (same_iff.1 h)).1

theorem isIn_iff : b.isIn bounds = true ↔ ∃ a ∈ bounds, a.same b = true := List.any_eq_true

theorem isIn_of_mem (h : b ∈ bounds) : b.isIn bounds = true := isIn_iff.2 ⟨b, h, same_refl b⟩

/-- No two of the bounds are the same. -/
def Distinct (bounds : List RangeBound) : Prop := bounds.Pairwise fun a b => a.same b = false

/-- Bounds on one side are all the same. -/
def OneEachSide (bounds : List RangeBound) : Prop :=
  ∀ a ∈ bounds, ∀ b ∈ bounds,
    a.comparison.isLowerBound = b.comparison.isLowerBound → a.same b = true

theorem OneEachSide.mono (h : OneEachSide all) (hin : ∀ b ∈ bounds, b.isIn all = true) :
    OneEachSide bounds := by
  intro a ha b hb hside
  obtain ⟨a', ha', hsameA⟩ := isIn_iff.1 (hin a ha)
  obtain ⟨b', hb', hsameB⟩ := isIn_iff.1 (hin b hb)
  have hside' : a'.comparison.isLowerBound = b'.comparison.isLowerBound := by
    rw [comparison_eq_of_same hsameA, comparison_eq_of_same hsameB, hside]
  have hsame : a'.same b' = true := h a' ha' b' hb' hside'
  exact same_trans (same_symm hsameA) (same_trans hsame hsameB)

/-- Of bounds without repetitions at most one has a property where those that have it are all the
same. -/
theorem Distinct.countP_le_one_iff (h : Distinct bounds) (p : RangeBound → Bool) :
    bounds.countP p ≤ 1 ↔ ∀ a ∈ bounds, ∀ b ∈ bounds, p a = true → p b = true → a.same b = true := by
  have hfilter : Distinct (bounds.filter p) := List.Pairwise.filter p h
  rw [List.countP_eq_length_filter]
  constructor
  · intro hlength a ha b hb hpa hpb
    have ha' : a ∈ bounds.filter p := List.mem_filter.2 ⟨ha, hpa⟩
    have hb' : b ∈ bounds.filter p := List.mem_filter.2 ⟨hb, hpb⟩
    match hbounds : bounds.filter p, hlength with
    | [], _ => simp [hbounds] at ha'
    | [x], _ =>
      rw [hbounds, List.mem_singleton] at ha' hb'
      rw [ha', hb']
      exact same_refl x
  · intro hsame
    match hbounds : bounds.filter p with
    | [] => simp
    | [x] => simp
    | x :: y :: rest =>
      have hx : x ∈ bounds.filter p := by simp [hbounds]
      have hy : y ∈ bounds.filter p := by simp [hbounds]
      obtain ⟨hx, hpx⟩ := List.mem_filter.1 hx
      obtain ⟨hy, hpy⟩ := List.mem_filter.1 hy
      rw [hbounds] at hfilter
      have hdiffer : x.same y = false := (List.pairwise_cons.1 hfilter).1 y (by simp)
      rw [hsame x hx y hy hpx hpy] at hdiffer
      cases hdiffer

theorem Distinct.separate_iff (h : Distinct bounds) : Separate bounds ↔ OneEachSide bounds := by
  constructor
  · intro hseparate a ha b hb hside
    cases hlower : a.comparison.isLowerBound with
    | true => exact (h.countP_le_one_iff _).1 hseparate.lower a ha b hb hlower (hside ▸ hlower)
    | false =>
      exact (h.countP_le_one_iff _).1 hseparate.upper a ha b hb (by simp [hlower])
        (by simp [← hside, hlower])
  · intro hone
    constructor
    · refine (h.countP_le_one_iff _).2 fun a ha b hb hlowerA hlowerB => ?_
      exact hone a ha b hb (hlowerA.trans hlowerB.symm)
    · refine (h.countP_le_one_iff _).2 fun a ha b hb hupperA hupperB => ?_
      simp only [Bool.not_eq_true'] at hupperA hupperB
      exact hone a ha b hb (hupperA.trans hupperB.symm)

/-- **Bounds that can be combined.** Without repetitions, they can where those on one side are all
the same, in whichever of the two lists they are. -/
theorem canCombine_iff (hbounds : Distinct bounds) (hmore : Distinct more) :
    canCombine bounds more = true ↔ OneEachSide (bounds ++ more) := by
  have hall : Distinct (bounds ++ more.filter fun b => !b.isIn bounds) := by
    refine List.pairwise_append.2 ⟨hbounds, List.Pairwise.filter _ hmore, fun a ha b hb => ?_⟩
    have hnew := (List.mem_filter.1 hb).2
    rw [Bool.not_eq_true', ← Bool.not_eq_true, isIn_iff] at hnew
    rw [← Bool.not_eq_true]
    intro hsame
    exact hnew ⟨a, ha, hsame⟩
  have hseparate : canCombine bounds more = true ↔
      Separate (bounds ++ more.filter fun b => !b.isIn bounds) := by
    simp only [canCombine, Bool.and_eq_true, decide_eq_true_eq]
    exact ⟨fun h => ⟨h.1, h.2⟩, fun h => ⟨h.lower, h.upper⟩⟩
  rw [hseparate, hall.separate_iff]
  constructor
  · intro hone
    refine hone.mono fun b hb => ?_
    rcases List.mem_append.1 hb with hb | hb
    · exact isIn_of_mem (List.mem_append_left _ hb)
    · cases hin : b.isIn bounds with
      | true => exact isIn_append hin _
      | false => exact isIn_of_mem (List.mem_append_right _ (List.mem_filter.2 ⟨hb, by simp [hin]⟩))
  · intro hone
    refine hone.mono fun b hb => isIn_of_mem ?_
    exact List.mem_append.2 ((List.mem_append.1 hb).imp_right fun hb => (List.mem_filter.1 hb).1)

theorem Distinct.extend (h : Distinct bounds) (more : List RangeBound) :
    Distinct (extend bounds more) := by
  induction more generalizing bounds with
  | nil => exact h
  | cons b rest ih =>
    refine ih ?_
    unfold pushNew
    split_ifs with hin
    · exact h
    · refine List.pairwise_append.2 ⟨h, List.pairwise_singleton _ _, fun a ha c hc => ?_⟩
      rw [List.mem_singleton.1 hc, ← Bool.not_eq_true]
      intro hsame
      exact hin (isIn_iff.2 ⟨a, ha, hsame⟩)

theorem subset_extend (bounds more : List RangeBound) : bounds ⊆ extend bounds more := by
  obtain ⟨added, hextend, -⟩ := exists_extend bounds more
  rw [hextend]
  exact List.subset_append_left _ _

end RangeBound

/-! ### Ranges that take others -/

namespace Criteria

variable {c d : Criteria} {cs merged : List Criteria} {f : String} {m : Member}
  {bounds more : List RangeBound}

def isRange : Criteria → Bool
  | .range .. => true
  | _ => false

/-- If it is a range, no two of its bounds are the same. -/
def DistinctBounds : Criteria → Prop
  | .range _ _ bounds => RangeBound.Distinct bounds
  | _ => True

/-- Both are ranges on one field, and the bounds of the second can be added to the first. -/
def CanTake : Criteria → Criteria → Prop
  | .range f _ bounds, .range f' _ more => f = f' ∧ RangeBound.canCombine bounds more = true
  | _, _ => False

theorem DistinctBounds.keptByMerging : KeptByMerging DistinctBounds where
  merge _ hbounds _ := RangeBound.Distinct.extend hbounds _

/-- Without repeated bounds, ranges that cannot take one another still cannot when one of them has
more bounds. -/
theorem not_canTake_extend (hc : c.DistinctBounds) (hbounds : RangeBound.Distinct bounds)
    (h : ¬c.CanTake (.range f m bounds)) : ¬c.CanTake (.range f m (RangeBound.extend bounds more)) := by
  cases c with
  | range f' m' bounds' =>
    rintro ⟨rfl, hcombine⟩
    have hone := (RangeBound.canCombine_iff hc (hbounds.extend more)).1 hcombine
    have hfewer : RangeBound.OneEachSide (bounds' ++ bounds) := by
      refine hone.mono fun b hb => RangeBound.isIn_of_mem ?_
      exact List.mem_append.2
        ((List.mem_append.1 hb).imp_right fun hb => RangeBound.subset_extend bounds more hb)
    exact h ⟨rfl, (RangeBound.canCombine_iff hc hbounds).2 hfewer⟩
  | _ => exact h

theorem CanTake.symm (hc : c.DistinctBounds) (hd : d.DistinctBounds) (h : c.CanTake d) :
    d.CanTake c := by
  cases c with
  | range f m bounds =>
    cases d with
    | range f' m' more =>
      obtain ⟨rfl, hcombine⟩ := h
      have hone := (RangeBound.canCombine_iff hc hd).1 hcombine
      refine ⟨rfl, (RangeBound.canCombine_iff hd hc).2 (hone.mono fun b hb => ?_)⟩
      exact RangeBound.isIn_of_mem (List.mem_append.2 (List.mem_append.1 hb).symm)
    | _ => exact h.elim
  | _ => exact h.elim

/-- The bounds of a range are added to a range that can take them, or the range comes last. -/
theorem mergeBounds_cases (f : String) (m : Member) (more : List RangeBound) (cs : List Criteria) :
    ((∀ c ∈ cs, ¬c.CanTake (.range f m more)) ∧
        mergeBounds f m more cs = cs ++ [.range f m more]) ∨
      ∃ before m' bounds after, cs = before ++ .range f m' bounds :: after ∧
        RangeBound.canCombine bounds more = true ∧
        mergeBounds f m more cs =
          before ++ .range f m' (RangeBound.extend bounds more) :: after := by
  fun_induction mergeBounds f m more cs with
  | case1 => exact .inl ⟨by simp, rfl⟩
  | case2 f' m' bounds rest hmerge =>
    obtain ⟨rfl, hcombine⟩ := hmerge
    exact .inr ⟨[], m', bounds, rest, rfl, hcombine, rfl⟩
  | case3 f' m' bounds rest hmerge ih =>
    rcases ih with ⟨hnone, hmerged⟩ | ⟨before, m'', bounds', after, rfl, hcombine, hmerged⟩
    · exact .inl ⟨List.forall_mem_cons.2 ⟨hmerge, hnone⟩, by rw [hmerged]; rfl⟩
    · exact .inr ⟨.range f' m' bounds :: before, m'', bounds', after, rfl, hcombine,
        by rw [hmerged]; rfl⟩
  | case4 d rest hrange ih =>
    have hd : ¬d.CanTake (.range f m more) := by
      cases d with
      | range f' m' bounds => exact absurd rfl (hrange f' m' bounds)
      | _ => exact id
    rcases ih with ⟨hnone, hmerged⟩ | ⟨before, m'', bounds', after, rfl, hcombine, hmerged⟩
    · exact .inl ⟨List.forall_mem_cons.2 ⟨hd, hnone⟩, by rw [hmerged]; rfl⟩
    · exact .inr ⟨d :: before, m'', bounds', after, rfl, hcombine, by rw [hmerged]; rfl⟩

/-! ### Settled ranges -/

/-- No range repeats a bound, and none can take another, whichever of them comes first. -/
structure Settled (cs : List Criteria) : Prop where
  distinct : ∀ c ∈ cs, c.DistinctBounds
  apart : cs.Pairwise fun c d => ¬c.CanTake d ∧ ¬d.CanTake c

/-- Where no range can take a criteria, it comes last. -/
theorem mergeOne_eq_append (h : ∀ d ∈ cs, ¬d.CanTake c) : mergeOne cs c = cs ++ [c] := by
  cases c with
  | range f m more =>
    rcases mergeBounds_cases f m more cs with ⟨-, happend⟩ | ⟨_, m', bounds, _, rfl, hcombine, -⟩
    · exact happend
    · exact absurd ⟨rfl, hcombine⟩ (h (.range f m' bounds) (by simp))
  | _ => rfl

theorem Settled.append (h : Settled cs) (hc : c.DistinctBounds) (hnone : ∀ d ∈ cs, ¬d.CanTake c) :
    Settled (cs ++ [c]) := by
  constructor
  · exact List.forall_mem_append.2 ⟨h.distinct, by simpa using hc⟩
  · refine List.pairwise_append.2 ⟨h.apart, List.pairwise_singleton _ _, fun d hd e he => ?_⟩
    rw [List.mem_singleton.1 he]
    exact ⟨hnone d hd, fun htake => hnone d hd (htake.symm hc (h.distinct d hd))⟩

/-- A range that is given more bounds still takes no other. -/
theorem Settled.extend {before after : List Criteria}
    (h : Settled (before ++ .range f m bounds :: after)) (more : List RangeBound) :
    Settled (before ++ .range f m (RangeBound.extend bounds more) :: after) := by
  have hbounds : RangeBound.Distinct bounds := h.distinct (.range f m bounds) (by simp)
  have hdistinct : ∀ c ∈ before ++ .range f m (RangeBound.extend bounds more) :: after,
      c.DistinctBounds := by
    intro c hc
    rcases List.mem_append.1 hc with hc | hc
    · exact h.distinct c (List.mem_append_left _ hc)
    · rcases List.mem_cons.1 hc with rfl | hc
      · exact hbounds.extend more
      · exact h.distinct c (List.mem_append_right _ (List.mem_cons_of_mem _ hc))
  have hapart : ∀ c, c.DistinctBounds → ¬c.CanTake (.range f m bounds) →
      ¬c.CanTake (.range f m (RangeBound.extend bounds more)) ∧
        ¬(Criteria.range f m (RangeBound.extend bounds more)).CanTake c := by
    intro c hc hnot
    have hlonger : ¬c.CanTake (.range f m (RangeBound.extend bounds more)) :=
      not_canTake_extend hc hbounds hnot
    exact ⟨hlonger, fun htake => hlonger (htake.symm (hbounds.extend more) hc)⟩
  obtain ⟨hbefore, hrest, hacross⟩ := List.pairwise_append.1 h.apart
  obtain ⟨hrange, hafter⟩ := List.pairwise_cons.1 hrest
  refine ⟨hdistinct, List.pairwise_append.2 ⟨hbefore, List.pairwise_cons.2 ⟨?_, hafter⟩, ?_⟩⟩
  · intro c hc
    have hdc : c.DistinctBounds := hdistinct c (by simp [hc])
    exact (hapart c hdc (hrange c hc).2).symm
  · intro c hc d hd
    rcases List.mem_cons.1 hd with rfl | hd
    · have hdc : c.DistinctBounds := hdistinct c (by simp [hc])
      exact hapart c hdc (hacross c hc _ List.mem_cons_self).1
    · exact hacross c hc d (List.mem_cons_of_mem _ hd)

theorem Settled.mergeOne (h : Settled cs) (hc : c.DistinctBounds) : Settled (mergeOne cs c) := by
  cases c with
  | range f m more =>
    rw [Criteria.mergeOne]
    rcases mergeBounds_cases f m more cs with ⟨hnone, happend⟩ | ⟨_, m', bounds, _, rfl, -, hadded⟩
    · rw [happend]
      exact h.append hc hnone
    · rw [hadded]
      exact h.extend more
  | _ =>
    refine h.append hc fun d _ => ?_
    cases d <;> exact id

/-- **Merging settles the ranges.** A range that no range could take when it came can be taken by
none later, however these have grown. -/
theorem settled_mergeRanges (h : ∀ c ∈ cs, c.DistinctBounds) : Settled (mergeRanges cs) := by
  suffices hfold : ∀ merged, Settled merged → Settled (cs.foldl Criteria.mergeOne merged) from
    hfold [] ⟨by simp, .nil⟩
  induction cs with
  | nil => exact fun _ hmerged => hmerged
  | cons c rest ih =>
    rw [List.forall_mem_cons] at h
    exact fun merged hmerged => ih h.2 _ (hmerged.mergeOne h.1)

/-- Settled ranges stay as they are. -/
theorem Settled.mergeRanges_eq (h : Settled cs) : mergeRanges cs = cs := by
  suffices hfold : ∀ merged : List Criteria,
      (merged ++ cs).Pairwise (fun c d => ¬c.CanTake d ∧ ¬d.CanTake c) →
        cs.foldl Criteria.mergeOne merged = merged ++ cs from hfold [] h.apart
  clear h
  induction cs with
  | nil => simp
  | cons c rest ih =>
    intro merged hapart
    have hnone : ∀ d ∈ merged, ¬d.CanTake c := fun d hd =>
      ((List.pairwise_append.1 hapart).2.2 d hd c List.mem_cons_self).1
    rw [List.foldl_cons, mergeOne_eq_append hnone, ih _ (by simpa using hapart)]
    simp

/-- What is no range is neither lost nor moved past another. -/
theorem filter_mergeRanges (cs : List Criteria) :
    (mergeRanges cs).filter (!·.isRange) = cs.filter (!·.isRange) := by
  suffices hfold : ∀ merged : List Criteria,
      (cs.foldl mergeOne merged).filter (!·.isRange) =
        merged.filter (!·.isRange) ++ cs.filter (!·.isRange) from hfold []
  induction cs with
  | nil => simp
  | cons c rest ih =>
    intro merged
    have hone : (mergeOne merged c).filter (!·.isRange) =
        merged.filter (!·.isRange) ++ [c].filter (!·.isRange) := by
      cases c with
      | range f m more =>
        rw [mergeOne]
        rcases mergeBounds_cases f m more merged with ⟨-, hmerged⟩ | ⟨_, _, _, _, rfl, -, hmerged⟩
        · simp [hmerged, isRange]
        · simp [hmerged, isRange]
      | _ => simp [mergeOne, isRange]
    rw [List.foldl_cons, ih, hone, List.append_assoc, ← List.filter_append, List.singleton_append]

/-! ### Normal forms -/

/-- What a list comes to when its ranges are merged: the ranges are settled, all else is as it was,
and there is nothing left to merge. -/
structure NormalForm (cs merged : List Criteria) : Prop extends Settled merged where
  others : merged.filter (!·.isRange) = cs.filter (!·.isRange)
  fixed : mergeRanges merged = merged

theorem normalForm_mergeRanges (h : ∀ c ∈ cs, c.DistinctBounds) :
    NormalForm cs (mergeRanges cs) := by
  have hsettled := settled_mergeRanges h
  exact ⟨hsettled, filter_mergeRanges cs, hsettled.mergeRanges_eq⟩

theorem and_mem_of_mem_mergeRanges {children : List Criteria}
    (h : .and children ∈ mergeRanges cs) : .and children ∈ cs := by
  have hothers : .and children ∈ (mergeRanges cs).filter (!·.isRange) :=
    List.mem_filter.2 ⟨h, rfl⟩
  rw [filter_mergeRanges] at hothers
  exact (List.mem_filter.1 hothers).1

/-- Flattening leaves a conjunction only where one was nested in another. -/
theorem and_notMem_flatMap_conjuncts
    (hnested : ∀ children, .and children ∈ cs → ∀ inner, .and inner ∉ children)
    (inner : List Criteria) : .and inner ∉ cs.flatMap conjuncts := by
  intro hinner
  obtain ⟨c, hc, hinner⟩ := List.mem_flatMap.1 hinner
  cases c with
  | and children => exact hnested children hc inner hinner
  | _ => simp [conjuncts] at hinner

/-- A conjunction with merged ranges is combined to itself, unless it is a conjunction that was
nested in another. -/
theorem andAll_andAll (h : ∀ c ∈ cs.flatMap conjuncts, c.DistinctBounds)
    (hnested : ∀ children, .and children ∈ cs → ∀ inner, .and inner ∉ children)
    (hc : andAll cs = some c) : andAll [c] = some c := by
  have hfixed := (normalForm_mergeRanges h).fixed
  unfold andAll at hc
  split at hc
  · cases hc
  · rename_i d hd
    cases hc
    have hnot : ∀ inner, c ≠ .and inner := by
      rintro inner rfl
      have hmem : .and inner ∈ mergeRanges (cs.flatMap conjuncts) := by simp [hd]
      exact and_notMem_flatMap_conjuncts hnested inner (and_mem_of_mem_mergeRanges hmem)
    have hconjuncts : c.conjuncts = [c] := by
      unfold conjuncts
      split
      · exact absurd rfl (hnot _)
      · rfl
    rw [hd] at hfixed
    rw [andAll, List.flatMap_singleton, hconjuncts, hfixed]
  · rename_i hsome hone
    cases hc
    rw [andAll, List.flatMap_singleton, conjuncts, hfixed]
    split
    · rename_i hnil
      exact absurd hnil hsome
    · rename_i d hd
      exact absurd hd (hone d)
    · rfl

/-- **Merged ranges are a normal form.** Where no range repeats a bound, none of the merged ranges
can take another, so merging again changes nothing; all else is kept in its order. A conjunction of
parts in which none is nested in another is then combined to itself. -/
theorem mergeRanges_normalForm (hcs : ∀ c ∈ cs, c.DistinctBounds)
    (hchildren : ∀ children, .and children ∈ cs → ∀ c ∈ children, c.DistinctBounds) :
    NormalForm cs (mergeRanges cs) ∧
      NormalForm (cs.flatMap conjuncts) (mergeRanges (cs.flatMap conjuncts)) ∧
      ((∀ children, .and children ∈ cs → ∀ inner, .and inner ∉ children) →
        ∀ c, andAll cs = some c → andAll [c] = some c) := by
  have hflat : ∀ c ∈ cs.flatMap conjuncts, c.DistinctBounds := by
    intro c hc
    obtain ⟨d, hd, hc⟩ := List.mem_flatMap.1 hc
    cases d with
    | and children => exact hchildren children hd c hc
    | _ => exact List.mem_singleton.1 hc ▸ hcs _ hd
  exact ⟨normalForm_mergeRanges hcs, normalForm_mergeRanges hflat,
    fun hnested c hc => andAll_andAll hflat hnested hc⟩

end Criteria

/-! ### Conditions on films -/

namespace Film

def madeWhere (comparison : RangeComparison) (y : Int) : Criteria :=
  .bound "year" ⟨"Year", .integer⟩ comparison (.int y)

/-- Films with a title that were made after 1970, after 1980 and before 1990; one bound is asked for
twice. -/
def titledConditions : List Criteria :=
  [.and [madeWhere .greaterThan 1970, .present "title"], madeWhere .greaterThan 1980,
    madeWhere .lessThan 1990, madeWhere .greaterThan 1980]

/-- The upper bound joins the first lower bound; the other lower bounds come to one. -/
def titledConjunction : Criteria :=
  .and [.range "year" ⟨"Year", .integer⟩ [⟨.greaterThan, .int 1970⟩, ⟨.lessThan, .int 1990⟩],
    .present "title", madeWhere .greaterThan 1980]

end Film

namespace Criteria

theorem mergeRanges_normalForm_film :
    (∀ c ∈ Film.titledConditions, c.DistinctBounds) ∧
      (∀ children, .and children ∈ Film.titledConditions → ∀ c ∈ children, c.DistinctBounds) ∧
      (∀ children, .and children ∈ Film.titledConditions → ∀ inner, .and inner ∉ children) ∧
      NormalForm Film.titledConditions (mergeRanges Film.titledConditions) ∧
      NormalForm (Film.titledConditions.flatMap conjuncts)
        (mergeRanges (Film.titledConditions.flatMap conjuncts)) ∧
      andAll Film.titledConditions = some Film.titledConjunction ∧
      andAll [Film.titledConjunction] = some Film.titledConjunction := by
  have hcs : ∀ c ∈ Film.titledConditions, c.DistinctBounds := by
    simp [Film.titledConditions, Film.madeWhere, bound, DistinctBounds, RangeBound.Distinct]
  have hchildren : ∀ children, .and children ∈ Film.titledConditions →
      ∀ c ∈ children, c.DistinctBounds := by
    simp [Film.titledConditions, Film.madeWhere, bound, DistinctBounds, RangeBound.Distinct]
  have hnested : ∀ children, .and children ∈ Film.titledConditions →
      ∀ inner, .and inner ∉ children := by
    simp [Film.titledConditions, Film.madeWhere, bound]
  have hcombined : andAll Film.titledConditions = some Film.titledConjunction := by decide
  obtain ⟨hlist, hflat, hagain⟩ := mergeRanges_normalForm hcs hchildren
  exact ⟨hcs, hchildren, hnested, hlist, hflat, hcombined, hagain hnested _ hcombined⟩

end Criteria

end SearchQuery
