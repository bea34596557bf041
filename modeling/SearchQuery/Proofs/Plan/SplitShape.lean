import SearchQuery.Proofs.Plan.Leaves

/-!
# The shape of what a predicate is split into

* `formula_wellFormed`: the leaves of a predicate become filters, single leaves that count for the
  score, or the place holder of what is always true.
* `Formula.split_shaped`: so a predicate leaves one clause or a place holder, and everything that is
  lifted out of it is a leaf that counts for the score.
-/

namespace SearchQuery

open Lowered (Connective)

/-! ### Leaves of predicates -/

/-- What a leaf of a predicate becomes. -/
def Criteria.IsAtom (c : Criteria) : Prop := c.IsClause ∨ c = .nop []

/-- Every leaf of the formula is what a leaf of a predicate becomes. -/
def Formula.WellFormed (f : Formula) : Prop := ∀ c ∈ f.atoms, c.IsAtom

theorem Formula.wellFormed_join {op : Connective} {left right : Formula} :
    (Formula.join op left right).WellFormed ↔ left.WellFormed ∧ right.WellFormed := by
  simp only [Formula.WellFormed, Formula.atoms, List.mem_append, or_imp, forall_and]

theorem HoldsOfLeaves.isAtom {m : FieldMapping} {pathPrefix : String} :
    HoldsOfLeaves m pathPrefix Criteria.IsAtom where
  always := .inr rfl
  never := .inl (.inl (.not (.leaf rfl)))
  field h := by
    obtain ⟨e, field, last, -, hasks⟩ := h
    exact .inl hasks.isClause
  text _ := .inl (.inr rfl)

theorem Expression.formula_wellFormed {m : FieldMapping} {pathPrefix : String} {e : Expression}
    {f : Formula} (h : e.formula m pathPrefix = .ok f) : f.WellFormed :=
  HoldsOfLeaves.isAtom.formula h

/-! ### Parts of a split formula -/

/-- One clause or a place holder remains, and only leaves that count for the score are lifted. -/
structure Split.Shaped (s : Split) : Prop where
  rest : s.rest.IsClause ∨ s.rest.isNop = true
  lifted : ∀ l ∈ s.lifted, l.2.isScoringLeaf = true

namespace Split

variable {s l r : Split}

/-- What counts for the score at its root is a single leaf. -/
theorem Shaped.isScoringLeaf (h : s.Shaped) (hrest : s.rest.isQueryContext = true) :
    s.rest.isScoringLeaf = true := by
  rcases h.rest with (hfilter | hleaf) | hnop
  · rw [hfilter.isQueryContext] at hrest
    cases hrest
  · exact hleaf
  · rw [Criteria.isNop_of_isQueryContext hrest] at hnop
    cases hnop

/-- What does not count for the score is a filter, unless it is a place holder. -/
theorem Shaped.isFilter (h : s.Shaped) (hrest : s.rest.isQueryContext = false)
    (hnop : s.rest.isNop = false) : s.rest.IsFilter := by
  rcases h.rest with (hfilter | hleaf) | hnop'
  · exact hfilter
  · rw [Criteria.isQueryContext_of_isScoringLeaf hleaf] at hrest
    cases hrest
  · rw [hnop'] at hnop
    cases hnop

theorem isFilter_of_combine {op : Connective} {a b c : Criteria} (ha : a.IsFilter)
    (hb : b.IsFilter) (h : op.combine a b = some c) : c.IsFilter := by
  have hall : ∀ d ∈ [a, b], d.IsFilter := by simpa using ⟨ha, hb⟩
  cases op with
  | and => exact Criteria.IsFilter.andAll hall h
  | or => exact Criteria.IsFilter.orAll hall h

/-- Two filters can always be combined. -/
theorem exists_combine (op : Connective) {a b : Criteria} (ha : a.IsFilter) (hb : b.IsFilter) :
    ∃ c, op.combine a b = some c := by
  have hall : ∀ d ∈ [a, b], d.IsFilter := by simpa using ⟨ha, hb⟩
  cases op with
  | and => exact Criteria.IsFilter.exists_andAll (by simp) hall
  | or => exact Criteria.IsFilter.exists_orAll (by simp) hall

theorem Shaped.joinFilters {op : Connective} {c : Criteria} (hl : l.Shaped) (hr : r.Shaped)
    (hlq : l.rest.isQueryContext = false) (hrq : r.rest.isQueryContext = false)
    (h : op.joinFilters l.rest r.rest = .ok c) : c.IsClause ∨ c.isNop = true := by
  rcases Connective.joinFilters_cases h with ⟨-, rfl⟩ | ⟨-, -, rfl⟩ | ⟨hlnop, hrnop, hcombine⟩
  · exact hr.rest
  · exact hl.rest
  · have hlf := hl.isFilter hlq hlnop
    have hrf := hr.isFilter hrq hrnop
    exact .inl (.inl (isFilter_of_combine hlf hrf hcombine))

theorem Shaped.remainder (hl : l.Shaped) (hr : r.Shaped) :
    (Connective.remainder l.rest r.rest).IsClause ∨
      (Connective.remainder l.rest r.rest).isNop = true := by
  unfold Connective.remainder
  split_ifs
  · exact hl.rest
  · exact hr.rest
  · exact .inr rfl

theorem Shaped.join {op : Connective} (hl : l.Shaped) (hr : r.Shaped)
    (h : Split.join op l r = some s) : s.Shaped := by
  have hlifted : ∀ x ∈ l.lifted ++ r.lifted, x.2.isScoringLeaf = true := by
    intro x hx
    rcases List.mem_append.1 hx with hx | hx
    · exact hl.lifted x hx
    · exact hr.lifted x hx
  rcases join_cases h with ⟨-, rfl⟩ | ⟨hlq, hrq, c, hc, rfl⟩
  · refine ⟨hl.remainder hr, fun x hx => ?_⟩
    rcases List.mem_append.1 hx with hx | hx
    · exact hlifted x hx
    · obtain ⟨c, hc, rfl⟩ := List.mem_map.1 hx
      obtain ⟨hmem, hq⟩ := List.mem_filter.1 hc
      have hside : c = l.rest ∨ c = r.rest := by simpa using hmem
      rcases hside with rfl | rfl
      · exact hl.isScoringLeaf hq
      · exact hr.isScoringLeaf hq
  · exact ⟨hl.joinFilters hr hlq hrq hc, hlifted⟩

theorem Shaped.negate (hs : s.Shaped) {s' : Split} (h : s.negate = some s') :
    s'.Shaped ∧ s'.rest.IsFilter := by
  obtain ⟨hq, -, rfl⟩ := negate_cases h
  have hfilter : (if s.rest.isNop then Criteria.matchAll else s.rest).IsFilter := by
    by_cases hnop : s.rest.isNop = true
    · rw [if_pos hnop]
      exact .leaf rfl
    · rw [if_neg hnop]
      exact hs.isFilter hq (by simpa using hnop)
  exact ⟨⟨.inl (.inl hfilter.not), by simp⟩, hfilter.not⟩

end Split

/-- **The parts of a predicate.** What remains of a formula is a clause or a place holder, and what
is lifted out of it are single leaves that count for the score. -/
theorem Formula.split_shaped {f : Formula} (hf : f.WellFormed) {s : Split}
    (h : f.split = some s) : s.Shaped := by
  induction f generalizing s with
  | atom c =>
    cases h
    rcases hf c (by simp [Formula.atoms]) with hc | rfl
    · exact ⟨.inl hc, by simp⟩
    · exact ⟨.inr rfl, by simp⟩
  | not inner ih =>
    obtain ⟨i, hi, hs⟩ := Option.bind_eq_some_iff.1 h
    exact ((ih hf hi).negate hs).1
  | join op left right ihl ihr =>
    obtain ⟨hleft, hright⟩ := wellFormed_join.1 hf
    obtain ⟨l, hl, h⟩ := Option.bind_eq_some_iff.1 h
    obtain ⟨r, hr, hs⟩ := Option.bind_eq_some_iff.1 h
    exact (ihl hleft hl).join (ihr hright hr) hs

end SearchQuery
