import SearchQuery.Proofs.Criteria.Meaning

/-!
# The shape of criteria

* `IsFilter`: nothing in it counts for the score at any depth, it holds no place holder, and its
  compounds have children. The combination rules stay inside this shape.
* `IsQuery`: what a request may ask for in its query, which is one clause or a bool node over
  clauses. `boolMust` and `boolShould` stay inside this shape.
* `Writable`: what has a written form. Both shapes above are writable.
-/

namespace SearchQuery

namespace Criteria

/-- The leaves that only select documents. -/
def isFilterLeaf : Criteria → Bool
  | .term .. | .terms .. | .range .. | .startsWith .. | .regexp .. | .present _ | .missing _
  | .matchAll => true
  | _ => false

/-- The leaves that count for the score. -/
def isScoringLeaf : Criteria → Bool
  | .wildcard .. | .queryString .. => true
  | _ => false

theorem isQueryContext_of_isScoringLeaf {c : Criteria} (h : c.isScoringLeaf = true) :
    c.isQueryContext = true := by
  cases c <;> first | rfl | cases h

theorem isNop_of_isQueryContext {c : Criteria} (h : c.isQueryContext = true) :
    c.isNop = false := by
  cases c <;> first | rfl | cases h

/-! ### Filters -/

inductive IsFilter : Criteria → Prop
  | leaf {c : Criteria} (h : c.isFilterLeaf = true) : IsFilter c
  | not {c : Criteria} (h : IsFilter c) : IsFilter (.not c)
  | and {cs : List Criteria} (hne : cs ≠ []) (h : ∀ c ∈ cs, IsFilter c) : IsFilter (.and cs)
  | or {cs : List Criteria} (hne : cs ≠ []) (h : ∀ c ∈ cs, IsFilter c) : IsFilter (.or cs)

namespace IsFilter

variable {c : Criteria} {cs : List Criteria}

theorem isNop (h : c.IsFilter) : c.isNop = false := by
  cases h with
  | leaf h => cases c <;> first | rfl | cases h
  | not | and | or => rfl

theorem isQueryContext (h : c.IsFilter) : c.isQueryContext = false := by
  cases h with
  | leaf h => cases c <;> first | rfl | cases h
  | not | and | or => rfl

theorem singleton (h : c.IsFilter) : [c] ≠ [] ∧ ∀ d ∈ [c], d.IsFilter := by
  simpa using h

theorem conjuncts (h : c.IsFilter) : c.conjuncts ≠ [] ∧ ∀ d ∈ c.conjuncts, d.IsFilter := by
  unfold Criteria.conjuncts
  split
  · cases h with
    | leaf h => cases h
    | and hne h => exact ⟨hne, h⟩
  · exact h.singleton

theorem disjuncts (h : c.IsFilter) : c.disjuncts ≠ [] ∧ ∀ d ∈ c.disjuncts, d.IsFilter := by
  unfold Criteria.disjuncts
  split
  · cases h with
    | leaf h => cases h
    | or hne h => exact ⟨hne, h⟩
  · exact h.singleton

theorem range (f : String) (m : Member) (bounds : List RangeBound) :
    IsFilter (.range f m bounds) :=
  leaf rfl

end IsFilter

/-! ### Merged ranges -/

/-- A property that passes from two ranges to the range that they are merged into. -/
structure KeptByMerging (P : Criteria → Prop) : Prop where
  merge {f : String} {m m' : Member} {bounds more : List RangeBound}
    (hcan : RangeBound.canCombine bounds more = true) (hbounds : P (.range f m bounds))
    (hmore : P (.range f m' more)) : P (.range f m (RangeBound.extend bounds more))

namespace KeptByMerging

variable {P : Criteria → Prop} {cs : List Criteria}

theorem mergeBounds (hP : KeptByMerging P) {f : String} {m : Member} {more : List RangeBound}
    (hmore : P (.range f m more)) (h : ∀ c ∈ cs, P c) :
    ∀ c ∈ Criteria.mergeBounds f m more cs, P c := by
  fun_induction Criteria.mergeBounds f m more cs with
  | case1 => simpa using hmore
  | case2 f' m' bounds rest hmerge =>
    rw [List.forall_mem_cons] at h ⊢
    obtain ⟨rfl, hcan⟩ := hmerge
    exact ⟨hP.merge hcan h.1 hmore, h.2⟩
  | case3 f' m' bounds rest _ ih =>
    rw [List.forall_mem_cons] at h ⊢
    exact ⟨h.1, ih h.2⟩
  | case4 d rest _ ih =>
    rw [List.forall_mem_cons] at h ⊢
    exact ⟨h.1, ih h.2⟩

theorem mergeOne (hP : KeptByMerging P) {d : Criteria} (hd : P d) (h : ∀ c ∈ cs, P c) :
    ∀ c ∈ Criteria.mergeOne cs d, P c := by
  unfold Criteria.mergeOne
  split
  · exact hP.mergeBounds hd h
  · intro c hc
    rcases List.mem_append.1 hc with hc | hc
    · exact h c hc
    · rw [List.mem_singleton.1 hc]
      exact hd

theorem mergeRanges (hP : KeptByMerging P) (h : ∀ c ∈ cs, P c) :
    ∀ c ∈ Criteria.mergeRanges cs, P c := by
  suffices hfold : ∀ merged : List Criteria, (∀ c ∈ merged, P c) →
      ∀ c ∈ cs.foldl Criteria.mergeOne merged, P c from hfold [] (by simp)
  induction cs with
  | nil => exact fun _ hmerged => hmerged
  | cons d rest ih =>
    rw [List.forall_mem_cons] at h
    exact fun merged hmerged => ih h.2 _ (hP.mergeOne h.1 hmerged)

end KeptByMerging

theorem IsFilter.keptByMerging : KeptByMerging IsFilter where
  merge _ _ _ := range _ _ _

theorem mergeBounds_ne_nil (f : String) (m : Member) (more : List RangeBound) (cs : List Criteria) :
    mergeBounds f m more cs ≠ [] := by
  unfold mergeBounds
  split
  · simp
  · split <;> simp
  · simp

theorem mergeOne_ne_nil (cs : List Criteria) (c : Criteria) : mergeOne cs c ≠ [] := by
  unfold mergeOne
  split
  · exact mergeBounds_ne_nil _ _ _ _
  · simp

theorem mergeRanges_ne_nil {cs : List Criteria} (h : cs ≠ []) : mergeRanges cs ≠ [] := by
  rw [← List.dropLast_concat_getLast h, mergeRanges, List.foldl_append]
  exact mergeOne_ne_nil _ _

/-! ### Combinations of nothing -/

theorem conjuncts_eq_nil_iff {c : Criteria} : c.conjuncts = [] ↔ c = .and [] := by
  cases c <;> simp [conjuncts]

theorem disjuncts_eq_nil_iff {c : Criteria} : c.disjuncts = [] ↔ c = .or [] := by
  cases c <;> simp [disjuncts]

/-- There is no conjunction only of conjunctions of nothing. -/
theorem andAll_eq_none_iff {cs : List Criteria} : andAll cs = none ↔ ∀ c ∈ cs, c = .and [] := by
  have hflat : (∀ c ∈ cs, c = .and []) ↔ cs.flatMap conjuncts = [] := by
    simp only [List.flatMap_eq_nil_iff, conjuncts_eq_nil_iff]
  rw [hflat]
  constructor
  · intro hnone
    by_contra hne
    have hmerged := mergeRanges_ne_nil hne
    unfold andAll at hnone
    split at hnone
    · rename_i hnil
      exact hmerged hnil
    · cases hnone
    · cases hnone
  · intro hnil
    rw [andAll, hnil]
    rfl

/-- There is no disjunction only of disjunctions of nothing. -/
theorem orAll_eq_none_iff {cs : List Criteria} : orAll cs = none ↔ ∀ c ∈ cs, c = .or [] := by
  have hflat : (∀ c ∈ cs, c = .or []) ↔ cs.flatMap disjuncts = [] := by
    simp only [List.flatMap_eq_nil_iff, disjuncts_eq_nil_iff]
  rw [hflat]
  unfold orAll
  split <;> simp_all

namespace IsFilter

variable {c : Criteria} {cs : List Criteria}

theorem andAll (h : ∀ d ∈ cs, d.IsFilter) (hc : Criteria.andAll cs = some c) : c.IsFilter := by
  have hmerged : ∀ d ∈ Criteria.mergeRanges (cs.flatMap Criteria.conjuncts), d.IsFilter := by
    refine keptByMerging.mergeRanges fun d hd => ?_
    obtain ⟨e, he, hde⟩ := List.mem_flatMap.1 hd
    exact (h e he).conjuncts.2 d hde
  unfold Criteria.andAll at hc
  split at hc
  · cases hc
  · rename_i d hd
    cases hc
    exact hmerged c (by simp [hd])
  · rename_i hne _
    cases hc
    exact and hne hmerged

theorem orAll (h : ∀ d ∈ cs, d.IsFilter) (hc : Criteria.orAll cs = some c) : c.IsFilter := by
  have hflat : ∀ d ∈ cs.flatMap Criteria.disjuncts, d.IsFilter := by
    intro d hd
    obtain ⟨e, he, hde⟩ := List.mem_flatMap.1 hd
    exact (h e he).disjuncts.2 d hde
  unfold Criteria.orAll at hc
  split at hc
  · cases hc
  · rename_i d hd
    cases hc
    exact hflat c (by simp [hd])
  · rename_i hne _
    cases hc
    exact or hne hflat

/-- A conjunction of filters is empty only where there are none. -/
theorem exists_andAll (hne : cs ≠ []) (h : ∀ d ∈ cs, d.IsFilter) :
    ∃ c, Criteria.andAll cs = some c := by
  refine Option.ne_none_iff_exists'.1 fun hnone => ?_
  obtain ⟨d, hd⟩ := List.exists_mem_of_ne_nil cs hne
  have hnothing : d = .and [] := andAll_eq_none_iff.1 hnone d hd
  exact (h d hd).conjuncts.1 (conjuncts_eq_nil_iff.2 hnothing)

/-- So is a disjunction of filters. -/
theorem exists_orAll (hne : cs ≠ []) (h : ∀ d ∈ cs, d.IsFilter) :
    ∃ c, Criteria.orAll cs = some c := by
  refine Option.ne_none_iff_exists'.1 fun hnone => ?_
  obtain ⟨d, hd⟩ := List.exists_mem_of_ne_nil cs hne
  have hnothing : d = .or [] := orAll_eq_none_iff.1 hnone d hd
  exact (h d hd).disjuncts.1 (disjuncts_eq_nil_iff.2 hnothing)

theorem andInto {current : Option Criteria} (hcurrent : ∀ d ∈ current, d.IsFilter)
    (hc : c.IsFilter) : (Criteria.andInto current c).IsFilter := by
  cases current with
  | none => exact hc
  | some root =>
    have h : ∀ d ∈ [root, c], d.IsFilter := by
      simpa using ⟨hcurrent root rfl, hc⟩
    obtain ⟨combined, hcombined⟩ := exists_andAll (by simp) h
    rw [Criteria.andInto, hcombined]
    exact andAll h hcombined

end IsFilter

/-! ### Queries -/

/-- What may stand in a query next to other clauses. -/
def IsClause (c : Criteria) : Prop := c.IsFilter ∨ c.isScoringLeaf = true

inductive IsQuery : Criteria → Prop
  | clause {c : Criteria} (h : c.IsClause) : IsQuery c
  | bool {must should : List Criteria} (hne : must ++ should ≠ [])
      (h : ∀ c ∈ must ++ should, c.IsClause) : IsQuery (.bool must [] should)

theorem IsClause.ne_bool {c : Criteria} (h : c.IsClause) (must mustNot should : List Criteria) :
    c ≠ .bool must mustNot should := by
  rintro rfl
  rcases h with h | h
  · exact absurd h.isQueryContext (by simp [Criteria.isQueryContext])
  · cases h

theorem IsQuery.boolMust {query : Option Criteria} {c : Criteria} (hquery : ∀ q ∈ query, q.IsQuery)
    (hc : c.IsClause) : (Criteria.boolMust query c).IsQuery := by
  unfold Criteria.boolMust
  split
  · exact .bool (by simp) (by simpa using hc)
  · cases hquery _ rfl with
    | clause h => exact absurd rfl (h.ne_bool _ _ _)
    | bool hne h =>
      refine .bool (by simp) fun d hd => ?_
      simp only [List.mem_append, List.mem_singleton, or_assoc] at hd h
      rcases hd with hd | rfl | hd
      · exact h d (.inl hd)
      · exact hc
      · exact h d (.inr hd)
  · rename_i root hroot
    cases hquery _ rfl with
    | clause h => exact .bool (by simp) (by simpa using ⟨h, hc⟩)
    | bool hne h => exact absurd rfl (hroot _ _ _)

theorem IsQuery.boolShould {query : Option Criteria} {c : Criteria}
    (hquery : ∀ q ∈ query, q.IsQuery) (hc : c.IsClause) :
    (Criteria.boolShould query c).IsQuery := by
  unfold Criteria.boolShould
  split
  · exact .bool (by simp) (by simpa using hc)
  · cases hquery _ rfl with
    | clause h => exact absurd rfl (h.ne_bool _ _ _)
    | bool hne h =>
      refine .bool (by simp) fun d hd => ?_
      rw [← List.append_assoc, List.mem_append, List.mem_singleton] at hd
      rcases hd with hd | rfl
      · exact h d hd
      · exact hc
  · rename_i root hroot
    cases hquery _ rfl with
    | clause h => exact .bool (by simp) (by simpa using ⟨h, hc⟩)
    | bool hne h => exact absurd rfl (hroot _ _ _)

/-! ### Writable criteria -/

/-- No place holder, no empty compound and no bool node without clauses at any depth. -/
inductive Writable : Criteria → Prop
  | leaf {c : Criteria} (h : (c.isFilterLeaf || c.isScoringLeaf) = true) : Writable c
  | not {c : Criteria} (h : Writable c) : Writable (.not c)
  | and {cs : List Criteria} (hne : cs ≠ []) (h : ∀ c ∈ cs, Writable c) : Writable (.and cs)
  | or {cs : List Criteria} (hne : cs ≠ []) (h : ∀ c ∈ cs, Writable c) : Writable (.or cs)
  | bool {must mustNot should : List Criteria} (hne : must ++ mustNot ++ should ≠ [])
      (h : ∀ c ∈ must ++ mustNot ++ should, Writable c) : Writable (.bool must mustNot should)

theorem IsFilter.writable {c : Criteria} (h : c.IsFilter) : c.Writable := by
  induction h with
  | leaf h => exact .leaf (by simp [h])
  | not _ ih => exact .not ih
  | and hne _ ih => exact .and hne ih
  | or hne _ ih => exact .or hne ih

theorem IsClause.writable {c : Criteria} (h : c.IsClause) : c.Writable := by
  rcases h with h | h
  · exact h.writable
  · exact .leaf (by simp [h])

theorem IsQuery.writable {c : Criteria} (h : c.IsQuery) : c.Writable := by
  cases h with
  | clause h => exact h.writable
  | bool hne h => exact .bool (by simpa using hne) fun d hd => (h d (by simpa using hd)).writable

end Criteria

end SearchQuery
