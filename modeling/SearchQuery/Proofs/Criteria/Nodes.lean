import SearchQuery.Proofs.Criteria.Shape

/-!
# Nodes of criteria

The shapes of criteria, seen at every depth.

* `nodes`: a criteria with everything below it.
* `OnlyFilters`: nothing at any depth counts for the score or holds the place of something else.
* `IsFilter.onlyFilters`: filters are such criteria. In a query, the parts under a connective are
  (`IsQuery.onlyFilters_of_mem_nodes`), since clauses that count for the score are leaves.
-/

namespace SearchQuery

namespace Criteria

/-- The compounds that filters are made of. -/
def isConnective : Criteria → Bool
  | .not _ | .and _ | .or _ => true
  | _ => false

mutual

/-- The criteria and all nodes below it. -/
def nodes : Criteria → List Criteria
  | .not inner => .not inner :: nodes inner
  | .and children => .and children :: nodesOfAll children
  | .or children => .or children :: nodesOfAll children
  | .bool must mustNot should =>
    .bool must mustNot should :: (nodesOfAll must ++ nodesOfAll mustNot ++ nodesOfAll should)
  | .nop children => .nop children :: nodesOfAll children
  | c => [c]

def nodesOfAll : List Criteria → List Criteria
  | [] => []
  | c :: rest => nodes c ++ nodesOfAll rest

end

/-- Nothing at any depth counts for the score or is a place holder. -/
def OnlyFilters (c : Criteria) : Prop :=
  ∀ d ∈ c.nodes, d.isQueryContext = false ∧ d.isNop = false

variable {c d q : Criteria} {cs : List Criteria}

theorem nodesOfAll_eq (cs : List Criteria) : nodesOfAll cs = cs.flatMap nodes := by
  induction cs with
  | nil => rfl
  | cons c rest ih => rw [nodesOfAll, ih, List.flatMap_cons]

theorem mem_nodesOfAll : d ∈ nodesOfAll cs ↔ ∃ c ∈ cs, d ∈ c.nodes := by
  rw [nodesOfAll_eq, List.mem_flatMap]

theorem nodes_of_isFilterLeaf (h : c.isFilterLeaf = true) : c.nodes = [c] := by
  cases c <;> first | rfl | cases h

theorem isConnective_of_isScoringLeaf (h : c.isScoringLeaf = true) : c.isConnective = false := by
  cases c <;> first | rfl | cases h

theorem nodes_of_isScoringLeaf (h : c.isScoringLeaf = true) : c.nodes = [c] := by
  cases c <;> first | rfl | cases h

/-! ### Filters -/

theorem IsFilter.of_mem_nodes (h : c.IsFilter) (hd : d ∈ c.nodes) : d.IsFilter := by
  induction h with
  | leaf hleaf =>
    rw [nodes_of_isFilterLeaf hleaf, List.mem_singleton] at hd
    rw [hd]
    exact .leaf hleaf
  | not hinner ih =>
    rcases List.mem_cons.1 hd with rfl | hd
    · exact .not hinner
    · exact ih hd
  | and hne hchildren ih =>
    rcases List.mem_cons.1 hd with rfl | hd
    · exact .and hne hchildren
    · obtain ⟨c, hc, hd⟩ := mem_nodesOfAll.1 hd
      exact ih c hc hd
  | or hne hchildren ih =>
    rcases List.mem_cons.1 hd with rfl | hd
    · exact .or hne hchildren
    · obtain ⟨c, hc, hd⟩ := mem_nodesOfAll.1 hd
      exact ih c hc hd

theorem IsFilter.onlyFilters (h : c.IsFilter) : c.OnlyFilters := by
  intro d hd
  have hfilter : d.IsFilter := h.of_mem_nodes hd
  exact ⟨hfilter.isQueryContext, hfilter.isNop⟩

/-! ### Queries -/

theorem IsClause.of_mem_nodes (h : c.IsClause) (hd : d ∈ c.nodes) : d.IsClause := by
  rcases h with hfilter | hleaf
  · exact .inl (hfilter.of_mem_nodes hd)
  · rw [nodes_of_isScoringLeaf hleaf, List.mem_singleton] at hd
    rw [hd]
    exact .inr hleaf

/-- Below the root of a query there are clauses only. -/
theorem IsQuery.of_mem_nodes (h : q.IsQuery) (hd : d ∈ q.nodes) : d = q ∨ d.IsClause := by
  cases h with
  | clause hclause => exact .inr (hclause.of_mem_nodes hd)
  | bool hne hclauses =>
    rcases List.mem_cons.1 hd with rfl | hd
    · exact .inl rfl
    · simp only [List.mem_append, mem_nodesOfAll] at hd
      rcases hd with (⟨c, hc, hd⟩ | ⟨c, hc, -⟩) | ⟨c, hc, hd⟩
      · exact .inr ((hclauses c (List.mem_append_left _ hc)).of_mem_nodes hd)
      · cases hc
      · exact .inr ((hclauses c (List.mem_append_right _ hc)).of_mem_nodes hd)

theorem IsClause.isFilter_of_isConnective (h : c.IsClause) (hc : c.isConnective = true) :
    c.IsFilter := by
  rcases h with hfilter | hleaf
  · exact hfilter
  · rw [isConnective_of_isScoringLeaf hleaf] at hc
    cases hc

/-- What stands under a connective of a query only filters. -/
theorem IsQuery.onlyFilters_of_mem_nodes (h : q.IsQuery) (hd : d ∈ q.nodes)
    (hconnective : d.isConnective = true) : d.OnlyFilters := by
  have hclause : d.IsClause := by
    rcases h.of_mem_nodes hd with rfl | hclause
    · cases h with
      | clause hclause => exact hclause
      | bool => cases hconnective
    · exact hclause
  exact (hclause.isFilter_of_isConnective hconnective).onlyFilters

end Criteria

end SearchQuery
