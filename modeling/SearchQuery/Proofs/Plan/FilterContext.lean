import SearchQuery.Proofs.Criteria.Nodes
import SearchQuery.Proofs.Plan.RequestShape

/-!
# What counts for the score stays out of filters

A criteria that counts for the score has no place inside a filter, and a place holder has no place
in a request at all. Lowering looks at the root of a criteria only, so what it joins has to be a
filter at every depth.

`plan_onlyFilters`: the filter of a planned request and the restrictions of its facets only filter,
and so does all that stands under a negation, a conjunction or a disjunction of its query.
-/

namespace SearchQuery

namespace Expression

variable {pathPrefix : String} {query : Expression} {t : QueryPlan}

/-- **Filter context stays pure.** Under the conventional mapping with any options, neither the
filter of a planned request nor the restriction of a facet holds at any depth a criteria that counts
for the score or a place holder. In the query, nothing of the kind stands under a connective. -/
theorem plan_onlyFilters {options : MappingOptions} {documentPrefix : Option String}
    (hplan : (query.plan (options.mapping documentPrefix) pathPrefix).result = .ok t) :
    (∀ c ∈ t.request.filter, c.OnlyFilters) ∧
      (∀ facet ∈ t.request.facets, ∀ c ∈ facet.criteria?, c.OnlyFilters) ∧
      ∀ q ∈ t.request.query, ∀ d ∈ q.nodes, d.isConnective = true → d.OnlyFilters := by
  have hshaped : t.request.Shaped := plan_shaped options.typeExists_isFilter hplan
  refine ⟨fun c hc => ?_, fun facet hfacet c hc => ?_, fun q hq d hd hconnective => ?_⟩
  · have hfilter : c.IsFilter := hshaped.placement.filter c hc
    exact hfilter.onlyFilters
  · have hfilter : c.IsFilter := hshaped.facets facet hfacet c hc
    exact hfilter.onlyFilters
  · have hquery : q.IsQuery := hshaped.placement.query q hq
    exact hquery.onlyFilters_of_mem_nodes hd hconnective

end Expression

namespace Film

/-- Made after 1970, or else not in 1960. -/
def lateOrNot1960 : Expression :=
  (((Expression.parameter "f").member year).greaterThan (.constant (.int 1970))).orElse
    (((Expression.parameter "f").member year).equal (.constant (.int 1960))).not

/-- Such films on crime with a word in the title. -/
def lateCrime : Expression :=
  ((Expression.source documents).filterBy
    (.lambda "f" (lateOrNot1960.andAlso (titleContains "Family")))).matchText "crime"

/-- The word is lifted out of the conjunction, and the disjunction stays behind. -/
def crimePlacement : Placement :=
  ⟨some (.bool [.text "crime", .wildcard "title" title "*family*"] [] []),
    some (.or [.range "year" year [⟨.greaterThan, .int 1970⟩],
      .not (.term "year" year (.int 1960))])⟩

end Film

namespace Expression

theorem plan_onlyFilters_film :
    ∃ t, (Film.lateCrime.plan Film.mapping "").result = .ok t ∧
      t.request.placement = Film.crimePlacement ∧
      (∀ c ∈ t.request.filter, c.OnlyFilters) ∧
      ∀ q ∈ t.request.query, ∀ d ∈ q.nodes, d.isConnective = true → d.OnlyFilters := by
  have h : (Film.lateCrime.plan Film.mapping "").result.toOption.map (·.request.placement) =
      some Film.crimePlacement := by decide
  obtain ⟨t, ht, hplacement⟩ := Option.map_eq_some_iff.1 h
  obtain ⟨hfilter, -, hquery⟩ := plan_onlyFilters (toOption_eq_some.1 ht)
  exact ⟨t, toOption_eq_some.1 ht, hplacement, hfilter, hquery⟩

end Expression

end SearchQuery
