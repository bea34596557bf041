import SearchQuery.Proofs.Plan.FacetReads
import SearchQuery.Proofs.Wire.Writable

/-!
# The shape of planned requests

Whatever is planned can be written.

* `Placement.Shaped`: the query is one clause or a bool node over clauses, and the filter is a
  filter. Each requirement that is added keeps this.
* `AggregateQuery.aggregation_filters`: so is whatever a facet is restricted to.
* `plan_formats`: so the request of a plan has both written forms, whatever the connection.
-/

namespace SearchQuery

open Lowered (Connective)

/-! ### Query and filter -/

structure Placement.Shaped (p : Placement) : Prop where
  query : ∀ c ∈ p.query, c.IsQuery
  filter : ∀ c ∈ p.filter, c.IsFilter

namespace Placement

variable {p q : Placement} {c : Criteria}

theorem shaped_empty : empty.Shaped := by
  constructor <;> simp [empty]

theorem isQuery_liftAll {query : Option Criteria} (hquery : ∀ q ∈ query, q.IsQuery)
    {lifted : List (Connective × Criteria)} (h : ∀ l ∈ lifted, l.2.isScoringLeaf = true) :
    ∀ q ∈ liftAll query lifted, q.IsQuery := by
  induction lifted generalizing query with
  | nil => exact hquery
  | cons l rest ih =>
    rw [List.forall_mem_cons] at h
    refine ih (fun q hq => ?_) h.2
    cases hq
    cases l.1 with
    | and => exact Criteria.IsQuery.boolMust hquery (.inr h.1)
    | or => exact Criteria.IsQuery.boolShould hquery (.inr h.1)

theorem Shaped.score (h : p.Shaped) (hc : c.IsClause) : (p.score c).Shaped := by
  refine ⟨fun q hq => ?_, h.filter⟩
  obtain ⟨query, filter⟩ := p
  cases query with
  | none =>
    cases hq
    exact .clause hc
  | some existing =>
    cases hq
    exact Criteria.IsQuery.boolMust h.query hc

theorem Shaped.restrict (h : p.Shaped) (hc : c.IsFilter) : (p.restrict c).Shaped := by
  refine ⟨h.query, fun d hd => ?_⟩
  cases hd
  exact Criteria.IsFilter.andInto h.filter hc

theorem Shaped.put (h : p.Shaped) (scores : Bool) (hc : c.IsClause ∨ c.isNop = true) :
    (p.put scores c).Shaped := by
  unfold Placement.put
  split_ifs with hnop hscores
  · exact h
  · exact h.score (hc.resolve_right hnop)
  · refine h.restrict ?_
    rw [Bool.or_eq_true, not_or, Bool.not_eq_true, Bool.not_eq_true] at hscores
    rcases hc.resolve_right hnop with hfilter | hleaf
    · exact hfilter
    · rw [Criteria.isQueryContext_of_isScoringLeaf hleaf] at hscores
      cases hscores.2

theorem Shaped.add {r : Requirement} (h : p.Shaped) (hr : r.formula.WellFormed)
    (hadd : p.add r = some q) : q.Shaped := by
  obtain ⟨s, hs, rfl⟩ := Option.map_eq_some_iff.1 hadd
  have hshaped := Formula.split_shaped hr hs
  have hlift : (p.lift s.lifted).Shaped := ⟨isQuery_liftAll h.query hshaped.lifted, h.filter⟩
  exact hlift.put r.scores hshaped.rest

theorem foldlM_shaped {rs : List Requirement} (hrs : ∀ r ∈ rs, r.formula.WellFormed)
    (h : rs.foldlM Placement.add empty = some p) : p.Shaped :=
  foldlM_induct (motive := fun _ q => q.Shaped) shaped_empty
    (fun _ _ r _ hr hq hadd => hq.add (hrs r hr) hadd) h

end Placement

/-! ### Facets -/

/-- What the facet is restricted to is a filter. -/
def Facet.Filters (facet : Facet) : Prop := ∀ c ∈ facet.criteria?, c.IsFilter

theorem Facet.Filters.combinedFilter {facet : Facet} (h : facet.Filters) {filter : Option Criteria}
    (hfilter : ∀ c ∈ filter, c.IsFilter) : ∀ c ∈ facet.combinedFilter filter, c.IsFilter := by
  intro c hc
  refine Criteria.IsFilter.andAll (fun d hd => ?_) hc
  rcases List.mem_append.1 hd with hd | hd
  · exact hfilter d (Option.mem_toList.1 hd)
  · exact h d (Option.mem_toList.1 hd)

/-- A facet is restricted to nothing, to all documents, or to the criteria that is counted. -/
theorem GroupKey.facet_criteria {key : GroupKey} {size : Option Nat} {ask : Ask} {c : Criteria}
    (hc : c ∈ (key.facet size ask).criteria?) : c = .matchAll ∨ ask = .matching c := by
  cases ask with
  | groups =>
    cases key with
    | field key => cases hc
    | constant v => exact .inl (Option.some.inj hc).symm
  | ofField path s => cases key <;> cases hc
  | matching d => cases key <;> exact .inr (congrArg Ask.matching (Option.some.inj hc))

/-- What a facet is restricted to is what a count asks for. -/
theorem AggregateQuery.aggregation_criteria {m : FieldMapping} {pathPrefix : String}
    {q : AggregateQuery} {aggregation : Aggregation}
    (h : (q.aggregation m pathPrefix).result = .ok aggregation) {facet : Facet}
    (hfacet : facet ∈ aggregation.facets) {c : Criteria} (hc : c ∈ facet.criteria?) :
    c = .matchAll ∨ ∃ x call, Grouping.AsksFor ⟨m, pathPrefix, x⟩ call (.matching c) := by
  obtain ⟨x, ask, rfl, hask⟩ := exists_ask h hfacet
  refine (GroupKey.facet_criteria hc).imp_right ?_
  rintro rfl
  rcases hask with hgroups | ⟨call, hcall⟩
  · cases hgroups
  · exact ⟨x, call, hcall⟩

theorem AggregateQuery.aggregation_filters {m : FieldMapping} {pathPrefix : String}
    {q : AggregateQuery} {aggregation : Aggregation}
    (h : (q.aggregation m pathPrefix).result = .ok aggregation) :
    ∀ facet ∈ aggregation.facets, facet.Filters := by
  intro facet hfacet c hc
  rcases aggregation_criteria h hfacet hc with rfl | ⟨x, call, hcall⟩
  · exact .leaf rfl
  · cases hcall with
    | countWhere _ _ hfilter => exact hfilter

/-! ### Requests -/

/-- The query, the filter and the restrictions of the facets have their shapes. -/
structure SearchRequest.Shaped (request : SearchRequest) : Prop where
  placement : request.placement.Shaped
  facets : ∀ facet ∈ request.facets, facet.Filters

theorem SearchRequest.Shaped.writable {request : SearchRequest} (h : request.Shaped) :
    request.Writable where
  query c hc := (h.placement.query c hc).writable
  filter c hc := (h.placement.filter c hc).writable
  facets facet hfacet c hc :=
    ((h.facets facet hfacet).combinedFilter h.placement.filter c hc).writable

theorem MappingOptions.typeExists_isFilter (options : MappingOptions) (type : DocumentType) :
    (options.typeExists type).IsFilter := by
  unfold MappingOptions.typeExists
  split <;> exact .leaf rfl

namespace Draft

variable {scope : Scope} {d d' : Draft}

theorem setTerminal_facets {method : String} {t : Terminal}
    (h : (d.setTerminal method t).result = .ok d') :
    d'.request.facets = d.request.facets := by
  unfold setTerminal at h
  split at h <;> cases h <;> rfl

/-- No operator asks for facets. -/
theorem apply_facets {op : Operator} (h : (d.apply scope op).result = .ok d') :
    d'.request.facets = d.request.facets := by
  cases op with
  | filterBy predicate =>
    obtain ⟨f, p, -, -, rfl⟩ := filterBy_eq_ok_iff.1 h
    rfl
  | scoreBy predicate =>
    obtain ⟨f, p, -, -, rfl⟩ := scoreBy_eq_ok_iff.1 h
    rfl
  | sortBy key ascending =>
    rw [apply, Traced.result_ofExcept, sortBy] at h
    split at h
    · cases h
    · split at h <;> cases h
      rfl
  | select selector =>
    rw [apply, Traced.result_ofExcept, select] at h
    split_ifs at h
    obtain ⟨p, -, h⟩ := bind_eq_ok.1 h
    cases h
    rfl
  | terminal method t predicate =>
    cases predicate with
    | none => exact setTerminal_facets h
    | some predicate =>
      obtain ⟨d₁, hd₁, h⟩ := Traced.bind_eq_ok.1 h
      obtain ⟨f, p, -, -, rfl⟩ := filterBy_eq_ok_iff.1 h
      show d₁.request.facets = _
      exact setTerminal_facets hd₁
  | matchText | sortByScore | skip | take | retype =>
    cases h
    rfl

theorem applySteps_facets {steps : List (String × List Expression)}
    (h : (d.applySteps scope steps).result = .ok d') :
    d'.request.facets = d.request.facets := by
  induction steps generalizing d with
  | nil =>
    cases h
    rfl
  | cons step rest ih =>
    obtain ⟨d₁, hstep, h⟩ := Traced.bind_eq_ok.1 h
    obtain ⟨op, -, hop⟩ := Traced.bind_eq_ok.1 hstep
    rw [ih h, apply_facets hop]

theorem ofChain_facets {chain : Chain} {type : DocumentType}
    (h : (ofChain scope chain).result = .ok (d, type)) : d.request.facets = [] := by
  obtain ⟨d₁, hsteps, h⟩ := Traced.bind_eq_ok.1 h
  obtain ⟨_, -, h⟩ := Traced.bind_eq_ok.1 h
  cases h
  exact applySteps_facets hsteps

theorem ofChain_shaped {chain : Chain} {type : DocumentType}
    (h : (ofChain scope chain).result = .ok (d, type)) : d.request.Shaped := by
  obtain ⟨-, rs, hrs, hplaced⟩ := ofChain_placement h
  refine ⟨Placement.foldlM_shaped (stepsRequirements_wellFormed hrs) hplaced, ?_⟩
  rw [ofChain_facets h]
  simp

theorem completeFilter_shaped {m : FieldMapping} {type : DocumentType} {request : SearchRequest}
    (hall : (m.typeExists type).IsFilter) (h : request.Shaped) :
    (completeFilter m type request).Shaped := by
  unfold completeFilter
  split_ifs
  · refine ⟨⟨h.placement.query, fun c hc => ?_⟩, h.facets⟩
    cases hc
    exact hall
  · exact h

end Draft

namespace Expression

variable {m : FieldMapping} {pathPrefix : String} {query : Expression} {t : QueryPlan}

/-- Every planned request has its shape, where the mapping selects the documents of a type by a
filter. -/
theorem plan_shaped (hall : ∀ type, (m.typeExists type).IsFilter)
    (hplan : (query.plan m pathPrefix).result = .ok t) : t.request.Shaped := by
  obtain ⟨folded, -, hcases⟩ := plan_cases hplan
  rcases hcases with ⟨q, aggregation, d, type, -, haggregation, hchain, hrequest⟩ |
    ⟨d, type, -, hchain, hrequest⟩
  · rw [hrequest]
    exact ⟨(Draft.ofChain_shaped hchain).placement,
      AggregateQuery.aggregation_filters haggregation⟩
  · rw [hrequest]
    exact Draft.completeFilter_shaped (hall type) (Draft.ofChain_shaped hchain)

/-- **Whatever is planned can be written.** Under the conventional mapping with any options, the
request of a plan has a body, an address and a chosen form for every connection. -/
theorem plan_formats {options : MappingOptions} {documentPrefix : Option String}
    (hplan : (query.plan (options.mapping documentPrefix) pathPrefix).result = .ok t)
    (config : ConnectionConfig) :
    (∃ body, t.request.postBody config (options.mapping documentPrefix) = .ok body) ∧
      (∃ uri, t.request.getUri config (options.mapping documentPrefix) = .ok uri) ∧
      ∃ f, (t.request.format config (options.mapping documentPrefix)).result = .ok f := by
  have hwritable := (plan_shaped options.typeExists_isFilter hplan).writable
  exact ⟨hwritable.exists_postBody config, hwritable.exists_getUri config,
    hwritable.exists_format config⟩

theorem plan_formats_film :
    ∃ t, (Film.query.plan Film.mapping "").result = .ok t ∧
      ∀ config, (∃ body, t.request.postBody config Film.mapping = .ok body) ∧
        (∃ uri, t.request.getUri config Film.mapping = .ok uri) ∧
        ∃ f, (t.request.format config Film.mapping).result = .ok f := by
  obtain ⟨t, ht, -⟩ := Film.plan_query
  exact ⟨t, ht, plan_formats ht⟩

end Expression

end SearchQuery
