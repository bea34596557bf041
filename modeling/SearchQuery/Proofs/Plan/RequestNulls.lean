import SearchQuery.Proofs.Plan.FacetNames
import SearchQuery.Proofs.Plan.Nulls
import SearchQuery.Proofs.Plan.RequestLeaves
import SearchQuery.Proofs.Wire.FacetFilter

/-!
# Null in planned requests

* `Expression.predicates`: the predicates of a query, those of its operators and of its counts.
* `AggregateQuery.aggregation_hasNull`: null gets into the facets through the predicates of counts.
* `plan_nullFree_iff`: a request tests nothing for null exactly where no predicate passes it on.
-/

namespace SearchQuery

open Criteria (not_hasNull_of_isLeaf)

/-! ### Predicates of counts -/

/-- A count of documents that satisfy a criteria with null in it. -/
def Ask.HasNull : Ask → Prop
  | .matching c => c.content.HasNull
  | .groups | .ofField .. => False

namespace Grouping

/-- The predicate of a call that counts with one. -/
def countedPredicate? : String × List Expression → Option Expression
  | (method, [predicate]) =>
    if Statistic.ofMethod? method = some .count then some predicate else none
  | _ => none

theorem AsksFor.hasNull_iff {g : Grouping} {call : String × List Expression} {ask : Ask}
    (h : g.AsksFor call ask) :
    ask.HasNull ↔ ∃ p ∈ countedPredicate? call, p.comparesNull = true := by
  cases h with
  | plainCount hmethod => simp [countedPredicate?, Ask.HasNull]
  | countOfAll hmethod hlow hnop hquery =>
    have hnull := Expression.lowerLambda_hasNull hlow hquery
    rw [Criteria.content_of_isNop hnop] at hnull
    simpa [countedPredicate?, hmethod, Ask.HasNull] using hnull
  | countWhere hmethod hlow hfilter =>
    have hnull := Expression.lowerLambda_hasNull hlow rfl
    simpa [countedPredicate?, hmethod, Ask.HasNull] using hnull
  | statistic hmethod hcount hselector hpath =>
    simp [countedPredicate?, hmethod, hcount, Ask.HasNull]

theorem asks_hasNull_iff {g : Grouping} {called : List (String × List Expression)}
    {asks : List Ask} (h : List.Forall₂ g.AsksFor called asks) :
    (∃ ask ∈ asks, ask.HasNull) ↔
      ∃ p ∈ called.filterMap countedPredicate?, p.comparesNull = true := by
  induction h with
  | nil => simp
  | @cons call ask _ _ hcall _ ih =>
    simp only [List.mem_cons, or_and_right, exists_or, exists_eq_left]
    rw [hcall.hasNull_iff, ih, List.filterMap_cons]
    cases countedPredicate? call <;> simp

end Grouping

theorem GroupKey.facet_matching_criteria (key : GroupKey) (size : Option Nat) (c : Criteria) :
    (key.facet size (.matching c)).criteria? = some c := by
  cases key <;> rfl

/-- The facets count with null exactly where an ask does; one that is the same stands for it. -/
theorem Aggregates.Collects.hasNull_iff {a : Aggregates} {asks : List Ask} (h : a.Collects asks)
    (key : GroupKey) (size : Option Nat) :
    (∃ facet ∈ limitFacets size (a.facets key), ∃ c ∈ facet.criteria?, c.content.HasNull) ↔
      ∃ ask ∈ asks, ask.HasNull := by
  constructor
  · rintro ⟨facet, hfacet, c, hc, hnull⟩
    have hall : c ≠ .matchAll := by
      rintro rfl
      exact Content.not_hasNull_zero hnull
    rcases h.exists_ask hfacet with rfl | ⟨ask, hask, rfl⟩
    · cases (GroupKey.facet_criteria hc).resolve_left hall
    · obtain rfl := (GroupKey.facet_criteria hc).resolve_left hall
      exact ⟨_, hask, hnull⟩
  · rintro ⟨ask, hask, hnull⟩
    cases ask with
    | groups | ofField => exact hnull.elim
    | matching c =>
      obtain ⟨ask', -, hsame, hfacet⟩ := h.exists_facet key size hask
      cases ask' with
      | groups | ofField => exact hsame.elim
      | matching d =>
        exact ⟨_, hfacet, d, GroupKey.facet_matching_criteria key size d,
          (Criteria.hasNull_of_same hsame).2 hnull⟩

namespace AggregateQuery

/-- The predicates of the counts in the projection. -/
def countedPredicates (m : FieldMapping) (pathPrefix : String) (q : AggregateQuery) :
    List Expression :=
  match q.selector.lambda? with
  | some (x, body) =>
    (Grouping.calls ⟨m, pathPrefix, x⟩ body).filterMap Grouping.countedPredicate?
  | none => []

theorem aggregation_hasNull {m : FieldMapping} {pathPrefix : String} {q : AggregateQuery}
    {aggregation : Aggregation} (h : (q.aggregation m pathPrefix).result = .ok aggregation) :
    (∃ facet ∈ aggregation.facets, ∃ c ∈ facet.criteria?, c.content.HasNull) ↔
      ∃ p ∈ q.countedPredicates m pathPrefix, p.comparesNull = true := by
  obtain ⟨x, body, asks, hselector, hasks, -, hfacets⟩ := aggregation_asks h
  rw [hfacets, (Aggregates.collects_foldl asks).hasNull_iff, Grouping.asks_hasNull_iff hasks,
    countedPredicates, hselector]

end AggregateQuery

/-! ### Requests -/

theorem Placement.complete_hasNull (p : Placement) {all : Criteria} (hall : ¬all.content.HasNull) :
    (p.complete all).content.HasNull ↔ p.content.HasNull := by
  unfold complete
  split_ifs with hnone
  · rw [Bool.and_eq_true, Option.isNone_iff_eq_none, Option.isNone_iff_eq_none] at hnone
    simpa [content, hnone.1, hnone.2, Criteria.contentOfOption] using hall
  · rfl

theorem MappingOptions.typeExists_not_hasNull (options : MappingOptions) (type : DocumentType) :
    ¬(options.typeExists type).content.HasNull := by
  unfold MappingOptions.typeExists
  split <;> exact not_hasNull_of_isLeaf rfl rfl

namespace SearchRequest

variable {request : SearchRequest}

/-- Writing the filter into the facets makes no difference. -/
theorem hasNull_iff :
    (∃ c, request.HasCriteria c ∧ c.content.HasNull) ↔
      request.placement.content.HasNull ∨
        ∃ facet ∈ request.facets, ∃ c ∈ facet.criteria?, c.content.HasNull := by
  simp only [Placement.content, Content.hasNull_add, Criteria.hasNull_contentOfOption]
  constructor
  · rintro ⟨c, hc, hnull⟩
    cases hc with
    | query hc => exact .inl (.inl ⟨c, hc, hnull⟩)
    | filter hc => exact .inl (.inr ⟨c, hc, hnull⟩)
    | restriction hfacet hc => exact .inr ⟨_, hfacet, c, hc, hnull⟩
    | combined hfacet hc =>
      rw [(Facet.combinedFilter_keeps hc).hasNull_iff, Content.hasNull_add,
        Criteria.hasNull_contentOfOption, Criteria.hasNull_contentOfOption] at hnull
      exact hnull.imp .inr fun hrestriction => ⟨_, hfacet, hrestriction⟩
  · rintro ((⟨c, hc, hnull⟩ | ⟨c, hc, hnull⟩) | ⟨facet, hfacet, c, hc, hnull⟩)
    · exact ⟨c, .query hc, hnull⟩
    · exact ⟨c, .filter hc, hnull⟩
    · exact ⟨c, .restriction hfacet hc, hnull⟩

theorem Shaped.nullFree_iff (h : request.Shaped) {c : Criteria} (hc : request.HasCriteria c) :
    c.NullFree ↔ ¬c.content.HasNull := by
  cases hc with
  | query hc => exact (h.placement.query c hc).nullFree_iff
  | filter hc => exact (h.placement.filter c hc).nullFree_iff
  | restriction hfacet hc => exact (h.facets _ hfacet c hc).nullFree_iff
  | combined hfacet hc =>
    exact ((h.facets _ hfacet).combinedFilter h.placement.filter c hc).nullFree_iff

end SearchRequest

namespace Expression

/-- The predicates of a query whose constants are folded: those of its operators, and with a
grouping those of the operators below it and of the counts above it. -/
def predicates (m : FieldMapping) (pathPrefix : String) (folded : Expression) : List Expression :=
  match folded.aggregateQuery? with
  | some q => q.source.chain.predicates ++ q.countedPredicates m pathPrefix
  | none => folded.chain.predicates

variable {pathPrefix : String} {query folded : Expression} {t : QueryPlan}

theorem plan_hasNull {options : MappingOptions} {documentPrefix : Option String}
    (hfold : query.fold = .ok folded)
    (hplan : (query.plan (options.mapping documentPrefix) pathPrefix).result = .ok t) :
    (∃ c, t.request.HasCriteria c ∧ c.content.HasNull) ↔
      ∃ p ∈ folded.predicates (options.mapping documentPrefix) pathPrefix,
        p.comparesNull = true := by
  obtain ⟨folded', hfolded', hcases⟩ := plan_cases hplan
  obtain rfl : folded = folded' := Except.ok.inj (hfold.symm.trans hfolded')
  rw [SearchRequest.hasNull_iff, predicates]
  rcases hcases with ⟨q, aggregation, d, type, hquery, haggregation, hchain, hrequest⟩ |
    ⟨d, type, hhits, hchain, hrequest⟩
  · rw [hrequest, hquery]
    simp only [List.mem_append, or_and_right, exists_or]
    exact or_congr (Draft.ofChain_hasNull hchain) (AggregateQuery.aggregation_hasNull haggregation)
  · have hfacets : t.request.facets = [] := by
      rw [hrequest, Draft.completeFilter]
      split_ifs <;> exact Draft.ofChain_facets hchain
    have hplacement : t.request.placement = d.placement.complete (options.typeExists type) := by
      rw [hrequest]
      exact completeFilter_placement ..
    rw [hfacets, hplacement, Placement.complete_hasNull _ (options.typeExists_not_hasNull type),
      hhits, Draft.ofChain_hasNull hchain]
    simp

/-- **Null in planned requests.** Under the conventional mapping with any options, no term, set of
values or range at any depth of what a planned request asks holds null, exactly where no predicate
of the query compares a field with null as if it were a value. -/
theorem plan_nullFree_iff {options : MappingOptions} {documentPrefix : Option String}
    (hfold : query.fold = .ok folded)
    (hplan : (query.plan (options.mapping documentPrefix) pathPrefix).result = .ok t) :
    (∀ c, t.request.HasCriteria c → c.NullFree) ↔
      ∀ p ∈ folded.predicates (options.mapping documentPrefix) pathPrefix,
        p.comparesNull = false := by
  have hshaped : t.request.Shaped := plan_shaped options.typeExists_isFilter hplan
  have hnull := not_congr (plan_hasNull hfold hplan)
  simp only [not_exists, not_and, Bool.not_eq_true] at hnull
  rw [← hnull]
  exact forall₂_congr fun c hc => hshaped.nullFree_iff hc

end Expression

namespace Film

/-- Films with a title that are from 1970 or from a year that is not known. -/
def from1970OrUndated : Expression :=
  (Expression.source documents).filterBy (.lambda "f"
    ((((Expression.parameter "f").member title).notEqual .null).andAlso
      ((Expression.constant (.arr [.null, .int 1970])).contains
        ((Expression.parameter "f").member year))))

/-- Films with a tag or without any. -/
def taggedOrUntagged : Expression :=
  (Expression.source documents).filterBy (.lambda "f"
    (((Expression.parameter "f").member tags).containsAny (.constant (.arr [.null, .str "a"]))))

end Film

namespace Expression

theorem plan_nullFree_iff_film :
    ∃ t, Film.from1970OrUndated.fold = .ok Film.from1970OrUndated ∧
      (Film.from1970OrUndated.plan Film.mapping "").result = .ok t ∧
      t.request.filter = some (.and [.present "title",
        .or [.term "year" Film.year (.int 1970), .missing "year"]]) ∧
      ∀ c, t.request.HasCriteria c → c.NullFree := by
  have hfilter : (Film.from1970OrUndated.plan Film.mapping "").result.toOption.map
      (·.request.filter) = some (some (.and [.present "title",
        .or [.term "year" Film.year (.int 1970), .missing "year"]])) := by decide
  obtain ⟨t, ht, hfilter⟩ := Option.map_eq_some_iff.1 hfilter
  have hplan : (Film.from1970OrUndated.plan Film.mapping "").result = .ok t :=
    toOption_eq_some.1 ht
  have hfold : Film.from1970OrUndated.fold = .ok Film.from1970OrUndated := rfl
  refine ⟨t, hfold, hplan, hfilter, (plan_nullFree_iff hfold hplan).2 ?_⟩
  decide

/-- Null is sent as one of the values, although `contains` on the same list would ask whether the
field is missing. -/
theorem plan_tests_null :
    ∃ t c, (Film.taggedOrUntagged.plan Film.mapping "").result = .ok t ∧
      t.request.HasCriteria c ∧
      .terms "tags" Film.tags [.null, .str "a"] (some .bool) ∈ c.nodes ∧ ¬c.NullFree := by
  have hplanned : (Film.taggedOrUntagged.plan Film.mapping "").result.toOption.map
      (·.request.filter) =
        some (some (.terms "tags" Film.tags [.null, .str "a"] (some .bool))) := by decide
  obtain ⟨t, ht, hfilter⟩ := Option.map_eq_some_iff.1 hplanned
  have hnode : Criteria.terms "tags" Film.tags [.null, .str "a"] (some .bool) ∈
      (Criteria.terms "tags" Film.tags [.null, .str "a"] (some .bool)).nodes :=
    List.mem_singleton_self _
  refine ⟨t, _, toOption_eq_some.1 ht, .filter hfilter, hnode, fun hfree => ?_⟩
  cases hfree _ hnode

end Expression

end SearchQuery
