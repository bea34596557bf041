import SearchQuery.Proofs.Plan.RequestShape

/-!
# Leaves of planned requests

A property that the leaves of predicates have, and that passes to merged ranges, is one of every
leaf in the criteria of a planned request, wherever lifting, placing and counting move it.

* `LeafInvariant`: such a property.
* `Formula.split_everyLeaf`, `Placement.EveryLeaf.add`: splitting a predicate and placing what it
  is split into keep it.
* `AggregateQuery.aggregation_everyLeaf`: the criteria that facets count have it.
* `plan_everyLeaf`: so does every criteria of a request, if those that select all documents of a
  type do.
-/

namespace SearchQuery

open Lowered (Connective)

/-- A property of all leaves that predicates and search texts come to, merged or not. -/
structure LeafInvariant (m : FieldMapping) (pathPrefix : String) (P : Criteria → Prop) : Prop
    extends Criteria.KeptByMerging P where
  matchAll : P .matchAll
  field {e : Expression} {field : String} {last : Member} {c : Criteria}
    (hfield : e.field? m pathPrefix = some (field, last)) (h : c.Tests field last) : P c
  text (query : String) : P (.text query)

variable {m : FieldMapping} {pathPrefix : String} {P : Criteria → Prop}

theorem LeafInvariant.everyLeaf_matchAll (hP : LeafInvariant m pathPrefix P) :
    Criteria.matchAll.EveryLeaf P :=
  (Criteria.everyLeaf_of_isLeaf rfl).2 hP.matchAll

theorem LeafInvariant.holdsOfLeaves (hP : LeafInvariant m pathPrefix P) :
    HoldsOfLeaves m pathPrefix (Criteria.EveryLeaf P) where
  always := Criteria.everyLeaf_nop.2 (by simp)
  never := Criteria.everyLeaf_not.2 hP.everyLeaf_matchAll
  field h := by
    obtain ⟨e, field, last, hfield, hasks⟩ := h
    exact hasks.everyLeaf fun d hd => hP.field hfield hd
  text query := (Criteria.everyLeaf_of_isLeaf rfl).2 (hP.text query)

/-! ### Splitting -/

namespace Split

variable {s l r : Split}

/-- What holds of every leaf that remains or is lifted. -/
structure EveryLeaf (P : Criteria → Prop) (s : Split) : Prop where
  rest : s.rest.EveryLeaf P
  lifted : ∀ l ∈ s.lifted, l.2.EveryLeaf P

theorem everyLeaf_combine (hP : Criteria.KeptByMerging P) {op : Connective} {a b c : Criteria}
    (ha : a.EveryLeaf P) (hb : b.EveryLeaf P) (h : op.combine a b = some c) : c.EveryLeaf P := by
  have hboth : ∀ d ∈ [a, b], d.EveryLeaf P := by simpa using ⟨ha, hb⟩
  cases op with
  | and => exact Criteria.EveryLeaf.andAll hP hboth h
  | or => exact Criteria.EveryLeaf.orAll hboth h

namespace EveryLeaf

theorem remainder (hl : l.EveryLeaf P) (hr : r.EveryLeaf P) :
    (Connective.remainder l.rest r.rest).EveryLeaf P := by
  unfold Connective.remainder
  split_ifs
  · exact hl.rest
  · exact hr.rest
  · exact Criteria.everyLeaf_nop.2 (by simpa using ⟨hl.rest, hr.rest⟩)

theorem join (hP : Criteria.KeptByMerging P) {op : Connective} (hl : l.EveryLeaf P)
    (hr : r.EveryLeaf P) (h : Split.join op l r = some s) : s.EveryLeaf P := by
  have hlifted : ∀ x ∈ l.lifted ++ r.lifted, x.2.EveryLeaf P :=
    List.forall_mem_append.2 ⟨hl.lifted, hr.lifted⟩
  rcases join_cases h with ⟨-, rfl⟩ | ⟨-, -, c, hc, rfl⟩
  · refine ⟨hl.remainder hr, List.forall_mem_append.2 ⟨hlifted, fun x hx => ?_⟩⟩
    obtain ⟨c, hc, rfl⟩ := List.mem_map.1 hx
    have hside : c = l.rest ∨ c = r.rest := by simpa using (List.mem_filter.1 hc).1
    rcases hside with rfl | rfl
    · exact hl.rest
    · exact hr.rest
  · refine ⟨?_, hlifted⟩
    rcases Connective.joinFilters_cases hc with ⟨-, rfl⟩ | ⟨-, -, rfl⟩ | ⟨-, -, hcombine⟩
    · exact hr.rest
    · exact hl.rest
    · exact everyLeaf_combine hP hl.rest hr.rest hcombine

theorem negate (hall : Criteria.matchAll.EveryLeaf P) (hs : s.EveryLeaf P)
    (h : s.negate = some r) : r.EveryLeaf P := by
  obtain ⟨-, -, rfl⟩ := negate_cases h
  refine ⟨Criteria.everyLeaf_not.2 ?_, by simp⟩
  split_ifs
  · exact hall
  · exact hs.rest

end EveryLeaf

end Split

theorem Formula.split_everyLeaf (hP : Criteria.KeptByMerging P)
    (hall : Criteria.matchAll.EveryLeaf P) {f : Formula} (hf : ∀ c ∈ f.atoms, c.EveryLeaf P)
    {s : Split} (h : f.split = some s) : s.EveryLeaf P := by
  induction f generalizing s with
  | atom c =>
    cases h
    exact ⟨hf c (by simp [atoms]), by simp⟩
  | not inner ih =>
    obtain ⟨i, hi, hs⟩ := Option.bind_eq_some_iff.1 h
    exact (ih hf hi).negate hall hs
  | join op left right ihl ihr =>
    obtain ⟨hleft, hright⟩ := List.forall_mem_append.1 hf
    obtain ⟨l, hl, h⟩ := Option.bind_eq_some_iff.1 h
    obtain ⟨r, hr, hs⟩ := Option.bind_eq_some_iff.1 h
    exact (ihl hleft hl).join hP (ihr hright hr) hs

/-! ### Placing -/

namespace Placement

variable {p q : Placement} {c : Criteria}

/-- What holds of every leaf of the query and the filter. -/
structure EveryLeaf (P : Criteria → Prop) (p : Placement) : Prop where
  query : ∀ c ∈ p.query, c.EveryLeaf P
  filter : ∀ c ∈ p.filter, c.EveryLeaf P

theorem everyLeaf_empty : empty.EveryLeaf P := by
  constructor <;> simp [empty]

theorem everyLeaf_liftAll {query : Option Criteria} (hquery : ∀ c ∈ query, c.EveryLeaf P)
    {lifted : List (Connective × Criteria)} (h : ∀ l ∈ lifted, l.2.EveryLeaf P) :
    ∀ c ∈ liftAll query lifted, c.EveryLeaf P := by
  induction lifted generalizing query with
  | nil => exact hquery
  | cons l rest ih =>
    rw [List.forall_mem_cons] at h
    refine ih (fun c hc => ?_) h.2
    cases hc
    cases l.1 with
    | and => exact Criteria.EveryLeaf.boolMust hquery h.1
    | or => exact Criteria.EveryLeaf.boolShould hquery h.1

namespace EveryLeaf

theorem score (h : p.EveryLeaf P) (hc : c.EveryLeaf P) : (p.score c).EveryLeaf P := by
  refine ⟨fun q hq => ?_, h.filter⟩
  obtain ⟨query, filter⟩ := p
  cases query with
  | none =>
    cases hq
    exact hc
  | some existing =>
    cases hq
    exact Criteria.EveryLeaf.boolMust h.query hc

theorem restrict (hP : Criteria.KeptByMerging P) (h : p.EveryLeaf P) (hc : c.EveryLeaf P) :
    (p.restrict c).EveryLeaf P := by
  refine ⟨h.query, fun d hd => ?_⟩
  cases hd
  exact Criteria.EveryLeaf.andInto hP h.filter hc

theorem put (hP : Criteria.KeptByMerging P) (h : p.EveryLeaf P) (scores : Bool)
    (hc : c.EveryLeaf P) : (p.put scores c).EveryLeaf P := by
  unfold Placement.put
  split_ifs
  · exact h
  · exact h.score hc
  · exact h.restrict hP hc

theorem add (hP : Criteria.KeptByMerging P) (hall : Criteria.matchAll.EveryLeaf P) {r : Requirement}
    (h : p.EveryLeaf P) (hr : ∀ c ∈ r.formula.atoms, c.EveryLeaf P) (hadd : p.add r = some q) :
    q.EveryLeaf P := by
  obtain ⟨s, hs, rfl⟩ := Option.map_eq_some_iff.1 hadd
  have hsplit := Formula.split_everyLeaf hP hall hr hs
  have hlift : (p.lift s.lifted).EveryLeaf P :=
    ⟨everyLeaf_liftAll h.query hsplit.lifted, h.filter⟩
  exact hlift.put hP r.scores hsplit.rest

end EveryLeaf

theorem foldlM_everyLeaf (hP : Criteria.KeptByMerging P) (hall : Criteria.matchAll.EveryLeaf P)
    {rs : List Requirement} (hrs : ∀ r ∈ rs, ∀ c ∈ r.formula.atoms, c.EveryLeaf P)
    (h : rs.foldlM add empty = some p) : p.EveryLeaf P :=
  foldlM_induct (motive := fun _ q => q.EveryLeaf P) everyLeaf_empty
    (fun _ _ r _ hr hq hadd => hq.add hP hall (hrs r hr) hadd) h

end Placement

theorem Draft.ofChain_everyLeaf {scope : Scope}
    (hP : LeafInvariant scope.mapping scope.pathPrefix P) {chain : Chain} {d : Draft}
    {type : DocumentType} (h : (ofChain scope chain).result = .ok (d, type)) :
    d.placement.EveryLeaf P := by
  obtain ⟨-, rs, hrs, hplaced⟩ := ofChain_placement h
  exact Placement.foldlM_everyLeaf hP.toKeptByMerging hP.everyLeaf_matchAll
    (hP.holdsOfLeaves.stepsRequirements hrs) hplaced

/-! ### Counting -/

theorem Grouping.AsksFor.everyLeaf {g : Grouping} (hP : LeafInvariant g.mapping g.pathPrefix P)
    {call : String × List Expression} {c : Criteria} (h : g.AsksFor call (.matching c)) :
    c.EveryLeaf P := by
  cases h with
  | countWhere _ hlow _ =>
    obtain ⟨f, s, hf, hs, heq⟩ := Expression.lowerLambda_eq_ok_iff.1 hlow
    obtain ⟨rfl, -⟩ := (Lowered.mk.injEq ..).mp heq
    exact (Formula.split_everyLeaf hP.toKeptByMerging hP.everyLeaf_matchAll
      (hP.holdsOfLeaves.lambdaFormula hf) hs).rest

theorem AggregateQuery.aggregation_everyLeaf (hP : LeafInvariant m pathPrefix P)
    {q : AggregateQuery} {aggregation : Aggregation}
    (h : (q.aggregation m pathPrefix).result = .ok aggregation) :
    ∀ facet ∈ aggregation.facets, ∀ c ∈ facet.criteria?, c.EveryLeaf P := by
  intro facet hfacet c hc
  rcases aggregation_criteria h hfacet hc with rfl | ⟨x, call, hcall⟩
  · exact hP.everyLeaf_matchAll
  · exact hcall.everyLeaf hP

theorem Facet.combinedFilter_everyLeaf (hP : Criteria.KeptByMerging P) {facet : Facet}
    (hfacet : ∀ c ∈ facet.criteria?, c.EveryLeaf P) {filter : Option Criteria}
    (hfilter : ∀ c ∈ filter, c.EveryLeaf P) : ∀ c ∈ facet.combinedFilter filter, c.EveryLeaf P := by
  intro c hc
  refine Criteria.EveryLeaf.andAll hP (List.forall_mem_append.2 ⟨fun d hd => ?_, fun d hd => ?_⟩) hc
  · exact hfilter d (Option.mem_toList.1 hd)
  · exact hfacet d (Option.mem_toList.1 hd)

/-! ### Requests -/

/-- What holds of every leaf of the query, the filter and the restrictions of the facets. -/
structure SearchRequest.EveryLeaf (P : Criteria → Prop) (request : SearchRequest) : Prop where
  placement : request.placement.EveryLeaf P
  facets : ∀ facet ∈ request.facets, ∀ c ∈ facet.criteria?, c.EveryLeaf P

/-- All that a request asks of documents. With facets, its filter is written into each of them. -/
inductive SearchRequest.HasCriteria (request : SearchRequest) : Criteria → Prop
  | query {c : Criteria} (h : c ∈ request.query) : HasCriteria request c
  | filter {c : Criteria} (h : c ∈ request.filter) : HasCriteria request c
  | restriction {facet : Facet} {c : Criteria} (hfacet : facet ∈ request.facets)
    (h : c ∈ facet.criteria?) : HasCriteria request c
  | combined {facet : Facet} {c : Criteria} (hfacet : facet ∈ request.facets)
    (h : c ∈ facet.combinedFilter request.filter) : HasCriteria request c

theorem SearchRequest.EveryLeaf.hasCriteria {P : Criteria → Prop} {request : SearchRequest}
    {c : Criteria} (hP : Criteria.KeptByMerging P) (h : request.EveryLeaf P)
    (hc : request.HasCriteria c) : c.EveryLeaf P := by
  cases hc with
  | query hc => exact h.placement.query c hc
  | filter hc => exact h.placement.filter c hc
  | restriction hfacet hc => exact h.facets _ hfacet c hc
  | combined hfacet hc =>
    exact Facet.combinedFilter_everyLeaf hP (h.facets _ hfacet) h.placement.filter c hc

namespace Expression

/-- The property is one of every leaf, unless all documents of a type are asked for. -/
theorem plan_everyLeaf_or {query : Expression} {t : QueryPlan} (hP : LeafInvariant m pathPrefix P)
    (hplan : (query.plan m pathPrefix).result = .ok t) :
    t.request.EveryLeaf P ∨ ∃ type, query.AsksForAll m pathPrefix type ∧ t.request.facets = [] := by
  obtain ⟨folded, hfold, hcases⟩ := plan_cases hplan
  rcases hcases with ⟨q, aggregation, d, type, -, haggregation, hchain, hrequest⟩ |
    ⟨d, type, hhits, hchain, hrequest⟩
  · rw [hrequest]
    exact .inl ⟨Draft.ofChain_everyLeaf hP hchain,
      AggregateQuery.aggregation_everyLeaf hP haggregation⟩
  · have hfacets : d.request.facets = [] := Draft.ofChain_facets hchain
    obtain ⟨hroot, rs, hrs, hplaced⟩ := Draft.ofChain_placement hchain
    have hempty := Placement.isEmpty_foldlM (stepsRequirements_wellFormed hrs) hplaced
    rw [hrequest, Draft.completeFilter]
    split_ifs with hnone
    · refine .inr ⟨type, ⟨folded, rs, hfold, hhits, hroot, hrs, ?_⟩, hfacets⟩
      rw [show d.placement.isEmpty = true from hnone] at hempty
      simpa using hempty
    · refine .inl ⟨Draft.ofChain_everyLeaf hP hchain, ?_⟩
      rw [hfacets]
      simp

/-- So it is, then, wherever the criteria that selects all documents of a type has it. -/
theorem plan_everyLeaf {query : Expression} {t : QueryPlan} (hP : LeafInvariant m pathPrefix P)
    (hall : ∀ type, (m.typeExists type).EveryLeaf P)
    (hplan : (query.plan m pathPrefix).result = .ok t) : t.request.EveryLeaf P := by
  rcases plan_everyLeaf_or hP hplan with h | ⟨type, hasks, hfacets⟩
  · exact h
  · have hplacement := hasks.placement hplan
    refine ⟨?_, by simp [hfacets]⟩
    rw [hplacement]
    exact ⟨by simp, by simpa using hall type⟩

end Expression

end SearchQuery
