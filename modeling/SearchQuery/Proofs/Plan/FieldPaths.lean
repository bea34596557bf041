import SearchQuery.Proofs.Plan.ChainRun
import SearchQuery.Proofs.Plan.RequestLeaves
import SearchQuery.Proofs.Projection.Fields

/-!
# Field paths of planned requests

All parts of a request name fields: its criteria, its sort keys, the fields it asks for, and the
facets. Each path comes from an expression that stands for a field, with one exception. A query that
says nothing about documents asks for all documents of its type, and which field such a criteria
tests is for the mapping to say.

* `SearchRequest.Names`: the paths that a request names.
* `Expression.IsFieldPath`: the paths that expressions stand for.
* `Draft.ListsFields`: so far, sort keys and fields to return are such paths. Every operator keeps
  this.
* `plan_names`: a request names such paths, and those that select all documents of a type.
-/

namespace SearchQuery

/-! ### Paths in a request -/

namespace Criteria

/-- The fields that a leaf names. -/
def ownFields : Criteria → List String
  | .term field _ _ | .terms field _ _ _ | .range field _ _ | .startsWith field _
  | .regexp field _ | .wildcard field _ _ | .present field | .missing field => [field]
  | .queryString _ fields => fields
  | .matchAll | .not _ | .and _ | .or _ | .bool .. | .nop _ => []

/-- The fields that the leaves of a criteria name. -/
def fieldPaths (c : Criteria) : List String := c.nodes.flatMap ownFields

theorem isLeaf_of_mem_ownFields {c : Criteria} {path : String} (h : path ∈ c.ownFields) :
    c.isLeaf = true := by
  cases c <;> first | rfl | cases h

theorem EveryLeaf.fieldPaths {R : String → Prop} {c : Criteria}
    (h : c.EveryLeaf fun d => ∀ path ∈ d.ownFields, R path) : ∀ path ∈ c.fieldPaths, R path := by
  intro path hpath
  obtain ⟨d, hd, hpath⟩ := List.mem_flatMap.1 hpath
  exact h d hd (isLeaf_of_mem_ownFields hpath) path hpath

theorem Tests.ownFields {field : String} {last : Member} {c : Criteria} (h : c.Tests field last) :
    c.ownFields = [field] := by
  cases h <;> rfl

end Criteria

/-- The fields by which a facet forms groups and those that it computes statistics of. -/
def Facet.fieldPaths : Facet → List String
  | .filter .. => []
  | .terms _ fields _ _ | .statistical _ fields _ => fields
  | .termsStats _ keyField valueField _ _ => [keyField, valueField]

/-- The paths that a request names. -/
inductive SearchRequest.Names (request : SearchRequest) : String → Prop
  | criteria {c : Criteria} {path : String} (hc : request.HasCriteria c)
    (hpath : path ∈ c.fieldPaths) : Names request path
  | sort {option : SortOption} (h : option ∈ request.sortOptions) : Names request option.name
  | field {path : String} (h : path ∈ request.fields) : Names request path
  | facet {facet : Facet} {path : String} (hfacet : facet ∈ request.facets)
    (hpath : path ∈ facet.fieldPaths) : Names request path

/-! ### Paths of fields -/

namespace Expression

/-- The path that some expression stands for, which may be metadata of a hit. -/
def IsFieldPath (m : FieldMapping) (pathPrefix path : String) : Prop :=
  ∃ (e : Expression) (last : Member), e.field? m pathPrefix = some (path, last)

variable {m : FieldMapping} {pathPrefix path : String}

theorem isFieldPath_hitField (m : FieldMapping) (pathPrefix : String) (hit : HitField) :
    IsFieldPath m pathPrefix hit.fieldName :=
  ⟨.hitField hit, hit.asMember, rfl⟩

theorem field?_of_memberPath? {e : Expression} {x : String × Member}
    (h : e.memberPath? m pathPrefix = some x) : e.field? m pathPrefix = some x := by
  induction e using field?.induct with
  | case1 hit => cases h
  | case2 operand ih =>
    rw [memberPath?] at h
    rw [field?, ih h]
  | case3 e hhit hconvert =>
    rw [field?]
    · exact h
    all_goals assumption

theorem IsFieldPath.of_memberPath? {e : Expression} {last : Member}
    (h : e.memberPath? m pathPrefix = some (path, last)) : IsFieldPath m pathPrefix path :=
  ⟨e, last, field?_of_memberPath? h⟩

end Expression

open Expression (IsFieldPath)

theorem LeafInvariant.isFieldPath (m : FieldMapping) (pathPrefix : String) :
    LeafInvariant m pathPrefix fun c => ∀ path ∈ c.ownFields, IsFieldPath m pathPrefix path where
  -- a merged range stays on its field
  merge _ hbounds _ := hbounds
  matchAll := by simp [Criteria.ownFields]
  field hfield h := by
    rw [h.ownFields]
    exact List.forall_mem_singleton.2 ⟨_, _, hfield⟩
  text query := by simp [Criteria.text, Criteria.ownFields]

/-! ### Selected fields -/

theorem Text.mem_foldl_pushNew {texts more : List String} {s : String} :
    s ∈ more.foldl pushNew texts ↔ s ∈ texts ∨ s ∈ more := by
  induction more generalizing texts with
  | nil => simp
  | cons t rest ih => rw [List.foldl_cons, ih, mem_pushNew, or_assoc, List.mem_cons]

/-- Binding asks for paths of fields only. -/
theorem Selection.bindCases_isFieldPath (s : Selection) :
    BindCases s fun fields fields' _ _ =>
      (∀ path ∈ fields, IsFieldPath s.mapping s.pathPrefix path) →
        ∀ path ∈ fields', IsFieldPath s.mapping s.pathPrefix path where
  nothing _ h := h
  document _ _ h := h
  field _ {_ _ _} _ hpath h path hmem := by
    rcases Text.mem_pushNew.1 hmem with hmem | rfl
    · exact h path hmem
    · exact .of_memberPath? hpath
  append h h' hfields := h' (h hfields)

theorem Projection.ofSelector_fields {m : FieldMapping} {pathPrefix : String}
    {documentPrefix : Option String} {selector : Expression} {p : Projection}
    (h : ofSelector m pathPrefix documentPrefix selector = .ok p) :
    ∀ path ∈ p.fields, IsFieldPath m pathPrefix path := by
  unfold ofSelector at h
  split at h
  · rename_i x body _
    obtain ⟨⟨node, fields⟩, hbind, h⟩ := bind_eq_ok.1 h
    cases h
    exact (Selection.bindCases_isFieldPath _).bind [] body _ hbind (by simp)
  · cases h

/-! ### Sort keys and fields of a draft -/

namespace Draft

variable {scope : Scope} {d d' : Draft}

/-- The sort keys and the fields to return are paths of fields. -/
structure ListsFields (scope : Scope) (d : Draft) : Prop where
  sort : ∀ option ∈ d.request.sortOptions,
    IsFieldPath scope.mapping scope.pathPrefix option.name
  fields : ∀ path ∈ d.request.fields, IsFieldPath scope.mapping scope.pathPrefix path

theorem listsFields_empty (scope : Scope) : empty.ListsFields scope := by
  constructor <;> simp [empty, SearchRequest.empty]

namespace ListsFields

theorem addSort (h : d.ListsFields scope) {option : SortOption}
    (hname : IsFieldPath scope.mapping scope.pathPrefix option.name) :
    (d.addSort option).ListsFields scope :=
  ⟨List.forall_mem_cons.2 ⟨hname, h.sort⟩, h.fields⟩

theorem sortBy (h : d.ListsFields scope) {key : Expression} {ascending : Bool}
    (hd' : d.sortBy scope key ascending = .ok d') : d'.ListsFields scope := by
  unfold Draft.sortBy at hd'
  split at hd'
  · cases hd'
  · split at hd'
    · rename_i hfield
      cases hd'
      exact h.addSort ⟨_, _, hfield⟩
    · cases hd'

theorem select (h : d.ListsFields scope) {selector : Expression}
    (hd' : d.select scope selector = .ok d') : d'.ListsFields scope := by
  unfold Draft.select at hd'
  split_ifs at hd'
  obtain ⟨p, hp, hd'⟩ := bind_eq_ok.1 hd'
  cases hd'
  refine ⟨h.sort, fun path hpath => ?_⟩
  rcases Text.mem_foldl_pushNew.1 hpath with hpath | hpath
  · exact h.fields path hpath
  · exact Projection.ofSelector_fields hp path hpath

theorem setTerminal (h : d.ListsFields scope) {method : String} {t : Terminal}
    (hd' : (d.setTerminal method t).result = .ok d') : d'.ListsFields scope := by
  unfold Draft.setTerminal at hd'
  split at hd' <;> cases hd'
  · exact h
  · exact ⟨h.sort, h.fields⟩

theorem filterBy (h : d.ListsFields scope) {predicate : Expression}
    (hd' : (d.filterBy scope predicate).result = .ok d') : d'.ListsFields scope := by
  obtain ⟨f, p, -, -, rfl⟩ := filterBy_eq_ok_iff.1 hd'
  exact ⟨h.sort, h.fields⟩

/-- Every operator adds paths of fields at most. -/
theorem apply (h : d.ListsFields scope) {op : Operator}
    (hd' : (d.apply scope op).result = .ok d') : d'.ListsFields scope := by
  cases op with
  | filterBy predicate => exact h.filterBy hd'
  | scoreBy predicate =>
    obtain ⟨f, p, -, -, rfl⟩ := scoreBy_eq_ok_iff.1 hd'
    exact ⟨h.sort, h.fields⟩
  | sortBy key ascending => exact h.sortBy hd'
  | sortByScore ascending =>
    cases hd'
    exact h.addSort (Expression.isFieldPath_hitField _ _ .score)
  | select selector => exact h.select hd'
  | terminal method t predicate =>
    cases predicate with
    | none => exact h.setTerminal hd'
    | some predicate =>
      obtain ⟨d₁, hd₁, hd'⟩ := Traced.bind_eq_ok.1 hd'
      exact (h.setTerminal hd₁).filterBy hd'
  | matchText text | skip count | take count | retype =>
    cases hd'
    exact ⟨h.sort, h.fields⟩

end ListsFields

theorem ofChain_listsFields {chain : Chain} {type : DocumentType}
    (h : (ofChain scope chain).result = .ok (d, type)) : d.ListsFields scope := by
  obtain ⟨d₁, hsteps, h⟩ := Traced.bind_eq_ok.1 h
  obtain ⟨type', -, h⟩ := Traced.bind_eq_ok.1 h
  cases h
  obtain ⟨-, -, hd₁⟩ := applySteps_induct (motive := fun _ d => d.ListsFields scope)
    (listsFields_empty scope) (fun _ _ _ _ hd hop => hd.apply hop) hsteps
  exact ⟨hd₁.sort, hd₁.fields⟩

end Draft

/-! ### Facets -/

namespace AggregateQuery

variable {m : FieldMapping} {pathPrefix path : String} {q : AggregateQuery}
  {aggregation : Aggregation}

theorem ofSelector_isFieldPath {selector : Expression}
    (h : GroupKey.ofSelector m pathPrefix selector = .ok (.field path)) :
    IsFieldPath m pathPrefix path := by
  unfold GroupKey.ofSelector at h
  split at h
  · cases h
  · split at h
    · cases h
    · rename_i hpath
      cases h
      exact .of_memberPath? hpath
    · cases h

/-- The fields of a facet are that of the group key and that of a statistic. -/
theorem mem_fieldPaths_facet {key : GroupKey} {size : Option Nat} {ask : Ask}
    (h : path ∈ (key.facet size ask).fieldPaths) :
    key = .field path ∨ ∃ s, ask = .ofField path s := by
  cases key with
  | field key =>
    cases ask with
    | ofField path' s =>
      have hpath : path = key ∨ path = path' := by simpa [GroupKey.facet, Facet.fieldPaths] using h
      rcases hpath with rfl | rfl
      · exact .inl rfl
      · exact .inr ⟨s, rfl⟩
    | groups | matching _ =>
      obtain rfl : path = key := by simpa [GroupKey.facet, Facet.fieldPaths] using h
      exact .inl rfl
  | constant v =>
    cases ask with
    | ofField path' s =>
      obtain rfl : path = path' := by simpa [GroupKey.facet, Facet.fieldPaths] using h
      exact .inr ⟨s, rfl⟩
    | groups | matching _ => cases h

theorem aggregation_isFieldPath (h : (q.aggregation m pathPrefix).result = .ok aggregation)
    {facet : Facet} (hfacet : facet ∈ aggregation.facets) (hpath : path ∈ facet.fieldPaths) :
    IsFieldPath m pathPrefix path := by
  obtain ⟨x, ask, rfl, hask⟩ := exists_ask h hfacet
  rcases mem_fieldPaths_facet hpath with hkey | ⟨s, rfl⟩
  · exact ofSelector_isFieldPath ((aggregation_key h).trans (congrArg _ hkey))
  · rcases hask with hgroups | ⟨call, hcall⟩
    · cases hgroups
    · cases hcall with
      | statistic _ _ _ hfield => exact .of_memberPath? hfield

end AggregateQuery

/-! ### Requests -/

namespace Expression

variable {m : FieldMapping} {pathPrefix path : String} {query : Expression} {t : QueryPlan}

/-- So are those of a request. -/
theorem plan_listsFields (hplan : (query.plan m pathPrefix).result = .ok t) :
    (∀ option ∈ t.request.sortOptions, IsFieldPath m pathPrefix option.name) ∧
      ∀ path ∈ t.request.fields, IsFieldPath m pathPrefix path := by
  obtain ⟨folded, -, hcases⟩ := plan_cases hplan
  rcases hcases with ⟨q, aggregation, d, type, -, -, hchain, hrequest⟩ |
    ⟨d, type, -, hchain, hrequest⟩
  · rw [hrequest]
    exact ⟨(Draft.ofChain_listsFields hchain).sort, (Draft.ofChain_listsFields hchain).fields⟩
  · rw [hrequest, Draft.completeFilter]
    split_ifs <;>
      exact ⟨(Draft.ofChain_listsFields hchain).sort, (Draft.ofChain_listsFields hchain).fields⟩

theorem plan_facets_isFieldPath (hplan : (query.plan m pathPrefix).result = .ok t) {facet : Facet}
    (hfacet : facet ∈ t.request.facets) (hpath : path ∈ facet.fieldPaths) :
    IsFieldPath m pathPrefix path := by
  obtain ⟨folded, -, hcases⟩ := plan_cases hplan
  rcases hcases with ⟨q, aggregation, d, type, -, haggregation, -, hrequest⟩ |
    ⟨d, type, -, hchain, hrequest⟩
  · rw [hrequest] at hfacet
    exact AggregateQuery.aggregation_isFieldPath haggregation hfacet hpath
  · have hnone : t.request.facets = [] := by
      rw [hrequest, Draft.completeFilter]
      split_ifs <;> exact Draft.ofChain_facets hchain
    rw [hnone] at hfacet
    cases hfacet

/-- **Paths of a request.** Each path that a request names is that of an expression, or all
documents of a type are asked for and the path is of the criteria that selects them. -/
theorem plan_names (hplan : (query.plan m pathPrefix).result = .ok t)
    (h : t.request.Names path) :
    IsFieldPath m pathPrefix path ∨
      ∃ type, query.AsksForAll m pathPrefix type ∧ path ∈ (m.typeExists type).fieldPaths := by
  cases h with
  | criteria hc hpath =>
    have hP := LeafInvariant.isFieldPath m pathPrefix
    rcases plan_everyLeaf_or hP hplan with hleaves | ⟨type, hasks, hfacets⟩
    · exact .inl ((hleaves.hasCriteria hP.toKeptByMerging hc).fieldPaths path hpath)
    · -- there is nothing but the filter that completes the request
      obtain ⟨hquery, hfilter⟩ := (Placement.mk.injEq ..).mp (hasks.placement hplan)
      refine .inr ⟨type, hasks, ?_⟩
      cases hc with
      | query hc =>
        rw [hquery] at hc
        cases hc
      | filter hc =>
        rw [hfilter] at hc
        cases hc
        exact hpath
      | restriction hfacet | combined hfacet =>
        rw [hfacets] at hfacet
        cases hfacet
  | sort hoption => exact .inl ((plan_listsFields hplan).1 _ hoption)
  | field hpath => exact .inl ((plan_listsFields hplan).2 path hpath)
  | facet hfacet hpath => exact .inl (plan_facets_isFieldPath hplan hfacet hpath)

end Expression

end SearchQuery
