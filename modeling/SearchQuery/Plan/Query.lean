import SearchQuery.Expression.Folding
import SearchQuery.Plan.Draft

/-!
# Planning queries

`Expression.plan` turns a query into a search request and the materializer that reads the response.
Constants are folded first. An aggregate query becomes facets over the query below its grouping;
any other query is a chain of operators on hits.
-/

namespace SearchQuery

/-- A search request and how to read its response. -/
structure QueryPlan where
  request : SearchRequest
  materializer : Materializer

namespace Expression

/-- Plan a chain of operators on hits. -/
def planChain (s : Scope) (e : Expression) : Traced QueryPlan := do
  let (d, type) ← Draft.ofChain s e.chain
  return ⟨Draft.completeFilter s.mapping type d.request, d.materializer s⟩

/-- Plan an aggregate query. -/
def planAggregate (s : Scope) (q : AggregateQuery) : Traced QueryPlan := do
  let aggregation ← q.aggregation s.mapping s.pathPrefix
  let (d, _) ← Draft.ofChain s q.source.chain
  Traced.event (.extractedFacets aggregation.facets.length)
  Traced.measure (.facets aggregation.facets.length)
  return ⟨{ d.request with facets := aggregation.facets, searchType := some "count" },
    .manyFacets aggregation.projector⟩

/-- Plan an expression whose constants are folded. -/
def planFolded (m : FieldMapping) (pathPrefix : String) (e : Expression) :
    Traced QueryPlan :=
  let s : Scope := ⟨m, pathPrefix, e.chainSource?.bind m.documentPrefix⟩
  match e.aggregateQuery? with
  | some q => planAggregate s q
  | none => planChain s e

/-- What is observed when planning ends. -/
def planOutcome : Except Error QueryPlan → List Observation
  | .ok t =>
    [.measured (.planned "success"),
      .event (.planned t.materializer.name t.request.facets.length),
      .measured (.duration .plan)]
  | .error e =>
    [.measured (.planned e.kind.label), .event (.planningFailed e),
      .measured (.duration .plan)]

/-- Plan a query; all its fields lie under the given path. -/
def plan (m : FieldMapping) (pathPrefix : String) (query : Expression) :
    Traced QueryPlan :=
  Traced.finish
    (do
      Traced.event (.planning pathPrefix)
      let folded ← Traced.ofExcept (query.fold.mapError .evaluation)
      folded.planFolded m pathPrefix)
    planOutcome

end Expression

end SearchQuery
