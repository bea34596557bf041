import SearchQuery.Plan.Query
import SearchQuery.Wire.Format

/-!
# Sessions

A session runs a query through all stages: it plans the query, formats the request, and
materializes each response. A request that cannot be formatted or a response that cannot be
materialized does not end it.
-/

namespace SearchQuery

/-- What a session went through. -/
structure Session where
  observations : List Observation
  /-- The first error of planning and formatting, if there was one. -/
  outcome : Except Error Unit

namespace Session

/-- Run a query on a connection and give it its responses. -/
def run (config : ConnectionConfig) (m : FieldMapping) (pathPrefix : String) (query : Expression)
    (responses : List SearchResponse) : Session :=
  let planned := query.plan m pathPrefix
  match planned.result with
  | .error e => ⟨planned.observations, .error e⟩
  | .ok t =>
    let formatted := t.request.format config m
    ⟨planned.observations ++ formatted.observations ++
      responses.flatMap fun r => (t.materializer.materialize r).observations,
      formatted.result.map fun _ => ()⟩

end Session

end SearchQuery
