import SearchQuery.Observation.Basic
import SearchQuery.Projection.Basic

/-!
# Materializing responses

A materializer, fixed when the query is planned, turns a response into the result of the query:
a value per hit, one value, the number of hits, or a value per group.
-/

namespace SearchQuery

inductive Materializer where
  | manyHits (projector : Projector)
  | oneHit (projector : Projector) (strict orDefault : Bool)
  | count
  | manyFacets (projector : FacetProjector)

inductive Materialized where
  | many (values : List Json)
  | one (value : Json)
  | count (total : Nat)
  deriving DecidableEq

namespace Materialized

def toJson : Materialized → Json
  | .many values => .arr values
  | .one v => v
  | .count total => .int total

/-- The result as a value of another type. -/
def read {α : Type} (reader : Json → Option α) (result : Materialized) : Except Error α :=
  match reader result.toJson with
  | some a => .ok a
  | none => .error .mistyped

end Materialized

namespace Materializer

def name : Materializer → String
  | .manyHits _ => "many_hits"
  | .oneHit .. => "one_hit"
  | .count => "count"
  | .manyFacets _ => "many_facets"

/-- The one hit of a response, subject to how many there are. -/
def applyOne (projector : Projector) (strict orDefault : Bool) (hits : List Hit) :
    Except Error Materialized :=
  if strict && 1 < hits.length then .error .multipleResults
  else
    match hits with
    | hit :: _ => (projector.project hit).map .one
    | [] => if orDefault then .ok (.one .null) else .error .noResult

/-- The result that a response holds. -/
def apply (materializer : Materializer) (response : SearchResponse) :
    Except Error Materialized :=
  match materializer with
  | .manyHits projector => (response.hits.hits.mapM projector.project).map .many
  | .oneHit projector strict orDefault => applyOne projector strict orDefault response.hits.hits
  | .count => .ok (.count response.hits.total)
  | .manyFacets projector => (projector.project response.facets).map .many

/-- What is observed when a result has been built. -/
def outcome (name : String) : Except Error Materialized → List Observation
  | .ok (.many values) =>
    [.measured (.materialized name "success"), .measured (.items values.length)]
  | .ok _ => [.measured (.materialized name "success")]
  | .error e =>
    [.event (.materializationFailed e), .measured (.materialized name e.kind.label)]

/-- Build the result and observe it. -/
def materialize (materializer : Materializer) (response : SearchResponse) :
    Traced Materialized :=
  Traced.finish
    (do
      Traced.event (.materializing materializer.name)
      Traced.ofExcept (materializer.apply response))
    (outcome materializer.name)

end Materializer

end SearchQuery
