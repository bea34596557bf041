import SearchQuery.Json.Field
import SearchQuery.Text.Search

/-!
# Search responses

What the search engine answers: the hits of a page with the total over all pages, and the facets by
name. Everything but the statistics of shards may be missing in the JSON form.
-/

namespace SearchQuery

structure ShardStatistics where
  total : Nat
  successful : Nat
  failed : Nat
  deriving DecidableEq

/-- A document that was found. -/
structure Hit where
  index : String
  documentType : String
  id : String
  score : Option Binary64
  /-- The whole document, if the engine sent it. -/
  source : Option Json
  /-- The fields that were asked for; the engine sends each as an array. -/
  fields : List (String × Json)
  deriving DecidableEq

structure Hits where
  /-- The number of all hits, whatever the page. -/
  total : Nat
  maxScore : Option Binary64
  hits : List Hit
  deriving DecidableEq

def Hits.empty : Hits := ⟨0, none, []⟩

structure SearchResponse where
  took : Nat
  timedOut : Bool
  shards : Option ShardStatistics
  hits : Hits
  facets : List (String × Json)
  deriving DecidableEq

/-- The value at a dotted path through nested objects; the empty path is the value itself. -/
def Json.atPath? (path : String) (v : Json) : Option Json :=
  if path.isEmpty then some v
  else (Text.split '.' path).foldlM (fun current segment => current.member? segment) v

/-! ## Reading -/

def ShardStatistics.ofJson? (v : Json) : Option ShardStatistics := do
  let members ← v.members?
  return {
    total := ← Json.field "total" Json.nat64? members
    successful := ← Json.field "successful" Json.nat64? members
    failed := ← Json.field "failed" Json.nat64? members }

/-- A value that may be anything; null stands for nothing. -/
def Json.present? (v : Json) : Option (Option Json) := Json.nullable some v

def Hit.ofJson? (v : Json) : Option Hit := do
  let members ← v.members?
  return {
    index := ← Json.fieldOr "_index" "" Json.text? members
    documentType := ← Json.fieldOr "_type" "" Json.text? members
    id := ← Json.fieldOr "_id" "" Json.text? members
    score := ← Json.fieldOr "_score" none (Json.nullable Json.float?) members
    source := ← Json.fieldOr "_source" none Json.present? members
    fields := ← Json.fieldOr "fields" [] Json.members? members }

def Hits.ofJson? (v : Json) : Option Hits := do
  let members ← v.members?
  return {
    total := ← Json.fieldOr "total" 0 Json.nat64? members
    maxScore := ← Json.fieldOr "max_score" none (Json.nullable Json.float?) members
    hits := ← Json.fieldOr "hits" [] (fun v => v.items?.bind (·.mapM Hit.ofJson?)) members }

def SearchResponse.ofJson? (v : Json) : Option SearchResponse := do
  let members ← v.members?
  return {
    took := ← Json.fieldOr "took" 0 Json.nat64? members
    timedOut := ← Json.fieldOr "timed_out" false Json.bool? members
    shards := ← Json.fieldOr "_shards" none (Json.nullable ShardStatistics.ofJson?) members
    hits := ← Json.fieldOr "hits" Hits.empty Hits.ofJson? members
    facets := ← Json.fieldOr "facets" [] Json.members? members }

/-! ## Writing -/

/-- A number, or null. -/
def Json.ofScore : Option Binary64 → Json
  | some x => .float x
  | none => .null

/-- A member for a value that is there. -/
def Json.optionalField (name : String) : Option Json → List (String × Json)
  | some v => [(name, v)]
  | none => []

/-- A member for an object that is not empty. -/
def Json.objectField (name : String) (members : List (String × Json)) : List (String × Json) :=
  if members.isEmpty then [] else [(name, .obj members)]

def ShardStatistics.toJson (s : ShardStatistics) : Json :=
  .obj [("total", .int s.total), ("successful", .int s.successful), ("failed", .int s.failed)]

def Hit.toJson (hit : Hit) : Json :=
  .obj ([("_index", .str hit.index), ("_type", .str hit.documentType), ("_id", .str hit.id),
    ("_score", Json.ofScore hit.score)] ++ Json.optionalField "_source" hit.source ++
    Json.objectField "fields" hit.fields)

def Hits.toJson (hits : Hits) : Json :=
  .obj [("total", .int hits.total), ("max_score", Json.ofScore hits.maxScore),
    ("hits", .arr (hits.hits.map Hit.toJson))]

def SearchResponse.toJson (response : SearchResponse) : Json :=
  .obj ([("took", .int response.took), ("timed_out", .bool response.timedOut)] ++
    Json.optionalField "_shards" (response.shards.map ShardStatistics.toJson) ++
    [("hits", response.hits.toJson)] ++ Json.objectField "facets" response.facets)

end SearchQuery
