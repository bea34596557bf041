import SearchQuery.Config
import SearchQuery.Request
import SearchQuery.Wire.Criteria
import SearchQuery.Wire.Timeout

/-!
# Request bodies

The body form of a search. Members are written only when they carry something, in a fixed order.
With facets, the filter of the request restricts every facet and not the hits.
-/

namespace SearchQuery

namespace SortOption

/-- A sort key with the settings that differ from the default. -/
def toBody (option : SortOption) : Json :=
  if option.ignoreUnmapped then
    Criteria.single option.name (.obj (("ignore_unmapped", .bool true) ::
      (if option.ascending then [] else [("order", .str "desc")])))
  else if option.ascending then .str option.name
  else Criteria.single option.name (.str "desc")

end SortOption

namespace Facet

def fieldMembers : List String → List (String × Json)
  | [field] => [("field", .str field)]
  | fields => [("fields", .arr (fields.map .str))]

/-- What the facet counts over, apart from its restriction. -/
def settings : Facet → List (String × Json)
  | .filter .. => []
  | .terms _ fields _ _ | .statistical _ fields _ => fieldMembers fields
  | .termsStats _ keyField valueField _ _ =>
    [("key_field", .str keyField), ("value_field", .str valueField)]

def sizeMember (facet : Facet) : List (String × Json) :=
  match facet.size? with
  | some size => [("size", .str (toString size))]
  | none => []

/-- The name under which the restriction is written. -/
def filterName : Facet → String
  | .filter .. => "filter"
  | _ => "facet_filter"

/-- The documents that the facet is about: those of the filter that also satisfy its own. -/
def combinedFilter (filter : Option Criteria) (facet : Facet) : Option Criteria :=
  Criteria.andAll (filter.toList ++ facet.criteria?.toList)

/-- The form of a facet; the restriction of a filter facet is all that is written of it. -/
def toBody (m : FieldMapping) (filter : Option Criteria) (facet : Facet) : Except Error Json := do
  let counted := [(facet.kind, Json.obj (facet.settings ++ facet.sizeMember))]
  match facet.combinedFilter filter with
  | some c =>
    let body ← c.toBody m
    return .obj (Json.insertMember facet.filterName body counted)
  | none => return .obj counted

/-- The facets by name. -/
def listToBody (m : FieldMapping) (filter : Option Criteria) :
    List Facet → Except Error (List (String × Json))
  | [] => .ok []
  | facet :: rest => do
    let body ← facet.toBody m filter
    let bodies ← listToBody m filter rest
    return (facet.name, body) :: bodies

end Facet

namespace SearchRequest

/-- A member for a value that is there. -/
def bodyMember (name : String) : Option Json → List (String × Json)
  | some v => [(name, v)]
  | none => []

/-- The written form of a criteria that is there. -/
def criteriaBody (m : FieldMapping) : Option Criteria → Except Error (Option Json)
  | some c => (c.toBody m).map some
  | none => .ok none

/-- The filter of the hits; with facets there is none. -/
def hitFilter (request : SearchRequest) : Option Criteria :=
  if request.facets.isEmpty then request.filter else none

/-- A list as an array, unless it is empty. -/
def arrayBody (items : List Json) : Option Json :=
  if items.isEmpty then none else some (.arr items)

/-- The body of a request. -/
def toBody (config : ConnectionConfig) (m : FieldMapping) (request : SearchRequest) :
    Except Error Json := do
  let query ← criteriaBody m request.query
  let filter ← criteriaBody m request.hitFilter
  let facets ← Facet.listToBody m request.filter request.facets
  return .obj (bodyMember "fields" (arrayBody (request.fields.map .str)) ++
    bodyMember "query" query ++
    bodyMember "filter" filter ++
    bodyMember "sort" (arrayBody (request.sortOptions.map SortOption.toBody)) ++
    bodyMember "from" (if 0 < request.skipped then some (.int request.skipped) else none) ++
    bodyMember "size" (request.size.map fun n => .int n) ++
    bodyMember "facets"
      (if facets.isEmpty then none else some (.obj (Json.collectMembers facets))) ++
    bodyMember "timeout" ((Timeout.ofMillis? config.timeoutMillis).map Timeout.toJson))

end SearchRequest

end SearchQuery
