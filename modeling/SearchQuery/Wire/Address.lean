import SearchQuery.Config
import SearchQuery.Request
import SearchQuery.Wire.Lucene
import SearchQuery.Wire.Percent
import SearchQuery.Wire.Timeout

/-!
# Searching by address

The address form puts the whole search into the parameters of the address: query and filter as one
text, then fields, order, page, time limit and search type.
-/

namespace SearchQuery

def SortOption.text (option : SortOption) : String :=
  if option.ascending then option.name else option.name ++ ":desc"

namespace SearchRequest

/-- A text without the slashes at its end. -/
def trimSlashes (text : String) : String :=
  String.ofList (text.toList.reverse.dropWhile (· == '/')).reverse

/-- The address of the search over the documents of the request. -/
def path (config : ConnectionConfig) (request : SearchRequest) : String :=
  trimSlashes config.endpoint ++ "/" ++ config.index.getD "_all" ++ "/" ++
    (if request.documentType.isEmpty then "" else request.documentType ++ "/") ++ "_search"

/-- The parameter of a value that is there. -/
def parameter (key : String) : Option String → List (String × String)
  | some v => [(key, v)]
  | none => []

/-- Query and filter as one text. -/
def queryText (m : FieldMapping) (request : SearchRequest) : Except Error (Option String) :=
  match request.query, request.filter with
  | none, none => .ok none
  | some c, none | none, some c => (c.toLucene m).map some
  | some query, some filter => do
    let q ← query.toLucene m
    let f ← filter.toLucene m
    return some ("(" ++ q ++ ") AND (" ++ f ++ ")")

/-- A list as one text, unless it is empty. -/
def listed (texts : List String) : Option String :=
  if texts.isEmpty then none else some (Text.join "," texts)

/-- The parameters of the address form, not encoded. -/
def parameters (config : ConnectionConfig) (m : FieldMapping) (request : SearchRequest) :
    Except Error (List (String × String)) := do
  let q ← request.queryText m
  return parameter "q" q ++
    parameter "fields" (listed request.fields) ++
    parameter "sort" (listed (request.sortOptions.map SortOption.text)) ++
    parameter "from" (if 0 < request.skipped then some (toString request.skipped) else none) ++
    parameter "size" (request.size.map toString) ++
    parameter "timeout" ((Timeout.ofMillis? config.timeoutMillis).map Timeout.text) ++
    parameter "search_type" request.searchType

/-- A path with parameters, whose values are encoded. -/
def withParameters (path : String) (parameters : List (String × String)) : String :=
  if parameters.isEmpty then path
  else path ++ "?" ++ Text.join "&" (parameters.map fun p => p.1 ++ "=" ++ Percent.encode p.2)

/-- The address of the address form. -/
def getUri (config : ConnectionConfig) (m : FieldMapping) (request : SearchRequest) :
    Except Error String :=
  (request.parameters config m).map (withParameters (request.path config))

/-- The address of the body form. -/
def postUri (config : ConnectionConfig) (request : SearchRequest) : String :=
  match request.searchType with
  | some searchType => request.path config ++ "?search_type=" ++ searchType
  | none => request.path config

end SearchRequest

end SearchQuery
