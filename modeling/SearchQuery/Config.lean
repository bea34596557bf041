import SearchQuery.Json.Field

/-!
# Connection settings

The settings shape the address and the body of a request; no connection is opened here.
-/

namespace SearchQuery

structure ConnectionConfig where
  endpoint : String
  /-- The index to search; all of them when there is none. -/
  index : Option String
  /-- The time limit of a search in milliseconds; zero is not sent. -/
  timeoutMillis : Nat
  /-- Whether to search by address alone where the request allows it. -/
  preferGetRequests : Bool
  deriving DecidableEq

namespace ConnectionConfig

def standard : ConnectionConfig := ⟨"http://localhost:9200", none, 0, false⟩

def ofJson? (v : Json) : Option ConnectionConfig := do
  let members ← v.members?
  return {
    endpoint := ← Json.fieldOr "endpoint" standard.endpoint Json.text? members
    index := ← Json.fieldOr "index" none (Json.nullable Json.text?) members
    timeoutMillis := ← Json.fieldOr "timeout_ms" 0 Json.nat64? members
    preferGetRequests := ← Json.fieldOr "prefer_get_requests" false Json.bool? members }

end ConnectionConfig

end SearchQuery
