import SearchQuery.Observation.Basic

/-!
# Log entries

The written form of events. Entering a stage opens a span; the other events have a level and a
message.
-/

namespace SearchQuery

inductive LogEntry where
  | span (name : String) (fields : List (String × Json))
  | message (level text : String) (fields : List (String × Json))

namespace Event

def fields : Event → List (String × Json)
  | .planning pathPrefix => [("prefix", .str pathPrefix)]
  | .liftedScoring op => [("operator", .str op.name)]
  | .placedInQuery criteria | .placedInFilter criteria => [("criteria", .str criteria.display)]
  | .ignoredTerminal method existing =>
    [("method", .str method), ("existing", .str existing.display)]
  | .extractedFacets count => [("count", .int count)]
  | .planned materializer facets =>
    [("materializer", .str materializer), ("facets", .int facets)]
  | .planningFailed error | .materializationFailed error => [("error", .str error.message)]
  | .formatting documentType => [("document_type", .str documentType)]
  | .formatted method uri => [("method", .str method), ("uri", .str uri)]
  | .materializing materializer => [("materializer", .str materializer)]

def entry (e : Event) : LogEntry :=
  match e with
  | .planning _ => .span "translate" e.fields
  | .formatting _ => .span "format_request" e.fields
  | .materializing _ => .span "materialize" e.fields
  | .ignoredTerminal .. =>
    .message "WARN" "Ignoring terminal operator; an outer one already applies" e.fields
  | .liftedScoring _ => .message "DEBUG" "Lifted query-context criteria into query" e.fields
  | .placedInQuery _ => .message "DEBUG" "Where clause placed in query context" e.fields
  | .placedInFilter _ => .message "DEBUG" "Where clause placed in filter context" e.fields
  | .extractedFacets _ => .message "DEBUG" "Extracted facets from aggregate query" e.fields
  | .planned .. => .message "DEBUG" "Translated query" e.fields
  | .planningFailed _ => .message "DEBUG" "Translation failed" e.fields
  | .formatted .. => .message "DEBUG" "Formatted search request" e.fields
  | .materializationFailed _ => .message "DEBUG" "Materialization failed" e.fields

end Event

/-- The log of a run. -/
def logEntries (observations : List Observation) : List LogEntry :=
  observations.filterMap fun
    | .event e => some e.entry
    | .measured _ => none

end SearchQuery
