import SearchQuery.Json.Printer
import SearchQuery.Observation.Basic
import SearchQuery.Wire.Address
import SearchQuery.Wire.Body

/-!
# Formatting requests

A request is sent in one of two forms: with a body, or by address alone. The address form is taken
when the connection prefers it and the request has no facets.
-/

namespace SearchQuery

inductive RequestMethod where
  | post
  | get
  deriving DecidableEq

def RequestMethod.name : RequestMethod → String
  | .post => "post"
  | .get => "get"

/-- A request as it is sent. -/
structure FormattedRequest where
  method : RequestMethod
  uri : String
  /-- The body, which the address form does not have. -/
  body : Option String
  deriving DecidableEq

namespace SearchRequest

/-- The body of a request as text. -/
def postBody (config : ConnectionConfig) (m : FieldMapping) (request : SearchRequest) :
    Except Error String :=
  (request.toBody config m).map Json.render

/-- Choose the form of a request and write it. -/
def formatted (config : ConnectionConfig) (m : FieldMapping) (request : SearchRequest) :
    Except Error FormattedRequest :=
  if config.preferGetRequests && request.facets.isEmpty then do
    let uri ← request.getUri config m
    return ⟨.get, uri, none⟩
  else do
    let body ← request.postBody config m
    return ⟨.post, request.postUri config, some body⟩

/-- What is observed when a request has been written. -/
def formatOutcome : Except Error FormattedRequest → List Observation
  | .ok f =>
    [.event (.formatted f.method.name f.uri), .measured (.formatted f.method.name),
      .measured (.duration .format)]
  | .error _ => [.measured (.duration .format)]

/-- Write a request and observe it. -/
def format (config : ConnectionConfig) (m : FieldMapping) (request : SearchRequest) :
    Traced FormattedRequest :=
  Traced.finish
    (do
      Traced.event (.formatting request.documentType)
      Traced.ofExcept (request.formatted config m))
    formatOutcome

end SearchRequest

end SearchQuery
