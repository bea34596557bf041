import SearchQuery.Operator
import SearchQuery.Plan.Aggregate
import SearchQuery.Plan.Selection
import SearchQuery.Response.Materializer

/-!
# Drafts of requests

The operators of a chain are applied, from the outermost one inward, to a draft of the request.

* The key of an inner sort comes before the keys of the outer ones.
* An inner `skip` takes the place of an outer one; of several `take` the smallest counts.
* The outermost terminal operator counts; it sets the size that it needs.
* There can be one selection only.
-/

namespace SearchQuery

/-- How the names of a query are resolved. -/
structure Scope where
  mapping : FieldMapping
  /-- The path under which all fields lie. -/
  pathPrefix : String
  /-- Where documents lie inside the source of a hit. -/
  documentPrefix : Option String

/-- The request so far, while the operators of a chain are applied. -/
structure Draft where
  request : SearchRequest
  terminal : Option Terminal
  projector : Option Projector

namespace Draft

def empty : Draft := ⟨.empty, none, none⟩

def withQuery (d : Draft) (query : Option Criteria) : Draft :=
  { d with request := { d.request with query := query } }

/-- Add a criteria that counts for the score. -/
def applyQuery (d : Draft) (c : Criteria) : Draft :=
  d.withQuery (some (match d.request.query with
    | none => c
    | some existing => Criteria.boolMust (some existing) c))

/-- Add a criteria that only filters. -/
def applyFilter (d : Draft) (c : Criteria) : Draft :=
  { d with request :=
    { d.request with filter := some (Criteria.andInto d.request.filter c) } }

def addSort (d : Draft) (option : SortOption) : Draft :=
  { d with request := d.request.pushPrimarySort option }

/-- Filter by a predicate; one that counts for the score goes into the query. -/
def filterBy (s : Scope) (d : Draft) (predicate : Expression) : Traced Draft := do
  let lowered ← predicate.lowerLambda s.mapping s.pathPrefix d.request.query
  let d := d.withQuery lowered.query
  if lowered.criteria.isNop then return d
  else if lowered.criteria.isQueryContext then
    Traced.event (.placedInQuery lowered.criteria)
    return d.applyQuery lowered.criteria
  else
    Traced.event (.placedInFilter lowered.criteria)
    return d.applyFilter lowered.criteria

/-- Score by a predicate. -/
def scoreBy (s : Scope) (d : Draft) (predicate : Expression) : Traced Draft := do
  let lowered ← predicate.lowerLambda s.mapping s.pathPrefix d.request.query
  let d := d.withQuery lowered.query
  return if lowered.criteria.isNop then d else d.applyQuery lowered.criteria

/-- Sort by a key before all keys so far. -/
def sortBy (s : Scope) (d : Draft) (key : Expression) (ascending : Bool) :
    Except Error Draft :=
  match key.lambda? with
  | none => .error (.unsupported (.orderingKeyNotLambda key))
  | some (_, body) =>
    match body.field? s.mapping s.pathPrefix with
    | some (field, last) =>
      .ok (d.addSort ⟨field, ascending, last.valueType.isNullable⟩)
    | none => .error (.unsupported (.orderingBy body))

/-- Select values; there can be one selection only. -/
def select (s : Scope) (d : Draft) (selector : Expression) : Except Error Draft :=
  if d.projector.isSome then .error (.unsupported .secondSelect)
  else do
    let p ← Projection.ofSelector s.mapping s.pathPrefix s.documentPrefix selector
    return { d with request := d.request.addFields p.fields, projector := some p.projector }

/-- The draft with a first terminal operator, which sets the size that it needs. -/
def withTerminal (d : Draft) (t : Terminal) : Draft :=
  { d with
    terminal := some t
    request := { d.request with size := t.size?.or d.request.size } }

/-- Apply a terminal operator; the outermost one counts. -/
def setTerminal (d : Draft) (method : String) (t : Terminal) : Traced Draft :=
  match d.terminal with
  | some existing => do
    Traced.event (.ignoredTerminal method existing)
    return d
  | none => return d.withTerminal t

/-- Apply an operator. -/
def apply (s : Scope) (d : Draft) : Operator → Traced Draft
  | .filterBy predicate => d.filterBy s predicate
  | .scoreBy predicate => d.scoreBy s predicate
  | .matchText text => return d.applyQuery (.text text)
  | .sortBy key ascending => Traced.ofExcept (d.sortBy s key ascending)
  | .sortByScore ascending => return d.addSort ⟨HitField.score.fieldName, ascending, false⟩
  | .select selector => Traced.ofExcept (d.select s selector)
  | .skip count => return { d with request := { d.request with skipped := count } }
  | .take count => return { d with request := d.request.limitSize count }
  | .terminal method t none => d.setTerminal method t
  | .terminal method t (some predicate) => do
    let d ← d.setTerminal method t
    d.filterBy s predicate
  | .retype => return d

/-- Recognise an operator and apply it. -/
def applyStep (s : Scope) (d : Draft) (step : String × List Expression) : Traced Draft := do
  let op ← Traced.ofExcept ((Operator.ofCall step.1 step.2).mapError .unsupported)
  d.apply s op

/-- Apply the operators of a chain, outermost first. -/
def applySteps (s : Scope) (d : Draft) :
    List (String × List Expression) → Traced Draft
  | [] => return d
  | step :: rest => do
    let d ← d.applyStep s step
    d.applySteps s rest

end Draft

/-- The document type that a chain has to end in. -/
def ChainRoot.documentType : ChainRoot → Except Error DocumentType
  | .documents type => .ok type
  | .bareCall method => .error (.unsupported (.methodWithoutSource method))
  | .other e => .error (.unsupported (.querySource e))

namespace Draft

/-- Apply a whole chain to an empty draft and name the document type. -/
def ofChain (s : Scope) (chain : Chain) : Traced (Draft × DocumentType) := do
  let d ← Draft.empty.applySteps s chain.steps
  let type ← Traced.ofExcept chain.root.documentType
  return ({ d with request := { d.request with documentType := s.mapping.documentType type } },
    type)

/-- A request without any criteria asks for all documents of its type. -/
def completeFilter (m : FieldMapping) (type : DocumentType) (request : SearchRequest) :
    SearchRequest :=
  if request.filter.isNone && request.query.isNone then
    { request with filter := some (m.typeExists type) }
  else request

/-- The materializer that the terminal operator calls for. -/
def materializer (s : Scope) (d : Draft) : Materializer :=
  let projector := d.projector.getD (Projector.document s.documentPrefix)
  match d.terminal with
  | none => .manyHits projector
  | some (.oneHit strict orDefault) => .oneHit projector strict orDefault
  | some .count => .count

end Draft

end SearchQuery
