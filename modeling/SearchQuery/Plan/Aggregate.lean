import SearchQuery.Projection.Basic
import SearchQuery.Request
import SearchQuery.Plan.Predicate

/-!
# Aggregate queries

A selection over groups is an aggregate query: each aggregate in it becomes a facet, and the
projection reads the facets back.

* A sum, minimum, maximum or average over a field needs the statistics of that field by group.
* A count with a predicate needs the number of documents of each group that satisfy it.
* A plain count needs the number of documents of each group.

Under a constant key there is one group, so filters and plain statistics do.
-/

namespace SearchQuery

/-- The facet that counts the documents of each group. -/
def groupKeyFacet : String := "GroupKey"

/-! ## Recognising aggregate queries -/

/-- The parts of an aggregate query. -/
structure AggregateQuery where
  /-- The query below the grouping. -/
  source : Expression
  keySelector : Expression
  selector : Expression
  /-- The greatest number of groups. -/
  size : Option Nat

namespace Expression

/-- A selection over groups. -/
def groupSelection? (size : Option Nat) : Expression → Option AggregateQuery
  | .call "select" [.call "group_by" [grouped, keySelector], selector] =>
    some ⟨grouped, keySelector, selector, size⟩
  | _ => none

/-- The limit on a selection, if it is a number, and what it limits. -/
def limitedSelection? : Expression → Option (Expression × Nat)
  | .call "take" [.call "select" args, n] =>
    (n.constant?.bind Json.nat64?).map fun count => (.call "select" args, count)
  | _ => none

/-- The parts of an aggregate query, with a limit around it or without. -/
def aggregateQuery? (e : Expression) : Option AggregateQuery :=
  match e.limitedSelection? with
  | some (inner, size) => inner.groupSelection? (some size)
  | none => e.groupSelection? none

end Expression

/-- The key of a selector: a constant, or a field. -/
def GroupKey.ofSelector (m : FieldMapping) (pathPrefix : String) (selector : Expression) :
    Except Error GroupKey :=
  match selector.lambda? with
  | none => .error (.unsupported (.groupKeyNotLambda selector))
  | some (_, body) =>
    match body.constant?, body.memberPath? m pathPrefix with
    | some v, _ => .ok (.constant v)
    | none, some (path, _) => .ok (.field path)
    | none, none => .error (.unsupported (.groupKey body))

/-! ## Collecting aggregates -/

/-- The aggregates of a projection: what there is to count. -/
structure Aggregates where
  valueFields : List String
  predicates : List Criteria
  plainCount : Bool

namespace Aggregates

def none : Aggregates := ⟨[], [], false⟩

def addValueField (a : Aggregates) (path : String) : Aggregates :=
  { a with valueFields := Text.pushNew a.valueFields path }

/-- Add a predicate unless the same one is there. -/
def addPredicate (a : Aggregates) (c : Criteria) : Aggregates :=
  if a.predicates.any (·.same c) then a else { a with predicates := a.predicates ++ [c] }

def addPlainCount (a : Aggregates) : Aggregates := { a with plainCount := true }

end Aggregates

/-- The statistic that a method of a group asks for. -/
def Statistic.ofMethod? : String → Option Statistic
  | "count" | "long_count" => some .count
  | "sum" => some .total
  | "min" => some .min
  | "max" => some .max
  | "average" => some .mean
  | _ => none

/-- How the expressions of a projection over groups are read. -/
structure Grouping where
  mapping : FieldMapping
  pathPrefix : String
  /-- The parameter that stands for the group. -/
  parameter : String

namespace Grouping

def isGroup (g : Grouping) : Expression → Bool
  | .parameter name => name == g.parameter
  | _ => false

/-- A count of the documents that satisfy a predicate. -/
def bindCount (g : Grouping) (a : Aggregates) (predicate : Expression) :
    Traced (ProjectionNode × Aggregates) := do
  let lowered ← predicate.lowerLambda g.mapping g.pathPrefix none
  if lowered.criteria.isNop && lowered.query.isNone then
    return (.aggregate groupKeyFacet .count, a.addPlainCount)
  else if lowered.criteria.isQueryContext || lowered.query.isSome then
    Traced.fail (.unsupported (.scoringInAggregate predicate))
  else
    return (.aggregate lowered.criteria.display .count, a.addPredicate lowered.criteria)

/-- A statistic of a field. -/
def bindStatistic (g : Grouping) (a : Aggregates) (s : Statistic) (selector : Expression) :
    Except Error (ProjectionNode × Aggregates) :=
  match selector.lambda? with
  | some (_, body) =>
    match body.memberPath? g.mapping g.pathPrefix with
    | some (path, _) => .ok (.aggregate path s, a.addValueField path)
    | none => .error (.unsupported (.aggregateOver body))
  | none => .error (.unsupported (.selectorNotLambda selector))

/-- A method of the group. -/
def bindAggregate (g : Grouping) (a : Aggregates) (method : String) (args : List Expression) :
    Traced (ProjectionNode × Aggregates) :=
  match Statistic.ofMethod? method, args with
  | none, _ => Traced.fail (.unsupported (.aggregate method))
  | some .count, [] => return (.aggregate groupKeyFacet .count, a.addPlainCount)
  | some .count, [predicate] => g.bindCount a predicate
  | some s, [selector] => Traced.ofExcept (g.bindStatistic a s selector)
  | some _, args => Traced.fail (.unsupported (.aggregateArguments method args.length))

mutual

/-- The projection of an expression over groups, and the aggregates so far. -/
def bind (g : Grouping) (a : Aggregates) : Expression → Traced (ProjectionNode × Aggregates)
  | .constant v => return (.constant v, a)
  | .member target m =>
    if g.isGroup target && m.name == "Key" then return (.groupKey, a)
    else Traced.fail (.unsupported (.aggregateProjection (.member target m)))
  | .binary op left right => do
    let (l, a) ← bind g a left
    let (r, a) ← bind g a right
    return (.binary op l r, a)
  | .unary op operand => do
    let (node, a) ← bind g a operand
    return (.unary op node, a)
  | .call method args =>
    match args with
    | [] => return (.call method [], a)
    | first :: rest =>
      if g.isGroup first then g.bindAggregate a method rest
      else do
        let (node, a) ← bind g a first
        let (nodes, a) ← bindArgs g a rest
        return (.call method (node :: nodes), a)
  | .construct members => do
    let (nodes, a) ← bindMembers g a members
    return (.object nodes, a)
  | .parameter name => Traced.fail (.unsupported (.aggregateProjection (.parameter name)))
  | .hitField f => Traced.fail (.unsupported (.aggregateProjection (.hitField f)))
  | .lambda p body => Traced.fail (.unsupported (.aggregateProjection (.lambda p body)))
  | .source type => Traced.fail (.unsupported (.aggregateProjection (.source type)))

def bindArgs (g : Grouping) (a : Aggregates) :
    List Expression → Traced (List ProjectionNode × Aggregates)
  | [] => return ([], a)
  | e :: rest => do
    let (node, a) ← bind g a e
    let (nodes, a) ← bindArgs g a rest
    return (node :: nodes, a)

def bindMembers (g : Grouping) (a : Aggregates) :
    List (String × Expression) → Traced (List (String × ProjectionNode) × Aggregates)
  | [] => return ([], a)
  | (name, e) :: rest => do
    let (node, a) ← bind g a e
    let (nodes, a) ← bindMembers g a rest
    return ((name, node) :: nodes, a)

end

end Grouping

/-! ## Facets -/

namespace Aggregates

/-- Whether the documents of each group have to be counted; also so where nothing else would tell
which groups there are. -/
def countsGroups (a : Aggregates) : Bool :=
  a.plainCount || (a.valueFields.isEmpty && a.predicates.isEmpty)

/-- The facets by the values of a field. -/
def facetsByField (a : Aggregates) (key : String) : List Facet :=
  (if a.countsGroups then [.terms groupKeyFacet [key] .none .none] else []) ++
    a.valueFields.map (fun path => .termsStats path key path .none .none) ++
    a.predicates.map (fun c => .terms c.display [key] .none (some c))

/-- The facets of the one group of a constant key. -/
def facetsOfAll (a : Aggregates) : List Facet :=
  (if a.countsGroups then [.filter groupKeyFacet .matchAll] else []) ++
    a.valueFields.map (fun path => .statistical path [path] .none) ++
    a.predicates.map (fun c => .filter c.display c)

def facets (a : Aggregates) : GroupKey → List Facet
  | .field key => a.facetsByField key
  | .constant _ => a.facetsOfAll

/-- Limit the number of groups. -/
def limitFacets (size : Option Nat) (facets : List Facet) : List Facet :=
  match size with
  | some n => facets.map (Facet.withSize n)
  | .none => facets

end Aggregates

/-- The facets of an aggregate query and how to read them. -/
structure Aggregation where
  facets : List Facet
  projector : FacetProjector

namespace AggregateQuery

/-- The facets and the projector of an aggregate query. -/
def aggregation (m : FieldMapping) (pathPrefix : String) (q : AggregateQuery) :
    Traced Aggregation := do
  let key ← Traced.ofExcept (GroupKey.ofSelector m pathPrefix q.keySelector)
  match q.selector.lambda? with
  | some (parameter, body) =>
    let (node, aggregates) ← Grouping.bind ⟨m, pathPrefix, parameter⟩ Aggregates.none body
    return ⟨Aggregates.limitFacets q.size (aggregates.facets key), ⟨key, node⟩⟩
  | none => Traced.fail (.unsupported (.aggregateNotLambda q.selector))

end AggregateQuery

end SearchQuery
