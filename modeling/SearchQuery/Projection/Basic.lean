import SearchQuery.Error
import SearchQuery.Response.AggregateRow

/-!
# Projections

A projection is an expression over one row of a response: a hit, or a group of an aggregate query.
`ProjectionNode.evaluate` gives its value on a row.
-/

namespace SearchQuery

inductive ProjectionNode where
  | constant (value : Json)
  /-- The whole document, which may be nested in the source of the hit. -/
  | document (path : Option String)
  /-- A member of a projected object. -/
  | member (target : ProjectionNode) (field : String)
  /-- A field that was asked for; a scalar one gives up its array. -/
  | field (path : String) (scalar : Bool)
  | metadata (field : HitField)
  | groupKey
  | aggregate (facet : String) (statistic : Statistic)
  | binary (op : BinaryOperator) (left right : ProjectionNode)
  | unary (op : UnaryOperator) (operand : ProjectionNode)
  | call (method : String) (args : List ProjectionNode)
  | object (members : List (String × ProjectionNode))
  deriving Inhabited

/-- What a projection is evaluated on. -/
inductive Row where
  | hit (hit : Hit)
  | aggregate (row : AggregateRow)

namespace Hit

/-- The whole document of a hit. -/
def readDocument (hit : Hit) (path : Option String) : Except Error Json :=
  match hit.source with
  | some source => .ok ((source.atPath? (path.getD "")).getD .null)
  | none => .error (.projection (.noSource hit.id))

/-- A field of a hit, taken from the fields sent or else from the document. -/
def rawField (hit : Hit) (path : String) : Json :=
  match hit.fields.lookup path with
  | some v => v
  | none => (hit.source.bind (·.atPath? path)).getD .null

/-- A field of a hit; an array of one element stands for the element of a scalar field. -/
def readField (hit : Hit) (path : String) (scalar : Bool) : Json :=
  match scalar, hit.rawField path with
  | true, .arr [item] => item
  | _, v => v

def readMetadata (hit : Hit) : HitField → Json
  | .id => .str hit.id
  | .score => Json.ofScore hit.score

end Hit

namespace ProjectionNode

/-- Apply a method to values that were read. -/
def applyToResults (method : String) (values : List Json) : Except Error Json :=
  match applyMethod method values with
  | .ok (some v) => .ok v
  | .ok none => .error (.projection (.method method))
  | .error fault => .error (.evaluation fault)

/-- The value of an operator, with its fault as an error. -/
def ofFault : Except Fault Json → Except Error Json
  | .ok v => .ok v
  | .error fault => .error (.evaluation fault)

mutual

/-- The value of a projection on a row. -/
def evaluate (row : Row) : ProjectionNode → Except Error Json
  | .constant v => .ok v
  | .document path =>
    match row with
    | .hit hit => hit.readDocument path
    | .aggregate _ => .error (.projection .documentInAggregate)
  | .member target name => do
    let v ← evaluate row target
    return (v.atPath? name).getD .null
  | .field path scalar =>
    match row with
    | .hit hit => .ok (hit.readField path scalar)
    | .aggregate _ => .error (.projection (.fieldInAggregate path))
  | .metadata f =>
    match row with
    | .hit hit => .ok (hit.readMetadata f)
    | .aggregate _ => .error (.projection (.metadataInAggregate f))
  | .groupKey =>
    match row with
    | .aggregate group => .ok group.key
    | .hit _ => .error (.projection .groupKeyOfHit)
  | .aggregate facet s =>
    match row with
    | .aggregate group => .ok (group.statistic facet s)
    | .hit _ => .error (.projection (.aggregateOfHit facet))
  | .binary op left right => do
    let l ← evaluate row left
    let r ← evaluate row right
    ofFault (op.apply l r)
  | .unary op operand => do
    let v ← evaluate row operand
    ofFault (op.apply v)
  | .call method args => do
    let values ← evaluateArgs row args
    applyToResults method values
  | .object members => do
    let entries ← evaluateMembers row members
    return .obj (Json.collectMembers entries)

def evaluateArgs (row : Row) : List ProjectionNode → Except Error (List Json)
  | [] => .ok []
  | node :: rest => do
    let v ← evaluate row node
    let values ← evaluateArgs row rest
    return v :: values

def evaluateMembers (row : Row) :
    List (String × ProjectionNode) → Except Error (List (String × Json))
  | [] => .ok []
  | (name, node) :: rest => do
    let v ← evaluate row node
    let entries ← evaluateMembers row rest
    return (name, v) :: entries

end

end ProjectionNode

/-- How a hit becomes a value. -/
structure Projector where
  node : ProjectionNode

namespace Projector

/-- The whole document. -/
def document (path : Option String) : Projector := ⟨.document path⟩

def project (projector : Projector) (hit : Hit) : Except Error Json :=
  projector.node.evaluate (.hit hit)

end Projector

/-- What the groups of an aggregate query are formed by. -/
inductive GroupKey where
  | field (path : String)
  | constant (value : Json)
  deriving DecidableEq

/-- How the facets of a response become values, one for each group. -/
structure FacetProjector where
  key : GroupKey
  node : ProjectionNode

namespace FacetProjector

def rows (projector : FacetProjector) (facets : List (String × Json)) : List AggregateRow :=
  match projector.key with
  | .field _ => AggregateRow.fromTerms facets
  | .constant key => [AggregateRow.fromConstant key facets]

def project (projector : FacetProjector) (facets : List (String × Json)) :
    Except Error (List Json) :=
  (projector.rows facets).mapM fun row => projector.node.evaluate (.aggregate row)

end FacetProjector

end SearchQuery
