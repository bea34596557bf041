import SearchQuery.Projection.Basic
import SearchQuery.Plan.Field

/-!
# Selecting values

The lambda of a `select` becomes a projector and the list of fields to ask for. If the lambda uses
the document as a whole, the projector reads the whole document and no fields are listed; otherwise
it reads the fields that it lists, in the order of their first use.
-/

namespace SearchQuery

namespace Expression

mutual

/-- Whether the parameter occurs other than as the target of a member access. -/
def usesDocument (name : String) : Expression → Bool
  | .parameter p => p == name
  | .member (.parameter _) _ => false
  | .member target _ => usesDocument name target
  | .binary _ left right => usesDocument name left || usesDocument name right
  | .unary _ operand => usesDocument name operand
  | .call _ args => argsUseDocument name args
  | .lambda _ body => usesDocument name body
  | .construct members => membersUseDocument name members
  | .constant _ | .source _ | .hitField _ => false

def argsUseDocument (name : String) : List Expression → Bool
  | [] => false
  | e :: rest => usesDocument name e || argsUseDocument name rest

def membersUseDocument (name : String) : List (String × Expression) → Bool
  | [] => false
  | (_, e) :: rest => usesDocument name e || membersUseDocument name rest

end

theorem usesDocument_member {x : String} {target : Expression} {m : Member}
    (h : ∀ name, target ≠ .parameter name) :
    (member target m).usesDocument x = target.usesDocument x := by
  rw [usesDocument]
  exact h

end Expression

/-- How the expressions of a projection are read. -/
structure Selection where
  mapping : FieldMapping
  pathPrefix : String
  parameter : String
  /-- Whether the projector reads the whole document. -/
  wholeDocument : Bool
  documentPrefix : Option String

namespace Selection

/-- A member access, as a member of a projected object or as a field to ask for. -/
def bindField (s : Selection) (fields : List String) (e : Expression) :
    Except Error (ProjectionNode × List String) :=
  match e.memberPath? s.mapping s.pathPrefix with
  | some (path, last) => .ok (.field path last.valueType.isScalar, Text.pushNew fields path)
  | none => .error (.unsupported (.projectedMember e))

/-- The parameter of the lambda stands for the whole document. -/
def bindParameter (s : Selection) (fields : List String) (name : String) :
    Except Error (ProjectionNode × List String) :=
  if name = s.parameter ∧ s.wholeDocument then .ok (.document s.documentPrefix, fields)
  else .error (.unsupported (.projection (.parameter name)))

mutual

/-- The projection of an expression, and the fields to ask for after it. -/
def bind (s : Selection) (fields : List String) :
    Expression → Except Error (ProjectionNode × List String)
  | .constant v => .ok (.constant v, fields)
  | .hitField f => .ok (.metadata f, fields)
  | .parameter name => s.bindParameter fields name
  | .member target m =>
    if s.wholeDocument then do
      let (node, fields) ← bind s fields target
      return (.member node (s.mapping.fieldName "" m), fields)
    else s.bindField fields (.member target m)
  | .binary op left right => do
    let (l, fields) ← bind s fields left
    let (r, fields) ← bind s fields right
    return (.binary op l r, fields)
  | .unary op operand => do
    let (node, fields) ← bind s fields operand
    return (.unary op node, fields)
  | .call method args => do
    let (nodes, fields) ← bindArgs s fields args
    return (.call method nodes, fields)
  | .construct members => do
    let (nodes, fields) ← bindMembers s fields members
    return (.object nodes, fields)
  | .lambda p body => .error (.unsupported (.projection (.lambda p body)))
  | .source type => .error (.unsupported (.projection (.source type)))

def bindArgs (s : Selection) (fields : List String) :
    List Expression → Except Error (List ProjectionNode × List String)
  | [] => .ok ([], fields)
  | e :: rest => do
    let (node, fields) ← bind s fields e
    let (nodes, fields) ← bindArgs s fields rest
    return (node :: nodes, fields)

def bindMembers (s : Selection) (fields : List String) :
    List (String × Expression) → Except Error (List (String × ProjectionNode) × List String)
  | [] => .ok ([], fields)
  | (name, e) :: rest => do
    let (node, fields) ← bind s fields e
    let (nodes, fields) ← bindMembers s fields rest
    return ((name, node) :: nodes, fields)

end

/-- The selection that a lambda calls for. -/
def ofLambda (m : FieldMapping) (pathPrefix : String) (documentPrefix : Option String)
    (parameter : String) (body : Expression) : Selection :=
  ⟨m, pathPrefix, parameter, body.usesDocument parameter, documentPrefix⟩

end Selection

/-- A projector and the fields it reads. -/
structure Projection where
  fields : List String
  projector : Projector

namespace Projection

/-- The projection of the lambda of a `select`. -/
def ofSelector (m : FieldMapping) (pathPrefix : String) (documentPrefix : Option String)
    (selector : Expression) : Except Error Projection :=
  match selector.lambda? with
  | some (parameter, body) => do
    let (node, fields) ←
      (Selection.ofLambda m pathPrefix documentPrefix parameter body).bind [] body
    return ⟨fields, ⟨node⟩⟩
  | none => .error (.unsupported (.selectNotLambda selector))

end Projection

end SearchQuery
