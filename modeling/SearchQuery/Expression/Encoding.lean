import SearchQuery.Expression.Basic

/-!
# Expressions as JSON

Every kind of expression is an object with one member, named for the kind. `toJson` writes this
form and `ofJson?` reads it; unknown members are ignored in reading.
-/

namespace SearchQuery

/-- The name of a case without content: its text, or an object that gives it null. -/
def Json.tag? : Json → Option String
  | .str tag => some tag
  | .obj [(tag, .null)] => some tag
  | _ => none

/-! ## Documents -/

namespace ValueType

def toJson : ValueType → Json
  | .string => .str "String"
  | .integer => .str "Integer"
  | .float => .str "Float"
  | .boolean => .str "Boolean"
  | .date => .str "Date"
  | .object name => .obj [("Object", .str name)]
  | .sequence item => .obj [("Sequence", item.toJson)]
  | .optional value => .obj [("Optional", value.toJson)]
  | .any => .str "Any"

def ofTag? : String → Option ValueType
  | "String" => some .string
  | "Integer" => some .integer
  | "Float" => some .float
  | "Boolean" => some .boolean
  | "Date" => some .date
  | "Any" => some .any
  | _ => none

def ofJson? : Json → Option ValueType
  | .str tag => ofTag? tag
  | .obj [(tag, v)] =>
    if tag = "Object" then v.text?.map .object
    else if tag = "Sequence" then (ofJson? v).map .sequence
    else if tag = "Optional" then (ofJson? v).map .optional
    else if v.isNull then ofTag? tag
    else none
  | _ => none

end ValueType

namespace Member

def toJson (m : Member) : Json :=
  .obj [("name", .str m.name), ("value_type", m.valueType.toJson)]

def ofJson? (v : Json) : Option Member := do
  let name ← (← v.member? "name").text?
  let valueType ← ValueType.ofJson? (← v.member? "value_type")
  return ⟨name, valueType⟩

end Member

namespace DocumentType

def toJson (type : DocumentType) : Json :=
  .obj [("name", .str type.name), ("members", .arr (type.members.map Member.toJson))]

/-- A document type without members may leave them out. -/
def ofJson? (v : Json) : Option DocumentType := do
  let name ← (← v.member? "name").text?
  match v.member? "members" with
  | none => return ⟨name, []⟩
  | some members => return ⟨name, ← (← members.items?).mapM Member.ofJson?⟩

end DocumentType

namespace HitField

def name : HitField → String
  | .id => "Id"
  | .score => "Score"

def ofName? : String → Option HitField
  | "Id" => some .id
  | "Score" => some .score
  | _ => none

end HitField

/-! ## Expressions -/

namespace Expression

mutual

def toJson : Expression → Json
  | .constant v => .obj [("Constant", v)]
  | .source type => .obj [("Source", type.toJson)]
  | .parameter name => .obj [("Parameter", .str name)]
  | .member target m =>
    .obj [("Member", .obj [("target", toJson target), ("member", m.toJson)])]
  | .hitField field => .obj [("ElasticField", .str field.name)]
  | .binary op left right =>
    .obj [("Binary",
      .obj [("op", .str op.name), ("left", toJson left), ("right", toJson right)])]
  | .unary op operand =>
    .obj [("Unary", .obj [("op", .str op.name), ("operand", toJson operand)])]
  | .call method args =>
    .obj [("Call", .obj [("method", .str method), ("args", .arr (argsToJson args))])]
  | .lambda p body => .obj [("Lambda", .obj [("parameter", .str p), ("body", toJson body)])]
  | .construct members =>
    .obj [("New", .obj [("members", .arr (membersToJson members))])]

def argsToJson : List Expression → List Json
  | [] => []
  | e :: rest => toJson e :: argsToJson rest

def membersToJson : List (String × Expression) → List Json
  | [] => []
  | (name, e) :: rest => .arr [.str name, toJson e] :: membersToJson rest

end

/-- The text that a member of that name holds. -/
def textField? (name : String) (fields : List (String × Json)) : Option String := do
  (← fields.lookup name).text?

mutual

def ofJson? : Json → Option Expression
  | .obj [(kind, .obj fields)] =>
    if kind = "Constant" then some (.constant (.obj fields))
    else if kind = "Source" then (DocumentType.ofJson? (.obj fields)).map .source
    else if kind = "Member" then do
      let target ← fieldOfJson? "target" fields
      let m ← Member.ofJson? (← fields.lookup "member")
      return .member target m
    else if kind = "Binary" then do
      let op ← BinaryOperator.ofName? (← (← fields.lookup "op").tag?)
      let left ← fieldOfJson? "left" fields
      let right ← fieldOfJson? "right" fields
      return .binary op left right
    else if kind = "Unary" then do
      let op ← UnaryOperator.ofName? (← (← fields.lookup "op").tag?)
      let operand ← fieldOfJson? "operand" fields
      return .unary op operand
    else if kind = "Call" then do
      let method ← textField? "method" fields
      let args ← argsFieldOfJson? "args" fields
      return .call method args
    else if kind = "Lambda" then do
      let p ← textField? "parameter" fields
      let body ← fieldOfJson? "body" fields
      return .lambda p body
    else if kind = "New" then do
      let members ← membersFieldOfJson? "members" fields
      return .construct members
    else if kind = "ElasticField" then
      ((Json.obj fields).tag?.bind HitField.ofName?).map .hitField
    else none
  | .obj [(kind, v)] =>
    if kind = "Constant" then some (.constant v)
    else if kind = "Parameter" then v.text?.map .parameter
    else if kind = "ElasticField" then (v.tag?.bind HitField.ofName?).map .hitField
    else none
  | _ => none

/-- The expression that the member of that name holds. -/
def fieldOfJson? (name : String) : List (String × Json) → Option Expression
  | [] => none
  | (k, v) :: rest => if k = name then ofJson? v else fieldOfJson? name rest

/-- The expressions that the array of that name holds. -/
def argsFieldOfJson? (name : String) : List (String × Json) → Option (List Expression)
  | [] => none
  | (k, .arr items) :: rest => if k = name then argsOfJson? items else argsFieldOfJson? name rest
  | (k, _) :: rest => if k = name then none else argsFieldOfJson? name rest

def argsOfJson? : List Json → Option (List Expression)
  | [] => some []
  | v :: rest => do
    let e ← ofJson? v
    let rest' ← argsOfJson? rest
    return e :: rest'

/-- The named expressions that the array of that name holds as pairs. -/
def membersFieldOfJson? (name : String) :
    List (String × Json) → Option (List (String × Expression))
  | [] => none
  | (k, .arr items) :: rest =>
    if k = name then membersOfJson? items else membersFieldOfJson? name rest
  | (k, _) :: rest => if k = name then none else membersFieldOfJson? name rest

def membersOfJson? : List Json → Option (List (String × Expression))
  | [] => some []
  | .arr [.str name, v] :: rest => do
    let e ← ofJson? v
    let rest' ← membersOfJson? rest
    return (name, e) :: rest'
  | _ :: _ => none

end

end Expression

end SearchQuery
