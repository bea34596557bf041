import SearchQuery.Json.Basic
import SearchQuery.Text.Search

/-!
# Query expressions

An expression is the syntax tree of a query. Query operators are calls whose first argument is the
source they apply to, so a chain of operators reads outermost first:

    take(order_by(where(source, r => r.name == "x"), r => r.id), 10)

Conditions, sort keys and projections are lambdas over one document.
-/

namespace SearchQuery

/-! ## Documents -/

/-- The static type of a document member or of a projected value. -/
inductive ValueType where
  | string
  | integer
  | float
  | boolean
  | date
  | object (name : String)
  | sequence (item : ValueType)
  | optional (value : ValueType)
  | any
  deriving DecidableEq, Inhabited

namespace ValueType

def isNullable : ValueType → Bool
  | .optional _ => true
  | _ => false

def isSequence : ValueType → Bool
  | .sequence _ => true
  | .optional value => value.isSequence
  | _ => false

/-- Types whose one-element arrays collapse to the element. -/
def isScalar : ValueType → Bool
  | .string | .integer | .float | .boolean | .date => true
  | .optional value => value.isScalar
  | _ => false

def isBoolean : ValueType → Bool
  | .boolean => true
  | .optional value => value.isBoolean
  | _ => false

/-- Types whose values are analyzed text. -/
def isText : ValueType → Bool
  | .string | .any => true
  | .sequence item => item.isText
  | .optional value => value.isText
  | _ => false

end ValueType

/-- A member of a document. -/
structure Member where
  name : String
  valueType : ValueType
  deriving DecidableEq, Inhabited

/-- The type of the documents that a query ranges over. -/
structure DocumentType where
  name : String
  members : List Member
  deriving DecidableEq, Inhabited

/-- The first member of that name, ASCII case ignored. -/
def DocumentType.member? (type : DocumentType) (name : String) : Option Member :=
  type.members.find? fun m => Text.equalIgnoringCase m.name name

/-- Metadata of a hit that can be read like a member. -/
inductive HitField where
  | id
  | score
  deriving DecidableEq

namespace HitField

def fieldName : HitField → String
  | .id => "_id"
  | .score => "_score"

def valueType : HitField → ValueType
  | .id => .string
  | .score => .float

def asMember (field : HitField) : Member := ⟨field.fieldName, field.valueType⟩

end HitField

/-! ## Operators -/

inductive BinaryOperator where
  | equal
  | notEqual
  | lessThan
  | lessThanOrEqual
  | greaterThan
  | greaterThanOrEqual
  | andAlso
  | orElse
  | add
  | subtract
  | multiply
  | divide
  | modulo
  deriving DecidableEq

namespace BinaryOperator

def isRelational : BinaryOperator → Bool
  | .lessThan | .lessThanOrEqual | .greaterThan | .greaterThanOrEqual => true
  | _ => false

/-- The operator that gives the same result when the operands change places. -/
def flipped : BinaryOperator → BinaryOperator
  | .lessThan => .greaterThan
  | .lessThanOrEqual => .greaterThanOrEqual
  | .greaterThan => .lessThan
  | .greaterThanOrEqual => .lessThanOrEqual
  | op => op

def symbol : BinaryOperator → String
  | .equal => "=="
  | .notEqual => "!="
  | .lessThan => "<"
  | .lessThanOrEqual => "<="
  | .greaterThan => ">"
  | .greaterThanOrEqual => ">="
  | .andAlso => "&&"
  | .orElse => "||"
  | .add => "+"
  | .subtract => "-"
  | .multiply => "*"
  | .divide => "/"
  | .modulo => "%"

def name : BinaryOperator → String
  | .equal => "Equal"
  | .notEqual => "NotEqual"
  | .lessThan => "LessThan"
  | .lessThanOrEqual => "LessThanOrEqual"
  | .greaterThan => "GreaterThan"
  | .greaterThanOrEqual => "GreaterThanOrEqual"
  | .andAlso => "AndAlso"
  | .orElse => "OrElse"
  | .add => "Add"
  | .subtract => "Subtract"
  | .multiply => "Multiply"
  | .divide => "Divide"
  | .modulo => "Modulo"

def all : List BinaryOperator :=
  [.equal, .notEqual, .lessThan, .lessThanOrEqual, .greaterThan, .greaterThanOrEqual, .andAlso,
    .orElse, .add, .subtract, .multiply, .divide, .modulo]

def ofName? (text : String) : Option BinaryOperator := all.find? (·.name == text)

end BinaryOperator

inductive UnaryOperator where
  | not
  | negate
  /-- A conversion of type; planning looks through it. -/
  | convert
  deriving DecidableEq

namespace UnaryOperator

def name : UnaryOperator → String
  | .not => "Not"
  | .negate => "Negate"
  | .convert => "Convert"

def all : List UnaryOperator := [.not, .negate, .convert]

def ofName? (text : String) : Option UnaryOperator := all.find? (·.name == text)

end UnaryOperator

/-! ## Expressions -/

inductive Expression where
  | constant (value : Json)
  /-- All documents of a type. -/
  | source (type : DocumentType)
  /-- The document that a lambda binds. -/
  | parameter (name : String)
  | member (target : Expression) (member : Member)
  | hitField (field : HitField)
  | binary (op : BinaryOperator) (left right : Expression)
  | unary (op : UnaryOperator) (operand : Expression)
  /-- A method call; its receiver is the first argument. -/
  | call (method : String) (args : List Expression)
  | lambda (parameter : String) (body : Expression)
  /-- An object made of named values. -/
  | construct (members : List (String × Expression))
  deriving Inhabited

namespace Expression

def constant? : Expression → Option Json
  | .constant value => some value
  | _ => none

/-- The parameter and the body of a lambda. -/
def lambda? : Expression → Option (String × Expression)
  | .lambda p body => some (p, body)
  | _ => none

mutual

/-- Whether a lambda parameter occurs in the expression. -/
def referencesParameter : Expression → Bool
  | .constant _ | .source _ | .hitField _ => false
  | .parameter _ => true
  | .member target _ => referencesParameter target
  | .binary _ left right => referencesParameter left || referencesParameter right
  | .unary _ operand => referencesParameter operand
  | .call _ args => argsReferenceParameter args
  | .lambda _ body => referencesParameter body
  | .construct members => membersReferenceParameter members

def argsReferenceParameter : List Expression → Bool
  | [] => false
  | e :: rest => referencesParameter e || argsReferenceParameter rest

def membersReferenceParameter : List (String × Expression) → Bool
  | [] => false
  | (_, e) :: rest => referencesParameter e || membersReferenceParameter rest

end

end Expression

end SearchQuery
