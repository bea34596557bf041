import SearchQuery.Expression.Basic
import SearchQuery.Json.Printer

/-!
# The text of an expression

Constants are written as JSON, binary operations in parentheses; a conversion leaves no trace.
-/

namespace SearchQuery

namespace Expression

mutual

/-- The text of an expression, as messages quote it. -/
def display : Expression → String
  | .constant value => value.render
  | .source type => "source<" ++ type.name ++ ">"
  | .parameter name => name
  | .member target m => display target ++ "." ++ m.name
  | .hitField field => field.fieldName
  | .binary op left right =>
    "(" ++ display left ++ " " ++ op.symbol ++ " " ++ display right ++ ")"
  | .unary .not operand => "!" ++ display operand
  | .unary .negate operand => "-" ++ display operand
  | .unary .convert operand => display operand
  | .call method args => method ++ "(" ++ Text.join ", " (displayArgs args) ++ ")"
  | .lambda p body => p ++ " => " ++ display body
  | .construct members =>
    "new \x7b " ++ Text.join ", " (displayMembers members) ++ " \x7d"

def displayArgs : List Expression → List String
  | [] => []
  | e :: rest => display e :: displayArgs rest

def displayMembers : List (String × Expression) → List String
  | [] => []
  | (name, e) :: rest => (name ++ " = " ++ display e) :: displayMembers rest

end

end Expression

end SearchQuery
