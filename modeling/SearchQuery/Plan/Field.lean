import SearchQuery.Mapping.Basic

/-!
# Fields of documents

A chain of member accesses on the document that a lambda binds stands for a field. Each member is
mapped below the path of the members before it.
-/

namespace SearchQuery

namespace Expression

/-- The path and the last member of a chain of member accesses; conversions are looked through. -/
def memberPath? (m : FieldMapping) (pathPrefix : String) :
    Expression → Option (String × Member)
  | .unary .convert operand => memberPath? m pathPrefix operand
  | .member (.parameter _) last => some (m.fieldName pathPrefix last, last)
  | .member target last => do
    let parent ← memberPath? m pathPrefix target
    return (m.fieldName parent.1 last, last)
  | _ => none

/-- A field of a document, or metadata of its hit. -/
def field? (m : FieldMapping) (pathPrefix : String) : Expression → Option (String × Member)
  | .hitField f => some (f.fieldName, f.asMember)
  | .unary .convert operand => field? m pathPrefix operand
  | e => memberPath? m pathPrefix e

/-- A field that is a condition by itself. -/
def booleanField? (m : FieldMapping) (pathPrefix : String) (e : Expression) :
    Option (String × Member) :=
  (e.field? m pathPrefix).filter fun field => field.2.valueType.isBoolean

end Expression

end SearchQuery
