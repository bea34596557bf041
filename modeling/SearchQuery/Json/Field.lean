import SearchQuery.Json.Basic

/-!
# Reading members of objects

A structure is read from an object; a member with a default may be missing, but if it is there it
has to be of the right kind.
-/

namespace SearchQuery

namespace Json

def bool? : Json → Option Bool
  | .bool b => some b
  | _ => none

def members? : Json → Option (List (String × Json))
  | .obj members => some members
  | _ => none

/-- A reading in which null stands for nothing. -/
def nullable {α : Type} (read : Json → Option α) : Json → Option (Option α)
  | .null => some none
  | v => (read v).map some

/-- The member of that name, or the default if it is missing. -/
def fieldOr {α : Type} (name : String) (fallback : α) (read : Json → Option α)
    (members : List (String × Json)) : Option α :=
  match members.lookup name with
  | none => some fallback
  | some v => read v

/-- The member of that name, which must be there. -/
def field {α : Type} (name : String) (read : Json → Option α)
    (members : List (String × Json)) : Option α :=
  (members.lookup name).bind read

end Json

end SearchQuery
