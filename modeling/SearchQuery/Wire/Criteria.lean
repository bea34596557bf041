import SearchQuery.Criteria.Combine
import SearchQuery.Error
import SearchQuery.Mapping.Basic

/-!
# Criteria in a request body

A criteria is written as an object with one member, named for its kind. A compound of one child is
written as the child; an empty compound, a bool node without clauses and a place holder have no
written form.
-/

namespace SearchQuery

namespace Criteria

/-- An object with one member. -/
def single (name : String) (v : Json) : Json := .obj [(name, v)]

/-- The bounds of a range; a later bound takes the place of one with the same comparison. -/
def boundMembers (m : FieldMapping) (member : Member) (bounds : List RangeBound) :
    List (String × Json) :=
  Json.collectMembers (bounds.map fun b => (b.comparison.name, m.formatValue member b.value))

/-- The values of a set and how to match them. -/
def termsMembers (m : FieldMapping) (field : String) (member : Member) (values : List Json)
    (execution : Option TermsExecution) : List (String × Json) :=
  let listed := [(field, Json.arr (values.map (m.formatValue member)))]
  match execution with
  | some mode => Json.insertMember "execution" (.str mode.name) listed
  | none => listed

def queryStringMembers (query : String) (fields : List String) : List (String × Json) :=
  ("query", .str query) ::
    (if fields.isEmpty then [] else [("fields", .arr (fields.map .str))])

/-- The clauses of a bool node under one name, if there are any. -/
def clauseMember (name : String) (clauses : List Json) : List (String × Json) :=
  if clauses.isEmpty then [] else [(name, .arr clauses)]

mutual

/-- The form of a criteria in a request body. -/
def toBody (m : FieldMapping) : Criteria → Except Error Json
  | .term f member v => .ok (single "term" (single f (m.formatValue member v)))
  | .terms f member vs x => .ok (single "terms" (.obj (termsMembers m f member vs x)))
  | .range f member bs => .ok (single "range" (single f (.obj (boundMembers m member bs))))
  | .startsWith f t => .ok (single "prefix" (single f (.str t)))
  | .regexp f p => .ok (single "regexp" (single f (.str p)))
  | .wildcard f member p => .ok (single "wildcard" (single f (m.formatValue member (.str p))))
  | .queryString q fs => .ok (single "query_string" (.obj (queryStringMembers q fs)))
  | .present f => .ok (single "exists" (single "field" (.str f)))
  | .missing f => .ok (single "missing" (single "field" (.str f)))
  | .matchAll => .ok (single "match_all" (.obj []))
  | .not inner => do
    let body ← toBody m inner
    return single "not" body
  | .and [] => .error (.invalid (.emptyCompound "and"))
  | .and [c] => toBody m c
  | .and children => do
    let bodies ← listToBody m children
    return single "and" (.arr bodies)
  | .or [] => .error (.invalid (.emptyCompound "or"))
  | .or [c] => toBody m c
  | .or children => do
    let bodies ← listToBody m children
    return single "or" (.arr bodies)
  | .bool must mustNot should => do
    let musts ← listToBody m must
    let shoulds ← listToBody m should
    let mustNots ← listToBody m mustNot
    match clauseMember "must" musts ++ clauseMember "should" shoulds ++
      clauseMember "must_not" mustNots with
    | [] => throw (.invalid .emptyBool)
    | clauses => return single "bool" (.obj clauses)
  | .nop children => .error (.placeholder (.nop children))

def listToBody (m : FieldMapping) : List Criteria → Except Error (List Json)
  | [] => .ok []
  | c :: rest => do
    let body ← toBody m c
    let bodies ← listToBody m rest
    return body :: bodies

end

end Criteria

end SearchQuery
