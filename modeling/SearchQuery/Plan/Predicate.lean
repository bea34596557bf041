import SearchQuery.Criteria.Combine
import SearchQuery.Observation.Basic
import SearchQuery.Plan.Field

/-!
# Predicates

A predicate over a document becomes a criteria. What counts for the score cannot stay inside a
filter: where a conjunction or a disjunction has such a side, the side is lifted into the query of
the request, and a place holder is left where nothing else remains.

* `Expression.leafCriteria`: the criteria of a predicate without connectives.
* `Lowered`: a criteria together with the query of the request so far.
* `Expression.lower`: the criteria of any predicate, with the query it leaves.
-/

namespace SearchQuery

/-- A field compared with a constant. -/
structure FieldConstant where
  field : String
  member : Member
  value : Json
  /-- Whether the constant stands on the left. -/
  constantOnLeft : Bool

namespace Expression

/-! ## Leaves -/

section Leaves

variable (m : FieldMapping) (pathPrefix : String)

/-- The field on one side and the constant on the other. -/
def fieldConstant? (left right : Expression) : Option FieldConstant :=
  match left.field? m pathPrefix, right.constant? with
  | some (field, last), some v => some ⟨field, last, v, false⟩
  | _, _ =>
    match right.field? m pathPrefix, left.constant? with
    | some (field, last), some v => some ⟨field, last, v, true⟩
    | _, _ => none

/-- Equality with null means that the field is missing. -/
def equalCriteria (left right : Expression) : Except Error Criteria :=
  match fieldConstant? m pathPrefix left right with
  | some c =>
    .ok (if c.value.isNull then .missing c.field else .term c.field c.member c.value)
  | none => .error (.unsupported (.equality left right))

/-- Inequality with null means that the field is there. -/
def notEqualCriteria (left right : Expression) : Except Error Criteria :=
  match fieldConstant? m pathPrefix left right with
  | some c =>
    .ok (if c.value.isNull then .present c.field else .not (.term c.field c.member c.value))
  | none => .error (.unsupported (.inequality left right))

/-- The comparison of a range. -/
def comparison : BinaryOperator → RangeComparison
  | .greaterThan => .greaterThan
  | .greaterThanOrEqual => .greaterThanOrEqual
  | .lessThan => .lessThan
  | _ => .lessThanOrEqual

def rangeCriteria (op : BinaryOperator) (left right : Expression) : Except Error Criteria :=
  match fieldConstant? m pathPrefix left right with
  | some c =>
    .ok (.bound c.field c.member (comparison (if c.constantOnLeft then op.flipped else op)) c.value)
  | none => .error (.unsupported (.range left right))

/-- A field and a text for a method; other constants stand for their JSON text. -/
def fieldText (method : String) (receiver text : Expression) :
    Except Error (String × String) :=
  match fieldConstant? m pathPrefix receiver text with
  | some c => .ok (c.field, match c.value with | .str s => s | v => v.render)
  | none => .error (.unsupported (.needsMemberAndConstant method))

/-- Membership of a field in a set of values; one value stands for the set of it. -/
def termsCriteria (method : String) (execution : TermsExecution) (receiver values : Expression) :
    Except Error Criteria :=
  match fieldConstant? m pathPrefix receiver values with
  | some c => .ok (.membership c.field c.member (c.value.items?.getD [c.value]) (some execution))
  | none => .error (.unsupported (.needsMemberAndConstant method))

/-- Membership in a list of constants, in which null means that the field is missing. -/
def memberOfConstants (field : String) (last : Member) (values : List Json) :
    Except Error Criteria :=
  let nonNull := values.filter fun v => !v.isNull
  let hasNull := values.any Json.isNull
  let terms :=
    if nonNull.isEmpty && hasNull then [] else [Criteria.membership field last nonNull none]
  match Criteria.orAll (terms ++ if hasNull then [.missing field] else []) with
  | some c => .ok c
  | none => .error (.invalid .emptyContains)

/-- The wildcard pattern of a search text; a blank text matches everything. -/
def searchPattern (text : String) : String :=
  if (Text.trim text).isEmpty then "*" else "*" ++ text ++ "*"

/-- Whether a text can be searched for in a member of that type. -/
def isSearchable : ValueType → Bool
  | .string | .optional _ | .any => true
  | _ => false

/-- A sequence that contains a value, or a text that contains a text. -/
def containsConstant (receiver item : Expression) : Except Error Criteria :=
  match receiver.field? m pathPrefix with
  | none => .error (.unsupported (.containsOn receiver))
  | some (field, last) =>
    match item.constant? with
    | none => .error (.unsupported (.containsVariable item))
    | some v =>
      if last.valueType.isSequence then .ok (.membership field last [v] none)
      else
        match isSearchable last.valueType, v with
        | true, .str text => .ok (.substring field last (searchPattern text))
        | _, _ => .error (.unsupported (.containsBetween receiver item))

def containsCriteria (receiver item : Expression) : Except Error Criteria :=
  match receiver.constant?.bind Json.items?, item.field? m pathPrefix with
  | some values, some (field, last) => memberOfConstants field last values
  | _, _ => containsConstant m pathPrefix receiver item

/-- The criteria of a method call. -/
def callCriteria (method : String) (args : List Expression) : Except Error Criteria :=
  match method, args with
  | "contains", [receiver, item] => containsCriteria m pathPrefix receiver item
  | "equals", [left, right] => equalCriteria m pathPrefix left right
  | "contains_any", [receiver, values] =>
    termsCriteria m pathPrefix method .bool receiver values
  | "contains_all", [receiver, values] =>
    termsCriteria m pathPrefix method .and receiver values
  | "regexp", [receiver, text] =>
    (fieldText m pathPrefix method receiver text).map fun p => .regexp p.1 p.2
  | "prefix", [receiver, text] =>
    (fieldText m pathPrefix method receiver text).map fun p => .startsWith p.1 p.2
  | "any", [receiver] =>
    match receiver.field? m pathPrefix with
    | some (field, _) => .ok (.present field)
    | none => .error (.unsupported (.anyOn receiver))
  | "any", [receiver, values] => termsCriteria m pathPrefix method .bool receiver values
  | _, _ => .error (.unsupported (.methodInPredicate method args.length))

/-- The criteria of a binary operation that is no connective. -/
def comparisonCriteria (op : BinaryOperator) (left right : Expression) : Except Error Criteria :=
  match op with
  | .equal => equalCriteria m pathPrefix left right
  | .notEqual => notEqualCriteria m pathPrefix left right
  | .lessThan | .lessThanOrEqual | .greaterThan | .greaterThanOrEqual =>
    rangeCriteria m pathPrefix op left right
  | _ => .error (.unsupported (.operatorInPredicate op (.binary op left right)))

/-- The criteria of a predicate without connectives; what is always true needs no criteria. -/
def leafCriteria : Expression → Except Error Criteria
  | .constant (.bool true) => .ok (.nop [])
  | .constant (.bool false) => .ok (.not .matchAll)
  | .binary op left right => comparisonCriteria m pathPrefix op left right
  | .member target last =>
    match (Expression.member target last).booleanField? m pathPrefix with
    | some (field, resolved) => .ok (.term field resolved (.bool true))
    | none => .error (.unsupported (.notBooleanField (.member target last)))
  | .call method args => callCriteria m pathPrefix method args
  | e => .error (.unsupported (.predicate e))

end Leaves

end Expression

/-! ## Lifting -/

/-- The criteria of a predicate and the query of the request so far. -/
structure Lowered where
  criteria : Criteria
  query : Option Criteria
  deriving DecidableEq

namespace Lowered

/-- The two connectives. -/
inductive Connective where
  | and
  | or
  deriving DecidableEq

namespace Connective

def operator : Connective → BinaryOperator
  | .and => .andAlso
  | .or => .orElse

/-- Add a clause to the query. -/
def lift (op : Connective) (query : Option Criteria) (c : Criteria) : Criteria :=
  match op with
  | .and => Criteria.boolMust query c
  | .or => Criteria.boolShould query c

/-- Add the sides that count for the score to the query. -/
def liftSides (op : Connective) (query : Option Criteria) (sides : List Criteria) :
    Option Criteria :=
  (sides.filter Criteria.isQueryContext).foldl (fun q c => some (op.lift q c)) query

def combine (op : Connective) (left right : Criteria) : Option Criteria :=
  match op with
  | .and => Criteria.andAll [left, right]
  | .or => Criteria.orAll [left, right]

/-- Join two sides none of which counts for the score. A side that is always true is dropped. -/
def joinFilters (op : Connective) (left right : Criteria) : Except Error Criteria :=
  if left.isNop then .ok right
  else if right.isNop then .ok left
  else
    match op.combine left right with
    | some c => .ok c
    | none => .error (.invalid .emptyCombination)

/-- What remains of two sides when those that count for the score are lifted. -/
def remainder (left right : Criteria) : Criteria :=
  if !left.isQueryContext then left
  else if !right.isQueryContext then right
  else .nop [left, right]

/-- Join two sides of a connective. -/
def join (op : Connective) (query : Option Criteria) (left right : Criteria) : Traced Lowered :=
  if left.isQueryContext || right.isQueryContext then do
    Traced.event (.liftedScoring op.operator)
    return ⟨remainder left right, op.liftSides query [left, right]⟩
  else do
    let c ← Traced.ofExcept (op.joinFilters left right)
    return ⟨c, query⟩

end Connective

/-- Whether a query is the same as before. -/
def sameQuery (a b : Option Criteria) : Bool := a.map Criteria.canonical == b.map Criteria.canonical

/-- The negation of a predicate that was lowered from a query and has to leave it alone. -/
def negate (before : Option Criteria) (operand : Expression) (lowered : Lowered) :
    Except Error Lowered :=
  if lowered.criteria.isQueryContext || !sameQuery lowered.query before then
    .error (.unsupported (.negatedScoring operand))
  else
    .ok ⟨.not (if lowered.criteria.isNop then .matchAll else lowered.criteria), lowered.query⟩

end Lowered

/-! ## Predicates -/

namespace Expression

/-- The criteria of a predicate, given the query of the request so far. -/
def lower (m : FieldMapping) (pathPrefix : String) (query : Option Criteria) :
    Expression → Traced Lowered
  | .binary .andAlso left right => do
    let l ← lower m pathPrefix query left
    let r ← lower m pathPrefix l.query right
    Lowered.Connective.and.join r.query l.criteria r.criteria
  | .binary .orElse left right => do
    let l ← lower m pathPrefix query left
    let r ← lower m pathPrefix l.query right
    Lowered.Connective.or.join r.query l.criteria r.criteria
  | .unary .convert operand => lower m pathPrefix query operand
  | .unary .not operand =>
    match operand.booleanField? m pathPrefix with
    | some (field, last) => return ⟨.term field last (.bool false), query⟩
    | none => do
      let lowered ← lower m pathPrefix query operand
      Traced.ofExcept (lowered.negate query operand)
  | e => do
    let c ← Traced.ofExcept (e.leafCriteria m pathPrefix)
    return ⟨c, query⟩

/-- The criteria of a predicate given as a lambda. -/
def lowerLambda (m : FieldMapping) (pathPrefix : String) (query : Option Criteria)
    (predicate : Expression) : Traced Lowered :=
  match predicate.lambda? with
  | some (_, body) => body.lower m pathPrefix query
  | none => Traced.fail (.unsupported (.predicateNotLambda predicate))

end Expression

end SearchQuery
