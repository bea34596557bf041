import SearchQuery.Criteria.Display
import SearchQuery.Expression.Display
import SearchQuery.Expression.Evaluation

/-!
# Errors

An error is the cause for which a query cannot be planned, written or answered. Its kind is a
stable label, and `Error.message` is the one place where causes are put into words.
-/

namespace SearchQuery

namespace Error

/-! ## Kinds -/

inductive Kind where
  | unsupportedExpression
  | invalidCriteria
  | evaluation
  | multipleResults
  | noResult
  | formatterInternal
  | projection
  | json
  deriving DecidableEq

namespace Kind

def label : Kind → String
  | .unsupportedExpression => "unsupported_expression"
  | .invalidCriteria => "invalid_criteria"
  | .evaluation => "evaluation"
  | .multipleResults => "multiple_results"
  | .noResult => "no_result"
  | .formatterInternal => "formatter_internal"
  | .projection => "projection"
  | .json => "json"

def all : List Kind :=
  [.unsupportedExpression, .invalidCriteria, .evaluation, .multipleResults, .noResult,
    .formatterInternal, .projection, .json]

def ofLabel? (label : String) : Option Kind := all.find? (·.label == label)

/-- The message of an error of this kind with these details. -/
def message (kind : Kind) (details : String) : String :=
  match kind with
  | .unsupportedExpression => "Unsupported expression: " ++ details
  | .invalidCriteria => "Invalid criteria: " ++ details
  | .evaluation => "Evaluation failed: " ++ details
  | .multipleResults => "Sequence contains more than one element"
  | .noResult => "Sequence contains no elements"
  | .formatterInternal => "Formatter internal error: " ++ details
  | .projection => "Projection error: " ++ details
  | .json => "JSON error: " ++ details

/-- Whether such an error hangs on the documents found and not on the query. -/
def isDataDependent : Kind → Bool
  | .multipleResults | .noResult => true
  | _ => false

end Kind

/-! ## Causes -/

/-- A part of a query that has no counterpart in a search request. -/
inductive Unsupported where
  | predicateNotLambda (predicate : Expression)
  | operatorInPredicate (op : BinaryOperator) (predicate : Expression)
  | notBooleanField (member : Expression)
  | predicate (predicate : Expression)
  | negatedScoring (predicate : Expression)
  | equality (left right : Expression)
  | inequality (left right : Expression)
  | range (left right : Expression)
  | anyOn (receiver : Expression)
  | methodInPredicate (method : String) (args : Nat)
  | needsMemberAndConstant (method : String)
  | containsOn (receiver : Expression)
  | containsVariable (item : Expression)
  | containsBetween (receiver item : Expression)
  | querySource (source : Expression)
  | methodWithoutSource (method : String)
  | queryStringArgument (argument : Expression)
  | groupByAlone
  | methodArguments (method : String) (args : Nat)
  | orderingKeyNotLambda (key : Expression)
  | orderingBy (key : Expression)
  | secondSelect
  | countArgument (method : String) (argument : Expression)
  | noSource
  | selectNotLambda (selector : Expression)
  | projectedMember (member : Expression)
  | projection (projected : Expression)
  | aggregateNotLambda (selector : Expression)
  | groupKeyNotLambda (selector : Expression)
  | groupKey (key : Expression)
  | aggregateProjection (projected : Expression)
  | aggregate (method : String)
  | scoringInAggregate (predicate : Expression)
  | selectorNotLambda (selector : Expression)
  | aggregateOver (selected : Expression)
  | aggregateArguments (method : String) (args : Nat)

/-- A criteria that has no written form. -/
inductive Malformed where
  | emptyCombination
  | emptyContains
  | emptyCompound (kind : String)
  | emptyBool
  deriving DecidableEq

/-- A value that a projection cannot read. -/
inductive Unreadable where
  | documentInAggregate
  | fieldInAggregate (path : String)
  | metadataInAggregate (field : HitField)
  | groupKeyOfHit
  | aggregateOfHit (facet : String)
  | noSource (id : String)
  | method (method : String)
  deriving DecidableEq

private def quoted (e : Expression) : String := "'" ++ e.display ++ "'"

def Unsupported.details : Unsupported → String
  | .predicateNotLambda e => "predicate " ++ quoted e ++ " is not a lambda"
  | .operatorInPredicate op e => "binary operator " ++ op.name ++ " in predicate " ++ quoted e
  | .notBooleanField e => "member " ++ quoted e ++ " is not a boolean field"
  | .predicate e => "predicate " ++ quoted e
  | .negatedScoring e => "negated query-context predicate " ++ quoted e
  | .equality l r => "equality between " ++ quoted l ++ " and " ++ quoted r
  | .inequality l r => "inequality between " ++ quoted l ++ " and " ++ quoted r
  | .range l r => "range between " ++ quoted l ++ " and " ++ quoted r
  | .anyOn e => "any() on " ++ quoted e
  | .methodInPredicate method n =>
    "method '" ++ method ++ "' with " ++ toString n ++ " argument(s) in predicate"
  | .needsMemberAndConstant method => method ++ " must be between a member and a constant"
  | .containsOn e => "contains() on " ++ quoted e
  | .containsVariable e => "contains() argument " ++ quoted e ++ " is not a constant"
  | .containsBetween e item => "contains() on " ++ quoted e ++ " with " ++ quoted item
  | .querySource e => "query source " ++ quoted e
  | .methodWithoutSource method => "method '" ++ method ++ "' without a source"
  | .queryStringArgument e => "query_string argument " ++ quoted e
  | .groupByAlone => "group_by must be followed by an aggregate select"
  | .methodArguments method n => "method '" ++ method ++ "' with " ++ toString n ++ " argument(s)"
  | .orderingKeyNotLambda e => "ordering key " ++ quoted e ++ " is not a lambda"
  | .orderingBy e => "ordering by " ++ quoted e
  | .secondSelect => "more than one select projection"
  | .countArgument method e => method ++ " count " ++ quoted e
  | .noSource => "query without a document source"
  | .selectNotLambda e => "select " ++ quoted e ++ " is not a lambda"
  | .projectedMember e => "projected member " ++ quoted e
  | .projection e => "projection " ++ quoted e
  | .aggregateNotLambda e => "aggregate projection " ++ quoted e ++ " is not a lambda"
  | .groupKeyNotLambda e => "group key " ++ quoted e ++ " is not a lambda"
  | .groupKey e => "group key " ++ quoted e
  | .aggregateProjection e => "aggregate projection " ++ quoted e
  | .aggregate method => "aggregate '" ++ method ++ "'"
  | .scoringInAggregate e => "query-context predicate " ++ quoted e ++ " inside an aggregate"
  | .selectorNotLambda e => "aggregate selector " ++ quoted e ++ " is not a lambda"
  | .aggregateOver e => "aggregate over " ++ quoted e
  | .aggregateArguments method n =>
    "aggregate '" ++ method ++ "' with " ++ toString n ++ " argument(s)"

def Malformed.details : Malformed → String
  | .emptyCombination => "empty logical combination"
  | .emptyContains => "empty contains"
  | .emptyCompound kind => "'" ++ kind ++ "' with no criteria"
  | .emptyBool => "bool query with no must, should or must_not clauses"

def Unreadable.details : Unreadable → String
  | .documentInAggregate => "document is not available in an aggregate row"
  | .fieldInAggregate path => "field '" ++ path ++ "' is not available in an aggregate row"
  | .metadataInAggregate field => field.fieldName ++ " is not available in an aggregate row"
  | .groupKeyOfHit => "group key outside an aggregate"
  | .aggregateOfHit facet => "aggregate '" ++ facet ++ "' outside an aggregate"
  | .noSource id => "hit '" ++ id ++ "' has no _source"
  | .method name => "method '" ++ name ++ "' cannot be evaluated on results"

end Error

/-! ## Errors -/

inductive Error where
  | unsupported (cause : Error.Unsupported)
  | invalid (cause : Error.Malformed)
  | evaluation (fault : Fault)
  | multipleResults
  | noResult
  /-- A criteria that only holds the place of another was to be written. -/
  | placeholder (criteria : Criteria)
  | projection (cause : Error.Unreadable)
  /-- A result is not of the type asked for. -/
  | mistyped

namespace Error

def kind : Error → Kind
  | .unsupported _ => .unsupportedExpression
  | .invalid _ => .invalidCriteria
  | .evaluation _ => .evaluation
  | .multipleResults => .multipleResults
  | .noResult => .noResult
  | .placeholder _ => .formatterInternal
  | .projection _ => .projection
  | .mistyped => .json

def details : Error → String
  | .unsupported cause => cause.details
  | .invalid cause => cause.details
  | .evaluation fault => fault.message
  | .placeholder criteria => "placeholder criteria reached the formatter: " ++ criteria.display
  | .projection cause => cause.details
  | .multipleResults | .noResult => ""
  | .mistyped => "result is not of the expected type"

def message (e : Error) : String := e.kind.message e.details

end Error

end SearchQuery
