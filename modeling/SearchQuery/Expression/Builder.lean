import SearchQuery.Expression.Basic

/-!
# Building expressions

One function per operator and method. Those that take a source or a receiver take it first, so that
a chain reads in order of application.
-/

namespace SearchQuery

/-- The member through which a projection over groups reads the key of its group. -/
def Member.groupKey : Member := ⟨"Key", .any⟩

namespace Expression

def null : Expression := .constant .null
def score : Expression := .hitField .score
def id : Expression := .hitField .id

/-! ## Values -/

def equal (left right : Expression) : Expression := .binary .equal left right
def notEqual (left right : Expression) : Expression := .binary .notEqual left right
def greaterThan (left right : Expression) : Expression := .binary .greaterThan left right
def greaterOrEqual (left right : Expression) : Expression :=
  .binary .greaterThanOrEqual left right
def lessThan (left right : Expression) : Expression := .binary .lessThan left right
def lessOrEqual (left right : Expression) : Expression := .binary .lessThanOrEqual left right
def andAlso (left right : Expression) : Expression := .binary .andAlso left right
def orElse (left right : Expression) : Expression := .binary .orElse left right
def add (left right : Expression) : Expression := .binary .add left right
def subtract (left right : Expression) : Expression := .binary .subtract left right
def multiply (left right : Expression) : Expression := .binary .multiply left right
def divide (left right : Expression) : Expression := .binary .divide left right
def not (operand : Expression) : Expression := .unary .not operand
def negate (operand : Expression) : Expression := .unary .negate operand
def convert (operand : Expression) : Expression := .unary .convert operand

/-! ## Conditions -/

def contains (receiver item : Expression) : Expression := .call "contains" [receiver, item]
def containsAny (receiver values : Expression) : Expression :=
  .call "contains_any" [receiver, values]
def containsAll (receiver values : Expression) : Expression :=
  .call "contains_all" [receiver, values]
def regexp (receiver pattern : Expression) : Expression := .call "regexp" [receiver, pattern]
def hasPrefix (receiver start : Expression) : Expression := .call "prefix" [receiver, start]
def any (receiver : Expression) : Expression := .call "any" [receiver]

/-! ## Query operators -/

def filterBy (query predicate : Expression) : Expression := .call "where" [query, predicate]
/-- Filter by a predicate that always counts for the score. -/
def scoreBy (query predicate : Expression) : Expression := .call "query" [query, predicate]
def matchText (query : Expression) (text : String) : Expression :=
  .call "query_string" [query, .constant (.str text)]
def select (query projection : Expression) : Expression := .call "select" [query, projection]
def orderBy (query key : Expression) : Expression := .call "order_by" [query, key]
def orderByDescending (query key : Expression) : Expression :=
  .call "order_by_descending" [query, key]
def thenBy (query key : Expression) : Expression := .call "then_by" [query, key]
def thenByDescending (query key : Expression) : Expression :=
  .call "then_by_descending" [query, key]
def orderByScore (query : Expression) : Expression := .call "order_by_score" [query]
def orderByScoreDescending (query : Expression) : Expression :=
  .call "order_by_score_descending" [query]
def thenByScore (query : Expression) : Expression := .call "then_by_score" [query]
def thenByScoreDescending (query : Expression) : Expression :=
  .call "then_by_score_descending" [query]
def skip (query : Expression) (count : Int) : Expression :=
  .call "skip" [query, .constant (.int count)]
def take (query : Expression) (count : Int) : Expression :=
  .call "take" [query, .constant (.int count)]
def first (query : Expression) : Expression := .call "first" [query]
def firstOrDefault (query : Expression) : Expression := .call "first_or_default" [query]
def single (query : Expression) : Expression := .call "single" [query]
def singleOrDefault (query : Expression) : Expression := .call "single_or_default" [query]
def count (query : Expression) : Expression := .call "count" [query]
/-- A terminal operator with a predicate. -/
def terminalWhere (query : Expression) (method : String) (predicate : Expression) : Expression :=
  .call method [query, predicate]

/-! ## Groups -/

def groupBy (query key : Expression) : Expression := .call "group_by" [query, key]
def key (group : Expression) : Expression := .member group .groupKey
def countWhere (group predicate : Expression) : Expression := .call "count" [group, predicate]
def sum (group selector : Expression) : Expression := .call "sum" [group, selector]
def min (group selector : Expression) : Expression := .call "min" [group, selector]
def max (group selector : Expression) : Expression := .call "max" [group, selector]
def average (group selector : Expression) : Expression := .call "average" [group, selector]

end Expression

end SearchQuery
