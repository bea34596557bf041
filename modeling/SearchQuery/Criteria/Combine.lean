import SearchQuery.Criteria.Basic
import SearchQuery.Text.Case

/-!
# Combining criteria

Combining into a compound of the same kind appends to it instead of nesting. Nothing here collapses
a compound of one child; that happens when the request is written.

* `membership`, `substring`: the leaves whose arguments are brought into a normal form first.
* `andAll`, `orAll`: conjunction and disjunction of a list, `none` for an empty one.
* `mergeRanges`: two ranges on one field that bound different sides become one.
* `boolMust`, `boolShould`: append a clause to a bool node, which is created if need be.
-/

namespace SearchQuery

/-! ## Bounds of ranges -/

namespace RangeBound

def isIn (b : RangeBound) (bounds : List RangeBound) : Bool := bounds.any (·.same b)

/-- Append a bound unless the same one is there. -/
def pushNew (bounds : List RangeBound) (b : RangeBound) : List RangeBound :=
  if b.isIn bounds then bounds else bounds ++ [b]

/-- Append the bounds that are not there yet, each once. -/
def extend (bounds more : List RangeBound) : List RangeBound := more.foldl pushNew bounds

/-- Whether at most one lower and one upper bound would be left when the new ones are added. -/
def canCombine (bounds more : List RangeBound) : Bool :=
  let all := bounds ++ more.filter fun b => !b.isIn bounds
  all.countP (·.comparison.isLowerBound) ≤ 1 && all.countP (!·.comparison.isLowerBound) ≤ 1

end RangeBound

namespace Criteria

/-! ## Leaves -/

/-- Membership in a set of values; a set of one value is a plain term. -/
def membership (field : String) (m : Member) (values : List Json)
    (execution : Option TermsExecution) : Criteria :=
  match Json.distinct values with
  | [v] => .term field m v
  | distinct => .terms field m distinct execution

def bound (field : String) (m : Member) (comparison : RangeComparison) (value : Json) : Criteria :=
  .range field m [⟨comparison, value⟩]

/-- A wildcard match; analyzed fields hold lower-case text, so the pattern does too. -/
def substring (field : String) (m : Member) (pattern : String) : Criteria :=
  .wildcard field m (Text.lower pattern)

def text (query : String) : Criteria := .queryString query []

/-! ## Conjunction and disjunction -/

/-- Add bounds to the first range on the field that can take them. -/
def mergeBounds (field : String) (m : Member) (more : List RangeBound) :
    List Criteria → List Criteria
  | [] => [.range field m more]
  | .range f m' bounds :: rest =>
    if f = field ∧ RangeBound.canCombine bounds more then
      .range f m' (RangeBound.extend bounds more) :: rest
    else .range f m' bounds :: mergeBounds field m more rest
  | c :: rest => c :: mergeBounds field m more rest

/-- Append a criteria, a range by merging its bounds. -/
def mergeOne (merged : List Criteria) (c : Criteria) : List Criteria :=
  match c with
  | .range field m bounds => mergeBounds field m bounds merged
  | c => merged ++ [c]

/-- Fold every range into an earlier one on the same field where the two do not clash. -/
def mergeRanges (criteria : List Criteria) : List Criteria := criteria.foldl mergeOne []

def conjuncts : Criteria → List Criteria
  | .and children => children
  | c => [c]

def disjuncts : Criteria → List Criteria
  | .or children => children
  | c => [c]

/-- The conjunction of a list, flattened and with its ranges merged. -/
def andAll (criteria : List Criteria) : Option Criteria :=
  match mergeRanges (criteria.flatMap conjuncts) with
  | [] => none
  | [c] => some c
  | merged => some (.and merged)

/-- The disjunction of a list, flattened. -/
def orAll (criteria : List Criteria) : Option Criteria :=
  match criteria.flatMap disjuncts with
  | [] => none
  | [c] => some c
  | flat => some (.or flat)

/-- The conjunction of what there is so far and a new criteria. -/
def andInto (current : Option Criteria) (new : Criteria) : Criteria :=
  match current with
  | none => new
  | some root => (andAll [root, new]).getD (.and [])

/-! ## Bool nodes -/

/-- Add a clause that must hold. -/
def boolMust (current : Option Criteria) (new : Criteria) : Criteria :=
  match current with
  | none => .bool [new] [] []
  | some (.bool must mustNot should) => .bool (must ++ [new]) mustNot should
  | some root => .bool [root, new] [] []

/-- Add a clause that should hold. -/
def boolShould (current : Option Criteria) (new : Criteria) : Criteria :=
  match current with
  | none => .bool [] [] [new]
  | some (.bool must mustNot should) => .bool must mustNot (should ++ [new])
  | some root => .bool [] [] [root, new]

end Criteria

end SearchQuery
