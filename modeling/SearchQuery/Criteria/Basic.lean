import SearchQuery.Expression.Basic

/-!
# Criteria

A criteria is the condition tree that is sent to the search engine. Leaves carry the field path on
the wire together with the member it comes from, so that values can be formatted by the mapping
when the request is written.

Wildcards, query strings and bool nodes count for the score of a hit and belong into the query of a
request; all others are filters. A `nop` stands for criteria that were moved elsewhere.
-/

namespace SearchQuery

/-- The comparison of one bound of a range. -/
inductive RangeComparison where
  | greaterThan
  | greaterThanOrEqual
  | lessThan
  | lessThanOrEqual
  deriving DecidableEq

namespace RangeComparison

def name : RangeComparison → String
  | .greaterThan => "gt"
  | .greaterThanOrEqual => "gte"
  | .lessThan => "lt"
  | .lessThanOrEqual => "lte"

def all : List RangeComparison :=
  [.greaterThan, .greaterThanOrEqual, .lessThan, .lessThanOrEqual]

def ofName? (text : String) : Option RangeComparison := all.find? (·.name == text)

def isLowerBound : RangeComparison → Bool
  | .greaterThan | .greaterThanOrEqual => true
  | _ => false

end RangeComparison

structure RangeBound where
  comparison : RangeComparison
  value : Json
  deriving DecidableEq

/-- How a set of values is matched; `and` asks for all of them, the others for one. -/
inductive TermsExecution where
  | plain
  | fielddata
  | bool
  | and
  | or
  deriving DecidableEq

namespace TermsExecution

def name : TermsExecution → String
  | .plain => "plain"
  | .fielddata => "fielddata"
  | .bool => "bool"
  | .and => "and"
  | .or => "or"

def all : List TermsExecution := [.plain, .fielddata, .bool, .and, .or]

def ofName? (text : String) : Option TermsExecution := all.find? (·.name == text)

end TermsExecution

inductive Criteria where
  | term (field : String) (member : Member) (value : Json)
  | terms (field : String) (member : Member) (values : List Json)
      (execution : Option TermsExecution)
  | range (field : String) (member : Member) (bounds : List RangeBound)
  | startsWith (field : String) (text : String)
  | regexp (field : String) (pattern : String)
  | wildcard (field : String) (member : Member) (pattern : String)
  | queryString (query : String) (fields : List String)
  | present (field : String)
  | missing (field : String)
  | matchAll
  | not (inner : Criteria)
  | and (children : List Criteria)
  | or (children : List Criteria)
  | bool (must mustNot should : List Criteria)
  /-- Holds the place of criteria that were moved elsewhere. -/
  | nop (children : List Criteria)
  deriving Inhabited

namespace Criteria

/-! ## Equality -/

mutual

private def beq : Criteria → Criteria → Bool
  | .term f m v, .term f' m' v' => f == f' && m == m' && v == v'
  | .terms f m vs x, .terms f' m' vs' x' => f == f' && m == m' && vs == vs' && x == x'
  | .range f m bs, .range f' m' bs' => f == f' && m == m' && bs == bs'
  | .startsWith f t, .startsWith f' t' => f == f' && t == t'
  | .regexp f p, .regexp f' p' => f == f' && p == p'
  | .wildcard f m p, .wildcard f' m' p' => f == f' && m == m' && p == p'
  | .queryString q fs, .queryString q' fs' => q == q' && fs == fs'
  | .present f, .present f' => f == f'
  | .missing f, .missing f' => f == f'
  | .matchAll, .matchAll => true
  | .not a, .not b => beq a b
  | .and as, .and bs => beqList as bs
  | .or as, .or bs => beqList as bs
  | .bool a b c, .bool a' b' c' => beqList a a' && beqList b b' && beqList c c'
  | .nop as, .nop bs => beqList as bs
  | _, _ => false

private def beqList : List Criteria → List Criteria → Bool
  | [], [] => true
  | a :: as, b :: bs => beq a b && beqList as bs
  | _, _ => false

end

mutual

private theorem beq_iff : (a b : Criteria) → (beq a b = true ↔ a = b)
  | .term .., b => by cases b <;> simp [beq, and_assoc]
  | .terms .., b => by cases b <;> simp [beq, and_assoc]
  | .range .., b => by cases b <;> simp [beq, and_assoc]
  | .startsWith .., b => by cases b <;> simp [beq]
  | .regexp .., b => by cases b <;> simp [beq]
  | .wildcard .., b => by cases b <;> simp [beq, and_assoc]
  | .queryString .., b => by cases b <;> simp [beq]
  | .present _, b => by cases b <;> simp [beq]
  | .missing _, b => by cases b <;> simp [beq]
  | .matchAll, b => by cases b <;> simp [beq]
  | .not a, b => by cases b <;> simp [beq, beq_iff a]
  | .and as, b => by cases b <;> simp [beq, beqList_iff as]
  | .or as, b => by cases b <;> simp [beq, beqList_iff as]
  | .bool x y z, b => by
    cases b <;> simp [beq, beqList_iff x, beqList_iff y, beqList_iff z, and_assoc]
  | .nop as, b => by cases b <;> simp [beq, beqList_iff as]

private theorem beqList_iff : (a b : List Criteria) → (beqList a b = true ↔ a = b)
  | [], b => by cases b <;> simp [beqList]
  | a :: as, b => by cases b <;> simp [beqList, beq_iff a, beqList_iff as]

end

instance : DecidableEq Criteria := fun a b => decidable_of_iff _ (beq_iff a b)

/-! ## Sameness -/

end Criteria

def RangeBound.canonical (b : RangeBound) : RangeBound := ⟨b.comparison, b.value.canonical⟩

/-- The same comparison with the same value. -/
def RangeBound.same (a b : RangeBound) : Bool := a.canonical == b.canonical

namespace Criteria

mutual

/-- The criteria with every value in its canonical form. -/
def canonical : Criteria → Criteria
  | .term f m v => .term f m v.canonical
  | .terms f m vs x => .terms f m (vs.map Json.canonical) x
  | .range f m bs => .range f m (bs.map RangeBound.canonical)
  | .not inner => .not (canonical inner)
  | .and children => .and (canonicalList children)
  | .or children => .or (canonicalList children)
  | .bool must mustNot should =>
    .bool (canonicalList must) (canonicalList mustNot) (canonicalList should)
  | .nop children => .nop (canonicalList children)
  | c => c

def canonicalList : List Criteria → List Criteria
  | [] => []
  | c :: rest => canonical c :: canonicalList rest

end

/-- Two criteria are the same when they agree up to the sameness of their values. -/
def same (a b : Criteria) : Bool := a.canonical == b.canonical

/-! ## Shape -/

/-- The kind on the wire. -/
def kind : Criteria → String
  | .term .. => "term"
  | .terms .. => "terms"
  | .range .. => "range"
  | .startsWith .. => "prefix"
  | .regexp .. => "regexp"
  | .wildcard .. => "wildcard"
  | .queryString .. => "query_string"
  | .present _ => "exists"
  | .missing _ => "missing"
  | .matchAll => "match_all"
  | .not _ => "not"
  | .and _ => "and"
  | .or _ => "or"
  | .bool .. => "bool"
  | .nop _ => "NOP"

/-- Whether the criteria counts for the score at its root. -/
def isQueryContext : Criteria → Bool
  | .wildcard .. | .queryString .. | .bool .. => true
  | _ => false

def isNop : Criteria → Bool
  | .nop _ => true
  | _ => false

mutual

/-- The number of leaves under the compound nodes. -/
def leafCount : Criteria → Nat
  | .not inner => leafCount inner
  | .and children | .or children | .nop children => leafCountList children
  | .bool must mustNot should =>
    leafCountList must + leafCountList mustNot + leafCountList should
  | _ => 1

def leafCountList : List Criteria → Nat
  | [] => 0
  | c :: rest => leafCount c + leafCountList rest

end

end Criteria

end SearchQuery
