import SearchQuery.Criteria.Basic

/-!
# Search requests

What a query asks of the search engine: a filter and a scoring query over the documents of a type,
the fields to return, the order and the page of the hits, and facets to count.
-/

namespace SearchQuery

structure SortOption where
  name : String
  ascending : Bool
  /-- Whether documents without the field are left aside. -/
  ignoreUnmapped : Bool
  deriving DecidableEq

/-- An aggregate that the engine computes under a name. -/
inductive Facet where
  /-- Counts the documents that satisfy a criteria. -/
  | filter (name : String) (criteria : Criteria)
  /-- Counts documents by the value of the fields. -/
  | terms (name : String) (fields : List String) (size : Option Nat) (criteria : Option Criteria)
  /-- Statistics of the fields over all documents. -/
  | statistical (name : String) (fields : List String) (criteria : Option Criteria)
  /-- Statistics of one field by the value of another. -/
  | termsStats (name : String) (keyField valueField : String) (size : Option Nat)
      (criteria : Option Criteria)
  deriving DecidableEq

namespace Facet

def name : Facet → String
  | .filter name _ | .terms name _ _ _ | .statistical name _ _ | .termsStats name _ _ _ _ => name

/-- The kind on the wire. -/
def kind : Facet → String
  | .filter .. => "filter"
  | .terms .. => "terms"
  | .statistical .. => "statistical"
  | .termsStats .. => "terms_stats"

/-- The criteria that restricts the facet. -/
def criteria? : Facet → Option Criteria
  | .filter _ criteria => some criteria
  | .terms _ _ _ criteria | .statistical _ _ criteria | .termsStats _ _ _ _ criteria => criteria

def size? : Facet → Option Nat
  | .terms _ _ size _ | .termsStats _ _ _ size _ => size
  | _ => none

/-- Limit the number of groups, where the facet has groups. -/
def withSize (size : Nat) : Facet → Facet
  | .terms name fields _ criteria => .terms name fields (some size) criteria
  | .termsStats name keyField valueField _ criteria =>
    .termsStats name keyField valueField (some size) criteria
  | facet => facet

end Facet

structure SearchRequest where
  documentType : String
  filter : Option Criteria
  query : Option Criteria
  /-- The fields to return; the whole document when there are none. -/
  fields : List String
  /-- The sort keys, most significant first. -/
  sortOptions : List SortOption
  /-- The number of hits to leave out in front. -/
  skipped : Nat
  size : Option Nat
  facets : List Facet
  searchType : Option String
  deriving DecidableEq

namespace SearchRequest

def empty : SearchRequest := ⟨"", none, none, [], [], 0, none, [], none⟩

/-- Ask for at most that many hits. -/
def limitSize (request : SearchRequest) (n : Nat) : SearchRequest :=
  { request with size := some (match request.size with | some m => min m n | none => n) }

/-- Ask for fields, each once. -/
def addFields (request : SearchRequest) (fields : List String) : SearchRequest :=
  { request with fields := fields.foldl Text.pushNew request.fields }

/-- Sort by a key first and by the present keys after it. -/
def pushPrimarySort (request : SearchRequest) (option : SortOption) : SearchRequest :=
  { request with sortOptions := option :: request.sortOptions }

end SearchRequest

end SearchQuery
