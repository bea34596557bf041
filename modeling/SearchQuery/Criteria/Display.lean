import SearchQuery.Criteria.Basic
import SearchQuery.Json.Printer

/-!
# The text of a criteria

The text names a criteria in messages, and the facet that counts the documents it selects.
-/

namespace SearchQuery

def RangeBound.display (b : RangeBound) : String := b.comparison.name ++ " " ++ b.value.render

namespace Criteria

mutual

def display : Criteria → String
  | .term f _ v => "term " ++ f ++ " " ++ v.render
  | .terms f _ vs _ => "terms " ++ f ++ " [" ++ Text.join ", " (vs.map Json.render) ++ "]"
  | .range f _ bs => "range " ++ f ++ String.join (bs.map fun b => " " ++ b.display)
  | .startsWith f t => "prefix " ++ f ++ " " ++ t
  | .regexp f p => "regexp " ++ f ++ " " ++ p
  | .wildcard f _ p => "wildcard " ++ f ++ " " ++ p
  | .queryString q _ => "query_string " ++ q
  | .present f => "exists " ++ f
  | .missing f => "missing " ++ f
  | .matchAll => "match_all"
  | .not inner => "not " ++ display inner
  | .and children => "and (" ++ Text.join ", " (displayList children) ++ ")"
  | .or children => "or (" ++ Text.join ", " (displayList children) ++ ")"
  | .nop children => "NOP (" ++ Text.join ", " (displayList children) ++ ")"
  | .bool must mustNot should =>
    "bool must (" ++ Text.join ", " (displayList must) ++ ") should (" ++
      Text.join ", " (displayList should) ++ ") must_not (" ++
      Text.join ", " (displayList mustNot) ++ ")"

def displayList : List Criteria → List String
  | [] => []
  | c :: rest => display c :: displayList rest

end

section Display

variable (f : String) (m : Member) (children must mustNot should : List Criteria)

@[simp] theorem display_term (v : Json) :
    (term f m v).display = "term " ++ f ++ " " ++ v.render := rfl

@[simp] theorem display_terms (vs : List Json) (x : Option TermsExecution) :
    (terms f m vs x).display =
      "terms " ++ f ++ " [" ++ Text.join ", " (vs.map Json.render) ++ "]" := rfl

@[simp] theorem display_range (bs : List RangeBound) :
    (range f m bs).display = "range " ++ f ++ String.join (bs.map fun b => " " ++ b.display) := rfl

@[simp] theorem display_startsWith (t : String) :
    (startsWith f t).display = "prefix " ++ f ++ " " ++ t := rfl

@[simp] theorem display_regexp (p : String) :
    (regexp f p).display = "regexp " ++ f ++ " " ++ p := rfl

@[simp] theorem display_wildcard (p : String) :
    (wildcard f m p).display = "wildcard " ++ f ++ " " ++ p := rfl

@[simp] theorem display_queryString (q : String) (fields : List String) :
    (queryString q fields).display = "query_string " ++ q := rfl

@[simp] theorem display_present : (present f).display = "exists " ++ f := rfl

@[simp] theorem display_missing : (missing f).display = "missing " ++ f := rfl

@[simp] theorem display_not (inner : Criteria) : (not inner).display = "not " ++ inner.display :=
  rfl

@[simp] theorem display_and :
    (and children).display = "and (" ++ Text.join ", " (displayList children) ++ ")" := rfl

@[simp] theorem display_or :
    (or children).display = "or (" ++ Text.join ", " (displayList children) ++ ")" := rfl

@[simp] theorem display_nop :
    (nop children).display = "NOP (" ++ Text.join ", " (displayList children) ++ ")" := rfl

@[simp] theorem display_bool :
    (bool must mustNot should).display =
      "bool must (" ++ Text.join ", " (displayList must) ++ ") should (" ++
        Text.join ", " (displayList should) ++ ") must_not (" ++
        Text.join ", " (displayList mustNot) ++ ")" := rfl

end Display

end Criteria

end SearchQuery
