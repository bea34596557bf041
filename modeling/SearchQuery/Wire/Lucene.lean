import SearchQuery.Error
import SearchQuery.Mapping.Basic
import SearchQuery.Text.Case

/-!
# Criteria in query syntax

A criteria is written as one text in the query syntax of the address form. Values are escaped, or
quoted when they hold white space; compounds of several children stand in parentheses.
-/

namespace SearchQuery

namespace Lucene

/-- The characters with a meaning in the query syntax. -/
def special : List Char :=
  ['+', '-', '&', '|', '!', '(', ')', '\x7b', '\x7d', '[', ']', '^', '"', '~', '*', '?', ':', '\\',
    '/']

def escapeChars (cs : List Char) : List Char :=
  cs.flatMap fun c => if c ∈ special then ['\\', c] else [c]

def escape (text : String) : String := String.ofList (escapeChars text.toList)

/-- A backslash before each occurrence of one character. -/
def escapeEach (k : Char) (cs : List Char) : List Char :=
  cs.flatMap fun c => if c = k then ['\\', c] else [c]

/-- A text between quotes. Its own backslashes are escaped before those of its quotes are added. -/
def quoteChars (cs : List Char) : List Char :=
  '"' :: escapeEach '"' (escapeEach '\\' cs) ++ ['"']

/-- The quotes that are escaped first have no backslashes to escape, so that one pass does both. -/
theorem quoteChars_eq_flatMap (cs : List Char) :
    quoteChars cs =
      '"' :: (cs.flatMap fun c => if c = '\\' ∨ c = '"' then ['\\', c] else [c]) ++ ['"'] := by
  have hchars : escapeEach '"' (escapeEach '\\' cs) =
      cs.flatMap fun c => if c = '\\' ∨ c = '"' then ['\\', c] else [c] := by
    rw [escapeEach, escapeEach, List.flatMap_assoc]
    congr 1
    funext c
    by_cases hslash : c = '\\'
    · subst hslash
      rfl
    · simp [hslash]
  rw [quoteChars, hchars]

/-- A text as a single term. -/
def termText (text : String) : String :=
  if text.toList.any Text.isWhiteSpace then String.ofList (quoteChars text.toList)
  else escape text

def value : Json → String
  | .str text => termText text
  | v => v.render

/-- One bound of a range; a round one leaves out its end. -/
def bound (field : String) (comparison : RangeComparison) (v : String) : String :=
  match comparison with
  | .greaterThan => field ++ ":\x7b" ++ v ++ " TO *\x7d"
  | .greaterThanOrEqual => field ++ ":[" ++ v ++ " TO *]"
  | .lessThan => field ++ ":\x7b* TO " ++ v ++ "\x7d"
  | .lessThanOrEqual => field ++ ":[* TO " ++ v ++ "]"

/-- A pattern between slashes. -/
def slashed (pattern : String) : String :=
  "/" ++ String.ofList (pattern.toList.flatMap fun c => if c = '/' then ['\\', '/'] else [c]) ++ "/"

/-- A wildcard pattern is written as it is. -/
def pattern : Json → String
  | .str text => text
  | v => v.render

/-- What stands between the values of a set. -/
def connective : Option TermsExecution → String
  | some .and => " AND "
  | _ => " OR "

def parenthesized (text : String) : String := "(" ++ text ++ ")"

end Lucene

namespace Criteria

mutual

/-- The form of a criteria in query syntax. -/
def toLucene (m : FieldMapping) : Criteria → Except Error String
  | .term f member v => .ok (f ++ ":" ++ Lucene.value (m.formatValue member v))
  | .terms f member vs x =>
    .ok (f ++ ":" ++ Lucene.parenthesized
      (Text.join (Lucene.connective x) (vs.map fun v => Lucene.value (m.formatValue member v))))
  | .range f member bs =>
    .ok (Text.join " AND "
      (bs.map fun b => Lucene.bound f b.comparison (Lucene.value (m.formatValue member b.value))))
  | .startsWith f t => .ok (f ++ ":" ++ Lucene.escape t ++ "*")
  | .regexp f p => .ok (f ++ ":" ++ Lucene.slashed p)
  | .wildcard f member p => .ok (f ++ ":" ++ Lucene.pattern (m.formatValue member (.str p)))
  | .queryString q _ => .ok (Lucene.parenthesized q)
  | .present f => .ok ("_exists_:" ++ f)
  | .missing f => .ok ("_missing_:" ++ f)
  | .matchAll => .ok "*:*"
  | .not inner => do
    let text ← toLucene m inner
    return "NOT " ++ Lucene.parenthesized text
  | .and [] => .error (.invalid (.emptyCompound "and"))
  | .and [c] => toLucene m c
  | .and children => do
    let texts ← listToLucene m children
    return Lucene.parenthesized (Text.join " AND " texts)
  | .or [] => .error (.invalid (.emptyCompound "or"))
  | .or [c] => toLucene m c
  | .or children => do
    let texts ← listToLucene m children
    return Lucene.parenthesized (Text.join " OR " texts)
  | .bool must mustNot should => do
    let musts ← listToLucene m must
    let shoulds ← listToLucene m should
    let mustNots ← listToLucene m mustNot
    match musts.map (fun t => "+" ++ Lucene.parenthesized t) ++
      shoulds.map Lucene.parenthesized ++
      mustNots.map (fun t => "-" ++ Lucene.parenthesized t) with
    | [] => throw (.invalid .emptyBool)
    | clauses => return Lucene.parenthesized (Text.join " " clauses)
  | .nop children => .error (.placeholder (.nop children))

def listToLucene (m : FieldMapping) : List Criteria → Except Error (List String)
  | [] => .ok []
  | c :: rest => do
    let text ← toLucene m c
    let texts ← listToLucene m rest
    return text :: texts

end

end Criteria

end SearchQuery
