import SearchQuery.Text.CaseTable
import SearchQuery.Text.ClassTable

/-!
# Letter case and white space

* `lowerChar`, `upperChar`: the mapping of one character, which may have several characters.
* `lower`, `upper`: the mapping of a text. A capital sigma at the end of a word becomes a final
  sigma; nothing else depends on context.
* `trim`: the text without the white space at its ends.
-/

namespace SearchQuery

namespace Text

def isUpper (c : Char) : Bool := uppercaseRanges.any (·.contains c.toNat)

def isCased (c : Char) : Bool := casedRanges.any (·.contains c.toNat)

def isCaseIgnorable (c : Char) : Bool := caseIgnorableRanges.any (·.contains c.toNat)

def isWhiteSpace (c : Char) : Bool := whiteSpaceRanges.any (·.contains c.toNat)

/-- Map one character through the expansions, then through the ranges. -/
def mapChar (expansions : List (Nat × List Nat)) (ranges : List CaseRange) (c : Char) :
    List Char :=
  match expansions.lookup c.toNat with
  | some codes => codes.map Char.ofNat
  | none =>
    match ranges.find? (·.contains c.toNat) with
    | some r => [Char.ofNat (r.apply c.toNat)]
    | none => [c]

def lowerChar (c : Char) : List Char := mapChar lowerExpansions lowerRanges c

def upperChar (c : Char) : List Char := mapChar upperExpansions upperRanges c

/-- Whether the first character that case mapping does not skip is a cased one. -/
def meetsCased (cs : List Char) : Bool :=
  match cs.dropWhile isCaseIgnorable with
  | c :: _ => isCased c
  | [] => false

/-- Lower-case the characters that follow `before`, which is in reverse order. -/
def lowerFrom (before : List Char) : List Char → List Char
  | [] => []
  | c :: rest =>
    let mapped :=
      if c = 'Σ' then if meetsCased before && !meetsCased rest then ['ς'] else ['σ']
      else lowerChar c
    mapped ++ lowerFrom (c :: before) rest

def lower (text : String) : String := String.ofList (lowerFrom [] text.toList)

def upper (text : String) : String := String.ofList (text.toList.flatMap upperChar)

/-- The text without the white space at its ends. -/
def trim (text : String) : String :=
  String.ofList
    ((text.toList.dropWhile isWhiteSpace).reverse.dropWhile isWhiteSpace).reverse

end Text

end SearchQuery
