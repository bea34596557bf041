import SearchQuery.Text.Bytes
import SearchQuery.Text.Case
import SearchQuery.Text.Search

/-!
# Naming conventions

* `camelCase`: the leading capitals become small; the last capital of an acronym stays when a word
  follows it, as in `URLPath` and `urlPath`.
* `pluralize?`: the English plural by ending.
-/

namespace SearchQuery

namespace Naming

/-- How many characters in front become small. -/
def loweredCount (name : List Char) : Nat :=
  let capitals := (name.takeWhile Text.isUpper).length
  if 1 < capitals ∧ capitals < name.length then capitals - 1 else max capitals 1

def camelCaseChars (name : List Char) : List Char :=
  let count := loweredCount name
  (name.take count).flatMap Text.lowerChar ++ name.drop count

def camelCase (name : String) : String := String.ofList (camelCaseChars name.toList)

/-- Endings that keep a final `y` in the plural. -/
def vowelEndings : List String := ["ay", "ey", "oy", "uy"]

/-- Endings that take `es` in the plural. -/
def hissingEndings : List String := ["s", "x", "ch", "sh"]

/-- Whether a final `y` gives way to `ies` in the plural. -/
def takesIes (name : String) : Bool :=
  let small := Text.lower name
  Text.endsWith small "y" && !vowelEndings.any (Text.endsWith small)

/-- The plural of a name. A final `y` is cut off as one byte. -/
def pluralize? (name : String) : Option String :=
  if takesIes name then (Text.dropLastByte? name).map (· ++ "ies")
  else if hissingEndings.any (Text.endsWith (Text.lower name)) then some (name ++ "es")
  else some (name ++ "s")

end Naming

end SearchQuery
