/-!
# Searching texts

Substrings, ASCII case and lists of texts.
-/

namespace SearchQuery

namespace Text

/-- Whether the pattern is a contiguous part of the list. -/
def occursIn (pattern : List Char) : List Char → Bool
  | [] => pattern.isEmpty
  | c :: rest => pattern.isPrefixOf (c :: rest) || occursIn pattern rest

def contains (text pattern : String) : Bool := occursIn pattern.toList text.toList

def startsWith (text pattern : String) : Bool := pattern.toList.isPrefixOf text.toList

def endsWith (text pattern : String) : Bool := pattern.toList.isSuffixOf text.toList

/-- Whether two texts differ at most in the case of ASCII letters. -/
def equalIgnoringCase (a b : String) : Bool :=
  a.toList.map Char.toLower == b.toList.map Char.toLower

/-- The texts one after another, with a separator between them. -/
def join (separator : String) : List String → String
  | [] => ""
  | [t] => t
  | t :: rest => t ++ separator ++ join separator rest

/-- The parts between the separators; there is one more part than separators. -/
def splitChars (separator : Char) : List Char → List (List Char)
  | [] => [[]]
  | c :: rest =>
    if c = separator then [] :: splitChars separator rest
    else
      match splitChars separator rest with
      | part :: parts => (c :: part) :: parts
      | [] => [[c]]

def split (separator : Char) (text : String) : List String :=
  (splitChars separator text.toList).map String.ofList

/-- Append a text unless it is there. -/
def pushNew (texts : List String) (t : String) : List String :=
  if t ∈ texts then texts else texts ++ [t]

theorem mem_pushNew {texts : List String} {s t : String} :
    s ∈ pushNew texts t ↔ s ∈ texts ∨ s = t := by
  unfold pushNew
  split
  · rename_i hknown
    constructor
    · exact .inl
    · intro h
      rcases h with h | rfl
      · exact h
      · exact hknown
  · simp

end Text

end SearchQuery
