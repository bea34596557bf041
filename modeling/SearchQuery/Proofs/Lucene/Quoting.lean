import Mathlib.Tactic.Common
import SearchQuery.Wire.Lucene

/-!
# Reading terms back

A text is written as a term in one of two forms. With white space it stands between quotes, where
backslashes and quotes are escaped; without, every special character is. Both are undone alike, by
taking the second character of each pair of a backslash and a character.

* `unescape`: a text without its escapes, `bare`: the characters outside of them.
* `unescape_flatMap`, `bare_flatMap`: what they make of a text in which some characters, the backslash
  among them, have been escaped. Both forms are of this kind.
* `readTerm?`: the text that a term stands for, by its first character.
* `value_readsBack`: this is the text that was written, so that terms tell texts apart.
-/

namespace SearchQuery

namespace Lucene

/-- Each pair of a backslash and a character gives way to the character. -/
def unescape : List Char → List Char
  | [] => []
  | '\\' :: c :: rest => c :: unescape rest
  | c :: rest => c :: unescape rest

/-- The characters that are in no pair of a backslash and a character. -/
def bare : List Char → List Char
  | [] => []
  | '\\' :: _ :: rest => bare rest
  | c :: rest => c :: bare rest

/-- The text that a term stands for, which is quoted if it starts with a quote. -/
def readTerm? (term : String) : Option String :=
  match term.toList with
  | '"' :: rest =>
    if rest.getLast? = some '"' then some (String.ofList (unescape rest.dropLast)) else none
  | chars => some (String.ofList (unescape chars))

/-- Between the quotes there is no other one, nor a backslash that would escape the closing one. -/
def IsQuoted (term : String) : Prop :=
  ∃ body, term.toList = '"' :: body ++ ['"'] ∧ '"' ∉ bare body ∧ '\\' ∉ bare body

/-- There is no white space, and no special character without a backslash. -/
def IsEscaped (term : String) : Prop :=
  (∀ c ∈ term.toList, Text.isWhiteSpace c = false) ∧ ∀ c ∈ bare term.toList, c ∉ special

/-! ### Marked characters -/

section Marked

variable (marked : Char → Prop) [DecidablePred marked]

/-- Escaping is undone if backslashes are escaped as well. -/
theorem unescape_flatMap (h : marked '\\') (cs : List Char) :
    unescape (cs.flatMap fun c => if marked c then ['\\', c] else [c]) = cs := by
  induction cs with
  | nil => rfl
  | cons c cs ih =>
    rw [List.flatMap_cons]
    by_cases hc : marked c
    · rw [if_pos hc]
      exact congrArg (c :: ·) ih
    · rw [if_neg hc, List.singleton_append, unescape, ih]
      rintro d rest rfl
      exact absurd h hc

/-- Of an escaped text the characters that are not marked stay bare. -/
theorem bare_flatMap (h : marked '\\') (cs : List Char) :
    bare (cs.flatMap fun c => if marked c then ['\\', c] else [c]) =
      cs.filter fun c => ¬marked c := by
  induction cs with
  | nil => rfl
  | cons c cs ih =>
    rw [List.flatMap_cons]
    by_cases hc : marked c
    · rw [if_pos hc, List.filter_cons_of_neg (by simpa using hc)]
      exact ih
    · rw [if_neg hc, List.filter_cons_of_pos (by simpa using hc), List.singleton_append, bare, ih]
      rintro d rest rfl
      exact absurd h hc

theorem notMem_bare_flatMap (h : marked '\\') {c : Char} (hc : marked c) (cs : List Char) :
    c ∉ bare (cs.flatMap fun d => if marked d then ['\\', d] else [d]) := by
  rw [bare_flatMap marked h]
  simp [hc]

end Marked

/-! ### The two forms -/

theorem readTerm?_quoteChars (cs : List Char) :
    readTerm? (String.ofList (quoteChars cs)) = some (String.ofList cs) := by
  have hbody := unescape_flatMap (fun c => c = '\\' ∨ c = '"') (.inl rfl) cs
  rw [readTerm?, String.toList_ofList, quoteChars_eq_flatMap, List.cons_append]
  simp [hbody]

theorem isQuoted_quoteChars (cs : List Char) : IsQuoted (String.ofList (quoteChars cs)) := by
  have hbare : ∀ c, c = '\\' ∨ c = '"' → c ∉ bare (cs.flatMap fun d =>
      if d = '\\' ∨ d = '"' then ['\\', d] else [d]) :=
    fun _ hc => notMem_bare_flatMap (fun d => d = '\\' ∨ d = '"') (.inl rfl) hc cs
  refine ⟨_, ?_, hbare '"' (.inr rfl), hbare '\\' (.inl rfl)⟩
  rw [String.toList_ofList, quoteChars_eq_flatMap]

/-- A quote at the start is escaped, so that the term does not start with it. -/
theorem head?_escapeChars_ne (cs : List Char) : (escapeChars cs).head? ≠ some '"' := by
  cases cs with
  | nil => simp [escapeChars]
  | cons c rest =>
    rw [escapeChars, List.flatMap_cons]
    by_cases hc : c ∈ special
    · simp [hc]
    · rw [if_neg hc, List.singleton_append, List.head?_cons, ne_eq, Option.some.injEq]
      rintro rfl
      exact hc (by decide)

theorem readTerm?_escape (text : String) : readTerm? (escape text) = some text := by
  have hchars : unescape (escapeChars text.toList) = text.toList :=
    unescape_flatMap (· ∈ special) (by decide) text.toList
  have hhead := head?_escapeChars_ne text.toList
  rw [readTerm?, escape, String.toList_ofList]
  split
  · rename_i rest hquote
    rw [hquote] at hhead
    exact absurd rfl hhead
  · rw [hchars, String.ofList_toList]

theorem isEscaped_escape {text : String} (h : text.toList.any Text.isWhiteSpace = false) :
    IsEscaped (escape text) := by
  have hslash : Text.isWhiteSpace '\\' = false := by decide
  rw [List.any_eq_false] at h
  rw [IsEscaped, escape, String.toList_ofList]
  constructor
  · intro c hc
    obtain ⟨d, hd, hc⟩ := List.mem_flatMap.1 hc
    have hspace : Text.isWhiteSpace d = false := by simpa using h d hd
    split_ifs at hc
    · rcases List.mem_cons.1 hc with rfl | hc
      · exact hslash
      · obtain rfl := List.mem_singleton.1 hc
        exact hspace
    · obtain rfl := List.mem_singleton.1 hc
      exact hspace
  · intro c hc hspecial
    exact notMem_bare_flatMap (· ∈ special) (by decide) hspecial text.toList hc

/-- **Terms are read back.** Undoing the escapes of a term, without its quotes if it starts with one,
gives the text that was written. A text with white space is quoted, with no other quote between the
two; any other text is escaped, with neither white space nor a special character that a backslash
does not belong to. So a term is that of one text only. -/
theorem value_readsBack (text : String) :
    readTerm? (value (.str text)) = some text ∧
    (if text.toList.any Text.isWhiteSpace then IsQuoted (value (.str text))
      else IsEscaped (value (.str text))) ∧
    ∀ text', value (.str text') = value (.str text) ↔ text' = text := by
  have hread : ∀ text, readTerm? (value (.str text)) = some text := by
    intro text
    rw [value, termText]
    split
    · rw [readTerm?_quoteChars, String.ofList_toList]
    · exact readTerm?_escape text
  refine ⟨hread text, ?_, fun text' => ⟨fun hsame => ?_, fun hsame => hsame ▸ rfl⟩⟩
  · rw [value, termText]
    split
    · exact isQuoted_quoteChars text.toList
    · rename_i hwhite
      exact isEscaped_escape (by simpa using hwhite)
  · exact Option.some.inj ((hread text').symm.trans (hsame ▸ hread text))

/-- A backslash in front of a quote is escaped before the quote is. -/
example : readTerm? (value (.str "a \\\"b")) = some "a \\\"b" ∧
    value (.str "a \\\"b") = "\"a \\\\\\\"b\"" := by decide

end Lucene

end SearchQuery
