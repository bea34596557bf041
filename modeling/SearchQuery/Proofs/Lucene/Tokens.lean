import Mathlib.Data.List.Forall2
import Mathlib.Tactic.Common
import SearchQuery.Wire.Lucene

/-!
# Reading query syntax

A reader of query syntax goes over a text once. It takes each quoted string, each pattern between
slashes and each run of ordinary characters for one atom, and tells only keywords, marks and white
space apart. A backslash takes its meaning from the next character.

* `Mode`: where the reader stands, `next`: where it goes with a character, `shown`: what it has read
  by then. `tokens` is what it makes of a text.
* `Closed`: a text that leaves no quote, slash or backslash open.
* `tokens_append`: behind a closed text the reader starts afresh, if a delimiter follows.
* `ReadsAlike`: closed texts with the same tokens. They may take each other's place between
  delimiters. So may any two texts that are one atom (`Interchangeable`).
-/

namespace SearchQuery

namespace Lucene

/-- What a reader tells apart. An atom is live if it has wildcards. -/
inductive Token where
  | atom (live : Bool)
  | keyword (word : String)
  | mark (c : Char)
  | blank (c : Char)
  /-- The text ends within quotes, between slashes or behind a backslash. -/
  | unclosed
  deriving DecidableEq

def keywords : List String := ["AND", "OR", "NOT", "TO"]

/-- The characters that are tokens of their own. -/
def marks : List Char :=
  ['+', '-', '&', '|', '!', '(', ')', '\x7b', '\x7d', '[', ']', '^', '~', ':']

def wildcards : List Char := ['*', '?']

/-- The characters with which a word ends. -/
def isDelimiter (c : Char) : Bool :=
  Text.isWhiteSpace c || c ∈ marks || c = '"' || c = '/'

/-! ### The reader -/

/-- Where the reader stands. Of a word it keeps the characters, and whether it has wildcards. -/
inductive Mode where
  | between
  | word (read : List Char) (live : Bool)
  | escaped (read : List Char) (live : Bool)
  | quoted
  | quotedEscape
  | slashed
  | slashedEscape
  deriving DecidableEq

namespace Mode

/-- Where the reader goes with a character that belongs to nothing before it. -/
def start (c : Char) : Mode :=
  if c = '"' then .quoted
  else if c = '/' then .slashed
  else if c = '\\' then .escaped [c] false
  else if isDelimiter c then .between
  else .word [c] (c ∈ wildcards)

def next : Mode → Char → Mode
  | .between, c => start c
  | .word read live, c =>
    if isDelimiter c then start c
    else if c = '\\' then .escaped (read ++ [c]) live
    else .word (read ++ [c]) (live || c ∈ wildcards)
  | .escaped read live, c => .word (read ++ [c]) live
  | .quoted, c => if c = '"' then .between else if c = '\\' then .quotedEscape else .quoted
  | .quotedEscape, _ => .quoted
  | .slashed, c => if c = '/' then .between else if c = '\\' then .slashedEscape else .slashed
  | .slashedEscape, _ => .slashed

/-- Whether no quote, slash or backslash is open. -/
def isClosed : Mode → Bool
  | .between | .word _ _ => true
  | _ => false

/-- Where the reader stands behind a text. -/
def after (mode : Mode) (text : List Char) : Mode := text.foldl next mode

end Mode

section Reading

variable (stars : Bool)

/-- A word is a keyword or an atom. Whether it has wildcards is seen only on demand. -/
def wordToken (read : List Char) (live : Bool) : Token :=
  if String.ofList read ∈ keywords then .keyword (String.ofList read) else .atom (stars && live)

/-- The token that a character is by itself. -/
def ownToken (c : Char) : List Token :=
  if Text.isWhiteSpace c then [.blank c] else if c ∈ marks then [.mark c] else []

/-- What is left to be told where the text ends. -/
def Mode.finish : Mode → List Token
  | .between => []
  | .word read live => [wordToken stars read live]
  | _ => [.unclosed]

/-- The tokens that are complete with a character. -/
def Mode.shown : Mode → Char → List Token
  | .between, c => ownToken c
  | .word read live, c => if isDelimiter c then wordToken stars read live :: ownToken c else []
  | .quoted, c => if c = '"' then [.atom false] else []
  | .slashed, c => if c = '/' then [.atom false] else []
  | _, _ => []

/-- The tokens that are complete within a text. -/
def Mode.told : Mode → List Char → List Token
  | _, [] => []
  | mode, c :: rest => mode.shown stars c ++ (mode.next c).told rest

/-- The tokens of a text that starts in a mode. -/
def Mode.read (mode : Mode) (text : List Char) : List Token :=
  mode.told stars text ++ (mode.after text).finish stars

/-- The tokens of a text. -/
def tokens (text : String) : List Token := Mode.between.read stars text.toList

end Reading

/-- No quote, slash or backslash is left open. -/
def Closed (text : String) : Prop := (Mode.between.after text.toList).isClosed = true

instance (text : String) : Decidable (Closed text) := inferInstanceAs (Decidable (_ = _))

/-- A delimiter comes first, and the reader is between tokens at the end. -/
def Separates (text : String) : Prop :=
  text.toList.head?.any isDelimiter = true ∧ Mode.between.after text.toList = .between

instance (text : String) : Decidable (Separates text) := inferInstanceAs (Decidable (_ ∧ _))

/-! ### Parts of texts -/

variable {stars : Bool} {a b separator : String} {mode : Mode}

namespace Mode

theorem after_cons (c : Char) (rest : List Char) :
    mode.after (c :: rest) = (mode.next c).after rest := rfl

theorem after_append (text rest : List Char) :
    mode.after (text ++ rest) = (mode.after text).after rest :=
  List.foldl_append

theorem told_append (text rest : List Char) :
    mode.told stars (text ++ rest) = mode.told stars text ++ (mode.after text).told stars rest := by
  induction text generalizing mode with
  | nil => rfl
  | cons c text ih => rw [List.cons_append, told, told, ih, List.append_assoc, after_cons]

theorem read_cons (c : Char) (rest : List Char) :
    mode.read stars (c :: rest) = mode.shown stars c ++ (mode.next c).read stars rest := by
  rw [read, told, after_cons, List.append_assoc, ← read]

/-- A character that takes the reader to where it is between tokens is, or completes, a token. -/
theorem shown_ne_nil {c : Char} (h : mode.next c = .between) : mode.shown stars c ≠ [] := by
  have hown : Mode.start c = .between → ownToken c ≠ [] := by
    intro hstart hnone
    unfold start at hstart
    split_ifs at hstart with hquote hslash _ hdelimiter
    by_cases hwhite : Text.isWhiteSpace c = true
    · simp [ownToken, hwhite] at hnone
    · by_cases hmark : c ∈ marks
      · simp [ownToken, hwhite, hmark] at hnone
      · simp [isDelimiter, hwhite, hmark, hquote, hslash] at hdelimiter
  cases mode with
  | between => exact hown h
  | word read live =>
    rw [next] at h
    split_ifs at h with hdelimiter
    rw [shown, if_pos hdelimiter]
    exact List.cons_ne_nil _ _
  | quoted =>
    rw [next] at h
    split_ifs at h with hquote
    rw [shown, if_pos hquote]
    exact List.cons_ne_nil _ _
  | slashed =>
    rw [next] at h
    split_ifs at h with hslash
    rw [shown, if_pos hslash]
    exact List.cons_ne_nil _ _
  | _ => cases h

/-- Every text has tokens, but the empty one. -/
theorem read_eq_nil {text : List Char} (h : mode.read stars text = []) :
    mode = .between ∧ text = [] := by
  induction text generalizing mode with
  | nil =>
    cases mode with
    | between => exact ⟨rfl, rfl⟩
    | _ => cases h
  | cons c rest ih =>
    rw [read_cons, List.append_eq_nil_iff] at h
    exact absurd h.1 (shown_ne_nil (ih h.2).1)

/-- With a delimiter a word ends, and the reader goes on as between tokens. -/
theorem next_of_isDelimiter (stars : Bool) (hclosed : mode.isClosed = true) {c : Char}
    (hc : isDelimiter c = true) :
    mode.next c = between.next c ∧
      mode.shown stars c = mode.finish stars ++ between.shown stars c := by
  cases mode with
  | between => exact ⟨rfl, rfl⟩
  | word read live => exact ⟨if_pos hc, if_pos hc⟩
  | _ => cases hclosed

theorem split_of_isDelimiter (stars : Bool) (hclosed : mode.isClosed = true) {text : List Char}
    (htext : text.head?.any isDelimiter = true) :
    mode.after text = between.after text ∧
      mode.told stars text = mode.finish stars ++ between.told stars text := by
  cases text with
  | nil => cases htext
  | cons c rest =>
    obtain ⟨hnext, hshown⟩ := next_of_isDelimiter stars hclosed htext
    constructor
    · rw [after_cons, after_cons, hnext]
    · rw [told, told, hnext, hshown, List.append_assoc]

end Mode

/-- Where a text ends between tokens, the reader starts afresh behind it. -/
theorem tokens_append_of_between (stars : Bool) (h : Mode.between.after a.toList = .between)
    (b : String) :
    tokens stars (a ++ b) = tokens stars a ++ tokens stars b ∧
      Mode.between.after (a ++ b).toList = Mode.between.after b.toList := by
  simp only [tokens, Mode.read, String.toList_append, Mode.told_append, Mode.after_append, h,
    Mode.finish, List.append_nil, List.append_assoc, and_self]

/-- Behind a closed text the reader starts afresh if a delimiter follows. -/
theorem tokens_append (stars : Bool) (ha : Closed a) (hb : b.toList.head?.any isDelimiter = true) :
    tokens stars (a ++ b) = tokens stars a ++ tokens stars b ∧
      Mode.between.after (a ++ b).toList = Mode.between.after b.toList := by
  obtain ⟨hafter, htold⟩ := Mode.split_of_isDelimiter stars ha hb
  simp only [tokens, Mode.read, String.toList_append, Mode.told_append, Mode.after_append, hafter,
    htold, List.append_assoc, and_self]

/-! ### Texts that read alike -/

/-- Closed texts with the same tokens. -/
structure ReadsAlike (stars : Bool) (a b : String) : Prop where
  left : Closed a
  right : Closed b
  tokens_eq : tokens stars a = tokens stars b

namespace ReadsAlike

variable {a' b' : String}

theorem refl (h : Closed a) : ReadsAlike stars a a := ⟨h, h, rfl⟩

/-- Texts behind the same opening. -/
theorem behind (h : ReadsAlike stars a b) (opening : String)
    (hopening : Mode.between.after opening.toList = .between) :
    ReadsAlike stars (opening ++ a) (opening ++ b) := by
  obtain ⟨hleft, hafter⟩ := tokens_append_of_between stars hopening a
  obtain ⟨hright, hafter'⟩ := tokens_append_of_between stars hopening b
  refine ⟨?_, ?_, by rw [hleft, hright, h.tokens_eq]⟩
  · rw [Closed, hafter]
    exact h.left
  · rw [Closed, hafter']
    exact h.right

/-- Texts in front of the same separator. -/
theorem before (h : ReadsAlike stars a b) (hseparator : Separates separator) :
    ReadsAlike stars (a ++ separator) (b ++ separator) := by
  obtain ⟨hleft, hafter⟩ := tokens_append stars h.left hseparator.1
  obtain ⟨hright, hafter'⟩ := tokens_append stars h.right hseparator.1
  refine ⟨?_, ?_, by rw [hleft, hright, h.tokens_eq]⟩
  · rw [Closed, hafter, hseparator.2]
    rfl
  · rw [Closed, hafter', hseparator.2]
    rfl

/-- Texts on both sides of the same separator. -/
theorem around (h : ReadsAlike stars a b) (hseparator : Separates separator)
    (h' : ReadsAlike stars a' b') :
    ReadsAlike stars (a ++ separator ++ a') (b ++ separator ++ b') := by
  obtain ⟨hleft, hafter⟩ := tokens_append stars h.left hseparator.1
  obtain ⟨hright, hafter'⟩ := tokens_append stars h.right hseparator.1
  obtain ⟨hleft', hend⟩ := tokens_append_of_between stars (hafter.trans hseparator.2) a'
  obtain ⟨hright', hend'⟩ := tokens_append_of_between stars (hafter'.trans hseparator.2) b'
  refine ⟨?_, ?_, by rw [hleft', hright', hleft, hright, h.tokens_eq, h'.tokens_eq]⟩
  · rw [Closed, hend]
    exact h'.left
  · rw [Closed, hend']
    exact h'.right

theorem parenthesized (h : ReadsAlike stars a b) :
    ReadsAlike stars (parenthesized a) (parenthesized b) :=
  (h.behind "(" (by decide)).before (by decide)

/-- Lists of texts that read alike one by one do so when they are joined. -/
theorem join {texts texts' : List String} (h : List.Forall₂ (ReadsAlike stars) texts texts')
    (hseparator : Separates separator) :
    ReadsAlike stars (Text.join separator texts) (Text.join separator texts') := by
  induction h with
  | nil => exact refl rfl
  | cons hfirst hrest ih =>
    cases hrest with
    | nil => exact hfirst
    | cons => exact hfirst.around hseparator ih

end ReadsAlike

/-! ### Atoms -/

/-- What is one atom leaves nothing open. -/
theorem closed_of_tokens_eq {text : String} {live : Bool} (h : tokens stars text = [.atom live]) :
    Closed text := by
  have hend : Token.unclosed ∉ (Mode.between.after text.toList).finish stars := by
    intro hmem
    have hunclosed : Token.unclosed ∈ tokens stars text := by
      rw [tokens, Mode.read]
      exact List.mem_append_right _ hmem
    rw [h] at hunclosed
    simp at hunclosed
  unfold Closed
  cases hmode : Mode.between.after text.toList with
  | between => rfl
  | word read live => rfl
  | _ =>
    rw [hmode] at hend
    exact absurd (List.mem_singleton_self _) hend

/-- The same text, or two texts that are one atom each. -/
def Interchangeable (stars : Bool) (a b : String) : Prop :=
  a = b ∨ ∃ live, tokens stars a = [.atom live] ∧ tokens stars b = [.atom live]

theorem Interchangeable.readsAlike (h : Interchangeable stars a b) (hclosed : Closed a) :
    ReadsAlike stars a b := by
  rcases h with rfl | ⟨live, ha, hb⟩
  · exact .refl hclosed
  · exact ⟨hclosed, closed_of_tokens_eq hb, ha.trans hb.symm⟩

end Lucene

end SearchQuery
