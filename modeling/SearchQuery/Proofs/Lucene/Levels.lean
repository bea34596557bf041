import Mathlib.Data.List.Forall2
import SearchQuery.Proofs.Lucene.Tokens

/-!
# Levels of parentheses

Parentheses divide a text in query syntax into levels. A level without both `AND` and `OR` means the
same whichever of the two binds closer.

* `levels`: the connectives on each level of a text. `Unmixed`: no level has two different ones.
* `Spans`: what a text with paired parentheses adds to the levels, wherever it stands.
* `Quiet`: a text without parentheses and connectives, which adds nothing.
* `Spans.parenthesized`, `Spans.join`: levels of texts made of others.
-/

namespace SearchQuery

namespace Lucene

/-! ### Reading levels -/

/-- The words that join clauses. -/
def joinWords : List String := ["AND", "OR"]

/-- The levels of a text up to a point, each with its connectives. -/
structure Levels where
  /-- The levels that have ended. -/
  ended : List (List String)
  current : List String
  /-- The levels that go on behind the current one, innermost first. -/
  outer : List (List String)

namespace Levels

def empty : Levels := ⟨[], [], []⟩

/-- A parenthesis opens a level or ends it; without one to end, it is passed over. -/
def read (l : Levels) : Token → Levels
  | .mark '(' => ⟨l.ended, [], l.current :: l.outer⟩
  | .mark ')' =>
    match l.outer with
    | level :: outer => ⟨l.ended ++ [l.current], level, outer⟩
    | [] => l
  | .keyword word => if word ∈ joinWords then { l with current := l.current ++ [word] } else l
  | _ => l

def all (l : Levels) : List (List String) := l.ended ++ l.current :: l.outer

end Levels

/-- The connectives on each level of a text. -/
def levels (text : String) : List (List String) :=
  ((tokens false text).foldl Levels.read .empty).all

/-- The level does not have both connectives. -/
def IsUnmixed (level : List String) : Prop := ∀ v ∈ level, ∀ w ∈ level, v = w

instance (level : List String) : Decidable (IsUnmixed level) :=
  inferInstanceAs (Decidable (∀ v ∈ level, ∀ w ∈ level, v = w))

/-- Every level has one connective at most. -/
def Unmixed (text : String) : Prop := ∀ level ∈ levels text, IsUnmixed level

instance (text : String) : Decidable (Unmixed text) :=
  inferInstanceAs (Decidable (∀ level ∈ levels text, IsUnmixed level))

variable {text a b separator : String} {ended ended' : List (List String)}
  {joins joins' words : List String}

theorem isUnmixed_of_forall_eq {w : String} {level : List String} (h : ∀ v ∈ level, v = w) :
    IsUnmixed level := by
  intro u hu v hv
  rw [h u hu, h v hv]

/-! ### Texts with paired parentheses -/

/-- Wherever the text stands, it adds levels that have ended, and connectives to the level it is
on. -/
structure Spans (text : String) (ended : List (List String)) (joins : List String) : Prop where
  closed : Closed text
  read : ∀ l : Levels, (tokens false text).foldl Levels.read l =
    ⟨l.ended ++ ended, l.current ++ joins, l.outer⟩

namespace Spans

theorem levels_eq (h : Spans text ended joins) : levels text = ended ++ [joins] := by
  rw [levels, h.read]
  rfl

/-- Texts one behind the other, each of which is read for itself. -/
theorem append (ha : Spans a ended joins) (hb : Spans b ended' joins')
    (hsplit : tokens false (a ++ b) = tokens false a ++ tokens false b ∧
      Mode.between.after (a ++ b).toList = Mode.between.after b.toList) :
    Spans (a ++ b) (ended ++ ended') (joins ++ joins') := by
  obtain ⟨htokens, hafter⟩ := hsplit
  refine ⟨?_, fun l => ?_⟩
  · rw [Closed, hafter]
    exact hb.closed
  · rw [htokens, List.foldl_append, ha.read, hb.read]
    simp only [List.append_assoc]

/-- Texts one behind the other, the first of which ends between tokens. -/
theorem behind (ha : Spans a ended joins) (hend : Mode.between.after a.toList = .between)
    (hb : Spans b ended' joins') : Spans (a ++ b) (ended ++ ended') (joins ++ joins') :=
  ha.append hb (tokens_append_of_between false hend b)

/-- Texts one behind the other, the second of which starts with a delimiter. -/
theorem before (ha : Spans a ended joins) (hseparator : Separates separator)
    (hb : Spans separator ended' joins') :
    Spans (a ++ separator) (ended ++ ended') (joins ++ joins') :=
  ha.append hb (tokens_append false ha.closed hseparator.1)

/-- Texts on both sides of a separator. -/
theorem around {ended'' : List (List String)} {joins'' : List String} (ha : Spans a ended joins)
    (hseparator : Separates separator) (hwords : Spans separator ended' joins')
    (hb : Spans b ended'' joins'') :
    Spans (a ++ separator ++ b) (ended ++ ended' ++ ended'') (joins ++ joins' ++ joins'') := by
  refine (ha.before hseparator hwords).behind ?_ hb
  rw [(tokens_append false ha.closed hseparator.1).2]
  exact hseparator.2

/-- In parentheses, the connectives of a text are a level of their own. -/
theorem parenthesized (h : Spans text ended joins) :
    Spans (parenthesized text) (ended ++ [joins]) [] := by
  have hopen : Mode.between.after "(".toList = .between := by decide
  have hclose : ")".toList.head?.any isDelimiter = true := by decide
  obtain ⟨htokens, hafter⟩ := tokens_append_of_between false hopen text
  have hclosed : Closed ("(" ++ text) := by
    rw [Closed, hafter]
    exact h.closed
  obtain ⟨htokens', hafter'⟩ := tokens_append false hclosed hclose
  have hfirst : tokens false "(" = [.mark '('] := by decide
  have hlast : tokens false ")" = [.mark ')'] := by decide
  refine ⟨?_, fun l => ?_⟩
  · show Closed ("(" ++ text ++ ")")
    rw [Closed, hafter']
    rfl
  · show (tokens false ("(" ++ text ++ ")")).foldl Levels.read l = _
    rw [htokens', htokens, hfirst, hlast, List.foldl_append, List.foldl_append, List.foldl_cons,
      List.foldl_nil, h.read, List.foldl_cons, List.foldl_nil]
    simp [Levels.read]

theorem nil : Spans "" [] [] := by
  refine ⟨rfl, fun l => ?_⟩
  show l = _
  simp

/-- Texts joined by a separator. -/
theorem join {α : Type} {ended : α → List (List String)} {joins : α → List String} {as : List α}
    {texts : List String} (h : List.Forall₂ (fun a text => Spans text (ended a) (joins a)) as texts)
    (hseparator : Separates separator) (hwords : Spans separator [] words) :
    Spans (Text.join separator texts) (as.flatMap ended) (words.intercalate (as.map joins)) := by
  induction h with
  | nil => exact nil
  | @cons a text as texts hfirst hrest ih =>
    cases hrest with
    | nil => simpa [Text.join] using hfirst
    | cons hsecond hrest =>
      have hjoin := hfirst.around hseparator hwords ih
      simpa [Text.join, List.intercalate, List.intersperse, List.append_assoc] using hjoin

end Spans

theorem mem_intercalate {w : String} {lists : List (List String)} :
    w ∈ words.intercalate lists ↔ (2 ≤ lists.length ∧ w ∈ words) ∨ ∃ list ∈ lists, w ∈ list := by
  induction lists with
  | nil => simp [List.intercalate]
  | cons first rest ih =>
    cases rest with
    | nil => simp [List.intercalate]
    | cons second rest =>
      have hcons : words.intercalate (first :: second :: rest) =
          first ++ words ++ words.intercalate (second :: rest) := by
        simp [List.intercalate, List.intersperse, List.append_assoc]
      rw [hcons, List.mem_append, List.mem_append, ih]
      have hlength : 2 ≤ (first :: second :: rest).length := by simp
      simp only [hlength, true_and, List.mem_cons, exists_eq_or_imp]
      tauto

theorem intercalate_map_nil {α : Type} (as : List α) :
    ([] : List String).intercalate (as.map fun _ => []) = [] := by
  refine List.eq_nil_iff_forall_not_mem.2 fun w hw => ?_
  rcases mem_intercalate.1 hw with ⟨-, hnone⟩ | ⟨list, hlist, hnone⟩
  · exact List.not_mem_nil hnone
  · obtain ⟨a, -, rfl⟩ := List.mem_map.1 hlist
    exact List.not_mem_nil hnone

/-! ### Quiet texts -/

/-- Neither a parenthesis nor a connective. -/
def Token.isQuiet : Token → Bool
  | .mark c => c != '(' && c != ')'
  | .keyword word => word ∉ joinWords
  | _ => true

/-- A text that leaves nothing open and has no parentheses and no connectives. -/
def Quiet (text : String) : Prop :=
  Closed text ∧ ∀ t ∈ tokens false text, t.isQuiet = true

instance (text : String) : Decidable (Quiet text) :=
  inferInstanceAs (Decidable (Closed text ∧ ∀ t ∈ tokens false text, t.isQuiet = true))

theorem read_of_isQuiet {t : Token} (h : t.isQuiet = true) (l : Levels) : l.read t = l := by
  unfold Token.isQuiet at h
  unfold Levels.read
  split <;> simp_all

/-- What is one atom is quiet. -/
theorem quiet_of_tokens_eq {live : Bool} (h : tokens false text = [.atom live]) : Quiet text := by
  refine ⟨closed_of_tokens_eq h, ?_⟩
  rw [h, List.forall_mem_singleton]
  rfl

theorem Quiet.spans (h : Quiet text) : Spans text [] [] := by
  refine ⟨h.1, fun l => ?_⟩
  have hread : ∀ ts : List Token, (∀ t ∈ ts, t.isQuiet = true) → ts.foldl Levels.read l = l := by
    intro ts hts
    induction ts with
    | nil => rfl
    | cons t ts ih =>
      rw [List.forall_mem_cons] at hts
      rw [List.foldl_cons, read_of_isQuiet hts.1, ih hts.2]
  rw [hread _ h.2]
  simp

end Lucene

end SearchQuery
