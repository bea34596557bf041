import SearchQuery.Proofs.Criteria.Nodes
import SearchQuery.Proofs.Lucene.Values
import SearchQuery.Proofs.Plan.Contribution
import SearchQuery.Proofs.Wire.Faults

/-!
# What values can do to query syntax

A criteria in query syntax is read as its structure with the values in it as atoms, as long as every
value is one atom. Terms always are. A prefix, a regular expression and a wildcard pattern can be
more than one atom, and bring parentheses, fields and keywords of their own.

* `Criteria.Alike`: trees that differ only in texts that are one atom.
* `IsClosed`: what a node copies into the text leaves nothing open.
* `Alike.writtenAlike`: such trees have texts with the same tokens.
* `toLucene_skeleton`: this together with what is one atom.
-/

namespace SearchQuery

open Lucene

variable {stars : Bool} {m : FieldMapping}

/-! ### Trees that differ in atoms -/

namespace Criteria

mutual

/-- The same tree, but that texts of values may be other atoms. -/
inductive Alike (stars : Bool) (m : FieldMapping) : Criteria → Criteria → Prop
  | term {field : String} {member member' : Member} {v v' : Json}
      (h : Interchangeable stars (value (m.formatValue member v))
        (value (m.formatValue member' v'))) :
      Alike stars m (.term field member v) (.term field member' v')
  | terms {field : String} {member member' : Member} {vs vs' : List Json}
      {mode : Option TermsExecution}
      (h : List.Forall₂ (fun v v' => Interchangeable stars (value (m.formatValue member v))
        (value (m.formatValue member' v'))) vs vs') :
      Alike stars m (.terms field member vs mode) (.terms field member' vs' mode)
  | range {field : String} {member member' : Member} {bounds bounds' : List RangeBound}
      (h : List.Forall₂ (fun b b' => b.comparison = b'.comparison ∧
        Interchangeable stars (value (m.formatValue member b.value))
          (value (m.formatValue member' b'.value))) bounds bounds') :
      Alike stars m (.range field member bounds) (.range field member' bounds')
  | startsWith {field text text' : String}
      (h : Interchangeable stars (escape text ++ "*") (escape text' ++ "*")) :
      Alike stars m (.startsWith field text) (.startsWith field text')
  | regexp {field pattern pattern' : String}
      (h : Interchangeable stars (slashed pattern) (slashed pattern')) :
      Alike stars m (.regexp field pattern) (.regexp field pattern')
  | wildcard {field : String} {member member' : Member} {text text' : String}
      (h : Interchangeable stars (pattern (m.formatValue member (.str text)))
        (pattern (m.formatValue member' (.str text')))) :
      Alike stars m (.wildcard field member text) (.wildcard field member' text')
  | queryString (query : String) (fields : List String) :
      Alike stars m (.queryString query fields) (.queryString query fields)
  | present (field : String) : Alike stars m (.present field) (.present field)
  | missing (field : String) : Alike stars m (.missing field) (.missing field)
  | matchAll : Alike stars m .matchAll .matchAll
  | not {c d : Criteria} (h : Alike stars m c d) : Alike stars m (.not c) (.not d)
  | and {cs ds : List Criteria} (h : AllAlike stars m cs ds) : Alike stars m (.and cs) (.and ds)
  | or {cs ds : List Criteria} (h : AllAlike stars m cs ds) : Alike stars m (.or cs) (.or ds)
  | bool {must mustNot should must' mustNot' should' : List Criteria}
      (hmust : AllAlike stars m must must') (hmustNot : AllAlike stars m mustNot mustNot')
      (hshould : AllAlike stars m should should') :
      Alike stars m (.bool must mustNot should) (.bool must' mustNot' should')
  | nop (children : List Criteria) : Alike stars m (.nop children) (.nop children)

inductive AllAlike (stars : Bool) (m : FieldMapping) : List Criteria → List Criteria → Prop
  | nil : AllAlike stars m [] []
  | cons {c d : Criteria} {cs ds : List Criteria} (h : Alike stars m c d)
      (hrest : AllAlike stars m cs ds) : AllAlike stars m (c :: cs) (d :: ds)

end

/-- What a node copies into the text leaves no quote, slash or backslash open. -/
def IsClosed (m : FieldMapping) : Criteria → Prop
  | .term field _ _ | .terms field _ _ _ | .range field _ _ | .startsWith field _
  | .present field | .missing field => Closed field
  | .regexp field text => Closed field ∧ Closed (slashed text)
  | .wildcard field member text => Closed field ∧ Closed (pattern (m.formatValue member (.str text)))
  | .queryString query _ => Closed query
  | _ => True

/-! ### Leaves -/

section Leaves

variable {field a b : String}

theorem readsAlike_field (hfield : Closed field) (h : ReadsAlike stars a b) :
    ReadsAlike stars (field ++ ":" ++ a) (field ++ ":" ++ b) :=
  (ReadsAlike.refl hfield).around (by decide) h

theorem readsAlike_bound (hfield : Closed field) (comparison : RangeComparison)
    (h : ReadsAlike stars a b) :
    ReadsAlike stars (Lucene.bound field comparison a) (Lucene.bound field comparison b) := by
  have hbetween : ∀ opening closing, Separates opening → Separates closing →
      ReadsAlike stars (field ++ opening ++ a ++ closing) (field ++ opening ++ b ++ closing) :=
    fun opening closing hopening hclosing =>
      ((ReadsAlike.refl hfield).around hopening h).before hclosing
  cases comparison with
  | greaterThan => exact hbetween ":\x7b" " TO *\x7d" (by decide) (by decide)
  | greaterThanOrEqual => exact hbetween ":[" " TO *]" (by decide) (by decide)
  | lessThan => exact hbetween ":\x7b* TO " "\x7d" (by decide) (by decide)
  | lessThanOrEqual => exact hbetween ":[* TO " "]" (by decide) (by decide)

theorem separates_connective (mode : Option TermsExecution) : Separates (connective mode) := by
  rcases mode with _ | mode
  · decide
  · cases mode <;> decide

end Leaves

/-! ### Trees -/

/-- Both are written, as texts that read alike, or neither. -/
def WrittenAlike (stars : Bool) (m : FieldMapping) (c d : Criteria) : Prop :=
  Agree (ReadsAlike stars) (toLucene m c) (toLucene m d)

theorem agree_joined {empty : Error} {separator : String} (hseparator : Separates separator)
    {cs ds : List Criteria} (h : List.Forall₂ (WrittenAlike stars m) cs ds) :
    Agree (ReadsAlike stars)
      (joined (toLucene m) empty (fun texts => parenthesized (Text.join separator texts)) cs)
      (joined (toLucene m) empty (fun texts => parenthesized (Text.join separator texts)) ds) := by
  cases h with
  | nil => exact .error empty empty
  | cons hfirst hrest =>
    cases hrest with
    | nil => exact hfirst
    | cons hsecond hrest =>
      refine (Agree.mapM (.cons hfirst (.cons hsecond hrest))).bind fun texts texts' htexts => ?_
      exact .ok (ReadsAlike.join htexts hseparator).parenthesized

/-- The clauses of a bool node, each in parentheses behind its sign. -/
theorem readsAlike_clauses {musts shoulds mustNots musts' shoulds' mustNots' : List String}
    (hmust : List.Forall₂ (ReadsAlike stars) musts musts')
    (hshould : List.Forall₂ (ReadsAlike stars) shoulds shoulds')
    (hmustNot : List.Forall₂ (ReadsAlike stars) mustNots mustNots') :
    List.Forall₂ (ReadsAlike stars)
      (musts.map (fun t => "+" ++ parenthesized t) ++ shoulds.map parenthesized ++
        mustNots.map fun t => "-" ++ parenthesized t)
      (musts'.map (fun t => "+" ++ parenthesized t) ++ shoulds'.map parenthesized ++
        mustNots'.map fun t => "-" ++ parenthesized t) := by
  have hmusts := List.rel_map (fun _ _ ht => ht.parenthesized.behind "+" (by decide)) hmust
  have hshoulds := List.rel_map (fun _ _ ht => ht.parenthesized) hshould
  have hmustNots := List.rel_map (fun _ _ ht => ht.parenthesized.behind "-" (by decide)) hmustNot
  exact List.rel_append (List.rel_append hmusts hshoulds) hmustNots

theorem writtenAlike_bool {must mustNot should must' mustNot' should' : List Criteria}
    (hmust : List.Forall₂ (WrittenAlike stars m) must must')
    (hmustNot : List.Forall₂ (WrittenAlike stars m) mustNot mustNot')
    (hshould : List.Forall₂ (WrittenAlike stars m) should should') :
    WrittenAlike stars m (.bool must mustNot should) (.bool must' mustNot' should') := by
  rw [WrittenAlike, toLucene, toLucene]
  simp only [listToLucene_eq]
  refine (Agree.mapM hmust).bind fun musts musts' hmusts => ?_
  refine (Agree.mapM hshould).bind fun shoulds shoulds' hshoulds => ?_
  refine (Agree.mapM hmustNot).bind fun mustNots mustNots' hmustNots => ?_
  have hclauses := readsAlike_clauses hmusts hshoulds hmustNots
  -- Whether there is a clause at all is the same for both, since the lists are alike.
  revert hclauses
  generalize musts.map _ ++ shoulds.map _ ++ mustNots.map _ = clauses
  generalize musts'.map _ ++ shoulds'.map _ ++ mustNots'.map _ = clauses'
  intro hclauses
  cases hclauses with
  | nil => exact .error _ _
  | cons hfirst hrest =>
    exact .ok (ReadsAlike.join (.cons hfirst hrest) (by decide)).parenthesized

-- The recursion is on how the trees are alike, which has a constructor for each kind of node.
mutual

/-- Trees that differ only in atoms have texts with the same tokens. -/
theorem Alike.writtenAlike {c d : Criteria} :
    Alike stars m c d → (∀ e ∈ c.nodes, e.IsClosed m) → WrittenAlike stars m c d
  | .term h, hclosed => by
    have hfield := hclosed _ (List.mem_singleton_self _)
    exact .ok (readsAlike_field hfield (h.readsAlike (closed_value _)))
  | .terms h, hclosed => by
    have hfield := hclosed _ (List.mem_singleton_self _)
    have hvalues := List.rel_map (fun _ _ hv => hv.readsAlike (closed_value _)) h
    exact .ok (readsAlike_field hfield
      (ReadsAlike.join hvalues (separates_connective _)).parenthesized)
  | .range h, hclosed => by
    have hfield := hclosed _ (List.mem_singleton_self _)
    refine .ok (ReadsAlike.join (List.rel_map (fun b b' hb => ?_) h) (by decide))
    rw [← hb.1]
    exact readsAlike_bound hfield b.comparison (hb.2.readsAlike (closed_value _))
  | .startsWith h, hclosed => by
    have hfield := hclosed _ (List.mem_singleton_self _)
    have htext := readsAlike_field hfield (h.readsAlike (closed_startsWith _))
    rw [← String.append_assoc, ← String.append_assoc] at htext
    exact .ok htext
  | .regexp h, hclosed => by
    have hparts := hclosed _ (List.mem_singleton_self _)
    exact .ok (readsAlike_field hparts.1 (h.readsAlike hparts.2))
  | .wildcard h, hclosed => by
    have hparts := hclosed _ (List.mem_singleton_self _)
    exact .ok (readsAlike_field hparts.1 (h.readsAlike hparts.2))
  | .queryString query fields, hclosed => by
    have hquery : Closed query := hclosed _ (List.mem_singleton_self _)
    exact .ok (ReadsAlike.refl hquery).parenthesized
  | .present field, hclosed => by
    have hfield : Closed field := hclosed _ (List.mem_singleton_self _)
    exact .ok ((ReadsAlike.refl hfield).behind "_exists_:" (by decide))
  | .missing field, hclosed => by
    have hfield : Closed field := hclosed _ (List.mem_singleton_self _)
    exact .ok ((ReadsAlike.refl hfield).behind "_missing_:" (by decide))
  | .matchAll, _ => .ok (.refl (by decide))
  | .not h, hclosed => by
    have hinner := h.writtenAlike fun e he => hclosed e (List.mem_cons_of_mem _ he)
    exact hinner.bind fun _ _ ht => .ok (ht.parenthesized.behind "NOT " (by decide))
  | .and h, hclosed => by
    rw [WrittenAlike, toLucene_and, toLucene_and]
    exact agree_joined (by decide)
      (h.writtenAlike fun e he => hclosed e (List.mem_cons_of_mem _ he))
  | .or h, hclosed => by
    rw [WrittenAlike, toLucene_or, toLucene_or]
    exact agree_joined (by decide)
      (h.writtenAlike fun e he => hclosed e (List.mem_cons_of_mem _ he))
  | .bool hmust hmustNot hshould, hclosed => by
    simp only [nodes, List.forall_mem_cons, List.forall_mem_append] at hclosed
    exact writtenAlike_bool (hmust.writtenAlike hclosed.2.1.1)
      (hmustNot.writtenAlike hclosed.2.1.2) (hshould.writtenAlike hclosed.2.2)
  | .nop _, _ => .error _ _

theorem AllAlike.writtenAlike {cs ds : List Criteria} :
    AllAlike stars m cs ds → (∀ e ∈ nodesOfAll cs, e.IsClosed m) →
      List.Forall₂ (WrittenAlike stars m) cs ds
  | .nil, _ => .nil
  | .cons h hrest, hclosed => by
    simp only [nodesOfAll, List.forall_mem_append] at hclosed
    exact .cons (h.writtenAlike hclosed.1) (hrest.writtenAlike hclosed.2)

end

/-- **Skeletons.** Let two trees differ only in texts that are one atom each, and let nothing that is
copied into the text leave a quote, slash or backslash open. Then both are written, with the same
tokens. A term is one atom unless it is empty or a keyword; a prefix is one if it holds no white
space, and a regular expression if no backslash of its own undoes an escape. -/
theorem toLucene_skeleton (stars : Bool) (m : FieldMapping) :
    (∀ c d : Criteria, c.Alike stars m d → (∀ e ∈ c.nodes, e.IsClosed m) →
      (∀ e ∈ c.reached, e.IsSound) →
        ∃ text text', c.toLucene m = .ok text ∧ d.toLucene m = .ok text' ∧
          tokens stars text = tokens stars text') ∧
      ∀ (text : String) (live : Bool),
        (tokens stars (value (.str text)) = [.atom live] ↔
          live = false ∧ text ≠ "" ∧ text ∉ keywords) ∧
        (tokens stars (escape text ++ "*") = [.atom live] ↔
          live = stars ∧ text.toList.any Text.isWhiteSpace = false) ∧
        (tokens stars (slashed text) = [.atom live] ↔
          live = false ∧ keepsSlashes text.toList = true) := by
  refine ⟨fun c d halike hclosed hsound => ?_, fun text live =>
    ⟨tokens_termText_iff, tokens_startsWith_iff, tokens_slashed_iff⟩⟩
  obtain ⟨text, htext⟩ := (toLucene_writesByNode (m := m)).exists_ok_iff.2 hsound
  have hagree := halike.writtenAlike hclosed
  rw [WrittenAlike, htext] at hagree
  generalize htext' : d.toLucene m = written at hagree
  cases hagree with
  | ok h => exact ⟨_, _, htext, rfl, h.tokens_eq⟩

end Criteria

namespace Film

/-- Films with a title like one of these, from a year on. -/
def titled (term word start pattern part : String) : Criteria :=
  .and [.range "year" year [⟨.greaterThanOrEqual, .int 1970⟩],
    .or [.term "title" title (.str term), .terms "title" title [.str word, .str term] none],
    .bool [.wildcard "title" title part] [.not (.regexp "title" pattern)] [.startsWith "title" start]]

end Film

namespace Criteria

theorem toLucene_skeleton_film :
    ∃ text text',
      (Film.titled "Solaris" "Stalker" "The" "w.r" "*war*").toLucene Film.mapping = .ok text ∧
        (Film.titled "x\") OR (year:1970" "(a b)" "A\"(:" "a/b\\d" "*\\(*\\ ?").toLucene
          Film.mapping = .ok text' ∧
        tokens true text = tokens true text' := by
  have hatom : ∀ live {a b}, tokens true a = [.atom live] → tokens true b = [.atom live] →
      Interchangeable true a b := fun _ _ _ ha hb => .inr ⟨_, ha, hb⟩
  have hterm : Interchangeable true (value (Film.mapping.formatValue Film.title (.str "Solaris")))
      (value (Film.mapping.formatValue Film.title (.str "x\") OR (year:1970"))) :=
    hatom false (by decide +kernel) (by decide +kernel)
  have hword : Interchangeable true (value (Film.mapping.formatValue Film.title (.str "Stalker")))
      (value (Film.mapping.formatValue Film.title (.str "(a b)"))) :=
    hatom false (by decide +kernel) (by decide +kernel)
  have hstart : Interchangeable true (escape "The" ++ "*") (escape "A\"(:" ++ "*") :=
    hatom true (by decide +kernel) (by decide +kernel)
  have hpattern : Interchangeable true (slashed "w.r") (slashed "a/b\\d") :=
    hatom false (by decide +kernel) (by decide +kernel)
  have hpart : Interchangeable true (pattern (Film.mapping.formatValue Film.title (.str "*war*")))
      (pattern (Film.mapping.formatValue Film.title (.str "*\\(*\\ ?"))) :=
    hatom true (by decide +kernel) (by decide +kernel)
  refine (toLucene_skeleton true Film.mapping).1 _ _ ?_ ?_ ?_
  · refine .and (.cons (.range (.cons ⟨rfl, .inl rfl⟩ .nil)) (.cons (.or ?_) (.cons ?_ .nil)))
    · exact .cons (.term hterm) (.cons (.terms (.cons hword (.cons hterm .nil))) .nil)
    · exact .bool (.cons (.wildcard hpart) .nil) (.cons (.not (.regexp hpattern)) .nil)
        (.cons (.startsWith hstart) .nil)
  · simp only [Film.titled, nodes, nodesOfAll, List.append_nil, List.forall_mem_append,
      List.forall_mem_cons, List.not_mem_nil, false_imp_iff, implies_true, IsClosed]
    decide +kernel
  · simp [Film.titled, IsSound, isNop]

/-- A wildcard pattern is copied as it is, and may bring marks and white space along. -/
theorem toLucene_skeleton_injected :
    ¬∀ text text' : String, text ≠ "" → text' ≠ "" →
      (∀ word, .keyword word ∉ tokens false text ∧ .keyword word ∉ tokens false text') →
        ((Criteria.wildcard "title" Film.title text).toLucene Film.mapping).toOption.map
            (tokens false) =
          ((Criteria.wildcard "title" Film.title text').toLucene Film.mapping).toOption.map
            (tokens false) := by
  intro hclaim
  have hwords : ∀ word, .keyword word ∉ tokens false "*war*" ∧
      .keyword word ∉ tokens false "*war) (year:1970*" := by
    have hone : tokens false "*war*" = [.atom false] := by decide +kernel
    have hmany : tokens false "*war) (year:1970*" = [.atom false, .mark ')', .blank ' ', .mark '(',
        .atom false, .mark ':', .atom false] := by
      decide +kernel
    simp [hone, hmany]
  have hsame := hclaim "*war*" "*war) (year:1970*" (by decide) (by decide) hwords
  revert hsame
  decide +kernel

end Criteria

end SearchQuery
