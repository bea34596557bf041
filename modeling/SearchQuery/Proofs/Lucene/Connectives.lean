import SearchQuery.Proofs.Lucene.Levels
import SearchQuery.Proofs.Lucene.Skeleton

/-!
# Levels of criteria

A compound of several parts is written in parentheses, and so is every clause of a bool node and
whatever is negated. A range with several bounds is not, although `AND` stands between them.

* `Criteria.joins`, `Criteria.innerLevels`: the levels that a criteria has in query syntax.
* `IsQuiet`: what a node copies into the text has no parentheses and no connectives. Terms are
  quiet unless they are a connective (`quiet_termText_iff`).
* `spans_toLucene`: the levels of the text are those of the criteria.
* `unmixed_toLucene_iff`: a level mixes connectives just where such a range is a part of a
  disjunction.
-/

namespace SearchQuery

namespace Criteria

open Lucene

/-! ### Levels of criteria -/

/-- The connectives that are written outside of all parentheses. -/
def joins : Criteria → List String
  | .range _ _ bounds => ["AND"].intercalate (bounds.map fun _ => [])
  | .and [c] => joins c
  | .or [c] => joins c
  | _ => []

/-- The word between the values of a set. -/
def joinWord : Option TermsExecution → String
  | some .and => "AND"
  | _ => "OR"

mutual

/-- The levels within parentheses, in the order in which they end. -/
def innerLevels : Criteria → List (List String)
  | .terms _ _ values mode => [[joinWord mode].intercalate (values.map fun _ => [])]
  | .queryString query _ => levels query
  | .not inner => innerLevels inner ++ [joins inner]
  | .and [c] => innerLevels c
  | .and children => innerLevelsOfAll children ++ [["AND"].intercalate (children.map joins)]
  | .or [c] => innerLevels c
  | .or children => innerLevelsOfAll children ++ [["OR"].intercalate (children.map joins)]
  | .bool must mustNot should =>
    clauseLevels must ++ (clauseLevels should ++ clauseLevels mustNot) ++ [[]]
  | _ => []

def innerLevelsOfAll : List Criteria → List (List String)
  | [] => []
  | c :: rest => innerLevels c ++ innerLevelsOfAll rest

/-- The levels of clauses each of which stands in parentheses. -/
def clauseLevels : List Criteria → List (List String)
  | [] => []
  | c :: rest => innerLevels c ++ [joins c] ++ clauseLevels rest

end

theorem innerLevelsOfAll_eq (cs : List Criteria) :
    innerLevelsOfAll cs = cs.flatMap innerLevels := by
  induction cs with
  | nil => rfl
  | cons c rest ih => rw [innerLevelsOfAll, ih, List.flatMap_cons]

theorem clauseLevels_eq (cs : List Criteria) :
    clauseLevels cs = cs.flatMap fun c => innerLevels c ++ [joins c] := by
  induction cs with
  | nil => rfl
  | cons c rest ih => rw [clauseLevels, ih, List.flatMap_cons]

/-- The connectives that a compound has outside of all parentheses: those of its one part. -/
def joinsOfCompound : List Criteria → List String
  | [c] => joins c
  | _ => []

/-- The levels of a compound within parentheses. -/
def levelsOfCompound (word : String) : List Criteria → List (List String)
  | [c] => innerLevels c
  | children => children.flatMap innerLevels ++ [[word].intercalate (children.map joins)]

theorem joins_and (children : List Criteria) :
    joins (.and children) = joinsOfCompound children := by
  rcases children with - | ⟨c, - | ⟨d, rest⟩⟩ <;> rfl

theorem joins_or (children : List Criteria) :
    joins (.or children) = joinsOfCompound children := by
  rcases children with - | ⟨c, - | ⟨d, rest⟩⟩ <;> rfl

theorem innerLevels_and (children : List Criteria) :
    innerLevels (.and children) = levelsOfCompound "AND" children := by
  rcases children with - | ⟨c, - | ⟨d, rest⟩⟩
  · rfl
  · rfl
  · simp only [innerLevels, levelsOfCompound, innerLevelsOfAll_eq]

theorem innerLevels_or (children : List Criteria) :
    innerLevels (.or children) = levelsOfCompound "OR" children := by
  rcases children with - | ⟨c, - | ⟨d, rest⟩⟩
  · rfl
  · rfl
  · simp only [innerLevels, levelsOfCompound, innerLevelsOfAll_eq]

/-! ### Nodes -/

variable {m : FieldMapping} {field a : String} {children cs : List Criteria} {text : String}

/-- What a node copies into the text has no parentheses and no connectives. A query string may have
both, as long as its parentheses are paired and no level of it mixes connectives. -/
def IsQuiet (m : FieldMapping) : Criteria → Prop
  | .term field member v => Quiet field ∧ Quiet (value (m.formatValue member v))
  | .terms field member values _ =>
    Quiet field ∧ ∀ v ∈ values, Quiet (value (m.formatValue member v))
  | .range field member bounds =>
    Quiet field ∧ ∀ b ∈ bounds, Quiet (value (m.formatValue member b.value))
  | .startsWith field text => Quiet field ∧ Quiet (escape text ++ "*")
  | .regexp field text => Quiet field ∧ Quiet (slashed text)
  | .wildcard field member text => Quiet field ∧ Quiet (pattern (m.formatValue member (.str text)))
  | .queryString query _ => (∃ ended joins, Spans query ended joins) ∧ Unmixed query
  | .present field | .missing field => Quiet field
  | _ => True

/-- A term is quiet unless it is a connective. -/
theorem quiet_termText_iff : Quiet (termText text) ↔ text ∉ joinWords := by
  have hwords : ∀ word ∈ keywords, Token.isQuiet (.keyword word) = true ↔ word ∉ joinWords := by
    decide
  rw [Quiet, and_iff_right (closed_termText text), tokens_termText]
  split_ifs with hempty hkeyword
  · simp [hempty, joinWords]
  · rw [List.forall_mem_singleton, hwords text hkeyword]
  · have hplain : text ∉ joinWords := fun hmem => hkeyword (by
      simp only [joinWords, keywords, List.mem_cons] at hmem ⊢
      tauto)
    simp [Token.isQuiet, hplain]

/-- A prefix without white space is quiet. -/
theorem quiet_startsWith (h : text.toList.any Text.isWhiteSpace = false) :
    Quiet (escape text ++ "*") :=
  quiet_of_tokens_eq (tokens_startsWith_iff.2 ⟨rfl, h⟩)

/-- A regular expression is quiet if none of its backslashes undoes the escape of a slash. -/
theorem quiet_slashed (h : keepsSlashes text.toList = true) : Quiet (slashed text) :=
  quiet_of_tokens_eq (tokens_slashed_iff.2 ⟨rfl, h⟩)

theorem spans_field (hfield : Quiet field) {ended : List (List String)} {joins : List String}
    (h : Spans a ended joins) : Spans (field ++ ":" ++ a) ended joins := by
  have hcolon : Quiet ":" := by decide
  exact hfield.spans.around (by decide) hcolon.spans h

theorem spans_bound (hfield : Quiet field) (comparison : RangeComparison) (h : Quiet a) :
    Spans (Lucene.bound field comparison a) [] [] := by
  have hbetween : ∀ opening closing, Quiet opening → Separates opening → Quiet closing →
      Separates closing → Spans (field ++ opening ++ a ++ closing) [] [] := by
    intro opening closing hopening hseparates hclosing hseparates'
    exact (hfield.spans.around hseparates hopening.spans h.spans).before hseparates' hclosing.spans
  cases comparison with
  | greaterThan =>
    exact hbetween ":\x7b" " TO *\x7d" (by decide) (by decide) (by decide) (by decide)
  | greaterThanOrEqual =>
    exact hbetween ":[" " TO *]" (by decide) (by decide) (by decide) (by decide)
  | lessThan =>
    exact hbetween ":\x7b* TO " "\x7d" (by decide) (by decide) (by decide) (by decide)
  | lessThanOrEqual =>
    exact hbetween ":[* TO " "]" (by decide) (by decide) (by decide) (by decide)

/-- Texts that add nothing, joined by a separator. -/
theorem spans_join_quiet {α : Type} {word separator : String} (hseparator : Separates separator)
    (hwords : Spans separator [] [word]) {write : α → String} {as : List α}
    (h : ∀ a ∈ as, Spans (write a) [] []) :
    Spans (Text.join separator (as.map write)) [] ([word].intercalate (as.map fun _ => [])) := by
  have hparts : List.Forall₂ (fun a text => Spans text ((fun _ => []) a) ((fun _ => []) a)) as
      (as.map write) :=
    List.forall₂_map_right_iff.2 (List.forall₂_same.2 h)
  have hnone : (as.flatMap fun _ => ([] : List (List String))) = [] := by
    simp [List.flatMap_eq_nil_iff]
  have hjoin := Spans.join hparts hseparator hwords
  rwa [hnone] at hjoin

/-- A connective between blanks. -/
theorem spans_word {word separator : String} (hword : word ∈ joinWords)
    (hclosed : Closed separator)
    (htokens : tokens false separator = [.blank ' ', .keyword word, .blank ' ']) :
    Spans separator [] [word] := by
  refine ⟨hclosed, fun l => ?_⟩
  rw [htokens]
  simp [Levels.read, hword]

theorem spans_and : Spans " AND " [] ["AND"] :=
  spans_word (by decide) (by decide) (by decide)

theorem spans_or : Spans " OR " [] ["OR"] :=
  spans_word (by decide) (by decide) (by decide)

theorem spans_connective (mode : Option TermsExecution) :
    Spans (connective mode) [] [joinWord mode] := by
  rcases mode with - | mode
  · exact spans_or
  · cases mode <;> first | exact spans_or | exact spans_and

/-- Written one by one, the parts have the levels of their criteria. -/
def PartsSpan (m : FieldMapping) (cs : List Criteria) : Prop :=
  ∀ texts, cs.mapM (toLucene m) = .ok texts →
    List.Forall₂ (fun c text => Spans text c.innerLevels c.joins) cs texts

theorem spans_joined {empty : Error} {word separator : String} (hseparator : Separates separator)
    (hwords : Spans separator [] [word]) (hparts : PartsSpan m children)
    (h : joined (toLucene m) empty (fun texts => parenthesized (Text.join separator texts))
      children = .ok text) :
    Spans text (levelsOfCompound word children) (joinsOfCompound children) := by
  match children with
  | [] => cases h
  | [c] =>
    have hone : [c].mapM (toLucene m) = .ok [text] :=
      mapM_cons_eq_ok.2 ⟨text, [], h, rfl, rfl⟩
    cases hparts _ hone with
    | cons hc _ => exact hc
  | c :: d :: rest =>
    obtain ⟨texts, htexts, hjoin⟩ := bind_eq_ok.1 h
    obtain rfl := pure_eq_ok.1 hjoin
    exact (Spans.join (hparts texts htexts) hseparator hwords).parenthesized

/-- Clauses in parentheses, each behind its sign. -/
theorem spans_clauses (sign : String) (hsign : Quiet sign)
    (hend : Mode.between.after sign.toList = .between) {texts : List String}
    (h : List.Forall₂ (fun c text => Spans text (innerLevels c) (joins c)) cs texts) :
    List.Forall₂ (fun c text => Spans text (innerLevels c ++ [joins c]) []) cs
      (texts.map fun t => sign ++ parenthesized t) := by
  refine List.forall₂_map_right_iff.2 (h.imp fun c t ht => ?_)
  exact hsign.spans.behind hend ht.parenthesized

theorem spans_bool {must mustNot should : List Criteria} (hmust : PartsSpan m must)
    (hshould : PartsSpan m should) (hmustNot : PartsSpan m mustNot)
    (h : toLucene m (.bool must mustNot should) = .ok text) :
    Spans text (innerLevels (.bool must mustNot should)) [] := by
  rw [toLucene, listToLucene_eq, listToLucene_eq, listToLucene_eq] at h
  obtain ⟨musts, hmusts, h⟩ := bind_eq_ok.1 h
  obtain ⟨shoulds, hshoulds, h⟩ := bind_eq_ok.1 h
  obtain ⟨mustNots, hmustNots, h⟩ := bind_eq_ok.1 h
  have hclauses : List.Forall₂ (fun c text => Spans text (innerLevels c ++ [joins c]) [])
      (must ++ should ++ mustNot)
      (musts.map (fun t => "+" ++ parenthesized t) ++ shoulds.map parenthesized ++
        mustNots.map fun t => "-" ++ parenthesized t) := by
    have hplus := spans_clauses "+" (by decide) (by decide) (hmust _ hmusts)
    have hminus := spans_clauses "-" (by decide) (by decide) (hmustNot _ hmustNots)
    have hbare : List.Forall₂ (fun c text => Spans text (innerLevels c ++ [joins c]) []) should
        (shoulds.map parenthesized) :=
      List.forall₂_map_right_iff.2 ((hshould _ hshoulds).imp fun _ _ ht => ht.parenthesized)
    exact List.rel_append (List.rel_append hplus hbare) hminus
  have hblank : Quiet " " := by decide
  have hseparates : Separates " " := by decide
  have hspans := (Spans.join hclauses hseparates hblank.spans).parenthesized
  have hlevels : innerLevels (.bool must mustNot should) =
      (must ++ should ++ mustNot).flatMap (fun c => innerLevels c ++ [joins c]) ++
        [([] : List String).intercalate ((must ++ should ++ mustNot).map fun _ => [])] := by
    rw [intercalate_map_nil]
    simp only [innerLevels, clauseLevels_eq, List.flatMap_append, List.append_assoc]
  rw [hlevels]
  -- Without any clause nothing is written.
  revert h hspans
  generalize musts.map _ ++ shoulds.map _ ++ mustNots.map _ = clauses
  intro h hspans
  cases clauses with
  | nil => cases h
  | cons first rest =>
    obtain rfl := pure_eq_ok.1 h
    exact hspans

mutual

/-- The text of a criteria has the levels of the criteria. -/
theorem spans_toLucene : (c : Criteria) → (∀ d ∈ c.reached, d.IsQuiet m) → ∀ text,
    toLucene m c = .ok text → Spans text c.innerLevels c.joins
  | .term field member v, hquiet, _, rfl => by
    have hnode := hquiet _ (List.mem_singleton_self _)
    exact spans_field hnode.1 hnode.2.spans
  | .terms field member values mode, hquiet, _, rfl => by
    have hnode := hquiet _ (List.mem_singleton_self _)
    have hvalues := spans_join_quiet (separates_connective mode) (spans_connective mode)
      fun v hv => (hnode.2 v hv).spans
    exact spans_field hnode.1 hvalues.parenthesized
  | .range field member bounds, hquiet, _, rfl => by
    have hnode := hquiet _ (List.mem_singleton_self _)
    exact spans_join_quiet (by decide) spans_and fun b hb =>
      spans_bound hnode.1 b.comparison (hnode.2 b hb)
  | .startsWith field text, hquiet, _, rfl => by
    have hnode := hquiet _ (List.mem_singleton_self _)
    have hspans := spans_field hnode.1 hnode.2.spans
    rw [← String.append_assoc] at hspans
    exact hspans
  | .regexp field text, hquiet, _, rfl => by
    have hnode := hquiet _ (List.mem_singleton_self _)
    exact spans_field hnode.1 hnode.2.spans
  | .wildcard field member text, hquiet, _, rfl => by
    have hnode := hquiet _ (List.mem_singleton_self _)
    exact spans_field hnode.1 hnode.2.spans
  | .queryString query fields, hquiet, _, rfl => by
    obtain ⟨⟨ended, joins, hspans⟩, -⟩ := hquiet _ (List.mem_singleton_self _)
    have hparenthesized := hspans.parenthesized
    rw [← hspans.levels_eq] at hparenthesized
    exact hparenthesized
  | .present field, hquiet, _, rfl => by
    have hnode : Quiet field := hquiet _ (List.mem_singleton_self _)
    have hopening : Quiet "_exists_:" := by decide
    exact hopening.spans.behind (by decide) hnode.spans
  | .missing field, hquiet, _, rfl => by
    have hnode : Quiet field := hquiet _ (List.mem_singleton_self _)
    have hopening : Quiet "_missing_:" := by decide
    exact hopening.spans.behind (by decide) hnode.spans
  | .matchAll, _, _, rfl => by
    have hall : Quiet "*:*" := by decide
    exact hall.spans
  | .not inner, hquiet, text, h => by
    obtain ⟨t, ht, htext⟩ := bind_eq_ok.1 h
    obtain rfl := pure_eq_ok.1 htext
    have hinner := spans_toLucene inner (fun d hd => hquiet d (List.mem_cons_of_mem _ hd)) t ht
    have hnot : Quiet "NOT " := by decide
    exact hnot.spans.behind (by decide) hinner.parenthesized
  | .and children, hquiet, text, h => by
    rw [toLucene_and] at h
    rw [innerLevels_and, joins_and]
    exact spans_joined (by decide) spans_and
      (spans_mapM children fun d hd => hquiet d (List.mem_cons_of_mem _ hd)) h
  | .or children, hquiet, text, h => by
    rw [toLucene_or] at h
    rw [innerLevels_or, joins_or]
    exact spans_joined (by decide) spans_or
      (spans_mapM children fun d hd => hquiet d (List.mem_cons_of_mem _ hd)) h
  | .bool must mustNot should, hquiet, text, h => by
    simp only [reached, List.forall_mem_cons, List.forall_mem_append] at hquiet
    exact spans_bool (spans_mapM must hquiet.2.1) (spans_mapM should hquiet.2.2.1)
      (spans_mapM mustNot hquiet.2.2.2) h
  | .nop _, _, _, h => nomatch h

theorem spans_mapM : (cs : List Criteria) → (∀ d ∈ reachedInAll cs, d.IsQuiet m) → PartsSpan m cs
  | [], _, _, h => by
    obtain rfl := pure_eq_ok.1 h
    exact .nil
  | c :: rest, hquiet, texts, h => by
    simp only [reachedInAll, List.forall_mem_append] at hquiet
    obtain ⟨text, texts', htext, htexts, rfl⟩ := mapM_cons_eq_ok.1 h
    exact .cons (spans_toLucene c hquiet.1 text htext) (spans_mapM rest hquiet.2 texts' htexts)

end

/-! ### Mixed levels -/

/-- A disjunction of several parts, one of which has connectives outside of all parentheses. -/
def mixes : Criteria → Bool
  | .or (first :: second :: rest) => (first :: second :: rest).any fun c => !c.joins.isEmpty
  | _ => false

/-- Only between the bounds of a range, `AND` stands outside of all parentheses. -/
theorem eq_and_of_mem_joins : {c : Criteria} → ∀ w ∈ c.joins, w = "AND"
  | .range .., w, hw => by
    rw [joins, mem_intercalate] at hw
    simp at hw
    exact hw.2
  | .and [c], w, hw => eq_and_of_mem_joins (c := c) w hw
  | .or [c], w, hw => eq_and_of_mem_joins (c := c) w hw
  | .and [], _, hw | .or [], _, hw => by cases hw
  | .and (_ :: _ :: _), _, hw | .or (_ :: _ :: _), _, hw => by cases hw
  | .term .., _, hw | .terms .., _, hw | .startsWith .., _, hw | .regexp .., _, hw
  | .wildcard .., _, hw | .queryString .., _, hw | .present _, _, hw | .missing _, _, hw
  | .matchAll, _, hw | .not _, _, hw | .bool .., _, hw | .nop _, _, hw => by cases hw

theorem isUnmixed_joins (c : Criteria) : IsUnmixed c.joins :=
  isUnmixed_of_forall_eq eq_and_of_mem_joins

/-- Between the parts of a conjunction there is nothing but `AND`. -/
theorem isUnmixed_intercalate_and (children : List Criteria) :
    IsUnmixed (["AND"].intercalate (children.map joins)) := by
  refine isUnmixed_of_forall_eq (w := "AND") fun w hw => ?_
  rcases mem_intercalate.1 hw with ⟨-, hand⟩ | ⟨words, hwords, hmem⟩
  · exact List.mem_singleton.1 hand
  · obtain ⟨c, -, rfl⟩ := List.mem_map.1 hwords
    exact eq_and_of_mem_joins w hmem

/-- Between the parts of a disjunction there is `AND` too if one of them has it. -/
theorem isUnmixed_intercalate_or (first second : Criteria) (rest : List Criteria) :
    IsUnmixed (["OR"].intercalate ((first :: second :: rest).map joins)) ↔
      mixes (.or (first :: second :: rest)) = false := by
  have hor : "OR" ∈ ["OR"].intercalate ((first :: second :: rest).map joins) :=
    mem_intercalate.2 (.inl ⟨by simp, List.mem_singleton_self _⟩)
  rw [mixes, List.any_eq_false]
  constructor
  · intro hunmixed c hc hjoins
    obtain ⟨w, hw⟩ := List.exists_mem_of_ne_nil c.joins (by simpa using hjoins)
    have hand : "AND" ∈ ["OR"].intercalate ((first :: second :: rest).map joins) := by
      rw [eq_and_of_mem_joins w hw] at hw
      exact mem_intercalate.2 (.inr ⟨_, List.mem_map_of_mem hc, hw⟩)
    exact absurd (hunmixed _ hor _ hand) (by decide)
  · intro hnone
    refine isUnmixed_of_forall_eq (w := "OR") fun w hw => ?_
    rcases mem_intercalate.1 hw with ⟨-, hword⟩ | ⟨words, hwords, hmem⟩
    · exact List.mem_singleton.1 hword
    · obtain ⟨c, hc, rfl⟩ := List.mem_map.1 hwords
      have hempty : c.joins = [] := by simpa using hnone c hc
      rw [hempty] at hmem
      cases hmem

/-- The levels of all these criteria within parentheses. -/
def LevelsUnmixed (cs : List Criteria) : Prop :=
  ∀ c ∈ cs, ∀ level ∈ c.innerLevels, IsUnmixed level

theorem levelsUnmixed_flatMap :
    (∀ level ∈ cs.flatMap innerLevels, IsUnmixed level) ↔ LevelsUnmixed cs := by
  constructor
  · intro h c hc level hlevel
    exact h level (List.mem_flatMap.2 ⟨c, hc, hlevel⟩)
  · intro h level hlevel
    obtain ⟨c, hc, hmem⟩ := List.mem_flatMap.1 hlevel
    exact h c hc level hmem

theorem levelsUnmixed_and :
    (∀ level ∈ innerLevels (.and children), IsUnmixed level) ↔ LevelsUnmixed children := by
  rw [innerLevels_and]
  rcases children with - | ⟨c, - | ⟨d, rest⟩⟩
  · simp [levelsOfCompound, LevelsUnmixed, IsUnmixed]
  · simp [levelsOfCompound, LevelsUnmixed]
  · have hown := isUnmixed_intercalate_and (c :: d :: rest)
    rw [levelsOfCompound, List.forall_mem_append, List.forall_mem_singleton, levelsUnmixed_flatMap]
    · exact and_iff_left hown
    · simp

theorem levelsUnmixed_or :
    (∀ level ∈ innerLevels (.or children), IsUnmixed level) ↔
      LevelsUnmixed children ∧ mixes (.or children) = false := by
  rw [innerLevels_or]
  rcases children with - | ⟨c, - | ⟨d, rest⟩⟩
  · simp [levelsOfCompound, LevelsUnmixed, IsUnmixed, mixes]
  · simp [levelsOfCompound, LevelsUnmixed, mixes]
  · have hown := isUnmixed_intercalate_or c d rest
    rw [levelsOfCompound, List.forall_mem_append, List.forall_mem_singleton, levelsUnmixed_flatMap,
      hown]
    simp

theorem levelsUnmixed_clauses :
    (∀ level ∈ clauseLevels cs, IsUnmixed level) ↔ LevelsUnmixed cs := by
  rw [clauseLevels_eq]
  constructor
  · intro h c hc level hlevel
    exact h level (List.mem_flatMap.2 ⟨c, hc, List.mem_append_left _ hlevel⟩)
  · intro h level hlevel
    obtain ⟨c, hc, hmem⟩ := List.mem_flatMap.1 hlevel
    rcases List.mem_append.1 hmem with hinner | hjoins
    · exact h c hc level hinner
    · rw [List.mem_singleton.1 hjoins]
      exact isUnmixed_joins c

mutual

theorem unmixed_innerLevels_iff : (c : Criteria) → (∀ d ∈ c.reached, d.IsQuiet m) →
    ((∀ level ∈ c.innerLevels, IsUnmixed level) ↔ ∀ d ∈ c.reached, d.mixes = false)
  | .terms field member values mode, _ => by
    have hown : IsUnmixed ([joinWord mode].intercalate (values.map fun _ => [])) := by
      refine isUnmixed_of_forall_eq (w := joinWord mode) fun w hw => ?_
      rw [mem_intercalate] at hw
      simp at hw
      exact hw.2
    simp only [innerLevels, reached, List.forall_mem_singleton, hown, mixes]
  | .queryString query fields, hquiet => by
    have hown : Unmixed query := (hquiet _ (List.mem_singleton_self _)).2
    simp only [innerLevels, reached, List.forall_mem_singleton, mixes, iff_true]
    exact hown
  | .not inner, hquiet => by
    have hinner := unmixed_innerLevels_iff inner fun d hd => hquiet d (List.mem_cons_of_mem _ hd)
    simp only [innerLevels, reached, List.forall_mem_append, List.forall_mem_singleton,
      List.forall_mem_cons, isUnmixed_joins, and_true, mixes, true_and, hinner]
  | .and children, hquiet => by
    have hchildren := levelsUnmixed_iff children fun d hd => hquiet d (List.mem_cons_of_mem _ hd)
    rw [levelsUnmixed_and, hchildren, reached, List.forall_mem_cons]
    simp [mixes]
  | .or children, hquiet => by
    have hchildren := levelsUnmixed_iff children fun d hd => hquiet d (List.mem_cons_of_mem _ hd)
    rw [levelsUnmixed_or, hchildren, reached, List.forall_mem_cons, and_comm]
  | .bool must mustNot should, hquiet => by
    simp only [reached, List.forall_mem_cons, List.forall_mem_append] at hquiet
    have hmust := levelsUnmixed_iff must hquiet.2.1
    have hshould := levelsUnmixed_iff should hquiet.2.2.1
    have hmustNot := levelsUnmixed_iff mustNot hquiet.2.2.2
    simp only [innerLevels, reached, List.forall_mem_append, List.forall_mem_cons,
      levelsUnmixed_clauses, hmust, hshould, hmustNot, mixes, true_and]
    simp [IsUnmixed]
  | .term .., _ | .range .., _ | .startsWith .., _ | .regexp .., _ | .wildcard .., _
  | .present _, _ | .missing _, _ | .matchAll, _ | .nop _, _ => by
    simp [innerLevels, mixes]

theorem levelsUnmixed_iff : (cs : List Criteria) → (∀ d ∈ reachedInAll cs, d.IsQuiet m) →
    (LevelsUnmixed cs ↔ ∀ d ∈ reachedInAll cs, d.mixes = false)
  | [], _ => by simp [LevelsUnmixed]
  | c :: rest, hquiet => by
    simp only [reachedInAll, List.forall_mem_append] at hquiet
    have hfirst := unmixed_innerLevels_iff c hquiet.1
    have hrest := levelsUnmixed_iff rest hquiet.2
    rw [reachedInAll, List.forall_mem_append, ← hfirst, ← hrest]
    simp [LevelsUnmixed]

end

/-- A text of a criteria mixes connectives on a level just where a disjunction does. -/
theorem unmixed_toLucene_iff {c : Criteria} (hquiet : ∀ d ∈ c.reached, d.IsQuiet m)
    (h : toLucene m c = .ok text) : Unmixed text ↔ ∀ d ∈ c.reached, d.mixes = false := by
  rw [Unmixed, (spans_toLucene c hquiet text h).levels_eq, List.forall_mem_append,
    List.forall_mem_singleton, unmixed_innerLevels_iff c hquiet]
  exact and_iff_left (isUnmixed_joins c)

end Criteria

end SearchQuery
