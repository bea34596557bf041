import SearchQuery.Plan.Aggregate
import SearchQuery.Proofs.Plan.Conservation
import SearchQuery.Proofs.Plan.ScoringFormula

/-!
# Guards against predicates that count for the score

A negation and a count by group have no place for what counts for the score, so they refuse it.
Neither looks into its predicate. The negation compares the query before and after the predicate was
lowered; the count lowers it from no query and asks whether there is one.

* `Expression.substrings`: the searches for a text among the conditions of a predicate.
* `SplitsInto.scoring_perm`: these are what is lifted out of the predicate and what remains at its
  root, whatever the query was.
* `lower_guards`: so both guards refuse just the predicates with a substring. A substring that is
  not at the root is always added to the query.
-/

namespace SearchQuery

open Lowered (Connective)

/-- A search for a text in a field. -/
def Criteria.isWildcard : Criteria → Bool
  | .wildcard .. => true
  | _ => false

namespace Expression

/-- What the connectives and negations of a predicate apply to; conversions are looked through. -/
def conditions : Expression → List Expression
  | .binary .andAlso left right => left.conditions ++ right.conditions
  | .binary .orElse left right => left.conditions ++ right.conditions
  | .unary .convert operand => operand.conditions
  | .unary .not operand => operand.conditions
  | e => [e]

/-- The substrings that a predicate searches for. -/
def substrings (m : FieldMapping) (pathPrefix : String) (e : Expression) : List Criteria :=
  e.conditions.filterMap fun d =>
    (d.leafCriteria m pathPrefix).toOption.filter Criteria.isWildcard

end Expression

/-! ### Leaves that count for the score -/

namespace Criteria

variable {c : Criteria}

theorem isScoringLeaf_of_isWildcard (h : c.isWildcard = true) : c.isScoringLeaf = true := by
  cases c <;> first | rfl | cases h

theorem content_of_isScoringLeaf (h : c.isScoringLeaf = true) : c.content = ({c}, 0) := by
  cases c <;> first | rfl | cases h

/-- What a leaf of a predicate becomes counts for the score only as a leaf. -/
theorem IsAtom.isQueryContext_eq (h : c.IsAtom) : c.isQueryContext = c.isScoringLeaf := by
  rcases h with (hfilter | hleaf) | rfl
  · have hquery := hfilter.isQueryContext
    have hleaf : c.isScoringLeaf = false := by
      by_contra hleaf
      rw [isQueryContext_of_isScoringLeaf (by simpa using hleaf)] at hquery
      cases hquery
    rw [hquery, hleaf]
  · rw [isQueryContext_of_isScoringLeaf hleaf, hleaf]
  · rfl

/-- A test of a field counts for the score only if it searches for a text. -/
theorem AsksOf.isScoringLeaf_eq {field : String} {last : Member} (h : c.AsksOf field last) :
    c.isScoringLeaf = c.isWildcard := by
  cases h with
  | test h => cases h <;> rfl
  | unequal | oneOfOrMissing => rfl

theorem mem_contentOfAll {cs : List Criteria} (hc : c ∈ cs) (h : c.isScoringLeaf = true) :
    c ∈ (contentOfAll cs).1 := by
  obtain ⟨before, after, rfl⟩ := List.append_of_mem hc
  simp [contentOfAll_append, content_of_isScoringLeaf h]

end Criteria

namespace Expression

variable {m : FieldMapping} {pathPrefix : String} {e : Expression} {f : Formula}

theorem leafCriteria_isScoringLeaf {c : Criteria} (h : e.leafCriteria m pathPrefix = .ok c) :
    c.isScoringLeaf = c.isWildcard := by
  rcases leafCriteria_cases h with rfl | rfl | ⟨_, _, _, -, hasks⟩
  · rfl
  · rfl
  · exact hasks.isScoringLeaf_eq

theorem substrings_convert (operand : Expression) :
    (unary .convert operand).substrings m pathPrefix = operand.substrings m pathPrefix := by
  rw [substrings, conditions, substrings]

theorem substrings_not (operand : Expression) :
    (unary .not operand).substrings m pathPrefix = operand.substrings m pathPrefix := by
  rw [substrings, conditions, substrings]

theorem substrings_member (target : Expression) (last : Member) :
    (member target last).substrings m pathPrefix = [] := by
  simp only [substrings, conditions, List.filterMap_cons, List.filterMap_nil, leafCriteria]
  cases booleanField? m pathPrefix (member target last) <;> rfl

/-- A field is no search for a text. -/
theorem substrings_of_field? {field : String × Member} (h : e.field? m pathPrefix = some field) :
    e.substrings m pathPrefix = [] :=
  field?_induct (motive := fun e => e.substrings m pathPrefix = []) (fun _ => rfl)
    substrings_member (fun operand ih => (substrings_convert operand).trans ih) h

/-- The substrings of a predicate are the leaves of its formula that count for the score. -/
theorem substrings_of_formula (h : e.formula m pathPrefix = .ok f) :
    e.substrings m pathPrefix = f.atoms.filter Criteria.isScoringLeaf := by
  induction e using formula.induct m pathPrefix generalizing f with
  | case1 left right ihl ihr | case2 left right ihl ihr =>
    rw [formula] at h
    simp only [bind_eq_ok, pure_eq_ok] at h
    obtain ⟨l, hl, r, hr, rfl⟩ := h
    rw [Formula.atoms, List.filter_append, ← ihl hl, ← ihr hr]
    simp only [substrings, conditions, List.filterMap_append]
  | case3 operand ih =>
    rw [formula] at h
    rw [substrings_convert, ih h]
  | case4 operand field last hfield =>
    rw [formula, hfield] at h
    cases h
    rw [substrings_not, substrings_of_field? (Option.filter_eq_some_iff.1 hfield).1]
    rfl
  | case5 operand hfield ih =>
    rw [formula, hfield] at h
    simp only [bind_eq_ok, pure_eq_ok] at h
    obtain ⟨inner, hinner, rfl⟩ := h
    rw [substrings_not, ih hinner, Formula.atoms]
  | case6 e hand hor hconvert hnot =>
    rw [formula] at h
    · simp only [bind_eq_ok, pure_eq_ok] at h
      obtain ⟨c, hc, rfl⟩ := h
      have hconditions : e.conditions = [e] := by
        rw [conditions]
        all_goals assumption
      have hleaf := leafCriteria_isScoringLeaf hc
      rw [substrings, hconditions, List.filterMap_cons, List.filterMap_nil, hc]
      cases hwildcard : c.isWildcard <;>
        simp [Except.toOption, Option.filter, Formula.atoms, hleaf, hwildcard]
    all_goals assumption

end Expression

/-! ### What a split predicate counts for the score -/

namespace Split

variable {s l r : Split}

/-- What is lifted, and what remains if it counts for the score. -/
def scoring (s : Split) : List Criteria :=
  s.lifted.map (·.2) ++ [s.rest].filter Criteria.isQueryContext

theorem scoring_eq_nil_iff : s.scoring = [] ↔ s.lifted = [] ∧ s.rest.isQueryContext = false := by
  simp [scoring]

theorem isQueryContext_joinFilters {op : Connective} {c : Criteria} (hl : l.Shaped) (hr : r.Shaped)
    (hlq : l.rest.isQueryContext = false) (hrq : r.rest.isQueryContext = false)
    (h : op.joinFilters l.rest r.rest = .ok c) : c.isQueryContext = false := by
  rcases Connective.joinFilters_cases h with ⟨-, rfl⟩ | ⟨-, -, rfl⟩ | ⟨hlnop, hrnop, hcombine⟩
  · exact hrq
  · exact hlq
  · have hlf := hl.isFilter hlq hlnop
    have hrf := hr.isFilter hrq hrnop
    exact (isFilter_of_combine hlf hrf hcombine).isQueryContext

/-- A side that counts for the score is lifted, so it does not remain. -/
theorem scoring_join {op : Connective} (hl : l.Shaped) (hr : r.Shaped)
    (h : Split.join op l r = some s) : s.scoring.Perm (l.scoring ++ r.scoring) := by
  rcases join_cases h with ⟨-, rfl⟩ | ⟨hlq, hrq, c, hc, rfl⟩
  · have hrest : [Connective.remainder l.rest r.rest].filter Criteria.isQueryContext = [] := by
      simp [Formula.isQueryContext_remainder]
    have hsides : [l.rest, r.rest].filter Criteria.isQueryContext =
        [l.rest].filter Criteria.isQueryContext ++ [r.rest].filter Criteria.isQueryContext := by
      rw [← List.filter_append, List.singleton_append]
    simp only [scoring, hrest, hsides, List.map_append, List.map_map, Function.comp_def,
      List.map_id', List.append_nil, List.append_assoc]
    exact (List.perm_append_comm_assoc _ _ _).append_left _
  · have hcq := isQueryContext_joinFilters hl hr hlq hrq hc
    simp [scoring, hlq, hrq, hcq]

end Split

/-- **Nothing that counts for the score stays inside.** The leaves of a formula that count for the
score are lifted out of it, but for one that is all of it and remains. -/
theorem Formula.split_scoring {f : Formula} (hf : f.WellFormed) {s : Split}
    (h : f.split = some s) : s.scoring.Perm (f.atoms.filter Criteria.isScoringLeaf) := by
  induction f generalizing s with
  | atom c =>
    cases h
    have hc : c.IsAtom := hf c (by simp [atoms])
    simp [Split.scoring, atoms, List.filter, hc.isQueryContext_eq]
  | not inner ih =>
    obtain ⟨i, hi, hs⟩ := Option.bind_eq_some_iff.1 h
    obtain ⟨hq, hlifted, rfl⟩ := Split.negate_cases hs
    have hscoring : i.scoring = [] := Split.scoring_eq_nil_iff.2 ⟨hlifted, hq⟩
    have hinner := ih hf hi
    rw [hscoring] at hinner
    exact hinner
  | join op left right ihl ihr =>
    obtain ⟨hleft, hright⟩ := wellFormed_join.1 hf
    obtain ⟨l, hl, h⟩ := Option.bind_eq_some_iff.1 h
    obtain ⟨r, hr, hs⟩ := Option.bind_eq_some_iff.1 h
    have hjoin := Split.scoring_join (split_shaped hleft hl) (split_shaped hright hr) hs
    rw [atoms, List.filter_append]
    exact hjoin.trans ((ihl hleft hl).append (ihr hright hr))

/-! ### Predicates -/

namespace Expression

variable {m : FieldMapping} {pathPrefix : String} {p : Expression} {s : Split}

theorem SplitsInto.scoring_perm (h : p.SplitsInto m pathPrefix s) :
    s.scoring.Perm (p.substrings m pathPrefix) := by
  obtain ⟨f, hf, hs⟩ := h
  rw [substrings_of_formula hf]
  exact Formula.split_scoring (formula_wellFormed hf) hs

theorem SplitsInto.substrings_eq_nil_iff (h : p.SplitsInto m pathPrefix s) :
    p.substrings m pathPrefix = [] ↔ s.lifted = [] ∧ s.rest.isQueryContext = false := by
  rw [← Split.scoring_eq_nil_iff, ← List.perm_nil, ← List.perm_nil]
  exact ⟨h.scoring_perm.trans, h.scoring_perm.symm.trans⟩

theorem SplitsInto.unique {s' : Split} (h : p.SplitsInto m pathPrefix s)
    (h' : p.SplitsInto m pathPrefix s') : s = s' := by
  obtain ⟨f, hf, hs⟩ := h
  obtain ⟨f', hf', hs'⟩ := h'
  obtain rfl : f = f' := Except.ok.inj (hf.symm.trans hf')
  exact Option.some.inj (hs.symm.trans hs')

theorem exists_lower_iff (e : Expression) (query : Option Criteria) :
    (∃ low, (e.lower m pathPrefix query).result = .ok low) ↔ ∃ s, e.SplitsInto m pathPrefix s := by
  simp only [lower_eq_ok_iff e _ _]
  constructor
  · rintro ⟨_, s, hs, -⟩
    exact ⟨s, hs⟩
  · rintro ⟨s, hs⟩
    exact ⟨_, s, hs, rfl⟩

/-! ### The guard of a negation -/

theorem lower_not_of_booleanField? {field : String} {last : Member}
    (h : p.booleanField? m pathPrefix = some (field, last)) (query : Option Criteria) :
    ((unary .not p).lower m pathPrefix query).result =
      .ok ⟨.term field last (.bool false), query⟩ := by
  rw [lower, h]
  rfl

/-- A negation is accepted where its predicate has no substrings. A negated boolean field is not
guarded, and has none. -/
theorem SplitsInto.exists_lower_not_iff (h : p.SplitsInto m pathPrefix s)
    (query : Option Criteria) :
    (∃ low, ((unary .not p).lower m pathPrefix query).result = .ok low) ↔
      p.substrings m pathPrefix = [] := by
  cases hfield : p.booleanField? m pathPrefix with
  | some field =>
    have hnone := substrings_of_field? (Option.filter_eq_some_iff.1 hfield).1
    exact iff_of_true ⟨_, lower_not_of_booleanField? hfield query⟩ hnone
  | none =>
    rw [exists_lower_iff, h.substrings_eq_nil_iff]
    constructor
    · rintro ⟨s', hs'⟩
      obtain ⟨i, hi, hnegate⟩ := (splitsInto_not hfield).1 hs'
      obtain rfl : s = i := h.unique hi
      obtain ⟨hquery, hlifted, -⟩ := Split.negate_cases hnegate
      exact ⟨hlifted, hquery⟩
    · rintro ⟨hlifted, hquery⟩
      have hnegate : s.negate = some ⟨.not (if s.rest.isNop then .matchAll else s.rest), []⟩ := by
        simp [Split.negate, hlifted, hquery]
      exact ⟨_, (splitsInto_not hfield).2 ⟨s, h, hnegate⟩⟩

/-- A negation leaves the query alone. -/
theorem query_of_lower_not {query : Option Criteria} {low : Lowered}
    (h : ((unary .not p).lower m pathPrefix query).result = .ok low) : low.query = query := by
  cases hfield : p.booleanField? m pathPrefix with
  | some field =>
    obtain rfl := Except.ok.inj ((lower_not_of_booleanField? hfield query).symm.trans h)
    rfl
  | none =>
    obtain ⟨s, hs, rfl⟩ := (lower_eq_ok_iff _ _ _).1 h
    obtain ⟨i, -, hnegate⟩ := (splitsInto_not hfield).1 hs
    obtain ⟨-, -, rfl⟩ := Split.negate_cases hnegate
    rfl

end Expression

/-! ### The guard of a count -/

theorem liftAll_none_eq_none_iff {lifted : List (Connective × Criteria)} :
    liftAll none lifted = none ↔ lifted = [] := by
  by_cases hlifted : lifted = []
  · simp [hlifted, liftAll]
  · simp [hlifted, liftAll_none hlifted]

namespace Grouping

variable {g : Grouping} {a : Aggregates} {predicate : Expression} {low : Lowered}

/-- A count is accepted where its predicate neither counts for the score nor leaves a query. -/
theorem exists_bindCount_iff
    (h : (predicate.lowerLambda g.mapping g.pathPrefix none).result = .ok low) :
    (∃ bound, (g.bindCount a predicate).result = .ok bound) ↔
      low.query = none ∧ low.criteria.isQueryContext = false := by
  constructor
  · rintro ⟨bound, hbound⟩
    obtain ⟨low', hlow', hbound⟩ := Traced.bind_eq_ok.1 hbound
    obtain rfl : low = low' := Except.ok.inj (h.symm.trans hlow')
    split_ifs at hbound with hplain hscoring
    · rw [Bool.and_eq_true, Option.isNone_iff_eq_none] at hplain
      refine ⟨hplain.2, Bool.eq_false_iff.2 fun hquery => ?_⟩
      rw [Criteria.isNop_of_isQueryContext hquery] at hplain
      cases hplain.1
    · cases hbound
    · simpa [and_comm] using hscoring
  · rintro ⟨hquery, hrest⟩
    have hscoring : (low.criteria.isQueryContext || low.query.isSome) = false := by
      simp [hquery, hrest]
    by_cases hplain : (low.criteria.isNop && low.query.isNone) = true
    · exact ⟨_, Traced.bind_eq_ok.2 ⟨low, h, by rw [if_pos hplain]; rfl⟩⟩
    · exact ⟨_, Traced.bind_eq_ok.2 ⟨low, h, by rw [if_neg hplain, hscoring]; rfl⟩⟩

/-- A method on the group that counts under a predicate binds a count. -/
theorem bind_count {method : String} (hmethod : method ∈ ["count", "long_count"])
    (g : Grouping) (a : Aggregates) (predicate : Expression) :
    g.bind a (.call method [.parameter g.parameter, predicate]) = g.bindCount a predicate := by
  have hgroup : g.isGroup (.parameter g.parameter) = true := by simp [isGroup]
  rw [bind, if_pos hgroup]
  simp only [List.mem_cons, List.not_mem_nil, or_false] at hmethod
  rcases hmethod with rfl | rfl <;> rfl

end Grouping

namespace Expression

variable {m : FieldMapping} {pathPrefix : String} {p : Expression} {s : Split}

theorem SplitsInto.exists_bind_count_iff (h : p.SplitsInto m pathPrefix s) {method : String}
    (hmethod : method ∈ ["count", "long_count"]) (group x : String) (a : Aggregates) :
    (∃ bound, (Grouping.bind ⟨m, pathPrefix, group⟩ a
        (.call method [.parameter group, .lambda x p])).result = .ok bound) ↔
      p.substrings m pathPrefix = [] := by
  have hlower : ((lambda x p).lowerLambda m pathPrefix none).result = .ok (s.onto none) :=
    (lower_eq_ok_iff p _ _).2 ⟨s, h, rfl⟩
  rw [Grouping.bind_count hmethod ⟨m, pathPrefix, group⟩ a (.lambda x p),
    Grouping.exists_bindCount_iff hlower, h.substrings_eq_nil_iff]
  simp only [Split.onto, liftAll_none_eq_none_iff]

/-! ### Lifted substrings -/

/-- A substring remains at the root, or the query keeps its leaves and has the substring besides. -/
theorem SplitsInto.substring_cases (h : p.SplitsInto m pathPrefix s) {c : Criteria}
    (hc : c ∈ p.substrings m pathPrefix) (query : Option Criteria) :
    s.rest = c ∨ (Criteria.contentOfOption query).1 + {c} ≤
      (Criteria.contentOfOption (s.onto query).query).1 := by
  have hleaf : c.isScoringLeaf = true := by
    obtain ⟨d, -, hd⟩ := List.mem_filterMap.1 hc
    exact Criteria.isScoringLeaf_of_isWildcard (Option.filter_eq_some_iff.1 hd).2
  rcases List.mem_append.1 (h.scoring_perm.mem_iff.2 hc) with hlifted | hrest
  · right
    rw [Split.onto, Placement.contentOfOption_liftAll, Prod.fst_add]
    exact add_le_add_right (Multiset.singleton_le.2 (Criteria.mem_contentOfAll hlifted hleaf)) _
  · left
    exact (List.mem_singleton.1 (List.mem_filter.1 hrest).1).symm

/-- **The guards are exact.** Where a predicate can be lowered at all, its negation is accepted,
from every query, exactly where it has no substring, and then leaves the query alone. A count of the
documents in a group that satisfy it is accepted in the same cases. Where the predicate has a
substring, it returns it, or the query keeps all its leaves and has the substring besides. -/
theorem lower_guards {start : Option Criteria} {first : Lowered}
    (h : (p.lower m pathPrefix start).result = .ok first) (query : Option Criteria) :
    ((∃ low, ((unary .not p).lower m pathPrefix query).result = .ok low) ↔
        p.substrings m pathPrefix = []) ∧
      (∀ low, ((unary .not p).lower m pathPrefix query).result = .ok low → low.query = query) ∧
      (∀ method ∈ ["count", "long_count"], ∀ (group x : String) (a : Aggregates),
        (∃ bound, (Grouping.bind ⟨m, pathPrefix, group⟩ a
            (.call method [.parameter group, .lambda x p])).result = .ok bound) ↔
          p.substrings m pathPrefix = []) ∧
      ∃ low, (p.lower m pathPrefix query).result = .ok low ∧
        ∀ c ∈ p.substrings m pathPrefix, low.criteria = c ∨
          (Criteria.contentOfOption query).1 + {c} ≤ (Criteria.contentOfOption low.query).1 := by
  obtain ⟨s, hs⟩ := (exists_lower_iff p start).1 ⟨first, h⟩
  refine ⟨hs.exists_lower_not_iff query, fun low => query_of_lower_not,
    fun method hmethod group x a => hs.exists_bind_count_iff hmethod group x a, s.onto query,
    (lower_eq_ok_iff p _ _).2 ⟨s, hs, rfl⟩, fun c hc => ?_⟩
  exact hs.substring_cases hc query

end Expression

namespace Film

/-- Films with a word in the title that were made in 1970. -/
def wordIn1970 : Expression := (titleContains "Family").andAlso madeIn1970

def titleWord : Criteria := .wildcard "title" title "*family*"

theorem substrings_wordIn1970 : wordIn1970.substrings mapping "" = [titleWord] := by decide

/-- The word is lifted into the query, the year remains. -/
theorem lower_wordIn1970 : (wordIn1970.lower mapping "" none).result =
    .ok ⟨.term "year" year (.int 1970), some (.bool [titleWord] [] [])⟩ :=
  toOption_eq_some.1 (by decide)

theorem lower_madeIn1970 : (madeIn1970.lower mapping "" none).result =
    .ok ⟨.term "year" year (.int 1970), none⟩ :=
  toOption_eq_some.1 (by decide)

end Film

/-- The year alone can be negated and counted; with the word it can be neither. -/
theorem Expression.lower_guards_film :
    (Film.wordIn1970.lower Film.mapping "" none).result =
        .ok ⟨.term "year" Film.year (.int 1970), some (.bool [Film.titleWord] [] [])⟩ ∧
      (¬∃ low, ((unary .not Film.wordIn1970).lower Film.mapping ""
        (some (.text "crime"))).result = .ok low) ∧
      (∃ low, ((unary .not Film.madeIn1970).lower Film.mapping "" none).result = .ok low) ∧
      (¬∃ bound, (Grouping.bind ⟨Film.mapping, "", "g"⟩ Aggregates.none
        (.call "count" [.parameter "g", .lambda "f" Film.wordIn1970])).result = .ok bound) ∧
      (∃ bound, (Grouping.bind ⟨Film.mapping, "", "g"⟩ Aggregates.none
        (.call "count" [.parameter "g", .lambda "f" Film.madeIn1970])).result = .ok bound) ∧
      ∃ low, (Film.wordIn1970.lower Film.mapping "" (some (.text "crime"))).result = .ok low ∧
        (low.criteria = Film.titleWord ∨
          (Criteria.contentOfOption (some (.text "crime"))).1 + {Film.titleWord} ≤
            (Criteria.contentOfOption low.query).1) := by
  obtain ⟨hnot, -, hcount, low, hlow, hgrows⟩ :=
    lower_guards Film.lower_wordIn1970 (some (.text "crime"))
  obtain ⟨hyearNot, -, hyearCount, -⟩ := lower_guards Film.lower_madeIn1970 none
  have hword : Film.wordIn1970.substrings Film.mapping "" ≠ [] := by
    simp [Film.substrings_wordIn1970]
  have hyear : Film.madeIn1970.substrings Film.mapping "" = [] := by decide
  refine ⟨Film.lower_wordIn1970, fun h => hword (hnot.1 h), hyearNot.2 hyear, fun h => ?_, ?_,
    low, hlow, hgrows _ (by simp [Film.substrings_wordIn1970])⟩
  · exact hword ((hcount "count" (by simp) "g" "f" Aggregates.none).1 h)
  · exact (hyearCount "count" (by simp) "g" "f" Aggregates.none).2 hyear

end SearchQuery
