import Mathlib.Tactic.Common
import SearchQuery.Plan.Predicate
import SearchQuery.Proofs.Success

/-!
# Predicates as formulas

Lowering a predicate mixes two concerns: what the predicate says, and where its parts end up. Here
they are taken apart.

* `Expression.formula`: the predicate as a boolean formula over the criteria of its leaves.
* `Formula.split`: what remains of a formula and what is lifted out of it, in order. It knows no
  query.
* `lower_eq_ok_iff`: lowering a predicate is splitting its formula and adding what is lifted to the
  query of the request. The guard of a negation compares queries; since every lift adds a clause, it
  asks whether anything was lifted (`sameQuery_onto`).
-/

namespace SearchQuery

open Lowered (Connective)

/-- A boolean formula over criteria. -/
inductive Formula where
  | atom (criteria : Criteria)
  | not (inner : Formula)
  | join (op : Connective) (left right : Formula)
  deriving DecidableEq

namespace Expression

/-- The formula of a predicate. A negated boolean field is a leaf of its own. -/
def formula (m : FieldMapping) (pathPrefix : String) : Expression → Except Error Formula
  | .binary .andAlso left right => do
    return .join .and (← formula m pathPrefix left) (← formula m pathPrefix right)
  | .binary .orElse left right => do
    return .join .or (← formula m pathPrefix left) (← formula m pathPrefix right)
  | .unary .convert operand => formula m pathPrefix operand
  | .unary .not operand =>
    match operand.booleanField? m pathPrefix with
    | some (field, last) => return .atom (.term field last (.bool false))
    | none => do return .not (← formula m pathPrefix operand)
  | e => do return .atom (← e.leafCriteria m pathPrefix)

end Expression

/-! ### Splitting formulas -/

/-- What remains of a formula and what is lifted out of it. -/
structure Split where
  rest : Criteria
  lifted : List (Connective × Criteria)

/-- A query with the lifted criteria added. -/
def liftAll (query : Option Criteria) (lifted : List (Connective × Criteria)) : Option Criteria :=
  lifted.foldl (fun q l => some (l.1.lift q l.2)) query

namespace Split

/-- The outcome of lowering, given the query so far. -/
def onto (s : Split) (query : Option Criteria) : Lowered := ⟨s.rest, liftAll query s.lifted⟩

/-- Two sides of a connective. Sides that count for the score are lifted, left before right. -/
def join (op : Connective) (l r : Split) : Option Split :=
  if l.rest.isQueryContext || r.rest.isQueryContext then
    some ⟨Connective.remainder l.rest r.rest, l.lifted ++ r.lifted ++
      ([l.rest, r.rest].filter Criteria.isQueryContext).map (op, ·)⟩
  else (op.joinFilters l.rest r.rest).toOption.map fun c => ⟨c, l.lifted ++ r.lifted⟩

/-- The negation of a formula nothing of which counts for the score. -/
def negate (s : Split) : Option Split :=
  if s.rest.isQueryContext || !s.lifted.isEmpty then none
  else some ⟨.not (if s.rest.isNop then .matchAll else s.rest), []⟩

end Split

namespace Formula

def split : Formula → Option Split
  | .atom c => some ⟨c, []⟩
  | .not inner => inner.split.bind Split.negate
  | .join op left right => left.split.bind fun l => right.split.bind fun r => Split.join op l r

end Formula

/-! ### Cases of splitting -/

theorem Lowered.Connective.joinFilters_cases {op : Connective} {a b c : Criteria}
    (h : op.joinFilters a b = .ok c) :
    (a.isNop = true ∧ c = b) ∨ (a.isNop = false ∧ b.isNop = true ∧ c = a) ∨
      (a.isNop = false ∧ b.isNop = false ∧ op.combine a b = some c) := by
  unfold Connective.joinFilters at h
  split_ifs at h with ha hb
  · exact .inl ⟨ha, (Except.ok.inj h).symm⟩
  · exact .inr (.inl ⟨by simpa using ha, hb, (Except.ok.inj h).symm⟩)
  · split at h
    · rename_i combined hcombined
      rw [Except.ok.inj h] at hcombined
      exact .inr (.inr ⟨by simpa using ha, by simpa using hb, hcombined⟩)
    · cases h

namespace Split

variable {s s' l r : Split}

/-- Either a side is lifted, or two filters are joined. -/
theorem join_cases {op : Connective} (h : Split.join op l r = some s) :
    ((l.rest.isQueryContext || r.rest.isQueryContext) = true ∧
        s = ⟨Connective.remainder l.rest r.rest, l.lifted ++ r.lifted ++
          ([l.rest, r.rest].filter Criteria.isQueryContext).map (op, ·)⟩) ∨
      (l.rest.isQueryContext = false ∧ r.rest.isQueryContext = false ∧
        ∃ c, op.joinFilters l.rest r.rest = .ok c ∧ s = ⟨c, l.lifted ++ r.lifted⟩) := by
  unfold Split.join at h
  split_ifs at h with hscoring
  · exact .inl ⟨hscoring, (Option.some.inj h).symm⟩
  · obtain ⟨c, hc, rfl⟩ := Option.map_eq_some_iff.1 h
    rw [Bool.or_eq_true, not_or, Bool.not_eq_true, Bool.not_eq_true] at hscoring
    exact .inr ⟨hscoring.1, hscoring.2, c, toOption_eq_some.1 hc, rfl⟩

/-- Nothing was lifted out of what is negated, and nothing in it counts for the score. -/
theorem negate_cases (h : s.negate = some s') :
    s.rest.isQueryContext = false ∧ s.lifted = [] ∧
      s' = ⟨.not (if s.rest.isNop then .matchAll else s.rest), []⟩ := by
  by_cases hscoring : (s.rest.isQueryContext || !s.lifted.isEmpty) = true
  · rw [negate, if_pos hscoring] at h
    cases h
  · rw [negate, if_neg hscoring] at h
    rw [Bool.or_eq_true, not_or, Bool.not_eq_true, Bool.not_eq_true', Bool.not_eq_false,
      List.isEmpty_iff] at hscoring
    exact ⟨hscoring.1, hscoring.2, (Option.some.inj h).symm⟩

end Split

/-! ### Lifting adds clauses -/

theorem liftAll_append (query : Option Criteria) (a b : List (Connective × Criteria)) :
    liftAll query (a ++ b) = liftAll (liftAll query a) b :=
  List.foldl_append

/-- The number of clauses of a query, one more where it is a bool node. -/
def clauseCount : Option Criteria → Nat
  | none => 0
  | some (.bool must mustNot should) => must.length + mustNot.length + should.length + 1
  | some _ => 1

theorem length_canonicalList (cs : List Criteria) :
    (Criteria.canonicalList cs).length = cs.length := by
  induction cs with
  | nil => rfl
  | cons c rest ih => simp [Criteria.canonicalList, ih]

theorem clauseCount_canonical (query : Option Criteria) :
    clauseCount (query.map Criteria.canonical) = clauseCount query := by
  cases query with
  | none => rfl
  | some c => cases c <;> simp [Criteria.canonical, clauseCount, length_canonicalList]

theorem clauseCount_lift (op : Connective) (query : Option Criteria) (c : Criteria) :
    clauseCount query < clauseCount (some (op.lift query c)) := by
  cases op with
  | and =>
    simp only [Connective.lift, Criteria.boolMust]
    split <;> simp [clauseCount, Nat.add_right_comm]
  | or =>
    simp only [Connective.lift, Criteria.boolShould]
    split <;> simp [clauseCount]

theorem clauseCount_le_liftAll (query : Option Criteria) (lifted : List (Connective × Criteria)) :
    clauseCount query ≤ clauseCount (liftAll query lifted) := by
  induction lifted generalizing query with
  | nil => exact Nat.le_refl _
  | cons l rest ih => exact Nat.le_trans (Nat.le_of_lt (clauseCount_lift l.1 query l.2)) (ih _)

/-- Lifting leaves a query the same only where there is nothing to lift. -/
theorem sameQuery_liftAll (query : Option Criteria) (lifted : List (Connective × Criteria)) :
    Lowered.sameQuery (liftAll query lifted) query = lifted.isEmpty := by
  cases lifted with
  | nil => simp [liftAll, Lowered.sameQuery]
  | cons l rest =>
    have hlt : clauseCount query < clauseCount (liftAll query (l :: rest)) :=
      Nat.lt_of_lt_of_le (clauseCount_lift l.1 query l.2) (clauseCount_le_liftAll _ rest)
    rw [List.isEmpty_cons, Lowered.sameQuery, beq_eq_false_iff_ne]
    intro heq
    rw [← clauseCount_canonical, ← clauseCount_canonical (liftAll _ _), heq] at hlt
    exact Nat.lt_irrefl _ hlt

/-! ### Lowering splits the formula -/

theorem liftSides_eq (op : Connective) (query : Option Criteria) (sides : List Criteria) :
    op.liftSides query sides =
      liftAll query ((sides.filter Criteria.isQueryContext).map (op, ·)) := by
  rw [liftAll, List.foldl_map, Connective.liftSides]

theorem join_eq_ok_iff (op : Connective) (l r : Split) (query : Option Criteria) (low : Lowered) :
    (op.join ((r.onto (l.onto query).query).query) l.rest r.rest).result = .ok low ↔
      ∃ s, Split.join op l r = some s ∧ low = s.onto query := by
  have hquery : (r.onto (l.onto query).query).query = liftAll query (l.lifted ++ r.lifted) :=
    (liftAll_append _ _ _).symm
  rw [hquery, Connective.join, Split.join]
  split_ifs with hscoring
  · rw [liftSides_eq, ← liftAll_append]
    constructor
    · intro h
      cases h
      exact ⟨_, rfl, rfl⟩
    · rintro ⟨_, hs, rfl⟩
      cases hs
      rfl
  · cases hc : op.joinFilters l.rest r.rest with
    | error e => simp [bind_eq_ok, Except.toOption]
    | ok c =>
      constructor
      · intro h
        cases h
        exact ⟨_, rfl, rfl⟩
      · rintro ⟨_, hs, rfl⟩
        cases hs
        rfl

theorem negate_eq_ok_iff (operand : Expression) (s : Split) (query : Option Criteria)
    (low : Lowered) :
    (s.onto query).negate query operand = .ok low ↔
      ∃ s', s.negate = some s' ∧ low = s'.onto query := by
  have hsame : Lowered.sameQuery (s.onto query).query query = s.lifted.isEmpty :=
    sameQuery_liftAll query s.lifted
  rw [Lowered.negate, Split.negate, hsame]
  by_cases hscoring : (s.rest.isQueryContext || !s.lifted.isEmpty) = true
  · simp [Split.onto, hscoring]
  · have hnil : s.lifted = [] := by simp_all
    constructor
    · intro h
      rw [Split.onto, if_neg hscoring] at h
      cases h
      exact ⟨_, if_neg hscoring, by rw [hnil]; rfl⟩
    · rintro ⟨_, hs, rfl⟩
      rw [if_neg hscoring] at hs
      cases hs
      rw [Split.onto, if_neg hscoring, hnil]
      rfl

namespace Expression

variable {m : FieldMapping} {pathPrefix : String}

/-- The predicate has a formula that splits so. -/
def SplitsInto (m : FieldMapping) (pathPrefix : String) (e : Expression) (s : Split) : Prop :=
  ∃ f, e.formula m pathPrefix = .ok f ∧ f.split = some s

theorem formula_join (op : Connective) (left right : Expression) :
    (binary op.operator left right).formula m pathPrefix = (do
      return .join op (← left.formula m pathPrefix) (← right.formula m pathPrefix)) := by
  cases op <;> rw [Connective.operator, formula]

theorem lower_join (op : Connective) (left right : Expression) (query : Option Criteria) :
    (binary op.operator left right).lower m pathPrefix query = (do
      let l ← left.lower m pathPrefix query
      let r ← right.lower m pathPrefix l.query
      op.join r.query l.criteria r.criteria) := by
  cases op <;> rw [Connective.operator, lower]

theorem splitsInto_join {op : Connective} {left right : Expression} {s : Split} :
    (binary op.operator left right).SplitsInto m pathPrefix s ↔
      ∃ l, left.SplitsInto m pathPrefix l ∧
        ∃ r, right.SplitsInto m pathPrefix r ∧ Split.join op l r = some s := by
  simp only [SplitsInto, formula_join, bind_eq_ok, pure_eq_ok]
  constructor
  · rintro ⟨_, ⟨f, hf, g, hg, rfl⟩, hs⟩
    obtain ⟨l, hl, hs⟩ := Option.bind_eq_some_iff.1 hs
    obtain ⟨r, hr, hs⟩ := Option.bind_eq_some_iff.1 hs
    exact ⟨l, ⟨f, hf, hl⟩, r, ⟨g, hg, hr⟩, hs⟩
  · rintro ⟨l, ⟨f, hf, hl⟩, r, ⟨g, hg, hr⟩, hs⟩
    exact ⟨_, ⟨f, hf, g, hg, rfl⟩, by simp [Formula.split, hl, hr, hs]⟩

theorem splitsInto_not {operand : Expression} {s : Split}
    (hfield : operand.booleanField? m pathPrefix = none) :
    (unary .not operand).SplitsInto m pathPrefix s ↔
      ∃ i, operand.SplitsInto m pathPrefix i ∧ i.negate = some s := by
  simp only [SplitsInto, formula, hfield, bind_eq_ok, pure_eq_ok]
  constructor
  · rintro ⟨_, ⟨f, hf, rfl⟩, hs⟩
    obtain ⟨i, hi, hs⟩ := Option.bind_eq_some_iff.1 hs
    exact ⟨i, ⟨f, hf, hi⟩, hs⟩
  · rintro ⟨i, ⟨f, hf, hi⟩, hs⟩
    exact ⟨_, ⟨f, hf, rfl⟩, by simp [Formula.split, hi, hs]⟩

theorem splitsInto_atom {e : Expression} {s : Split} {c : Except Error Criteria}
    (he : e.formula m pathPrefix = (do return .atom (← c))) :
    e.SplitsInto m pathPrefix s ↔ ∃ a, c = .ok a ∧ s = ⟨a, []⟩ := by
  simp only [SplitsInto, he, bind_eq_ok, pure_eq_ok]
  constructor
  · rintro ⟨_, ⟨a, ha, rfl⟩, hs⟩
    cases hs
    exact ⟨a, ha, rfl⟩
  · rintro ⟨a, ha, rfl⟩
    exact ⟨_, ⟨a, ha, rfl⟩, rfl⟩

/-- What lowering a predicate comes to. -/
def LowersBySplit (m : FieldMapping) (pathPrefix : String) (e : Expression) : Prop :=
  ∀ query low, (e.lower m pathPrefix query).result = .ok low ↔
    ∃ s, e.SplitsInto m pathPrefix s ∧ low = s.onto query

theorem lowersBySplit_join (op : Connective) {left right : Expression}
    (hl : left.LowersBySplit m pathPrefix) (hr : right.LowersBySplit m pathPrefix) :
    (binary op.operator left right).LowersBySplit m pathPrefix := by
  intro query low
  simp only [lower_join, Traced.result_bind, bind_eq_ok, hl _ _, hr _ _, splitsInto_join]
  constructor
  · rintro ⟨_, ⟨l, hl, rfl⟩, _, ⟨r, hr, rfl⟩, hjoin⟩
    obtain ⟨s, hs, rfl⟩ := (join_eq_ok_iff ..).1 hjoin
    exact ⟨s, ⟨l, hl, r, hr, hs⟩, rfl⟩
  · rintro ⟨s, ⟨l, hl, r, hr, hs⟩, rfl⟩
    exact ⟨_, ⟨l, hl, rfl⟩, _, ⟨r, hr, rfl⟩, (join_eq_ok_iff ..).2 ⟨s, hs, rfl⟩⟩

theorem lowersBySplit_not {operand : Expression}
    (hfield : operand.booleanField? m pathPrefix = none)
    (hoperand : operand.LowersBySplit m pathPrefix) :
    (unary .not operand).LowersBySplit m pathPrefix := by
  intro query low
  simp only [lower, hfield, Traced.result_bind, Traced.result_ofExcept, bind_eq_ok,
    hoperand _ _, splitsInto_not hfield]
  constructor
  · rintro ⟨_, ⟨i, hi, rfl⟩, hnegate⟩
    obtain ⟨s, hs, rfl⟩ := (negate_eq_ok_iff ..).1 hnegate
    exact ⟨s, ⟨i, hi, hs⟩, rfl⟩
  · rintro ⟨s, ⟨i, hi, hs⟩, rfl⟩
    exact ⟨_, ⟨i, hi, rfl⟩, (negate_eq_ok_iff ..).2 ⟨s, hs, rfl⟩⟩

theorem lowersBySplit_atom {e : Expression} (c : Except Error Criteria)
    (hformula : e.formula m pathPrefix = (do return .atom (← c)))
    (hlower : ∀ query, (e.lower m pathPrefix query).result = (do return ⟨← c, query⟩)) :
    e.LowersBySplit m pathPrefix := by
  intro query low
  simp only [hlower, bind_eq_ok, pure_eq_ok, splitsInto_atom hformula]
  constructor
  · rintro ⟨a, ha, rfl⟩
    exact ⟨_, ⟨a, ha, rfl⟩, rfl⟩
  · rintro ⟨_, ⟨a, ha, rfl⟩, rfl⟩
    exact ⟨a, ha, rfl⟩

/-- **Lowering is splitting.** A predicate is lowered exactly when its formula splits; the query
plays no part in it but to receive what is lifted. -/
theorem lower_eq_ok_iff (e : Expression) : e.LowersBySplit m pathPrefix := by
  induction e using formula.induct m pathPrefix with
  | case1 left right ihl ihr => exact lowersBySplit_join .and ihl ihr
  | case2 left right ihl ihr => exact lowersBySplit_join .or ihl ihr
  | case3 operand ih =>
    intro query low
    rw [lower, ih]
    simp only [SplitsInto, formula]
  | case4 operand field last hfield =>
    refine lowersBySplit_atom (.ok (.term field last (.bool false))) ?_ fun query => ?_
    · rw [formula, hfield]
      rfl
    · rw [lower, hfield]
      rfl
  | case5 operand hfield ih => exact lowersBySplit_not hfield ih
  | case6 e hand hor hconvert hnot =>
    refine lowersBySplit_atom (e.leafCriteria m pathPrefix) ?_ fun query => ?_
    · rw [formula]
      all_goals assumption
    · rw [lower, Traced.result_bind, Traced.result_ofExcept]
      · rfl
      all_goals assumption

end Expression

end SearchQuery
