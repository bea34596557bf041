import SearchQuery.Proofs.Expression.Chains
import SearchQuery.Proofs.Plan.ScoringFormula

/-!
# Adding a condition to a search

A further `where`, `query` or `query_string` around a chain is applied before the chain, so the
chain lifts its clauses into the query that the new condition has left.

* `Requirement.added`, `Requirement.filtered`: what a requirement adds to the query and the filter.
* `Placement.query_of_some`, `Placement.query_of_none`: the query of a run is what was there with
  everything added, whatever the filter.
* `AddsOnlyShould`: nothing that the chain adds to the query must hold. Only then is the new
  condition an alternative to the old ones, or makes them optional.
* `plan_narrows_iff`: so a document that satisfies the new request satisfies the old one, unless the
  chain adds only clauses that should hold and the new condition does not imply them.
-/

namespace SearchQuery

open Lowered (Connective)

/-! ### Additions -/

namespace Requirement

/-- What is added to the query: what is lifted, and what remains if it counts for the score. -/
def added (r : Requirement) : List (Connective × Criteria) :=
  match r.formula.split with
  | some s => s.lifted ++
    if !s.rest.isNop && (r.scores || s.rest.isQueryContext) then [(.and, s.rest)] else []
  | none => []

/-- What is added to the filter: what remains if it only filters. -/
def filtered (r : Requirement) : List Criteria :=
  match r.formula.split with
  | some s => if s.rest.isNop || (r.scores || s.rest.isQueryContext) then [] else [s.rest]
  | none => []

end Requirement

/-- Whether clauses are added to the query, none of which must hold. -/
def AddsOnlyShould (added : List (Connective × Criteria)) : Prop :=
  added ≠ [] ∧ liftedUnder .and added = []

theorem liftedUnder_cons (op op' : Connective) (c : Criteria)
    (lifted : List (Connective × Criteria)) :
    liftedUnder op ((op', c) :: lifted) =
      (if op' = op then [c] else []) ++ liftedUnder op lifted := by
  by_cases h : op' = op <;> simp [liftedUnder, h]

/-! ### Queries with additions -/

section Queries

variable {q : Criteria} {added : List (Connective × Criteria)} {v : Valuation}

theorem isSome_liftAll (q : Criteria) (added : List (Connective × Criteria)) :
    (liftAll (some q) added).isSome = true := by
  induction added generalizing q with
  | nil => rfl
  | cons l rest ih => exact ih (l.1.lift (some q) l.2)

/-- A query with additions is a bool node, to which a query that was none is a clause. -/
theorem liftAll_some (q : Criteria) (hne : added ≠ []) :
    ∃ must mustNot should, liftAll (some q) added =
        some (.bool (must ++ liftedUnder .and added) mustNot
          (should ++ liftedUnder .or added)) ∧
      (q = .bool must mustNot should ∨ mustNot = [] ∧
        (must = [q] ∧ should = [] ∨ must = [] ∧ should = [q])) := by
  by_cases hbool : ∃ must mustNot should, q = .bool must mustNot should
  · obtain ⟨must, mustNot, should, rfl⟩ := hbool
    exact ⟨must, mustNot, should, liftAll_bool _ _ _ _, .inl rfl⟩
  · have hq : ∀ must mustNot should, q ≠ .bool must mustNot should := by
      simpa only [not_exists] using hbool
    cases added with
    | nil => exact absurd rfl hne
    | cons l rest =>
      obtain ⟨op, c⟩ := l
      cases op with
      | and =>
        have hlift : Connective.and.lift (some q) c = .bool [q, c] [] [] := by
          cases q <;> first | rfl | exact absurd rfl (hq _ _ _)
        refine ⟨[q], [], [], ?_, .inr ⟨rfl, .inl ⟨rfl, rfl⟩⟩⟩
        show liftAll (some (Connective.and.lift (some q) c)) rest = _
        rw [hlift, liftAll_bool, liftedUnder_cons, liftedUnder_cons]
        simp
      | or =>
        have hlift : Connective.or.lift (some q) c = .bool [] [] [q, c] := by
          cases q <;> first | rfl | exact absurd rfl (hq _ _ _)
        refine ⟨[], [], [q], ?_, .inr ⟨rfl, .inr ⟨rfl, rfl⟩⟩⟩
        show liftAll (some (Connective.or.lift (some q) c)) rest = _
        rw [hlift, liftAll_bool, liftedUnder_cons, liftedUnder_cons]
        simp

/-- Clauses that must hold do, also in a query that has something to hold besides. -/
theorem forall_holds_of_liftAll (h : (liftAll (some q) added).all (·.holds v) = true) :
    ∀ c ∈ liftedUnder .and added, c.holds v = true := by
  intro c hc
  have hne : added ≠ [] := by
    rintro rfl
    simp [liftedUnder] at hc
  obtain ⟨must, mustNot, should, hlift, -⟩ := liftAll_some q hne
  rw [hlift, Option.all_some, Criteria.holds_bool, List.all_append] at h
  simp only [Bool.and_eq_true] at h
  exact List.all_eq_true.1 h.1.1.2 c hc

/-- What satisfies a query satisfies it with additions, if it does so with those that must hold. -/
theorem holds_liftAll_of_forall (hq : q.holds v = true)
    (hadded : ∀ c ∈ liftedUnder .and added, c.holds v = true) :
    (liftAll (some q) added).all (·.holds v) = true := by
  by_cases hne : added = []
  · subst hne
    exact hq
  · obtain ⟨must, mustNot, should, hlift, hcases⟩ := liftAll_some q hne
    have hall : (liftedUnder .and added).all (·.holds v) = true := List.all_eq_true.2 hadded
    rw [hlift, Option.all_some, Criteria.holds_bool, List.all_append, hall, List.any_append]
    rcases hcases with rfl | ⟨rfl, ⟨rfl, rfl⟩ | ⟨rfl, rfl⟩⟩
    · simp only [Criteria.holds_bool, Bool.and_eq_true, Bool.or_eq_true] at hq ⊢
      refine ⟨⟨⟨hq.1.1, trivial⟩, hq.1.2⟩, hq.2.imp (fun h => ?_) .inl⟩
      cases must with
      | nil => cases h
      | cons => rfl
    · simp [hq]
    · simp [hq]

/-- Each document that satisfies it satisfies what was there before or one of the additions. -/
theorem holds_or_of_liftAll (hmust : liftedUnder .and added = [])
    (h : (liftAll (some q) added).all (·.holds v) = true) :
    q.holds v = true ∨ ∃ c ∈ liftedUnder .or added, c.holds v = true := by
  by_cases hne : added = []
  · subst hne
    exact .inl h
  · obtain ⟨must, mustNot, should, hlift, hcases⟩ := liftAll_some q hne
    rw [hlift, hmust, List.append_nil, Option.all_some, Criteria.holds_bool, List.any_append] at h
    simp only [Bool.and_eq_true, Bool.or_eq_true] at h
    rw [← List.any_eq_true]
    rcases hcases with rfl | ⟨rfl, ⟨rfl, rfl⟩ | ⟨rfl, rfl⟩⟩
    · rcases h.2 with hmust' | hshould | hadded
      · exact .inl (by simp only [Criteria.holds_bool, h.1.1, h.1.2, hmust']; rfl)
      · exact .inl (by simp only [Criteria.holds_bool, h.1.1, h.1.2, hshould]; simp)
      · exact .inr hadded
    · exact .inl (by simpa using h.1.1)
    · rcases h.2 with hmust' | hshould | hadded
      · cases hmust'
      · exact .inl (by simpa using hshould)
      · exact .inr hadded

end Queries

/-! ### Placing requirements -/

namespace Placement

variable {p p' own : Placement} {r : Requirement} {rs : List Requirement} {v : Valuation}

/-- What a requirement does: it lifts, and then drops, scores or filters by what remains. -/
theorem add_cases (h : p.add r = some p') : ∃ lifted,
    (r.added = lifted ∧ r.filtered = [] ∧ p' = p.lift lifted) ∨
      (∃ c, r.added = lifted ++ [(.and, c)] ∧ r.filtered = [] ∧ p' = (p.lift lifted).score c) ∨
      ∃ c, r.added = lifted ∧ r.filtered = [c] ∧ p' = (p.lift lifted).restrict c := by
  obtain ⟨s, hs, rfl⟩ := Option.map_eq_some_iff.1 h
  refine ⟨s.lifted, ?_⟩
  by_cases hnop : s.rest.isNop = true
  · exact .inl ⟨by simp [Requirement.added, hs, hnop], by simp [Requirement.filtered, hs, hnop],
      put_nop hnop⟩
  · by_cases hscores : r.scores = true ∨ s.rest.isQueryContext = true
    · refine .inr (.inl ⟨s.rest, ?_, ?_, put_score hnop hscores⟩)
      · simp [Requirement.added, hs, hnop, hscores]
      · simp [Requirement.filtered, hs, hscores]
    · have hadds := hscores
      rw [not_or, Bool.not_eq_true] at hscores
      refine .inr (.inr ⟨s.rest, ?_, ?_, ?_⟩)
      · simp [Requirement.added, hs, hadds]
      · simp [Requirement.filtered, hs, hnop, hadds]
      · rw [hscores.1, put_restrict hnop hscores.2]

theorem query_score {q : Criteria} (hq : p.query = some q) (c : Criteria) :
    (p.score c).query = liftAll (some q) [(.and, c)] := by
  rw [score, hq]
  rfl

/-- A requirement adds to a query that is there. -/
theorem add_query_of_some {q : Criteria} (hq : p.query = some q) (h : p.add r = some p') :
    p'.query = liftAll (some q) r.added := by
  obtain ⟨lifted, hcases⟩ := add_cases h
  have hlift : (p.lift lifted).query = liftAll (some q) lifted := by rw [lift, hq]
  rcases hcases with ⟨hadded, -, rfl⟩ | ⟨c, hadded, -, rfl⟩ | ⟨c, hadded, -, rfl⟩
  · rw [hadded, hlift]
  · obtain ⟨q', hq'⟩ := Option.isSome_iff_exists.1 (isSome_liftAll q lifted)
    rw [query_score (hlift.trans hq'), hadded, liftAll_append, hq']
  · rw [hadded, ← hlift, restrict]

/-- A requirement adds to no query in the same way, but for a first clause, which stands alone. -/
theorem add_query_of_none (hq : p.query = none) (h : p.add r = some p') :
    p'.query = liftAll none r.added ∨ ∃ c, r.added = [(.and, c)] ∧ p'.query = some c := by
  obtain ⟨lifted, hcases⟩ := add_cases h
  have hlift : (p.lift lifted).query = liftAll none lifted := by rw [lift, hq]
  rcases hcases with ⟨hadded, -, rfl⟩ | ⟨c, hadded, -, rfl⟩ | ⟨c, hadded, -, rfl⟩
  · exact .inl (by rw [hadded, hlift])
  · cases lifted with
    | nil => exact .inr ⟨c, hadded, by rw [score, hlift]; rfl⟩
    | cons l rest =>
      obtain ⟨q', hq'⟩ := Option.isSome_iff_exists.1 (isSome_liftAll (l.1.lift none l.2) rest)
      have hquery : (p.lift (l :: rest)).query = some q' := hlift.trans hq'
      refine .inl ?_
      rw [query_score hquery, hadded, liftAll_append, ← hlift, hquery]
  · exact .inl (by rw [hadded, ← hlift, restrict])

/-- What a run adds to the query. -/
theorem foldlM_query_of_some {q : Criteria} (hq : p.query = some q)
    (h : rs.foldlM add p = some p') :
    p'.query = liftAll (some q) (rs.flatMap Requirement.added) := by
  refine foldlM_induct
    (motive := fun placed p => p.query = liftAll (some q) (placed.flatMap Requirement.added))
    hq (fun placed p r p' _ hp hadd => ?_) h
  obtain ⟨q', hq'⟩ := Option.isSome_iff_exists.1
    (isSome_liftAll q (placed.flatMap Requirement.added))
  rw [add_query_of_some (hp.trans hq') hadd, List.flatMap_append, liftAll_append, hq']
  simp

/-- What a run adds to no query. -/
theorem foldlM_query_of_none (hq : p.query = none) (h : rs.foldlM add p = some p') :
    p'.query = liftAll none (rs.flatMap Requirement.added) ∨
      ∃ c rest, rs.flatMap Requirement.added = (.and, c) :: rest ∧
        p'.query = liftAll (some c) rest := by
  refine foldlM_induct
    (motive := fun placed p => p.query = liftAll none (placed.flatMap Requirement.added) ∨
      ∃ c rest, placed.flatMap Requirement.added = (.and, c) :: rest ∧
        p.query = liftAll (some c) rest)
    (.inl hq) (fun placed p r p' _ hp hadd => ?_) h
  have happend : (placed ++ [r]).flatMap Requirement.added =
      placed.flatMap Requirement.added ++ r.added := by
    simp
  rw [happend, liftAll_append]
  cases hquery : p.query with
  | some q =>
    rw [add_query_of_some hquery hadd]
    rcases hp with hp | ⟨c, rest, hplaced, hp⟩
    · exact .inl (by rw [← hp, hquery])
    · exact .inr ⟨c, rest ++ r.added, by rw [hplaced]; rfl, by rw [liftAll_append, ← hp, hquery]⟩
  | none =>
    -- nothing was added so far: an addition would have left a query
    rcases hp with hp | ⟨c, rest, -, hp⟩
    · have hnil : placed.flatMap Requirement.added = [] := by
        cases hplaced : placed.flatMap Requirement.added with
        | nil => rfl
        | cons l rest =>
          have hsome := isSome_liftAll (l.1.lift none l.2) rest
          rw [hplaced, hquery] at hp
          rw [show liftAll (some (l.1.lift none l.2)) rest = none from hp.symm] at hsome
          cases hsome
      rw [hnil]
      rcases add_query_of_none hquery hadd with hadded | ⟨c, hadded, hp'⟩
      · exact .inl hadded
      · exact .inr ⟨c, [], by rw [hadded]; rfl, hp'⟩
    · have hsome := isSome_liftAll c rest
      rw [← hp, hquery] at hsome
      cases hsome

/-- A run restricts the filter by all that only filters. -/
theorem foldlM_filter (h : rs.foldlM add p = some p') :
    p'.filter.all (·.holds v) =
      (p.filter.all (·.holds v) && (rs.flatMap Requirement.filtered).all (·.holds v)) := by
  refine foldlM_induct (motive := fun placed p' => p'.filter.all (·.holds v) =
      (p.filter.all (·.holds v) && (placed.flatMap Requirement.filtered).all (·.holds v)))
    (by simp) (fun placed q r q' _ hq hadd => ?_) h
  have happend : (placed ++ [r]).flatMap Requirement.filtered =
      placed.flatMap Requirement.filtered ++ r.filtered := by
    simp
  rw [happend, List.all_append, ← Bool.and_assoc, ← hq]
  obtain ⟨lifted, ⟨-, hfiltered, rfl⟩ | ⟨c, -, hfiltered, rfl⟩ | ⟨c, -, hfiltered, rfl⟩⟩ :=
    add_cases hadd
  · simp [hfiltered, lift]
  · simp [hfiltered, lift, score]
  · simp [hfiltered, lift, restrict, Criteria.holds_andInto]

/-- The query of a run depends on the query that it starts from, not on the filter. -/
theorem foldlM_query_congr {q q' : Placement} (hquery : p.query = q.query)
    (hp : rs.foldlM add p = some p') (hq : rs.foldlM add q = some q') :
    p'.query = q'.query := by
  induction rs generalizing p q with
  | nil =>
    cases hp
    cases hq
    exact hquery
  | cons r rest ih =>
    rw [List.foldlM_cons] at hp hq
    obtain ⟨p₁, hp₁, hp⟩ := Option.bind_eq_some_iff.1 hp
    obtain ⟨q₁, hq₁, hq⟩ := Option.bind_eq_some_iff.1 hq
    refine ih ?_ hp hq
    obtain ⟨s, hs, rfl⟩ := Option.map_eq_some_iff.1 hp₁
    obtain ⟨s', hs', rfl⟩ := Option.map_eq_some_iff.1 hq₁
    obtain rfl : s = s' := Option.some.inj (hs.symm.trans hs')
    have hlift : (p.lift s.lifted).query = (q.lift s.lifted).query := by rw [lift, lift, hquery]
    unfold put
    split_ifs
    · exact hlift
    · rw [score, score, hlift]
    · exact hlift

/-! ### When a run narrows -/

variable {old new : Placement}

/-- The clauses of a run that must hold are enough for its query. -/
theorem holds_of_must (hold : rs.foldlM add empty = some old)
    (hne : liftedUnder .and (rs.flatMap Requirement.added) ≠ [])
    (hmust : ∀ c ∈ liftedUnder .and (rs.flatMap Requirement.added), c.holds v = true) :
    old.query.all (·.holds v) = true := by
  rcases foldlM_query_of_none rfl hold with hquery | ⟨c, rest, hadded, hquery⟩
  · have hadded : rs.flatMap Requirement.added ≠ [] := by
      intro hnil
      rw [hnil] at hne
      exact hne rfl
    rw [hquery, liftAll_none hadded, Option.all_some, Criteria.holds_bool,
      List.all_eq_true.2 hmust]
    simp [hne]
  · rw [hadded, liftedUnder_cons, if_pos rfl, List.singleton_append, List.forall_mem_cons] at hmust
    rw [hquery]
    exact holds_liftAll_of_forall hmust.1 hmust.2

/-- The clauses of a run are enough one by one where none must hold. -/
theorem holds_of_should (hold : rs.foldlM add empty = some old)
    (honly : AddsOnlyShould (rs.flatMap Requirement.added)) {c : Criteria}
    (hc : c ∈ liftedUnder .or (rs.flatMap Requirement.added)) (hholds : c.holds v = true) :
    old.query.all (·.holds v) = true := by
  rcases foldlM_query_of_none rfl hold with hquery | ⟨d, rest, hadded, -⟩
  · rw [hquery, liftAll_none honly.1, honly.2, Option.all_some, Criteria.holds_bool,
      List.any_eq_true.2 ⟨c, hc, hholds⟩]
    rfl
  · have hmust := honly.2
    rw [hadded, liftedUnder_cons, if_pos rfl] at hmust
    cases hmust

/-- A run from a query narrows it, unless it adds only clauses that should hold. -/
theorem query_of_start {q : Criteria} (hown : own.query = some q)
    (hold : rs.foldlM add empty = some old) (hnew : rs.foldlM add own = some new)
    (honly : ¬AddsOnlyShould (rs.flatMap Requirement.added))
    (hholds : new.query.all (·.holds v) = true) : old.query.all (·.holds v) = true := by
  by_cases hmust : liftedUnder .and (rs.flatMap Requirement.added) = []
  · have hnil : rs.flatMap Requirement.added = [] := by
      by_contra hne
      exact honly ⟨hne, hmust⟩
    rcases foldlM_query_of_none rfl hold with hquery | ⟨c, rest, hadded, -⟩
    · rw [hquery, hnil]
      rfl
    · rw [hnil] at hadded
      cases hadded
  · rw [foldlM_query_of_some hown hnew] at hholds
    exact holds_of_must hold hmust (forall_holds_of_liftAll hholds)

/-- **When a run narrows.** A run that starts from a requirement asks for more than the run alone,
unless it adds only clauses that should hold to a query that does not imply them. -/
theorem narrows_iff (hown : empty.add r = some own) (hold : rs.foldlM add empty = some old)
    (hnew : (r :: rs).foldlM add empty = some new) :
    (∀ v, new.holds v = true → old.holds v = true) ↔
      (AddsOnlyShould (rs.flatMap Requirement.added) → own.query.isSome = true →
        ∀ v, own.holds v = true → old.filter.all (·.holds v) = true →
          old.query.all (·.holds v) = true) := by
  rw [List.foldlM_cons, hown] at hnew
  replace hnew : rs.foldlM add own = some new := hnew
  have hfilter : ∀ v, new.filter.all (·.holds v) =
      (own.filter.all (·.holds v) && old.filter.all (·.holds v)) := by
    intro v
    rw [foldlM_filter hnew, foldlM_filter hold]
    simp [empty]
  simp only [holds, hfilter, Bool.and_eq_true]
  constructor
  · intro hnarrows honly hsome v hholds hrest
    obtain ⟨q, hq⟩ := Option.isSome_iff_exists.1 hsome
    refine (hnarrows v ⟨?_, hholds.2, hrest⟩).1
    rw [hq] at hholds
    rw [foldlM_query_of_some hq hnew]
    exact holds_liftAll_of_forall hholds.1 (by simp [honly.2])
  · rintro hcondition v ⟨hquery, hownFilter, hrest⟩
    refine ⟨?_, hrest⟩
    cases hown : own.query with
    | none => rwa [← foldlM_query_congr hown hnew hold]
    | some q =>
      by_cases honly : AddsOnlyShould (rs.flatMap Requirement.added)
      · have hlift := hquery
        rw [foldlM_query_of_some hown hnew] at hlift
        rcases holds_or_of_liftAll honly.2 hlift with hq | ⟨c, hc, hholds⟩
        · exact hcondition honly (by rw [hown]; rfl) v ⟨by rw [hown]; exact hq, hownFilter⟩ hrest
        · exact holds_of_should hold honly hc hholds
      · exact query_of_start hown hold hnew honly hquery

end Placement

/-! ### Conditions around a chain -/

/-- The methods that add a condition to a query. -/
def conditionMethods : List String := ["where", "query", "query_string"]

namespace Expression

variable {m : FieldMapping} {pathPrefix method : String} {query folded argument : Expression}
  {t t' : QueryPlan}

theorem fold_call_eq_ok {outer : Expression} (hfold : query.fold = .ok folded)
    (hconstant : folded.constant? = none)
    (h : (call method [query, argument]).fold = .ok outer) :
    ∃ argument', argument.fold = .ok argument' ∧ outer = call method [folded, argument'] := by
  rw [fold] at h
  obtain ⟨args, hargs, h⟩ := bind_eq_ok.1 h
  simp only [foldArgs, bind_eq_ok, pure_eq_ok] at hargs
  obtain ⟨first, hfirst, _, ⟨argument', hargument, _, hnil, rfl⟩, rfl⟩ := hargs
  cases hnil
  obtain rfl : folded = first := Except.ok.inj (hfold.symm.trans hfirst)
  rw [foldCall_eq_self hconstant] at h
  exact ⟨argument', hargument, (Except.ok.inj h).symm⟩

theorem aggregateQuery?_condition (hmethod : method ∈ conditionMethods) (args : List Expression) :
    (call method args).aggregateQuery? = none := by
  simp only [conditionMethods, List.mem_cons, List.not_mem_nil, or_false] at hmethod
  rcases hmethod with rfl | rfl | rfl <;> rfl

/-- A condition has one requirement. -/
theorem requirements_condition {rs : List Requirement} (hmethod : method ∈ conditionMethods)
    (h : stepsRequirements m pathPrefix [(method, [argument])] = .ok rs) : ∃ r, rs = [r] := by
  simp only [stepsRequirements, bind_eq_ok, pure_eq_ok, mapError_eq_ok] at h
  obtain ⟨op, hop, here, hhere, _, hnil, rfl⟩ := h
  cases hnil
  rw [List.append_nil]
  simp only [conditionMethods, List.mem_cons, List.not_mem_nil, or_false] at hmethod
  rcases hmethod with rfl | rfl | rfl
  · cases hop
    obtain ⟨f, -, rfl⟩ := map_eq_ok.1 hhere
    exact ⟨_, rfl⟩
  · cases hop
    obtain ⟨f, -, rfl⟩ := map_eq_ok.1 hhere
    exact ⟨_, rfl⟩
  · obtain ⟨text, -, rfl⟩ : ∃ text, argument.constant?.bind Json.text? = some text ∧
        op = .matchText text := by
      rw [Operator.ofCall, Operator.ofUnaryCall] at hop
      split at hop
      · rename_i text htext
        exact ⟨text, htext, (Except.ok.inj hop).symm⟩
      · cases hop
    cases hhere
    exact ⟨_, rfl⟩

theorem stepsRequirements_cons {step : String × List Expression}
    {steps : List (String × List Expression)} {rs : List Requirement}
    (h : stepsRequirements m pathPrefix (step :: steps) = .ok rs) :
    ∃ here below, stepsRequirements m pathPrefix [step] = .ok here ∧
      stepsRequirements m pathPrefix steps = .ok below ∧ rs = here ++ below := by
  simp only [stepsRequirements, bind_eq_ok, pure_eq_ok] at h ⊢
  obtain ⟨op, hop, here, hhere, below, hbelow, rfl⟩ := h
  exact ⟨here, below, ⟨op, hop, here, hhere, [], rfl, List.append_nil here⟩, hbelow, rfl⟩

/-- **When adding a condition narrows a search.** Let the chain contribute a criteria. A document
that satisfies the request with the further condition satisfies the request of the chain, unless all
that the chain adds to the query only should hold and the condition adds something to the query, but
nothing that implies it. -/
theorem plan_narrows_iff (hplan : (query.plan m pathPrefix).result = .ok t)
    (hfold : query.fold = .ok folded) (hhits : folded.aggregateQuery? = none)
    (hmethod : method ∈ conditionMethods)
    (hnew : ((call method [query, argument]).plan m pathPrefix).result = .ok t') :
    ∃ argument' r rs own, argument.fold = .ok argument' ∧
      stepsRequirements m pathPrefix [(method, [argument'])] = .ok [r] ∧
      folded.chain.requirements m pathPrefix = .ok rs ∧
      Placement.empty.add r = some own ∧
      ((∃ r ∈ rs, r.formula.contributes = true) →
        ((∀ v, t'.request.placement.holds v = true → t.request.placement.holds v = true) ↔
          (AddsOnlyShould (rs.flatMap Requirement.added) → own.query.isSome = true →
            ∀ v, own.holds v = true → t.request.filter.all (·.holds v) = true →
              t.request.query.all (·.holds v) = true))) := by
  obtain ⟨type, rs, p, hroot, hrs, -, hplaced, hrequest⟩ := plan_placement_of_hits hplan hfold hhits
  obtain ⟨outer, houter, -⟩ := plan_eq_ok_iff.1 hnew
  obtain ⟨argument', hargument, rfl⟩ :=
    fold_call_eq_ok hfold (not_constant_of_chain hroot) houter
  obtain ⟨_, rs', p', -, hrs', -, hplaced', hrequest'⟩ :=
    plan_placement_of_hits hnew houter (aggregateQuery?_condition hmethod _)
  obtain ⟨here, below, hhere, hbelow, rfl⟩ := stepsRequirements_cons hrs'
  obtain ⟨r, rfl⟩ := requirements_condition hmethod hhere
  obtain rfl : rs = below := Except.ok.inj (hrs.symm.trans hbelow)
  obtain ⟨own, hown, -⟩ := Option.bind_eq_some_iff.1 (List.foldlM_cons.symm.trans hplaced')
  refine ⟨argument', r, rs, own, hargument, hhere, hrs, hown, fun hcontributes => ?_⟩
  have hany : rs.any (·.formula.contributes) = true := List.any_eq_true.2 hcontributes
  have hany' : ([r] ++ rs).any (·.formula.contributes) = true := by
    rw [List.any_append, hany, Bool.or_true]
  rw [hany] at hrequest
  rw [hany'] at hrequest'
  have hp : t.request.placement = p := hrequest
  have hp' : t'.request.placement = p' := hrequest'
  rw [hp', show t.request.filter = p.filter from congrArg Placement.filter hp,
    show t.request.query = p.query from congrArg Placement.query hp, hp]
  exact Placement.narrows_iff hown hplaced hplaced'

end Expression

namespace Film

/-- The films that have one of two words in the title. -/
def eitherWord : Expression :=
  (Expression.source documents).filterBy
    (.lambda "f" ((titleContains "Family").orElse (titleContains "War")))

def eitherWordQuery : Criteria :=
  .bool [] [] [.wildcard "title" title "*family*", .wildcard "title" title "*war*"]

def madeAfter1970 : Expression :=
  .lambda "f" (((Expression.parameter "f").member year).greaterThan (.constant (.int 1970)))

theorem plan_eitherWord : ∃ t, (eitherWord.plan mapping "").result = .ok t ∧
    t.request.placement = ⟨some eitherWordQuery, none⟩ := by
  have h : (eitherWord.plan mapping "").result.toOption.map (·.request.placement) =
      some ⟨some eitherWordQuery, none⟩ := by decide
  obtain ⟨t, ht, hplacement⟩ := Option.map_eq_some_iff.1 h
  exact ⟨t, toOption_eq_some.1 ht, hplacement⟩

end Film

namespace Expression

/-- The year only filters, so it narrows what has one of the words. -/
theorem plan_narrows_iff_film :
    ∃ t t', (Film.eitherWord.plan Film.mapping "").result = .ok t ∧
      Film.eitherWord.fold = .ok Film.eitherWord ∧ Film.eitherWord.aggregateQuery? = none ∧
      "where" ∈ conditionMethods ∧
      ((Film.eitherWord.filterBy Film.madeAfter1970).plan Film.mapping "").result = .ok t' ∧
      ∀ v, t'.request.placement.holds v = true → t.request.placement.holds v = true := by
  have hfold : Film.eitherWord.fold = .ok Film.eitherWord := rfl
  have hmethod : "where" ∈ conditionMethods := by decide
  have hnew : ((Film.eitherWord.filterBy Film.madeAfter1970).plan
      Film.mapping "").result.toOption.isSome = true := by decide
  obtain ⟨t, ht, -⟩ := Film.plan_eitherWord
  obtain ⟨t', ht'⟩ := Option.isSome_iff_exists.1 hnew
  replace ht' := toOption_eq_some.1 ht'
  refine ⟨t, t', ht, hfold, rfl, hmethod, ht', ?_⟩
  obtain ⟨argument', r, rs, own, hargument, hr, hrs, hown, hnarrows⟩ :=
    plan_narrows_iff ht hfold rfl hmethod ht'
  have hargument' : Film.madeAfter1970.fold = .ok Film.madeAfter1970 := rfl
  obtain rfl : Film.madeAfter1970 = argument' := Except.ok.inj (hargument'.symm.trans hargument)
  have hrequirement : stepsRequirements Film.mapping "" [("where", [Film.madeAfter1970])] =
      .ok [⟨false, .atom (.range "year" Film.year [⟨.greaterThan, .int 1970⟩])⟩] :=
    toOption_eq_some.1 (by decide)
  obtain rfl := (List.cons.inj (Except.ok.inj (hrequirement.symm.trans hr))).1
  obtain rfl := Option.some.inj hown
  have hrequirements : Film.eitherWord.chain.requirements Film.mapping "" =
      .ok [⟨false, .join .or (.atom (.wildcard "title" Film.title "*family*"))
        (.atom (.wildcard "title" Film.title "*war*"))⟩] :=
    toOption_eq_some.1 (by decide)
  obtain rfl := Except.ok.inj (hrequirements.symm.trans hrs)
  exact (hnarrows ⟨_, List.mem_singleton_self _, rfl⟩).2 fun _ hquery => absurd hquery (by decide)

/-- A film on crime with none of the words satisfies the request with the further condition. -/
theorem plan_narrows_widens :
    ∃ t t' v, (Film.eitherWord.plan Film.mapping "").result = .ok t ∧
      ((Film.eitherWord.matchText "crime").plan Film.mapping "").result = .ok t' ∧
      t'.request.placement.holds v = true ∧ t.request.placement.holds v = false := by
  have h : ((Film.eitherWord.matchText "crime").plan
      Film.mapping "").result.toOption.map (·.request.placement) =
        some ⟨some (.bool [] [] [.text "crime", .wildcard "title" Film.title "*family*",
          .wildcard "title" Film.title "*war*"]), none⟩ := by decide
  obtain ⟨t, ht, hplacement⟩ := Film.plan_eitherWord
  obtain ⟨t', ht', hplacement'⟩ := Option.map_eq_some_iff.1 h
  refine ⟨t, t', .ofLeaves fun c => c = .text "crime", ht, toOption_eq_some.1 ht', ?_, ?_⟩
  · rw [hplacement']
    decide
  · rw [hplacement]
    decide

end Expression

end SearchQuery
