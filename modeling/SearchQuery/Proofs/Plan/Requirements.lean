import SearchQuery.Plan.Query
import SearchQuery.Proofs.Plan.SplitShape

/-!
# What a chain requires of documents

Of the operators of a chain, those with a predicate and those with a search text say something about
documents. They are its requirements, and they alone decide the query and the filter of the request.

* `Chain.requirements`: the requirements, outermost first.
* `Placement.add`: a requirement added to a query and a filter.
* `applySteps_placement`: applying a chain adds its requirements one after the other.
* `plan_cases`: a request is that of an aggregate query or that of a query on hits.
* `plan_placement`: planning a query on hits adds the requirements, and then completes an empty
  request.
* `Placement.foldlM_induct`: the induction over the requirements placed so far.
-/

namespace SearchQuery

open Lowered (Connective)

/-- What an operator requires of documents. -/
structure Requirement where
  /-- Whether all of it counts for the score. -/
  scores : Bool
  formula : Formula
  deriving DecidableEq

namespace Expression

/-- The formula of a predicate given as a lambda. -/
def lambdaFormula (m : FieldMapping) (pathPrefix : String) (predicate : Expression) :
    Except Error Formula :=
  match predicate.lambda? with
  | some (_, body) => body.formula m pathPrefix
  | none => .error (.unsupported (.predicateNotLambda predicate))

end Expression

namespace Operator

/-- The requirement of an operator, if it has one. -/
def requirements (m : FieldMapping) (pathPrefix : String) :
    Operator → Except Error (List Requirement)
  | .filterBy predicate | .terminal _ _ (some predicate) =>
    (predicate.lambdaFormula m pathPrefix).map fun f => [⟨false, f⟩]
  | .scoreBy predicate => (predicate.lambdaFormula m pathPrefix).map fun f => [⟨true, f⟩]
  | .matchText text => .ok [⟨true, .atom (.text text)⟩]
  | .sortBy .. | .sortByScore _ | .select _ | .skip _ | .take _ | .terminal _ _ none | .retype =>
    .ok []

end Operator

/-- The requirements of the steps of a chain. -/
def stepsRequirements (m : FieldMapping) (pathPrefix : String) :
    List (String × List Expression) → Except Error (List Requirement)
  | [] => .ok []
  | step :: rest => do
    let op ← (Operator.ofCall step.1 step.2).mapError .unsupported
    let here ← op.requirements m pathPrefix
    let below ← stepsRequirements m pathPrefix rest
    return here ++ below

def Chain.requirements (m : FieldMapping) (pathPrefix : String) (chain : Chain) :
    Except Error (List Requirement) :=
  stepsRequirements m pathPrefix chain.steps

/-! ### Placing requirements -/

/-- The query and the filter of a request. -/
structure Placement where
  query : Option Criteria
  filter : Option Criteria
  deriving DecidableEq

namespace Placement

def empty : Placement := ⟨none, none⟩

def lift (p : Placement) (lifted : List (Connective × Criteria)) : Placement :=
  ⟨liftAll p.query lifted, p.filter⟩

/-- Add a criteria that counts for the score. -/
def score (p : Placement) (c : Criteria) : Placement :=
  ⟨some (match p.query with
    | none => c
    | some existing => Criteria.boolMust (some existing) c), p.filter⟩

/-- Add a criteria that only filters. -/
def restrict (p : Placement) (c : Criteria) : Placement :=
  ⟨p.query, some (Criteria.andInto p.filter c)⟩

/-- Add what remains of a predicate; a place holder is dropped. -/
def put (p : Placement) (scores : Bool) (c : Criteria) : Placement :=
  if c.isNop then p else if scores || c.isQueryContext then p.score c else p.restrict c

theorem put_nop {p : Placement} {scores : Bool} {c : Criteria} (h : c.isNop = true) :
    p.put scores c = p :=
  if_pos h

theorem put_score {p : Placement} {scores : Bool} {c : Criteria} (hnop : ¬c.isNop = true)
    (h : scores = true ∨ c.isQueryContext = true) : p.put scores c = p.score c := by
  rw [put, if_neg hnop, if_pos (by simpa using h)]

theorem put_restrict {p : Placement} {c : Criteria} (hnop : ¬c.isNop = true)
    (h : ¬c.isQueryContext = true) : p.put false c = p.restrict c := by
  rw [put, if_neg hnop, if_neg (by simpa using h)]

/-- Add a requirement, provided that its formula splits. -/
def add (p : Placement) (r : Requirement) : Option Placement :=
  r.formula.split.map fun s => (p.lift s.lifted).put r.scores s.rest

/-- Without any criteria, all documents of a type are asked for. -/
def complete (p : Placement) (all : Criteria) : Placement :=
  if p.filter.isNone && p.query.isNone then ⟨none, some all⟩ else p

/-- What holds at first and is kept by each requirement holds at the end. -/
theorem foldlM_induct {motive : List Requirement → Placement → Prop} {p p' : Placement}
    {rs : List Requirement} (hnil : motive [] p)
    (hadd : ∀ placed q r q', r ∈ rs → motive placed q → q.add r = some q' →
      motive (placed ++ [r]) q')
    (h : rs.foldlM add p = some p') : motive rs p' := by
  suffices hfrom : ∀ rest placed q, (∀ r ∈ rest, r ∈ rs) → motive placed q →
      rest.foldlM add q = some p' → motive (placed ++ rest) p' by
    simpa using hfrom rs [] p (fun _ hr => hr) hnil h
  intro rest
  induction rest with
  | nil =>
    intro placed q _ hq h
    cases h
    simpa using hq
  | cons r rest ih =>
    intro placed q hmem hq h
    rw [List.foldlM_cons] at h
    obtain ⟨q', hq', h⟩ := Option.bind_eq_some_iff.1 h
    have hstep := hadd placed q r q' (hmem r List.mem_cons_self) hq hq'
    have := ih (placed ++ [r]) q' (fun r hr => hmem r (List.mem_cons_of_mem _ hr)) hstep h
    rwa [List.append_assoc, List.singleton_append] at this

end Placement

def SearchRequest.placement (request : SearchRequest) : Placement :=
  ⟨request.query, request.filter⟩

def Draft.placement (d : Draft) : Placement := d.request.placement

/-- The draft with another query and filter. -/
def Draft.place (d : Draft) (p : Placement) : Draft :=
  { d with request := { d.request with query := p.query, filter := p.filter } }

/-! ### Applying operators -/

namespace Expression

variable {m : FieldMapping} {pathPrefix : String}

theorem lowerLambda_eq_ok_iff {predicate : Expression} {query : Option Criteria} {low : Lowered} :
    (predicate.lowerLambda m pathPrefix query).result = .ok low ↔
      ∃ f s, predicate.lambdaFormula m pathPrefix = .ok f ∧ f.split = some s ∧
        low = s.onto query := by
  unfold lowerLambda lambdaFormula
  cases predicate.lambda? with
  | none => simp
  | some lambda =>
    rw [lower_eq_ok_iff]
    constructor
    · rintro ⟨s, ⟨f, hf, hs⟩, rfl⟩
      exact ⟨f, s, hf, hs, rfl⟩
    · rintro ⟨f, s, hf, hs, rfl⟩
      exact ⟨s, ⟨f, hf, hs⟩, rfl⟩

end Expression

namespace Draft

variable {scope : Scope} {d d' : Draft}

theorem filterBy_result (predicate : Expression) :
    (d.filterBy scope predicate).result =
      (predicate.lowerLambda scope.mapping scope.pathPrefix d.request.query).result.map fun low =>
        d.place (Placement.put ⟨low.query, d.request.filter⟩ false low.criteria) := by
  unfold filterBy
  rw [Traced.result_bind]
  cases (predicate.lowerLambda scope.mapping scope.pathPrefix d.request.query).result with
  | error e => rfl
  | ok low =>
    show (if low.criteria.isNop then _ else if low.criteria.isQueryContext then _ else _ :
      Traced Draft).result = .ok (d.place (Placement.put _ false low.criteria))
    by_cases hnop : low.criteria.isNop = true
    · rw [if_pos hnop, Placement.put_nop hnop]
      rfl
    · by_cases hscoring : low.criteria.isQueryContext = true
      · rw [if_neg hnop, if_pos hscoring, Placement.put_score hnop (.inr hscoring)]
        rfl
      · rw [if_neg hnop, if_neg hscoring, Placement.put_restrict hnop hscoring]
        rfl

theorem scoreBy_result (predicate : Expression) :
    (d.scoreBy scope predicate).result =
      (predicate.lowerLambda scope.mapping scope.pathPrefix d.request.query).result.map fun low =>
        d.place (Placement.put ⟨low.query, d.request.filter⟩ true low.criteria) := by
  unfold scoreBy
  rw [Traced.result_bind]
  cases (predicate.lowerLambda scope.mapping scope.pathPrefix d.request.query).result with
  | error e => rfl
  | ok low =>
    show Except.ok (if low.criteria.isNop then _ else _) =
      .ok (d.place (Placement.put _ true low.criteria))
    by_cases hnop : low.criteria.isNop = true
    · rw [if_pos hnop, Placement.put_nop hnop]
      rfl
    · rw [if_neg hnop, Placement.put_score hnop (.inl rfl)]
      rfl

/-- Placing what a predicate is lowered to adds its formula as a requirement. -/
theorem lowered_eq_ok_iff {predicate : Expression} {scores : Bool} :
    (predicate.lowerLambda scope.mapping scope.pathPrefix d.request.query).result.map (fun low =>
        d.place (Placement.put ⟨low.query, d.request.filter⟩ scores low.criteria)) = .ok d' ↔
      ∃ f p, predicate.lambdaFormula scope.mapping scope.pathPrefix = .ok f ∧
        d.placement.add ⟨scores, f⟩ = some p ∧ d' = d.place p := by
  simp only [map_eq_ok, Expression.lowerLambda_eq_ok_iff]
  constructor
  · rintro ⟨_, ⟨f, s, hf, hs, rfl⟩, rfl⟩
    exact ⟨f, _, hf, by rw [Placement.add, hs]; rfl, rfl⟩
  · rintro ⟨f, p, hf, hp, rfl⟩
    obtain ⟨s, hs, rfl⟩ := Option.map_eq_some_iff.1 hp
    exact ⟨_, ⟨f, s, hf, hs, rfl⟩, rfl⟩

theorem filterBy_eq_ok_iff {predicate : Expression} :
    (d.filterBy scope predicate).result = .ok d' ↔
      ∃ f p, predicate.lambdaFormula scope.mapping scope.pathPrefix = .ok f ∧
        d.placement.add ⟨false, f⟩ = some p ∧ d' = d.place p := by
  rw [filterBy_result, lowered_eq_ok_iff]

theorem scoreBy_eq_ok_iff {predicate : Expression} :
    (d.scoreBy scope predicate).result = .ok d' ↔
      ∃ f p, predicate.lambdaFormula scope.mapping scope.pathPrefix = .ok f ∧
        d.placement.add ⟨true, f⟩ = some p ∧ d' = d.place p := by
  rw [scoreBy_result, lowered_eq_ok_iff]

theorem sortBy_placement {key : Expression} {ascending : Bool}
    (h : d.sortBy scope key ascending = .ok d') : d'.placement = d.placement := by
  unfold sortBy at h
  split at h
  · cases h
  · split at h
    · cases h
      rfl
    · cases h

theorem select_placement {selector : Expression} (h : d.select scope selector = .ok d') :
    d'.placement = d.placement := by
  unfold select at h
  split_ifs at h
  obtain ⟨p, -, h⟩ := bind_eq_ok.1 h
  cases h
  rfl

theorem setTerminal_placement {method : String} {t : Terminal}
    (h : (d.setTerminal method t).result = .ok d') : d'.placement = d.placement := by
  unfold setTerminal at h
  split at h
  · cases h
    rfl
  · cases h
    rfl

/-- Adds the requirements one after the other. -/
def PlacesAll (rs : List Requirement) (d d' : Draft) : Prop :=
  rs.foldlM Placement.add d.placement = some d'.placement

theorem placesAll_nil (h : d'.placement = d.placement) : PlacesAll [] d d' := by
  rw [PlacesAll, h]
  rfl

theorem placesAll_singleton {r : Requirement} (h : d.placement.add r = some d'.placement) :
    PlacesAll [r] d d' := by
  rw [PlacesAll, List.foldlM_cons, h]
  rfl

/-- An operator that is applied adds its requirement. -/
theorem apply_placement {op : Operator} (h : (d.apply scope op).result = .ok d') :
    ∃ rs, op.requirements scope.mapping scope.pathPrefix = .ok rs ∧ PlacesAll rs d d' := by
  cases op with
  | filterBy predicate =>
    obtain ⟨f, p, hf, hp, rfl⟩ := filterBy_eq_ok_iff.1 h
    exact ⟨_, by rw [Operator.requirements, hf]; rfl, placesAll_singleton hp⟩
  | scoreBy predicate =>
    obtain ⟨f, p, hf, hp, rfl⟩ := scoreBy_eq_ok_iff.1 h
    exact ⟨_, by rw [Operator.requirements, hf]; rfl, placesAll_singleton hp⟩
  | matchText text =>
    cases h
    exact ⟨_, rfl, placesAll_singleton rfl⟩
  | sortBy key ascending => exact ⟨[], rfl, placesAll_nil (sortBy_placement h)⟩
  | sortByScore ascending =>
    cases h
    exact ⟨[], rfl, placesAll_nil rfl⟩
  | select selector => exact ⟨[], rfl, placesAll_nil (select_placement h)⟩
  | skip count =>
    cases h
    exact ⟨[], rfl, placesAll_nil rfl⟩
  | take count =>
    cases h
    exact ⟨[], rfl, placesAll_nil rfl⟩
  | terminal method t predicate =>
    cases predicate with
    | none => exact ⟨[], rfl, placesAll_nil (setTerminal_placement h)⟩
    | some predicate =>
      -- the predicate goes to the draft with the terminal set, which places the same criteria
      obtain ⟨d₁, hd₁, h⟩ := Traced.bind_eq_ok.1 h
      obtain ⟨f, p, hf, hp, rfl⟩ := filterBy_eq_ok_iff.1 h
      rw [setTerminal_placement hd₁] at hp
      exact ⟨_, by rw [Operator.requirements, hf]; rfl, placesAll_singleton hp⟩
  | retype =>
    cases h
    exact ⟨[], rfl, placesAll_nil rfl⟩

/-- **Applying a chain.** The steps of a chain add their requirements, outermost first. -/
theorem applySteps_placement {steps : List (String × List Expression)}
    (h : (d.applySteps scope steps).result = .ok d') :
    ∃ rs, stepsRequirements scope.mapping scope.pathPrefix steps = .ok rs ∧ PlacesAll rs d d' := by
  induction steps generalizing d with
  | nil =>
    cases h
    exact ⟨[], rfl, placesAll_nil rfl⟩
  | cons step rest ih =>
    obtain ⟨d₁, hstep, h⟩ := Traced.bind_eq_ok.1 h
    obtain ⟨op, hop, hstep⟩ := Traced.bind_eq_ok.1 hstep
    obtain ⟨here, hhere, hplaced⟩ := apply_placement hstep
    obtain ⟨below, hbelow, hrest⟩ := ih h
    refine ⟨here ++ below, ?_, ?_⟩
    · exact bind_eq_ok.2 ⟨op, hop, bind_eq_ok.2 ⟨here, hhere, bind_eq_ok.2 ⟨below, hbelow, rfl⟩⟩⟩
    · rw [PlacesAll, List.foldlM_append, show _ = some d₁.placement from hplaced]
      exact hrest

/-- A chain that is applied to an empty draft ends in documents. -/
theorem ofChain_placement {chain : Chain} {type : DocumentType}
    (h : (ofChain scope chain).result = .ok (d, type)) :
    chain.root = .documents type ∧
      ∃ rs, chain.requirements scope.mapping scope.pathPrefix = .ok rs ∧
        rs.foldlM Placement.add Placement.empty = some d.placement := by
  obtain ⟨d₁, hsteps, h⟩ := Traced.bind_eq_ok.1 h
  obtain ⟨type', htype, h⟩ := Traced.bind_eq_ok.1 h
  cases h
  refine ⟨?_, applySteps_placement hsteps⟩
  cases hroot : chain.root <;> rw [hroot] at htype <;> cases htype
  rfl

end Draft

/-! ### Planning -/

namespace Expression

theorem completeFilter_placement (m : FieldMapping) (type : DocumentType)
    (request : SearchRequest) :
    (Draft.completeFilter m type request).placement =
      request.placement.complete (m.typeExists type) := by
  cases hfilter : request.filter <;> cases hquery : request.query <;>
    simp [Draft.completeFilter, Placement.complete, SearchRequest.placement, hfilter, hquery]

variable {m : FieldMapping} {pathPrefix : String} {query folded : Expression} {t : QueryPlan}

theorem plan_eq_ok_iff : (query.plan m pathPrefix).result = .ok t ↔
    ∃ folded, query.fold = .ok folded ∧ (folded.planFolded m pathPrefix).result = .ok t := by
  rw [plan, Traced.result_finish]
  simp only [Traced.bind_eq_ok, Traced.result_event, Traced.result_ofExcept, mapError_eq_ok,
    true_and, exists_const]

/-- How the names of a query are resolved whose constants are folded. -/
def scope (m : FieldMapping) (pathPrefix : String) (folded : Expression) : Scope :=
  ⟨m, pathPrefix, folded.chainSource?.bind m.documentPrefix⟩

/-- The request is that of an aggregate query or that of a query on hits. -/
theorem plan_cases (hplan : (query.plan m pathPrefix).result = .ok t) :
    ∃ folded, query.fold = .ok folded ∧
      ((∃ q aggregation d type, folded.aggregateQuery? = some q ∧
          (q.aggregation m pathPrefix).result = .ok aggregation ∧
          (Draft.ofChain (folded.scope m pathPrefix) q.source.chain).result = .ok (d, type) ∧
          t.request =
            { d.request with facets := aggregation.facets, searchType := some "count" }) ∨
        ∃ d type, folded.aggregateQuery? = none ∧
          (Draft.ofChain (folded.scope m pathPrefix) folded.chain).result = .ok (d, type) ∧
          t.request = Draft.completeFilter m type d.request) := by
  obtain ⟨folded, hfold, h⟩ := plan_eq_ok_iff.1 hplan
  refine ⟨folded, hfold, ?_⟩
  unfold planFolded at h
  split at h
  · rename_i q hquery
    obtain ⟨aggregation, haggregation, h⟩ := Traced.bind_eq_ok.1 h
    obtain ⟨⟨d, type⟩, hchain, h⟩ := Traced.bind_eq_ok.1 h
    cases h
    exact .inl ⟨q, aggregation, d, type, hquery, haggregation, hchain, rfl⟩
  · rename_i hhits
    obtain ⟨⟨d, type⟩, hchain, h⟩ := Traced.bind_eq_ok.1 h
    cases h
    exact .inr ⟨d, type, hhits, hchain, rfl⟩

/-- **Planning a query on hits.** The query and the filter of the request are the requirements of
the chain, placed one after the other from the outermost inward. -/
theorem plan_placement (hplan : (query.plan m pathPrefix).result = .ok t)
    (hfold : query.fold = .ok folded) (hhits : folded.aggregateQuery? = none) :
    ∃ type rs p, folded.chain.root = .documents type ∧
      folded.chain.requirements m pathPrefix = .ok rs ∧
      rs.foldlM Placement.add Placement.empty = some p ∧
      t.request.placement = p.complete (m.typeExists type) := by
  obtain ⟨folded', hfolded', hcases⟩ := plan_cases hplan
  obtain rfl : folded = folded' := Except.ok.inj (hfold.symm.trans hfolded')
  rcases hcases with ⟨q, -, -, -, hquery, -⟩ | ⟨d, type, -, hchain, hrequest⟩
  · rw [hhits] at hquery
    cases hquery
  · obtain ⟨hroot, rs, hrs, hplaced⟩ := Draft.ofChain_placement hchain
    refine ⟨type, rs, d.placement, hroot, hrs, hplaced, ?_⟩
    rw [hrequest]
    exact completeFilter_placement ..

end Expression

end SearchQuery
