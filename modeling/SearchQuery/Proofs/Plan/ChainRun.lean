import SearchQuery.Plan.Query
import SearchQuery.Proofs.Expression.Chains
import SearchQuery.Proofs.Plan.Requirements

/-!
# Planning as a run of operators

A query on hits is planned by folding the steps of its chain and applying them to an empty draft,
outermost first.

* `Expression.plan_eq_ok_iff_of_chain`: the plan, given the steps and the document type.
* `Draft.applySteps_append`: a run in two parts.
* `Draft.applySteps_induct`: the induction over the operators applied so far.
-/

namespace SearchQuery

namespace Draft

variable {scope : Scope} {d d' : Draft} {step : String × List Expression}
  {steps : List (String × List Expression)}

/-! ### Runs -/

theorem applyStep_eq_ok_iff : (d.applyStep scope step).result = .ok d' ↔
    ∃ op, Operator.ofCall step.1 step.2 = .ok op ∧ (d.apply scope op).result = .ok d' := by
  rw [applyStep, Traced.bind_eq_ok]
  simp only [Traced.result_ofExcept, mapError_eq_ok]

theorem applySteps_cons : (d.applySteps scope (step :: steps)).result = .ok d' ↔
    ∃ d₁, (d.applyStep scope step).result = .ok d₁ ∧ (d₁.applySteps scope steps).result = .ok d' :=
  Traced.bind_eq_ok

theorem applySteps_append {steps' : List (String × List Expression)} :
    (d.applySteps scope (steps ++ steps')).result = .ok d' ↔
      ∃ d₁, (d.applySteps scope steps).result = .ok d₁ ∧
        (d₁.applySteps scope steps').result = .ok d' := by
  induction steps generalizing d with
  | nil =>
    constructor
    · intro h
      exact ⟨d, rfl, h⟩
    · rintro ⟨d₁, hd₁, h⟩
      cases hd₁
      exact h
  | cons step rest ih =>
    simp only [List.cons_append, applySteps_cons, ih]
    constructor
    · rintro ⟨d₁, hstep, d₂, hrest, h⟩
      exact ⟨d₂, ⟨d₁, hstep, hrest⟩, h⟩
    · rintro ⟨d₂, ⟨d₁, hstep, hrest⟩, h⟩
      exact ⟨d₁, hstep, d₂, hrest, h⟩

/-- The operators that steps are. -/
def operatorsOf (steps : List (String × List Expression)) :
    Except Error.Unsupported (List Operator) :=
  steps.mapM fun step => Operator.ofCall step.1 step.2

/-- What holds at first and is kept by each operator holds at the end. -/
theorem applySteps_induct {motive : List Operator → Draft → Prop} (hnil : motive [] d)
    (happly : ∀ applied d op d', motive applied d → (d.apply scope op).result = .ok d' →
      motive (applied ++ [op]) d')
    (h : (d.applySteps scope steps).result = .ok d') :
    ∃ operators, operatorsOf steps = .ok operators ∧ motive operators d' := by
  suffices hfrom : ∀ applied d, motive applied d → (d.applySteps scope steps).result = .ok d' →
      ∃ operators, operatorsOf steps = .ok operators ∧ motive (applied ++ operators) d' by
    simpa using hfrom [] d hnil h
  clear h hnil
  induction steps with
  | nil =>
    intro applied d hd h
    cases h
    exact ⟨[], rfl, by simpa using hd⟩
  | cons step rest ih =>
    intro applied d hd h
    obtain ⟨d₁, hstep, hrest⟩ := applySteps_cons.1 h
    obtain ⟨op, hop, hstep⟩ := applyStep_eq_ok_iff.1 hstep
    obtain ⟨operators, hoperators, hd'⟩ := ih (applied ++ [op]) d₁ (happly _ _ _ _ hd hstep) hrest
    refine ⟨op :: operators, ?_, ?_⟩
    · exact mapM_cons_eq_ok.2 ⟨op, operators, hop, hoperators, rfl⟩
    · rwa [List.append_assoc, List.singleton_append] at hd'

/-- The plan that a draft over all steps gives. -/
def finish (s : Scope) (type : DocumentType) (d : Draft) : QueryPlan :=
  ⟨completeFilter s.mapping type
    { d.request with documentType := s.mapping.documentType type }, d.materializer s⟩

end Draft

/-- How names are resolved over the documents of a type. -/
def Scope.over (m : FieldMapping) (pathPrefix : String) (type : DocumentType) : Scope :=
  ⟨m, pathPrefix, m.documentPrefix type⟩

namespace Expression

variable {m : FieldMapping} {pathPrefix : String} {query : Expression} {t : QueryPlan}
  {steps : List (String × List Expression)} {type : DocumentType}

theorem planChain_eq_ok_iff {s : Scope} (hchain : query.chain = ⟨steps, .documents type⟩) :
    (planChain s query).result = .ok t ↔
      ∃ d, (Draft.empty.applySteps s steps).result = .ok d ∧ t = d.finish s type := by
  rw [planChain, Traced.bind_eq_ok, hchain]
  constructor
  · rintro ⟨⟨d, type'⟩, hd, h⟩
    obtain ⟨d₁, hsteps, hd⟩ := Traced.bind_eq_ok.1 hd
    cases hd
    cases h
    exact ⟨d₁, hsteps, rfl⟩
  · rintro ⟨d, hsteps, rfl⟩
    exact ⟨_, Traced.bind_eq_ok.2 ⟨d, hsteps, rfl⟩, rfl⟩

/-- **Planning a chain.** A query on hits is planned by folding its steps and applying them. -/
theorem plan_eq_ok_iff_of_chain (hchain : query.chain = ⟨steps, .documents type⟩)
    (hhits : ∀ folded, query.fold = .ok folded → folded.aggregateQuery? = none) :
    (query.plan m pathPrefix).result = .ok t ↔
      ∃ steps' d, steps.mapM foldStep = .ok steps' ∧
        (Draft.empty.applySteps (Scope.over m pathPrefix type) steps').result = .ok d ∧
        t = d.finish (Scope.over m pathPrefix type) type := by
  have hroot : query.chain.root = .documents type := by rw [hchain]
  have hplanned : ∀ {folded steps'}, query.fold = .ok folded →
      folded.chain = ⟨steps', .documents type⟩ → ((folded.planFolded m pathPrefix).result = .ok t ↔
        ∃ d, (Draft.empty.applySteps (Scope.over m pathPrefix type) steps').result = .ok d ∧
          t = d.finish (Scope.over m pathPrefix type) type) := by
    intro folded steps' hfold hfolded
    have hsource : folded.chainSource? = some type := chainSource?_of_chain (by rw [hfolded])
    simp only [planFolded, hhits folded hfold, hsource]
    exact planChain_eq_ok_iff hfolded
  rw [plan_eq_ok_iff]
  constructor
  · rintro ⟨folded, hfold, h⟩
    obtain ⟨steps', hsteps, hfolded⟩ := chain_of_fold hroot hfold
    obtain ⟨d, hd, ht⟩ := (hplanned hfold hfolded).1 h
    exact ⟨steps', d, by rwa [hchain] at hsteps, hd, ht⟩
  · rintro ⟨steps', d, hsteps, hd, ht⟩
    obtain ⟨folded, hfold, hfolded⟩ := fold_of_chain hroot (by rwa [hchain])
    exact ⟨folded, hfold, (hplanned hfold hfolded).2 ⟨d, hd, ht⟩⟩

/-- Without a grouping, a chain is a query on hits. -/
theorem plan_eq_ok_iff_of_no_group (hchain : query.chain = ⟨steps, .documents type⟩)
    (hgroup : ∀ step ∈ steps, step.1 ≠ "group_by") :
    (query.plan m pathPrefix).result = .ok t ↔
      ∃ steps' d, steps.mapM foldStep = .ok steps' ∧
        (Draft.empty.applySteps (Scope.over m pathPrefix type) steps').result = .ok d ∧
        t = d.finish (Scope.over m pathPrefix type) type := by
  refine plan_eq_ok_iff_of_chain hchain fun folded hfold => aggregateQuery?_of_no_group ?_
  obtain ⟨steps', hsteps, hfolded⟩ := chain_of_fold (by rw [hchain]) hfold
  rw [hchain] at hsteps
  intro step hstep hmethod
  have hmem : "group_by" ∈ steps'.map Prod.fst := by
    rw [← hmethod]
    exact List.mem_map_of_mem (by rwa [hfolded] at hstep)
  rw [methods_of_foldStep hsteps] at hmem
  obtain ⟨step₀, hstep₀, hgrouping⟩ := List.mem_map.1 hmem
  exact hgroup step₀ hstep₀ hgrouping

end Expression

end SearchQuery
