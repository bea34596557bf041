import SearchQuery.Proofs.Plan.ChainRun
import SearchQuery.Proofs.Plan.Contribution

/-!
# Operators of different concerns

Each operator reads and writes one part of the draft, that of its concern. Operators of different
concerns therefore commute.

* `Draft.settle`: a draft with one part as in another draft.
* `Draft.LocalTo`: a step reads and writes one part only. `LocalTo.comm`: then it commutes with the
  steps on other parts.
* `Draft.apply_local`: what an operator with a concern does is local to it.
* `plan_swap`: so neighbours of different concerns can change places anywhere in a chain.
-/

namespace SearchQuery

/-! ### Concerns -/

/-- What an operator is about. -/
inductive Concern where
  | criteria
  | sort
  | skip
  /-- The number of hits and what is made of them. -/
  | size
  | select
  /-- The static type alone. -/
  | neutral
  deriving DecidableEq

/-- The concern of a step; a terminal operator with a predicate is about more than one thing. -/
def Concern.ofStep? (step : String × List Expression) : Option Concern :=
  match step.1 with
  | "where" | "query" | "query_string" => some .criteria
  | "order_by" | "order_by_descending" | "then_by" | "then_by_descending" | "order_by_score"
  | "order_by_score_descending" | "then_by_score" | "then_by_score_descending" => some .sort
  | "skip" => some .skip
  | "take" => some .size
  | "first" | "first_or_default" | "single" | "single_or_default" | "count" | "long_count" =>
    if step.2.isEmpty then some .size else none
  | "select" => some .select
  | "of_type" | "cast" => some .neutral
  | _ => none

namespace Operator

def concern? : Operator → Option Concern
  | .filterBy _ | .scoreBy _ | .matchText _ => some .criteria
  | .sortBy .. | .sortByScore _ => some .sort
  | .skip _ => some .skip
  | .take _ | .terminal _ _ none => some .size
  | .terminal _ _ (some _) => none
  | .select _ => some .select
  | .retype => some .neutral

variable {method : String} {op : Operator}

theorem ofStep?_of_sortDirection? {ascending : Bool} (args : List Expression)
    (h : sortDirection? method = some ascending) :
    Concern.ofStep? (method, args) = some .sort := by
  unfold sortDirection? at h
  split at h
  case h_5 => cases h
  all_goals rfl

theorem ofStep?_of_scoreDirection? {ascending : Bool} (args : List Expression)
    (h : scoreDirection? method = some ascending) :
    Concern.ofStep? (method, args) = some .sort := by
  unfold scoreDirection? at h
  split at h
  case h_5 => cases h
  all_goals rfl

theorem ofStep?_of_terminal? {t : Terminal} (args : List Expression)
    (h : terminal? method = some t) :
    Concern.ofStep? (method, args) = if args.isEmpty then some .size else none := by
  unfold terminal? at h
  split at h
  case h_7 => cases h
  all_goals rfl

theorem concern?_of_ofUnaryCall {e : Expression} (h : ofUnaryCall method e = .ok op) :
    op.concern? = Concern.ofStep? (method, [e]) := by
  unfold ofUnaryCall at h
  split at h
  · cases h
    rfl
  · cases h
    rfl
  · split at h <;> cases h
    rfl
  · cases h
    rfl
  · obtain ⟨n, -, rfl⟩ := map_eq_ok.1 h
    rfl
  · obtain ⟨n, -, rfl⟩ := map_eq_ok.1 h
    rfl
  · cases h
  · -- the sorts and the terminal operators are looked up by name
    split at h
    · rename_i hsort
      cases h
      exact (ofStep?_of_sortDirection? [e] hsort).symm
    · rename_i hterminal
      cases h
      exact (ofStep?_of_terminal? [e] hterminal).symm
    · cases h

theorem concern?_of_ofNullaryCall (h : ofNullaryCall method = .ok op) :
    op.concern? = Concern.ofStep? (method, []) := by
  unfold ofNullaryCall at h
  split at h
  · cases h
    rfl
  · cases h
    rfl
  · cases h
  · split at h
    · rename_i hsort
      cases h
      exact (ofStep?_of_scoreDirection? [] hsort).symm
    · rename_i hterminal
      cases h
      exact (ofStep?_of_terminal? [] hterminal).symm
    · cases h

/-- The concern of a step is that of the operator that it is. -/
theorem concern?_of_ofCall {args : List Expression} (h : ofCall method args = .ok op) :
    op.concern? = Concern.ofStep? (method, args) := by
  unfold ofCall at h
  split at h
  · exact concern?_of_ofNullaryCall h
  · exact concern?_of_ofUnaryCall h
  · split at h <;> cases h

end Operator

/-- Folding leaves the concern of a step as it is. -/
theorem Concern.ofStep?_foldStep {step step' : String × List Expression}
    (h : Expression.foldStep step = .ok step') : ofStep? step' = ofStep? step := by
  obtain ⟨method, args⟩ := step
  obtain ⟨args', hargs, rfl⟩ := map_eq_ok.1 h
  have hempty : args'.isEmpty = args.isEmpty := Expression.isEmpty_of_foldArgs hargs
  simp only [ofStep?, hempty]

/-! ### Parts of drafts -/

namespace Draft

variable {scope : Scope} {d d₁ d₂ : Draft} {k l : Concern}

/-- The draft with the part of one concern as in another draft. -/
def settle (d : Draft) (k : Concern) (e : Draft) : Draft :=
  match k with
  | .criteria => d.place e.placement
  | .sort => { d with request := { d.request with sortOptions := e.request.sortOptions } }
  | .skip => { d with request := { d.request with skipped := e.request.skipped } }
  | .size =>
    { d with terminal := e.terminal, request := { d.request with size := e.request.size } }
  | .select =>
    { d with projector := e.projector, request := { d.request with fields := e.request.fields } }
  | .neutral => d

theorem settle_self (d : Draft) (k : Concern) : d.settle k d = d := by
  cases k <;> rfl

theorem settle_comm (d e e' : Draft) (h : k ≠ l) :
    (d.settle k e).settle l e' = (d.settle l e').settle k e := by
  cases k <;> cases l <;> first | rfl | exact absurd rfl h

/-- What a step does to the part of its concern depends on that part, and nothing else changes. -/
def LocalTo (k : Concern) (f : Draft → Except Error Draft) : Prop :=
  ∀ d e : Draft, f (e.settle k d) = (f d).map (e.settle k)

variable {f g : Draft → Except Error Draft}

theorem LocalTo.of_settle (hf : LocalTo k f) {e : Draft} (hd : f d = .ok d₁) :
    f (e.settle k d) = .ok (e.settle k d₁) := by
  rw [hf, hd]
  rfl

/-- A local step changes its part only. -/
theorem LocalTo.eq_settle (hf : LocalTo k f) (hd : f d = .ok d₁) : d₁ = d.settle k d₁ := by
  have hsettled : f (d.settle k d) = .ok (d.settle k d₁) := hf.of_settle hd
  rw [settle_self, hd] at hsettled
  exact Except.ok.inj hsettled

/-- **Steps on different parts commute.** -/
theorem LocalTo.comm (hf : LocalTo k f) (hg : LocalTo l g) (hne : k ≠ l) (hd₁ : f d = .ok d₁)
    (hd₂ : g d₁ = .ok d₂) : ∃ e, g d = .ok e ∧ f e = .ok d₂ := by
  have hfd : d₁ = d.settle k d₁ := hf.eq_settle hd₁
  -- after the first step, the second part is still that of the draft before it
  have hkept : d₁ = d₁.settle l d := by
    rw [hfd, settle_comm _ _ _ hne, settle_self]
  have hgd : g d₁ = (g d).map (d₁.settle l) := by
    rw [← hg, ← hkept]
  rw [hd₂] at hgd
  obtain ⟨e, he, hd₂e⟩ := map_eq_ok.1 hgd.symm
  have hge : e = d.settle l e := hg.eq_settle he
  have hkept' : e = e.settle k d := by
    rw [hge, settle_comm _ _ _ hne.symm, settle_self]
  refine ⟨e, he, ?_⟩
  calc f e = f (e.settle k d) := by rw [← hkept']
    _ = .ok (e.settle k d₁) := hf.of_settle hd₁
    _ = .ok ((d.settle l e).settle k d₁) := by rw [← hge]
    _ = .ok ((d.settle k d₁).settle l e) := by rw [settle_comm _ _ _ hne]
    _ = .ok d₂ := by rw [← hfd, hd₂e]

/-! ### Operators are local -/

theorem lowered_settle (scores : Bool) (predicate : Expression) (d e : Draft) :
    ((predicate.lowerLambda scope.mapping scope.pathPrefix d.request.query).result.map fun low =>
      (e.settle .criteria d).place
        (Placement.put ⟨low.query, d.request.filter⟩ scores low.criteria)) =
      ((predicate.lowerLambda scope.mapping scope.pathPrefix d.request.query).result.map fun low =>
        d.place (Placement.put ⟨low.query, d.request.filter⟩ scores low.criteria)).map
          (e.settle .criteria) := by
  cases (predicate.lowerLambda scope.mapping scope.pathPrefix d.request.query).result <;> rfl

theorem filterBy_settle (predicate : Expression) (d e : Draft) :
    ((e.settle .criteria d).filterBy scope predicate).result =
      (d.filterBy scope predicate).result.map (e.settle .criteria) := by
  rw [filterBy_result, filterBy_result]
  exact lowered_settle false predicate d e

theorem scoreBy_settle (predicate : Expression) (d e : Draft) :
    ((e.settle .criteria d).scoreBy scope predicate).result =
      (d.scoreBy scope predicate).result.map (e.settle .criteria) := by
  rw [scoreBy_result, scoreBy_result]
  exact lowered_settle true predicate d e

theorem sortBy_settle (key : Expression) (ascending : Bool) (d e : Draft) :
    (e.settle .sort d).sortBy scope key ascending =
      (d.sortBy scope key ascending).map (e.settle .sort) := by
  unfold sortBy
  cases key.lambda? with
  | none => rfl
  | some lambda =>
    obtain ⟨x, body⟩ := lambda
    cases hfield : body.field? scope.mapping scope.pathPrefix with
    | none =>
      simp only [hfield]
      rfl
    | some field =>
      simp only [hfield]
      rfl

theorem select_settle (selector : Expression) (d e : Draft) :
    (e.settle .select d).select scope selector =
      (d.select scope selector).map (e.settle .select) := by
  have hprojector : (e.settle .select d).projector = d.projector := rfl
  unfold select
  rw [hprojector]
  by_cases hsome : d.projector.isSome = true
  · rw [if_pos hsome, if_pos hsome]
    rfl
  · rw [if_neg hsome, if_neg hsome]
    cases Projection.ofSelector scope.mapping scope.pathPrefix scope.documentPrefix selector <;> rfl

theorem setTerminal_settle (method : String) (t : Terminal) (d e : Draft) :
    ((e.settle .size d).setTerminal method t).result =
      (d.setTerminal method t).result.map (e.settle .size) := by
  have hterminal : (e.settle .size d).terminal = d.terminal := rfl
  unfold setTerminal
  rw [hterminal]
  cases d.terminal <;> rfl

/-- **Operators are local.** An operator with a concern reads and writes the part of it only. -/
theorem apply_local {op : Operator} (h : op.concern? = some k) :
    LocalTo k fun d => (d.apply scope op).result := by
  cases op with
  | filterBy predicate =>
    cases h
    exact filterBy_settle predicate
  | scoreBy predicate =>
    cases h
    exact scoreBy_settle predicate
  | sortBy key ascending =>
    cases h
    exact sortBy_settle key ascending
  | select selector =>
    cases h
    exact select_settle selector
  | terminal method t predicate =>
    cases predicate with
    | none =>
      cases h
      exact setTerminal_settle method t
    | some predicate => cases h
  | matchText _ | sortByScore _ | skip _ | take _ | retype =>
    cases h
    exact fun _ _ => rfl

/-- A step with a concern is local to it. -/
theorem applyStep_local {step : String × List Expression} (h : Concern.ofStep? step = some k) :
    LocalTo k fun d => (d.applyStep scope step).result := by
  intro d e
  simp only [applyStep, Traced.result_bind, Traced.result_ofExcept]
  cases hop : Operator.ofCall step.1 step.2 with
  | error e => rfl
  | ok op => exact apply_local ((Operator.concern?_of_ofCall hop).trans h) d e

/-- Two neighbours of different concerns can change places. -/
theorem applySteps_swap {a b : String × List Expression}
    {above below : List (String × List Expression)} (ha : Concern.ofStep? a = some k)
    (hb : Concern.ofStep? b = some l) (hne : k ≠ l)
    (h : (d.applySteps scope (above ++ a :: b :: below)).result = .ok d₁) :
    (d.applySteps scope (above ++ b :: a :: below)).result = .ok d₁ := by
  obtain ⟨d₂, habove, h⟩ := applySteps_append.1 h
  obtain ⟨d₃, hd₃, h⟩ := applySteps_cons.1 h
  obtain ⟨d₄, hd₄, hbelow⟩ := applySteps_cons.1 h
  obtain ⟨e, he, hd₄'⟩ := (applyStep_local ha).comm (applyStep_local hb) hne hd₃ hd₄
  exact applySteps_append.2 ⟨d₂, habove,
    applySteps_cons.2 ⟨e, he, applySteps_cons.2 ⟨d₄, hd₄', hbelow⟩⟩⟩

end Draft

/-! ### Swapping in a query -/

namespace Expression

variable {m : FieldMapping} {pathPrefix : String} {query query' : Expression} {t : QueryPlan}
  {above below : List (String × List Expression)} {a b : String × List Expression}
  {type : DocumentType} {k l : Concern}

theorem mapM_foldStep_swap {steps : List (String × List Expression)}
    (h : (above ++ a :: b :: below).mapM foldStep = .ok steps) :
    ∃ above' a' b' below', foldStep a = .ok a' ∧ foldStep b = .ok b' ∧
      steps = above' ++ a' :: b' :: below' ∧
      (above ++ b :: a :: below).mapM foldStep = .ok (above' ++ b' :: a' :: below') := by
  obtain ⟨above', _, habove, htail, rfl⟩ := mapM_append_eq_ok.1 h
  obtain ⟨a', _, ha, htail', rfl⟩ := mapM_cons_eq_ok.1 htail
  obtain ⟨b', below', hb, hbelow, rfl⟩ := mapM_cons_eq_ok.1 htail'
  have hba : (b :: a :: below).mapM foldStep = .ok (b' :: a' :: below') :=
    mapM_cons_eq_ok.2 ⟨b', _, hb, mapM_cons_eq_ok.2 ⟨a', below', ha, hbelow, rfl⟩, rfl⟩
  exact ⟨above', a', b', below', ha, hb, rfl, mapM_append_eq_ok.2 ⟨above', _, habove, hba, rfl⟩⟩

/-- **Unrelated operators commute.** Let two neighbours in a chain over documents be of different
concerns, and let there be no grouping. If the query can be planned, so can the query with the two
in the other order, and the request and the materializer are the same. -/
theorem plan_swap (hchain : query.chain = ⟨above ++ a :: b :: below, .documents type⟩)
    (hchain' : query'.chain = ⟨above ++ b :: a :: below, .documents type⟩)
    (hgroup : ∀ step ∈ query.chain.steps, step.1 ≠ "group_by")
    (ha : Concern.ofStep? a = some k) (hb : Concern.ofStep? b = some l) (hne : k ≠ l)
    (hplan : (query.plan m pathPrefix).result = .ok t) :
    (query'.plan m pathPrefix).result = .ok t := by
  rw [hchain] at hgroup
  have hperm : (above ++ b :: a :: below).Perm (above ++ a :: b :: below) :=
    (List.Perm.swap a b below).append_left above
  have hgroup' : ∀ step ∈ above ++ b :: a :: below, step.1 ≠ "group_by" :=
    fun step hstep => hgroup step (hperm.mem_iff.1 hstep)
  obtain ⟨steps, d, hsteps, hd, ht⟩ := (plan_eq_ok_iff_of_no_group hchain hgroup).1 hplan
  obtain ⟨above', a', b', below', hfoldA, hfoldB, rfl, hsteps'⟩ := mapM_foldStep_swap hsteps
  have ha' : Concern.ofStep? a' = some k := (Concern.ofStep?_foldStep hfoldA).trans ha
  have hb' : Concern.ofStep? b' = some l := (Concern.ofStep?_foldStep hfoldB).trans hb
  have hd' := Draft.applySteps_swap ha' hb' hne hd
  exact (plan_eq_ok_iff_of_no_group hchain' hgroup').2 ⟨_, d, hsteps', hd', ht⟩

end Expression

namespace Film

def yearKey : Expression := .lambda "f" ((Expression.parameter "f").member year)

def hasFamily : Expression := .lambda "f" (titleContains "Family")

def orderByYear : String × List Expression := ("order_by", [yearKey])

def filterByFamily : String × List Expression := ("where", [hasFamily])

/-- The oldest of the films with a word in the title. -/
def oldestWithFamily : Expression :=
  (((Expression.source documents).filterBy hasFamily).orderBy yearKey).first

/-- The first film by year, of those with a word in the title. -/
def firstByYearWithFamily : Expression :=
  (((Expression.source documents).orderBy yearKey).filterBy hasFamily).first

end Film

namespace Expression

theorem plan_swap_film :
    ∃ t, Film.oldestWithFamily.chain =
        ⟨[("first", [])] ++ Film.orderByYear :: Film.filterByFamily :: [],
          .documents Film.documents⟩ ∧
      Film.firstByYearWithFamily.chain =
        ⟨[("first", [])] ++ Film.filterByFamily :: Film.orderByYear :: [],
          .documents Film.documents⟩ ∧
      (∀ step ∈ Film.oldestWithFamily.chain.steps, step.1 ≠ "group_by") ∧
      Concern.ofStep? Film.orderByYear = some .sort ∧
      Concern.ofStep? Film.filterByFamily = some .criteria ∧ Concern.sort ≠ .criteria ∧
      (Film.oldestWithFamily.plan Film.mapping "").result = .ok t ∧
      (Film.firstByYearWithFamily.plan Film.mapping "").result = .ok t := by
  have hplans : (Film.oldestWithFamily.plan Film.mapping "").result.toOption.isSome = true := by
    decide
  obtain ⟨t, ht⟩ := Option.isSome_iff_exists.1 hplans
  have hplan : (Film.oldestWithFamily.plan Film.mapping "").result = .ok t := toOption_eq_some.1 ht
  have hgroup : ∀ step ∈ Film.oldestWithFamily.chain.steps, step.1 ≠ "group_by" := by
    have hmethods : "group_by" ∉ Film.oldestWithFamily.chain.steps.map Prod.fst := by decide
    intro step hstep hmethod
    exact hmethods (hmethod ▸ List.mem_map_of_mem hstep)
  have hsort : Concern.ofStep? Film.orderByYear = some .sort := rfl
  have hcriteria : Concern.ofStep? Film.filterByFamily = some .criteria := rfl
  have hne : Concern.sort ≠ .criteria := by decide
  have hchain : Film.oldestWithFamily.chain =
      ⟨[("first", [])] ++ Film.orderByYear :: Film.filterByFamily :: [],
        .documents Film.documents⟩ := rfl
  have hchain' : Film.firstByYearWithFamily.chain =
      ⟨[("first", [])] ++ Film.filterByFamily :: Film.orderByYear :: [],
        .documents Film.documents⟩ := rfl
  exact ⟨t, hchain, hchain', hgroup, hsort, hcriteria, hne, hplan,
    plan_swap hchain hchain' hgroup hsort hcriteria hne hplan⟩

end Expression

end SearchQuery
