import SearchQuery.Plan.Aggregate
import SearchQuery.Proofs.Expression.Folded
import SearchQuery.Proofs.Success

/-!
# Chains over documents

What folding and planning see of an expression that is a chain of operators over the documents of a
type.

* `chain_of_fold`, `fold_of_chain`: folding such an expression folds the arguments of each step.
* `chainSource?_of_chain`: the document type is found through the whole chain.
* `aggregateQuery?_chain`: an aggregate query has its grouping among the outermost steps.
-/

namespace SearchQuery

namespace Expression

variable {e e' : Expression} {type : DocumentType} {steps : List (String × List Expression)}

/-! ### Folding -/

/-- A step whose arguments are folded. -/
def foldStep (step : String × List Expression) : Except Fault (String × List Expression) :=
  (foldArgs step.2).map (step.1, ·)

theorem isEmpty_of_foldArgs {args args' : List Expression} (h : foldArgs args = .ok args') :
    args'.isEmpty = args.isEmpty := by
  cases args with
  | nil =>
    cases h
    rfl
  | cons e rest =>
    rw [foldArgs] at h
    obtain ⟨e', -, h⟩ := bind_eq_ok.1 h
    obtain ⟨rest', -, h⟩ := bind_eq_ok.1 h
    cases h
    rfl

theorem methods_of_foldStep {steps' : List (String × List Expression)}
    (h : steps.mapM foldStep = .ok steps') : steps'.map Prod.fst = steps.map Prod.fst := by
  induction steps generalizing steps' with
  | nil =>
    cases h
    rfl
  | cons step rest ih =>
    obtain ⟨step', rest', hstep, hrest, rfl⟩ := mapM_cons_eq_ok.1 h
    obtain ⟨args', -, rfl⟩ := map_eq_ok.1 hstep
    rw [List.map_cons, List.map_cons, ih hrest]

/-- What ends in documents is no constant. -/
theorem not_constant_of_chain (h : e.chain.root = .documents type) : e.constant? = none := by
  cases e <;> first | rfl | cases h

/-- A chain that folds does so step by step. -/
theorem chain_of_fold (hroot : e.chain.root = .documents type) (h : e.fold = .ok e') :
    ∃ steps, e.chain.steps.mapM foldStep = .ok steps ∧ e'.chain = ⟨steps, .documents type⟩ := by
  induction e using chain.induct generalizing e' with
  | case1 method inner args ih =>
    rw [fold] at h
    obtain ⟨folded, hfolded, h⟩ := bind_eq_ok.1 h
    rw [foldArgs] at hfolded
    obtain ⟨inner', hinner, hfolded⟩ := bind_eq_ok.1 hfolded
    obtain ⟨args', hargs, hpure⟩ := bind_eq_ok.1 hfolded
    cases hpure
    obtain ⟨steps, hsteps, hchain⟩ := ih hroot hinner
    have hconstant : inner'.constant? = none := not_constant_of_chain (by rw [hchain])
    rw [foldCall_eq_self hconstant] at h
    cases h
    refine ⟨(method, args') :: steps, ?_, ?_⟩
    · have hstep : foldStep (method, args) = .ok (method, args') := map_eq_ok.2 ⟨args', hargs, rfl⟩
      exact mapM_cons_eq_ok.2 ⟨(method, args'), steps, hstep, hsteps, rfl⟩
    · rw [chain, hchain]
  | case2 method => cases hroot
  | case3 type' =>
    cases h
    cases hroot
    exact ⟨[], rfl, rfl⟩
  | case4 operand ih =>
    rw [fold] at h
    obtain ⟨operand', hoperand, h⟩ := bind_eq_ok.1 h
    obtain ⟨steps, hsteps, hchain⟩ := ih hroot hoperand
    have hconstant : operand'.constant? = none := not_constant_of_chain (by rw [hchain])
    rw [foldUnary_eq_self hconstant] at h
    cases h
    exact ⟨steps, hsteps, hchain⟩
  | case5 e hcall hbare hsource hconvert =>
    rw [chain] at hroot
    · cases hroot
    all_goals assumption

/-- A chain folds if each of its steps does. -/
theorem fold_of_chain (hroot : e.chain.root = .documents type)
    (h : e.chain.steps.mapM foldStep = .ok steps) :
    ∃ e', e.fold = .ok e' ∧ e'.chain = ⟨steps, .documents type⟩ := by
  have hfolds : ∃ e', e.fold = .ok e' := by
    induction e using chain.induct generalizing steps with
    | case1 method inner args ih =>
      obtain ⟨step, below, hstep, hbelow, -⟩ := mapM_cons_eq_ok.1 h
      obtain ⟨args', hargs, -⟩ := map_eq_ok.1 hstep
      have hinnerRoot : inner.chain.root = .documents type := hroot
      obtain ⟨inner', hinner⟩ := ih hinnerRoot hbelow
      obtain ⟨_, -, hchain⟩ := chain_of_fold hinnerRoot hinner
      have hconstant : inner'.constant? = none := not_constant_of_chain (by rw [hchain])
      refine ⟨.call method (inner' :: args'), ?_⟩
      rw [fold, foldArgs, hinner, hargs]
      exact foldCall_eq_self hconstant
    | case2 method => cases hroot
    | case3 type' => exact ⟨_, rfl⟩
    | case4 operand ih =>
      have hoperandRoot : operand.chain.root = .documents type := hroot
      obtain ⟨operand', hoperand⟩ := ih hoperandRoot h
      obtain ⟨_, -, hchain⟩ := chain_of_fold hoperandRoot hoperand
      have hconstant : operand'.constant? = none := not_constant_of_chain (by rw [hchain])
      refine ⟨.unary .convert operand', ?_⟩
      rw [fold, hoperand]
      exact foldUnary_eq_self hconstant
    | case5 e hcall hbare hsource hconvert =>
      rw [chain] at hroot
      · cases hroot
      all_goals assumption
  obtain ⟨e', he'⟩ := hfolds
  obtain ⟨steps', hsteps', hchain⟩ := chain_of_fold hroot he'
  obtain rfl : steps = steps' := Except.ok.inj (h.symm.trans hsteps')
  exact ⟨e', he', hchain⟩

/-! ### Sources and groupings -/

theorem chainSource?_of_chain (h : e.chain.root = .documents type) :
    e.chainSource? = some type := by
  induction e using chain.induct with
  | case1 method inner args ih => exact ih h
  | case2 method => cases h
  | case3 type' =>
    cases h
    rfl
  | case4 operand ih => exact ih h
  | case5 e hcall hbare hsource hconvert =>
    rw [chain] at h
    · cases h
    all_goals assumption

theorem groupSelection?_chain {size : Option Nat} {q : AggregateQuery}
    (h : e.groupSelection? size = some q) :
    ∃ selector keySelector below,
      e.chain.steps = ("select", [selector]) :: ("group_by", [keySelector]) :: below := by
  unfold groupSelection? at h
  split at h
  · exact ⟨_, _, _, rfl⟩
  · cases h

/-- An aggregate query is a selection over groups, with a limit around it or without. -/
theorem aggregateQuery?_chain {q : AggregateQuery} (h : e.aggregateQuery? = some q) :
    ∃ limit selector keySelector below,
      e.chain.steps = limit ++ ("select", [selector]) :: ("group_by", [keySelector]) :: below ∧
        ∀ step ∈ limit, step.1 = "take" := by
  unfold aggregateQuery? at h
  cases hlimited : e.limitedSelection? with
  | none =>
    rw [hlimited] at h
    obtain ⟨selector, keySelector, below, hsteps⟩ := groupSelection?_chain h
    exact ⟨[], selector, keySelector, below, hsteps, by simp⟩
  | some limited =>
    obtain ⟨inner, size⟩ := limited
    rw [hlimited] at h
    obtain ⟨selector, keySelector, below, hsteps⟩ := groupSelection?_chain h
    unfold limitedSelection? at hlimited
    split at hlimited
    · rename_i args n
      obtain ⟨count, -, hinner⟩ := Option.map_eq_some_iff.1 hlimited
      cases hinner
      exact ⟨[("take", [n])], selector, keySelector, below, congrArg _ hsteps, by simp⟩
    · cases hlimited

theorem aggregateQuery?_of_no_group (h : ∀ step ∈ e.chain.steps, step.1 ≠ "group_by") :
    e.aggregateQuery? = none := by
  refine Option.eq_none_iff_forall_ne_some.2 fun q hq => ?_
  obtain ⟨limit, selector, keySelector, below, hsteps, -⟩ := aggregateQuery?_chain hq
  have hmem : ("group_by", [keySelector]) ∈ e.chain.steps := by simp [hsteps]
  exact h _ hmem rfl

end Expression

end SearchQuery
