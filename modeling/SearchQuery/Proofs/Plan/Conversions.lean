import SearchQuery.Proofs.Plan.ChainRun
import SearchQuery.Proofs.Plan.Contribution
import SearchQuery.Proofs.Plan.PredicateConversions

/-!
# Conversions in queries

Predicates and sort keys are the lambdas of a query that planning reads fields from. Conversions in
them make no difference to the plan, except one of the parameter itself.

* `Expression.bodies`: the bodies of the predicates and sort keys along a chain.
* `Expression.plainBodies`: the query with these bodies free of conversions.
* `fold_plainBodies`, `bodies_fold`: both of them commute with folding.
* `Draft.applySteps_plain`: without converted parameters, the steps of a chain do the same when their
  conversions are taken off.
* `plan_conversions`: so queries that differ in conversions have one plan, or none where a parameter
  is converted.
-/

namespace SearchQuery

/-! ### Predicates and sort keys -/

/-- The operator that a method is of its predicate or sort key, if it takes one. -/
def Operator.ofBody? (method : String) : Option (Expression → Operator) :=
  match method with
  | "where" => some .filterBy
  | "query" => some .scoreBy
  | _ =>
    match sortDirection? method, terminal? method with
    | some ascending, _ => some (.sortBy · ascending)
    | none, some t => some fun e => .terminal method t (some e)
    | none, none => none

namespace Expression

def body? (e : Expression) : Option Expression := e.lambda?.map Prod.snd

/-- A lambda with no conversions in its body. -/
def plainLambda : Expression → Expression
  | .lambda x body => .lambda x body.unconverted
  | e => e

def plainArgs (method : String) (args : List Expression) : List Expression :=
  if (Operator.ofBody? method).isSome then args.map plainLambda else args

def plainStep (step : String × List Expression) : String × List Expression :=
  (step.1, plainArgs step.1 step.2)

/-- The query with no conversions in its predicates and sort keys. -/
def plainBodies : Expression → Expression
  | .call method (inner :: args) => .call method (plainBodies inner :: plainArgs method args)
  | .unary .convert operand => .unary .convert (plainBodies operand)
  | e => e

def stepBodies (step : String × List Expression) : List Expression :=
  if (Operator.ofBody? step.1).isSome then step.2.filterMap body? else []

/-- The bodies of the predicates and sort keys of a query. -/
def bodies (e : Expression) : List Expression := e.chain.steps.flatMap stepBodies

variable {e e' : Expression} {method : String} {args args' : List Expression}

theorem constant?_plainLambda (e : Expression) : e.plainLambda.constant? = e.constant? := by
  cases e <;> rfl

theorem constant?_plainBodies (e : Expression) : e.plainBodies.constant? = e.constant? := by
  unfold plainBodies
  split <;> rfl

theorem mapM_constant?_plainArgs (method : String) (args : List Expression) :
    (plainArgs method args).mapM constant? = args.mapM constant? := by
  unfold plainArgs
  split_ifs
  · rw [List.mapM_map]
    exact mapM_congr fun e _ => constant?_plainLambda e
  · rfl

/-! ### Folding -/

/-- Whether the expression is a step of a chain, or a conversion around one. -/
def isStep : Expression → Bool
  | .call _ (_ :: _) | .unary .convert _ => true
  | _ => false

theorem plainBodies_of_not_isStep (h : e.isStep = false) : e.plainBodies = e := by
  unfold plainBodies
  split
  · cases h
  · cases h
  · rfl

theorem bodies_of_not_isStep (h : e.isStep = false) : e.bodies = [] := by
  unfold bodies chain
  split
  · cases h
  · rfl
  · rfl
  · cases h
  · rfl

/-- Folding makes neither lambdas nor steps. -/
theorem foldCases_shape :
    FoldCases fun e e' => (e.lambda? = none → e'.lambda? = none) ∧
      (e.isStep = false → e'.isStep = false) where
  constant _ := ⟨fun h => h, fun h => h⟩
  source _ := ⟨fun h => h, fun h => h⟩
  parameter _ := ⟨fun h => h, fun h => h⟩
  hitField _ := ⟨fun h => h, fun h => h⟩
  field _ _ := ⟨fun h => h, fun h => h⟩
  member {target target'} m _ _ _ _ := by
    rcases foldMember_cases target' m with ⟨-, hfolded⟩ | ⟨v, -, hfolded⟩ <;> rw [hfolded] <;>
      exact ⟨fun _ => rfl, fun _ => rfl⟩
  binary _ _ h := by
    rcases foldBinary_cases h with rfl | ⟨_, _, v, -, -, -, rfl⟩ <;>
      exact ⟨fun _ => rfl, fun _ => rfl⟩
  unary {op operand operand' e} _ h := by
    rcases foldUnary_cases h with rfl | ⟨o, v, -, -, rfl⟩
    · exact ⟨fun _ => rfl, by cases op <;> exact fun h => h⟩
    · exact ⟨fun _ => rfl, fun _ => rfl⟩
  call {method args args' e} hargs h := by
    rcases foldCall_cases h with rfl | ⟨values, v, -, -, rfl⟩
    · exact ⟨fun _ => rfl, by cases hargs <;> exact fun h => h⟩
    · exact ⟨fun _ => rfl, fun _ => rfl⟩
  lambda _ := ⟨nofun, fun _ => rfl⟩
  construct {members members'} _ := by
    rcases foldConstruct_cases members' with hfolded | ⟨entries, -, hfolded⟩ <;> rw [hfolded] <;>
      exact ⟨fun _ => rfl, fun _ => rfl⟩

theorem plainLambda_of_lambda?_eq_none (h : e.lambda? = none) : e.plainLambda = e := by
  cases e <;> first | rfl | cases h

theorem fold_plainLambda (e : Expression) : e.plainLambda.fold = e.fold.map plainLambda := by
  cases hlambda : e.lambda? with
  | none =>
    rw [plainLambda_of_lambda?_eq_none hlambda]
    cases he : e.fold with
    | error fault => rfl
    | ok e' =>
      have hnone : e'.lambda? = none := (foldCases_shape.of_fold e he).1 hlambda
      rw [Except.map, plainLambda_of_lambda?_eq_none hnone]
  | some lambda =>
    cases e with
    | lambda x body =>
      rw [plainLambda, fold, fold, fold_unconverted]
      cases body.fold <;> rfl
    | _ => cases hlambda

theorem foldArgs_plainArgs (method : String) (args : List Expression) :
    foldArgs (plainArgs method args) = (foldArgs args).map (plainArgs method) := by
  unfold plainArgs
  split_ifs
  · induction args with
    | nil => rfl
    | cons e rest ih =>
      rw [List.map_cons, foldArgs, foldArgs, fold_plainLambda, ih]
      cases e.fold with
      | error fault => rfl
      | ok e' => cases foldArgs rest <;> rfl
  · cases foldArgs args <;> rfl

theorem foldUnary_plainBodies (operand : Expression) :
    foldUnary .convert operand.plainBodies = (foldUnary .convert operand).map plainBodies := by
  cases ho : operand.constant? with
  | none =>
    rw [foldUnary_eq_self ho, foldUnary_eq_self ((constant?_plainBodies operand).trans ho)]
    rfl
  | some v =>
    obtain rfl := constant?_eq_some.1 ho
    rfl

theorem isStep_eq_false (hcall : ∀ method inner args, e ≠ .call method (inner :: args))
    (hconvert : ∀ operand, e ≠ .unary .convert operand) : e.isStep = false := by
  unfold isStep
  split
  · exact absurd rfl (hcall _ _ _)
  · exact absurd rfl (hconvert _)
  · rfl

/-- A query folds to the same without conversions in its predicates and sort keys, up to these. -/
theorem fold_plainBodies (e : Expression) : e.plainBodies.fold = e.fold.map plainBodies := by
  induction e using plainBodies.induct with
  | case1 method inner args ih =>
    rw [plainBodies, fold, foldArgs, ih, foldArgs_plainArgs, fold, foldArgs]
    cases inner.fold with
    | error fault => rfl
    | ok inner' =>
      cases foldArgs args with
      | error fault => rfl
      | ok args' =>
        refine foldCall_map (f := plainBodies) ?_ (fun _ => rfl) rfl
        rw [List.mapM_cons, List.mapM_cons, constant?_plainBodies, mapM_constant?_plainArgs]
  | case2 operand ih =>
    rw [plainBodies, fold, ih, fold]
    cases operand.fold with
    | error fault => rfl
    | ok operand' => exact foldUnary_plainBodies operand'
  | case3 e hcall hconvert =>
    have hstep : e.isStep = false := isStep_eq_false hcall hconvert
    rw [plainBodies_of_not_isStep hstep]
    cases he : e.fold with
    | error fault => rfl
    | ok e' =>
      have hstep' : e'.isStep = false := (foldCases_shape.of_fold e he).2 hstep
      rw [Except.map, plainBodies_of_not_isStep hstep']

/-- The first expression folds to the second. -/
def FoldsTo (e e' : Expression) : Prop := e.fold = .ok e'

theorem body?_fold (h : e.fold = .ok e') : Option.Rel FoldsTo e.body? e'.body? := by
  cases hlambda : e.lambda? with
  | none =>
    rw [body?, body?, hlambda, (foldCases_shape.of_fold e h).1 hlambda]
    exact .none
  | some lambda =>
    cases e with
    | lambda x body =>
      obtain ⟨body', hbody, h⟩ := bind_eq_ok.1 h
      cases h
      exact .some hbody
    | _ => cases hlambda

theorem foldsTo_of_foldArgs (h : foldArgs args = .ok args') :
    List.Forall₂ FoldsTo args args' := by
  induction args generalizing args' with
  | nil =>
    cases h
    exact .nil
  | cons e rest ih =>
    rw [foldArgs] at h
    obtain ⟨e', he, h⟩ := bind_eq_ok.1 h
    obtain ⟨rest', hrest, h⟩ := bind_eq_ok.1 h
    cases h
    exact .cons he (ih hrest)

theorem stepBodies_fold (h : foldArgs args = .ok args') :
    List.Forall₂ FoldsTo (stepBodies (method, args)) (stepBodies (method, args')) := by
  unfold stepBodies
  split_ifs
  · have hbody : Relator.LiftFun FoldsTo (Option.Rel FoldsTo) body? body? := fun _ _ => body?_fold
    exact List.rel_filterMap hbody (foldsTo_of_foldArgs h)
  · exact .nil

theorem stepBodies_constants (method : String) (values : List Json) :
    stepBodies (method, values.map .constant) = [] := by
  unfold stepBodies
  split_ifs
  · rw [List.filterMap_eq_nil_iff]
    simp [body?, lambda?]
  · rfl

/-- Folding a query folds the bodies of its predicates and sort keys. -/
theorem bodies_fold (h : e.fold = .ok e') : List.Forall₂ FoldsTo e.bodies e'.bodies := by
  induction e using plainBodies.induct generalizing e' with
  | case1 method inner args ih =>
    rw [fold] at h
    obtain ⟨folded, hfolded, h⟩ := bind_eq_ok.1 h
    rw [foldArgs] at hfolded
    obtain ⟨inner', hinner, hfolded⟩ := bind_eq_ok.1 hfolded
    obtain ⟨args', hargs, hpure⟩ := bind_eq_ok.1 hfolded
    cases hpure
    have hparts : List.Forall₂ FoldsTo (stepBodies (method, args) ++ inner.bodies)
        (stepBodies (method, args') ++ inner'.bodies) :=
      List.rel_append (stepBodies_fold hargs) (ih hinner)
    rcases foldCall_cases h with rfl | ⟨values, v, hvalues, -, rfl⟩
    · exact hparts
    · -- a call that becomes a constant has no lambdas
      cases values with
      | nil => cases hvalues
      | cons first rest =>
        obtain ⟨rfl, rfl⟩ := List.cons.inj hvalues
        rw [stepBodies_constants] at hparts
        exact hparts
  | case2 operand ih =>
    rw [fold] at h
    obtain ⟨operand', hoperand, h⟩ := bind_eq_ok.1 h
    have hoperandBodies := ih hoperand
    rcases foldUnary_cases h with rfl | ⟨o, v, rfl, -, rfl⟩
    · exact hoperandBodies
    · exact hoperandBodies
  | case3 e hcall hconvert =>
    have hstep : e.isStep = false := isStep_eq_false hcall hconvert
    rw [bodies_of_not_isStep hstep, bodies_of_not_isStep ((foldCases_shape.of_fold e h).2 hstep)]
    exact .nil

/-! ### Chains and groupings -/

theorem chain_plainBodies (e : Expression) :
    e.plainBodies.chain = ⟨e.chain.steps.map plainStep, e.chain.root⟩ := by
  induction e using plainBodies.induct with
  | case1 method inner args ih =>
    rw [plainBodies, chain, ih]
    rfl
  | case2 operand ih =>
    rw [plainBodies, chain, ih]
    rfl
  | case3 e hcall hconvert =>
    have hsteps : e.chain.steps = [] := by
      unfold chain
      split <;> first | rfl | exact absurd rfl (hcall _ _ _) | exact absurd rfl (hconvert _)
    rw [plainBodies_of_not_isStep (isStep_eq_false hcall hconvert), hsteps]
    exact congrArg (Chain.mk · e.chain.root) hsteps

theorem chainSource?_plainBodies (e : Expression) :
    e.plainBodies.chainSource? = e.chainSource? := by
  induction e using plainBodies.induct with
  | case1 method inner args ih => exact ih
  | case2 operand ih => exact ih
  | case3 e hcall hconvert =>
    rw [plainBodies_of_not_isStep (isStep_eq_false hcall hconvert)]

theorem plainBodies_eq_call (h : e.plainBodies = .call method args') :
    ∃ args, e = .call method args := by
  unfold plainBodies at h
  split at h
  · cases h
    exact ⟨_, rfl⟩
  · cases h
  · exact ⟨args', h⟩

theorem plainBodies_eq_call_cons {first : Expression} {rest : List Expression}
    (h : e.plainBodies = .call method (first :: rest)) :
    ∃ inner args, e = .call method (inner :: args) ∧ inner.plainBodies = first ∧
      plainArgs method args = rest := by
  unfold plainBodies at h
  split at h
  · cases h
    exact ⟨_, _, rfl, rfl, rfl⟩
  · cases h
  · rename_i hcall _
    exact absurd h (hcall _ _ _)

theorem groupSelection?_plainBodies (e : Expression) (size : Option Nat) :
    e.plainBodies.groupSelection? size =
      (e.groupSelection? size).map fun q => { q with source := q.source.plainBodies } := by
  cases hselection : e.groupSelection? size with
  | some q =>
    unfold groupSelection? at hselection
    split at hselection
    · cases hselection
      rfl
    · cases hselection
  | none =>
    refine Option.eq_none_iff_forall_ne_some.2 fun q hq => ?_
    unfold groupSelection? at hq
    split at hq
    · rename_i grouped keySelector selector hplain
      obtain ⟨inner, args, rfl, hinner, hargs⟩ := plainBodies_eq_call_cons hplain
      obtain ⟨source, keys, rfl, -, hkeys⟩ := plainBodies_eq_call_cons hinner
      obtain rfl : args = [selector] := hargs
      obtain rfl : keys = [keySelector] := hkeys
      cases hselection
    · cases hq

theorem limitedSelection?_plainBodies (e : Expression) :
    e.plainBodies.limitedSelection? = e.limitedSelection?.map (Prod.map plainBodies fun n => n) := by
  by_cases hlimited : ∃ args n, e = .call "take" [.call "select" args, n]
  · obtain ⟨args, n, rfl⟩ := hlimited
    obtain ⟨args', hselect⟩ : ∃ args', (call "select" args).plainBodies = call "select" args' := by
      cases args <;> exact ⟨_, rfl⟩
    have htake : (call "take" [call "select" args, n]).plainBodies =
        call "take" [call "select" args', n] := by
      rw [plainBodies, hselect]
      rfl
    rw [htake, limitedSelection?, limitedSelection?, Option.map_map, ← hselect]
    rfl
  · have hnone : e.limitedSelection? = none := by
      unfold limitedSelection?
      split
      · exact absurd ⟨_, _, rfl⟩ hlimited
      · rfl
    rw [hnone]
    unfold limitedSelection?
    split
    · rename_i args n hplain
      obtain ⟨inner, rest, rfl, hinner, hrest⟩ := plainBodies_eq_call_cons hplain
      obtain ⟨args', rfl⟩ := plainBodies_eq_call hinner
      obtain rfl : rest = [n] := hrest
      exact absurd ⟨_, _, rfl⟩ hlimited
    · rfl

theorem aggregateQuery?_plainBodies (e : Expression) :
    e.plainBodies.aggregateQuery? =
      e.aggregateQuery?.map fun q => { q with source := q.source.plainBodies } := by
  unfold aggregateQuery?
  rw [limitedSelection?_plainBodies]
  cases e.limitedSelection? with
  | none => exact groupSelection?_plainBodies e none
  | some limited => exact groupSelection?_plainBodies limited.1 (some limited.2)

end Expression

/-! ### Operators -/

namespace Operator

variable {method : String} {make : Expression → Operator}

theorem ofBody?_cases (h : ofBody? method = some make) :
    make = .filterBy ∨ make = .scoreBy ∨ (∃ ascending, make = (.sortBy · ascending)) ∨
      ∃ t, make = fun e => .terminal method t (some e) := by
  unfold ofBody? at h
  split at h
  · cases h
    exact .inl rfl
  · cases h
    exact .inr (.inl rfl)
  · split at h <;> cases h
    · exact .inr (.inr (.inl ⟨_, rfl⟩))
    · exact .inr (.inr (.inr ⟨_, rfl⟩))

theorem ofUnaryCall_of_ofBody? (h : ofBody? method = some make) (e : Expression) :
    ofUnaryCall method e = .ok (make e) := by
  unfold ofBody? at h
  split at h
  · cases h
    rfl
  · cases h
    rfl
  · split at h
    · rename_i ascending _ hsort
      cases h
      unfold sortDirection? at hsort
      split at hsort <;> cases hsort <;> rfl
    · rename_i t hterminal
      cases h
      unfold terminal? at hterminal
      split at hterminal <;> cases hterminal <;> rfl
    · cases h

theorem ofCall_ne_ok (method : String) (e e' : Expression) (rest : List Expression)
    (op : Operator) : ofCall method (e :: e' :: rest) ≠ .ok op := by
  unfold ofCall
  split_ifs <;> simp

end Operator

namespace Expression

variable {m : FieldMapping} {pathPrefix : String} {e : Expression} {f : Formula}

theorem mem_stepBodies {method : String} {make : Expression → Operator}
    (hmake : Operator.ofBody? method = some make) {args : List Expression} {b : Expression} :
    b ∈ stepBodies (method, args) ↔ ∃ e ∈ args, b ∈ e.body? := by
  rw [stepBodies, if_pos (by rw [hmake]; rfl), List.mem_filterMap]
  rfl

theorem lambdaFormula_plainLambda (h : ∀ b ∈ e.body?, b.Unobstructed) :
    e.plainLambda.lambdaFormula m pathPrefix = .ok f ↔ e.lambdaFormula m pathPrefix = .ok f := by
  cases e with
  | lambda x body => exact formula_unconverted (h body rfl)
  | _ => rfl

theorem not_converts_of_lambdaFormula (h : e.lambdaFormula m pathPrefix = .ok f) :
    ∀ b ∈ e.body?, b.converts isAnyParameter = false := by
  cases e with
  | lambda x body =>
    rintro b ⟨⟩
    exact (not_converts_of_formula h).2
  | _ => simp [body?, lambda?]

end Expression

namespace Draft

open Expression (plainStep stepBodies isAnyParameter)

variable {scope : Scope} {d d' : Draft} {e : Expression} {method : String}
  {make : Expression → Operator} {step : String × List Expression}
  {steps : List (String × List Expression)}

theorem filterBy_plainLambda (h : ∀ b ∈ e.body?, b.Unobstructed) :
    (d.filterBy scope e.plainLambda).result = .ok d' ↔ (d.filterBy scope e).result = .ok d' := by
  simp only [filterBy_eq_ok_iff, Expression.lambdaFormula_plainLambda h]

theorem scoreBy_plainLambda (h : ∀ b ∈ e.body?, b.Unobstructed) :
    (d.scoreBy scope e.plainLambda).result = .ok d' ↔ (d.scoreBy scope e).result = .ok d' := by
  simp only [scoreBy_eq_ok_iff, Expression.lambdaFormula_plainLambda h]

theorem sortBy_plainLambda {ascending : Bool} (h : ∀ b ∈ e.body?, b.Unobstructed) :
    d.sortBy scope e.plainLambda ascending = .ok d' ↔ d.sortBy scope e ascending = .ok d' := by
  cases e with
  | lambda x body =>
    have hfield : body.unconverted.field? scope.mapping scope.pathPrefix =
        body.field? scope.mapping scope.pathPrefix :=
      Expression.field?_unconverted (h body rfl).parameter
    simp only [sortBy, Expression.plainLambda, Expression.lambda?, hfield]
    cases body.field? scope.mapping scope.pathPrefix <;> simp
  | _ => rfl

/-- What an operator does with a predicate or a sort key is the same without conversions. -/
theorem apply_plainLambda (hmake : Operator.ofBody? method = some make)
    (h : ∀ b ∈ e.body?, b.Unobstructed) :
    (d.apply scope (make e.plainLambda)).result = .ok d' ↔
      (d.apply scope (make e)).result = .ok d' := by
  obtain rfl | rfl | ⟨ascending, rfl⟩ | ⟨t, rfl⟩ := Operator.ofBody?_cases hmake
  · exact filterBy_plainLambda h
  · exact scoreBy_plainLambda h
  · exact sortBy_plainLambda h
  · simp only [apply, Traced.bind_eq_ok, filterBy_plainLambda h]

/-- An operator that can be applied converts no parameter. -/
theorem not_converts_of_apply (hmake : Operator.ofBody? method = some make)
    (h : (d.apply scope (make e)).result = .ok d') :
    ∀ b ∈ e.body?, b.converts isAnyParameter = false := by
  obtain rfl | rfl | ⟨ascending, rfl⟩ | ⟨t, rfl⟩ := Operator.ofBody?_cases hmake
  · obtain ⟨f, -, hf, -⟩ := filterBy_eq_ok_iff.1 h
    exact Expression.not_converts_of_lambdaFormula hf
  · obtain ⟨f, -, hf, -⟩ := scoreBy_eq_ok_iff.1 h
    exact Expression.not_converts_of_lambdaFormula hf
  · rw [apply, Traced.result_ofExcept, sortBy] at h
    rintro b hb
    obtain ⟨lambda, hlambda, rfl⟩ := Option.map_eq_some_iff.1 hb
    rw [hlambda] at h
    split at h
    · rename_i hlambda'
      cases hlambda'
    · rename_i x body heq
      cases heq
      split at h
      · rename_i hfield
        exact (Expression.not_converts_of_field? hfield).2
      · cases h
  · obtain ⟨d₁, -, h⟩ := Traced.bind_eq_ok.1 h
    obtain ⟨f, -, hf, -⟩ := filterBy_eq_ok_iff.1 h
    exact Expression.not_converts_of_lambdaFormula hf

/-! ### Steps -/

/-- No constant and no parameter in the bodies of a step stands right below a conversion. -/
def StepUnobstructed (step : String × List Expression) : Prop :=
  ∀ b ∈ stepBodies step, b.Unobstructed

theorem applyStep_plainStep (h : StepUnobstructed step) :
    (d.applyStep scope (plainStep step)).result = .ok d' ↔
      (d.applyStep scope step).result = .ok d' := by
  obtain ⟨method, args⟩ := step
  cases hmake : Operator.ofBody? method with
  | none =>
    have hplain : plainStep (method, args) = (method, args) := by
      simp [plainStep, Expression.plainArgs, hmake]
    rw [hplain]
  | some make =>
    have hplain : plainStep (method, args) = (method, args.map Expression.plainLambda) := by
      simp [plainStep, Expression.plainArgs, hmake]
    rw [hplain, applyStep_eq_ok_iff, applyStep_eq_ok_iff]
    match args with
    | [] => rfl
    | [e] =>
      have hbody : ∀ b ∈ e.body?, b.Unobstructed := fun b hb =>
        h b ((Expression.mem_stepBodies hmake).2 ⟨e, List.mem_singleton_self e, hb⟩)
      have hcall := Operator.ofUnaryCall_of_ofBody? hmake
      simp only [List.map_cons, List.map_nil, Operator.ofCall, hcall, Except.ok.injEq,
        exists_eq_left', apply_plainLambda hmake hbody]
    | e :: e' :: rest => simp [Operator.ofCall_ne_ok]

theorem not_converts_of_applyStep (h : (d.applyStep scope step).result = .ok d') :
    ∀ b ∈ stepBodies step, b.converts isAnyParameter = false := by
  obtain ⟨method, args⟩ := step
  obtain ⟨op, hop, h⟩ := applyStep_eq_ok_iff.1 h
  cases hmake : Operator.ofBody? method with
  | none => simp [stepBodies, hmake]
  | some make =>
    match args with
    | [] => simp [stepBodies]
    | [e] =>
      obtain rfl : make e = op :=
        Except.ok.inj ((Operator.ofUnaryCall_of_ofBody? hmake e).symm.trans hop)
      have hbody := not_converts_of_apply hmake h
      intro b hb
      obtain ⟨e', he', hb⟩ := (Expression.mem_stepBodies hmake).1 hb
      rw [List.mem_singleton.1 he'] at hb
      exact hbody b hb
    | e :: e' :: rest => exact absurd hop (Operator.ofCall_ne_ok _ _ _ _ _)

theorem applySteps_plain (h : ∀ step ∈ steps, StepUnobstructed step) :
    (d.applySteps scope (steps.map plainStep)).result = .ok d' ↔
      (d.applySteps scope steps).result = .ok d' := by
  induction steps generalizing d with
  | nil => rfl
  | cons step rest ih =>
    rw [List.forall_mem_cons] at h
    simp only [List.map_cons, applySteps_cons, applyStep_plainStep h.1, ih h.2]

theorem not_converts_of_applySteps (h : (d.applySteps scope steps).result = .ok d') :
    ∀ b ∈ steps.flatMap stepBodies, b.converts isAnyParameter = false := by
  induction steps generalizing d with
  | nil => simp
  | cons step rest ih =>
    obtain ⟨d₁, hstep, hrest⟩ := applySteps_cons.1 h
    rw [List.flatMap_cons]
    exact List.forall_mem_append.2 ⟨not_converts_of_applyStep hstep, ih hrest⟩

theorem ofChain_plain {chain : Chain} {type : DocumentType}
    (h : ∀ step ∈ chain.steps, StepUnobstructed step) :
    (ofChain scope ⟨chain.steps.map plainStep, chain.root⟩).result = .ok (d, type) ↔
      (ofChain scope chain).result = .ok (d, type) := by
  simp only [ofChain, Traced.bind_eq_ok, applySteps_plain h]

theorem not_converts_of_ofChain {chain : Chain} {type : DocumentType}
    (h : (ofChain scope chain).result = .ok (d, type)) :
    ∀ b ∈ chain.steps.flatMap stepBodies, b.converts isAnyParameter = false := by
  obtain ⟨d₁, hsteps, -⟩ := Traced.bind_eq_ok.1 h
  exact not_converts_of_applySteps hsteps

end Draft

/-! ### Plans -/

namespace Expression

variable {m : FieldMapping} {pathPrefix : String} {e e' query query' : Expression} {t : QueryPlan}

theorem stepUnobstructed_of_bodies (h : ∀ b ∈ e.bodies, b.Unobstructed) :
    ∀ step ∈ e.chain.steps, Draft.StepUnobstructed step :=
  fun step hstep b hb => h b (List.mem_flatMap.2 ⟨step, hstep, hb⟩)

theorem bodies_of_groupSelection? {size : Option Nat} {q : AggregateQuery}
    (h : e.groupSelection? size = some q) : e.bodies = q.source.bodies := by
  unfold groupSelection? at h
  split at h <;> cases h
  rfl

/-- The predicates and sort keys of an aggregate query are those below its grouping. -/
theorem bodies_of_aggregateQuery? {q : AggregateQuery} (h : e.aggregateQuery? = some q) :
    e.bodies = q.source.bodies := by
  unfold aggregateQuery? at h
  split at h
  · rename_i inner size hlimited
    unfold limitedSelection? at hlimited
    split at hlimited
    · obtain ⟨count, -, heq⟩ := Option.map_eq_some_iff.1 hlimited
      cases heq
      have hselection := bodies_of_groupSelection? h
      exact hselection
    · cases hlimited
  · exact bodies_of_groupSelection? h

theorem planFolded_plainBodies (h : ∀ b ∈ e.bodies, b.Unobstructed) :
    (e.plainBodies.planFolded m pathPrefix).result = .ok t ↔
      (e.planFolded m pathPrefix).result = .ok t := by
  unfold planFolded
  rw [chainSource?_plainBodies, aggregateQuery?_plainBodies]
  cases hquery : e.aggregateQuery? with
  | none =>
    simp only [Option.map_none, planChain, chain_plainBodies, Traced.bind_eq_ok, Prod.exists,
      Draft.ofChain_plain (stepUnobstructed_of_bodies h)]
  | some q =>
    rw [bodies_of_aggregateQuery? hquery] at h
    simp only [Option.map_some, planAggregate, chain_plainBodies, Traced.bind_eq_ok, Prod.exists,
      Draft.ofChain_plain (stepUnobstructed_of_bodies h)]
    rfl

theorem not_converts_of_planFolded (h : (e.planFolded m pathPrefix).result = .ok t) :
    ∀ b ∈ e.bodies, b.converts isAnyParameter = false := by
  unfold planFolded at h
  split at h
  · rename_i q hquery
    obtain ⟨aggregation, -, h⟩ := Traced.bind_eq_ok.1 h
    obtain ⟨⟨d, type⟩, hchain, -⟩ := Traced.bind_eq_ok.1 h
    rw [bodies_of_aggregateQuery? hquery]
    exact Draft.not_converts_of_ofChain hchain
  · obtain ⟨⟨d, type⟩, hchain, -⟩ := Traced.bind_eq_ok.1 h
    exact Draft.not_converts_of_ofChain hchain

theorem forall_mem_iff_of_foldsTo {P Q : Expression → Prop} {es es' : List Expression}
    (hes : List.Forall₂ FoldsTo es es') (h : ∀ e e', FoldsTo e e' → (Q e' ↔ P e)) :
    (∀ e ∈ es', Q e) ↔ ∀ e ∈ es, P e := by
  induction hes with
  | nil => simp
  | cons he _ ih =>
    rw [List.forall_mem_cons, List.forall_mem_cons]
    exact and_congr (h _ _ he) ih

theorem converts_of_bodies_fold (h : e.fold = .ok e') :
    (∀ b ∈ e'.bodies, b.converts isAnyParameter = false) ↔
      ∀ b ∈ e.bodies, b.converts isAnyParameter = false :=
  forall_mem_iff_of_foldsTo (bodies_fold h) fun b b' hb => by rw [converts_parameter_fold hb]

/-- Folding leaves no converted constants in the bodies. -/
theorem unobstructed_of_bodies_fold (h : e.fold = .ok e') :
    (∀ b ∈ e'.bodies, b.Unobstructed) ↔ ∀ b ∈ e.bodies, b.converts isAnyParameter = false := by
  refine forall_mem_iff_of_foldsTo (bodies_fold h) fun b b' hb => ?_
  rw [← converts_parameter_fold hb]
  exact ⟨fun h => h.parameter, fun h => ⟨not_converts_constant_of_fold hb, h⟩⟩

/-- A query is planned if it is without conversions and no parameter is converted. -/
theorem plan_iff_plainBodies :
    (query.plan m pathPrefix).result = .ok t ↔
      (query.plainBodies.plan m pathPrefix).result = .ok t ∧
        ∀ b ∈ query.bodies, b.converts isAnyParameter = false := by
  simp only [plan_eq_ok_iff, fold_plainBodies, map_eq_ok]
  constructor
  · rintro ⟨folded, hfold, h⟩
    have hparameters : ∀ b ∈ query.bodies, b.converts isAnyParameter = false :=
      (converts_of_bodies_fold hfold).1 (not_converts_of_planFolded h)
    have hbodies := (unobstructed_of_bodies_fold hfold).2 hparameters
    exact ⟨⟨_, ⟨folded, hfold, rfl⟩, (planFolded_plainBodies hbodies).2 h⟩, hparameters⟩
  · rintro ⟨⟨_, ⟨folded, hfold, rfl⟩, h⟩, hparameters⟩
    have hbodies := (unobstructed_of_bodies_fold hfold).2 hparameters
    exact ⟨folded, hfold, (planFolded_plainBodies hbodies).1 h⟩

/-- **Conversions are transparent**, but for those of a parameter. Let two queries differ only in
conversions inside of predicates and sort keys. If one can be planned, the other has the same plan
and no other, provided that it applies no conversion to a parameter itself; if it does, it has no
plan. -/
theorem plan_conversions (hplan : (query.plan m pathPrefix).result = .ok t)
    (hsame : query'.plainBodies = query.plainBodies) (t' : QueryPlan) :
    (query'.plan m pathPrefix).result = .ok t' ↔
      t' = t ∧ ∀ b ∈ query'.bodies, b.converts isAnyParameter = false := by
  have hplain := (plan_iff_plainBodies.1 hplan).1
  rw [plan_iff_plainBodies, hsame, hplain, Except.ok.injEq, eq_comm]

end Expression

namespace Film

/-- The films `f` that satisfy a condition. -/
def satisfying (condition : Expression) : Expression :=
  (Expression.source documents).filterBy (.lambda "f" condition)

/-- Films from 1970, with conversions of both sides and of the comparison. -/
def madeIn1970Converted : Expression :=
  .convert (((Expression.parameter "f").member year).convert.equal
    (.convert (.constant (.int 1970))))

/-- The same with the film converted. -/
def convertedMadeIn1970 : Expression :=
  ((Expression.parameter "f").convert.member year).equal (.constant (.int 1970))

end Film

namespace Expression

theorem plan_conversions_film :
    ∃ t, ((Film.satisfying Film.madeIn1970).plan Film.mapping "").result = .ok t ∧
      (Film.satisfying Film.madeIn1970Converted).plainBodies =
        (Film.satisfying Film.madeIn1970).plainBodies ∧
      ((Film.satisfying Film.madeIn1970Converted).plan Film.mapping "").result = .ok t := by
  have hplans : ((Film.satisfying Film.madeIn1970).plan Film.mapping "").result.toOption.isSome =
      true := by decide
  obtain ⟨t, ht⟩ := Option.isSome_iff_exists.1 hplans
  have hsame : (Film.satisfying Film.madeIn1970Converted).plainBodies =
      (Film.satisfying Film.madeIn1970).plainBodies := rfl
  have hparameters : ∀ b ∈ (Film.satisfying Film.madeIn1970Converted).bodies,
      b.converts isAnyParameter = false := by decide
  exact ⟨t, toOption_eq_some.1 ht, hsame,
    (plan_conversions (toOption_eq_some.1 ht) hsame t).2 ⟨rfl, hparameters⟩⟩

/-- With the film itself converted, there is no plan. -/
theorem plan_converted_parameter :
    ∃ t, ((Film.satisfying Film.madeIn1970).plan Film.mapping "").result = .ok t ∧
      (Film.satisfying Film.convertedMadeIn1970).plainBodies =
        (Film.satisfying Film.madeIn1970).plainBodies ∧
      ∀ t', ((Film.satisfying Film.convertedMadeIn1970).plan Film.mapping "").result ≠ .ok t' := by
  have hplans : ((Film.satisfying Film.madeIn1970).plan Film.mapping "").result.toOption.isSome =
      true := by decide
  have hfails : ((Film.satisfying Film.convertedMadeIn1970).plan
      Film.mapping "").result.toOption.isSome = false := by decide
  obtain ⟨t, ht⟩ := Option.isSome_iff_exists.1 hplans
  refine ⟨t, toOption_eq_some.1 ht, rfl, fun t' ht' => ?_⟩
  rw [ht'] at hfails
  cases hfails

end Expression

end SearchQuery
