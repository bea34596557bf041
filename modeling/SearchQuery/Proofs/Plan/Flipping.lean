import SearchQuery.Proofs.Expression.Flipping
import SearchQuery.Proofs.Plan.Renaming

/-!
# Plans and flipped comparisons

A comparison in a predicate is read from either side: the field may stand on the left of it or on
the right. Flipping comparisons makes no difference to the plan: what planning gives stays the same,
or the kind of its error does (`upToKind`).

* `upToKind_comparisonCriteria_flipped`, `upToKind_lower_flipped`: a comparison becomes the same
  criteria, so a predicate is lowered alike.
* `Selection.upToKind_bind_flipped`, `Grouping.upToKind_bind_flipped`: where predicates stand in a
  projection, hits cannot be projected at all, and groups are counted by them.
* `Operator.Flipped`, `Draft.stepAlike_flipped`: the operators of a chain do the same.
* `plan_flipped`: so a query has the same plan.
-/

namespace SearchQuery

open Expression

variable {m : FieldMapping} {pathPrefix : String} {place : Place}
  {e e' left left' right right' : Expression} {args args' : List Expression}
  {members members' : List (String × Expression)}

/-! ### Predicates -/

namespace Expression

/-- A field stands on one side only, so the two sides may change places. -/
theorem fieldConstant?_comm (left right : Expression) :
    fieldConstant? m pathPrefix right left =
      (fieldConstant? m pathPrefix left right).map fun c =>
        { c with constantOnLeft := !c.constantOnLeft } := by
  have hconstant : ∀ {e : Expression} {x : String × Member}, e.field? m pathPrefix = some x →
      e.constant? = none := fun h => (isFolded_of_field? h).not_constant
  unfold fieldConstant?
  cases hl : left.field? m pathPrefix with
  | none =>
    cases hr : right.field? m pathPrefix with
    | none => rfl
    | some field => cases left.constant? <;> rfl
  | some field =>
    rw [hconstant hl]
    cases hr : right.field? m pathPrefix with
    | none => cases right.constant? <;> rfl
    | some field' =>
      rw [hconstant hr]
      rfl

/-- A comparison that is flipped becomes the same criteria. -/
theorem upToKind_comparisonCriteria_flipped {op : BinaryOperator} (hop : op.isComparison = true)
    (left right : Expression) :
    upToKind (comparisonCriteria m pathPrefix op.flipped right left) =
      upToKind (comparisonCriteria m pathPrefix op left right) := by
  have hrange : upToKind (rangeCriteria m pathPrefix op.flipped right left) =
      upToKind (rangeCriteria m pathPrefix op left right) := by
    unfold rangeCriteria
    rw [fieldConstant?_comm left right]
    cases fieldConstant? m pathPrefix left right with
    | none => rfl
    | some c => cases hside : c.constantOnLeft <;> simp [hside, BinaryOperator.flipped_flipped]
  cases op with
  | equal =>
    show upToKind (equalCriteria m pathPrefix right left) = upToKind (equalCriteria _ _ _ _)
    unfold equalCriteria
    rw [fieldConstant?_comm left right]
    cases fieldConstant? m pathPrefix left right <;> rfl
  | notEqual =>
    show upToKind (notEqualCriteria m pathPrefix right left) = upToKind (notEqualCriteria _ _ _ _)
    unfold notEqualCriteria
    rw [fieldConstant?_comm left right]
    cases fieldConstant? m pathPrefix left right <;> rfl
  | lessThan | lessThanOrEqual | greaterThan | greaterThanOrEqual => exact hrange
  | _ => cases hop

theorem upToKind_leafCriteria_flipped (h : Flipped place e e') :
    upToKind (e'.leafCriteria m pathPrefix) = upToKind (e.leafCriteria m pathPrefix) := by
  cases h with
  | member last htarget =>
    rw [leafCriteria, leafCriteria, booleanField?_flipped (.member last htarget)]
    cases booleanField? m pathPrefix (member _ last) <;> rfl
  | binary op hleft hright =>
    exact upToKind_comparisonCriteria (seenAlike_of_sameHead sameHead_flipped hleft)
      (seenAlike_of_sameHead sameHead_flipped hright) op
  | comparison hop hleft hright =>
    rw [leafCriteria, leafCriteria, ← upToKind_comparisonCriteria_flipped hop]
    exact upToKind_comparisonCriteria (seenAlike_of_sameHead sameHead_flipped hright)
      (seenAlike_of_sameHead sameHead_flipped hleft) _
  | call method hargs =>
    exact upToKind_callCriteria
      ((forall₂_flippedArgs hargs).imp fun _ _ => seenAlike_of_sameHead sameHead_flipped)
  | satisfying x hmethod hsource hbody =>
    exact upToKind_callCriteria
      (.cons (seenAlike_of_sameHead sameHead_flipped hsource) (.cons ⟨rfl, rfl⟩ .nil))
  | _ => rfl

theorem upToKind_lower_flipped {query : Option Criteria} (h : Flipped place e e') :
    upToKind (e'.lower m pathPrefix query).result =
      upToKind (e.lower m pathPrefix query).result :=
  upToKind_lower_of_sameHead sameHead_flipped (fun _ _ => upToKind_leafCriteria_flipped) h

theorem upToKind_lowerLambda_flipped {query : Option Criteria} (h : Flipped place e e') :
    upToKind (e'.lowerLambda m pathPrefix query).result =
      upToKind (e.lowerLambda m pathPrefix query).result := by
  rw [lowerLambda, lowerLambda]
  rcases lambda?_flipped h with ⟨hnone, hnone'⟩ | ⟨x, body, body', rfl, rfl, hbody⟩
  · rw [hnone, hnone']
    rfl
  · exact upToKind_lower_flipped hbody

end Expression

/-! ### Selections -/

namespace Expression

mutual

/-- The operands of a comparison use the document in whatever order they stand. -/
theorem usesDocument_flipped {place : Place} {e e' : Expression} (x : String)
    (h : Flipped place e e') : e'.usesDocument x = e.usesDocument x := by
  cases h with
  | member m htarget =>
    rcases (sameHead_flipped _ _ htarget).both_parameters with ⟨y, y', rfl, rfl⟩ | ⟨hne, hne'⟩
    · rfl
    · rw [usesDocument_member hne, usesDocument_member hne', usesDocument_flipped x htarget]
  | binary op hleft hright =>
    rw [usesDocument, usesDocument, usesDocument_flipped x hleft, usesDocument_flipped x hright]
  | comparison hop hleft hright =>
    rw [usesDocument, usesDocument, usesDocument_flipped x hleft, usesDocument_flipped x hright,
      Bool.or_comm]
  | unary op h =>
    rw [usesDocument, usesDocument]
    exact usesDocument_flipped x h
  | call method h =>
    rw [usesDocument, usesDocument]
    exact argsUseDocument_flipped x h
  | satisfying y hmethod hsource hbody =>
    simp only [usesDocument, argsUseDocument, usesDocument_flipped x hsource,
      usesDocument_flipped x hbody]
  | lambda y h =>
    rw [usesDocument, usesDocument]
    exact usesDocument_flipped x h
  | construct h =>
    rw [usesDocument, usesDocument]
    exact membersUseDocument_flipped x h
  | _ => rfl

theorem argsUseDocument_flipped {place : Place} {args args' : List Expression} (x : String)
    (h : FlippedArgs place args args') : argsUseDocument x args' = argsUseDocument x args := by
  cases h with
  | nil => rfl
  | cons h hrest =>
    rw [argsUseDocument, argsUseDocument, usesDocument_flipped x h,
      argsUseDocument_flipped x hrest]

theorem membersUseDocument_flipped {place : Place} {members members' : List (String × Expression)}
    (x : String) (h : FlippedMembers place members members') :
    membersUseDocument x members' = membersUseDocument x members := by
  cases h with
  | nil => rfl
  | cons name h hrest =>
    rw [membersUseDocument, membersUseDocument, usesDocument_flipped x h,
      membersUseDocument_flipped x hrest]

end

end Expression

namespace Selection

variable {s : Selection}

mutual

/-- A selection has no predicates: where one stands, it cannot be bound. -/
theorem upToKind_bind_flipped {e e' : Expression} {fields : List String}
    (h : Flipped .query e e') : upToKind (s.bind fields e') = upToKind (s.bind fields e) := by
  cases h with
  | member last htarget =>
    rw [bind, bind]
    show upToKind (if s.wholeDocument then _ else _) = _
    split_ifs
    · exact upToKind_bind_congr (upToKind_bind_flipped htarget) fun _ => rfl
    · unfold bindField
      rw [memberPath?_flipped (.member last htarget)]
      split <;> rfl
  | binary op hleft hright =>
    rw [bind, bind]
    refine upToKind_bind_congr (upToKind_bind_flipped hleft) fun l => ?_
    exact upToKind_bind_congr (upToKind_bind_flipped hright) fun _ => rfl
  | unary op h =>
    rw [bind, bind]
    exact upToKind_bind_congr (upToKind_bind_flipped h) fun _ => rfl
  | call method h =>
    rw [bind, bind]
    exact upToKind_bind_congr (upToKind_bindArgs_flipped h) fun _ => rfl
  | satisfying x hmethod hsource hbody =>
    rw [bind, bind, bindArgs, bindArgs]
    refine upToKind_bind_congr ?_ fun _ => rfl
    exact upToKind_bind_congr (upToKind_bind_flipped hsource) fun _ => rfl
  | construct h =>
    rw [bind, bind]
    exact upToKind_bind_congr (upToKind_bindMembers_flipped h) fun _ => rfl
  | _ => rfl

theorem upToKind_bindArgs_flipped {args args' : List Expression} {fields : List String}
    (h : FlippedArgs .query args args') :
    upToKind (s.bindArgs fields args') = upToKind (s.bindArgs fields args) := by
  cases h with
  | nil => rfl
  | cons h hrest =>
    rw [bindArgs, bindArgs]
    refine upToKind_bind_congr (upToKind_bind_flipped h) fun _ => ?_
    exact upToKind_bind_congr (upToKind_bindArgs_flipped hrest) fun _ => rfl

theorem upToKind_bindMembers_flipped {members members' : List (String × Expression)}
    {fields : List String} (h : FlippedMembers .query members members') :
    upToKind (s.bindMembers fields members') = upToKind (s.bindMembers fields members) := by
  cases h with
  | nil => rfl
  | cons name h hrest =>
    rw [bindMembers, bindMembers]
    refine upToKind_bind_congr (upToKind_bind_flipped h) fun _ => ?_
    exact upToKind_bind_congr (upToKind_bindMembers_flipped hrest) fun _ => rfl

end

end Selection

theorem Projection.upToKind_ofSelector_flipped {documentPrefix : Option String}
    (h : Flipped .query e e') :
    upToKind (ofSelector m pathPrefix documentPrefix e') =
      upToKind (ofSelector m pathPrefix documentPrefix e) := by
  rw [ofSelector, ofSelector]
  rcases lambda?_flipped h with ⟨hnone, hnone'⟩ | ⟨x, body, body', rfl, rfl, hbody⟩
  · rw [hnone, hnone']
    rfl
  · simp only [lambda?, Selection.ofLambda, usesDocument_flipped x hbody]
    exact upToKind_bind_congr (Selection.upToKind_bind_flipped hbody) fun _ => rfl

/-! ### Groups -/

namespace Grouping

variable {g : Grouping}

theorem isGroup_flipped (h : Flipped place e e') : g.isGroup e' = g.isGroup e := by
  cases h <;> rfl

theorem upToKind_bindCount_flipped {a : Aggregates} (h : Flipped place e e') :
    upToKind (g.bindCount a e').result = upToKind (g.bindCount a e).result := by
  refine Traced.upToKind_bind_congr (upToKind_lowerLambda_flipped h) fun lowered => ?_
  split_ifs <;> rfl

theorem upToKind_bindStatistic_flipped {a : Aggregates} {s : Statistic} (h : Flipped place e e') :
    upToKind (g.bindStatistic a s e') = upToKind (g.bindStatistic a s e) := by
  rw [bindStatistic, bindStatistic]
  rcases lambda?_flipped h with ⟨hnone, hnone'⟩ | ⟨x, body, body', rfl, rfl, hbody⟩
  · rw [hnone, hnone']
    rfl
  · simp only [lambda?, memberPath?_flipped hbody]
    cases body.memberPath? g.mapping g.pathPrefix <;> rfl

/-- The aggregates of a group count what satisfies a predicate, or read a field. -/
theorem upToKind_bindAggregate_flipped {a : Aggregates} {method : String}
    (h : FlippedArgs place args args') :
    upToKind (g.bindAggregate a method args').result =
      upToKind (g.bindAggregate a method args).result := by
  unfold bindAggregate
  cases Statistic.ofMethod? method with
  | none => rfl
  | some s =>
    obtain _ | ⟨he, _ | ⟨he', hrest⟩⟩ := h
    · cases s <;> rfl
    · cases s with
      | count => exact upToKind_bindCount_flipped he
      | _ => exact upToKind_bindStatistic_flipped he
    · cases s <;> rfl

mutual

theorem upToKind_bind_flipped {e e' : Expression} {a : Aggregates} (h : Flipped .query e e') :
    upToKind (g.bind a e').result = upToKind (g.bind a e).result := by
  cases h with
  | member last htarget =>
    rw [bind, bind, isGroup_flipped htarget]
    split_ifs <;> rfl
  | binary op hleft hright =>
    rw [bind, bind]
    refine Traced.upToKind_bind_congr (upToKind_bind_flipped hleft) fun l => ?_
    exact Traced.upToKind_bind_congr (upToKind_bind_flipped hright) fun _ => rfl
  | unary op h =>
    rw [bind, bind]
    exact Traced.upToKind_bind_congr (upToKind_bind_flipped h) fun _ => rfl
  | call method hargs =>
    cases hargs with
    | nil => rfl
    | cons h hrest =>
      rw [bind, bind, isGroup_flipped h]
      split_ifs
      · exact upToKind_bindAggregate_flipped hrest
      · refine Traced.upToKind_bind_congr (upToKind_bind_flipped h) fun x => ?_
        exact Traced.upToKind_bind_congr (upToKind_bindArgs_flipped hrest) fun _ => rfl
  | satisfying x hmethod hsource hbody =>
    rw [bind, bind, isGroup_flipped hsource]
    split_ifs
    · exact upToKind_bindAggregate_flipped (.cons (.lambda x hbody) .nil)
    · exact Traced.upToKind_bind_congr (upToKind_bind_flipped hsource) fun _ => rfl
  | construct h =>
    rw [bind, bind]
    exact Traced.upToKind_bind_congr (upToKind_bindMembers_flipped h) fun _ => rfl
  | _ => rfl

theorem upToKind_bindArgs_flipped {args args' : List Expression} {a : Aggregates}
    (h : FlippedArgs .query args args') :
    upToKind (g.bindArgs a args').result = upToKind (g.bindArgs a args).result := by
  cases h with
  | nil => rfl
  | cons h hrest =>
    rw [bindArgs, bindArgs]
    refine Traced.upToKind_bind_congr (upToKind_bind_flipped h) fun _ => ?_
    exact Traced.upToKind_bind_congr (upToKind_bindArgs_flipped hrest) fun _ => rfl

theorem upToKind_bindMembers_flipped {members members' : List (String × Expression)}
    {a : Aggregates} (h : FlippedMembers .query members members') :
    upToKind (g.bindMembers a members').result = upToKind (g.bindMembers a members).result := by
  cases h with
  | nil => rfl
  | cons name h hrest =>
    rw [bindMembers, bindMembers]
    refine Traced.upToKind_bind_congr (upToKind_bind_flipped h) fun _ => ?_
    exact Traced.upToKind_bind_congr (upToKind_bindMembers_flipped hrest) fun _ => rfl

end

end Grouping

theorem GroupKey.upToKind_ofSelector_flipped (h : Flipped place e e') :
    upToKind (ofSelector m pathPrefix e') = upToKind (ofSelector m pathPrefix e) := by
  rw [ofSelector, ofSelector]
  rcases lambda?_flipped h with ⟨hnone, hnone'⟩ | ⟨x, body, body', rfl, rfl, hbody⟩
  · rw [hnone, hnone']
    rfl
  · simp only [lambda?, memberPath?_flipped hbody, constant?_flipped hbody]
    cases body.constant? <;> cases body.memberPath? m pathPrefix <;> rfl

theorem AggregateQuery.upToKind_aggregation_flipped {q q' : AggregateQuery}
    (h : QueryFlipped q q') :
    upToKind (q'.aggregation m pathPrefix).result =
      upToKind (q.aggregation m pathPrefix).result := by
  rw [aggregation, aggregation]
  refine Traced.upToKind_bind_congr (GroupKey.upToKind_ofSelector_flipped h.keySelector)
    fun key => ?_
  rcases lambda?_flipped h.selector with ⟨hnone, hnone'⟩ | ⟨x, body, body', hx, hx', hbody⟩
  · rw [hnone, hnone']
    rfl
  · rw [hx, hx', h.size]
    exact Traced.upToKind_bind_congr (Grouping.upToKind_bind_flipped hbody) fun _ => rfl

/-! ### Operators -/

/-- Operators with flipped comparisons in their predicates, or within their arguments otherwise. -/
inductive Operator.Flipped : Operator → Operator → Prop
  | same (op : Operator) : Flipped op op
  | filterBy {place : Place} {e e' : Expression} (h : Expression.Flipped place e e') :
    Flipped (.filterBy e) (.filterBy e')
  | scoreBy {place : Place} {e e' : Expression} (h : Expression.Flipped place e e') :
    Flipped (.scoreBy e) (.scoreBy e')
  | sortBy {e e' : Expression} (ascending : Bool) (h : Expression.Flipped .query e e') :
    Flipped (.sortBy e ascending) (.sortBy e' ascending)
  | select {e e' : Expression} (h : Expression.Flipped .query e e') :
    Flipped (.select e) (.select e')
  | terminal {place : Place} {e e' : Expression} (method : String) (t : Terminal)
    (h : Expression.Flipped place e e') :
    Flipped (.terminal method t (some e)) (.terminal method t (some e'))

namespace Operator

theorem agree_countArgument_flipped {method : String} (make : Nat → Operator)
    (h : Expression.Flipped place e e') :
    Agree Flipped ((countArgument method e).map make) ((countArgument method e').map make) := by
  rw [countArgument, countArgument, constant?_flipped h]
  cases e.constant?.bind Json.nat64? with
  | none => exact .error _ _
  | some n => exact .ok (.same _)

theorem agree_ofUnaryCall_flipped {method : String} (h : Expression.Flipped .query e e') :
    Agree Flipped (ofUnaryCall method e) (ofUnaryCall method e') := by
  unfold ofUnaryCall
  split
  · exact .ok (.filterBy h)
  · exact .ok (.scoreBy h)
  · rw [constant?_flipped h]
    cases e.constant?.bind Json.text? with
    | none => exact .error _ _
    | some text => exact .ok (.same _)
  · exact .ok (.select h)
  · exact agree_countArgument_flipped .skip h
  · exact agree_countArgument_flipped .take h
  · exact .error _ _
  · cases sortDirection? method with
    | some ascending => exact .ok (.sortBy ascending h)
    | none =>
      cases terminal? method with
      | some t => exact .ok (.terminal method t h)
      | none => exact .error _ _

/-- A method that takes a predicate filters by it or scores by it. -/
theorem agree_ofUnaryCall_satisfying {method : String} (hmethod : method ∈ predicateMethods)
    (h : Expression.Flipped place e e') :
    Agree Flipped (ofUnaryCall method e) (ofUnaryCall method e') := by
  simp only [predicateMethods, List.mem_cons, List.not_mem_nil, or_false] at hmethod
  rcases hmethod with rfl | rfl | rfl | rfl | rfl | rfl | rfl | rfl
  · exact .ok (.filterBy h)
  · exact .ok (.scoreBy h)
  all_goals exact .ok (.terminal _ _ h)

theorem agree_ofCall_flipped {step step' : String × List Expression} (h : StepFlipped step step') :
    Agree Flipped (ofCall step.1 step.2) (ofCall step'.1 step'.2) := by
  cases h with
  | args method hargs =>
    obtain _ | ⟨he, _ | ⟨he', hrest⟩⟩ := hargs
    · exact Agree.refl Flipped.same _
    · exact agree_ofUnaryCall_flipped he
    · simp only [ofCall]
      split_ifs <;> exact .error _ _
  | satisfying x hmethod hbody => exact agree_ofUnaryCall_satisfying hmethod (.lambda x hbody)

end Operator

namespace Draft

variable {scope : Scope} {d : Draft}

theorem upToKind_filterBy_flipped (h : Expression.Flipped place e e') :
    upToKind (d.filterBy scope e').result = upToKind (d.filterBy scope e).result :=
  Traced.upToKind_bind_congr (upToKind_lowerLambda_flipped h) fun _ => rfl

theorem upToKind_scoreBy_flipped (h : Expression.Flipped place e e') :
    upToKind (d.scoreBy scope e').result = upToKind (d.scoreBy scope e).result :=
  Traced.upToKind_bind_congr (upToKind_lowerLambda_flipped h) fun _ => rfl

theorem upToKind_sortBy_flipped {ascending : Bool} (h : Expression.Flipped place e e') :
    upToKind (d.sortBy scope e' ascending) = upToKind (d.sortBy scope e ascending) := by
  rw [sortBy, sortBy]
  rcases lambda?_flipped h with ⟨hnone, hnone'⟩ | ⟨x, body, body', rfl, rfl, hbody⟩
  · rw [hnone, hnone']
    rfl
  · simp only [lambda?, field?_flipped hbody]
    cases body.field? scope.mapping scope.pathPrefix <;> rfl

theorem upToKind_select_flipped (h : Expression.Flipped .query e e') :
    upToKind (d.select scope e') = upToKind (d.select scope e) := by
  rw [select, select]
  split_ifs
  · rfl
  · exact upToKind_bind_congr (Projection.upToKind_ofSelector_flipped h) fun _ => rfl

theorem upToKind_apply_flipped {op op' : Operator} (h : op.Flipped op') :
    upToKind (d.apply scope op').result = upToKind (d.apply scope op).result := by
  cases h with
  | same => rfl
  | filterBy h => exact upToKind_filterBy_flipped h
  | scoreBy h => exact upToKind_scoreBy_flipped h
  | sortBy ascending h => exact upToKind_sortBy_flipped h
  | select h => exact upToKind_select_flipped h
  | terminal method t h =>
    rw [apply, apply]
    exact Traced.upToKind_bind_congr rfl fun d => upToKind_filterBy_flipped h

theorem stepAlike_flipped (step step' : String × List Expression) (h : StepFlipped step step') :
    StepAlike scope step step' := by
  intro d
  rw [applyStep, applyStep, Traced.result_bind, Traced.result_bind]
  symm
  exact (Operator.agree_ofCall_flipped h).upToKind_bind (fun _ _ => rfl)
    fun _ _ hop => (upToKind_apply_flipped hop).symm

theorem upToKind_ofChain_flipped (h : Flipped .query e e') :
    upToKind (ofChain scope e'.chain).result = upToKind (ofChain scope e.chain).result := by
  obtain ⟨hsteps, hroot⟩ := chain_flipped h
  exact upToKind_ofChain_congr (hsteps.imp stepAlike_flipped) (upToKind_documentType_renamed hroot)

end Draft

namespace Expression

theorem upToKind_planFolded_flipped (h : Flipped .query e e') :
    upToKind (e'.planFolded m pathPrefix).result = upToKind (e.planFolded m pathPrefix).result := by
  rw [planFolded, planFolded, chainSource?_flipped h]
  have hquery := aggregateQuery?_flipped h
  generalize e.aggregateQuery? = query at hquery ⊢
  generalize e'.aggregateQuery? = query' at hquery ⊢
  cases hquery with
  | none => exact Traced.upToKind_bind_congr (Draft.upToKind_ofChain_flipped h) fun _ => rfl
  | some hparts =>
    refine Traced.upToKind_bind_congr (AggregateQuery.upToKind_aggregation_flipped hparts)
      fun _ => ?_
    exact Traced.upToKind_bind_congr (Draft.upToKind_ofChain_flipped hparts.source) fun _ => rfl

/-- **Comparisons may be flipped.** Queries that differ in flipped comparisons of their predicates
have the same plan, or both cannot be planned for errors of one kind. -/
theorem plan_flipped (h : Flipped .query e e') :
    upToKind (e'.plan m pathPrefix).result = upToKind (e.plan m pathPrefix).result := by
  rw [plan, plan, Traced.result_finish, Traced.result_finish]
  refine Traced.upToKind_bind_congr rfl fun _ => ?_
  rw [Traced.result_bind, Traced.result_bind]
  symm
  exact (agree_fold_flipped h).upToKind_bind (fun _ _ => rfl)
    fun _ _ h => (upToKind_planFolded_flipped h).symm

end Expression

namespace Film

/-- A comparison, as it is written or flipped. -/
def compared (flip : Bool) (op : BinaryOperator) (left right : Expression) : Expression :=
  if flip then .binary op.flipped right left else .binary op left right

/-- How many of the films from after 1970 are from 1980 or later, by year. A comparison of two
constants stands beside the year. -/
def lateByYear (flip : Bool) : Expression :=
  (((Expression.source documents).filterBy (.lambda "f" (.andAlso
    (compared flip .greaterThan ((Expression.parameter "f").member year) (.constant (.int 1970)))
    (compared flip .lessThan (.constant (.int 1)) (.constant (.float (.ofInt 2))))))).groupBy
      (.lambda "f" ((Expression.parameter "f").member year))).select
        (.lambda "g" (.construct [("year", (Expression.parameter "g").key),
          ("late", (Expression.parameter "g").countWhere (.lambda "h"
            (compared flip .greaterThanOrEqual ((Expression.parameter "h").member year)
              (.constant (.int 1980)))))]))

theorem flipped_compared {op : BinaryOperator} (hop : op.isComparison = true)
    (left right : Expression) :
    Flipped .predicate (compared false op left right) (compared true op left right) :=
  .comparison hop (.refl left) (.refl right)

theorem flipped_lateByYear : Flipped .query (lateByYear false) (lateByYear true) := by
  have hcount : Flipped .query
      ((Expression.parameter "g").countWhere (.lambda "h" (compared false .greaterThanOrEqual
        ((Expression.parameter "h").member year) (.constant (.int 1980)))))
      ((Expression.parameter "g").countWhere (.lambda "h" (compared true .greaterThanOrEqual
        ((Expression.parameter "h").member year) (.constant (.int 1980))))) :=
    .satisfying "h" (by decide) (.refl _) (flipped_compared rfl _ _)
  refine .call "select" (.cons (.call "group_by" (.cons ?_ (.refl _))) (.cons ?_ .nil))
  · exact .satisfying "f" (by decide) (.refl _)
      (.binary .andAlso (flipped_compared rfl _ _) (flipped_compared rfl _ _))
  · exact .lambda "g" (.construct (.cons "year" (.refl _) (.cons "late" hcount .nil)))

end Film

namespace Expression

theorem plan_flipped_film :
    ∃ t, Flipped .query (Film.lateByYear false) (Film.lateByYear true) ∧
      ((Film.lateByYear false).plan Film.mapping "").result = .ok t ∧
      ((Film.lateByYear true).plan Film.mapping "").result = .ok t := by
  have hplans : ((Film.lateByYear false).plan Film.mapping "").result.toOption.isSome = true := by
    decide +kernel
  obtain ⟨t, ht⟩ := Option.isSome_iff_exists.1 hplans
  have hplan := toOption_eq_some.1 ht
  have hsame : upToKind ((Film.lateByYear true).plan Film.mapping "").result =
      upToKind ((Film.lateByYear false).plan Film.mapping "").result :=
    plan_flipped Film.flipped_lateByYear
  rw [hplan, upToKind_ok] at hsame
  exact ⟨t, Film.flipped_lateByYear, hplan, mapError_eq_ok.1 hsame⟩

end Expression

end SearchQuery
