import SearchQuery.Proofs.Criteria.Nulls
import SearchQuery.Proofs.Plan.Conservation

/-!
# Null in predicates

Comparing a field with null asks whether it is missing or there, and so does looking it up in a list
of constants with null in it. The relational operators, `contains` on a sequence, and
`contains_any`, `contains_all` and `any` with values pass null on as they do other constants.

* `Expression.comparesNull`: whether a predicate does the latter somewhere.
* `formula_hasNull`: so, and only so, null gets into the leaves of its formula.
* `Chain.predicates`: the predicates of the operators of a chain.
* `Draft.ofChain_hasNull`: null gets into the query or the filter only through them.
-/

namespace SearchQuery

open Criteria (hasNull_of_isLeaf not_hasNull_of_isLeaf)

namespace Expression

/-! ### Predicates that pass null on -/

def isNull (e : Expression) : Bool := e.constant?.any Json.isNull

/-- Whether the values that a constant stands for have null among them. -/
def includesNull (e : Expression) : Bool :=
  e.constant?.any fun v => (v.items?.getD [v]).any Json.isNull

def callComparesNull : String → List Expression → Bool
  | "contains", [_, item] => item.isNull
  | "contains_any", [receiver, values] | "contains_all", [receiver, values]
  | "any", [receiver, values] => receiver.includesNull || values.includesNull
  | _, _ => false

/-- Whether a predicate compares a field with null as if it were a value. -/
def comparesNull : Expression → Bool
  | .lambda _ body => comparesNull body
  | .binary .andAlso left right | .binary .orElse left right =>
    comparesNull left || comparesNull right
  | .binary op left right => op.isRelational && (left.isNull || right.isNull)
  | .unary .convert operand | .unary .not operand => comparesNull operand
  | .call method args => callComparesNull method args
  | _ => false

section Leaves

variable {m : FieldMapping} {pathPrefix : String} {left right receiver item values : Expression}
  {c : Criteria} {x : String × Member}

theorem constant?_of_field? {e : Expression} (h : e.field? m pathPrefix = some x) :
    e.constant? = none :=
  field?_induct (motive := fun e => e.constant? = none) (fun _ => rfl) (fun _ _ => rfl)
    (fun _ _ => rfl) h

theorem comparesNull_of_field? {e : Expression} (h : e.field? m pathPrefix = some x) :
    e.comparesNull = false :=
  field?_induct (motive := fun e => e.comparesNull = false) (fun _ => rfl) (fun _ _ => rfl)
    (fun _ ih => ih) h

/-- One side of a comparison is a constant. -/
theorem any_constant?_of_fieldConstant? {y : FieldConstant} (f : Json → Bool)
    (h : fieldConstant? m pathPrefix left right = some y) :
    (left.constant?.any f || right.constant?.any f) = f y.value := by
  unfold fieldConstant? at h
  split at h
  · rename_i hfield hconstant
    cases h
    rw [constant?_of_field? hfield, hconstant]
    rfl
  · split at h
    · rename_i hfield hconstant
      cases h
      rw [constant?_of_field? hfield, hconstant, Option.any_none, Bool.or_false]
      rfl
    · cases h

/-! ### The criteria of leaves -/

/-- Equality with null asks whether the field is missing. -/
theorem equalCriteria_not_hasNull (h : equalCriteria m pathPrefix left right = .ok c) :
    ¬c.content.HasNull := by
  unfold equalCriteria at h
  split at h
  · cases h
    split_ifs with hnull
    · exact not_hasNull_of_isLeaf rfl rfl
    · exact not_hasNull_of_isLeaf rfl (Bool.eq_false_iff.2 hnull)
  · cases h

theorem notEqualCriteria_not_hasNull (h : notEqualCriteria m pathPrefix left right = .ok c) :
    ¬c.content.HasNull := by
  unfold notEqualCriteria at h
  split at h
  · cases h
    split_ifs with hnull
    · exact not_hasNull_of_isLeaf rfl rfl
    · rw [Criteria.content]
      exact not_hasNull_of_isLeaf rfl (Bool.eq_false_iff.2 hnull)
  · cases h

/-- A bound takes any constant. -/
theorem rangeCriteria_hasNull {op : BinaryOperator}
    (h : rangeCriteria m pathPrefix op left right = .ok c) :
    c.content.HasNull ↔ (left.isNull || right.isNull) = true := by
  unfold rangeCriteria at h
  split at h
  · rename_i y hy
    cases h
    rw [isNull, isNull, any_constant?_of_fieldConstant? _ hy, Criteria.bound, hasNull_of_isLeaf rfl]
    simp [Criteria.testsNull]
  · cases h

theorem membership_hasNull (field : String) (last : Member) (vs : List Json)
    (execution : Option TermsExecution) :
    (Criteria.membership field last vs execution).content.HasNull ↔ vs.any Json.isNull = true := by
  rw [hasNull_of_isLeaf (Criteria.membership_tests field last vs execution).isLeaf,
    Criteria.testsNull_membership]

/-- A set of values takes any constants. -/
theorem termsCriteria_hasNull {method : String} {execution : TermsExecution}
    (h : termsCriteria m pathPrefix method execution receiver values = .ok c) :
    c.content.HasNull ↔ (receiver.includesNull || values.includesNull) = true := by
  unfold termsCriteria at h
  split at h
  · rename_i y hy
    cases h
    rw [includesNull, includesNull, any_constant?_of_fieldConstant? _ hy, membership_hasNull]
  · cases h

/-- In a list of constants, null asks whether the field is missing. -/
theorem memberOfConstants_not_hasNull {field : String} {last : Member} {vs : List Json}
    (h : memberOfConstants field last vs = .ok c) : ¬c.content.HasNull := by
  unfold memberOfConstants at h
  dsimp only at h
  split at h
  · rename_i d hd
    cases h
    have hcontent : c.content = _ :=
      (congrArg Criteria.contentOfOption hd.symm).trans (Criteria.contentOfOption_orAll _)
    rw [hcontent, Criteria.hasNull_contentOfAll]
    rintro ⟨d, hd, hnull⟩
    rcases List.mem_append.1 hd with hd | hd
    · split_ifs at hd
      · cases hd
      · rw [List.mem_singleton.1 hd, membership_hasNull] at hnull
        simp at hnull
    · split_ifs at hd
      · rw [List.mem_singleton.1 hd] at hnull
        exact not_hasNull_of_isLeaf rfl rfl hnull
      · cases hd
  · cases h

theorem containsConstant_hasNull (h : containsConstant m pathPrefix receiver item = .ok c) :
    c.content.HasNull ↔ item.isNull = true := by
  unfold containsConstant at h
  split at h
  · cases h
  · split at h
    · cases h
    · rename_i v hv
      rw [isNull, hv]
      split_ifs at h
      · cases h
        rw [membership_hasNull]
        simp
      · split at h
        · cases h
          exact iff_of_false (not_hasNull_of_isLeaf rfl rfl) Bool.false_ne_true
        · cases h

theorem containsCriteria_hasNull (h : containsCriteria m pathPrefix receiver item = .ok c) :
    c.content.HasNull ↔ item.isNull = true := by
  unfold containsCriteria at h
  split at h
  · rename_i hfield
    refine iff_of_false (memberOfConstants_not_hasNull h) ?_
    rw [isNull, constant?_of_field? hfield]
    exact Bool.false_ne_true
  · exact containsConstant_hasNull h

theorem callCriteria_hasNull {method : String} {args : List Expression}
    (h : callCriteria m pathPrefix method args = .ok c) :
    c.content.HasNull ↔ callComparesNull method args = true := by
  unfold callCriteria at h
  split at h
  · exact containsCriteria_hasNull h
  · exact iff_of_false (equalCriteria_not_hasNull h) Bool.false_ne_true
  · exact termsCriteria_hasNull h
  · exact termsCriteria_hasNull h
  · obtain ⟨p, -, rfl⟩ := map_eq_ok.1 h
    exact iff_of_false (not_hasNull_of_isLeaf rfl rfl) Bool.false_ne_true
  · obtain ⟨p, -, rfl⟩ := map_eq_ok.1 h
    exact iff_of_false (not_hasNull_of_isLeaf rfl rfl) Bool.false_ne_true
  · split at h
    · cases h
      exact iff_of_false (not_hasNull_of_isLeaf rfl rfl) Bool.false_ne_true
    · cases h
  · exact termsCriteria_hasNull h
  · cases h

theorem comparisonCriteria_hasNull {op : BinaryOperator}
    (h : comparisonCriteria m pathPrefix op left right = .ok c) :
    c.content.HasNull ↔ (binary op left right).comparesNull = true := by
  cases op with
  | equal => exact iff_of_false (equalCriteria_not_hasNull h) Bool.false_ne_true
  | notEqual => exact iff_of_false (notEqualCriteria_not_hasNull h) Bool.false_ne_true
  | lessThan | lessThanOrEqual | greaterThan | greaterThanOrEqual => exact rangeCriteria_hasNull h
  | andAlso | orElse | add | subtract | multiply | divide | modulo => cases h

theorem leafCriteria_hasNull {e : Expression} (h : e.leafCriteria m pathPrefix = .ok c) :
    c.content.HasNull ↔ e.comparesNull = true := by
  unfold leafCriteria at h
  split at h
  · cases h
    exact iff_of_false Content.not_hasNull_zero Bool.false_ne_true
  · cases h
    exact iff_of_false Content.not_hasNull_zero Bool.false_ne_true
  · exact comparisonCriteria_hasNull h
  · split at h
    · cases h
      exact iff_of_false (not_hasNull_of_isLeaf rfl rfl) Bool.false_ne_true
    · cases h
  · exact callCriteria_hasNull h
  · cases h

end Leaves

/-! ### Formulas -/

variable {m : FieldMapping} {pathPrefix : String} {f : Formula}

/-- Null gets into a formula exactly where the predicate passes it on. -/
theorem formula_hasNull {e : Expression} (h : e.formula m pathPrefix = .ok f) :
    f.content.HasNull ↔ e.comparesNull = true := by
  induction e using formula.induct m pathPrefix generalizing f with
  | case1 left right ihl ihr | case2 left right ihl ihr =>
    rw [formula] at h
    simp only [bind_eq_ok, pure_eq_ok] at h
    obtain ⟨l, hl, r, hr, rfl⟩ := h
    rw [Formula.content, Formula.atoms, Criteria.contentOfAll_append, Content.hasNull_add,
      comparesNull, Bool.or_eq_true, ← ihl hl, ← ihr hr]
    rfl
  | case3 operand ih =>
    rw [formula] at h
    exact ih h
  | case4 operand field last hfield =>
    rw [formula, hfield] at h
    cases h
    have hoperand : operand.comparesNull = false :=
      comparesNull_of_field? (Option.filter_eq_some_iff.1 hfield).1
    rw [Formula.content, Formula.atoms, Criteria.contentOfAll_singleton, comparesNull, hoperand]
    exact iff_of_false (not_hasNull_of_isLeaf rfl rfl) Bool.false_ne_true
  | case5 operand hfield ih =>
    rw [formula, hfield] at h
    simp only [bind_eq_ok, pure_eq_ok] at h
    obtain ⟨inner, hinner, rfl⟩ := h
    have hoperand := ih hinner
    exact hoperand
  | case6 e hand hor hconvert hnot =>
    rw [formula] at h
    · simp only [bind_eq_ok, pure_eq_ok] at h
      obtain ⟨c, hc, rfl⟩ := h
      rw [Formula.content, Formula.atoms, Criteria.contentOfAll_singleton, leafCriteria_hasNull hc]
    all_goals assumption

theorem lambdaFormula_hasNull {predicate : Expression}
    (h : predicate.lambdaFormula m pathPrefix = .ok f) :
    f.content.HasNull ↔ predicate.comparesNull = true := by
  cases predicate with
  | lambda x body =>
    have hbody : body.formula m pathPrefix = .ok f := h
    have hnull := formula_hasNull hbody
    exact hnull
  | constant | source | parameter | member | hitField | binary | unary | call | construct => cases h

/-- Nothing is lost where nothing is lifted. -/
theorem lowerLambda_hasNull {predicate : Expression} {low : Lowered}
    (h : (predicate.lowerLambda m pathPrefix none).result = .ok low) (hquery : low.query = none) :
    low.criteria.content.HasNull ↔ predicate.comparesNull = true := by
  obtain ⟨f, s, hf, hs, rfl⟩ := lowerLambda_eq_ok_iff.1 h
  have hlifted : Criteria.contentOfAll (s.lifted.map (·.2)) = 0 := by
    have hall := Placement.contentOfOption_liftAll none s.lifted
    rw [show liftAll none s.lifted = none from hquery] at hall
    simpa [Criteria.contentOfOption] using hall.symm
  rw [← lambdaFormula_hasNull hf, ← (Formula.split_keeps hs).hasNull_iff, Split.content, hlifted,
    zero_add]
  rfl

end Expression

/-! ### Predicates of a chain -/

/-- The predicate of an operator, if it has one. -/
def Operator.predicate? : Operator → Option Expression
  | .filterBy predicate | .scoreBy predicate | .terminal _ _ (some predicate) => some predicate
  | .matchText _ | .sortBy .. | .sortByScore _ | .select _ | .skip _ | .take _
  | .terminal _ _ none | .retype => none

def stepPredicate? (step : String × List Expression) : Option Expression :=
  (Operator.ofCall step.1 step.2).toOption.bind Operator.predicate?

/-- The predicates of the operators of a chain, outermost first. -/
def Chain.predicates (chain : Chain) : List Expression := chain.steps.filterMap stepPredicate?

section Chains

variable {m : FieldMapping} {pathPrefix : String} {rs : List Requirement}

theorem Operator.requirements_hasNull {op : Operator}
    (h : op.requirements m pathPrefix = .ok rs) :
    (∃ r ∈ rs, r.formula.content.HasNull) ↔ ∃ p ∈ op.predicate?, p.comparesNull = true := by
  have hone : ∀ {scores : Bool} {predicate : Expression},
      (predicate.lambdaFormula m pathPrefix).map (fun f => [Requirement.mk scores f]) = .ok rs →
        ((∃ r ∈ rs, r.formula.content.HasNull) ↔ predicate.comparesNull = true) := by
    intro scores predicate h
    obtain ⟨f, hf, rfl⟩ := map_eq_ok.1 h
    simpa using Expression.lambdaFormula_hasNull hf
  cases op with
  | filterBy predicate | scoreBy predicate => simpa [predicate?] using hone h
  | terminal method t predicate =>
    cases predicate with
    | none =>
      cases h
      simp [predicate?]
    | some predicate => simpa [predicate?] using hone h
  | matchText text =>
    cases h
    have htext : ¬(Criteria.text text).content.HasNull := not_hasNull_of_isLeaf rfl rfl
    simpa [predicate?, Formula.content, Formula.atoms] using htext
  | sortBy | sortByScore | select | skip | take | retype =>
    cases h
    simp [predicate?]

theorem stepsRequirements_hasNull {steps : List (String × List Expression)}
    (h : stepsRequirements m pathPrefix steps = .ok rs) :
    (∃ r ∈ rs, r.formula.content.HasNull) ↔
      ∃ p ∈ steps.filterMap stepPredicate?, p.comparesNull = true := by
  induction steps generalizing rs with
  | nil =>
    cases h
    simp
  | cons step rest ih =>
    simp only [stepsRequirements, bind_eq_ok, pure_eq_ok] at h
    obtain ⟨op, hop, here, hhere, below, hbelow, rfl⟩ := h
    have hstep : stepPredicate? step = op.predicate? := by
      rw [stepPredicate?, mapError_eq_ok.1 hop]
      rfl
    simp only [List.mem_append, or_and_right, exists_or]
    rw [Operator.requirements_hasNull hhere, ih hbelow, List.filterMap_cons, hstep]
    cases op.predicate? <;> simp

theorem Draft.ofChain_hasNull {scope : Scope} {chain : Chain} {d : Draft} {type : DocumentType}
    (h : (ofChain scope chain).result = .ok (d, type)) :
    d.placement.content.HasNull ↔ ∃ p ∈ chain.predicates, p.comparesNull = true := by
  obtain ⟨-, rs, hrs, hplaced⟩ := ofChain_placement h
  rw [(Placement.foldlM_keeps hplaced).hasNull_iff, Content.hasNull_sum]
  simp only [List.mem_map, exists_exists_and_eq_and]
  exact stepsRequirements_hasNull hrs

end Chains

end SearchQuery
