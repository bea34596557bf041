import SearchQuery.Proofs.Expression.Heads
import SearchQuery.Proofs.Plan.Conversions

/-!
# Plans and the heads of expressions

Planning walks down an expression head by head. Where related expressions have the same heads, and
leaves that become the same criteria, what planning gives stays the same, or the kind of its error
does (`upToKind`).

* `upToKind_comparisonCriteria`, `upToKind_callCriteria`: leaves depend only on what they see.
* `upToKind_lower_of_sameHead`: a predicate is lowered alike.
* `StepAlike`, `Draft.upToKind_ofChain_congr`: chains of alike steps give the same draft.
-/

namespace SearchQuery

open Expression

variable {m : FieldMapping} {pathPrefix : String} {R : Expression → Expression → Prop}
  {e e' left left' right right' : Expression} {args args' : List Expression}

namespace Expression

/-! ### Leaves -/

section Leaves

variable (hleft : SeenAlike m pathPrefix left left') (hright : SeenAlike m pathPrefix right right')

include hleft hright

theorem upToKind_equalCriteria : upToKind (equalCriteria m pathPrefix left' right') =
    upToKind (equalCriteria m pathPrefix left right) := by
  unfold equalCriteria
  rw [fieldConstant?_congr hleft hright]
  cases fieldConstant? m pathPrefix left right <;> rfl

theorem upToKind_notEqualCriteria : upToKind (notEqualCriteria m pathPrefix left' right') =
    upToKind (notEqualCriteria m pathPrefix left right) := by
  unfold notEqualCriteria
  rw [fieldConstant?_congr hleft hright]
  cases fieldConstant? m pathPrefix left right <;> rfl

theorem upToKind_rangeCriteria (op : BinaryOperator) :
    upToKind (rangeCriteria m pathPrefix op left' right') =
      upToKind (rangeCriteria m pathPrefix op left right) := by
  unfold rangeCriteria
  rw [fieldConstant?_congr hleft hright]
  cases fieldConstant? m pathPrefix left right <;> rfl

theorem upToKind_comparisonCriteria (op : BinaryOperator) :
    upToKind (comparisonCriteria m pathPrefix op left' right') =
      upToKind (comparisonCriteria m pathPrefix op left right) := by
  cases op with
  | equal => exact upToKind_equalCriteria hleft hright
  | notEqual => exact upToKind_notEqualCriteria hleft hright
  | lessThan | lessThanOrEqual | greaterThan | greaterThanOrEqual =>
    exact upToKind_rangeCriteria hleft hright _
  | andAlso | orElse | add | subtract | multiply | divide | modulo => rfl

theorem upToKind_containsCriteria : upToKind (containsCriteria m pathPrefix left' right') =
    upToKind (containsCriteria m pathPrefix left right) := by
  have hconstant : upToKind (containsConstant m pathPrefix left' right') =
      upToKind (containsConstant m pathPrefix left right) := by
    unfold containsConstant
    rw [hleft.field, hright.constant]
    cases left.field? m pathPrefix with
    | none => rfl
    | some field =>
      cases right.constant? with
      | none => rfl
      | some v =>
        simp only
        split_ifs
        · rfl
        · split <;> rfl
  unfold containsCriteria
  rw [hleft.constant, hright.field]
  split
  · rfl
  · exact hconstant

theorem termsCriteria_congr (method : String) (execution : TermsExecution) :
    termsCriteria m pathPrefix method execution left' right' =
      termsCriteria m pathPrefix method execution left right := by
  unfold termsCriteria
  rw [fieldConstant?_congr hleft hright]

theorem fieldText_congr (method : String) :
    fieldText m pathPrefix method left' right' = fieldText m pathPrefix method left right := by
  unfold fieldText
  rw [fieldConstant?_congr hleft hright]

omit hleft hright in
theorem upToKind_callCriteria {method : String}
    (hargs : List.Forall₂ (SeenAlike m pathPrefix) args args') :
    upToKind (callCriteria m pathPrefix method args') =
      upToKind (callCriteria m pathPrefix method args) := by
  match hargs with
  | .nil =>
    unfold callCriteria
    split <;> rfl
  | .cons (a := a) (b := a') h .nil =>
    by_cases hany : method = "any"
    · subst hany
      simp only [callCriteria, h.field]
      cases a.field? m pathPrefix <;> rfl
    · have hunsupported : ∀ e, callCriteria m pathPrefix method [e] =
          .error (.unsupported (.methodInPredicate method 1)) := by
        intro e
        unfold callCriteria
        split <;> simp_all
      rw [hunsupported, hunsupported]
  | .cons (a := a) (b := a') h (.cons (a := b) (b := b') h' .nil) =>
    by_cases hcontains : method = "contains"
    · subst hcontains
      exact upToKind_containsCriteria h h'
    by_cases hequals : method = "equals"
    · subst hequals
      exact upToKind_equalCriteria h h'
    have hpair : callCriteria m pathPrefix method [a', b'] =
        callCriteria m pathPrefix method [a, b] := by
      unfold callCriteria
      split
      case h_9 => simp_all
      all_goals
        rename_i heq
        cases heq
      · exact absurd rfl hcontains
      · exact absurd rfl hequals
      · exact termsCriteria_congr h h' _ _
      · exact termsCriteria_congr h h' _ _
      · exact congrArg (Except.map _) (fieldText_congr h h' _)
      · exact congrArg (Except.map _) (fieldText_congr h h' _)
      · exact termsCriteria_congr h h' _ _
    rw [hpair]
  | .cons _ (.cons _ (.cons _ _)) =>
    unfold callCriteria
    split <;> simp_all [Error.kind]

end Leaves

theorem lower_of_isLeaf {query : Option Criteria} (hand : ∀ l r, e ≠ .binary .andAlso l r)
    (hor : ∀ l r, e ≠ .binary .orElse l r) (hconvert : ∀ operand, e ≠ .unary .convert operand)
    (hnot : ∀ operand, e ≠ .unary .not operand) :
    e.lower m pathPrefix query = (do
      let c ← Traced.ofExcept (e.leafCriteria m pathPrefix)
      return ⟨c, query⟩) := by
  rw [lower]
  all_goals assumption

theorem upToKind_negate {before : Option Criteria} (lowered : Lowered) :
    upToKind (lowered.negate before e') = upToKind (lowered.negate before e) := by
  unfold Lowered.negate
  split_ifs <;> rfl

/-! ### Predicates -/

section Lowering

variable (hR : ∀ e e', R e e' → SameHead R e e')

include hR

theorem seenAlike_of_sameHead (h : R e e') : SeenAlike m pathPrefix e e' :=
  ⟨field?_of_sameHead hR h, (hR _ _ h).constant?_eq⟩

theorem upToKind_lower_of_sameHead {query : Option Criteria}
    (hleaf : ∀ e e', R e e' →
      upToKind (e'.leafCriteria m pathPrefix) = upToKind (e.leafCriteria m pathPrefix))
    (h : R e e') :
    upToKind (e'.lower m pathPrefix query).result =
      upToKind (e.lower m pathPrefix query).result := by
  induction query, e using lower.induct m pathPrefix generalizing e' with
  | case1 query left right ihl ihr | case2 query left right ihl ihr =>
    cases hR _ _ h with
    | binary _ hleft hright =>
      rw [lower, lower]
      refine Traced.upToKind_bind_congr (ihl hleft) fun l => ?_
      exact Traced.upToKind_bind_congr (ihr l hright) fun _ => rfl
    | comparison hop _ => cases hop
  | case3 query operand ih =>
    cases hR _ _ h with
    | unary _ hoperand =>
      rw [lower, lower]
      exact ih hoperand
  | case4 query operand field last hfield =>
    cases hR _ _ h with
    | unary _ hoperand => rw [lower, lower, booleanField?_of_sameHead hR hoperand, hfield]
  | case5 query operand hfield ih =>
    cases hR _ _ h with
    | unary _ hoperand =>
      rw [lower, lower, booleanField?_of_sameHead hR hoperand, hfield]
      exact Traced.upToKind_bind_congr (ih hoperand) fun lowered => upToKind_negate lowered
  | case6 query e hand hor hconvert hnot =>
    have hleaf' : e'.lower m pathPrefix query = (do
        let c ← Traced.ofExcept (e'.leafCriteria m pathPrefix)
        return ⟨c, query⟩) := by
      refine lower_of_isLeaf ?_ ?_ ?_ ?_
      · rintro l r rfl
        cases hR _ _ h with
        | binary _ _ _ => exact hand _ _ rfl
        | comparison _ hop' => cases hop'
      · rintro l r rfl
        cases hR _ _ h with
        | binary _ _ _ => exact hor _ _ rfl
        | comparison _ hop' => cases hop'
      · rintro operand rfl
        cases hR _ _ h
        exact hconvert _ rfl
      · rintro operand rfl
        cases hR _ _ h
        exact hnot _ rfl
    rw [hleaf', lower_of_isLeaf hand hor hconvert hnot]
    exact Traced.upToKind_bind_congr (hleaf _ _ h) fun _ => rfl

end Lowering

end Expression

/-! ### Chains -/

/-- The steps do the same to any draft. -/
def StepAlike (scope : Scope) (step step' : String × List Expression) : Prop :=
  ∀ d : Draft, upToKind (d.applyStep scope step').result = upToKind (d.applyStep scope step).result

namespace Draft

variable {scope : Scope} {d : Draft}

theorem upToKind_applySteps_congr {steps steps' : List (String × List Expression)}
    (h : List.Forall₂ (StepAlike scope) steps steps') :
    upToKind (d.applySteps scope steps').result = upToKind (d.applySteps scope steps).result := by
  induction h generalizing d with
  | nil => rfl
  | cons hstep _ ih =>
    rw [applySteps, applySteps]
    exact Traced.upToKind_bind_congr (hstep d) fun _ => ih

theorem upToKind_ofChain_congr {c c' : Chain}
    (hsteps : List.Forall₂ (StepAlike scope) c.steps c'.steps)
    (htype : upToKind c'.root.documentType = upToKind c.root.documentType) :
    upToKind (ofChain scope c').result = upToKind (ofChain scope c).result := by
  refine Traced.upToKind_bind_congr (upToKind_applySteps_congr hsteps) fun d => ?_
  exact Traced.upToKind_bind_congr htype fun _ => rfl

end Draft

end SearchQuery
