import SearchQuery.Proofs.Expression.Conversions
import SearchQuery.Proofs.Plan.Formula

/-!
# Conversions in predicates

A leaf of a predicate looks at its expressions in two ways only: it asks which field one stands for,
and whether one is a constant.

* `SeesOnly`: what looks at two expressions in no other way, and gives nothing for others.
* `callCriteria_congr`, `comparisonCriteria_seesOnly`: the leaves of predicates are such.
* `formula_unconverted`: so conversions make no difference to the formula of a predicate, unless one
  is applied to the parameter. Then there is no formula (`not_converts_of_formula`).
-/

namespace SearchQuery

namespace Expression

variable {m : FieldMapping} {pathPrefix : String} {e left right left' right' : Expression}
  {args args' : List Expression} {c : Criteria}

/-! ### What leaves see -/

/-- The expression stands for a field, or it is a constant. -/
def Sighted (m : FieldMapping) (pathPrefix : String) (e : Expression) : Prop :=
  (∃ x, e.field? m pathPrefix = some x) ∨ ∃ v, e.constant? = some v

/-- Both expressions stand for the same field and are the same constant, if any. -/
structure SeenAlike (m : FieldMapping) (pathPrefix : String) (e e' : Expression) : Prop where
  field : e'.field? m pathPrefix = e.field? m pathPrefix
  constant : e'.constant? = e.constant?

theorem SeenAlike.symm {e e' : Expression} (h : SeenAlike m pathPrefix e e') :
    SeenAlike m pathPrefix e' e :=
  ⟨h.field.symm, h.constant.symm⟩

/-- There is an outcome only for what is sighted, and it depends only on what is seen. -/
structure SeesOnly {α : Type} (m : FieldMapping) (pathPrefix : String)
    (f : Expression → Expression → Except Error α) : Prop where
  sighted {left right : Expression} {a : α} (h : f left right = .ok a) :
    left.Sighted m pathPrefix ∧ right.Sighted m pathPrefix
  congr {left right left' right' : Expression} {a : α} (hleft : SeenAlike m pathPrefix left left')
    (hright : SeenAlike m pathPrefix right right') (h : f left right = .ok a) :
    f left' right' = .ok a

theorem fieldConstant?_congr (hleft : SeenAlike m pathPrefix left left')
    (hright : SeenAlike m pathPrefix right right') :
    fieldConstant? m pathPrefix left' right' = fieldConstant? m pathPrefix left right := by
  unfold fieldConstant?
  rw [hleft.field, hleft.constant, hright.field, hright.constant]

theorem sighted_of_fieldConstant? {x : FieldConstant}
    (h : fieldConstant? m pathPrefix left right = some x) :
    left.Sighted m pathPrefix ∧ right.Sighted m pathPrefix := by
  unfold fieldConstant? at h
  split at h
  · rename_i hfield hconstant
    exact ⟨.inl ⟨_, hfield⟩, .inr ⟨_, hconstant⟩⟩
  · split at h
    · rename_i hfield hconstant
      exact ⟨.inr ⟨_, hconstant⟩, .inl ⟨_, hfield⟩⟩
    · cases h

/-- A function of a field and a constant sees only these. -/
theorem seesOnly_of_fieldConstant? {α : Type} {f : Expression → Expression → Except Error α}
    {g : FieldConstant → α}
    (hf : ∀ left right, (f left right).toOption = (fieldConstant? m pathPrefix left right).map g) :
    SeesOnly m pathPrefix f where
  sighted h := by
    rw [← toOption_eq_some, hf] at h
    obtain ⟨x, hx, -⟩ := Option.map_eq_some_iff.1 h
    exact sighted_of_fieldConstant? hx
  congr hleft hright h := by
    rw [← toOption_eq_some, hf] at h ⊢
    rwa [fieldConstant?_congr hleft hright]

theorem equalCriteria_seesOnly : SeesOnly m pathPrefix (equalCriteria m pathPrefix) :=
  seesOnly_of_fieldConstant? fun left right => by
    unfold equalCriteria
    cases fieldConstant? m pathPrefix left right <;> rfl

theorem notEqualCriteria_seesOnly : SeesOnly m pathPrefix (notEqualCriteria m pathPrefix) :=
  seesOnly_of_fieldConstant? fun left right => by
    unfold notEqualCriteria
    cases fieldConstant? m pathPrefix left right <;> rfl

theorem rangeCriteria_seesOnly (op : BinaryOperator) :
    SeesOnly m pathPrefix (rangeCriteria m pathPrefix op) :=
  seesOnly_of_fieldConstant? fun left right => by
    unfold rangeCriteria
    cases fieldConstant? m pathPrefix left right <;> rfl

theorem termsCriteria_seesOnly (method : String) (execution : TermsExecution) :
    SeesOnly m pathPrefix (termsCriteria m pathPrefix method execution) :=
  seesOnly_of_fieldConstant? fun left right => by
    unfold termsCriteria
    cases fieldConstant? m pathPrefix left right <;> rfl

theorem fieldText_seesOnly (method : String) :
    SeesOnly m pathPrefix (fieldText m pathPrefix method) :=
  seesOnly_of_fieldConstant? fun left right => by
    unfold fieldText
    cases fieldConstant? m pathPrefix left right <;> rfl

theorem containsConstant_seesOnly : SeesOnly m pathPrefix (containsConstant m pathPrefix) where
  sighted h := by
    unfold containsConstant at h
    split at h
    · cases h
    · rename_i hfield
      split at h
      · cases h
      · rename_i hconstant
        exact ⟨.inl ⟨_, hfield⟩, .inr ⟨_, hconstant⟩⟩
  congr hleft hright h := by
    unfold containsConstant at h ⊢
    rw [hleft.field, hright.constant]
    split at h
    · cases h
    · split at h
      · cases h
      · split_ifs at h ⊢
        · exact h
        · split at h
          · exact h
          · cases h

theorem containsCriteria_seesOnly : SeesOnly m pathPrefix (containsCriteria m pathPrefix) where
  sighted h := by
    unfold containsCriteria at h
    split at h
    · rename_i hvalues hfield
      obtain ⟨v, hv, -⟩ := Option.bind_eq_some_iff.1 hvalues
      exact ⟨.inr ⟨v, hv⟩, .inl ⟨_, hfield⟩⟩
    · exact containsConstant_seesOnly.sighted h
  congr hleft hright h := by
    unfold containsCriteria at h ⊢
    rw [hleft.constant, hright.field]
    split at h
    · exact h
    · exact containsConstant_seesOnly.congr hleft hright h

theorem comparisonCriteria_seesOnly (op : BinaryOperator) :
    SeesOnly m pathPrefix (comparisonCriteria m pathPrefix op) := by
  cases op with
  | equal => exact equalCriteria_seesOnly
  | notEqual => exact notEqualCriteria_seesOnly
  | lessThan | lessThanOrEqual | greaterThan | greaterThanOrEqual => exact rangeCriteria_seesOnly _
  | andAlso | orElse | add | subtract | multiply | divide | modulo =>
    refine ⟨fun h => ?_, fun _ _ h => ?_⟩ <;> cases h

/-- The criteria of a call is that of a pair of arguments, or it tests that a field is there. -/
theorem callCriteria_sighted {method : String} (h : callCriteria m pathPrefix method args = .ok c) :
    ∀ e ∈ args, e.Sighted m pathPrefix := by
  have hpair : ∀ {left right : Expression},
      left.Sighted m pathPrefix ∧ right.Sighted m pathPrefix →
        ∀ e ∈ [left, right], e.Sighted m pathPrefix := by
    simp
  unfold callCriteria at h
  split at h
  · exact hpair (containsCriteria_seesOnly.sighted h)
  · exact hpair (equalCriteria_seesOnly.sighted h)
  · exact hpair ((termsCriteria_seesOnly _ _).sighted h)
  · exact hpair ((termsCriteria_seesOnly _ _).sighted h)
  · obtain ⟨p, hp, -⟩ := map_eq_ok.1 h
    exact hpair ((fieldText_seesOnly _).sighted hp)
  · obtain ⟨p, hp, -⟩ := map_eq_ok.1 h
    exact hpair ((fieldText_seesOnly _).sighted hp)
  · split at h
    · rename_i hfield
      exact List.forall_mem_singleton.2 (.inl ⟨_, hfield⟩)
    · cases h
  · exact hpair ((termsCriteria_seesOnly _ _).sighted h)
  · cases h

theorem callCriteria_congr {method : String}
    (hargs : List.Forall₂ (SeenAlike m pathPrefix) args args')
    (h : callCriteria m pathPrefix method args = .ok c) :
    callCriteria m pathPrefix method args' = .ok c := by
  unfold callCriteria at h
  split at h
  case h_9 => cases h
  case h_7 =>
    obtain _ | ⟨hreceiver, _ | _⟩ := hargs
    rw [callCriteria, hreceiver.field]
    split at h
    · exact h
    · cases h
  all_goals obtain _ | ⟨hleft, _ | ⟨hright, _ | _⟩⟩ := hargs
  · exact containsCriteria_seesOnly.congr hleft hright h
  · exact equalCriteria_seesOnly.congr hleft hright h
  · exact (termsCriteria_seesOnly _ _).congr hleft hright h
  · exact (termsCriteria_seesOnly _ _).congr hleft hright h
  · obtain ⟨p, hp, hc⟩ := map_eq_ok.1 h
    exact map_eq_ok.2 ⟨p, (fieldText_seesOnly _).congr hleft hright hp, hc⟩
  · obtain ⟨p, hp, hc⟩ := map_eq_ok.1 h
    exact map_eq_ok.2 ⟨p, (fieldText_seesOnly _).congr hleft hright hp, hc⟩
  · exact (termsCriteria_seesOnly _ _).congr hleft hright h

/-! ### Conversions -/

/-- No constant and no parameter stands right below a conversion. -/
structure Unobstructed (e : Expression) : Prop where
  constant : e.converts isConstant = false
  parameter : e.converts isAnyParameter = false

theorem Unobstructed.seenAlike (h : e.Unobstructed) :
    SeenAlike m pathPrefix e e.unconverted :=
  ⟨field?_unconverted h.parameter, constant?_unconverted e h.constant⟩

theorem not_converts_of_sighted (h : e.Sighted m pathPrefix) :
    e.isAnyParameter = false ∧ e.converts isAnyParameter = false := by
  rcases h with ⟨x, hx⟩ | ⟨v, hv⟩
  · exact not_converts_of_field? hx
  · rw [constant?_eq_some.1 hv]
    exact ⟨rfl, rfl⟩

theorem Unobstructed.convert (h : (unary .convert e).Unobstructed) : e.Unobstructed := by
  obtain ⟨hconstant, hparameter⟩ := h
  rw [converts_convert, Bool.or_eq_false_iff] at hconstant hparameter
  exact ⟨hconstant.2, hparameter.2⟩

theorem Unobstructed.not (h : (unary .not e).Unobstructed) : e.Unobstructed :=
  ⟨h.constant, h.parameter⟩

theorem Unobstructed.binary {op : BinaryOperator} (h : (binary op left right).Unobstructed) :
    left.Unobstructed ∧ right.Unobstructed := by
  obtain ⟨hconstant, hparameter⟩ := h
  rw [converts, Bool.or_eq_false_iff] at hconstant hparameter
  exact ⟨⟨hconstant.1, hparameter.1⟩, ⟨hconstant.2, hparameter.2⟩⟩

theorem argsConvert_cons {kind : Expression → Bool} {rest : List Expression}
    (h : argsConvert kind (e :: rest) = false) :
    e.converts kind = false ∧ argsConvert kind rest = false := by
  rwa [argsConvert, Bool.or_eq_false_iff] at h

theorem forall₂_seenAlike (hconstant : argsConvert isConstant args = false)
    (hparameter : argsConvert isAnyParameter args = false) :
    List.Forall₂ (SeenAlike m pathPrefix) args (unconvertedArgs args) := by
  induction args with
  | nil => exact .nil
  | cons e rest ih =>
    obtain ⟨hconstant, hconstants⟩ := argsConvert_cons hconstant
    obtain ⟨hparameter, hparameters⟩ := argsConvert_cons hparameter
    exact .cons (Unobstructed.seenAlike ⟨hconstant, hparameter⟩) (ih hconstants hparameters)

theorem argsConvert_eq_false_of_sighted (h : ∀ e ∈ args, e.Sighted m pathPrefix) :
    argsConvert isAnyParameter args = false := by
  induction args with
  | nil => rfl
  | cons e rest ih =>
    rw [List.forall_mem_cons] at h
    rw [argsConvert, (not_converts_of_sighted h.1).2, ih h.2, Bool.or_false]

/-- Conversions inside of a leaf make no difference to its criteria. -/
theorem leafCriteria_unconverted (h : e.Unobstructed)
    (hconvert : ∀ operand, e ≠ .unary .convert operand) :
    e.unconverted.leafCriteria m pathPrefix = .ok c ↔ e.leafCriteria m pathPrefix = .ok c := by
  cases e with
  | constant v => rfl
  | source type | parameter name | hitField hit => rfl
  | member target last =>
    have hfield : (member target last).unconverted.booleanField? m pathPrefix =
        (member target last).booleanField? m pathPrefix := booleanField?_unconverted h.parameter
    rw [unconverted] at hfield ⊢
    rw [leafCriteria, leafCriteria, hfield]
    cases (member target last).booleanField? m pathPrefix <;> simp
  | binary op left right =>
    obtain ⟨hleft, hright⟩ := h.binary
    have hsees : SeesOnly m pathPrefix (comparisonCriteria m pathPrefix op) :=
      comparisonCriteria_seesOnly op
    exact ⟨hsees.congr hleft.seenAlike.symm hright.seenAlike.symm,
      hsees.congr hleft.seenAlike hright.seenAlike⟩
  | unary op operand =>
    cases op with
    | convert => exact absurd rfl (hconvert operand)
    | not | negate => constructor <;> intro h <;> cases h
  | call method args =>
    have hargs : List.Forall₂ (SeenAlike m pathPrefix) args (unconvertedArgs args) :=
      forall₂_seenAlike h.constant h.parameter
    exact ⟨callCriteria_congr (hargs.imp fun _ _ => SeenAlike.symm).flip,
      callCriteria_congr hargs⟩
  | lambda p body => constructor <;> intro h <;> cases h
  | construct members => constructor <;> intro h <;> cases h

theorem not_converts_of_leafCriteria (h : e.leafCriteria m pathPrefix = .ok c) :
    e.isAnyParameter = false ∧ e.converts isAnyParameter = false := by
  unfold leafCriteria at h
  split at h
  · exact ⟨rfl, rfl⟩
  · exact ⟨rfl, rfl⟩
  · obtain ⟨hleft, hright⟩ := (comparisonCriteria_seesOnly _).sighted h
    rw [converts, (not_converts_of_sighted hleft).2, (not_converts_of_sighted hright).2]
    exact ⟨rfl, rfl⟩
  · split at h
    · rename_i hfield
      exact not_converts_of_field? (Option.filter_eq_some_iff.1 hfield).1
    · cases h
  · exact ⟨rfl, argsConvert_eq_false_of_sighted (callCriteria_sighted h)⟩
  · cases h

/-! ### Formulas -/

theorem formula_of_isLeaf (hand : ∀ l r, e ≠ .binary .andAlso l r)
    (hor : ∀ l r, e ≠ .binary .orElse l r) (hconvert : ∀ operand, e ≠ .unary .convert operand)
    (hnot : ∀ operand, e ≠ .unary .not operand) :
    e.formula m pathPrefix = (do return .atom (← e.leafCriteria m pathPrefix)) := by
  rw [formula]
  all_goals assumption

/-- **Conversions in a predicate.** They make no difference to its formula. -/
theorem formula_unconverted {f : Formula} (h : e.Unobstructed) :
    e.unconverted.formula m pathPrefix = .ok f ↔ e.formula m pathPrefix = .ok f := by
  induction e using formula.induct m pathPrefix generalizing f with
  | case1 left right ihl ihr | case2 left right ihl ihr =>
    rw [unconverted, formula, formula]
    simp only [bind_eq_ok, ihl h.binary.1, ihr h.binary.2]
  | case3 operand ih =>
    rw [unconverted, formula, ih h.convert]
  | case4 operand field last hfield =>
    have hunconverted := (booleanField?_unconverted h.not.parameter).trans hfield
    rw [formula, hfield, unconverted, formula, hunconverted]
    decide
  | case5 operand hfield ih =>
    have hunconverted := (booleanField?_unconverted h.not.parameter).trans hfield
    rw [formula, hfield, unconverted, formula, hunconverted]
    · simp only [bind_eq_ok, ih h.not]
    · decide
  | case6 e hand hor hconvert hnot =>
    have hleaf : e.unconverted.formula m pathPrefix =
        (do return .atom (← e.unconverted.leafCriteria m pathPrefix)) := by
      cases e with
      | unary op operand =>
        cases op with
        | convert => exact absurd rfl (hconvert operand)
        | not => exact absurd rfl (hnot operand)
        | negate => rfl
      | binary op left right =>
        cases op with
        | andAlso => exact absurd rfl (hand left right)
        | orElse => exact absurd rfl (hor left right)
        | _ => rfl
      | _ => rfl
    rw [hleaf, formula_of_isLeaf hand hor hconvert hnot]
    simp only [bind_eq_ok, leafCriteria_unconverted h hconvert]

/-- What has a formula converts no parameter. -/
theorem not_converts_of_formula {f : Formula} (h : e.formula m pathPrefix = .ok f) :
    e.isAnyParameter = false ∧ e.converts isAnyParameter = false := by
  induction e using formula.induct m pathPrefix generalizing f with
  | case1 left right ihl ihr | case2 left right ihl ihr =>
    rw [formula] at h
    obtain ⟨l, hl, h⟩ := bind_eq_ok.1 h
    obtain ⟨r, hr, -⟩ := bind_eq_ok.1 h
    rw [converts, (ihl hl).2, (ihr hr).2]
    exact ⟨rfl, rfl⟩
  | case3 operand ih =>
    rw [formula] at h
    obtain ⟨hparameter, hconverts⟩ := ih h
    rw [converts_convert, hparameter, hconverts]
    exact ⟨rfl, rfl⟩
  | case4 operand field last hfield =>
    exact ⟨rfl, (not_converts_of_field? (Option.filter_eq_some_iff.1 hfield).1).2⟩
  | case5 operand hfield ih =>
    rw [formula, hfield] at h
    obtain ⟨inner, hinner, -⟩ := bind_eq_ok.1 h
    exact ⟨rfl, (ih hinner).2⟩
  | case6 e hand hor hconvert hnot =>
    rw [formula_of_isLeaf hand hor hconvert hnot] at h
    obtain ⟨c, hc, -⟩ := bind_eq_ok.1 h
    exact not_converts_of_leafCriteria hc

end Expression

end SearchQuery
