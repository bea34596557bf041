import SearchQuery.Proofs.Criteria.Leaves
import SearchQuery.Proofs.Plan.Formula

/-!
# Leaves of predicates

A leaf of a predicate compares one field of a document with constants.

* `Criteria.AsksOf`: what a criteria can ask of one field.
* `leafCriteria_cases`: a leaf of a predicate is always true, always false, or asks something of a
  field that its expressions resolve to.
* `HoldsOfLeaves.formula`: what holds of all of these holds of the atoms of every predicate.
-/

namespace SearchQuery

/-! ### Criteria on one field -/

namespace Criteria

/-- The leaves on a field; a range has one bound. -/
inductive Tests (field : String) (last : Member) : Criteria → Prop
  | term (v : Json) : Tests field last (.term field last v)
  | terms (vs : List Json) (execution : Option TermsExecution) :
    Tests field last (.terms field last vs execution)
  | bound (b : RangeBound) : Tests field last (.range field last [b])
  | startsWith (text : String) : Tests field last (.startsWith field text)
  | regexp (pattern : String) : Tests field last (.regexp field pattern)
  | wildcard (pattern : String) : Tests field last (.wildcard field last pattern)
  | present : Tests field last (.present field)
  | missing : Tests field last (.missing field)

/-- What a leaf of a predicate asks of a field. -/
inductive AsksOf (field : String) (last : Member) : Criteria → Prop
  | test {c : Criteria} (h : c.Tests field last) : AsksOf field last c
  | unequal (v : Json) : AsksOf field last (.not (.term field last v))
  | oneOfOrMissing (values : List Json) :
    AsksOf field last (.or [membership field last values none, .missing field])

variable {field : String} {last : Member} {c : Criteria}

theorem membership_tests (field : String) (last : Member) (values : List Json)
    (execution : Option TermsExecution) : (membership field last values execution).Tests field last := by
  unfold membership
  split
  · exact .term _
  · exact .terms _ _

theorem membership_isFilterLeaf (field : String) (last : Member) (values : List Json)
    (execution : Option TermsExecution) :
    (membership field last values execution).isFilterLeaf = true := by
  unfold membership
  split <;> rfl

theorem Tests.isLeaf (h : c.Tests field last) : c.isLeaf = true := by
  cases h <;> rfl

theorem IsClause.of_isLeaf (h : c.isLeaf = true) : c.IsClause :=
  (Bool.or_eq_true_iff.1 h).imp .leaf id

theorem AsksOf.isClause (h : c.AsksOf field last) : c.IsClause := by
  cases h with
  | test h => exact .of_isLeaf h.isLeaf
  | unequal v => exact .inl (.not (.leaf rfl))
  | oneOfOrMissing values =>
    refine .inl (.or (by simp) ?_)
    simpa using ⟨.leaf (membership_isFilterLeaf field last values none), .leaf rfl⟩

theorem AsksOf.everyLeaf {P : Criteria → Prop} (hP : ∀ d : Criteria, d.Tests field last → P d)
    (h : c.AsksOf field last) : c.EveryLeaf P := by
  have htest : ∀ d : Criteria, d.Tests field last → d.EveryLeaf P :=
    fun d hd => (everyLeaf_of_isLeaf hd.isLeaf).2 (hP d hd)
  cases h with
  | test h => exact htest _ h
  | unequal v => exact everyLeaf_not.2 (htest _ (.term v))
  | oneOfOrMissing values =>
    refine everyLeaf_or.2 ?_
    simpa using ⟨htest _ (membership_tests field last values none), htest _ .missing⟩

end Criteria

namespace Expression

variable {m : FieldMapping} {pathPrefix : String} {c : Criteria}

/-- What stands for a field is metadata of the hit or a member, in conversions or without. -/
theorem field?_induct {motive : Expression → Prop} (hhit : ∀ f, motive (.hitField f))
    (hmember : ∀ target last, motive (.member target last))
    (hconvert : ∀ operand, motive operand → motive (.unary .convert operand))
    {e : Expression} {x : String × Member} (h : e.field? m pathPrefix = some x) : motive e := by
  induction e using field?.induct with
  | case1 f => exact hhit f
  | case2 operand ih =>
    rw [field?] at h
    exact hconvert operand (ih h)
  | case3 e hnothit hnotconvert =>
    cases e with
    | member target last => exact hmember target last
    | hitField f => exact hhit f
    | unary op operand =>
      cases op with
      | convert => exact absurd rfl (hnotconvert operand)
      | not | negate => cases h
    | constant | binary | call | construct | parameter | lambda | source => cases h

/-! ### Criteria of leaves -/

/-- The criteria asks something of a field of the document. -/
def AsksOfDocument (m : FieldMapping) (pathPrefix : String) (c : Criteria) : Prop :=
  ∃ (e : Expression) (field : String) (last : Member),
    e.field? m pathPrefix = some (field, last) ∧ c.AsksOf field last

theorem AsksOfDocument.of_test {e : Expression} {field : String} {last : Member}
    (hfield : e.field? m pathPrefix = some (field, last)) (h : c.Tests field last) :
    AsksOfDocument m pathPrefix c :=
  ⟨e, field, last, hfield, .test h⟩

/-- The field of a comparison is that of one of its sides. -/
theorem exists_field_of_fieldConstant? {left right : Expression} {x : FieldConstant}
    (h : fieldConstant? m pathPrefix left right = some x) :
    ∃ e : Expression, e.field? m pathPrefix = some (x.field, x.member) := by
  unfold fieldConstant? at h
  split at h
  · rename_i hfield _
    cases h
    exact ⟨left, hfield⟩
  · split at h
    · rename_i hfield _
      cases h
      exact ⟨right, hfield⟩
    · cases h

theorem equalCriteria_asks {left right : Expression}
    (h : equalCriteria m pathPrefix left right = .ok c) : AsksOfDocument m pathPrefix c := by
  unfold equalCriteria at h
  split at h
  · rename_i x hx
    obtain ⟨e, he⟩ := exists_field_of_fieldConstant? hx
    cases h
    split_ifs
    · exact .of_test he .missing
    · exact .of_test he (.term _)
  · cases h

theorem notEqualCriteria_asks {left right : Expression}
    (h : notEqualCriteria m pathPrefix left right = .ok c) : AsksOfDocument m pathPrefix c := by
  unfold notEqualCriteria at h
  split at h
  · rename_i x hx
    obtain ⟨e, he⟩ := exists_field_of_fieldConstant? hx
    cases h
    split_ifs
    · exact .of_test he .present
    · exact ⟨e, _, _, he, .unequal _⟩
  · cases h

theorem rangeCriteria_asks {op : BinaryOperator} {left right : Expression}
    (h : rangeCriteria m pathPrefix op left right = .ok c) : AsksOfDocument m pathPrefix c := by
  unfold rangeCriteria at h
  split at h
  · rename_i x hx
    obtain ⟨e, he⟩ := exists_field_of_fieldConstant? hx
    cases h
    exact .of_test he (.bound _)
  · cases h

theorem termsCriteria_asks {method : String} {execution : TermsExecution}
    {receiver values : Expression}
    (h : termsCriteria m pathPrefix method execution receiver values = .ok c) :
    AsksOfDocument m pathPrefix c := by
  unfold termsCriteria at h
  split at h
  · rename_i x hx
    obtain ⟨e, he⟩ := exists_field_of_fieldConstant? hx
    cases h
    exact .of_test he (Criteria.membership_tests _ _ _ _)
  · cases h

theorem fieldText_field {method field text : String} {receiver e : Expression}
    (h : fieldText m pathPrefix method receiver e = .ok (field, text)) :
    ∃ (e : Expression) (last : Member), e.field? m pathPrefix = some (field, last) := by
  unfold fieldText at h
  split at h
  · rename_i x hx
    obtain ⟨e, he⟩ := exists_field_of_fieldConstant? hx
    cases h
    exact ⟨e, _, he⟩
  · cases h

theorem memberOfConstants_asks {field : String} {last : Member} {values : List Json}
    (h : memberOfConstants field last values = .ok c) : c.AsksOf field last := by
  unfold memberOfConstants at h
  have hdisjuncts : ∀ values,
      (Criteria.membership field last values none).disjuncts =
        [Criteria.membership field last values none] := by
    intro values
    unfold Criteria.membership
    split <;> rfl
  simp only [Criteria.orAll] at h
  split_ifs at h
  · cases h
    exact .test .missing
  · cases h
  · rw [List.flatMap_append, List.flatMap_singleton, hdisjuncts] at h
    cases h
    exact .oneOfOrMissing _
  · rw [List.append_nil, List.flatMap_singleton, hdisjuncts] at h
    cases h
    exact .test (Criteria.membership_tests _ _ _ _)

theorem containsConstant_asks {receiver item : Expression}
    (h : containsConstant m pathPrefix receiver item = .ok c) : AsksOfDocument m pathPrefix c := by
  unfold containsConstant at h
  split at h
  · cases h
  · rename_i field last hfield
    split at h
    · cases h
    · split_ifs at h
      · cases h
        exact .of_test hfield (Criteria.membership_tests _ _ _ _)
      · split at h
        · cases h
          exact .of_test hfield (.wildcard _)
        · cases h

theorem containsCriteria_asks {receiver item : Expression}
    (h : containsCriteria m pathPrefix receiver item = .ok c) : AsksOfDocument m pathPrefix c := by
  unfold containsCriteria at h
  split at h
  · rename_i field last _ hfield
    exact ⟨item, field, last, hfield, memberOfConstants_asks h⟩
  · exact containsConstant_asks h

theorem callCriteria_asks {method : String} {args : List Expression}
    (h : callCriteria m pathPrefix method args = .ok c) : AsksOfDocument m pathPrefix c := by
  unfold callCriteria at h
  split at h
  · exact containsCriteria_asks h
  · exact equalCriteria_asks h
  · exact termsCriteria_asks h
  · exact termsCriteria_asks h
  · obtain ⟨⟨field, pattern⟩, hfield, rfl⟩ := map_eq_ok.1 h
    obtain ⟨e, last, he⟩ := fieldText_field hfield
    exact .of_test he (.regexp pattern)
  · obtain ⟨⟨field, text⟩, hfield, rfl⟩ := map_eq_ok.1 h
    obtain ⟨e, last, he⟩ := fieldText_field hfield
    exact .of_test he (.startsWith text)
  · split at h
    · rename_i field last hfield
      cases h
      exact .of_test hfield .present
    · cases h
  · exact termsCriteria_asks h
  · cases h

theorem comparisonCriteria_asks {op : BinaryOperator} {left right : Expression}
    (h : comparisonCriteria m pathPrefix op left right = .ok c) :
    AsksOfDocument m pathPrefix c := by
  unfold comparisonCriteria at h
  split at h
  · exact equalCriteria_asks h
  · exact notEqualCriteria_asks h
  · exact rangeCriteria_asks h
  · exact rangeCriteria_asks h
  · exact rangeCriteria_asks h
  · exact rangeCriteria_asks h
  · cases h

theorem booleanField?_asks {e : Expression} {field : String} {last : Member}
    (h : e.booleanField? m pathPrefix = some (field, last)) (v : Json) :
    AsksOfDocument m pathPrefix (.term field last v) :=
  .of_test (Option.filter_eq_some_iff.1 h).1 (.term v)

/-- **Leaves of predicates.** A leaf is always true, always false, or asks something of a field. -/
theorem leafCriteria_cases {e : Expression} (h : e.leafCriteria m pathPrefix = .ok c) :
    c = .nop [] ∨ c = .not .matchAll ∨ AsksOfDocument m pathPrefix c := by
  unfold leafCriteria at h
  split at h
  · cases h
    exact .inl rfl
  · cases h
    exact .inr (.inl rfl)
  · exact .inr (.inr (comparisonCriteria_asks h))
  · split at h
    · rename_i hfield
      cases h
      exact .inr (.inr (booleanField?_asks hfield _))
    · cases h
  · exact .inr (.inr (callCriteria_asks h))
  · cases h

end Expression

/-! ### Atoms of formulas -/

/-- The criteria of the leaves of a formula, from left to right. -/
def Formula.atoms : Formula → List Criteria
  | .atom c => [c]
  | .not inner => inner.atoms
  | .join _ left right => left.atoms ++ right.atoms

/-- A property of all that a leaf of a predicate or a search text can become. -/
structure HoldsOfLeaves (m : FieldMapping) (pathPrefix : String) (P : Criteria → Prop) : Prop where
  always : P (.nop [])
  never : P (.not .matchAll)
  field {c : Criteria} (h : Expression.AsksOfDocument m pathPrefix c) : P c
  text (query : String) : P (.text query)

namespace HoldsOfLeaves

variable {m : FieldMapping} {pathPrefix : String} {P : Criteria → Prop}

theorem leaf (hP : HoldsOfLeaves m pathPrefix P) {e : Expression} {c : Criteria}
    (h : e.leafCriteria m pathPrefix = .ok c) : P c := by
  rcases Expression.leafCriteria_cases h with rfl | rfl | hasks
  · exact hP.always
  · exact hP.never
  · exact hP.field hasks

theorem formula (hP : HoldsOfLeaves m pathPrefix P) {e : Expression} {f : Formula}
    (h : e.formula m pathPrefix = .ok f) : ∀ c ∈ f.atoms, P c := by
  induction e using Expression.formula.induct m pathPrefix generalizing f with
  | case1 left right ihl ihr | case2 left right ihl ihr =>
    rw [Expression.formula] at h
    simp only [bind_eq_ok, pure_eq_ok] at h
    obtain ⟨l, hl, r, hr, rfl⟩ := h
    exact List.forall_mem_append.2 ⟨ihl hl, ihr hr⟩
  | case3 operand ih =>
    rw [Expression.formula] at h
    exact ih h
  | case4 operand field last hfield =>
    rw [Expression.formula, hfield] at h
    cases h
    exact List.forall_mem_singleton.2 (hP.field (Expression.booleanField?_asks hfield _))
  | case5 operand hfield ih =>
    rw [Expression.formula, hfield] at h
    simp only [bind_eq_ok, pure_eq_ok] at h
    obtain ⟨inner, hinner, rfl⟩ := h
    have hatoms : ∀ c ∈ inner.atoms, P c := ih hinner
    exact hatoms
  | case6 e hand hor hconvert hnot =>
    rw [Expression.formula] at h
    · simp only [bind_eq_ok, pure_eq_ok] at h
      obtain ⟨c, hc, rfl⟩ := h
      exact List.forall_mem_singleton.2 (hP.leaf hc)
    all_goals assumption

end HoldsOfLeaves

end SearchQuery
