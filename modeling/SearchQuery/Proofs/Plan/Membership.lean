import Mathlib.Data.Set.Basic
import SearchQuery.Proofs.Criteria.Meaning
import SearchQuery.Proofs.Plan.SetValues

/-!
# Membership predicates

A field of a document has a set of values, which is empty where the field is missing. A predicate
that asks for values of a list becomes one of several leaves, or two of them: a single value is a
term, and null in a list of constants asks for a missing field.

* `FieldValues.Has`: a field has a value, up to sameness.
* `Valuation.Reads`: how a document with these values answers the leaves.
* `Criteria.holds_membership`, `Expression.holds_memberOfConstants`: what the leaves ask for.
* `Expression.membership_exact`: so a predicate asks for what it says.
-/

namespace SearchQuery

/-! ### Values of fields -/

/-- The values that each field of a document has. -/
def FieldValues := String → Set Json

namespace FieldValues

variable {values : FieldValues} {field : String}

/-- A field has a value, or one that is the same. -/
def Has (values : FieldValues) (field : String) (v : Json) : Prop :=
  ∃ w ∈ values field, w.same v = true

theorem Has.of_same {v w : Json} (hsame : v.same w = true) (h : values.Has field v) :
    values.Has field w := by
  obtain ⟨u, hu, huv⟩ := h
  exact ⟨u, hu, by rwa [Json.same_congr_left huv]⟩

def IsMissing (values : FieldValues) (field : String) : Prop := values field = ∅

end FieldValues

/-- The answers of a document to leaves that ask for values of its fields. -/
structure Valuation.Reads (v : Valuation) (values : FieldValues) : Prop where
  term : ∀ f m x, v.leaf (.term f m x) = true ↔ values.Has f x
  /-- The way to match that asks for all values asks for each, any other way for one of them. -/
  terms : ∀ f m xs execution, v.leaf (.terms f m xs execution) = true ↔
    if execution = some .and then ∀ x ∈ xs, values.Has f x else ∃ x ∈ xs, values.Has f x
  present : ∀ f, v.leaf (.present f) = true ↔ (values f).Nonempty
  missing : ∀ f, v.leaf (.missing f) = true ↔ values.IsMissing f

/-- The answers of a document that lists its values. -/
def Valuation.ofLists (values : String → List Json) : Valuation where
  leaf
    | .term f _ x => (values f).any (·.same x)
    | .terms f _ xs execution =>
      if execution = some .and then xs.all fun x => (values f).any (·.same x)
      else xs.any fun x => (values f).any (·.same x)
    | .present f => !(values f).isEmpty
    | .missing f => (values f).isEmpty
    | _ => false
  within _ _ := false
  within_same _ _ _ _ := rfl

theorem Valuation.reads_ofLists (values : String → List Json) :
    (ofLists values).Reads fun field => {x | x ∈ values field} where
  term f m x := List.any_eq_true
  terms f m xs execution := by
    show (if execution = some .and then xs.all _ else xs.any _) = true ↔ _
    split_ifs <;> simp [FieldValues.Has]
  present f := by simp [ofLists, Set.Nonempty, List.eq_nil_iff_forall_not_mem]
  missing f := by simp [ofLists, FieldValues.IsMissing, Set.eq_empty_iff_forall_notMem,
    List.eq_nil_iff_forall_not_mem]

/-! ### What leaves ask for -/

section Leaves

variable {v : Valuation} {values : FieldValues} {field : String} {last : Member} {vs : List Json}

/-- Repetitions and the way to match a single value make no difference. -/
theorem Criteria.holds_membership (hv : v.Reads values) (execution : Option TermsExecution) :
    (membership field last vs execution).holds v = true ↔
      if execution = some .and then ∀ x ∈ vs, values.Has field x
      else ∃ x ∈ vs, values.Has field x := by
  rw [← Json.forall_mem_distinct FieldValues.Has.of_same,
    ← Json.exists_mem_distinct FieldValues.Has.of_same]
  unfold membership
  split
  · rename_i x hx
    rw [holds, hv.term, hx]
    simp
  · rw [holds, hv.terms]

namespace Expression

/-- The values of a list other than null. -/
def nonNull (vs : List Json) : List Json := vs.filter fun x => !x.isNull

theorem exists_mem_nonNull {P : Json → Prop} :
    (∃ x ∈ nonNull vs, P x) ↔ ∃ x ∈ vs, x.isNull = false ∧ P x := by
  simp [nonNull, and_assoc]

/-- The leaf for the values other than null; a list of nothing but null has none. -/
def valueLeaves (field : String) (last : Member) (vs : List Json) : List Criteria :=
  if (nonNull vs).isEmpty && vs.any Json.isNull then []
  else [.membership field last (nonNull vs) none]

/-- The leaf for null. -/
def nullLeaves (field : String) (vs : List Json) : List Criteria :=
  if vs.any Json.isNull then [.missing field] else []

theorem isFilter_of_mem_leaves :
    ∀ c ∈ valueLeaves field last vs ++ nullLeaves field vs, c.IsFilter := by
  intro c hc
  unfold valueLeaves nullLeaves at hc
  rcases List.mem_append.1 hc with hc | hc
  · split_ifs at hc
    · cases hc
    · rw [List.mem_singleton.1 hc]
      exact .leaf (Criteria.membership_isFilterLeaf ..)
  · split_ifs at hc
    · rw [List.mem_singleton.1 hc]
      exact .leaf rfl
    · cases hc

/-- A list without null has the first leaf, even if it is empty. -/
theorem leaves_ne_nil : valueLeaves field last vs ++ nullLeaves field vs ≠ [] := by
  unfold valueLeaves nullLeaves
  by_cases hnull : vs.any Json.isNull = true <;> simp [hnull]

theorem any_valueLeaves (hv : v.Reads values) :
    (valueLeaves field last vs).any (Criteria.holds v) = true ↔
      ∃ x ∈ vs, x.isNull = false ∧ values.Has field x := by
  rw [← exists_mem_nonNull]
  unfold valueLeaves
  split_ifs with hnone
  · have hempty : nonNull vs = [] := by simpa using (Bool.and_eq_true_iff.1 hnone).1
    simp [hempty]
  · rw [List.any_cons, List.any_nil, Bool.or_false, Criteria.holds_membership hv,
      if_neg (by decide)]

theorem any_nullLeaves (hv : v.Reads values) :
    (nullLeaves field vs).any (Criteria.holds v) = true ↔
      (∃ x ∈ vs, x.isNull = true) ∧ values.IsMissing field := by
  rw [← List.any_eq_true]
  unfold nullLeaves
  split_ifs with hnull
  · simp [hnull, Criteria.holds, hv.missing]
  · simp [hnull]

/-- What a list of constants asks for: a value of it other than null, or a missing field where the
list has null. -/
theorem holds_memberOfConstants (field : String) (last : Member) (vs : List Json) :
    ∃ c, memberOfConstants field last vs = .ok c ∧ c.IsFilter ∧
      ∀ {v : Valuation} {values : FieldValues}, v.Reads values →
        (c.holds v = true ↔ (∃ x ∈ vs, x.isNull = false ∧ values.Has field x) ∨
          ((∃ x ∈ vs, x.isNull = true) ∧ values.IsMissing field)) := by
  have hfilters : ∀ c ∈ valueLeaves field last vs ++ nullLeaves field vs, c.IsFilter :=
    isFilter_of_mem_leaves
  obtain ⟨c, hc⟩ := Criteria.IsFilter.exists_orAll leaves_ne_nil hfilters
  have hok : memberOfConstants field last vs = .ok c := by
    simp only [memberOfConstants]
    split
    · rename_i hsome
      exact congrArg Except.ok (Option.some.inj (hsome.symm.trans hc))
    · rename_i hnone
      cases hnone.symm.trans hc
  refine ⟨c, hok, Criteria.IsFilter.orAll hfilters hc, ?_⟩
  intro v values hv
  have hany := Criteria.any_orAll (v := v) (valueLeaves field last vs ++ nullLeaves field vs)
  rw [hc, Option.any_some] at hany
  rw [hany, List.any_append, Bool.or_eq_true, any_valueLeaves hv, any_nullLeaves hv]

end Expression

end Leaves

/-! ### Requests -/

namespace Expression

variable {m : FieldMapping} {pathPrefix : String} {field : String} {last : Member}
  {e predicate : Expression} {c : Criteria}

/-- A predicate becomes the criteria wherever it stands, and in a `where` of its own that criteria
is the filter of the request. -/
structure FiltersBy (m : FieldMapping) (pathPrefix : String) (predicate : Expression)
    (c : Criteria) : Prop where
  lowered : ∀ query, (predicate.lower m pathPrefix query).result = .ok ⟨c, query⟩
  planned : ∀ type x, ∃ t,
    (((source type).filterBy (.lambda x predicate)).plan m pathPrefix).result = .ok t ∧
      t.request = .filteredBy m type c

theorem filtersBy_of_formula (hfolded : predicate.IsFolded)
    (hformula : predicate.formula m pathPrefix = .ok (.atom c)) (hc : c.IsFilter) :
    predicate.FiltersBy m pathPrefix c where
  lowered _ := (lower_eq_ok_iff _ _ _).2 ⟨⟨c, []⟩, ⟨_, hformula, rfl⟩, rfl⟩
  planned type x := plan_filter type x hfolded hformula hc.isNop hc.isQueryContext

/-- A set of values that a field is compared with. -/
theorem filtersBy_set {method : String} {mode : TermsExecution}
    (hmode : (method, mode) ∈ setMethods) (hfield : e.field? m pathPrefix = some (field, last))
    (vs : List Json) :
    (Expression.call method [e, .constant (.arr vs)]).FiltersBy m pathPrefix
      (.membership field last vs (some mode)) :=
  filtersBy_of_formula (isFolded_set hfield rfl) (formula_membership hmode hfield vs)
    (.leaf (Criteria.membership_isFilterLeaf ..))

/-- A list of constants that a field is looked up in. -/
theorem filtersBy_constants (hfield : e.field? m pathPrefix = some (field, last)) {vs : List Json}
    (hc : memberOfConstants field last vs = .ok c) (hfilter : c.IsFilter) :
    ((constant (.arr vs)).contains e).FiltersBy m pathPrefix c := by
  have hitem := isFolded_of_field? hfield
  have hfolded : ((constant (.arr vs)).contains e).IsFolded := by
    have hvalues : [constant (.arr vs), e].mapM constant? = none := by
      rw [List.mapM_cons, List.mapM_cons, hitem.not_constant]
      rfl
    refine ⟨?_, rfl⟩
    rw [Expression.contains, fold, foldArgs, fold, foldArgs, hitem.fold_eq, foldArgs]
    show foldCall _ _ = _
    rw [foldCall, hvalues]
    rfl
  have hcriteria : containsCriteria m pathPrefix (.constant (.arr vs)) e = .ok c := by
    rw [← hc, containsCriteria, hfield]
    rfl
  have hformula : ((constant (.arr vs)).contains e).formula m pathPrefix = .ok (.atom c) := by
    show (do return Formula.atom (← containsCriteria m pathPrefix (.constant (.arr vs)) e)) = _
    rw [hcriteria]
    rfl
  exact filtersBy_of_formula hfolded hformula hfilter

/-- **Membership is exact.** A document is found by a list of constants that contains a field if
the field has a value of the list other than null, or if it is missing and the list has null. It is
found by a field that contains any or all of the values of a list if it has one or each of them. -/
theorem membership_exact (hfield : e.field? m pathPrefix = some (field, last)) (vs : List Json) :
    (∃ c, ((constant (.arr vs)).contains e).FiltersBy m pathPrefix c ∧
      ∀ {v : Valuation} {values : FieldValues}, v.Reads values →
        (c.holds v = true ↔ (∃ x ∈ vs, x.isNull = false ∧ values.Has field x) ∨
          ((∃ x ∈ vs, x.isNull = true) ∧ values.IsMissing field))) ∧
    (∃ c, (e.containsAny (.constant (.arr vs))).FiltersBy m pathPrefix c ∧
      ∀ {v : Valuation} {values : FieldValues}, v.Reads values →
        (c.holds v = true ↔ ∃ x ∈ vs, values.Has field x)) ∧
    (∃ c, (e.containsAll (.constant (.arr vs))).FiltersBy m pathPrefix c ∧
      ∀ {v : Valuation} {values : FieldValues}, v.Reads values →
        (c.holds v = true ↔ ∀ x ∈ vs, values.Has field x)) := by
  refine ⟨?_, ?_, ?_⟩
  · obtain ⟨c, hc, hfilter, hmeans⟩ := holds_memberOfConstants field last vs
    exact ⟨c, filtersBy_constants hfield hc hfilter, hmeans⟩
  · have hmode : ("contains_any", TermsExecution.bool) ∈ setMethods := by decide
    refine ⟨_, filtersBy_set hmode hfield vs, fun hv => ?_⟩
    rw [Criteria.holds_membership hv, if_neg (by decide)]
  · have hmode : ("contains_all", TermsExecution.and) ∈ setMethods := by decide
    refine ⟨_, filtersBy_set hmode hfield vs, fun hv => ?_⟩
    rw [Criteria.holds_membership hv, if_pos rfl]

/-- Films of a title, or without one; then the films that have each of two titles that are one. -/
theorem membership_exact_film :
    ((Expression.parameter "f").member Film.title).field? Film.mapping "" =
        some ("title", Film.title) ∧
      (∃ c, ((constant (.arr [.str "Heat", .null, .str "Heat"])).contains
          ((Expression.parameter "f").member Film.title)).FiltersBy Film.mapping "" c ∧
        c.holds (.ofLists fun _ => [.str "Ronin", .str "Heat"]) = true ∧
        c.holds (.ofLists fun _ => []) = true ∧
        ¬c.holds (.ofLists fun _ => [.str "Ronin"]) = true) ∧
      ∃ c, (((Expression.parameter "f").member Film.title).containsAll
          (.constant (.arr [.str "Heat", .str "Heat"]))).FiltersBy Film.mapping "" c ∧
        c.holds (.ofLists fun _ => [.str "Ronin", .str "Heat"]) = true ∧
        ¬c.holds (.ofLists fun _ => []) = true := by
  have hfield : ((Expression.parameter "f").member Film.title).field? Film.mapping "" =
      some ("title", Film.title) := by decide
  obtain ⟨c, hfilters, hmeans⟩ := (membership_exact hfield [.str "Heat", .null, .str "Heat"]).1
  obtain ⟨c', hfilters', hmeans'⟩ := (membership_exact hfield [.str "Heat", .str "Heat"]).2.2
  refine ⟨hfield, ⟨c, hfilters, ?_, ?_, ?_⟩, c', hfilters', ?_, ?_⟩
  · rw [hmeans (Valuation.reads_ofLists _)]
    exact .inl ⟨.str "Heat", by simp, rfl, .str "Heat", by simp, by decide⟩
  · rw [hmeans (Valuation.reads_ofLists _)]
    exact .inr ⟨⟨.null, by simp, rfl⟩, by simp [FieldValues.IsMissing]⟩
  · have hapart : (Json.str "Ronin").same (.str "Heat") = false := by decide
    have hnull : (Json.str "Ronin").same .null = false := by decide
    rw [hmeans (Valuation.reads_ofLists _)]
    simp [FieldValues.Has, FieldValues.IsMissing, Set.eq_empty_iff_forall_notMem, hapart, hnull]
  · rw [hmeans' (Valuation.reads_ofLists _)]
    simp [FieldValues.Has, Json.same_refl]
  · rw [hmeans' (Valuation.reads_ofLists _)]
    simp [FieldValues.Has]

end Expression

end SearchQuery
