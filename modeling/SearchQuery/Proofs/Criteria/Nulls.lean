import SearchQuery.Proofs.Criteria.Content
import SearchQuery.Proofs.Criteria.Leaves
import SearchQuery.Proofs.Json.Sameness

/-!
# Criteria that test null

No document has the value null, so a condition on it should ask whether the field is there. A term,
a set of values or a bound can hold null nevertheless.

* `NullFree`: no node of a criteria does.
* `Content.HasNull`: what this says about the content of a criteria (`nullFree_iff`). Dropping
  bounds that are the same as others does not change it (`Keeps.hasNull_iff`).
-/

namespace SearchQuery

theorem Json.isNull_canonical (v : Json) : v.canonical.isNull = v.isNull := by
  cases v <;> rfl

theorem Json.same_null (v : Json) : v.same .null = v.isNull := by
  cases v <;> simp [Json.same, Json.canonical, Json.isNull]

theorem RangeBound.isNull_of_same {a b : RangeBound} (h : a.same b = true) :
    a.value.isNull = b.value.isNull := by
  rw [RangeBound.same, beq_iff_eq] at h
  rw [← a.value.isNull_canonical, ← b.value.isNull_canonical]
  exact congrArg (·.value.isNull) h

namespace Criteria

/-- Whether the node itself compares a field with null. -/
def testsNull : Criteria → Bool
  | .term _ _ v => v.isNull
  | .terms _ _ values _ => values.any Json.isNull
  | .range _ _ bounds => bounds.any (·.value.isNull)
  | _ => false

/-- No term, set of values or range at any depth holds null. -/
def NullFree (c : Criteria) : Prop := ∀ d ∈ c.nodes, d.testsNull = false

theorem testsNull_membership (field : String) (m : Member) (values : List Json)
    (execution : Option TermsExecution) :
    (membership field m values execution).testsNull = values.any Json.isNull := by
  have hdistinct : (Json.distinct values).any Json.isNull = values.any Json.isNull := by
    have hsame := Json.any_same_distinct values .null
    simpa only [Json.same_null] using hsame
  rw [← hdistinct, membership]
  split
  · rename_i v hv
    rw [hv, testsNull, List.any_cons, List.any_nil, Bool.or_false]
  · rfl

end Criteria

/-! ### Content -/

namespace Content

/-- A leaf or a bound compares with null. -/
def HasNull (x : Content) : Prop :=
  (∃ c ∈ x.1, c.testsNull = true) ∨ ∃ b ∈ x.2, b.2.value.isNull = true

@[simp] theorem not_hasNull_zero : ¬HasNull 0 := by
  simp [HasNull]

@[simp] theorem hasNull_add {x y : Content} : (x + y).HasNull ↔ x.HasNull ∨ y.HasNull := by
  simp only [HasNull, Prod.fst_add, Prod.snd_add, Multiset.mem_add, or_and_right, exists_or]
  exact or_or_or_comm

theorem hasNull_sum {xs : List Content} : xs.sum.HasNull ↔ ∃ x ∈ xs, x.HasNull := by
  induction xs with
  | nil => simp
  | cons x rest ih => simp [ih]

/-- What is kept has null where all of it has. -/
theorem Keeps.hasNull_iff {kept all : Content} (h : kept.Keeps all) :
    kept.HasNull ↔ all.HasNull := by
  refine or_congr (by rw [h.leaves]) ⟨?_, ?_⟩
  · rintro ⟨b, hb, hnull⟩
    exact ⟨b, Multiset.mem_of_le h.bounds hb, hnull⟩
  · rintro ⟨b, hb, hnull⟩
    obtain ⟨b', hb', -, hsame⟩ := h.covers b hb
    exact ⟨b', hb', by rwa [RangeBound.isNull_of_same hsame]⟩

end Content

namespace Criteria

variable {c d : Criteria}

@[simp] theorem hasNull_leafContent (c : Criteria) :
    (leafContent c).HasNull ↔ c.testsNull = true := by
  cases c <;> simp [leafContent, Content.HasNull, testsNull]

theorem hasNull_contentOfAll {cs : List Criteria} :
    (contentOfAll cs).HasNull ↔ ∃ c ∈ cs, c.content.HasNull := by
  induction cs with
  | nil => simp
  | cons c rest ih => simp [ih]

theorem hasNull_contentOfOption {current : Option Criteria} :
    (contentOfOption current).HasNull ↔ ∃ c ∈ current, c.content.HasNull := by
  cases current <;> simp [contentOfOption]

theorem hasNull_of_isLeaf (h : c.isLeaf = true) : c.content.HasNull ↔ c.testsNull = true := by
  rw [← hasNull_leafContent]
  cases c <;> first | rfl | cases h

theorem not_hasNull_of_isLeaf (h : c.isLeaf = true) (htests : c.testsNull = false) :
    ¬c.content.HasNull := by
  rw [hasNull_of_isLeaf h, htests]
  exact Bool.false_ne_true

/-! ### Criteria that are the same -/

theorem testsNull_canonical (c : Criteria) : c.canonical.testsNull = c.testsNull := by
  cases c <;>
    simp [canonical, testsNull, Json.isNull_canonical, RangeBound.canonical, Function.comp_def]

theorem hasNull_canonical_of_isLeaf (h : c.isLeaf = true) :
    c.canonical.content.HasNull ↔ c.content.HasNull := by
  have hcanonical : c.canonical.isLeaf = true := by
    cases c <;> first | rfl | cases h
  rw [hasNull_of_isLeaf hcanonical, hasNull_of_isLeaf h, testsNull_canonical]

mutual

theorem hasNull_canonical : (c : Criteria) → (c.canonical.content.HasNull ↔ c.content.HasNull)
  | .not inner => hasNull_canonical inner
  | .and children | .or children => hasNull_canonicalList children
  | .bool must mustNot should => by
    rw [canonical, content, content]
    simp only [Content.hasNull_add, hasNull_canonicalList must, hasNull_canonicalList mustNot,
      hasNull_canonicalList should]
  | .nop _ => .rfl
  | .term .. | .terms .. | .range .. | .startsWith .. | .regexp .. | .wildcard .. | .queryString ..
  | .present _ | .missing _ | .matchAll => hasNull_canonical_of_isLeaf rfl

theorem hasNull_canonicalList : (cs : List Criteria) →
    ((contentOfAll (canonicalList cs)).HasNull ↔ (contentOfAll cs).HasNull)
  | [] => .rfl
  | c :: rest => by
    rw [canonicalList, contentOfAll, contentOfAll, Content.hasNull_add, Content.hasNull_add,
      hasNull_canonical c, hasNull_canonicalList rest]

end

theorem hasNull_of_same (h : c.same d = true) : c.content.HasNull ↔ d.content.HasNull := by
  rw [← hasNull_canonical c, ← hasNull_canonical d, show c.canonical = d.canonical from eq_of_beq h]

/-! ### Nodes -/

mutual

/-- Without place holders, the content tells what the nodes do. -/
theorem hasNull_content_iff : (c : Criteria) → (∀ d ∈ c.nodes, d.isNop = false) →
    (c.content.HasNull ↔ ∃ d ∈ c.nodes, d.testsNull = true)
  | .not inner, h => by
    have hinner := hasNull_content_iff inner fun d hd => h d (List.mem_cons_of_mem _ hd)
    simpa [content, nodes, testsNull] using hinner
  | .and children, h | .or children, h => by
    have hchildren :=
      hasNull_contentOfAll_iff children fun d hd => h d (List.mem_cons_of_mem _ hd)
    simpa [content, nodes, testsNull] using hchildren
  | .bool must mustNot should, h => by
    have hclauses : ∀ d ∈ nodesOfAll must ++ nodesOfAll mustNot ++ nodesOfAll should,
        d.isNop = false := fun d hd => h d (List.mem_cons_of_mem _ hd)
    obtain ⟨hboth, hshould⟩ := List.forall_mem_append.1 hclauses
    obtain ⟨hmust, hmustNot⟩ := List.forall_mem_append.1 hboth
    rw [content, nodes]
    simp only [Content.hasNull_add, hasNull_contentOfAll_iff must hmust,
      hasNull_contentOfAll_iff mustNot hmustNot, hasNull_contentOfAll_iff should hshould]
    simp [testsNull, or_and_right, exists_or, or_assoc]
  | .nop children, h => by
    have hnop := h (.nop children) List.mem_cons_self
    cases hnop
  | .term .., _ | .terms .., _ | .range .., _ | .startsWith .., _ | .regexp .., _
  | .wildcard .., _ | .queryString .., _ | .present _, _ | .missing _, _ | .matchAll, _ => by
    rw [hasNull_of_isLeaf rfl, nodes_of_isLeaf rfl]
    simp

theorem hasNull_contentOfAll_iff : (cs : List Criteria) →
    (∀ d ∈ nodesOfAll cs, d.isNop = false) →
    ((contentOfAll cs).HasNull ↔ ∃ d ∈ nodesOfAll cs, d.testsNull = true)
  | [], _ => by simp [nodesOfAll]
  | c :: rest, h => by
    obtain ⟨hc, hrest⟩ := List.forall_mem_append.1 h
    rw [contentOfAll, Content.hasNull_add, hasNull_content_iff c hc,
      hasNull_contentOfAll_iff rest hrest, nodesOfAll]
    simp [or_and_right, exists_or]

end

theorem nullFree_iff (h : ∀ d ∈ c.nodes, d.isNop = false) : c.NullFree ↔ ¬c.content.HasNull := by
  rw [hasNull_content_iff c h, NullFree]
  simp

theorem IsFilter.nullFree_iff (h : c.IsFilter) : c.NullFree ↔ ¬c.content.HasNull :=
  Criteria.nullFree_iff fun d hd => (h.onlyFilters d hd).2

theorem IsClause.isNop (h : c.IsClause) : c.isNop = false := by
  rcases h with hfilter | hleaf
  · exact hfilter.isNop
  · exact isNop_of_isQueryContext (isQueryContext_of_isScoringLeaf hleaf)

theorem IsQuery.nullFree_iff (h : c.IsQuery) : c.NullFree ↔ ¬c.content.HasNull := by
  refine Criteria.nullFree_iff fun d hd => ?_
  rcases h.of_mem_nodes hd with rfl | hclause
  · cases h with
    | clause hclause => exact hclause.isNop
    | bool => rfl
  · exact hclause.isNop

end Criteria

end SearchQuery
