import SearchQuery.Proofs.Criteria.Nodes

/-!
# Properties of leaves

What holds of all leaves of some criteria holds of all leaves of every combination of them, provided
that it passes from two ranges to the one that they are merged into.

* `EveryLeaf`: a property of all leaves, at any depth.
* `EveryLeaf.andAll`, `EveryLeaf.orAll`, `EveryLeaf.andInto`, `EveryLeaf.boolMust`,
  `EveryLeaf.boolShould`: one lemma for each way to combine.
-/

namespace SearchQuery

namespace Criteria

def isLeaf (c : Criteria) : Bool := c.isFilterLeaf || c.isScoringLeaf

/-- What holds of every leaf of the criteria, at any depth. -/
def EveryLeaf (P : Criteria → Prop) (c : Criteria) : Prop :=
  ∀ d ∈ c.nodes, d.isLeaf = true → P d

variable {P Q : Criteria → Prop} {c : Criteria} {cs : List Criteria} {current : Option Criteria}

theorem nodes_of_isLeaf (h : c.isLeaf = true) : c.nodes = [c] := by
  rcases Bool.or_eq_true_iff.1 h with h | h
  · exact nodes_of_isFilterLeaf h
  · exact nodes_of_isScoringLeaf h

theorem everyLeaf_of_isLeaf (h : c.isLeaf = true) : c.EveryLeaf P ↔ P c := by
  simp [EveryLeaf, nodes_of_isLeaf h, h]

/-! ### Compounds -/

/-- The leaves of a compound are those of its children. -/
theorem everyLeaf_compound (hc : c.isLeaf = false) (hnodes : c.nodes = c :: nodesOfAll cs) :
    c.EveryLeaf P ↔ ∀ d ∈ cs, d.EveryLeaf P := by
  constructor
  · intro h d hd e he
    exact h e (by rw [hnodes]; exact List.mem_cons_of_mem _ (mem_nodesOfAll.2 ⟨d, hd, he⟩))
  · intro h e he hleaf
    rw [hnodes] at he
    rcases List.mem_cons.1 he with rfl | he
    · rw [hc] at hleaf
      cases hleaf
    · obtain ⟨d, hd, he⟩ := mem_nodesOfAll.1 he
      exact h d hd e he hleaf

theorem everyLeaf_not : (not c).EveryLeaf P ↔ c.EveryLeaf P := by
  have hnodes : (not c).nodes = not c :: nodesOfAll [c] := by simp [nodes, nodesOfAll]
  rw [everyLeaf_compound rfl hnodes, List.forall_mem_singleton]

theorem everyLeaf_and : (and cs).EveryLeaf P ↔ ∀ c ∈ cs, c.EveryLeaf P :=
  everyLeaf_compound rfl rfl

theorem everyLeaf_or : (or cs).EveryLeaf P ↔ ∀ c ∈ cs, c.EveryLeaf P :=
  everyLeaf_compound rfl rfl

theorem everyLeaf_nop : (nop cs).EveryLeaf P ↔ ∀ c ∈ cs, c.EveryLeaf P :=
  everyLeaf_compound rfl rfl

theorem everyLeaf_bool {must mustNot should : List Criteria} :
    (bool must mustNot should).EveryLeaf P ↔
      ∀ c ∈ must ++ mustNot ++ should, c.EveryLeaf P :=
  everyLeaf_compound rfl (by simp [nodes, nodesOfAll_eq])

theorem forall_conjuncts_everyLeaf : (∀ d ∈ c.conjuncts, d.EveryLeaf P) ↔ c.EveryLeaf P := by
  unfold conjuncts
  split
  · exact everyLeaf_and.symm
  · exact List.forall_mem_singleton

theorem forall_disjuncts_everyLeaf : (∀ d ∈ c.disjuncts, d.EveryLeaf P) ↔ c.EveryLeaf P := by
  unfold disjuncts
  split
  · exact everyLeaf_or.symm
  · exact List.forall_mem_singleton

namespace EveryLeaf

theorem keptByMerging (hP : KeptByMerging P) : KeptByMerging (EveryLeaf P) where
  merge hcan hbounds hmore := by
    rw [everyLeaf_of_isLeaf rfl] at hbounds hmore ⊢
    exact hP.merge hcan hbounds hmore

/-! ### Combinations -/

theorem andAll (hP : KeptByMerging P) (h : ∀ d ∈ cs, d.EveryLeaf P)
    (hc : Criteria.andAll cs = some c) : c.EveryLeaf P := by
  have hmerged : ∀ d ∈ mergeRanges (cs.flatMap conjuncts), d.EveryLeaf P := by
    refine (keptByMerging hP).mergeRanges fun d hd => ?_
    obtain ⟨e, he, hde⟩ := List.mem_flatMap.1 hd
    exact forall_conjuncts_everyLeaf.2 (h e he) d hde
  unfold Criteria.andAll at hc
  split at hc
  · cases hc
  · rename_i d hd
    cases hc
    exact hmerged c (by simp [hd])
  · cases hc
    exact everyLeaf_and.2 hmerged

theorem orAll (h : ∀ d ∈ cs, d.EveryLeaf P) (hc : Criteria.orAll cs = some c) :
    c.EveryLeaf P := by
  have hflat : ∀ d ∈ cs.flatMap disjuncts, d.EveryLeaf P := by
    intro d hd
    obtain ⟨e, he, hde⟩ := List.mem_flatMap.1 hd
    exact forall_disjuncts_everyLeaf.2 (h e he) d hde
  unfold Criteria.orAll at hc
  split at hc
  · cases hc
  · rename_i d hd
    cases hc
    exact hflat c (by simp [hd])
  · cases hc
    exact everyLeaf_or.2 hflat

theorem andInto (hP : KeptByMerging P) (hcurrent : ∀ d ∈ current, d.EveryLeaf P)
    (hc : c.EveryLeaf P) : (Criteria.andInto current c).EveryLeaf P := by
  cases current with
  | none => exact hc
  | some root =>
    have hparts : ∀ d ∈ [root, c], d.EveryLeaf P := by
      simpa using ⟨hcurrent root rfl, hc⟩
    rw [Criteria.andInto]
    cases hcombined : Criteria.andAll [root, c] with
    | none => exact everyLeaf_and.2 (by simp)
    | some combined => exact andAll hP hparts hcombined

theorem boolMust (hcurrent : ∀ d ∈ current, d.EveryLeaf P) (hc : c.EveryLeaf P) :
    (Criteria.boolMust current c).EveryLeaf P := by
  unfold Criteria.boolMust
  split
  · exact everyLeaf_bool.2 (by simpa using hc)
  · have hclauses := everyLeaf_bool.1 (hcurrent _ rfl)
    refine everyLeaf_bool.2 fun d hd => ?_
    simp only [List.mem_append, List.mem_singleton] at hd hclauses
    grind
  · exact everyLeaf_bool.2 (by simpa using ⟨hcurrent _ rfl, hc⟩)

theorem boolShould (hcurrent : ∀ d ∈ current, d.EveryLeaf P) (hc : c.EveryLeaf P) :
    (Criteria.boolShould current c).EveryLeaf P := by
  unfold Criteria.boolShould
  split
  · exact everyLeaf_bool.2 (by simpa using hc)
  · have hclauses := everyLeaf_bool.1 (hcurrent _ rfl)
    refine everyLeaf_bool.2 fun d hd => ?_
    rw [← List.append_assoc, List.mem_append, List.mem_singleton] at hd
    rcases hd with hd | rfl
    · exact hclauses d hd
    · exact hc
  · exact everyLeaf_bool.2 (by simpa using ⟨hcurrent _ rfl, hc⟩)

end EveryLeaf

end Criteria

end SearchQuery
