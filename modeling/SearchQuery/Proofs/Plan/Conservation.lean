import SearchQuery.Proofs.Criteria.Content
import SearchQuery.Proofs.Plan.Contribution

/-!
# Leaves are conserved

The query and the filter of a request hold together exactly the leaves of the predicates of the
chain, wherever lifting and merging have moved them.

* `Formula.split_keeps`: what is lifted out of a formula and what remains of it keep the content of
  its leaves.
* `Placement.foldlM_keeps`: so do the query and the filter over a whole run.
-/

namespace SearchQuery

open Lowered (Connective)

namespace Split

/-- The content of what is lifted and of what remains. -/
def content (s : Split) : Content :=
  Criteria.contentOfAll (s.lifted.map (·.2)) + s.rest.content

variable {s l r : Split}

/-! ### Splitting -/

/-- Sides that are lifted are counted once: they are not among what remains. -/
theorem content_remainder {a b : Criteria}
    (hscoring : (a.isQueryContext || b.isQueryContext) = true) :
    Criteria.contentOfAll ([a, b].filter Criteria.isQueryContext) +
      (Connective.remainder a b).content = a.content + b.content := by
  unfold Connective.remainder
  cases ha : a.isQueryContext <;> cases hb : b.isQueryContext
  · simp [ha, hb] at hscoring
  · simp [ha, hb, add_comm]
  · simp [ha, hb]
  · simp [ha, hb, Criteria.content]

theorem keeps_joinFilters {op : Connective} {a b c : Criteria}
    (h : op.joinFilters a b = .ok c) : c.content.Keeps (a.content + b.content) := by
  rcases Connective.joinFilters_cases h with ⟨ha, rfl⟩ | ⟨-, hb, rfl⟩ | ⟨-, -, hcombine⟩
  · rw [Criteria.content_of_isNop ha, zero_add]
    exact .refl _
  · rw [Criteria.content_of_isNop hb, add_zero]
    exact .refl _
  · have htwo : Criteria.contentOfAll [a, b] = a.content + b.content := by
      rw [Criteria.contentOfAll, Criteria.contentOfAll_singleton]
    rw [← htwo]
    cases op with
    | and =>
      have hand := Criteria.keeps_andAll [a, b]
      rwa [show Criteria.andAll [a, b] = some c from hcombine] at hand
    | or =>
      have hor := Criteria.contentOfOption_orAll [a, b]
      rw [show Criteria.orAll [a, b] = some c from hcombine] at hor
      exact .of_eq hor

theorem keeps_join {op : Connective} (h : Split.join op l r = some s) :
    s.content.Keeps (l.content + r.content) := by
  have hpair : ∀ cs : List Criteria, (cs.map fun c => (op, c)).map (·.2) = cs := by
    intro cs
    simp
  rcases join_cases h with ⟨hscoring, rfl⟩ | ⟨-, -, c, hc, rfl⟩
  · refine .of_eq ?_
    rw [content, List.map_append, List.map_append, hpair, Criteria.contentOfAll_append,
      Criteria.contentOfAll_append, add_assoc, content_remainder hscoring, content, content]
    ac_rfl
  · have hlifted := Content.Keeps.refl
      (Criteria.contentOfAll (l.lifted.map (·.2)) + Criteria.contentOfAll (r.lifted.map (·.2)))
    have hall := hlifted.add (keeps_joinFilters hc)
    rw [add_add_add_comm] at hall
    rwa [content, List.map_append, Criteria.contentOfAll_append]

theorem content_negate (h : s.negate = some r) : r.content = s.content := by
  obtain ⟨-, hlifted, rfl⟩ := negate_cases h
  rw [content, content, hlifted, Criteria.content]
  by_cases hnop : s.rest.isNop = true
  · rw [if_pos hnop, Criteria.content_of_isNop hnop]
    rfl
  · rw [if_neg hnop]

end Split

namespace Formula

/-- The content of the leaves of a formula. -/
def content (f : Formula) : Content := Criteria.contentOfAll f.atoms

/-- **Splitting loses nothing.** What is lifted out of a formula and what remains of it keep the
content of its leaves. -/
theorem split_keeps {f : Formula} {s : Split} (h : f.split = some s) :
    s.content.Keeps f.content := by
  induction f generalizing s with
  | atom c =>
    cases h
    exact .of_eq (by simp [Split.content, content, atoms])
  | not inner ih =>
    obtain ⟨i, hi, hs⟩ := Option.bind_eq_some_iff.1 h
    rw [Split.content_negate hs]
    exact ih hi
  | join op left right ihl ihr =>
    obtain ⟨l, hl, h⟩ := Option.bind_eq_some_iff.1 h
    obtain ⟨r, hr, hs⟩ := Option.bind_eq_some_iff.1 h
    rw [content, atoms, Criteria.contentOfAll_append]
    exact (Split.keeps_join hs).trans ((ihl hl).add (ihr hr))

end Formula

/-! ### Placing requirements -/

namespace Placement

/-- The content of the query and of the filter. -/
def content (p : Placement) : Content :=
  Criteria.contentOfOption p.query + Criteria.contentOfOption p.filter

variable {p q : Placement} {rs : List Requirement}

theorem contentOfOption_liftAll (query : Option Criteria) (lifted : List (Connective × Criteria)) :
    Criteria.contentOfOption (liftAll query lifted) =
      Criteria.contentOfOption query + Criteria.contentOfAll (lifted.map (·.2)) := by
  induction lifted generalizing query with
  | nil => simp [liftAll]
  | cons l rest ih =>
    obtain ⟨op, c⟩ := l
    have hlift : (op.lift query c).content = Criteria.contentOfOption query + c.content := by
      cases op with
      | and => exact Criteria.content_boolMust query c
      | or => exact Criteria.content_boolShould query c
    refine (ih (some (op.lift query c))).trans ?_
    rw [show Criteria.contentOfOption (some (op.lift query c)) = _ from hlift, List.map_cons,
      Criteria.contentOfAll, add_assoc]

theorem content_lift (lifted : List (Connective × Criteria)) :
    (p.lift lifted).content = p.content + Criteria.contentOfAll (lifted.map (·.2)) := by
  rw [content, lift, contentOfOption_liftAll, content]
  ac_rfl

theorem content_score (c : Criteria) : (p.score c).content = p.content + c.content := by
  obtain ⟨query, filter⟩ := p
  cases query with
  | none => simp [score, content, Criteria.contentOfOption, add_comm]
  | some existing =>
    have hmust := Criteria.content_boolMust (some existing) c
    simp only [score, content, Criteria.contentOfOption, Option.elim_some] at hmust ⊢
    rw [hmust]
    ac_rfl

theorem keeps_restrict (c : Criteria) : (p.restrict c).content.Keeps (p.content + c.content) := by
  have hinto := Criteria.keeps_andInto p.filter c
  have hall := (Content.Keeps.refl (Criteria.contentOfOption p.query)).add hinto
  rwa [← add_assoc] at hall

theorem keeps_put (scores : Bool) (c : Criteria) :
    (p.put scores c).content.Keeps (p.content + c.content) := by
  unfold put
  split_ifs with hnop hscores
  · rw [Criteria.content_of_isNop hnop, add_zero]
    exact .refl _
  · exact .of_eq (content_score c)
  · exact keeps_restrict c

theorem keeps_add {r : Requirement} (h : p.add r = some q) :
    q.content.Keeps (p.content + r.formula.content) := by
  obtain ⟨s, hs, rfl⟩ := Option.map_eq_some_iff.1 h
  have hput := keeps_put (p := p.lift s.lifted) r.scores s.rest
  rw [content_lift, add_assoc] at hput
  exact hput.trans ((Content.Keeps.refl _).add (Formula.split_keeps hs))

theorem foldlM_keeps (h : rs.foldlM add empty = some p) :
    p.content.Keeps (rs.map (·.formula.content)).sum := by
  refine foldlM_induct
    (motive := fun placed q => q.content.Keeps (placed.map (·.formula.content)).sum)
    (.of_eq rfl) (fun placed q r q' _ hq hadd => ?_) h
  rw [List.map_append, List.sum_append, List.map_singleton, List.sum_singleton]
  exact (keeps_add hadd).trans (hq.add (.refl _))

end Placement

namespace Expression

variable {m : FieldMapping} {pathPrefix : String} {query folded : Expression} {t : QueryPlan}

end Expression

end SearchQuery
