import SearchQuery.Proofs.Criteria.Bounds
import SearchQuery.Proofs.Plan.RequestLeaves

/-!
# The bounds of planned ranges

A range is written as an object with one member for each comparison, so two bounds of one side would
leave only one of them. No plan has such a range: a predicate bounds one side, and ranges are merged
only where their sides do not clash.

* `RangeBound.Clear`: bounds that are all written.
* `plan_clear`: every range of a planned request has such bounds, also where the filter of the
  request is merged with the restriction of a facet.
-/

namespace SearchQuery

/-! ### Ranges without clashes -/

namespace RangeBound

/-- At least one bound, and no two on one side. -/
structure Clear (bounds : List RangeBound) : Prop extends Separate bounds where
  ne_nil : bounds ≠ []

theorem clear_singleton (b : RangeBound) : Clear [b] := by
  refine ⟨⟨?_, ?_⟩, by simp⟩
  · exact List.countP_le_length
  · exact List.countP_le_length

theorem Clear.extend {bounds more : List RangeBound} (h : Clear bounds)
    (hcan : canCombine bounds more = true) : Clear (extend bounds more) := by
  refine ⟨separate_extend hcan, ?_⟩
  obtain ⟨added, hextend, -⟩ := exists_extend bounds more
  simp [hextend, h.ne_nil]

end RangeBound

namespace Criteria

/-- A range keeps the sides of its bounds apart. -/
def ClearlyBounded : Criteria → Prop
  | .range _ _ bounds => RangeBound.Clear bounds
  | _ => True

theorem Tests.clearlyBounded {field : String} {last : Member} {c : Criteria}
    (h : c.Tests field last) : c.ClearlyBounded := by
  cases h with
  | bound b => exact RangeBound.clear_singleton b
  | term | terms | startsWith | regexp | wildcard | present | missing => trivial

/-- Bounds on different sides are written one by one. -/
theorem toBody_range_of_clear {bounds : List RangeBound} (h : RangeBound.Clear bounds)
    (m : FieldMapping) (field : String) (member : Member) :
    (range field member bounds).toBody m = .ok (single "range" (single field
      (.obj (bounds.map fun b => (b.comparison.name, m.formatValue member b.value))))) := by
  rw [toBody, boundMembers_of_nodup h.nodup]

end Criteria

theorem LeafInvariant.clearlyBounded {m : FieldMapping} {pathPrefix : String} :
    LeafInvariant m pathPrefix Criteria.ClearlyBounded where
  merge hcan hbounds _ := RangeBound.Clear.extend hbounds hcan
  matchAll := trivial
  field _ h := h.clearlyBounded
  text _ := trivial

theorem MappingOptions.typeExists_clearlyBounded (options : MappingOptions) (type : DocumentType) :
    (options.typeExists type).EveryLeaf Criteria.ClearlyBounded := by
  unfold MappingOptions.typeExists
  split <;> exact (Criteria.everyLeaf_of_isLeaf rfl).2 trivial

/-! ### Planned requests -/

namespace Expression

variable {pathPrefix : String} {query : Expression} {t : QueryPlan}

/-- **No bound is lost.** Under the conventional mapping with any options, every range at any depth
of what a planned request asks has a bound, at most one lower and at most one upper bound, and is
written with one member for each of them. -/
theorem plan_clear {options : MappingOptions} {documentPrefix : Option String}
    (hplan : (query.plan (options.mapping documentPrefix) pathPrefix).result = .ok t) :
    ∀ c, t.request.HasCriteria c →
      ∀ field member bounds, .range field member bounds ∈ c.nodes →
        RangeBound.Clear bounds ∧
          (Criteria.range field member bounds).toBody (options.mapping documentPrefix) =
            .ok (Criteria.single "range" (Criteria.single field (.obj (bounds.map fun b =>
              (b.comparison.name, options.formatValue member b.value))))) := by
  intro c hc field member bounds hrange
  have hinvariant : LeafInvariant (options.mapping documentPrefix) pathPrefix
      Criteria.ClearlyBounded := .clearlyBounded
  have hleaves : t.request.EveryLeaf Criteria.ClearlyBounded :=
    plan_everyLeaf hinvariant options.typeExists_clearlyBounded hplan
  have hclear : RangeBound.Clear bounds :=
    hleaves.hasCriteria hinvariant.toKeptByMerging hc _ hrange rfl
  exact ⟨hclear, Criteria.toBody_range_of_clear hclear _ _ _⟩

end Expression

namespace Film

def madeAfter (y : Int) : Expression :=
  .lambda "f" (((Expression.parameter "f").member year).greaterThan (.constant (.int y)))

def madeBefore (y : Int) : Expression :=
  .lambda "f" (((Expression.parameter "f").member year).lessThan (.constant (.int y)))

/-- For each title, how many of the films made after 1970, and also after 1980, are from before
1990. -/
def countsBefore1990 : Expression :=
  ((((Expression.source documents).filterBy (madeAfter 1970)).filterBy (madeAfter 1980)).groupBy
    (.lambda "f" ((Expression.parameter "f").member title))).select
      (.lambda "g" ((Expression.parameter "g").countWhere (madeBefore 1990)))

end Film

namespace Expression

/-- The two lower bounds stay apart, and the upper bound of the facet joins the first of them. -/
theorem plan_clear_film :
    ∃ t, (Film.countsBefore1990.plan Film.mapping "").result = .ok t ∧
      ∃ c, t.request.HasCriteria c ∧
        .range "year" Film.year [⟨.greaterThan, .int 1980⟩, ⟨.lessThan, .int 1990⟩] ∈ c.nodes ∧
        RangeBound.Clear [⟨.greaterThan, .int 1980⟩, ⟨.lessThan, .int 1990⟩] := by
  have h : (Film.countsBefore1990.plan Film.mapping "").result.toOption.map
      (fun t => t.request.facets.map (Facet.combinedFilter t.request.filter)) =
        some [some (.and [
          .range "year" Film.year [⟨.greaterThan, .int 1980⟩, ⟨.lessThan, .int 1990⟩],
          .range "year" Film.year [⟨.greaterThan, .int 1970⟩]])] := by decide
  obtain ⟨t, ht, hcombined⟩ := Option.map_eq_some_iff.1 h
  obtain ⟨facet, hfacet, hc⟩ := List.mem_map.1
    (show some _ ∈ t.request.facets.map (Facet.combinedFilter t.request.filter) by
      rw [hcombined]
      exact List.mem_singleton_self _)
  have hplan : (Film.countsBefore1990.plan Film.mapping "").result = .ok t := toOption_eq_some.1 ht
  have hcriteria : t.request.HasCriteria _ := .combined hfacet hc
  refine ⟨t, hplan, _, hcriteria, ?_, (plan_clear hplan _ hcriteria "year" Film.year _ ?_).1⟩ <;>
    simp [Criteria.nodes, Criteria.nodesOfAll]

end Expression

end SearchQuery
