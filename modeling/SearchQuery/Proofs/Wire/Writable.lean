import SearchQuery.Proofs.Wire.Faults

/-!
# Writing criteria and requests

* `Criteria.Writable.exists_toBody`, `exists_toLucene`: a writable criteria has a form in a body and
  a form in query syntax, under any mapping.
* `SearchRequest.Writable`: the query, the filter, and what each facet counts over are writable.
  Such a request has both forms, whatever the connection.
-/

namespace SearchQuery

variable {m : FieldMapping}

namespace Criteria

variable {c d : Criteria} {cs : List Criteria}

theorem mem_reachedInAll : d ∈ reachedInAll cs ↔ ∃ c ∈ cs, d ∈ c.reached := by
  induction cs with
  | nil => simp
  | cons c rest ih => simp [ih]

/-- Nothing that is reached in a writable criteria is at fault. -/
theorem Writable.isSound_of_mem_reached (h : c.Writable) (hd : d ∈ c.reached) : d.IsSound := by
  induction h with
  | leaf h =>
    rename_i c
    have hleaf : c.reached = [c] ∧ c.fault? = none := by
      cases c <;> first | exact ⟨rfl, rfl⟩ | cases h
    rw [hleaf.1, List.mem_singleton] at hd
    rw [hd, ← fault?_eq_none_iff]
    exact hleaf.2
  | not _ ih =>
    rcases List.mem_cons.1 hd with rfl | hd
    · simp [IsSound, isNop]
    · exact ih hd
  | and hne _ ih =>
    rcases List.mem_cons.1 hd with rfl | hd
    · simpa [IsSound, isNop] using hne
    · obtain ⟨c, hc, hd⟩ := mem_reachedInAll.1 hd
      exact ih c hc hd
  | or hne _ ih =>
    rcases List.mem_cons.1 hd with rfl | hd
    · simpa [IsSound, isNop] using hne
    · obtain ⟨c, hc, hd⟩ := mem_reachedInAll.1 hd
      exact ih c hc hd
  | bool hne _ ih =>
    rcases List.mem_cons.1 hd with rfl | hd
    · simpa [IsSound, isNop, and_assoc] using hne
    · simp only [List.mem_append, mem_reachedInAll] at hd ih
      rcases hd with ⟨c, hc, hd⟩ | ⟨c, hc, hd⟩ | ⟨c, hc, hd⟩
      · exact ih c (.inl (.inl hc)) hd
      · exact ih c (.inr hc) hd
      · exact ih c (.inl (.inr hc)) hd

theorem Writable.exists_toBody (h : c.Writable) : ∃ body, c.toBody m = .ok body :=
  toBody_writesByNode.exists_ok_iff.2 fun _ hd => h.isSound_of_mem_reached hd

theorem Writable.exists_toLucene (h : c.Writable) : ∃ text, c.toLucene m = .ok text :=
  toLucene_writesByNode.exists_ok_iff.2 fun _ hd => h.isSound_of_mem_reached hd

end Criteria

/-! ### Facets -/

namespace Facet

variable {filter : Option Criteria} {facet : Facet} {facets : List Facet}

theorem exists_toBody (h : ∀ c ∈ facet.combinedFilter filter, c.Writable) :
    ∃ body, facet.toBody m filter = .ok body := by
  unfold toBody
  cases hfilter : facet.combinedFilter filter with
  | none => exact ⟨_, rfl⟩
  | some c =>
    obtain ⟨body, hbody⟩ := (h c hfilter).exists_toBody (m := m)
    exact ⟨_, by simp only [hbody]; rfl⟩

theorem exists_listToBody (h : ∀ facet ∈ facets, ∀ c ∈ facet.combinedFilter filter, c.Writable) :
    ∃ bodies, listToBody m filter facets = .ok bodies := by
  induction facets with
  | nil => exact ⟨[], rfl⟩
  | cons facet rest ih =>
    rw [List.forall_mem_cons] at h
    obtain ⟨body, hbody⟩ := exists_toBody (m := m) h.1
    obtain ⟨bodies, hbodies⟩ := ih h.2
    exact ⟨_, by rw [listToBody, hbody, hbodies]; rfl⟩

end Facet

/-! ### Requests -/

namespace SearchRequest

/-- The query, the filter and the documents that each facet is about are written criteria. -/
structure Writable (request : SearchRequest) : Prop where
  query : ∀ c ∈ request.query, c.Writable
  filter : ∀ c ∈ request.filter, c.Writable
  facets : ∀ facet ∈ request.facets, ∀ c ∈ facet.combinedFilter request.filter, c.Writable

variable {request : SearchRequest}

theorem exists_criteriaBody {c : Option Criteria} (h : ∀ d ∈ c, d.Writable) :
    ∃ body, criteriaBody m c = .ok body := by
  cases c with
  | none => exact ⟨_, rfl⟩
  | some d =>
    obtain ⟨body, hbody⟩ := (h d rfl).exists_toBody (m := m)
    exact ⟨_, by rw [criteriaBody, hbody]; rfl⟩

theorem Writable.hitFilter (h : request.Writable) : ∀ c ∈ request.hitFilter, c.Writable := by
  unfold SearchRequest.hitFilter
  split
  · exact h.filter
  · simp

theorem Writable.exists_postBody (h : request.Writable) (config : ConnectionConfig) :
    ∃ body, request.postBody config m = .ok body := by
  obtain ⟨query, hquery⟩ := exists_criteriaBody (m := m) h.query
  obtain ⟨filter, hfilter⟩ := exists_criteriaBody (m := m) h.hitFilter
  obtain ⟨facets, hfacets⟩ := Facet.exists_listToBody (m := m) h.facets
  exact ⟨_, by rw [postBody, toBody, hquery, hfilter, hfacets]; rfl⟩

theorem Writable.exists_queryText (h : request.Writable) :
    ∃ text, request.queryText m = .ok text := by
  unfold queryText
  cases hquery : request.query with
  | none =>
    cases hfilter : request.filter with
    | none => exact ⟨_, rfl⟩
    | some f =>
      obtain ⟨text, htext⟩ := (h.filter f hfilter).exists_toLucene (m := m)
      exact ⟨_, by simp only [htext]; rfl⟩
  | some q =>
    obtain ⟨text, htext⟩ := (h.query q hquery).exists_toLucene (m := m)
    cases hfilter : request.filter with
    | none => exact ⟨_, by simp only [htext]; rfl⟩
    | some f =>
      obtain ⟨text', htext'⟩ := (h.filter f hfilter).exists_toLucene (m := m)
      exact ⟨_, by simp only [htext, htext']; rfl⟩

theorem Writable.exists_getUri (h : request.Writable) (config : ConnectionConfig) :
    ∃ uri, request.getUri config m = .ok uri := by
  obtain ⟨text, htext⟩ := h.exists_queryText (m := m)
  exact ⟨_, by rw [getUri, parameters, htext]; rfl⟩

/-- The chosen form of a request is one of its two forms. -/
theorem Writable.exists_format (h : request.Writable) (config : ConnectionConfig) :
    ∃ f, (request.format config m).result = .ok f := by
  obtain ⟨body, hbody⟩ := h.exists_postBody (m := m) config
  obtain ⟨uri, huri⟩ := h.exists_getUri (m := m) config
  have hformat : (request.format config m).result = request.formatted config m := by
    rw [format, Traced.result_finish, Traced.result_bind, Traced.result_ofExcept]
    rfl
  rw [hformat]
  unfold formatted
  split
  · exact ⟨_, by rw [huri]; rfl⟩
  · exact ⟨_, by rw [hbody]; rfl⟩

end SearchRequest

end SearchQuery
