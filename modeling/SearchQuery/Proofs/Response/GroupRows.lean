import SearchQuery.Proofs.Json.Members
import SearchQuery.Proofs.Json.Sameness
import SearchQuery.Proofs.Plan.FacetNames

/-!
# Rows of groups

Facets with terms are read entry by entry. An entry goes to the row of its term, where it takes the
place of an earlier one of the same facet; a term that no row has yet gets a new row at the end.

* `reported`: what the facets report, in their order.
* `RowsOf`: the rows of what was read so far. `RowsOf.addEntry`: each entry keeps it.
* `fromTerms_rows`: so there is one row for each term, in the order of the first occurrences, and a
  statistic is that of the last entry for the term. The projection of an aggregate query by a field
  has one value for each row.
-/

namespace SearchQuery

namespace AggregateRow

variable {rows : List AggregateRow} {entries : List (String × Json × Json)} {facet name : String}
  {term entry : Json}

/-! ### Entries -/

/-- What facets report: the name of the facet, a term, and the entry for the term. -/
def reported (facets : List (String × Json)) : List (String × Json × Json) :=
  facets.flatMap termEntries

/-- Bodies without an array of terms and entries without a term report nothing. -/
theorem mem_reported {facets : List (String × Json)} :
    (name, term, entry) ∈ reported facets ↔
      ∃ body items, (name, body) ∈ facets ∧ body.member? "terms" = some (.arr items) ∧
        entry ∈ items ∧ entry.member? "term" = some term := by
  have hitems : ∀ body : Json, ∀ e, e ∈ ((body.member? "terms").bind Json.items?).getD [] ↔
      ∃ items, body.member? "terms" = some (.arr items) ∧ e ∈ items := by
    intro body e
    cases body.member? "terms" with
    | none => simp
    | some v => cases v <;> simp [Json.items?]
  simp only [reported, List.mem_flatMap, termEntries, List.mem_filterMap, hitems,
    Option.map_eq_some_iff, Prod.mk.injEq]
  constructor
  · rintro ⟨⟨_, body⟩, hbody, _, ⟨items, hitems, hentry⟩, _, hterm, rfl, rfl, rfl⟩
    exact ⟨body, items, hbody, hitems, hentry, hterm⟩
  · rintro ⟨body, items, hbody, hitems, hentry, hterm⟩
    exact ⟨(name, body), hbody, entry, ⟨items, hitems, hentry⟩, term, hterm, rfl, rfl, rfl⟩

/-- The last entry of a facet for a term. -/
def lastReport? (entries : List (String × Json × Json)) (facet : String) (term : Json) :
    Option Json :=
  ((entries.filter fun e => e.1 == facet && e.2.1.same term).getLast?).map fun e => e.2.2

theorem lastReport?_concat (key : Json) :
    lastReport? (entries ++ [(name, term, entry)]) facet key =
      if name = facet ∧ term.same key = true then some entry
      else lastReport? entries facet key := by
  by_cases hcond : name = facet ∧ term.same key = true
  · rw [if_pos hcond, lastReport?, List.filter_append]
    simp [hcond]
  · have hskip : (name == facet && term.same key) = false := by
      simpa [imp_iff_not_or] using hcond
    rw [if_neg hcond, lastReport?, List.filter_append, List.filter_singleton, hskip, cond_false,
      List.append_nil, lastReport?]

theorem lastReport?_eq_none (h : ∀ e ∈ entries, e.2.1.same term = false) :
    lastReport? entries facet term = none := by
  have hnone : (entries.filter fun e => e.1 == facet && e.2.1.same term) = [] :=
    List.filter_eq_nil_iff.2 fun e he => by simp [h e he]
  rw [lastReport?, hnone]
  rfl

/-! ### Adding an entry -/

/-- A term that no row has gets a row at the end. -/
theorem addEntry_of_new (h : ∀ row ∈ rows, row.key.same term = false) :
    addEntry facet term entry rows = rows ++ [⟨term, [(facet, entry)]⟩] := by
  induction rows with
  | nil => rfl
  | cons row rest ih =>
    rw [List.forall_mem_cons] at h
    rw [addEntry, if_neg (by simp [h.1]), ih h.2, List.cons_append]

/-- Otherwise the first row with the term takes the entry. -/
theorem addEntry_of_known (facet : String) (entry : Json)
    (h : ∃ row ∈ rows, row.key.same term = true) :
    ∃ before row after, rows = before ++ row :: after ∧ row.key.same term = true ∧
      addEntry facet term entry rows =
        before ++ ⟨row.key, Json.insertMember facet entry row.entries⟩ :: after := by
  induction rows with
  | nil => simp at h
  | cons row rest ih =>
    by_cases hrow : row.key.same term = true
    · exact ⟨[], row, rest, rfl, hrow, by rw [addEntry, if_pos hrow]; rfl⟩
    · have hrest : ∃ row ∈ rest, row.key.same term = true := by
        simpa [hrow] using h
      obtain ⟨before, row', after, rfl, hrow', hadd⟩ := ih hrest
      refine ⟨row :: before, row', after, rfl, hrow', ?_⟩
      rw [addEntry, if_neg hrow, hadd]
      rfl

/-! ### Rows -/

/-- The rows of what was read: one for each term, with the last entry of each facet for the term. -/
structure RowsOf (entries : List (String × Json × Json)) (rows : List AggregateRow) : Prop where
  keys : rows.map key = Json.distinct (entries.map fun e => e.2.1)
  lookup : ∀ row ∈ rows, ∀ facet, row.entries.lookup facet = lastReport? entries facet row.key

namespace RowsOf

theorem nil : RowsOf [] [] where
  keys := rfl
  lookup := by simp

theorem apart (h : RowsOf entries rows) :
    rows.Pairwise fun row row' => row.key.same row'.key = false := by
  have hkeys := Json.pairwise_distinct (entries.map fun e => e.2.1)
  rw [← h.keys, List.pairwise_map] at hkeys
  exact hkeys

/-- A term has a row where some entry is for it. -/
theorem exists_row_iff (h : RowsOf entries rows) :
    (∃ row ∈ rows, row.key.same term = true) ↔ ∃ e ∈ entries, e.2.1.same term = true := by
  have hany := Json.any_same_distinct (entries.map fun e => e.2.1) term
  rw [← h.keys, List.any_map, List.any_map, Bool.eq_iff_iff, List.any_eq_true,
    List.any_eq_true] at hany
  exact hany

/-- Each entry that is read keeps the rows. -/
theorem addEntry (h : RowsOf entries rows) (facet : String) (term entry : Json) :
    RowsOf (entries ++ [(facet, term, entry)]) (AggregateRow.addEntry facet term entry rows) := by
  have hterms : Json.distinct ((entries ++ [(facet, term, entry)]).map fun e => e.2.1) =
      Json.pushNew (rows.map key) term := by
    rw [List.map_append, List.map_singleton, Json.distinct_concat, ← h.keys]
  -- the entry is none of a row with another term
  have hother : ∀ row ∈ rows, term.same row.key = false → ∀ name,
      row.entries.lookup name = lastReport? (entries ++ [(facet, term, entry)]) name row.key := by
    intro row hrow hterm name
    rw [lastReport?_concat, if_neg (by simp [hterm]), h.lookup row hrow]
  by_cases hknown : ∃ row ∈ rows, row.key.same term = true
  · have hany : (rows.map key).any (·.same term) = true := by
      rwa [List.any_map, List.any_eq_true]
    obtain ⟨before, row, after, rfl, hrow, hadd⟩ := addEntry_of_known facet entry hknown
    obtain ⟨-, hafter, hbefore⟩ := List.pairwise_append.1 h.apart
    have hapart : ∀ row' ∈ before ++ after, term.same row'.key = false := by
      intro row' hmem
      rw [← Json.same_congr_left hrow]
      rcases List.mem_append.1 hmem with hmem | hmem
      · rw [Json.same_comm]
        exact hbefore row' hmem row List.mem_cons_self
      · exact (List.pairwise_cons.1 hafter).1 row' hmem
    rw [hadd]
    refine ⟨?_, fun row' hrow' name => ?_⟩
    · rw [hterms, Json.pushNew, if_pos hany]
      simp
    · rcases List.mem_append.1 hrow' with hmem | hmem
      · exact hother row' (List.mem_append_left _ hmem) (hapart row' (List.mem_append_left _ hmem))
          name
      · rcases List.mem_cons.1 hmem with rfl | hmem
        · have hlookup := h.lookup row (List.mem_append_right _ List.mem_cons_self) name
          rw [Json.lookup_insertMember, lastReport?_concat, hlookup, Json.same_comm term, hrow]
          simp [eq_comm]
        · exact hother row' (List.mem_append_right _ (List.mem_cons_of_mem _ hmem))
            (hapart row' (List.mem_append_right _ hmem)) name
  · have hnew : ∀ row ∈ rows, row.key.same term = false := by simpa using hknown
    have hnone : ∀ e ∈ entries, e.2.1.same term = false := by
      have hentries := mt h.exists_row_iff.2 hknown
      simpa using hentries
    have hany : ¬ (rows.map key).any (·.same term) = true := by
      rwa [List.any_map, List.any_eq_true]
    rw [addEntry_of_new hnew]
    refine ⟨?_, fun row hrow name => ?_⟩
    · rw [hterms, Json.pushNew, if_neg hany, List.map_append]
      rfl
    · rcases List.mem_append.1 hrow with hmem | hmem
      · exact hother row hmem (by rw [Json.same_comm]; exact hnew row hmem) name
      · rw [List.mem_singleton.1 hmem, lookup_cons_eq_ite, lastReport?_concat,
          lastReport?_eq_none hnone]
        simp [Json.same_refl, eq_comm]

/-- Reading the facets entry by entry. -/
theorem fromTerms (facets : List (String × Json)) :
    RowsOf (reported facets) (AggregateRow.fromTerms facets) := by
  rw [AggregateRow.fromTerms, ← reported]
  induction reported facets using List.reverseRecOn with
  | nil => exact nil
  | append_singleton entries e ih =>
    rw [List.foldl_append]
    exact ih.addEntry e.1 e.2.1 e.2.2

end RowsOf

/-! ### Facets with terms -/

/-- What it means that rows flatten facets. -/
structure Flattens (facets : List (String × Json)) (rows : List AggregateRow) : Prop where
  /-- Each term has one row, and the rows are in the order of the first occurrences. -/
  keys : rows.map key = Json.distinct ((reported facets).map fun e => e.2.1)
  apart : rows.Pairwise fun row row' => row.key.same row'.key = false
  mentioned : ∀ term, (∃ row ∈ rows, row.key.same term = true) ↔
    ∃ name body items entry term', (name, body) ∈ facets ∧
      body.member? "terms" = some (.arr items) ∧ entry ∈ items ∧
      entry.member? "term" = some term' ∧ term'.same term = true
  statistic : ∀ row ∈ rows, ∀ facet s, row.statistic facet s =
    ((lastReport? (reported facets) facet row.key).bind (·.member? s.key)).getD
      (if s = .count then .int 0 else .null)

theorem fromTerms_flattens (facets : List (String × Json)) :
    Flattens facets (fromTerms facets) := by
  have hrows := RowsOf.fromTerms facets
  refine ⟨hrows.keys, hrows.apart, fun term => ?_, fun row hrow facet s => ?_⟩
  · rw [hrows.exists_row_iff]
    constructor
    · rintro ⟨⟨name, term', entry⟩, hentry, hsame⟩
      obtain ⟨body, items, hbody, hitems, hentry, hterm⟩ := mem_reported.1 hentry
      exact ⟨name, body, items, entry, term', hbody, hitems, hentry, hterm, hsame⟩
    · rintro ⟨name, body, items, entry, term', hbody, hitems, hentry, hterm, hsame⟩
      exact ⟨(name, term', entry), mem_reported.2 ⟨body, items, hbody, hitems, hentry, hterm⟩,
        hsame⟩
  · rw [statistic, hrows.lookup row hrow]
    cases s <;> rfl

end AggregateRow

/-! ### Projections of rows -/

/-- What it means that a projection has one value for each row. -/
structure ProjectionNode.ProjectsEach (node : ProjectionNode) (rows : List AggregateRow)
    (result : Except Error (List Json)) : Prop where
  values : ∀ values, result = .ok values ↔
    List.Forall₂ (fun row v => node.evaluate (.aggregate row) = .ok v) rows values
  /-- The error is that of the first row that has no value. -/
  failure : ∀ e, result = .error e ↔ ∃ before row after, rows = before ++ row :: after ∧
    (∀ row' ∈ before, ∃ v, node.evaluate (.aggregate row') = .ok v) ∧
    node.evaluate (.aggregate row) = .error e

variable {m : FieldMapping} {pathPrefix path : String}

theorem FacetProjector.project_fromTerms {projector : FacetProjector}
    (h : projector.key = .field path) (facets : List (String × Json)) :
    projector.node.ProjectsEach (AggregateRow.fromTerms facets) (projector.project facets) := by
  rw [project, rows, h]
  exact ⟨fun _ => mapM_eq_ok_iff, fun _ => mapM_eq_error_iff⟩

/-- **Facets become rows.** Facets with terms have one row for each term that an entry mentions, in
the order in which the terms are first seen. A statistic of a row is that of the last entry of the
facet for the term; without one a count is zero and all else is null. An aggregate query that groups
by a field has one value for each row, or the error of the first row without one. -/
theorem AggregateRow.fromTerms_rows (facets : List (String × Json)) :
    Flattens facets (fromTerms facets) ∧
      ∀ {m pathPrefix query folded q path t}, Expression.fold query = .ok folded →
        folded.aggregateQuery? = some q →
        GroupKey.ofSelector m pathPrefix q.keySelector = .ok (.field path) →
        (query.plan m pathPrefix).result = .ok t →
        ∃ projector, t.materializer = .manyFacets projector ∧
          projector.node.ProjectsEach (fromTerms facets) (projector.project facets) := by
  refine ⟨fromTerms_flattens facets, ?_⟩
  intro m pathPrefix query folded q path t hfold hquery hkey hplan
  obtain ⟨aggregation, haggregation, -, hmaterializer⟩ :=
    Expression.plan_aggregation hfold hquery hplan
  have hfield : aggregation.projector.key = .field path := by
    rw [AggregateQuery.aggregation_key haggregation] at hkey
    exact Except.ok.inj hkey
  exact ⟨_, hmaterializer, FacetProjector.project_fromTerms hfield facets⟩

namespace Film

/-- A facet without terms, an entry that is no object, and a term that two facets report. -/
def facetsByYear : List (String × Json) :=
  [("broken", .int 3),
    ("term rating 0.0", .obj [("terms", .arr [.null, .obj [("term", .int 1999), ("count", .int 2)],
      .obj [("term", .int 1987), ("count", .int 1)]])]),
    ("rating", .obj [("terms", .arr [.obj [("term", .int 2001), ("max", .int 9)],
      .obj [("term", .int 1999), ("max", .int 7)], .obj [("term", .int 1999), ("max", .int 8)]])])]

end Film

theorem AggregateRow.fromTerms_rows_film :
    (fromTerms Film.facetsByYear).map key = [.int 1999, .int 1987, .int 2001] ∧
      ∃ t projector, (Film.ratingsByYear.plan Film.mapping "").result = .ok t ∧
        t.materializer = .manyFacets projector ∧
        List.Forall₂ (fun row v => projector.node.evaluate (.aggregate row) = .ok v)
          (fromTerms Film.facetsByYear)
          [.obj [("year", .int 1999), ("unrated", .int 2), ("best", .int 8)],
            .obj [("year", .int 1987), ("unrated", .int 1), ("best", .null)],
            .obj [("year", .int 2001), ("unrated", .int 0), ("best", .int 9)]] := by
  have hfold : Film.ratingsByYear.fold = .ok Film.ratingsByYear := toOption_eq_some.1 (by rfl)
  obtain ⟨q, hquery, hkey⟩ : ∃ q, Film.ratingsByYear.aggregateQuery? = some q ∧
      GroupKey.ofSelector Film.mapping "" q.keySelector = .ok (.field "year") :=
    ⟨_, rfl, toOption_eq_some.1 (by decide)⟩
  have hprojected : (Film.ratingsByYear.plan Film.mapping "").result.toOption.bind
      (fun t => (t.materializer.apply ⟨0, false, none, .empty, Film.facetsByYear⟩).toOption) =
      some (.many [.obj [("year", .int 1999), ("unrated", .int 2), ("best", .int 8)],
        .obj [("year", .int 1987), ("unrated", .int 1), ("best", .null)],
        .obj [("year", .int 2001), ("unrated", .int 0), ("best", .int 9)]]) := by decide
  obtain ⟨t, ht, happlied⟩ := Option.bind_eq_some_iff.1 hprojected
  obtain ⟨hflattens, hprojects⟩ := fromTerms_rows Film.facetsByYear
  obtain ⟨projector, hmaterializer, heach⟩ :=
    hprojects hfold hquery hkey (toOption_eq_some.1 ht)
  rw [hmaterializer] at happlied
  obtain ⟨values, hvalues, heq⟩ := map_eq_ok.1 (toOption_eq_some.1 happlied)
  obtain rfl := Materialized.many.inj heq
  refine ⟨?_, t, projector, toOption_eq_some.1 ht, hmaterializer, (heach.values _).1 hvalues⟩
  rw [hflattens.keys]
  decide

end SearchQuery
