import SearchQuery.Proofs.Criteria.Legible
import SearchQuery.Proofs.Plan.FacetReads
import SearchQuery.Proofs.Wire.FacetFilter

/-!
# The names of facets

The facets of an aggregate query are named by a fixed name, by the paths of fields and by the texts
of criteria. Fields are collected by their names, but criteria are collected by what they are, so
two of them may have one text.

* `Ask.Apart`: no two asks that differ are read under one name.
* `Collects.nodup_names`: then no two facets of the request have one name.
* `Ask.apart_iff`: what this comes to where the names can be read. Two predicates that differ must
  differ in what is shown: a member or a mode of execution alone does not tell them apart.
* `plan_facet_names`: exactly then the body has an entry for each facet, and aggregates that differ
  read different ones.
-/

namespace SearchQuery

/-! ### Asks that are told apart -/

namespace Ask

variable {asks : List Ask}

/-- Whether no two asks that differ are read under one name. -/
structure Apart (asks : List Ask) : Prop where
  groups : .groups ∈ asks → ∀ s, .ofField groupKeyFacet s ∉ asks
  fields : ∀ c, .matching c ∈ asks → ∀ s, .ofField c.display s ∉ asks
  predicates : ∀ c, .matching c ∈ asks → ∀ d, .matching d ∈ asks → c.display = d.display →
    c.same d = true

/-- No criteria is counted under the name for the groups. -/
theorem display_ne_groupKeyFacet (c : Criteria) : c.display ≠ groupKeyFacet := by
  intro h
  obtain ⟨tail, htext, -⟩ := Criteria.exists_display c (Text.follows_nil _)
  rw [h, List.append_nil] at htext
  have hstart : ∀ c : Criteria, c.kind.toList.head? ≠ none ∧ c.kind.toList.head? ≠ some 'G' := by
    intro c
    cases c <;> (rw [Criteria.kind]; decide)
  obtain ⟨hne, hhead⟩ := hstart c
  cases hkind : c.kind.toList with
  | nil => exact hne (by rw [hkind]; rfl)
  | cons head rest =>
    rw [hkind] at htext
    have hG : 'G' = head := (List.cons.inj htext).1
    exact hhead (by rw [hkind, hG]; rfl)

theorem apart_iff_same :
    Apart asks ↔ ∀ ask ∈ asks, ∀ ask' ∈ asks, ask.read.1 = ask'.read.1 → ask.Same ask' := by
  constructor
  · intro h ask hask ask' hask' hname
    cases ask with
    | groups =>
      cases ask' with
      | groups => trivial
      | ofField path s =>
        obtain rfl : groupKeyFacet = path := hname
        exact absurd hask' (h.groups hask s)
      | matching c => exact absurd hname.symm (display_ne_groupKeyFacet c)
    | ofField path s =>
      cases ask' with
      | groups =>
        obtain rfl : path = groupKeyFacet := hname
        exact absurd hask (h.groups hask' s)
      | ofField path' s' => exact hname
      | matching c =>
        obtain rfl : path = c.display := hname
        exact absurd hask (h.fields c hask' s)
    | matching c =>
      cases ask' with
      | groups => exact absurd hname (display_ne_groupKeyFacet c)
      | ofField path s =>
        obtain rfl : c.display = path := hname
        exact absurd hask' (h.fields c hask s)
      | matching d => exact h.predicates c hask d hask' hname
  · intro h
    refine ⟨fun hgroups s hfield => ?_, fun c hc s hfield => ?_, fun c hc d hd hname => ?_⟩
    · exact h _ hgroups _ hfield rfl
    · exact h _ hc _ hfield rfl
    · exact h _ hc _ hd hname

theorem Same.refl (ask : Ask) : ask.Same ask := by
  cases ask with
  | groups => trivial
  | ofField path s => exact rfl
  | matching c => exact Criteria.same_iff.2 rfl

theorem apart_of_nodup (h : (asks.map fun ask => ask.read.1).Nodup) : Apart asks := by
  refine apart_iff_same.2 fun ask hask ask' hask' hname => ?_
  obtain rfl := List.inj_on_of_nodup_map h hask hask' hname
  exact Same.refl ask

/-- Whether the name under which an ask is read can itself be read. -/
def Legible : Ask → Prop
  | .groups => True
  | .ofField path _ => Text.Lacks [' '] path
  | .matching c => c.LegibleAlone

theorem eq_matchAll_of_lacks {c : Criteria} (h : Text.Lacks [' '] c.display) : c = .matchAll := by
  by_contra hc
  obtain ⟨text, htext⟩ := Criteria.exists_text hc
  refine h ' ' ?_ (List.mem_singleton_self _)
  rw [htext, String.toList_append, String.toList_append]
  exact List.mem_append_left _ (List.mem_append_right _ (List.mem_singleton_self _))

/-- Asks with legible names are told apart where no two counted predicates that differ show the
same. -/
theorem apart_iff (h : ∀ ask ∈ asks, ask.Legible) :
    Apart asks ↔
      (.groups ∈ asks → ∀ s, .ofField groupKeyFacet s ∉ asks) ∧
      (.matching .matchAll ∈ asks → ∀ s, .ofField "match_all" s ∉ asks) ∧
      ∀ c, .matching c ∈ asks → ∀ d, .matching d ∈ asks → c.shown = d.shown →
        c.same d = true := by
  constructor
  · intro hapart
    refine ⟨hapart.groups, hapart.fields .matchAll, fun c hc d hd hshown => ?_⟩
    exact hapart.predicates c hc d hd (Criteria.display_of_shown c d hshown)
  · rintro ⟨hgroups, hall, hpredicates⟩
    refine ⟨hgroups, fun c hc s hfield => ?_, fun c hc d hd hname => ?_⟩
    · obtain rfl := eq_matchAll_of_lacks (h _ hfield)
      exact hall hc s hfield
    · exact hpredicates c hc d hd ((Criteria.display_eq_iff (h _ hc) (h _ hd)).1 hname)

end Ask

/-! ### Requested names -/

namespace Aggregates

variable {a : Aggregates} {asks : List Ask} {key : GroupKey} {size : Option Nat}

/-- The names of the facets: that for the groups, the fields and the texts of the predicates. -/
theorem limitFacets_names (a : Aggregates) (key : GroupKey) (size : Option Nat) :
    (limitFacets size (a.facets key)).map Facet.name =
      (if a.countsGroups then [groupKeyFacet] else []) ++ a.valueFields ++
        a.predicates.map Criteria.display := by
  have hgroups : (if a.countsGroups then [key.facet size .groups] else []).map Facet.name =
      if a.countsGroups then [groupKeyFacet] else [] := by
    split_ifs
    · rw [List.map_singleton, GroupKey.facet_name]
      rfl
    · rfl
  have hname : ∀ ask, Facet.name (key.facet size ask) = ask.read.1 :=
    GroupKey.facet_name size key
  rw [limitFacets_facets, List.map_append, List.map_append, hgroups, List.map_map, List.map_map]
  congr 2
  · simp [Function.comp_def, hname, Ask.read]
  · simp [Function.comp_def, hname, Ask.read]

/-- Where the asks are told apart, so are the facets. -/
theorem Collects.nodup_names (h : a.Collects asks) (hapart : Ask.Apart asks) (key : GroupKey)
    (size : Option Nat) : ((limitFacets size (a.facets key)).map Facet.name).Nodup := by
  have hcounts : a.countsGroups = true → groupKeyFacet ∉ a.valueFields := by
    intro hcounts hpath
    obtain ⟨s, hfield⟩ := (h.valueFields _).1 hpath
    have hplain : a.plainCount = true := by
      rw [countsGroups, Bool.or_eq_true, Bool.and_eq_true, List.isEmpty_iff] at hcounts
      rcases hcounts with hplain | ⟨hnone, -⟩
      · exact hplain
      · rw [hnone] at hpath
        cases hpath
    exact hapart.groups (h.plainCount.1 hplain) s hfield
  have hfields : (if a.countsGroups then [groupKeyFacet] else []) ++ a.valueFields |>.Nodup := by
    split_ifs with hgroups
    · exact List.nodup_cons.2 ⟨hcounts hgroups, h.valueFields_nodup⟩
    · exact h.valueFields_nodup
  have hpredicates : (a.predicates.map Criteria.display).Nodup := by
    refine List.Nodup.map_on (fun c hc d hd hname => ?_) h.predicates_nodup
    exact h.eq_of_same c hc d hd
      (hapart.predicates c (h.predicates c hc) d (h.predicates d hd) hname)
  rw [limitFacets_names, List.nodup_append]
  refine ⟨hfields, hpredicates, fun name hname text htext heq => ?_⟩
  obtain ⟨c, hc, rfl⟩ := List.mem_map.1 htext
  subst heq
  rcases List.mem_append.1 hname with hgroup | hpath
  · split_ifs at hgroup
    · exact Ask.display_ne_groupKeyFacet c (List.mem_singleton.1 hgroup)
    · cases hgroup
  · obtain ⟨s, hfield⟩ := (h.valueFields _).1 hpath
    exact hapart.fields c (h.predicates c hc) s hfield

end Aggregates

/-! ### Planned facets -/

/-- The aggregates that are read from facets. -/
def Materializer.reads : Materializer → List (String × Statistic)
  | .manyFacets projector => projector.node.reads
  | _ => []

/-- What it means that the facets of a plan do not collide. -/
structure QueryPlan.FacetsApart (m : FieldMapping) (t : QueryPlan) (asks : List Ask) : Prop where
  names : (t.request.facets.map Facet.name).Nodup
  /-- The body has exactly one entry for each facet, in their order. -/
  entries : ∀ config body, t.request.toBody config m = .ok body → ∃ entries,
    body.member? "facets" = some (.obj ((t.request.facets.map Facet.name).zip entries)) ∧
      List.Forall₂ (fun facet entry => facet.toBody m t.request.filter = .ok entry)
        t.request.facets entries
  /-- Aggregates that read one facet ask for the same. -/
  reads : ∀ ask ∈ asks, ∀ ask' ∈ asks, ask.read.1 = ask'.read.1 → ask.Same ask'

namespace SearchRequest

variable {m : FieldMapping} {config : ConnectionConfig} {request : SearchRequest} {body : Json}

/-- Facets with distinct names have all their entries in the body. -/
theorem toBody_entries_of_nodup (hne : request.facets ≠ [])
    (hnames : (request.facets.map Facet.name).Nodup) (h : request.toBody config m = .ok body) :
    ∃ entries,
      body.member? "facets" = some (.obj ((request.facets.map Facet.name).zip entries)) ∧
        List.Forall₂ (fun facet entry => facet.toBody m request.filter = .ok entry)
          request.facets entries := by
  obtain ⟨entries, hmember, hentries⟩ := toBody_entries hne h
  have hlength : (request.facets.map Facet.name).length ≤ entries.length := by
    rw [List.length_map, hentries.length_eq]
  have hkeys : (((request.facets.map Facet.name).zip entries).map Prod.fst).Nodup := by
    rwa [List.map_fst_zip hlength]
  rw [Json.collectMembers_of_nodup hkeys] at hmember
  exact ⟨entries, hmember, hentries⟩

end SearchRequest

namespace Expression

variable {m : FieldMapping} {pathPrefix : String} {query folded : Expression} {q : AggregateQuery}
  {t : QueryPlan}

/-- What an aggregate query is planned to. -/
theorem plan_aggregation (hfold : query.fold = .ok folded)
    (hquery : folded.aggregateQuery? = some q)
    (hplan : (query.plan m pathPrefix).result = .ok t) :
    ∃ aggregation, (q.aggregation m pathPrefix).result = .ok aggregation ∧
      t.request.facets = aggregation.facets ∧
      t.materializer = .manyFacets aggregation.projector := by
  obtain ⟨folded', hfold', h⟩ := plan_eq_ok_iff.1 hplan
  rw [hfold] at hfold'
  cases hfold'
  simp only [planFolded, hquery] at h
  obtain ⟨aggregation, haggregation, h⟩ := Traced.bind_eq_ok.1 h
  obtain ⟨⟨d, type⟩, -, h⟩ := Traced.bind_eq_ok.1 h
  cases h
  exact ⟨aggregation, haggregation, rfl, rfl⟩

/-- **When facets do not collide.** The facets of an aggregate query have distinct names, each has
its own entry in the body, and aggregates that differ read different ones, exactly where the names
tell apart what is asked for. Where the names can be read, this is so exactly where no counted
predicates that differ show the same, and no field has the name of the groups or of all documents. -/
theorem plan_facetsApart_iff (hfold : query.fold = .ok folded)
    (hquery : folded.aggregateQuery? = some q)
    (hplan : (query.plan m pathPrefix).result = .ok t) :
    ∃ projector x body asks, t.materializer = .manyFacets projector ∧
      q.selector.lambda? = some (x, body) ∧
      List.Forall₂ (Grouping.AsksFor ⟨m, pathPrefix, x⟩)
        (Grouping.calls ⟨m, pathPrefix, x⟩ body) asks ∧
      projector.node.reads = asks.map Ask.read ∧
      (t.FacetsApart m asks ↔ Ask.Apart asks) ∧
      ((∀ ask ∈ asks, ask.Legible) →
        (t.FacetsApart m asks ↔
          (.groups ∈ asks → ∀ s, .ofField groupKeyFacet s ∉ asks) ∧
          (.matching .matchAll ∈ asks → ∀ s, .ofField "match_all" s ∉ asks) ∧
          ∀ c, .matching c ∈ asks → ∀ d, .matching d ∈ asks → c.shown = d.shown →
            c.same d = true)) := by
  obtain ⟨aggregation, haggregation, hrequest, hmaterializer⟩ :=
    plan_aggregation hfold hquery hplan
  obtain ⟨x, body, asks, hselector, hasks, hreads, hfacets⟩ :=
    AggregateQuery.aggregation_asks haggregation
  rw [hfacets] at hrequest
  have hapart : t.FacetsApart m asks ↔ Ask.Apart asks := by
    constructor
    · intro h
      exact Ask.apart_iff_same.2 h.reads
    · intro h
      have hne : t.request.facets ≠ [] := by
        rw [hrequest]
        exact Aggregates.limitFacets_ne_nil _ _ _
      have hnames : (t.request.facets.map Facet.name).Nodup := by
        rw [hrequest]
        exact (Aggregates.collects_foldl asks).nodup_names h _ _
      exact ⟨hnames, fun config body hbody =>
        SearchRequest.toBody_entries_of_nodup hne hnames hbody, Ask.apart_iff_same.1 h⟩
  refine ⟨_, x, body, asks, hmaterializer, hselector, hasks, hreads, hapart, fun hlegible => ?_⟩
  rw [hapart, Ask.apart_iff hlegible]

end Expression

namespace Film

def tags : Member := ⟨"Tags", .sequence .string⟩

/-- How many films of a group have some or all of two tags. -/
def countTagged (tagged : Expression → Expression → Expression) : Expression :=
  (Expression.parameter "g").countWhere (.lambda "f"
    (tagged ((Expression.parameter "f").member tags) (.constant (.arr [.str "a", .str "b"]))))

/-- How many films of each year have one of two tags, and how many have both. -/
def taggedByYear : Expression :=
  byYear (.construct [("any", countTagged .containsAny), ("all", countTagged .containsAll)])

end Film

namespace Expression

theorem plan_facetsApart_iff_film :
    ∃ folded q t asks, (Film.ratingsByYear.take 10).fold = .ok folded ∧
      folded.aggregateQuery? = some q ∧
      ((Film.ratingsByYear.take 10).plan Film.mapping "").result = .ok t ∧
      asks ≠ [] ∧ t.FacetsApart Film.mapping asks := by
  have hfold : (Film.ratingsByYear.take 10).fold = .ok (Film.ratingsByYear.take 10) :=
    toOption_eq_some.1 (by rfl)
  obtain ⟨q, hquery⟩ : ∃ q, (Film.ratingsByYear.take 10).aggregateQuery? = some q := ⟨_, rfl⟩
  have hread : ((Film.ratingsByYear.take 10).plan Film.mapping "").result.toOption.map
      (·.materializer.reads) = some [("term rating 0.0", .count), ("rating", .max)] := by decide
  obtain ⟨t, ht, heq⟩ := Option.map_eq_some_iff.1 hread
  have hplan := toOption_eq_some.1 ht
  obtain ⟨projector, x, body, asks, hmaterializer, -, -, hreads, hapart, -⟩ :=
    plan_facetsApart_iff hfold hquery hplan
  have hasks : asks.map Ask.read = [("term rating 0.0", .count), ("rating", .max)] := by
    rw [hmaterializer] at heq
    rw [← hreads]
    exact heq
  have hnames : asks.map (fun ask => ask.read.1) = ["term rating 0.0", "rating"] := by
    have hfst := congrArg (List.map Prod.fst) hasks
    rwa [List.map_map] at hfst
  refine ⟨_, q, t, asks, hfold, hquery, hplan, ?_, hapart.2 (Ask.apart_of_nodup ?_)⟩
  · rintro rfl
    cases hasks
  · rw [hnames]
    decide

/-- How a set of values is matched is not shown, so the two counts have one entry in the body. -/
theorem plan_facets_collide :
    ∃ q t, Film.taggedByYear.aggregateQuery? = some q ∧
      (Film.taggedByYear.plan Film.mapping "").result = .ok t ∧
      t.request.facets.length = 2 ∧ ¬(t.request.facets.map Facet.name).Nodup ∧
      ∃ body entry, t.request.toBody .standard Film.mapping = .ok body ∧
        body.member? "facets" = some (.obj [("terms tags [\"a\", \"b\"]", entry)]) := by
  obtain ⟨q, hquery⟩ : ∃ q, Film.taggedByYear.aggregateQuery? = some q := ⟨_, rfl⟩
  have hplanned : (Film.taggedByYear.plan Film.mapping "").result.toOption.map (fun t =>
      (t.request.facets.map Facet.name,
        (t.request.toBody .standard Film.mapping).toOption.isSome)) =
        some (["terms tags [\"a\", \"b\"]", "terms tags [\"a\", \"b\"]"], true) := by decide
  obtain ⟨t, ht, heq⟩ := Option.map_eq_some_iff.1 hplanned
  obtain ⟨hnames, hwritten⟩ := Prod.mk.inj heq
  obtain ⟨body, hbody⟩ := Option.isSome_iff_exists.1 hwritten
  have htoBody := toOption_eq_some.1 hbody
  have hlength : t.request.facets.length = 2 := by
    have hcount := congrArg List.length hnames
    rwa [List.length_map] at hcount
  have hne : t.request.facets ≠ [] := by
    rintro hnone
    rw [hnone] at hlength
    cases hlength
  obtain ⟨entries, hmember, hentries⟩ := SearchRequest.toBody_entries hne htoBody
  obtain ⟨first, second, rfl⟩ := List.length_eq_two.1 (hentries.length_eq.symm.trans hlength)
  refine ⟨q, t, hquery, toOption_eq_some.1 ht, hlength, ?_, body, second, htoBody, ?_⟩
  · rw [hnames]
    decide
  · rw [hmember, hnames]
    rfl

end Expression

end SearchQuery
