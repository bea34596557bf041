import SearchQuery.Proofs.Plan.Asks

/-!
# Facets and the projection that reads them

The facets of an aggregate query are collected while its projection is built, and the projection
reads them back by name.

* `GroupKey.facet`: the facet that answers an ask.
* `limitFacets_facets`: the facets are those that answer what was collected, and one that counts the
  groups where nothing else would tell them.
* `aggregation_reads`: plain counts and statistics read the facets that answer them, and nothing is
  asked for that is not read. A count with a predicate reads the text of its own predicate, but only
  the first of predicates that are the same is asked for. So each count reads the facet that answers
  it exactly where predicates that are the same have the same text.
-/

namespace SearchQuery

/-! ### Facets that answer asks -/

/-- The facet that answers an ask. -/
def GroupKey.facet (size : Option Nat) : GroupKey → Ask → Facet
  | .field key, .groups => .terms groupKeyFacet [key] size none
  | .field key, .ofField path _ => .termsStats path key path size none
  | .field key, .matching c => .terms c.display [key] size (some c)
  | .constant _, .groups => .filter groupKeyFacet .matchAll
  | .constant _, .ofField path _ => .statistical path [path] none
  | .constant _, .matching c => .filter c.display c

/-- Whether two asks have one answer. -/
def Ask.Same : Ask → Ask → Prop
  | .groups, .groups => True
  | .ofField path _, .ofField path' _ => path = path'
  | .matching c, .matching d => c.same d = true
  | _, _ => False

/-- Whether the facet has an entry for each group. -/
def Facet.hasGroups : Facet → Bool
  | .terms .. | .termsStats .. => true
  | .filter .. | .statistical .. => false

namespace GroupKey

variable {size : Option Nat} {key : GroupKey}

theorem facet_name (size : Option Nat) (key : GroupKey) (ask : Ask) :
    (key.facet size ask).name = ask.read.1 := by
  cases key <;> cases ask <;> rfl

theorem facet_size (size : Option Nat) (key : GroupKey) (ask : Ask) :
    (key.facet size ask).size? = if (key.facet size ask).hasGroups then size else none := by
  cases key <;> cases ask <;> rfl

theorem facet_ofField (path : String) (s s' : Statistic) :
    key.facet size (.ofField path s) = key.facet size (.ofField path s') := by
  cases key <;> rfl

theorem withSize_facet (n : Nat) (ask : Ask) :
    (key.facet none ask).withSize n = key.facet (some n) ask := by
  cases key <;> cases ask <;> rfl

theorem facet_matching_ne_ofField (c : Criteria) (path : String) (s : Statistic) :
    key.facet size (.matching c) ≠ key.facet size (.ofField path s) := by
  intro h
  cases key <;> cases h

/-- Only one criteria is counted by a facet. -/
theorem facet_matching_injective {c d : Criteria}
    (h : key.facet size (.matching c) = key.facet size (.matching d)) : c = d := by
  cases key with
  | field key =>
    injection h with _ _ _ hcriteria
    exact Option.some.inj hcriteria
  | constant v =>
    injection h

theorem facet_matching_ne_groups (c : Criteria) :
    key.facet size (.matching c) ≠ key.facet size .groups := by
  intro h
  cases key with
  | field key => simp [facet] at h
  | constant v =>
    injection h with hname hcriteria
    subst hcriteria
    revert hname
    decide

end GroupKey

/-! ### Requested facets -/

namespace Aggregates

variable {a : Aggregates} {asks : List Ask} {key : GroupKey} {size : Option Nat} {facet : Facet}

theorem limitFacets_facets (a : Aggregates) (key : GroupKey) (size : Option Nat) :
    limitFacets size (a.facets key) =
      (if a.countsGroups then [key.facet size .groups] else []) ++
        a.valueFields.map (fun path => key.facet size (.ofField path .total)) ++
        a.predicates.map (fun c => key.facet size (.matching c)) := by
  have hfacets : a.facets key =
      (if a.countsGroups then [key.facet .none .groups] else []) ++
        a.valueFields.map (fun path => key.facet .none (.ofField path .total)) ++
        a.predicates.map (fun c => key.facet .none (.matching c)) := by
    cases key <;> rfl
  cases size with
  | none => exact hfacets
  | some n =>
    rw [limitFacets, hfacets, List.map_append, List.map_append, List.map_map, List.map_map]
    have hmap : ∀ ask, (Facet.withSize n ∘ key.facet .none) ask = key.facet (some n) ask :=
      fun ask => GroupKey.withSize_facet n ask
    congr 2
    · split_ifs
      · exact congrArg (fun facet => [facet]) (hmap .groups)
      · rfl
    · exact List.map_congr_left fun path _ => hmap (.ofField path .total)
    · exact funext fun c => hmap (.matching c)

/-- Each facet answers what was collected. -/
theorem mem_limitFacets_iff :
    facet ∈ limitFacets size (a.facets key) ↔
      (a.countsGroups = true ∧ facet = key.facet size .groups) ∨
        (∃ path ∈ a.valueFields, facet = key.facet size (.ofField path .total)) ∨
        ∃ c ∈ a.predicates, facet = key.facet size (.matching c) := by
  have hgroups : facet ∈ (if a.countsGroups then [key.facet size .groups] else []) ↔
      a.countsGroups = true ∧ facet = key.facet size .groups := by
    split_ifs with hcounts <;> simp [hcounts]
  rw [limitFacets_facets, List.mem_append, List.mem_append, hgroups, List.mem_map, List.mem_map,
    or_assoc]
  simp only [eq_comm]

/-- Something is always asked for. -/
theorem limitFacets_ne_nil (a : Aggregates) (key : GroupKey) (size : Option Nat) :
    limitFacets size (a.facets key) ≠ [] := by
  by_cases hcounts : a.countsGroups = true
  · exact List.ne_nil_of_mem (mem_limitFacets_iff.2 (.inl ⟨hcounts, rfl⟩))
  · have hcollected : a.valueFields ≠ [] ∨ a.predicates ≠ [] := by
      by_contra hnone
      rw [not_or, not_not, not_not] at hnone
      exact hcounts (by simp [countsGroups, hnone.1, hnone.2])
    rcases hcollected with hfields | hpredicates
    · obtain ⟨path, hpath⟩ := List.exists_mem_of_ne_nil _ hfields
      exact List.ne_nil_of_mem (mem_limitFacets_iff.2 (.inr (.inl ⟨path, hpath, rfl⟩)))
    · obtain ⟨c, hc⟩ := List.exists_mem_of_ne_nil _ hpredicates
      exact List.ne_nil_of_mem (mem_limitFacets_iff.2 (.inr (.inr ⟨c, hc, rfl⟩)))

/-- A facet answers one of the asks, or counts groups that none asks for. -/
theorem Collects.exists_ask (h : a.Collects asks)
    (hfacet : facet ∈ limitFacets size (a.facets key)) :
    facet = key.facet size .groups ∨ ∃ ask ∈ asks, facet = key.facet size ask := by
  rcases mem_limitFacets_iff.1 hfacet with ⟨-, rfl⟩ | ⟨path, hpath, rfl⟩ | ⟨c, hc, rfl⟩
  · exact .inl rfl
  · obtain ⟨s, hs⟩ := (h.valueFields path).1 hpath
    exact .inr ⟨_, hs, GroupKey.facet_ofField path _ _⟩
  · exact .inr ⟨_, h.predicates c hc, rfl⟩

/-- Every ask has an answer among the facets, that of an ask which is the same. -/
theorem Collects.exists_facet (h : a.Collects asks) (key : GroupKey) (size : Option Nat) {ask : Ask}
    (hask : ask ∈ asks) :
    ∃ ask' ∈ asks, ask'.Same ask ∧ key.facet size ask' ∈ limitFacets size (a.facets key) := by
  cases ask with
  | groups =>
    have hcounts : a.countsGroups = true := by
      rw [countsGroups, h.plainCount.2 hask, Bool.true_or]
    exact ⟨_, hask, trivial, mem_limitFacets_iff.2 (.inl ⟨hcounts, rfl⟩)⟩
  | ofField path s =>
    have hpath := (h.valueFields path).2 ⟨s, hask⟩
    exact ⟨_, hask, rfl, mem_limitFacets_iff.2
      (.inr (.inl ⟨path, hpath, GroupKey.facet_ofField path _ _⟩))⟩
  | matching c =>
    obtain ⟨d, hd, hsame⟩ := h.covers c hask
    exact ⟨_, h.predicates d hd, hsame, mem_limitFacets_iff.2 (.inr (.inr ⟨d, hd, rfl⟩))⟩

/-- Plain counts and statistics have answers of their own. -/
theorem Collects.facet_mem (h : a.Collects asks) {ask : Ask} (hask : ask ∈ asks)
    (hmatching : ∀ c, ask ≠ .matching c) : key.facet size ask ∈ limitFacets size (a.facets key) := by
  obtain ⟨ask', -, hsame, hfacet⟩ := h.exists_facet key size hask
  cases ask with
  | groups =>
    cases ask' <;> first | exact hfacet | exact hsame.elim
  | ofField path s =>
    cases ask' with
    | ofField path' s' =>
      obtain rfl : path' = path := hsame
      rwa [GroupKey.facet_ofField path' s s']
    | groups | matching _ => exact hsame.elim
  | matching c => exact absurd rfl (hmatching c)

/-- A predicate with a facet was collected. -/
theorem mem_predicates_of_facet {c : Criteria}
    (h : key.facet size (.matching c) ∈ limitFacets size (a.facets key)) : c ∈ a.predicates := by
  rcases mem_limitFacets_iff.1 h with ⟨-, hfacet⟩ | ⟨path, -, hfacet⟩ | ⟨d, hd, hfacet⟩
  · exact absurd hfacet (GroupKey.facet_matching_ne_groups c)
  · exact absurd hfacet (GroupKey.facet_matching_ne_ofField c path _)
  · rwa [GroupKey.facet_matching_injective hfacet]

end Aggregates

/-! ### Reading -/

/-- Whether a facet answers an ask under the name that the projection reads. -/
def GroupKey.Answers (size : Option Nat) (key : GroupKey) (ask : Ask) (facet : Facet) : Prop :=
  facet.name = ask.read.1 ∧ ∃ ask' : Ask, ask'.Same ask ∧ facet = key.facet size ask'

namespace Aggregates

variable {a : Aggregates} {asks : List Ask} {key : GroupKey} {size : Option Nat}

/-- Where a count finds its answer, the collected predicate that is the same has the same text. -/
theorem exists_predicate {c : Criteria} {facet : Facet}
    (hfacet : facet ∈ limitFacets size (a.facets key))
    (hanswers : key.Answers size (.matching c) facet) :
    ∃ d ∈ a.predicates, d.same c = true ∧ d.display = c.display := by
  obtain ⟨hname, ask', hsame, rfl⟩ := hanswers
  cases ask' with
  | matching d =>
    rw [GroupKey.facet_name] at hname
    exact ⟨d, mem_predicates_of_facet hfacet, hsame, hname⟩
  | groups | ofField _ _ => exact hsame.elim

/-- Every ask finds its answer exactly where criteria that are the same have the same text. -/
theorem Collects.answers_iff (h : a.Collects asks) :
    (∀ ask ∈ asks, ∃ facet ∈ limitFacets size (a.facets key), key.Answers size ask facet) ↔
      ∀ c d, .matching c ∈ asks → .matching d ∈ asks → c.same d = true →
        c.display = d.display := by
  constructor
  · intro hanswers c d hc hd hsame
    obtain ⟨facet, hfacet, hanswer⟩ := hanswers _ hc
    obtain ⟨facet', hfacet', hanswer'⟩ := hanswers _ hd
    obtain ⟨c', hc', hsame', hdisplay⟩ := exists_predicate hfacet hanswer
    obtain ⟨d', hd', hsame'', hdisplay'⟩ := exists_predicate hfacet' hanswer'
    rw [Criteria.same_iff] at hsame hsame' hsame''
    have heq : c' = d' :=
      h.eq_of_same c' hc' d' hd' (Criteria.same_iff.2 ((hsame'.trans hsame).trans hsame''.symm))
    rw [← hdisplay, ← hdisplay', heq]
  · intro htexts ask hask
    obtain ⟨ask', hask', hsame, hfacet⟩ := h.exists_facet key size hask
    refine ⟨_, hfacet, ?_, ask', hsame, rfl⟩
    rw [GroupKey.facet_name]
    cases ask <;> cases ask' <;> first
      | exact htexts _ _ hask' hask hsame
      | exact hsame
      | exact hsame.elim
      | rfl

end Aggregates

/-! ### Aggregate queries -/

/-- The limit that a `take` puts on the number of groups. -/
def Expression.groupLimit? : Expression → Option Nat
  | .call "take" [_, n] => n.constant?.bind Json.nat64?
  | _ => none

namespace AggregateQuery

variable {e : Expression} {q : AggregateQuery} {m : FieldMapping} {pathPrefix : String}
  {aggregation : Aggregation}

theorem size_eq_groupLimit (h : e.aggregateQuery? = some q) : q.size = e.groupLimit? := by
  unfold Expression.aggregateQuery? at h
  split at h
  · rename_i inner count hlimited
    unfold Expression.limitedSelection? at hlimited
    split at hlimited
    · rename_i args n
      obtain ⟨count', hcount, heq⟩ := Option.map_eq_some_iff.1 hlimited
      obtain ⟨rfl, rfl⟩ := Prod.mk.inj heq
      unfold Expression.groupSelection? at h
      split at h
      · cases h
        exact hcount.symm
      · cases h
    · cases hlimited
  · unfold Expression.groupSelection? at h
    split at h
    · cases h
      rfl
    · cases h

/-- Each facet counts the groups, or answers what some call asks for. -/
theorem exists_ask (h : (q.aggregation m pathPrefix).result = .ok aggregation) {facet : Facet}
    (hfacet : facet ∈ aggregation.facets) :
    ∃ x ask, facet = aggregation.projector.key.facet q.size ask ∧
      (ask = .groups ∨ ∃ call, Grouping.AsksFor ⟨m, pathPrefix, x⟩ call ask) := by
  obtain ⟨x, body, asks, -, hasks, -, hfacets⟩ := aggregation_asks h
  rw [hfacets] at hfacet
  rcases (Aggregates.collects_foldl asks).exists_ask hfacet with hgroups | ⟨ask, hask, heq⟩
  · exact ⟨x, .groups, hgroups, .inl rfl⟩
  · obtain ⟨call, -, hcall⟩ := Grouping.exists_call hasks hask
    exact ⟨x, ask, heq, .inr ⟨call, hcall⟩⟩

/-- **Facets and reads agree.** The projection of an aggregate query reads what the calls on the
group ask for. Plain counts and statistics read the facets that answer them, and all asks do exactly
where predicates that are the same have the same text. Apart from the count of groups no facet is
left unread, and the facets with groups are limited by an outer `take`. -/
theorem aggregation_reads (hquery : e.aggregateQuery? = some q)
    (h : (q.aggregation m pathPrefix).result = .ok aggregation) :
    ∃ x body asks, q.selector.lambda? = some (x, body) ∧
      List.Forall₂ (Grouping.AsksFor ⟨m, pathPrefix, x⟩)
        (Grouping.calls ⟨m, pathPrefix, x⟩ body) asks ∧
      aggregation.projector.node.reads = asks.map Ask.read ∧
      aggregation.facets ≠ [] ∧
      (∀ ask ∈ asks, (∀ c, ask ≠ .matching c) →
        aggregation.projector.key.facet e.groupLimit? ask ∈ aggregation.facets) ∧
      ((∀ ask ∈ asks, ∃ facet ∈ aggregation.facets,
          aggregation.projector.key.Answers e.groupLimit? ask facet) ↔
        ∀ c d, .matching c ∈ asks → .matching d ∈ asks → c.same d = true →
          c.display = d.display) ∧
      (∀ facet ∈ aggregation.facets,
        facet = aggregation.projector.key.facet e.groupLimit? .groups ∨
          ∃ s, (facet.name, s) ∈ aggregation.projector.node.reads) ∧
      ∀ facet ∈ aggregation.facets,
        facet.size? = if facet.hasGroups then e.groupLimit? else none := by
  rw [← size_eq_groupLimit hquery]
  obtain ⟨x, body, asks, hselector, hasks, hreads, hfacets⟩ := aggregation_asks h
  have hcollects := Aggregates.collects_foldl asks
  rw [hfacets]
  refine ⟨x, body, asks, hselector, hasks, hreads, Aggregates.limitFacets_ne_nil _ _ _,
    fun ask hask => hcollects.facet_mem hask, hcollects.answers_iff, fun facet hfacet => ?_,
    fun facet hfacet => ?_⟩
  · refine (hcollects.exists_ask hfacet).imp_right ?_
    rintro ⟨ask, hask, rfl⟩
    refine ⟨ask.read.2, ?_⟩
    rw [GroupKey.facet_name, hreads]
    exact List.mem_map_of_mem hask
  · obtain rfl | ⟨ask, -, rfl⟩ := hcollects.exists_ask hfacet
    · exact GroupKey.facet_size _ _ _
    · exact GroupKey.facet_size _ _ _

end AggregateQuery

namespace Film

def rating : Member := ⟨"Rating", .float⟩

/-- A projection of the films of each year. -/
def byYear (selector : Expression) : Expression :=
  ((Expression.source documents).groupBy
    (.lambda "f" ((Expression.parameter "f").member year))).select (.lambda "g" selector)

/-- How many films of a group have the rating. -/
def countRated (x : Binary64) : Expression :=
  (Expression.parameter "g").countWhere
    (.lambda "f" (((Expression.parameter "f").member rating).equal (.constant (.float x))))

/-- The year, the number of films without a rating, and the best rating. -/
def ratingsByYear : Expression :=
  byYear (.construct [("year", (Expression.parameter "g").key),
    ("unrated", countRated (.zero false)),
    ("best", (Expression.parameter "g").max
      (.lambda "f" ((Expression.parameter "f").member rating)))])

/-- The same number, asked for twice. -/
def unratedTwice : Expression :=
  byYear (.construct [("a", countRated (.zero false)), ("b", countRated (.zero true))])

end Film

namespace AggregateQuery

theorem aggregation_reads_film :
    ∃ q aggregation, (Film.ratingsByYear.take 10).aggregateQuery? = some q ∧
      (q.aggregation Film.mapping "").result = .ok aggregation ∧ aggregation.facets ≠ [] ∧
      ∀ facet ∈ aggregation.facets, facet.size? = if facet.hasGroups then some 10 else none := by
  obtain ⟨q, hq⟩ : ∃ q, (Film.ratingsByYear.take 10).aggregateQuery? = some q := ⟨_, rfl⟩
  have haccepted : ∀ q, (Film.ratingsByYear.take 10).aggregateQuery? = some q →
      (q.aggregation Film.mapping "").result.toOption.isSome = true := by
    rintro q ⟨⟩
    decide
  obtain ⟨aggregation, haggregation⟩ := Option.isSome_iff_exists.1 (haccepted q hq)
  obtain ⟨x, body, asks, -, -, -, hne, -, -, -, hsizes⟩ :=
    aggregation_reads hq (toOption_eq_some.1 haggregation)
  exact ⟨q, aggregation, hq, toOption_eq_some.1 haggregation, hne, hsizes⟩

/-- The two zeros are the same, so the second count is not asked for, but its text is read. -/
theorem aggregation_reads_nothing :
    ∃ q aggregation, Film.unratedTwice.aggregateQuery? = some q ∧
      (q.aggregation Film.mapping "").result = .ok aggregation ∧
      ∃ read ∈ aggregation.projector.node.reads, ∀ facet ∈ aggregation.facets,
        facet.name ≠ read.1 := by
  obtain ⟨q, hq⟩ : ∃ q, Film.unratedTwice.aggregateQuery? = some q := ⟨_, rfl⟩
  have hread : ∀ q, Film.unratedTwice.aggregateQuery? = some q →
      (q.aggregation Film.mapping "").result.toOption.map
          (fun aggregation => (aggregation.projector.node.reads, aggregation.facets.map Facet.name)) =
        some ([("term rating 0.0", .count), ("term rating -0.0", .count)],
          ["term rating 0.0"]) := by
    rintro q ⟨⟩
    decide
  obtain ⟨aggregation, haggregation, heq⟩ := Option.map_eq_some_iff.1 (hread q hq)
  obtain ⟨hreads, hnames⟩ := Prod.mk.inj heq
  refine ⟨q, aggregation, hq, toOption_eq_some.1 haggregation, ("term rating -0.0", .count), ?_,
    fun facet hfacet hname => ?_⟩
  · rw [hreads]
    decide
  · have hmem : facet.name ∈ ["term rating 0.0"] := hnames ▸ List.mem_map_of_mem hfacet
    rw [hname] at hmem
    revert hmem
    decide

end AggregateQuery

end SearchQuery
