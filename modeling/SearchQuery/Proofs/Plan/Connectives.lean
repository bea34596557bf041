import SearchQuery.Proofs.Lucene.Connectives
import SearchQuery.Proofs.Plan.RequestShape

/-!
# Connectives of planned requests

The query and the filter of a planned request have a text in query syntax. Its levels of parentheses
have one connective each, unless a range with several bounds is a part of a disjunction
(`plan_unmixed_iff`).
-/

namespace SearchQuery

open Lucene (Unmixed)

namespace Expression

variable {query : Expression} {t : QueryPlan} {pathPrefix : String} {options : MappingOptions}
  {documentPrefix : Option String}

/-- **Levels of connectives.** The query and the filter of a planned request are written in query
syntax. Let nothing that is copied into the text have parentheses or connectives. Then no level of
the text mixes `AND` and `OR`, if and only if no disjunction has a part with `AND` outside of all
parentheses, as it stands between the bounds of a range. -/
theorem plan_unmixed_iff
    (hplan : (query.plan (options.mapping documentPrefix) pathPrefix).result = .ok t)
    {c : Criteria} (hc : t.request.query = some c ∨ t.request.filter = some c)
    (hquiet : ∀ d ∈ c.reached, d.IsQuiet (options.mapping documentPrefix)) :
    ∃ text, c.toLucene (options.mapping documentPrefix) = .ok text ∧
      (Unmixed text ↔ ∀ d ∈ c.reached, d.mixes = false) := by
  have hshaped := plan_shaped options.typeExists_isFilter hplan
  have hwritable : c.Writable := by
    rcases hc with hquery | hfilter
    · exact (hshaped.placement.query c hquery).writable
    · exact (hshaped.placement.filter c hfilter).writable
  obtain ⟨text, htext⟩ := hwritable.exists_toLucene
  exact ⟨text, htext, Criteria.unmixed_toLucene_iff hquiet htext⟩

end Expression

namespace Film

/-- Films from between two years. -/
def madeBetween : Expression :=
  (((Expression.parameter "f").member year).greaterThan (.constant (.int 1970))).andAlso
    (((Expression.parameter "f").member year).lessThan (.constant (.int 1990)))

def titleIs (name : String) : Expression :=
  ((Expression.parameter "f").member title).equal (.constant (.str name))

def madeBetweenBounds : Criteria :=
  .range "year" year [⟨.greaterThan, .int 1970⟩, ⟨.lessThan, .int 1990⟩]

/-- Films from between two years that are called one name or the other. -/
def madeBetweenAndTitled : Expression :=
  (Expression.source documents).filterBy
    (.lambda "f" (madeBetween.andAlso ((titleIs "heat").orElse (titleIs "ronin"))))

/-- Films from between two years, and one by its name. -/
def madeBetweenOrTitled : Expression :=
  (Expression.source documents).filterBy (.lambda "f" (madeBetween.orElse (titleIs "heat")))

end Film

namespace Expression

theorem plan_unmixed_iff_film :
    ∃ t c, (Film.madeBetweenAndTitled.plan Film.mapping "").result = .ok t ∧
      t.request.filter = some c ∧ (∀ d ∈ c.reached, d.IsQuiet Film.mapping) ∧
      ∃ text, c.toLucene Film.mapping = .ok text ∧ Unmixed text := by
  have hplanned : (Film.madeBetweenAndTitled.plan Film.mapping "").result.toOption.map
      (·.request.filter) = some (some (.and [Film.madeBetweenBounds,
        .or [.term "title" Film.title (.str "heat"),
          .term "title" Film.title (.str "ronin")]])) := by decide
  obtain ⟨t, ht, hfilter⟩ := Option.map_eq_some_iff.1 hplanned
  have hquiet : ∀ d ∈ (Criteria.and [Film.madeBetweenBounds,
      .or [.term "title" Film.title (.str "heat"),
        .term "title" Film.title (.str "ronin")]]).reached, d.IsQuiet Film.mapping := by
    simp only [Film.madeBetweenBounds, Criteria.reached, Criteria.reachedInAll, List.append_nil,
      List.cons_append, List.nil_append, List.forall_mem_cons, List.not_mem_nil, false_imp_iff,
      implies_true, Criteria.IsQuiet]
    decide
  obtain ⟨text, htext, hunmixed⟩ :=
    plan_unmixed_iff (toOption_eq_some.1 ht) (.inr hfilter) hquiet
  exact ⟨t, _, toOption_eq_some.1 ht, hfilter, hquiet, text, htext, hunmixed.2 (by decide)⟩

/-- A range with two bounds stands bare in a disjunction, so that `AND` and `OR` share a level. -/
theorem plan_mixes_connectives :
    ∃ t c, (Film.madeBetweenOrTitled.plan Film.mapping "").result = .ok t ∧
      t.request.filter = some c ∧
      c = .or [Film.madeBetweenBounds, .term "title" Film.title (.str "heat")] ∧
      c.toLucene Film.mapping =
        .ok "(year:\x7b1970 TO *\x7d AND year:\x7b* TO 1990\x7d OR title:heat)" ∧
      ¬Unmixed "(year:\x7b1970 TO *\x7d AND year:\x7b* TO 1990\x7d OR title:heat)" := by
  have hplanned : (Film.madeBetweenOrTitled.plan Film.mapping "").result.toOption.map
      (·.request.filter) = some (some
        (.or [Film.madeBetweenBounds, .term "title" Film.title (.str "heat")])) := by decide
  obtain ⟨t, ht, hfilter⟩ := Option.map_eq_some_iff.1 hplanned
  have htext : ((Criteria.or [Film.madeBetweenBounds,
      .term "title" Film.title (.str "heat")]).toLucene Film.mapping).toOption =
        some "(year:\x7b1970 TO *\x7d AND year:\x7b* TO 1990\x7d OR title:heat)" := by decide
  exact ⟨t, _, toOption_eq_some.1 ht, hfilter, rfl, toOption_eq_some.1 htext, by decide⟩

end Expression

end SearchQuery
