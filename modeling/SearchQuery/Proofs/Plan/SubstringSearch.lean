import SearchQuery.Proofs.Plan.Scoring
import SearchQuery.Proofs.Text.Glob

/-!
# Substring search

A text that is searched for in a member is sent as a wildcard pattern, between two stars and in
lower case. What the engine finds with it are the texts that contain the text in lower case, just if
no character of the text has a meaning of its own in patterns.

* `Expression.sentPattern`: the pattern that is sent for a text.
* `Expression.lower_contains`, `Expression.plan_contains`: where the pattern is put.
* `Expression.plan_contains_iff`: what it stands for.
-/

namespace SearchQuery

namespace Expression

variable {m : FieldMapping} {pathPrefix : String} {receiver : Expression} {field : String}
  {last : Member} {text : String}

/-- The pattern that is sent for a text. -/
def sentPattern (text : String) : String := Text.lower (searchPattern text)

theorem toList_sentPattern (h : (Text.trim text).isEmpty = false) :
    (sentPattern text).toList = '*' :: (Text.lower text).toList ++ ['*'] := by
  rw [sentPattern, searchPattern, h]
  exact Text.lower_between_stars text

/-- A text that is searched for becomes a wildcard, whatever the query so far. -/
theorem lower_contains (hfield : receiver.field? m pathPrefix = some (field, last))
    (hsequence : last.valueType.isSequence = false)
    (hsearchable : isSearchable last.valueType = true) (query : Option Criteria) :
    ((receiver.contains (.constant (.str text))).lower m pathPrefix query).result =
      .ok ⟨.wildcard field last (sentPattern text), query⟩ :=
  (lower_eq_ok_iff _ _ _).2
    ⟨⟨_, []⟩, ⟨_, formula_contains text hfield hsequence hsearchable, rfl⟩, rfl⟩

/-- In a `where` of its own, that wildcard is all that is asked for. -/
theorem plan_contains (type : DocumentType) (x : String)
    (hfield : receiver.field? m pathPrefix = some (field, last))
    (hsequence : last.valueType.isSequence = false)
    (hsearchable : isSearchable last.valueType = true) :
    ∃ t, (((source type).filterBy (.lambda x (receiver.contains (.constant (.str text))))).plan
        m pathPrefix).result = .ok t ∧
      t.request.placement = ⟨some (.wildcard field last (sentPattern text)), none⟩ := by
  have hbody := JoinsSubstrings.contains text hfield hsequence hsearchable
  exact plan_filterBy_source type x hbody.isFolded
    (formula_contains text hfield hsequence hsearchable) (Formula.Scores.atom rfl).add_empty

/-- **Substring search.** A text with something else than white space, searched for in a text
member, is sent as a wildcard. Read as a glob, its pattern accepts exactly the texts that contain
the text in lower case, if and only if the text has no star, question mark or backslash. -/
theorem plan_contains_iff (type : DocumentType) (x : String)
    (hfield : receiver.field? m pathPrefix = some (field, last))
    (hsequence : last.valueType.isSequence = false)
    (hsearchable : isSearchable last.valueType = true) (htext : (Text.trim text).isEmpty = false) :
    ∃ pattern,
      (∀ query, ((receiver.contains (.constant (.str text))).lower m pathPrefix query).result =
        .ok ⟨.wildcard field last pattern, query⟩) ∧
      (∃ t, (((source type).filterBy (.lambda x (receiver.contains (.constant (.str text))))).plan
          m pathPrefix).result = .ok t ∧
        t.request.placement = ⟨some (.wildcard field last pattern), none⟩) ∧
      ((∀ v : List Char, Glob.accepts (Glob.read pattern.toList) v = true ↔
          (Text.lower text).toList <:+: v) ↔
        Glob.IsPlain text.toList) := by
  refine ⟨sentPattern text, lower_contains hfield hsequence hsearchable,
    plan_contains type x hfield hsequence hsearchable, ?_⟩
  rw [toList_sentPattern htext, ← Text.isPlain_lower]
  exact Glob.accepts_iff_substring_iff

/-- A word in the title of a film is found in lower case. -/
theorem plan_contains_iff_film :
    (Text.trim "Heat").isEmpty = false ∧
      ∃ t, (((source Film.documents).filterBy (.lambda "f" (Film.titleContains "Heat"))).plan
        Film.mapping "").result = .ok t ∧
      t.request.placement = ⟨some (.wildcard "title" Film.title "*heat*"), none⟩ ∧
      ∀ v : List Char, Glob.accepts (Glob.read "*heat*".toList) v = true ↔
        "heat".toList <:+: v := by
  have hfield : ((Expression.parameter "f").member Film.title).field? Film.mapping "" =
      some ("title", Film.title) := by decide
  have htext : (Text.trim "Heat").isEmpty = false := by decide
  have hlower : Text.lower "Heat" = "heat" := by decide
  have hpattern : ((Film.titleContains "Heat").lower Film.mapping "" none).result.toOption =
      some ⟨.wildcard "title" Film.title "*heat*", none⟩ := by decide
  obtain ⟨pattern, hlowered, ⟨t, ht, hplacement⟩, hmeans⟩ :=
    plan_contains_iff Film.documents "f" hfield rfl rfl htext
  have hsame := Except.ok.inj ((hlowered none).symm.trans (toOption_eq_some.1 hpattern))
  obtain rfl : pattern = "*heat*" := by simpa using hsame
  rw [hlower] at hmeans
  exact ⟨htext, t, ht, hplacement, hmeans.2 (by decide)⟩

/-- A search for `50*` finds every title with a 50 in it. -/
theorem plan_contains_matches_more :
    (Text.trim "50*").isEmpty = false ∧
      (∃ t, (((source Film.documents).filterBy (.lambda "f" (Film.titleContains "50*"))).plan
          Film.mapping "").result = .ok t ∧
        t.request.placement = ⟨some (.wildcard "title" Film.title "*50**"), none⟩) ∧
      Glob.accepts (Glob.read "*50**".toList) "50 first dates".toList = true ∧
      ¬(Text.lower "50*").toList <:+: "50 first dates".toList := by
  have hplanned : (((source Film.documents).filterBy
      (.lambda "f" (Film.titleContains "50*"))).plan Film.mapping "").result.toOption.map
        (·.request.placement) = some ⟨some (.wildcard "title" Film.title "*50**"), none⟩ := by
    decide
  obtain ⟨t, ht, hplacement⟩ := Option.map_eq_some_iff.1 hplanned
  refine ⟨by decide, ⟨t, toOption_eq_some.1 ht, hplacement⟩, by decide, ?_⟩
  decide

end Expression

end SearchQuery
