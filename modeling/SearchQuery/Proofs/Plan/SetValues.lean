import SearchQuery.Proofs.Json.Members
import SearchQuery.Proofs.Json.Sameness
import SearchQuery.Proofs.Plan.ChainRun
import SearchQuery.Proofs.Plan.Scoring
import SearchQuery.Wire.Format

/-!
# Sets of values

`contains_any` and `contains_all` ask for documents whose member has one or all of a set of values.
The values are sent under the field of the member, in one object with the way to match them.

* `plan_filter`: the request that a filter comes to in a `where` of its own, and its body.
* `CarriesSet`: an object of the body has the values and the way to match them.
* `plan_set_iff`: the values arrive unless the field itself is called `execution`.
-/

namespace SearchQuery

/-! ### A filter of its own -/

/-- The request for the documents of a type that satisfy a criteria. -/
def SearchRequest.filteredBy (m : FieldMapping) (type : DocumentType) (c : Criteria) :
    SearchRequest :=
  { SearchRequest.empty with documentType := m.documentType type, filter := some c }

/-- The member that says how long the engine may take. -/
def SearchRequest.timeoutMember (config : ConnectionConfig) : List (String × Json) :=
  bodyMember "timeout" ((Timeout.ofMillis? config.timeoutMillis).map Timeout.toJson)

theorem SearchRequest.toBody_filteredBy {m : FieldMapping} {type : DocumentType} {c : Criteria}
    {body : Json} (config : ConnectionConfig) (h : c.toBody m = .ok body) :
    (filteredBy m type c).toBody config m = .ok (.obj (("filter", body) ::
      bodyMember "timeout" ((Timeout.ofMillis? config.timeoutMillis).map Timeout.toJson))) := by
  have hfilter : criteriaBody m (filteredBy m type c).hitFilter = .ok (some body) := by
    show (c.toBody m).map some = _
    rw [h]
    rfl
  rw [toBody, hfilter]
  rfl

namespace Expression

variable {m : FieldMapping} {pathPrefix : String} {receiver : Expression} {field : String}
  {last : Member} {method : String} {mode : TermsExecution} {values : List Json}

/-- A `where` with nothing but a filter asks for that filter. -/
theorem plan_filter (type : DocumentType) (x : String) {body : Expression} {c : Criteria}
    (hbody : body.IsFolded) (hformula : body.formula m pathPrefix = .ok (.atom c))
    (hnop : c.isNop = false) (hfilter : c.isQueryContext = false) :
    ∃ t, (((source type).filterBy (.lambda x body)).plan m pathPrefix).result = .ok t ∧
      t.request = .filteredBy m type c := by
  have hchain : ((source type).filterBy (.lambda x body)).chain =
      ⟨[("where", [.lambda x body])], .documents type⟩ := rfl
  have hplaced : Placement.empty.add ⟨false, .atom c⟩ = some ⟨none, some c⟩ := by
    show some (Placement.empty.put false c) = _
    rw [Placement.put_restrict (by simp [hnop]) (by simp [hfilter])]
    rfl
  have hfold : [("where", [Expression.lambda x body])].mapM foldStep =
      .ok [("where", [.lambda x body])] := by
    simp only [List.mapM_cons, List.mapM_nil, foldStep, foldArgs, fold, hbody.fold_eq]
    rfl
  let scope := Scope.over m pathPrefix type
  have happly : (Draft.empty.apply scope (.filterBy (.lambda x body))).result =
      .ok (Draft.empty.place ⟨none, some c⟩) :=
    Draft.filterBy_eq_ok_iff.2 ⟨_, _, hformula, hplaced, rfl⟩
  have hsteps : (Draft.empty.applySteps scope [("where", [.lambda x body])]).result =
      .ok (Draft.empty.place ⟨none, some c⟩) :=
    Draft.applySteps_cons.2 ⟨_, Draft.applyStep_eq_ok_iff.2 ⟨_, rfl, happly⟩, rfl⟩
  exact ⟨_, (plan_eq_ok_iff_of_no_group hchain (by simp)).2 ⟨_, _, hfold, hsteps, rfl⟩, rfl⟩

/-! ### Sets -/

/-- The methods that ask for a set of values, and how they match it. -/
def setMethods : List (String × TermsExecution) :=
  [("contains_any", .bool), ("contains_all", .and)]

theorem formula_membership (hmode : (method, mode) ∈ setMethods)
    (hfield : receiver.field? m pathPrefix = some (field, last)) (values : List Json) :
    (Expression.call method [receiver, .constant (.arr values)]).formula m pathPrefix =
      .ok (.atom (.membership field last values (some mode))) := by
  have hpair : fieldConstant? m pathPrefix receiver (.constant (.arr values)) =
      some ⟨field, last, .arr values, false⟩ := by
    simp [fieldConstant?, hfield, constant?]
  have hterms : termsCriteria m pathPrefix method mode receiver (.constant (.arr values)) =
      .ok (.membership field last values (some mode)) := by
    rw [termsCriteria, hpair]
    rfl
  have hleaf : (Expression.call method [receiver, .constant (.arr values)]).leafCriteria
      m pathPrefix = .ok (.membership field last values (some mode)) := by
    rw [← hterms]
    simp only [setMethods, List.mem_cons, Prod.mk.injEq, List.not_mem_nil, or_false] at hmode
    rcases hmode with ⟨rfl, rfl⟩ | ⟨rfl, rfl⟩ <;> rfl
  show (do return Formula.atom (← leafCriteria m pathPrefix _)) = _
  rw [hleaf]
  rfl

/-- The criteria of a set of values, two of which differ. -/
theorem formula_set (hmode : (method, mode) ∈ setMethods)
    (hfield : receiver.field? m pathPrefix = some (field, last))
    (hvalues : ∃ v ∈ values, ∃ w ∈ values, v.same w = false) :
    (Expression.call method [receiver, .constant (.arr values)]).formula m pathPrefix =
      .ok (.atom (.terms field last (Json.distinct values) (some mode))) := by
  have hmembership : Criteria.membership field last values (some mode) =
      .terms field last (Json.distinct values) (some mode) := by
    have hsame : ∀ u, Json.distinct values = [u] → ∀ v ∈ values, u.same v = true := by
      intro u hu v hv
      have hany := Json.any_same_distinct values v
      rw [hu, List.any_cons, List.any_nil, Bool.or_false] at hany
      rw [hany]
      exact List.any_eq_true.2 ⟨v, hv, Json.same_refl v⟩
    unfold Criteria.membership
    split
    · rename_i u hu
      obtain ⟨v, hv, w, hw, hdiffer⟩ := hvalues
      rw [← Json.same_congr_left (hsame u hu v hv), hsame u hu w hw] at hdiffer
      cases hdiffer
    · rfl
  rw [formula_membership hmode hfield, hmembership]

theorem isFolded_set {e : Expression} (hfield : receiver.field? m pathPrefix = some (field, last))
    (he : e.fold = .ok e) : (Expression.call method [receiver, e]).IsFolded := by
  have hreceiver := isFolded_of_field? hfield
  refine ⟨?_, rfl⟩
  rw [fold, foldArgs, hreceiver.fold_eq, foldArgs, he, foldArgs]
  exact foldCall_eq_self hreceiver.not_constant

/-- The members give a field the values, and say how to match them. -/
def CarriesSet (members : List (String × Json)) (field : String) (values : List Json)
    (mode : TermsExecution) : Prop :=
  members.lookup field = some (.arr values) ∧
    members.lookup "execution" = some (.str mode.name)

/-- The way to match the values takes their place where the field has the name of that member. -/
theorem carriesSet_termsMembers_iff {formatted : List Json} :
    CarriesSet (Criteria.termsMembers m field last values (some mode)) field formatted mode ↔
      field ≠ "execution" ∧ formatted = values.map (m.formatValue last) := by
  simp only [CarriesSet, Criteria.termsMembers, Json.lookup_insertMember, if_true, and_true]
  by_cases hexecution : field = "execution"
  · simp [hexecution]
  · simp [hexecution, eq_comm]

end Expression

theorem MappingOptions.formatValue_same (options : MappingOptions) (m : Member) {v w : Json}
    (h : v.same w = true) : (options.formatValue m v).same (options.formatValue m w) = true := by
  have htext : ∀ {s : String} {u : Json}, (Json.str s).same u = true → u = .str s := by
    intro s u hu
    have hcanonical := Json.same_iff.1 hu
    cases u <;> simp_all [Json.canonical]
  cases v with
  | str s =>
    obtain rfl := htext h
    exact Json.same_refl _
  | _ =>
    cases w with
    | str s =>
      rw [Json.same_comm] at h
      cases htext h
    | _ => exact h

namespace Expression

variable {method : String} {mode : TermsExecution} {values : List Json}

/-- **Sets of values on the wire.** Two values or more for `contains_any` or `contains_all` are
sent, each at its first occurrence and formatted, together with the way to match them, exactly if
the field is not called `execution`. Those that are formatted alike are repeated. -/
theorem plan_set_iff (options : MappingOptions) (documentPrefix : Option String)
    (config : ConnectionConfig) (pathPrefix : String) (type : DocumentType) (x : String)
    (last : Member) (hmode : (method, mode) ∈ setMethods)
    (hvalues : ∃ v ∈ values, ∃ w ∈ values, v.same w = false) :
    ∃ t members rest,
      (((source type).filterBy (.lambda x (.call method [.member (.parameter x) last,
        .constant (.arr values)]))).plan (options.mapping documentPrefix) pathPrefix).result =
          .ok t ∧
      t.request.postBody config (options.mapping documentPrefix) =
        .ok (Json.obj (("filter", .obj [("terms", .obj members)]) :: rest)).render ∧
      (CarriesSet members (options.fieldName pathPrefix last)
          ((values.eraseDupsBy Json.same).map (options.formatValue last)) mode ↔
        options.fieldName pathPrefix last ≠ "execution") ∧
      (CarriesSet members (options.fieldName pathPrefix last)
          ((values.map (options.formatValue last)).eraseDupsBy Json.same) mode ↔
        options.fieldName pathPrefix last ≠ "execution" ∧
          ((values.eraseDupsBy Json.same).map (options.formatValue last)).Pairwise
            fun v w => v.same w = false) := by
  let m := options.mapping documentPrefix
  have hfield : (Expression.member (.parameter x) last).field? m pathPrefix =
      some (options.fieldName pathPrefix last, last) := rfl
  obtain ⟨t, ht, hrequest⟩ := plan_filter type x (isFolded_set hfield rfl)
    (formula_set hmode hfield hvalues) rfl rfl
  refine ⟨t, Criteria.termsMembers m (options.fieldName pathPrefix last) last
    (Json.distinct values) (some mode), SearchRequest.timeoutMember config, ht, ?_, ?_, ?_⟩
  · rw [hrequest, SearchRequest.postBody, SearchRequest.toBody_filteredBy config rfl]
    rfl
  · rw [carriesSet_termsMembers_iff, ← Json.distinct_eq_eraseDupsBy]
    exact and_iff_left rfl
  · rw [carriesSet_termsMembers_iff, ← Json.distinct_eq_eraseDupsBy,
      ← Json.distinct_map_distinct (options.formatValue_same last), ← Json.distinct_eq_eraseDupsBy]
    exact and_congr_right fun _ => Json.distinct_eq_self_iff

end Expression

namespace Film

/-- Titles that a film can have. -/
def twoTitles : List Json := [.str "Heat", .str "Ronin"]

def execution : Member := ⟨"Execution", .string⟩

/-- Films that are executed in one of two ways. -/
def executedEitherWay : Expression :=
  (Expression.source documents).filterBy (.lambda "f" (((Expression.parameter "f").member
    execution).containsAny (.constant (.arr [.str "a", .str "b"]))))

end Film

namespace Expression

theorem plan_set_iff_film :
    ("contains_any", .bool) ∈ setMethods ∧
      (∃ v ∈ Film.twoTitles, ∃ w ∈ Film.twoTitles, v.same w = false) ∧
      ∃ t members rest,
        (((source Film.documents).filterBy (.lambda "f" (.call "contains_any"
          [.member (.parameter "f") Film.title, .constant (.arr Film.twoTitles)]))).plan
            Film.mapping "").result = .ok t ∧
        t.request.postBody .standard Film.mapping =
          .ok (Json.obj (("filter", .obj [("terms", .obj members)]) :: rest)).render ∧
        CarriesSet members "title" [.str "heat", .str "ronin"] .bool := by
  have hmode : ("contains_any", TermsExecution.bool) ∈ setMethods := by decide
  have hvalues : ∃ v ∈ Film.twoTitles, ∃ w ∈ Film.twoTitles, v.same w = false := by decide
  have hfield : MappingOptions.standard.fieldName "" Film.title = "title" := by decide
  have hformatted : (Film.twoTitles.eraseDupsBy Json.same).map
      (MappingOptions.standard.formatValue Film.title) = [.str "heat", .str "ronin"] := by decide
  obtain ⟨t, members, rest, ht, hbody, hcarries, -⟩ :=
    plan_set_iff .standard none .standard "" Film.documents "f" Film.title hmode hvalues
  rw [hfield, hformatted] at hcarries
  exact ⟨hmode, hvalues, t, members, rest, ht, hbody, hcarries.2 (by decide)⟩

/-- The values are lost, and only the way to match them is sent. -/
theorem plan_set_loses_values :
    ∃ t, (Film.executedEitherWay.plan Film.mapping "").result = .ok t ∧
      t.request.filter =
        some (.terms "execution" Film.execution [.str "a", .str "b"] (some .bool)) ∧
      t.request.postBody .standard Film.mapping =
        .ok "\x7b\"filter\":\x7b\"terms\":\x7b\"execution\":\"bool\"\x7d\x7d\x7d" := by
  have hplanned : (Film.executedEitherWay.plan Film.mapping "").result.toOption.map
      (fun t => (t.request.filter, (t.request.postBody .standard Film.mapping).toOption)) =
        some (some (.terms "execution" Film.execution [.str "a", .str "b"] (some .bool)),
          some "\x7b\"filter\":\x7b\"terms\":\x7b\"execution\":\"bool\"\x7d\x7d\x7d") := by decide
  obtain ⟨t, ht, hsent⟩ := Option.map_eq_some_iff.1 hplanned
  obtain ⟨hfilter, hbody⟩ := Prod.mk.inj hsent
  exact ⟨t, toOption_eq_some.1 ht, hfilter, toOption_eq_some.1 hbody⟩

end Expression

end SearchQuery
