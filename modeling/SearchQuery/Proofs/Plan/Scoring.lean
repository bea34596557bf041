import SearchQuery.Proofs.Expression.Folded
import SearchQuery.Proofs.Plan.ScoringFormula

/-!
# Predicates over substrings

A `where` whose predicate joins nothing but substring leaves is planned as a query without a filter.

* `JoinsSubstrings`: such predicates. Folding leaves them alone, and their formulas score.
* `plan_filterBy_of_fold`: a single `where` places the formula of its predicate.
* `plan_substrings`: when the query means the predicate. It does not where a disjunction joins a
  conjunction (`plan_substrings_narrows`).
-/

namespace SearchQuery

open Lowered (Connective)

namespace Expression

variable {m : FieldMapping} {pathPrefix : String}

/-! ### Substring predicates -/

/-- Connectives over texts that are searched for in text fields. -/
inductive JoinsSubstrings (m : FieldMapping) (pathPrefix : String) : Expression → Prop
  | contains {receiver : Expression} {field : String} {last : Member} (text : String)
    (hfield : receiver.field? m pathPrefix = some (field, last))
    (hsequence : last.valueType.isSequence = false)
    (hsearchable : isSearchable last.valueType = true) :
    JoinsSubstrings m pathPrefix (receiver.contains (.constant (.str text)))
  | join (op : Connective) {left right : Expression} (hl : JoinsSubstrings m pathPrefix left)
    (hr : JoinsSubstrings m pathPrefix right) :
    JoinsSubstrings m pathPrefix (.binary op.operator left right)

theorem formula_contains {receiver : Expression} {field : String} {last : Member} (text : String)
    (hfield : receiver.field? m pathPrefix = some (field, last))
    (hsequence : last.valueType.isSequence = false)
    (hsearchable : isSearchable last.valueType = true) :
    (receiver.contains (.constant (.str text))).formula m pathPrefix =
      .ok (.atom (.substring field last (searchPattern text))) := by
  have hcriteria : containsCriteria m pathPrefix receiver (.constant (.str text)) =
      .ok (.substring field last (searchPattern text)) := by
    have hconstant : containsConstant m pathPrefix receiver (.constant (.str text)) =
        .ok (.substring field last (searchPattern text)) := by
      simp [containsConstant, hfield, constant?, hsequence, hsearchable]
    rw [← hconstant, containsCriteria]
    cases receiver.constant?.bind Json.items? <;> rfl
  show (do return Formula.atom (← containsCriteria m pathPrefix receiver _)) = _
  rw [hcriteria]
  rfl

theorem JoinsSubstrings.isFolded {e : Expression} (h : e.JoinsSubstrings m pathPrefix) :
    e.IsFolded := by
  induction h with
  | contains text hfield hsequence hsearchable =>
    have hreceiver := isFolded_of_field? hfield
    refine ⟨?_, rfl⟩
    rw [Expression.contains, fold, foldArgs, hreceiver.fold_eq, foldArgs, fold, foldArgs]
    exact foldCall_eq_self hreceiver.not_constant
  | join op hl hr ihl ihr => exact ihl.binary ihr

theorem JoinsSubstrings.exists_formula {e : Expression} (h : e.JoinsSubstrings m pathPrefix) :
    ∃ f, e.formula m pathPrefix = .ok f ∧ f.Scores := by
  induction h with
  | contains text hfield hsequence hsearchable =>
    exact ⟨_, formula_contains text hfield hsequence hsearchable, .atom rfl⟩
  | join op hl hr ihl ihr =>
    obtain ⟨f, hf, hfs⟩ := ihl
    obtain ⟨g, hg, hgs⟩ := ihr
    exact ⟨.join op f g, by rw [formula_join, hf, hg]; rfl, .join op hfs hgs⟩

/-! ### Planning -/

/-- A `where` over all documents of a type places the formula of its predicate, once folded. -/
theorem plan_filterBy_of_fold (type : DocumentType) (x : String) {body body' : Expression}
    {f : Formula} {p : Placement} (hbody : body.fold = .ok body')
    (hf : body'.formula m pathPrefix = .ok f) (hp : Placement.empty.add ⟨false, f⟩ = some p) :
    ∃ t, (((source type).filterBy (.lambda x body)).plan m pathPrefix).result = .ok t ∧
      t.request.placement = p.complete (m.typeExists type) := by
  have hfold : ((source type).filterBy (.lambda x body)).fold =
      .ok ((source type).filterBy (.lambda x body')) := by
    rw [filterBy, fold, foldArgs, fold, foldArgs, fold, hbody, foldArgs]
    rfl
  let scope : Scope := ⟨m, pathPrefix, m.documentPrefix type⟩
  have hplaced : (Draft.empty.filterBy scope (.lambda x body')).result =
      .ok (Draft.empty.place p) :=
    Draft.filterBy_eq_ok_iff.2 ⟨f, p, hf, hp, rfl⟩
  have hstep : (Draft.empty.applyStep scope ("where", [.lambda x body'])).result =
      .ok (Draft.empty.place p) :=
    Traced.bind_eq_ok.2 ⟨.filterBy (.lambda x body'), rfl, hplaced⟩
  have hsteps : (Draft.empty.applySteps scope [("where", [.lambda x body'])]).result =
      .ok (Draft.empty.place p) :=
    Traced.bind_eq_ok.2 ⟨_, hstep, rfl⟩
  have hchain : (Draft.ofChain scope ⟨[("where", [.lambda x body'])], .documents type⟩).result =
      .ok (_, type) :=
    Traced.bind_eq_ok.2 ⟨_, hsteps, Traced.bind_eq_ok.2 ⟨type, rfl, rfl⟩⟩
  refine ⟨_, plan_eq_ok_iff.2 ⟨_, hfold, Traced.bind_eq_ok.2 ⟨_, hchain, rfl⟩⟩, ?_⟩
  exact completeFilter_placement m type _

/-- Such a predicate is placed as it is where it is folded already. -/
theorem plan_filterBy_source (type : DocumentType) (x : String) {body : Expression} {f : Formula}
    {p : Placement} (hbody : body.IsFolded) (hf : body.formula m pathPrefix = .ok f)
    (hp : Placement.empty.add ⟨false, f⟩ = some p) :
    ∃ t, (((source type).filterBy (.lambda x body)).plan m pathPrefix).result = .ok t ∧
      t.request.placement = p.complete (m.typeExists type) :=
  plan_filterBy_of_fold type x hbody.fold_eq hf hp

/-- **Lifting and the meaning of scoring predicates.** A `where` over substrings is planned as a
query without a filter. The query means the predicate exactly where `liftsFaithfully` says so; for
distinct leaves, exactly where the predicate has no two different connectives. -/
theorem plan_substrings (type : DocumentType) (x : String) {body : Expression}
    (hbody : body.JoinsSubstrings m pathPrefix) :
    ∃ f t, body.formula m pathPrefix = .ok f ∧
      (((source type).filterBy (.lambda x body)).plan m pathPrefix).result = .ok t ∧
      t.request.placement = ⟨some f.scoringQuery, none⟩ ∧
      ((∀ v, f.scoringQuery.holds v = f.holds v) ↔ f.liftsFaithfully = true) ∧
      (f.atoms.Nodup → (f.liftsFaithfully = true ↔ ∃ op, f.joinsOnly op = true)) := by
  obtain ⟨f, hf, hscores⟩ := hbody.exists_formula
  obtain ⟨t, ht, hplacement⟩ := plan_filterBy_source type x hbody.isFolded hf hscores.add_empty
  exact ⟨f, t, hf, ht, hplacement, hscores.forall_holds_iff, hscores.liftsFaithfully_iff⟩

end Expression

namespace Film

/-- Two words in the title together, or a third one. -/
def wordsOrWord : Expression :=
  ((titleContains "Family").andAlso (titleContains "Crime")).orElse (titleContains "War")

def wordsOrWordFormula : Formula :=
  .join .or (.join .and (.atom (.wildcard "title" title "*family*"))
    (.atom (.wildcard "title" title "*crime*"))) (.atom (.wildcard "title" title "*war*"))

theorem formula_wordsOrWord : wordsOrWord.formula mapping "" = .ok wordsOrWordFormula :=
  toOption_eq_some.1 (by decide)

theorem joinsSubstrings_wordsOrWord : wordsOrWord.JoinsSubstrings mapping "" :=
  .join .or (.join .and (.contains "Family" rfl rfl rfl) (.contains "Crime" rfl rfl rfl))
    (.contains "War" rfl rfl rfl)

end Film

namespace Expression

theorem plan_substrings_film :
    Film.wordsOrWord.JoinsSubstrings Film.mapping "" ∧
      ∃ t, (((source Film.documents).filterBy (.lambda "f" Film.wordsOrWord)).plan
        Film.mapping "").result = .ok t ∧
      t.request.placement = ⟨some Film.wordsOrWordFormula.scoringQuery, none⟩ ∧
      ¬∀ v, Film.wordsOrWordFormula.scoringQuery.holds v = Film.wordsOrWordFormula.holds v := by
  obtain ⟨f, t, hf, ht, hplacement, hmeans, -⟩ :=
    plan_substrings Film.documents "f" Film.joinsSubstrings_wordsOrWord
  obtain rfl : Film.wordsOrWordFormula = f :=
    Except.ok.inj (Film.formula_wordsOrWord.symm.trans hf)
  exact ⟨Film.joinsSubstrings_wordsOrWord, t, ht, hplacement, mt hmeans.1 (by decide)⟩

/-- A film about war satisfies the predicate, but the request asks for the two other words. -/
theorem plan_substrings_narrows :
    ∃ t f v, (((source Film.documents).filterBy (.lambda "f" Film.wordsOrWord)).plan
        Film.mapping "").result = .ok t ∧
      t.request.filter = none ∧ Film.wordsOrWord.formula Film.mapping "" = .ok f ∧
      f.holds v = true ∧ t.request.placement.holds v = false := by
  have h : (((source Film.documents).filterBy (.lambda "f" Film.wordsOrWord)).plan
      Film.mapping "").result.toOption.map (·.request.placement) =
        some ⟨some (.bool [.wildcard "title" Film.title "*family*",
          .wildcard "title" Film.title "*crime*"] [] [.wildcard "title" Film.title "*war*"]),
          none⟩ := by decide
  obtain ⟨t, ht, hplacement⟩ := Option.map_eq_some_iff.1 h
  refine ⟨t, Film.wordsOrWordFormula, .ofLeaves fun c => c = .wildcard "title" Film.title "*war*",
    toOption_eq_some.1 ht, congrArg Placement.filter hplacement, Film.formula_wordsOrWord,
    by decide, ?_⟩
  rw [hplacement]
  decide

end Expression

end SearchQuery
