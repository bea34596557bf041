import SearchQuery.Proofs.Expression.Folding
import SearchQuery.Proofs.Plan.Constants
import SearchQuery.Proofs.Plan.Scoring

/-!
# Predicates with constants

A `where` whose predicate joins filters and constants is always planned. Its request means the
predicate with the constants that are true dropped from conjunctions and disjunctions alike.

* `JoinsFilters`: such predicates, and the formulas that they say.
* `JoinsFilters.exists_split`: what is left of one when it is folded and lowered.
* `plan_joinsFilters`: when the request means the predicate. It does not where a constant that is
  true is dropped from a disjunction with a filter (`plan_joinsFilters_narrows`).
-/

namespace SearchQuery

open Lowered (Connective)

/-! ### What is left of a formula -/

namespace Formula

variable {f left right : Formula} {op : Connective} {b : Bool} {s l r : Split}

/-- The formula with its constants dropped remains, unless that is nothing, and nothing is lifted. -/
structure LeftAs (f : Formula) (s : Split) : Prop where
  lifted : s.lifted = []
  nop : f.folded? = some true → s.rest.isNop = true
  filter : f.folded? ≠ some true → s.rest.IsFilter
  holds : ∀ v, s.rest.holds v = f.dropping.holds v

theorem holds_dropping_of_folded? (h : f.folded? = some b) (v : Valuation) :
    f.dropping.holds v = b := by
  rw [holds_eq_eval, eval_of_value? (value?_of_folded? (folded?_dropping h))]

theorem leftAs_constant (h : f.folded? = some b) : f.LeftAs ⟨.ofConstant b, []⟩ where
  lifted := rfl
  nop hb := by
    obtain rfl := Option.some.inj (h.symm.trans hb)
    rfl
  filter hb := by
    cases b with
    | true => exact absurd h hb
    | false => exact .not (.leaf rfl)
  holds v := by
    rw [holds_dropping_of_folded? h]
    cases b <;> rfl

namespace LeftAs

theorem isQueryContext (h : f.LeftAs s) : s.rest.isQueryContext = false := by
  by_cases htrue : f.folded? = some true
  · refine Bool.eq_false_iff.2 fun hq => ?_
    have hnop := h.nop htrue
    rw [Criteria.isNop_of_isQueryContext hq] at hnop
    cases hnop
  · exact (h.filter htrue).isQueryContext

theorem negate (h : f.LeftAs s) (hfolded : f.folded? = none) :
    ∃ s', s.negate = some s' ∧ (Formula.not f).LeftAs s' := by
  have hfilter : s.rest.IsFilter := h.filter (by simp [hfolded])
  have hnegate : s.negate = some ⟨.not s.rest, []⟩ := by
    simp [Split.negate, h.isQueryContext, h.lifted, hfilter.isNop]
  refine ⟨_, hnegate, rfl, ?_, fun _ => hfilter.not, fun v => ?_⟩
  · simp [folded?, hfolded]
  · rw [Criteria.holds_not, h.holds, dropping]
    rfl

/-- Two sides that are not both constants: a side that is true is dropped, and otherwise they are
combined. -/
theorem join (op : Connective) (hl : left.LeftAs l) (hr : right.LeftAs r)
    (hfolded : left.folded? = none ∨ right.folded? = none) :
    ∃ s, Split.join op l r = some s ∧ (Formula.join op left right).LeftAs s := by
  have hnone : (Formula.join op left right).folded? = none := by
    rcases hfolded with h | h <;> simp [folded?, h]
  have hjoin : ∀ c, op.joinFilters l.rest r.rest = .ok c → Split.join op l r = some ⟨c, []⟩ := by
    intro c hc
    simp [Split.join, hl.isQueryContext, hr.isQueryContext, hl.lifted, hr.lifted, hc,
      Except.toOption]
  have hleft : ∀ c, c.IsFilter → (∀ v, c.holds v = (Formula.join op left right).dropping.holds v) →
      (Formula.join op left right).LeftAs ⟨c, []⟩ := fun c hc hholds =>
    ⟨rfl, by simp [hnone], fun _ => hc, hholds⟩
  by_cases hltrue : left.folded? = some true
  · have hrnone : right.folded? = none := hfolded.resolve_left (by simp [hltrue])
    refine ⟨⟨r.rest, []⟩, hjoin _ ?_, hleft _ (hr.filter (by simp [hrnone])) fun v => ?_⟩
    · rw [Connective.joinFilters, if_pos (hl.nop hltrue)]
    · rw [hr.holds, dropping, if_pos ⟨hltrue, hrnone⟩]
  · have hlfilter := hl.filter hltrue
    by_cases hrtrue : right.folded? = some true
    · have hlnone : left.folded? = none := hfolded.resolve_right (by simp [hrtrue])
      refine ⟨⟨l.rest, []⟩, hjoin _ ?_, hleft _ hlfilter fun v => ?_⟩
      · rw [Connective.joinFilters, hlfilter.isNop, if_neg Bool.false_ne_true,
          if_pos (hr.nop hrtrue)]
      · rw [hl.holds, dropping, if_neg (by simp [hltrue]), if_pos ⟨hrtrue, hlnone⟩]
    · have hrfilter := hr.filter hrtrue
      obtain ⟨c, hc⟩ := Split.exists_combine op hlfilter hrfilter
      refine ⟨⟨c, []⟩, hjoin _ ?_, hleft _ (Split.isFilter_of_combine hlfilter hrfilter hc)
        fun v => ?_⟩
      · simp [Connective.joinFilters, hlfilter.isNop, hrfilter.isNop, hc]
      · rw [Connective.holds_combine hc, dropping, if_neg (by simp [hltrue]),
          if_neg (by simp [hrtrue])]
        cases op <;> simp only [Formula.holds, hl.holds, hr.holds]

end LeftAs

/-- Placed first, what is left is the filter, if there is something left. -/
theorem LeftAs.add_empty (h : f.LeftAs s) {g : Formula} (hg : g.split = some s) :
    Placement.empty.add ⟨false, g⟩ =
      some ⟨none, if f.folded? = some true then none else some s.rest⟩ := by
  rw [Placement.add, hg, Option.map_some, h.lifted]
  split_ifs with htrue
  · rw [Placement.put_nop (h.nop htrue)]
    rfl
  · rw [Placement.put_restrict (by simp [(h.filter htrue).isNop]) (by simp [h.isQueryContext])]
    rfl

end Formula

namespace Expression

variable {m : FieldMapping} {pathPrefix : String}

/-! ### Predicates over filters and constants -/

/-- Connectives and negations over filters and constants, and what they say. A negated boolean field
is a filter of its own. -/
inductive JoinsFilters (m : FieldMapping) (pathPrefix : String) : Expression → Formula → Prop
  | constant {e : Expression} {b : Bool} (hfold : e.fold = .ok (.constant (.bool b))) :
    JoinsFilters m pathPrefix e (.atom (.ofConstant b))
  | filter {e e' : Expression} {c : Criteria} (hfold : e.fold = .ok e')
    (hformula : e'.formula m pathPrefix = .ok (.atom c)) (hfilter : c.IsFilter)
    (hconstant : c.constant? = none) : JoinsFilters m pathPrefix e (.atom c)
  | not {operand : Expression} {f : Formula} (hfield : operand.booleanField? m pathPrefix = none)
    (h : JoinsFilters m pathPrefix operand f) :
    JoinsFilters m pathPrefix (.unary .not operand) (.not f)
  | join (op : Connective) {left right : Expression} {f g : Formula}
    (hl : JoinsFilters m pathPrefix left f) (hr : JoinsFilters m pathPrefix right g) :
    JoinsFilters m pathPrefix (.binary op.operator left right) (.join op f g)

/-- The predicate folds to a constant exactly where its formula does, and what is left of it when it
is lowered is the formula with its constants dropped. -/
def LowersTo (m : FieldMapping) (pathPrefix : String) (e : Expression) (f : Formula) : Prop :=
  ∃ e' s, e.fold = .ok e' ∧ e'.constant? = f.folded?.map .bool ∧
    e'.SplitsInto m pathPrefix s ∧ f.LeftAs s

section LowersTo

variable {e operand left right : Expression} {f g : Formula} {b : Bool}

theorem lowersTo_constant (hfold : e.fold = .ok (.constant (.bool b)))
    (hf : f.folded? = some b) : e.LowersTo m pathPrefix f := by
  refine ⟨_, _, hfold, by rw [hf]; rfl, ⟨.atom (.ofConstant b), ?_, rfl⟩,
    Formula.leftAs_constant hf⟩
  cases b <;> rfl

/-- What is no constant afterwards was none before. -/
theorem constant?_of_formula {c : Criteria} (h : e.formula m pathPrefix = .ok (.atom c))
    (hc : c.constant? = none) : e.constant? = none := by
  cases e with
  | constant v =>
    obtain ⟨c', hleaf, heq⟩ := bind_eq_ok.1 h
    obtain rfl := Formula.atom.inj (Except.ok.inj heq)
    cases v with
    | bool b => cases b <;> cases hleaf <;> cases hc
    | _ => cases hleaf
  | _ => rfl

theorem lowersTo_filter {e' : Expression} {c : Criteria} (hfold : e.fold = .ok e')
    (hformula : e'.formula m pathPrefix = .ok (.atom c)) (hfilter : c.IsFilter)
    (hconstant : c.constant? = none) : e.LowersTo m pathPrefix (.atom c) := by
  refine ⟨e', ⟨c, []⟩, hfold, ?_, ⟨.atom c, hformula, rfl⟩, rfl, ?_, fun _ => hfilter,
    fun _ => rfl⟩
  · rw [constant?_of_formula hformula hconstant, Formula.folded?, hconstant]
    rfl
  · rw [Formula.folded?, hconstant]
    rintro ⟨⟩

theorem LowersTo.not (hfield : operand.booleanField? m pathPrefix = none)
    (h : operand.LowersTo m pathPrefix f) :
    (Expression.unary .not operand).LowersTo m pathPrefix (.not f) := by
  obtain ⟨o, s, hfold, hconstant, hsplit, hleft⟩ := h
  cases hf : f.folded? with
  | some b =>
    rw [hf] at hconstant
    obtain rfl := constant?_eq_some.1 hconstant
    refine lowersTo_constant (b := !b) ?_ (by rw [Formula.folded?, hf]; rfl)
    rw [fold, hfold]
    rfl
  | none =>
    rw [hf] at hconstant
    obtain ⟨s', hnegate, hleft'⟩ := hleft.negate hf
    refine ⟨.unary .not o, s', ?_, by rw [Formula.folded?, hf]; rfl, ?_, hleft'⟩
    · rw [fold, hfold]
      exact foldUnary_eq_self hconstant
    · exact (splitsInto_not ((booleanField?_fold hfold).trans hfield)).2 ⟨s, hsplit, hnegate⟩

theorem LowersTo.join (op : Connective) (hl : left.LowersTo m pathPrefix f)
    (hr : right.LowersTo m pathPrefix g) :
    (Expression.binary op.operator left right).LowersTo m pathPrefix (.join op f g) := by
  obtain ⟨l, sl, hfoldl, hconstantl, hsplitl, hleftl⟩ := hl
  obtain ⟨r, sr, hfoldr, hconstantr, hsplitr, hleftr⟩ := hr
  have hfold : ∀ {e}, foldBinary op.operator l r = .ok e →
      (Expression.binary op.operator left right).fold = .ok e := by
    intro e he
    rw [fold, hfoldl, hfoldr]
    exact he
  by_cases hnone : f.folded? = none ∨ g.folded? = none
  · obtain ⟨s, hjoin, hleft⟩ := hleftl.join op hleftr hnone
    refine ⟨.binary op.operator l r, s, hfold ?_, ?_,
      splitsInto_join.2 ⟨sl, hsplitl, sr, hsplitr, hjoin⟩, hleft⟩
    · rcases hnone with hf | hg
      · rw [hf] at hconstantl
        exact foldBinary_eq_self hconstantl
      · rw [hg] at hconstantr
        exact foldBinary_eq_self_right hconstantr
    · rcases hnone with h | h <;> simp [Formula.folded?, h, constant?]
  · rw [not_or, ← ne_eq, ← ne_eq, Option.ne_none_iff_exists', Option.ne_none_iff_exists'] at hnone
    obtain ⟨⟨a, ha⟩, b, hb⟩ := hnone
    rw [ha] at hconstantl
    rw [hb] at hconstantr
    obtain rfl := constant?_eq_some.1 hconstantl
    obtain rfl := constant?_eq_some.1 hconstantr
    refine lowersTo_constant (hfold ?_) (Formula.folded?_join_eq_some.2 ⟨a, b, ha, hb, rfl⟩)
    cases op <;> rfl

theorem JoinsFilters.lowersTo (h : e.JoinsFilters m pathPrefix f) : e.LowersTo m pathPrefix f := by
  induction h with
  | constant hfold => exact lowersTo_constant hfold (Criteria.constant?_eq_some.2 rfl)
  | filter hfold hformula hfilter hconstant =>
    exact lowersTo_filter hfold hformula hfilter hconstant
  | not hfield _ ih => exact ih.not hfield
  | join op _ _ ihl ihr => exact ihl.join op ihr

end LowersTo

/-! ### Planning -/

/-- What a predicate over filters and constants comes to. -/
theorem plan_leftAs (type : DocumentType) (x : String) {body : Expression} {f : Formula}
    (hbody : body.JoinsFilters m pathPrefix f) :
    ∃ t, (((source type).filterBy (.lambda x body)).plan m pathPrefix).result = .ok t ∧
      (f.folded? = some true → t.request.placement = ⟨none, some (m.typeExists type)⟩) ∧
      (f.folded? ≠ some true → ∀ v, t.request.placement.holds v = f.dropping.holds v) := by
  obtain ⟨body', s, hfold, -, ⟨g, hg, hsplit⟩, hleft⟩ := hbody.lowersTo
  obtain ⟨t, ht, hplacement⟩ := plan_filterBy_of_fold type x hfold hg (hleft.add_empty hsplit)
  refine ⟨t, ht, fun htrue => ?_, fun htrue v => ?_⟩
  · rw [hplacement, if_pos htrue]
    rfl
  · rw [hplacement, if_neg htrue, ← hleft.holds]
    simp [Placement.complete, Placement.holds]

/-- **Constants in predicates.** A `where` whose predicate joins filters and constants is planned.
Where every connective that comes to a constant keeps it, a document satisfies the request exactly
when it satisfies the predicate, or all documents of the type are asked for and the predicate is
always true. Otherwise, if every truth assignment to the leaves is that of some document, one of
them tells the request from the predicate. -/
theorem plan_joinsFilters (type : DocumentType) (x : String) {body : Expression} {f : Formula}
    (hbody : body.JoinsFilters m pathPrefix f) :
    ∃ t, (((source type).filterBy (.lambda x body)).plan m pathPrefix).result = .ok t ∧
      (f.keepsConstants = true →
        (∀ v, t.request.placement.holds v = f.holds v) ∨
          t.request.placement = ⟨none, some (m.typeExists type)⟩ ∧ ∀ v, f.holds v = true) ∧
      (f.keepsConstants = false → f.Independent →
        ∃ v, t.request.placement.holds v ≠ f.holds v) := by
  obtain ⟨t, ht, hall, hdropping⟩ := plan_leftAs type x hbody
  refine ⟨t, ht, fun hkeeps => ?_, fun hkeeps hindependent => ?_⟩
  · by_cases htrue : f.folded? = some true
    · refine .inr ⟨hall htrue, fun v => ?_⟩
      rw [Formula.holds_eq_eval, Formula.eval_of_value? (Formula.value?_of_folded? htrue)]
    · refine .inl fun v => ?_
      rw [hdropping htrue, Formula.holds_eq_eval, Formula.eval_dropping hkeeps,
        ← Formula.holds_eq_eval]
  · have htrue : f.folded? ≠ some true := by
      intro htrue
      rw [Formula.keepsConstants_of_folded? htrue] at hkeeps
      cases hkeeps
    by_contra hnone
    rw [not_exists] at hnone
    have hsame : ∀ v, f.dropping.holds v = f.holds v := fun v => by
      rw [← hdropping htrue, not_ne_iff.1 (hnone v)]
    rw [(hindependent.keepsConstants_iff).2 hsame] at hkeeps
    cases hkeeps

end Expression

namespace Film

def termYear1970 : Criteria := .term "year" year (.int 1970)

theorem joinsFilters_madeIn1970 :
    madeIn1970.JoinsFilters mapping "" (.atom termYear1970) := by
  have hformula : madeIn1970.formula mapping "" = .ok (.atom termYear1970) :=
    toOption_eq_some.1 (by decide)
  exact .filter rfl hformula (.leaf rfl) rfl

/-- Anything from 1970, or else nothing. -/
def anyFrom1970 : Expression :=
  ((Expression.constant (.bool true)).andAlso madeIn1970).orElse (.constant (.bool false))

def anyFrom1970Formula : Formula :=
  .join .or (.join .and (.atom (.ofConstant true)) (.atom termYear1970))
    (.atom (.ofConstant false))

theorem joinsFilters_anyFrom1970 : anyFrom1970.JoinsFilters mapping "" anyFrom1970Formula :=
  .join .or (.join .and (.constant rfl) joinsFilters_madeIn1970) (.constant rfl)

/-- Films from 1970, or any other. -/
def from1970OrAny : Expression := madeIn1970.orElse (.constant (.bool true))

def from1970OrAnyFormula : Formula :=
  .join .or (.atom termYear1970) (.atom (.ofConstant true))

theorem joinsFilters_from1970OrAny :
    from1970OrAny.JoinsFilters mapping "" from1970OrAnyFormula :=
  .join .or joinsFilters_madeIn1970 (.constant rfl)

end Film

namespace Expression

theorem plan_joinsFilters_film :
    Film.anyFrom1970.JoinsFilters Film.mapping "" Film.anyFrom1970Formula ∧
      ∃ t, (((source Film.documents).filterBy (.lambda "f" Film.anyFrom1970)).plan
        Film.mapping "").result = .ok t ∧
      ∀ v, t.request.placement.holds v = Film.anyFrom1970Formula.holds v := by
  obtain ⟨t, ht, hkeeps, -⟩ :=
    plan_joinsFilters Film.documents "f" Film.joinsFilters_anyFrom1970
  refine ⟨Film.joinsFilters_anyFrom1970, t, ht, ?_⟩
  rcases hkeeps (by decide) with hmeans | ⟨-, htrue⟩
  · exact hmeans
  · exact absurd (htrue (.ofLeaves fun _ => false)) (by decide)

/-- Every film satisfies the predicate, but the request asks for those from 1970. -/
theorem plan_joinsFilters_narrows :
    Film.from1970OrAny.JoinsFilters Film.mapping "" Film.from1970OrAnyFormula ∧
      (∀ v, Film.from1970OrAnyFormula.holds v = true) ∧
      ∃ t, (((source Film.documents).filterBy (.lambda "f" Film.from1970OrAny)).plan
        Film.mapping "").result = .ok t ∧
      t.request.placement = ⟨none, some Film.termYear1970⟩ ∧
      ∃ v, t.request.placement.holds v = false := by
  have h : (((source Film.documents).filterBy (.lambda "f" Film.from1970OrAny)).plan
      Film.mapping "").result.toOption.map (·.request.placement) =
        some ⟨none, some Film.termYear1970⟩ := by decide
  obtain ⟨t, ht, hplacement⟩ := Option.map_eq_some_iff.1 h
  refine ⟨Film.joinsFilters_from1970OrAny, fun v => ?_, t, toOption_eq_some.1 ht, hplacement,
    .ofLeaves fun _ => false, ?_⟩
  · simp [Film.from1970OrAnyFormula, Formula.holds, Criteria.ofConstant]
  · rw [hplacement]
    decide

end Expression

end SearchQuery
