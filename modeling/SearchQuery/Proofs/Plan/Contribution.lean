import SearchQuery.Expression.Builder
import SearchQuery.Proofs.Plan.Requirements

/-!
# Requirements that contribute

A requirement contributes a criteria unless its formula joins nothing but what is always true. A
request has a query or a filter of its own exactly where some requirement contributes; without one
it asks for all documents of its type (`plan_placement_of_hits`).
-/

namespace SearchQuery

open Lowered (Connective)

/-- Whether anything is left of the formula when what is always true is dropped. -/
def Formula.contributes : Formula → Bool
  | .atom c => !c.isNop
  | .not _ => true
  | .join _ left right => left.contributes || right.contributes

/-! ### Requirements of a chain -/

namespace HoldsOfLeaves

variable {m : FieldMapping} {pathPrefix : String} {P : Criteria → Prop}

theorem lambdaFormula (hP : HoldsOfLeaves m pathPrefix P) {predicate : Expression} {f : Formula}
    (h : predicate.lambdaFormula m pathPrefix = .ok f) : ∀ c ∈ f.atoms, P c := by
  unfold Expression.lambdaFormula at h
  split at h
  · exact hP.formula h
  · cases h

theorem requirements (hP : HoldsOfLeaves m pathPrefix P) {op : Operator} {rs : List Requirement}
    (h : op.requirements m pathPrefix = .ok rs) : ∀ r ∈ rs, ∀ c ∈ r.formula.atoms, P c := by
  unfold Operator.requirements at h
  split at h
  · obtain ⟨f, hf, rfl⟩ := map_eq_ok.1 h
    exact List.forall_mem_singleton.2 (hP.lambdaFormula hf)
  · obtain ⟨f, hf, rfl⟩ := map_eq_ok.1 h
    exact List.forall_mem_singleton.2 (hP.lambdaFormula hf)
  · obtain ⟨f, hf, rfl⟩ := map_eq_ok.1 h
    exact List.forall_mem_singleton.2 (hP.lambdaFormula hf)
  · cases h
    exact List.forall_mem_singleton.2 (List.forall_mem_singleton.2 (hP.text _))
  all_goals
    cases h
    simp

theorem stepsRequirements (hP : HoldsOfLeaves m pathPrefix P)
    {steps : List (String × List Expression)} {rs : List Requirement}
    (h : SearchQuery.stepsRequirements m pathPrefix steps = .ok rs) :
    ∀ r ∈ rs, ∀ c ∈ r.formula.atoms, P c := by
  induction steps generalizing rs with
  | nil =>
    cases h
    simp
  | cons step rest ih =>
    simp only [SearchQuery.stepsRequirements, bind_eq_ok, pure_eq_ok] at h
    obtain ⟨op, -, here, hhere, below, hbelow, rfl⟩ := h
    exact List.forall_mem_append.2 ⟨hP.requirements hhere, ih hbelow⟩

end HoldsOfLeaves

theorem Expression.lambdaFormula_wellFormed {m : FieldMapping} {pathPrefix : String}
    {predicate : Expression} {f : Formula}
    (h : predicate.lambdaFormula m pathPrefix = .ok f) : f.WellFormed :=
  HoldsOfLeaves.isAtom.lambdaFormula h

theorem stepsRequirements_wellFormed {m : FieldMapping} {pathPrefix : String}
    {steps : List (String × List Expression)} {rs : List Requirement}
    (h : stepsRequirements m pathPrefix steps = .ok rs) : ∀ r ∈ rs, r.formula.WellFormed :=
  HoldsOfLeaves.isAtom.stepsRequirements h

/-! ### Splits that leave something -/

namespace Split

variable {s l r : Split}

/-- Whether anything remains or is lifted. -/
def contributes (s : Split) : Bool := !s.lifted.isEmpty || !s.rest.isNop

theorem contributes_joinFilters {op : Connective} {c : Criteria} (hl : l.Shaped) (hr : r.Shaped)
    (hlq : l.rest.isQueryContext = false) (hrq : r.rest.isQueryContext = false)
    (h : op.joinFilters l.rest r.rest = .ok c) : (!c.isNop) = (!l.rest.isNop || !r.rest.isNop) := by
  rcases Connective.joinFilters_cases h with
    ⟨hlnop, rfl⟩ | ⟨hlnop, hrnop, rfl⟩ | ⟨hlnop, hrnop, hcombine⟩
  · simp [hlnop]
  · simp [hlnop, hrnop]
  · have hfilter := isFilter_of_combine (hl.isFilter hlq hlnop) (hr.isFilter hrq hrnop) hcombine
    simp [hlnop, hfilter.isNop]

theorem contributes_join {op : Connective} (hl : l.Shaped) (hr : r.Shaped)
    (h : Split.join op l r = some s) : s.contributes = (l.contributes || r.contributes) := by
  rcases join_cases h with ⟨hscoring, rfl⟩ | ⟨hlq, hrq, c, hc, rfl⟩
  · rcases Bool.or_eq_true_iff.1 hscoring with hq | hq
    · have hnop := Criteria.isNop_of_isQueryContext hq
      simp [contributes, hq, hnop]
    · have hnop := Criteria.isNop_of_isQueryContext hq
      by_cases hlq : l.rest.isQueryContext = true <;> simp [contributes, hq, hlq, hnop]
  · have hrest := contributes_joinFilters hl hr hlq hrq hc
    have hlifted : (l.lifted ++ r.lifted).isEmpty = (l.lifted.isEmpty && r.lifted.isEmpty) := by
      cases l.lifted <;> rfl
    simp only [contributes, hrest, hlifted, Bool.not_and]
    ac_rfl

end Split

/-- A formula contributes exactly where splitting it leaves something. -/
theorem Formula.split_contributes {f : Formula} (hf : f.WellFormed) {s : Split}
    (h : f.split = some s) : s.contributes = f.contributes := by
  induction f generalizing s with
  | atom c =>
    cases h
    rfl
  | not inner ih =>
    obtain ⟨i, hi, hs⟩ := Option.bind_eq_some_iff.1 h
    have hinner : inner.WellFormed := hf
    have hfilter := ((split_shaped hinner hi).negate hs).2
    simp [Split.contributes, contributes, hfilter.isNop]
  | join op left right ihl ihr =>
    obtain ⟨hleft, hright⟩ := wellFormed_join.1 hf
    obtain ⟨l, hl, h⟩ := Option.bind_eq_some_iff.1 h
    obtain ⟨r, hr, hs⟩ := Option.bind_eq_some_iff.1 h
    rw [Split.contributes_join (split_shaped hleft hl) (split_shaped hright hr) hs, ihl hleft hl,
      ihr hright hr, contributes]

/-! ### Requests that ask for something -/

namespace Placement

variable {p q : Placement} {rs : List Requirement}

def isEmpty (p : Placement) : Bool := p.filter.isNone && p.query.isNone

theorem isEmpty_lift (lifted : List (Connective × Criteria)) :
    (p.lift lifted).isEmpty = (p.isEmpty && lifted.isEmpty) := by
  have hlift : ∀ query, (liftAll query lifted).isNone = (query.isNone && lifted.isEmpty) := by
    induction lifted with
    | nil => simp [liftAll]
    | cons l rest ih =>
      intro query
      show (liftAll (some (l.1.lift query l.2)) rest).isNone = _
      rw [ih]
      simp
  rw [isEmpty, lift, hlift, isEmpty, Bool.and_assoc]

theorem isEmpty_put (scores : Bool) (c : Criteria) :
    (p.put scores c).isEmpty = (p.isEmpty && c.isNop) := by
  unfold put
  split_ifs with hnop hscores
  · simp [hnop]
  · simp [isEmpty, score, hnop]
  · simp [isEmpty, restrict, hnop]

theorem isEmpty_add {r : Requirement} (hr : r.formula.WellFormed) (h : p.add r = some q) :
    q.isEmpty = (p.isEmpty && !r.formula.contributes) := by
  obtain ⟨s, hs, rfl⟩ := Option.map_eq_some_iff.1 h
  rw [isEmpty_put, isEmpty_lift, ← Formula.split_contributes hr hs, Split.contributes]
  simp [Bool.and_assoc]

/-- Nothing was placed exactly where no requirement contributes. -/
theorem isEmpty_foldlM (hrs : ∀ r ∈ rs, r.formula.WellFormed)
    (h : rs.foldlM add empty = some p) : p.isEmpty = !rs.any (·.formula.contributes) := by
  refine foldlM_induct (motive := fun placed q => q.isEmpty = !placed.any (·.formula.contributes))
    rfl (fun placed q r q' hr hq hadd => ?_) h
  rw [isEmpty_add (hrs r hr) hadd, hq]
  simp

end Placement

namespace Expression

variable {m : FieldMapping} {pathPrefix : String} {query folded : Expression} {t : QueryPlan}

/-- **Requests with requirements.** Where a requirement contributes, the query and the filter of the
request are the requirements, placed one after the other. Otherwise all documents of the type are
asked for. -/
theorem plan_placement_of_hits (hplan : (query.plan m pathPrefix).result = .ok t)
    (hfold : query.fold = .ok folded) (hhits : folded.aggregateQuery? = none) :
    ∃ type rs p, folded.chain.root = .documents type ∧
      folded.chain.requirements m pathPrefix = .ok rs ∧
      (∀ r ∈ rs, r.formula.WellFormed) ∧
      rs.foldlM Placement.add Placement.empty = some p ∧
      t.request.placement =
        if rs.any (·.formula.contributes) then p else ⟨none, some (m.typeExists type)⟩ := by
  obtain ⟨type, rs, p, hroot, hrs, hplaced, hrequest⟩ := plan_placement hplan hfold hhits
  have hwf := stepsRequirements_wellFormed hrs
  refine ⟨type, rs, p, hroot, hrs, hwf, hplaced, ?_⟩
  have hempty := Placement.isEmpty_foldlM hwf hplaced
  rw [hrequest, Placement.complete, show (p.filter.isNone && p.query.isNone) = _ from hempty]
  cases rs.any (·.formula.contributes) <;> rfl

/-- A query on hits that says nothing about the documents of the type. -/
def AsksForAll (m : FieldMapping) (pathPrefix : String) (query : Expression)
    (type : DocumentType) : Prop :=
  ∃ folded rs, query.fold = .ok folded ∧ folded.aggregateQuery? = none ∧
    folded.chain.root = .documents type ∧ folded.chain.requirements m pathPrefix = .ok rs ∧
    ∀ r ∈ rs, r.formula.contributes = false

theorem AsksForAll.placement {type : DocumentType} (h : query.AsksForAll m pathPrefix type)
    (hplan : (query.plan m pathPrefix).result = .ok t) :
    t.request.placement = ⟨none, some (m.typeExists type)⟩ := by
  obtain ⟨folded, rs, hfold, hhits, hroot, hrs, hnothing⟩ := h
  obtain ⟨type', rs', p, hroot', hrs', -, -, hrequest⟩ :=
    plan_placement_of_hits hplan hfold hhits
  obtain rfl : rs = rs' := Except.ok.inj (hrs.symm.trans hrs')
  obtain rfl : type = type' := ChainRoot.documents.inj (hroot.symm.trans hroot')
  rw [hrequest, if_neg (by simpa using hnothing)]

end Expression

/-! ### A query for films -/

namespace Film

def title : Member := ⟨"Title", .string⟩

def year : Member := ⟨"Year", .integer⟩

def documents : DocumentType := ⟨"Film", [⟨"Id", .integer⟩, title, year]⟩

def mapping : FieldMapping := MappingOptions.standard.mapping none

def titleContains (word : String) : Expression :=
  ((Expression.parameter "f").member title).contains (.constant (.str word))

def madeIn1970 : Expression :=
  ((Expression.parameter "f").member year).equal (.constant (.int 1970))

/-- Films on crime with a word in the title that were made after 1970. -/
def query : Expression :=
  ((Expression.source documents).filterBy (.lambda "f" ((titleContains "Family").andAlso
    (((Expression.parameter "f").member year).greaterThan (.constant (.int 1970)))))).matchText
      "crime"

def requirements : List Requirement :=
  [⟨true, .atom (.text "crime")⟩,
    ⟨false, .join .and (.atom (.wildcard "title" title "*family*"))
      (.atom (.range "year" year [⟨.greaterThan, .int 1970⟩]))⟩]

/-- The word counts for the score like the text; the year only filters. -/
def placement : Placement :=
  ⟨some (.bool [.text "crime", .wildcard "title" title "*family*"] [] []),
    some (.range "year" year [⟨.greaterThan, .int 1970⟩])⟩

theorem plan_query :
    ∃ t, (query.plan mapping "").result = .ok t ∧ t.request.placement = placement := by
  have h : (query.plan mapping "").result.toOption.map (·.request.placement) = some placement := by
    decide
  obtain ⟨t, ht, hplacement⟩ := Option.map_eq_some_iff.1 h
  exact ⟨t, toOption_eq_some.1 ht, hplacement⟩

end Film

end SearchQuery
