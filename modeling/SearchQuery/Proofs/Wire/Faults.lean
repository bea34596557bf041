import SearchQuery.Proofs.Criteria.Shape
import SearchQuery.Proofs.Success
import SearchQuery.Wire.Format

/-!
# Criteria that cannot be written

The form of a criteria in a body and the one in query syntax are written by separate recursions. Both
go node by node: a node that is at fault stops them, and else the first part that cannot be written.

* `fault?`: what is wrong with a node itself, `parts`: what is written below it, `reached`: all nodes
  in the order in which they are written. Nothing below a place holder is reached.
* `WritesByNode`: the law of such a recursion. It fails with the first fault (`WritesByNode.failure?_eq`),
  so any two fail alike.
* `forms_agree`: the two forms of a criteria are there together, and so are the two forms of a request
  without facets; where they are not, the errors are the same.
-/

namespace SearchQuery

namespace Criteria

/-- What is wrong with a node, whatever stands below it. -/
def fault? : Criteria → Option Error
  | .and [] => some (.invalid (.emptyCompound "and"))
  | .or [] => some (.invalid (.emptyCompound "or"))
  | .bool [] [] [] => some (.invalid .emptyBool)
  | .nop children => some (.placeholder (.nop children))
  | _ => none

/-- The parts of a node in the order in which they are written. -/
def parts : Criteria → List Criteria
  | .not inner => [inner]
  | .and children | .or children => children
  | .bool must mustNot should => must ++ (should ++ mustNot)
  | _ => []

mutual

/-- The criteria and all nodes below it that are not below a place holder, in the order in which they
are written. -/
@[simp] def reached : Criteria → List Criteria
  | .not inner => .not inner :: reached inner
  | .and children => .and children :: reachedInAll children
  | .or children => .or children :: reachedInAll children
  | .bool must mustNot should =>
    .bool must mustNot should ::
      (reachedInAll must ++ (reachedInAll should ++ reachedInAll mustNot))
  | c => [c]

@[simp] def reachedInAll : List Criteria → List Criteria
  | [] => []
  | c :: rest => reached c ++ reachedInAll rest

end

/-- Neither a place holder nor a compound without parts. -/
def IsSound (c : Criteria) : Prop :=
  c.isNop = false ∧ c ≠ .and [] ∧ c ≠ .or [] ∧ c ≠ .bool [] [] []

theorem fault?_eq_none_iff {c : Criteria} : c.fault? = none ↔ c.IsSound := by
  unfold fault?
  split <;> simp_all [IsSound, isNop]

/-! ### Writing node by node -/

section WritesByNode

variable {α : Type} {write : Criteria → Except Error α}

/-- A node is written unless it is at fault or one of its parts cannot be written. -/
def WritesByNode (write : Criteria → Except Error α) : Prop :=
  ∀ c : Criteria,
    failure? (write c) = c.fault?.or (c.parts.findSome? fun d => failure? (write d))

namespace WritesByNode

mutual

/-- What is written node by node fails with the first fault that is reached. -/
theorem failure?_eq (h : WritesByNode write) :
    (c : Criteria) → failure? (write c) = c.reached.findSome? fault?
  | .not inner => by
    rw [h, reached, parts, List.findSome?_cons, List.findSome?_cons, failure?_eq h inner]
    cases inner.reached.findSome? fault? <;> rfl
  | .and children => by
    rw [h, reached, parts, List.findSome?_cons, findSome?_failure? h children]
    cases fault? (.and children) <;> rfl
  | .or children => by
    rw [h, reached, parts, List.findSome?_cons, findSome?_failure? h children]
    cases fault? (.or children) <;> rfl
  | .bool must mustNot should => by
    rw [h, reached, parts, List.findSome?_cons, List.findSome?_append, List.findSome?_append,
      List.findSome?_append, List.findSome?_append, findSome?_failure? h must,
      findSome?_failure? h should, findSome?_failure? h mustNot]
    cases fault? (.bool must mustNot should) <;> rfl
  | .nop children => by
    rw [h]
    rfl
  | .term .. | .terms .. | .range .. | .startsWith .. | .regexp .. | .wildcard .. | .queryString ..
  | .present _ | .missing _ | .matchAll => by
    rw [h]
    rfl

theorem findSome?_failure? (h : WritesByNode write) :
    (cs : List Criteria) →
      cs.findSome? (fun d => failure? (write d)) = (reachedInAll cs).findSome? fault?
  | [] => rfl
  | c :: rest => by
    rw [reachedInAll, List.findSome?_cons, List.findSome?_append, failure?_eq h c,
      findSome?_failure? h rest]
    cases c.reached.findSome? fault? <;> rfl

end

/-- It succeeds where no node that is reached is at fault. -/
theorem exists_ok_iff (h : WritesByNode write) {c : Criteria} :
    (∃ a, write c = .ok a) ↔ ∀ d ∈ c.reached, d.IsSound := by
  rw [← failure?_eq_none, h.failure?_eq, List.findSome?_eq_none_iff]
  simp only [fault?_eq_none_iff]

end WritesByNode

/-- Two forms that are written node by node are missing for the same reason. -/
theorem WritesByNode.error_iff {β : Type} {write' : Criteria → Except Error β}
    (h : WritesByNode write) (h' : WritesByNode write') {c : Criteria} {e : Error} :
    write c = .error e ↔ write' c = .error e := by
  rw [← failure?_eq_some, ← failure?_eq_some, h.failure?_eq, h'.failure?_eq]

end WritesByNode

/-! ### Compounds -/

section Compounds

variable {α β : Type} {write : Criteria → Except Error α}

/-- How a compound is written: as nothing without parts, and as the part where there is one. -/
def joined (write : Criteria → Except Error α) (empty : Error) (join : List α → α) :
    List Criteria → Except Error α
  | [] => .error empty
  | [c] => write c
  | children => do
    let written ← children.mapM write
    return join written

theorem joined_many (empty : Error) (join : List α → α) (c d : Criteria) (rest : List Criteria) :
    joined write empty join (c :: d :: rest) =
      (c :: d :: rest).mapM write >>= fun written => pure (join written) := rfl

theorem failure?_joined (empty : Error) (join : List α → α) (children : List Criteria) :
    failure? (joined write empty join children) =
      (if children = [] then some empty else none).or
        (children.findSome? fun d => failure? (write d)) := by
  match children with
  | [] => rfl
  | [c] =>
    rw [joined, List.findSome?_singleton]
    rfl
  | c :: d :: rest =>
    rw [joined_many, failure?_bind_pure, failure?_mapM]
    rfl

/-- What is made of the three written lists of a bool node, which is nothing only if all are empty. -/
def AssemblesBool {α β : Type} (assemble : List α → List α → List α → Except Error β) : Prop :=
  ∀ musts shoulds mustNots, failure? (assemble musts shoulds mustNots) =
    if musts = [] ∧ shoulds = [] ∧ mustNots = [] then some (.invalid .emptyBool) else none

theorem failure?_bool {α β : Type} {write : Criteria → Except Error α}
    {assemble : List α → List α → List α → Except Error β} (h : AssemblesBool assemble)
    (must mustNot should : List Criteria) :
    failure? (do
        let musts ← must.mapM write
        let shoulds ← should.mapM write
        let mustNots ← mustNot.mapM write
        assemble musts shoulds mustNots) =
      (fault? (.bool must mustNot should)).or
        ((must ++ (should ++ mustNot)).findSome? fun d => failure? (write d)) := by
  by_cases hnil : must = [] ∧ mustNot = [] ∧ should = []
  · obtain ⟨rfl, rfl, rfl⟩ := hnil
    exact h [] [] []
  · have hfault : fault? (.bool must mustNot should) = none := by
      rw [fault?_eq_none_iff]
      simpa [IsSound, isNop] using hnil
    have hassemble : ∀ musts, must.mapM write = .ok musts → ∀ shoulds,
        should.mapM write = .ok shoulds → ∀ mustNots, mustNot.mapM write = .ok mustNots →
          failure? (assemble musts shoulds mustNots) = none := by
      intro musts hmusts shoulds hshoulds mustNots hmustNots
      have hempty : ∀ {cs : List Criteria} {as : List α}, cs.mapM write = .ok as → as = [] →
          cs = [] := by
        intro cs as has hnil
        have hlength := length_of_mapM_eq_ok has
        rw [hnil] at hlength
        exact List.eq_nil_of_length_eq_zero hlength.symm
      rw [h, if_neg]
      rintro ⟨hmust, hshould, hmustNot⟩
      exact hnil ⟨hempty hmusts hmust, hempty hmustNots hmustNot, hempty hshoulds hshould⟩
    rw [hfault, Option.none_or, List.findSome?_append, List.findSome?_append, ← failure?_mapM,
      ← failure?_mapM, ← failure?_mapM]
    refine failure?_bind fun musts hmusts => ?_
    refine failure?_bind fun shoulds hshoulds => ?_
    rw [failure?_bind fun mustNots hmustNots =>
      hassemble musts hmusts shoulds hshoulds mustNots hmustNots, Option.or_none]

end Compounds

/-! ### The two forms -/

section Forms

variable {m : FieldMapping}

theorem listToBody_eq (cs : List Criteria) : listToBody m cs = cs.mapM (toBody m) := by
  induction cs with
  | nil => rfl
  | cons c rest ih =>
    rw [List.mapM_cons, ← ih]
    rfl

theorem listToLucene_eq (cs : List Criteria) : listToLucene m cs = cs.mapM (toLucene m) := by
  induction cs with
  | nil => rfl
  | cons c rest ih =>
    rw [List.mapM_cons, ← ih]
    rfl

theorem toBody_and (children : List Criteria) :
    toBody m (.and children) =
      joined (toBody m) (.invalid (.emptyCompound "and"))
        (fun bodies => single "and" (.arr bodies)) children := by
  rcases children with _ | ⟨c, _ | ⟨d, rest⟩⟩
  · rfl
  · rfl
  · rw [joined_many, ← listToBody_eq]
    rfl

theorem toBody_or (children : List Criteria) :
    toBody m (.or children) =
      joined (toBody m) (.invalid (.emptyCompound "or"))
        (fun bodies => single "or" (.arr bodies)) children := by
  rcases children with _ | ⟨c, _ | ⟨d, rest⟩⟩
  · rfl
  · rfl
  · rw [joined_many, ← listToBody_eq]
    rfl

theorem toLucene_and (children : List Criteria) :
    toLucene m (.and children) =
      joined (toLucene m) (.invalid (.emptyCompound "and"))
        (fun texts => Lucene.parenthesized (Text.join " AND " texts)) children := by
  rcases children with _ | ⟨c, _ | ⟨d, rest⟩⟩
  · rfl
  · rfl
  · rw [joined_many, ← listToLucene_eq]
    rfl

theorem toLucene_or (children : List Criteria) :
    toLucene m (.or children) =
      joined (toLucene m) (.invalid (.emptyCompound "or"))
        (fun texts => Lucene.parenthesized (Text.join " OR " texts)) children := by
  rcases children with _ | ⟨c, _ | ⟨d, rest⟩⟩
  · rfl
  · rfl
  · rw [joined_many, ← listToLucene_eq]
    rfl

theorem fault?_and (children : List Criteria) :
    fault? (.and children) =
      if children = [] then some (.invalid (.emptyCompound "and")) else none := by
  cases children <;> rfl

theorem fault?_or (children : List Criteria) :
    fault? (.or children) =
      if children = [] then some (.invalid (.emptyCompound "or")) else none := by
  cases children <;> rfl

theorem toBody_writesByNode : WritesByNode (toBody m) := by
  intro c
  cases c with
  | not inner =>
    rw [toBody, failure?_bind_pure, parts, List.findSome?_singleton]
    rfl
  | and children => rw [toBody_and, failure?_joined, fault?_and, parts]
  | or children => rw [toBody_or, failure?_joined, fault?_or, parts]
  | bool must mustNot should =>
    rw [toBody, listToBody_eq, listToBody_eq, listToBody_eq]
    refine failure?_bool (fun musts shoulds mustNots => ?_) must mustNot should
    cases musts <;> cases shoulds <;> cases mustNots <;> rfl
  | _ => rfl

theorem toLucene_writesByNode : WritesByNode (toLucene m) := by
  intro c
  cases c with
  | not inner =>
    rw [toLucene, failure?_bind_pure, parts, List.findSome?_singleton]
    rfl
  | and children => rw [toLucene_and, failure?_joined, fault?_and, parts]
  | or children => rw [toLucene_or, failure?_joined, fault?_or, parts]
  | bool must mustNot should =>
    rw [toLucene, listToLucene_eq, listToLucene_eq, listToLucene_eq]
    refine failure?_bool (fun musts shoulds mustNots => ?_) must mustNot should
    cases musts <;> cases shoulds <;> cases mustNots <;> rfl
  | _ => rfl

end Forms

end Criteria

/-! ### Requests without facets -/

namespace SearchRequest

variable {m : FieldMapping} {request : SearchRequest}

/-- The criteria that the hits of a request satisfy, in the order in which they are written. -/
def searched (request : SearchRequest) : List Criteria :=
  request.query.toList ++ request.filter.toList

theorem failure?_postBody (hfacets : request.facets = []) (config : ConnectionConfig) :
    failure? (request.postBody config m) =
      request.searched.findSome? fun c => failure? (c.toBody m) := by
  have hcriteria : ∀ c : Option Criteria, failure? (criteriaBody m c) =
      c.toList.findSome? fun d => failure? (d.toBody m) := by
    intro c
    cases c with
    | none => rfl
    | some d =>
      rw [criteriaBody, failure?_map, Option.toList_some, List.findSome?_singleton]
  have hhits : request.hitFilter = request.filter := by
    rw [hitFilter, hfacets]
    rfl
  rw [postBody, failure?_map, toBody, searched, List.findSome?_append, ← hcriteria, ← hcriteria,
    hhits, hfacets]
  refine failure?_bind fun query _ => ?_
  rw [failure?_bind fun filter _ => ?_, Option.or_none]
  rfl

theorem failure?_getUri (config : ConnectionConfig) :
    failure? (request.getUri config m) =
      request.searched.findSome? fun c => failure? (c.toLucene m) := by
  rw [getUri, failure?_map, parameters, failure?_bind_pure, queryText, searched]
  cases request.query with
  | none =>
    cases request.filter with
    | none => rfl
    | some filter =>
      rw [failure?_map, Option.toList_none, Option.toList_some, List.nil_append,
        List.findSome?_singleton]
  | some query =>
    cases request.filter with
    | none =>
      rw [failure?_map, Option.toList_none, Option.toList_some, List.append_nil,
        List.findSome?_singleton]
    | some filter =>
      rw [failure?_bind fun _ _ => failure?_bind_pure _ _, Option.toList_some, Option.toList_some,
        List.findSome?_append, List.findSome?_singleton, List.findSome?_singleton]

/-- **The two forms agree.** A criteria has a form in a body exactly if it has one in query syntax,
and that is if no place holder, no conjunction or disjunction of nothing and no bool node without
clauses is reached in it; otherwise both fail with one error. So do the body and the address of a
request without facets. -/
theorem forms_agree (m : FieldMapping) :
    (∀ c : Criteria,
      (∀ e, c.toBody m = .error e ↔ c.toLucene m = .error e) ∧
        ((∃ body, c.toBody m = .ok body) ↔ ∀ d ∈ c.reached, d.IsSound) ∧
        ((∃ text, c.toLucene m = .ok text) ↔ ∀ d ∈ c.reached, d.IsSound)) ∧
      ∀ (config : ConnectionConfig) (request : SearchRequest), request.facets = [] →
        ∀ e, request.postBody config m = .error e ↔ request.getUri config m = .error e := by
  have hbody : Criteria.WritesByNode (Criteria.toBody m) := Criteria.toBody_writesByNode
  have hlucene : Criteria.WritesByNode (Criteria.toLucene m) := Criteria.toLucene_writesByNode
  refine ⟨fun c => ⟨fun e => hbody.error_iff hlucene, hbody.exists_ok_iff, hlucene.exists_ok_iff⟩,
    fun config request hfacets e => ?_⟩
  have hsame : ∀ c, failure? (Criteria.toBody m c) = failure? (Criteria.toLucene m c) := by
    intro c
    rw [hbody.failure?_eq, hlucene.failure?_eq]
  rw [← failure?_eq_some, ← failure?_eq_some, failure?_postBody hfacets, failure?_getUri]
  simp only [hsame]

/-- Its query has a disjunction of nothing among the clauses, its filter is a place holder. -/
def unsound : SearchRequest :=
  { empty with
    query := some (.bool [.present "title"] [.and []] [.not (.or [])])
    filter := some (.nop [.matchAll]) }

theorem forms_agree_unsound :
    unsound.facets = [] ∧
      unsound.getUri .standard (MappingOptions.standard.mapping none) =
        .error (.invalid (.emptyCompound "or")) := by
  have hfacets : unsound.facets = [] := rfl
  have hbody : unsound.postBody .standard (MappingOptions.standard.mapping none) =
      .error (.invalid (.emptyCompound "or")) := rfl
  exact ⟨hfacets, ((forms_agree _).2 _ _ hfacets _).1 hbody⟩

end SearchRequest

end SearchQuery
