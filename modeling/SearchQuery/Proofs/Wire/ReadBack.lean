import SearchQuery.Proofs.Criteria.Bounds
import SearchQuery.Proofs.Criteria.Nodes
import SearchQuery.Proofs.Plan.Contribution
import SearchQuery.Proofs.Wire.Faults

/-!
# Reading criteria back

The form of a criteria in a body says everything about it but which members its values come from, and
where it has conjunctions and disjunctions of one part.

* `CriteriaForm`: a criteria on the wire, `Criteria.form`: what a criteria becomes there.
* `CriteriaForm.ofBody?`: the reader of bodies. It goes by the one name of an object, and knows
  neither the mapping nor the members.
* `HasDistinctMembers`: no name is given to two members of one object, of which only the later would
  be written.
* `toBody_readsBack`: what is written of a criteria is read as its form, so only criteria of one form
  are written alike.
-/

namespace SearchQuery

/-- A criteria as it is on the wire, its values formatted. -/
inductive CriteriaForm where
  | term (field : String) (value : Json)
  | terms (field : String) (values : List Json) (execution : Option TermsExecution)
  | range (field : String) (bounds : List RangeBound)
  | startsWith (field : String) (text : String)
  | regexp (field : String) (pattern : String)
  | wildcard (field : String) (pattern : Json)
  | queryString (query : String) (fields : List String)
  | present (field : String)
  | missing (field : String)
  | matchAll
  | not (inner : CriteriaForm)
  | and (children : List CriteriaForm)
  | or (children : List CriteriaForm)
  | bool (must mustNot should : List CriteriaForm)
  | nop (children : List CriteriaForm)

/-- A compound that is its part where it has only one. -/
def CriteriaForm.compound (mk : List CriteriaForm → CriteriaForm) : List CriteriaForm → CriteriaForm
  | [form] => form
  | forms => mk forms

/-- The bound with its value as it is written for the member. -/
def RangeBound.formatted (m : FieldMapping) (member : Member) (b : RangeBound) : RangeBound :=
  ⟨b.comparison, m.formatValue member b.value⟩

namespace Criteria

mutual

/-- What a criteria becomes on the wire: values are formatted, members are gone, and conjunctions and
disjunctions of one part are that part. -/
def form (m : FieldMapping) : Criteria → CriteriaForm
  | .term field member v => .term field (m.formatValue member v)
  | .terms field member vs mode => .terms field (vs.map (m.formatValue member)) mode
  | .range field member bounds => .range field (bounds.map (RangeBound.formatted m member))
  | .startsWith field text => .startsWith field text
  | .regexp field pattern => .regexp field pattern
  | .wildcard field member pattern => .wildcard field (m.formatValue member (.str pattern))
  | .queryString query fields => .queryString query fields
  | .present field => .present field
  | .missing field => .missing field
  | .matchAll => .matchAll
  | .not inner => .not (form m inner)
  | .and children => .compound .and (formList m children)
  | .or children => .compound .or (formList m children)
  | .bool must mustNot should => .bool (formList m must) (formList m mustNot) (formList m should)
  | .nop children => .nop (formList m children)

def formList (m : FieldMapping) : List Criteria → List CriteriaForm
  | [] => []
  | c :: rest => form m c :: formList m rest

end

/-- No two members of what is written for the node itself have one name. -/
def HasDistinctMembers : Criteria → Prop
  | .terms field _ _ (some _) => field ≠ "execution"
  | .range _ _ bounds => (bounds.map (·.comparison)).Nodup
  | _ => True

end Criteria

/-! ### The reader -/

namespace CriteriaForm

def boundOfMember? (entry : String × Json) : Option RangeBound :=
  (RangeComparison.ofName? entry.1).map fun comparison => ⟨comparison, entry.2⟩

/-- The leaf of a kind, from what stands under its name. -/
def leafOfBody? : String → Json → Option CriteriaForm
  | "term", .obj [(field, v)] => some (.term field v)
  | "terms", .obj [(field, .arr vs)] => some (.terms field vs none)
  | "terms", .obj [(field, .arr vs), ("execution", .str mode)] =>
    (TermsExecution.ofName? mode).map fun mode => .terms field vs (some mode)
  | "range", .obj [(field, .obj bounds)] => (bounds.mapM boundOfMember?).map (.range field)
  | "prefix", .obj [(field, .str text)] => some (.startsWith field text)
  | "regexp", .obj [(field, .str pattern)] => some (.regexp field pattern)
  | "wildcard", .obj [(field, pattern)] => some (.wildcard field pattern)
  | "query_string", .obj [("query", .str query)] => some (.queryString query [])
  | "query_string", .obj [("query", .str query), ("fields", .arr fields)] =>
    (fields.mapM Json.text?).map (.queryString query)
  | "exists", .obj [("field", .str field)] => some (.present field)
  | "missing", .obj [("field", .str field)] => some (.missing field)
  | "match_all", .obj [] => some .matchAll
  | _, _ => none

/-- The bool node with these lists of clauses by their names. -/
def ofClauses (clauses : List (String × List CriteriaForm)) : CriteriaForm :=
  .bool ((clauses.lookup "must").getD []) ((clauses.lookup "must_not").getD [])
    ((clauses.lookup "should").getD [])

mutual

/-- The criteria that a body stands for. -/
def ofBody? : Json → Option CriteriaForm
  | .obj [("not", inner)] => (ofBody? inner).map .not
  | .obj [("and", .arr bodies)] => (listOfBodies? bodies).map .and
  | .obj [("or", .arr bodies)] => (listOfBodies? bodies).map .or
  | .obj [("bool", .obj clauses)] => (clausesOf? clauses).map ofClauses
  | .obj [(kind, v)] => leafOfBody? kind v
  | _ => none

def listOfBodies? : List Json → Option (List CriteriaForm)
  | [] => some []
  | body :: rest => do
    let form ← ofBody? body
    let forms ← listOfBodies? rest
    return form :: forms

def clausesOf? : List (String × Json) → Option (List (String × List CriteriaForm))
  | [] => some []
  | (name, .arr bodies) :: rest => do
    let forms ← listOfBodies? bodies
    let clauses ← clausesOf? rest
    return (name, forms) :: clauses
  | _ => none

end

end CriteriaForm

/-! ### Leaves -/

theorem RangeComparison.ofName?_name (comparison : RangeComparison) :
    ofName? comparison.name = some comparison := by
  cases comparison <;> decide

theorem TermsExecution.ofName?_name (mode : TermsExecution) : ofName? mode.name = some mode := by
  cases mode <;> decide

namespace CriteriaForm

variable {m : FieldMapping} {member : Member} {field : String}

/-- The bounds of a range are read if no two have the same comparison. -/
theorem leafOfBody?_range {bounds : List RangeBound}
    (h : (bounds.map (·.comparison)).Nodup) :
    leafOfBody? "range" (Criteria.single field (.obj (Criteria.boundMembers m member bounds))) =
      some (.range field (bounds.map (RangeBound.formatted m member))) := by
  have hbound : ∀ b : RangeBound,
      boundOfMember? (b.comparison.name, m.formatValue member b.value) =
        some (b.formatted m member) := by
    intro b
    rw [boundOfMember?, RangeComparison.ofName?_name]
    rfl
  have hbounds : (Criteria.boundMembers m member bounds).mapM boundOfMember? =
      some (bounds.map (RangeBound.formatted m member)) := by
    rw [Criteria.boundMembers_of_nodup h member, List.mapM_map]
    exact (congrArg (fun f => bounds.mapM f) (funext hbound)).trans List.mapM_pure
  simp only [Criteria.single, leafOfBody?, hbounds, Option.map_some]

theorem leafOfBody?_terms {values : List Json} {mode : Option TermsExecution}
    (h : (Criteria.terms field member values mode).HasDistinctMembers) :
    leafOfBody? "terms" (.obj (Criteria.termsMembers m field member values mode)) =
      some (.terms field (values.map (m.formatValue member)) mode) := by
  cases mode with
  | none => rfl
  | some mode =>
    have hfield : field ≠ "execution" := h
    rw [Criteria.termsMembers, Json.insertMember_of_notMem (by simpa using hfield.symm)]
    simp only [List.singleton_append, leafOfBody?, TermsExecution.ofName?_name, Option.map_some]

theorem leafOfBody?_queryString (query : String) (fields : List String) :
    leafOfBody? "query_string" (.obj (Criteria.queryStringMembers query fields)) =
      some (.queryString query fields) := by
  cases fields with
  | nil => rfl
  | cons name rest =>
    have hfields : ((name :: rest).map Json.str).mapM Json.text? = some (name :: rest) := by
      rw [List.mapM_map]
      exact List.mapM_pure.trans (congrArg some (List.map_id _))
    simp only [Criteria.queryStringMembers, List.isEmpty_cons, Bool.false_eq_true, if_false,
      leafOfBody?, hfields, Option.map_some]

end CriteriaForm

/-! ### Compounds -/

namespace Criteria

variable {m : FieldMapping}

theorem length_formList (cs : List Criteria) : (formList m cs).length = cs.length := by
  induction cs with
  | nil => rfl
  | cons c rest ih => rw [formList, List.length_cons, List.length_cons, ih]

/-- A compound that is written has one part, as which it is written, or it has more. -/
theorem joined_eq_ok {α : Type} {write : Criteria → Except Error α} {empty : Error}
    {join : List α → α} {children : List Criteria} {a : α}
    (h : joined write empty join children = .ok a) :
    ∃ as, children.mapM write = .ok as ∧ (as = [a] ∨ 1 < as.length ∧ a = join as) := by
  match children with
  | [] => cases h
  | [c] =>
    rw [joined] at h
    refine ⟨[a], ?_, .inl rfl⟩
    rw [List.mapM_cons, h]
    rfl
  | c :: d :: rest =>
    obtain ⟨as, has, h⟩ := bind_eq_ok.1 h
    refine ⟨as, has, .inr ⟨?_, (pure_eq_ok.1 h).symm⟩⟩
    rw [length_of_mapM_eq_ok has]
    simp

end Criteria

namespace CriteriaForm

theorem compound_of_one_lt {mk : List CriteriaForm → CriteriaForm} {forms : List CriteriaForm}
    (h : 1 < forms.length) : compound mk forms = mk forms := by
  match forms with
  | [form] => simp at h
  | _ :: _ :: _ => rfl

/-- The clauses under one name, if there are any. -/
def clauseForms (name : String) (forms : List CriteriaForm) : List (String × List CriteriaForm) :=
  if forms.isEmpty then [] else [(name, forms)]

theorem clausesOf?_clauseMember {bodies : List Json} {forms : List CriteriaForm}
    (hforms : listOfBodies? bodies = some forms) {rest : List (String × Json)}
    {clauses : List (String × List CriteriaForm)} (hrest : clausesOf? rest = some clauses)
    (name : String) :
    clausesOf? (Criteria.clauseMember name bodies ++ rest) =
      some (clauseForms name forms ++ clauses) := by
  cases bodies with
  | nil =>
    obtain rfl : [] = forms := Option.some.inj hforms
    exact hrest
  | cons body bodies =>
    have hne : forms.isEmpty = false := by
      rw [listOfBodies?] at hforms
      obtain ⟨form, -, hforms⟩ := Option.bind_eq_some_iff.1 hforms
      obtain ⟨tail, -, hforms⟩ := Option.bind_eq_some_iff.1 hforms
      obtain rfl : form :: tail = forms := Option.some.inj hforms
      rfl
    rw [Criteria.clauseMember, List.isEmpty_cons, if_neg Bool.false_ne_true, List.singleton_append,
      clausesOf?, hforms, hrest, clauseForms, hne]
    rfl

theorem ofClauses_clauseForms (must mustNot should : List CriteriaForm) :
    ofClauses (clauseForms "must" must ++
      (clauseForms "should" should ++ clauseForms "must_not" mustNot)) =
        .bool must mustNot should := by
  cases must <;> cases should <;> cases mustNot <;> rfl

end CriteriaForm

/-! ### Trees -/

namespace Criteria

open CriteriaForm

variable {m : FieldMapping} {body : Json}

/-- Whatever is written of the list is read as its forms. -/
def ListReadsBack (m : FieldMapping) (cs : List Criteria) : Prop :=
  ∀ bodies, cs.mapM (toBody m) = .ok bodies → listOfBodies? bodies = some (formList m cs)

/-- A compound is read as its parts are read. -/
theorem ofBody?_joined {kind : String} {mk : List CriteriaForm → CriteriaForm}
    (hread : ∀ bodies, ofBody? (single kind (.arr bodies)) = (listOfBodies? bodies).map mk)
    {children : List Criteria} (hchildren : ListReadsBack m children) {empty : Error}
    (h : joined (toBody m) empty (fun bodies => single kind (.arr bodies)) children = .ok body) :
    ofBody? body = some (.compound mk (formList m children)) := by
  obtain ⟨bodies, hbodies, hone | ⟨hmany, rfl⟩⟩ := joined_eq_ok h
  -- There is no name for the compound in the body, so the reader meets its only part.
  · have hforms := hchildren bodies hbodies
    rw [hone, listOfBodies?, listOfBodies?] at hforms
    obtain ⟨form, hform, hforms⟩ := Option.bind_eq_some_iff.1 hforms
    rw [hform, ← Option.some.inj hforms]
    rfl
  · have hlength : 1 < (formList m children).length := by
      rw [length_formList, ← length_of_mapM_eq_ok hbodies]
      exact hmany
    rw [hread, hchildren bodies hbodies, compound_of_one_lt hlength]
    rfl

/-- A bool node is read as its clauses are read. -/
theorem ofBody?_bool {must mustNot should : List Criteria} (hmust : ListReadsBack m must)
    (hmustNot : ListReadsBack m mustNot) (hshould : ListReadsBack m should)
    (h : toBody m (.bool must mustNot should) = .ok body) :
    ofBody? body = some (form m (.bool must mustNot should)) := by
  rw [toBody, listToBody_eq, listToBody_eq, listToBody_eq] at h
  obtain ⟨musts, hmusts, h⟩ := bind_eq_ok.1 h
  obtain ⟨shoulds, hshoulds, h⟩ := bind_eq_ok.1 h
  obtain ⟨mustNots, hmustNots, h⟩ := bind_eq_ok.1 h
  have hbody : body = single "bool" (.obj (clauseMember "must" musts ++
      (clauseMember "should" shoulds ++ clauseMember "must_not" mustNots))) := by
    rw [List.append_assoc] at h
    split at h
    · cases h
    · exact (pure_eq_ok.1 h).symm
  have hlast : clausesOf? (clauseMember "must_not" mustNots) =
      some (clauseForms "must_not" (formList m mustNot)) := by
    have hnone : clausesOf? [] = some [] := rfl
    simpa using clausesOf?_clauseMember (hmustNot _ hmustNots) hnone "must_not"
  have hclauses := clausesOf?_clauseMember (hmust _ hmusts)
    (clausesOf?_clauseMember (hshould _ hshoulds) hlast "should") "must"
  rw [hbody, single, ofBody?, hclauses, Option.map_some, ofClauses_clauseForms, form]

mutual

/-- What is written of a criteria is read as its form. -/
theorem ofBody?_toBody :
    (c : Criteria) → (∀ d ∈ c.nodes, d.HasDistinctMembers) → ∀ body, toBody m c = .ok body →
      ofBody? body = some (form m c)
  | .not inner, hdistinct, body, h => by
    obtain ⟨inside, hinside, h⟩ := bind_eq_ok.1 h
    have hinner := ofBody?_toBody inner
      (fun d hd => hdistinct d (List.mem_cons_of_mem _ hd)) inside hinside
    rw [← pure_eq_ok.1 h, single, ofBody?, hinner]
    rfl
  | .and children, hdistinct, body, h => by
    rw [toBody_and] at h
    exact ofBody?_joined (fun _ => rfl)
      (listReadsBack children fun d hd => hdistinct d (List.mem_cons_of_mem _ hd)) h
  | .or children, hdistinct, body, h => by
    rw [toBody_or] at h
    exact ofBody?_joined (fun _ => rfl)
      (listReadsBack children fun d hd => hdistinct d (List.mem_cons_of_mem _ hd)) h
  | .bool must mustNot should, hdistinct, body, h => by
    simp only [nodes, List.forall_mem_cons, List.forall_mem_append] at hdistinct
    obtain ⟨-, ⟨hmust, hmustNot⟩, hshould⟩ := hdistinct
    exact ofBody?_bool (listReadsBack must hmust) (listReadsBack mustNot hmustNot)
      (listReadsBack should hshould) h
  | .terms field member values mode, hdistinct, body, h => by
    obtain rfl := Except.ok.inj h
    exact leafOfBody?_terms (hdistinct _ (List.mem_singleton_self _))
  | .range field member bounds, hdistinct, body, h => by
    obtain rfl := Except.ok.inj h
    exact leafOfBody?_range (hdistinct _ (List.mem_singleton_self _))
  | .queryString query fields, _, body, h => by
    obtain rfl := Except.ok.inj h
    exact leafOfBody?_queryString query fields
  | .term .., _, body, h | .startsWith .., _, body, h | .regexp .., _, body, h
  | .wildcard .., _, body, h | .present _, _, body, h | .missing _, _, body, h
  | .matchAll, _, body, h => by
    obtain rfl := Except.ok.inj h
    rfl
  | .nop _, _, body, h => by
    cases h

theorem listReadsBack :
    (cs : List Criteria) → (∀ d ∈ nodesOfAll cs, d.HasDistinctMembers) → ListReadsBack m cs
  | [], _ => by
    intro bodies h
    cases h
    rfl
  | c :: rest, hdistinct => by
    intro bodies h
    simp only [nodesOfAll, List.forall_mem_append] at hdistinct
    obtain ⟨body, tail, hbody, htail, rfl⟩ := mapM_cons_eq_ok.1 h
    rw [listOfBodies?, ofBody?_toBody c hdistinct.1 body hbody,
      listReadsBack rest hdistinct.2 tail htail]
    rfl

end

/-- **Reading back.** What is written of a criteria is read as its form, so that only criteria of one
form are written alike, under whatever mappings. -/
theorem toBody_readsBack {c : Criteria} (hdistinct : ∀ d ∈ c.nodes, d.HasDistinctMembers)
    (hbody : c.toBody m = .ok body) :
    ofBody? body = some (c.form m) ∧
      ∀ (m' : FieldMapping) (c' : Criteria), (∀ d ∈ c'.nodes, d.HasDistinctMembers) →
        c'.toBody m' = .ok body → c'.form m' = c.form m := by
  have hread : ofBody? body = some (c.form m) := ofBody?_toBody c hdistinct body hbody
  refine ⟨hread, fun m' c' hdistinct' hbody' => ?_⟩
  have hread' : ofBody? body = some (c'.form m') := ofBody?_toBody c' hdistinct' body hbody'
  exact Option.some.inj (hread'.symm.trans hread)

end Criteria

namespace Film

/-- Films of the seventies and eighties that should be about war, or not be one of two. -/
def seventiesOrEighties : Criteria :=
  .bool [.and [.or [.range "year" year [⟨.greaterThanOrEqual, .int 1970⟩, ⟨.lessThan, .int 1990⟩]]]]
    [.and [.missing "title"]]
    [.wildcard "title" title "*war*",
      .not (.or [.and [.terms "title" title [.str "Solaris", .str "Stalker"] (some .plain)],
        .startsWith "title" "The"])]

/-- The same without compounds of one part, the year taken from a member of another name. -/
def seventiesOrEightiesFlat : Criteria :=
  .bool [.range "year" ⟨"Released", .integer⟩
      [⟨.greaterThanOrEqual, .int 1970⟩, ⟨.lessThan, .int 1990⟩]]
    [.missing "title"]
    [.wildcard "title" title "*war*",
      .not (.or [.terms "title" title [.str "Solaris", .str "Stalker"] (some .plain),
        .startsWith "title" "The"])]

end Film

namespace Criteria

theorem toBody_readsBack_film :
    ∃ body, Film.seventiesOrEighties.toBody Film.mapping = .ok body ∧
      CriteriaForm.ofBody? body = some (Film.seventiesOrEighties.form Film.mapping) ∧
      Film.seventiesOrEightiesFlat.form Film.mapping =
        Film.seventiesOrEighties.form Film.mapping := by
  have hdistinct : ∀ c ∈ [Film.seventiesOrEighties, Film.seventiesOrEightiesFlat],
      ∀ d ∈ c.nodes, d.HasDistinctMembers := by
    simp [Film.seventiesOrEighties, Film.seventiesOrEightiesFlat, nodes, nodesOfAll,
      HasDistinctMembers]
  have hsame : (Film.seventiesOrEightiesFlat.toBody Film.mapping).toOption =
      (Film.seventiesOrEighties.toBody Film.mapping).toOption := by decide
  have hwritten : (Film.seventiesOrEighties.toBody Film.mapping).toOption.isSome = true := by decide
  obtain ⟨body, hbody⟩ := Option.isSome_iff_exists.1 hwritten
  have hflat : Film.seventiesOrEightiesFlat.toBody Film.mapping = .ok body := by
    rw [← toOption_eq_some, hsame, hbody]
  rw [toOption_eq_some] at hbody
  have hread := toBody_readsBack (hdistinct _ (by simp)) hbody
  exact ⟨body, hbody, hread.1, hread.2 _ _ (hdistinct _ (by simp)) hflat⟩

end Criteria

end SearchQuery
