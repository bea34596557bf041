import SearchQuery.Proofs.Expression.Folding
import SearchQuery.Proofs.Plan.FieldPaths

/-!
# Paths below a prefix

Under the conventional mapping with a prefix, the members of documents lie below it.

* `LiesBelow`: the paths of metadata and those below a prefix.
* `MappingOptions.liesBelow`: the paths that expressions stand for are such.
* `MappingOptions.not_liesBelow_of_typeExists`: the path that selects the documents of a type is not,
  as the identifier is looked for at the root.
* `plan_namespaced`: so it depends on what a query asks for whether all paths of its request are.
-/

namespace SearchQuery

open Expression (IsFieldPath)

/-- The path is that of metadata, or it lies below the prefix. -/
def LiesBelow (pathPrefix path : String) : Prop :=
  (∃ hit : HitField, path = hit.fieldName) ∨ ∃ rest, path = pathPrefix ++ "." ++ rest

namespace MappingOptions

variable {options : MappingOptions} {documentPrefix : Option String} {pathPrefix path : String}

theorem fieldName_below {parent : String} (h : parent ≠ "") (m : Member) :
    options.fieldName parent m = parent ++ "." ++ options.memberName m :=
  if_neg (by simpa using h)

theorem memberPath?_below (hnonempty : pathPrefix ≠ "") {e : Expression} {last : Member}
    (h : e.memberPath? (options.mapping documentPrefix) pathPrefix = some (path, last)) :
    ∃ rest, path = pathPrefix ++ "." ++ rest := by
  induction e using Expression.memberPath?.induct generalizing path last with
  | case1 operand ih =>
    rw [Expression.memberPath?] at h
    exact ih h
  | case2 name last =>
    cases h
    exact ⟨_, fieldName_below hnonempty last⟩
  | case3 target last hparameter ih =>
    rw [Expression.memberPath?_member hparameter] at h
    obtain ⟨⟨parent, m⟩, hparent, h⟩ := Option.map_eq_some_iff.1 h
    cases h
    obtain ⟨rest, rfl⟩ := ih hparent
    refine ⟨rest ++ "." ++ options.memberName last, ?_⟩
    have hne : pathPrefix ++ "." ++ rest ≠ "" := by simp [hnonempty]
    show options.fieldName _ last = _
    rw [fieldName_below hne]
    simp only [String.append_assoc]
  | case4 e hconvert hparameter hmember =>
    rw [Expression.memberPath?] at h
    · cases h
    all_goals assumption

theorem liesBelow (hnonempty : pathPrefix ≠ "")
    (h : IsFieldPath (options.mapping documentPrefix) pathPrefix path) :
    LiesBelow pathPrefix path := by
  obtain ⟨e, last, h⟩ := h
  induction e using Expression.field?.induct with
  | case1 hit =>
    cases h
    exact .inl ⟨hit, rfl⟩
  | case2 operand ih =>
    rw [Expression.field?] at h
    exact ih h
  | case3 e hhit hconvert =>
    rw [Expression.field?] at h
    · exact .inr (memberPath?_below hnonempty h)
    all_goals assumption

end MappingOptions

/-! ### Identifiers -/

/-- A letter with a small form is that form or the capital one. -/
theorem Text.eq_or_eq_of_toLower {c small : Char} (capital : Char) (h : c.toLower = small)
    (hcapital : capital.val + 32 = small.val) : c = small ∨ c = capital := by
  unfold Char.toLower at h
  split at h
  · right
    have hval : c.val + 32 = small.val := congrArg Char.val h
    exact Char.ext (by grind)
  · exact .inl h

namespace MappingOptions

variable {options : MappingOptions} {documentPrefix : Option String} {pathPrefix path : String}

/-- The names that are `id` but for the case of letters. -/
def identifierNames : List String := ["id", "Id", "iD", "ID"]

theorem mem_identifierNames {name : String} (h : Text.equalIgnoringCase name "id" = true) :
    name ∈ identifierNames := by
  have hchars : name.toList.map Char.toLower = ['i', 'd'] := by
    simpa [Text.equalIgnoringCase] using h
  obtain ⟨a, rest, hname, ha, hrest⟩ := List.map_eq_cons_iff.1 hchars
  obtain ⟨b, last, rfl, hb, hlast⟩ := List.map_eq_cons_iff.1 hrest
  obtain rfl : last = [] := List.map_eq_nil_iff.1 hlast
  have hwhole : name = String.ofList [a, b] := by rw [← hname, String.ofList_toList]
  rw [hwhole]
  rcases Text.eq_or_eq_of_toLower 'I' ha rfl with rfl | rfl <;>
    rcases Text.eq_or_eq_of_toLower 'D' hb rfl with rfl | rfl <;> decide

theorem memberName_mem_identifierNames (options : MappingOptions) {m : Member}
    (h : m.name ∈ identifierNames) : options.memberName m ∈ identifierNames := by
  have hcamel : ∀ name ∈ identifierNames, Naming.camelCase name ∈ identifierNames := by decide
  unfold memberName
  split_ifs
  · exact hcamel _ h
  · exact h

/-- No such name has a dot, so it lies below nothing. -/
theorem not_liesBelow (h : path ∈ identifierNames) : ¬LiesBelow pathPrefix path := by
  rintro (⟨hit, rfl⟩ | ⟨rest, rfl⟩)
  · revert h
    cases hit <;> decide
  · have hdots : ∀ name ∈ identifierNames, '.' ∉ name.toList := by decide
    exact hdots _ h (by simp)

/-- The criteria that selects the documents of a type tests their identifier, if they have one. -/
theorem mem_fieldPaths_typeExists {type : DocumentType} :
    path ∈ (options.typeExists type).fieldPaths ↔
      ∃ m, type.member? "id" = some m ∧ path = options.memberName m := by
  unfold typeExists
  cases type.member? "id" with
  | none => simp [Criteria.fieldPaths, Criteria.nodes, Criteria.ownFields]
  | some m => simp [Criteria.fieldPaths, Criteria.nodes, Criteria.ownFields, fieldName]

theorem not_liesBelow_of_typeExists {type : DocumentType}
    (h : path ∈ (options.typeExists type).fieldPaths) : ¬LiesBelow pathPrefix path := by
  obtain ⟨m, hm, rfl⟩ := mem_fieldPaths_typeExists.1 h
  have hname : Text.equalIgnoringCase m.name "id" = true := by
    simpa using List.find?_some hm
  exact not_liesBelow (memberName_mem_identifierNames options (mem_identifierNames hname))

end MappingOptions

namespace Expression

variable {options : MappingOptions} {documentPrefix : Option String} {pathPrefix : String}
  {query : Expression} {t : QueryPlan}

/-- **Fields below the prefix.** Under the conventional mapping with any options and a prefix, each
path in a request is metadata or lies below the prefix, or all documents of a type are asked for and
it is the path of their identifier. So all paths lie below the prefix exactly where the query says
something about documents, or where these have no identifier. -/
theorem plan_namespaced (hnonempty : pathPrefix ≠ "")
    (hplan : (query.plan (options.mapping documentPrefix) pathPrefix).result = .ok t) :
    (∀ path, t.request.Names path → LiesBelow pathPrefix path ∨
      ∃ type m, query.AsksForAll (options.mapping documentPrefix) pathPrefix type ∧
        type.member? "id" = some m ∧ path = options.memberName m) ∧
      ((∀ path, t.request.Names path → LiesBelow pathPrefix path) ↔
        ∀ type, query.AsksForAll (options.mapping documentPrefix) pathPrefix type →
          type.member? "id" = none) := by
  have hpaths : ∀ path, t.request.Names path → LiesBelow pathPrefix path ∨
      ∃ type m, query.AsksForAll (options.mapping documentPrefix) pathPrefix type ∧
        type.member? "id" = some m ∧ path = options.memberName m := by
    intro path hpath
    refine (plan_names hplan hpath).imp (MappingOptions.liesBelow hnonempty) ?_
    rintro ⟨type, hasks, htype⟩
    obtain ⟨m, hm, hname⟩ := MappingOptions.mem_fieldPaths_typeExists.1 htype
    exact ⟨type, m, hasks, hm, hname⟩
  refine ⟨hpaths, ?_, ?_⟩
  · intro hall type hasks
    refine Option.eq_none_iff_forall_ne_some.2 fun m hm => ?_
    have hfilter : options.typeExists type ∈ t.request.filter := by
      rw [show t.request.filter = _ from congrArg Placement.filter (hasks.placement hplan)]
      rfl
    have hpath : options.memberName m ∈ (options.typeExists type).fieldPaths :=
      MappingOptions.mem_fieldPaths_typeExists.2 ⟨m, hm, rfl⟩
    exact MappingOptions.not_liesBelow_of_typeExists hpath
      (hall _ (.criteria (.filter hfilter) hpath))
  · intro hnone path hpath
    rcases hpaths path hpath with hbelow | ⟨type, m, hasks, hm, -⟩
    · exact hbelow
    · rw [hnone type hasks] at hm
      cases hm

theorem plan_namespaced_film :
    "doc" ≠ "" ∧ ∃ t, (Film.query.plan Film.mapping "doc").result = .ok t ∧
      t.request.Names "doc.title" ∧ ∀ path, t.request.Names path → LiesBelow "doc" path := by
  have hnonempty : "doc" ≠ "" := by decide
  have hplans : (Film.query.plan Film.mapping "doc").result.toOption.map (·.request.query) =
      some (some (.bool [.text "crime", .wildcard "doc.title" Film.title "*family*"] [] [])) := by
    decide
  have hrequires : (Film.query.fold.toOption.bind fun folded =>
      (folded.chain.requirements Film.mapping "doc").toOption).map
        (·.any (·.formula.contributes)) = some true := by decide
  obtain ⟨t, ht, hquery⟩ := Option.map_eq_some_iff.1 hplans
  obtain ⟨-, hbelow⟩ := plan_namespaced hnonempty (toOption_eq_some.1 ht)
  refine ⟨hnonempty, t, toOption_eq_some.1 ht, .criteria (.query hquery) (by decide),
    hbelow.2 ?_⟩
  rintro type ⟨folded, rs, hfold, -, -, hrs, hnothing⟩
  rw [hfold] at hrequires
  obtain ⟨rs', hrs', hsome⟩ := Option.map_eq_some_iff.1 hrequires
  obtain rfl : rs = rs' := Except.ok.inj (hrs.symm.trans (toOption_eq_some.1 hrs'))
  obtain ⟨r, hr, hcontributes⟩ := List.any_eq_true.1 hsome
  rw [hnothing r hr] at hcontributes
  cases hcontributes

/-- All films are asked for by the identifier at the root, which lies outside of the prefix. -/
theorem plan_names_root :
    ∃ t, ((source Film.documents).plan Film.mapping "doc").result = .ok t ∧
      t.request.Names "id" ∧ ¬LiesBelow "doc" "id" := by
  have hplans : ((source Film.documents).plan Film.mapping "doc").result.toOption.map
      (·.request.filter) = some (some (.present "id")) := by decide
  obtain ⟨t, ht, hfilter⟩ := Option.map_eq_some_iff.1 hplans
  exact ⟨t, toOption_eq_some.1 ht, .criteria (.filter hfilter) (by decide),
    MappingOptions.not_liesBelow (by decide)⟩

end Expression

end SearchQuery
