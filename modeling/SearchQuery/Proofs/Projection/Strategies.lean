import SearchQuery.Proofs.Json.Paths
import SearchQuery.Proofs.Mapping.CamelCase
import SearchQuery.Proofs.Plan.Namespace

/-!
# Two ways to read a member

A selector that uses its parameter only for members reads each chain of members at one path, in the
fields that were sent or in the source of the hit. A selector that uses the document as a whole
follows such a chain member by member, from the document that it reads.

* `Accesses`: chains of member accesses on a parameter.
* `MappingOptions.atPath?_fieldName`: under the conventional mapping, the value of a member is found
  below the value of its parent, and what is missing on the way is null.
* `strategies_agree`: so both ways read the same value where no fields were sent, but for an array
  of one element that a scalar field gives up.
-/

namespace SearchQuery

namespace MappingOptions

variable {options : MappingOptions} {m : Member}

theorem memberName_ne_empty (h : m.name ≠ "") : options.memberName m ≠ "" := by
  rw [memberName]
  split_ifs
  · exact Naming.camelCase_ne_empty h
  · exact h

/-- A member is found below its parent; what is missing on the way is null. -/
theorem atPath?_fieldName (h : m.name ≠ "") (parent : String) (v : Json) :
    (v.atPath? (options.fieldName parent m)).getD .null =
      (((v.atPath? parent).getD .null).atPath? (options.memberName m)).getD .null := by
  by_cases hparent : parent = ""
  · subst hparent
    rfl
  · have hname : options.memberName m ≠ "" := memberName_ne_empty h
    rw [fieldName_below hparent, Json.atPath?_append hparent hname]
    cases v.atPath? parent with
    | none =>
      rw [Option.bind_none, Option.getD_none, Json.atPath?_null hname]
      rfl
    | some target => rfl

end MappingOptions

/-! ### Chains of members -/

/-- A chain of member accesses on a parameter, from its first member to its last one. Each access
may stand in conversions. -/
inductive Accesses (x : String) : List Member → Expression → Prop
  | first (m : Member) : Accesses x [m] (.member (.parameter x) m)
  | next {members : List Member} {target : Expression} (h : Accesses x members target)
      (m : Member) : Accesses x (members ++ [m]) (.member target m)
  | convert {members : List Member} {operand : Expression} (h : Accesses x members operand) :
      Accesses x members (.unary .convert operand)

namespace Accesses

variable {x : String} {members : List Member} {e : Expression} {m : FieldMapping}
  {pathPrefix : String}

theorem ne_parameter (h : Accesses x members e) (name : String) : e ≠ .parameter name := by
  cases h <;> nofun

/-- Only members of the parameter are used. -/
theorem usesDocument (h : Accesses x members e) : e.usesDocument x = false := by
  induction h with
  | first m => rfl
  | next h m ih => rw [Expression.usesDocument_member h.ne_parameter, ih]
  | convert h ih => exact ih

theorem memberPath? (h : Accesses x members e) : ∃ last, members.getLast? = some last ∧
    e.memberPath? m pathPrefix = some (members.foldl m.fieldName pathPrefix, last) := by
  induction h with
  | first last => exact ⟨last, rfl, rfl⟩
  | next h last ih =>
    obtain ⟨_, -, hpath⟩ := ih
    refine ⟨last, List.getLast?_concat, ?_⟩
    rw [Expression.memberPath?_member h.ne_parameter, hpath, List.foldl_append]
    rfl
  | convert h ih => exact ih

/-- The node that reads a field. -/
theorem bind_member {target : Expression} {last : Member}
    (h : Accesses x members (.member target last)) {s : Selection}
    (hs : s.wholeDocument = false) (fields : List String) :
    ∃ last', members.getLast? = some last' ∧
      s.bind fields (.member target last) =
        .ok (.field (members.foldl s.mapping.fieldName s.pathPrefix) last'.valueType.isScalar,
          Text.pushNew fields (members.foldl s.mapping.fieldName s.pathPrefix)) := by
  obtain ⟨last', hlast, hpath⟩ : ∃ last', members.getLast? = some last' ∧
      (Expression.member target last).memberPath? s.mapping s.pathPrefix =
        some (members.foldl s.mapping.fieldName s.pathPrefix, last') := h.memberPath?
  refine ⟨last', hlast, ?_⟩
  rw [Selection.bind, hs, if_neg Bool.false_ne_true, Selection.bindField, hpath]

/-- Where only members are used, the chain is read at one path. -/
theorem bind_fields (h : Accesses x members e) {s : Selection} (hs : s.wholeDocument = false)
    (fields : List String) :
    ∃ last node fields', members.getLast? = some last ∧ s.bind fields e = .ok (node, fields') ∧
      ∀ hit : Hit, node.evaluate (.hit hit) =
        .ok (hit.readField (members.foldl s.mapping.fieldName s.pathPrefix)
          last.valueType.isScalar) := by
  induction h with
  | first m =>
    obtain ⟨last, hlast, hbind⟩ := bind_member (.first m) hs fields
    exact ⟨last, _, _, hlast, hbind, fun hit => rfl⟩
  | next h m =>
    obtain ⟨last, hlast, hbind⟩ := bind_member (.next h m) hs fields
    exact ⟨last, _, _, hlast, hbind, fun hit => rfl⟩
  | convert h ih =>
    obtain ⟨last, node, fields', hlast, hbind, hread⟩ := ih
    refine ⟨last, .unary .convert node, fields', hlast, ?_, fun hit => ?_⟩
    · rw [Selection.bind, hbind]
      rfl
    · rw [ProjectionNode.evaluate, hread]
      rfl

/-- Where the document is used as a whole, the chain is followed from there. -/
theorem bind_document (h : Accesses x members e) {s : Selection} (hs : s.wholeDocument = true)
    (hx : s.parameter = x) (fields : List String) :
    ∃ node, s.bind fields e = .ok (node, fields) ∧
      ∀ (hit : Hit) source, hit.source = some source → node.evaluate (.hit hit) =
        .ok (members.foldl (fun v m => (v.atPath? (s.mapping.fieldName "" m)).getD .null)
          ((source.atPath? (s.documentPrefix.getD "")).getD .null)) := by
  induction h with
  | first m =>
    refine ⟨.member (.document s.documentPrefix) (s.mapping.fieldName "" m), ?_,
      fun hit source hsource => ?_⟩
    · rw [Selection.bind, if_pos hs, Selection.bind, Selection.bindParameter, if_pos ⟨hx.symm, hs⟩]
      rfl
    · rw [ProjectionNode.evaluate, ProjectionNode.evaluate, Hit.readDocument, hsource]
      rfl
  | next h m ih =>
    obtain ⟨node, hbind, hread⟩ := ih
    refine ⟨.member node (s.mapping.fieldName "" m), ?_, fun hit source hsource => ?_⟩
    · rw [Selection.bind, if_pos hs, hbind]
      rfl
    · rw [ProjectionNode.evaluate, hread hit source hsource, List.foldl_append]
      rfl
  | convert h ih =>
    obtain ⟨node, hbind, hread⟩ := ih
    refine ⟨.unary .convert node, ?_, fun hit source hsource => ?_⟩
    · rw [Selection.bind, hbind]
      rfl
    · rw [ProjectionNode.evaluate, hread hit source hsource]
      rfl

end Accesses

/-! ### Fields without an array -/

namespace Hit

variable {hit : Hit} {path : String} {scalar : Bool} {item : Json}

theorem readField_sole (h : hit.rawField path = .arr [item]) : hit.readField path true = item := by
  simp only [readField, h]

theorem readField_eq_rawField (h : ∀ item, hit.rawField path = .arr [item] → scalar = false) :
    hit.readField path scalar = hit.rawField path := by
  unfold readField
  split
  · rename_i item hraw
    cases h item hraw
  · rfl

end Hit

/-! ### Both ways -/

namespace MappingOptions

/-- Following members one by one gives what is at the path of the last one. -/
theorem atPath?_foldl (options : MappingOptions) {members : List Member}
    (h : ∀ m ∈ members, m.name ≠ "") (parent : String) (v : Json) :
    (v.atPath? (members.foldl options.fieldName parent)).getD .null =
      members.foldl (fun w m => (w.atPath? (options.memberName m)).getD .null)
        ((v.atPath? parent).getD .null) := by
  induction members generalizing parent with
  | nil => rfl
  | cons m rest ih =>
    rw [List.forall_mem_cons] at h
    rw [List.foldl_cons, List.foldl_cons, ih h.2, atPath?_fieldName h.1]

end MappingOptions

namespace Projection

variable {options : MappingOptions} {d : Option String} {pathPrefix x : String}
  {members : List Member} {e : Expression} {hit : Hit} {source : Json}

/-- The place of documents under a prefix. -/
def documentPath (pathPrefix : String) : Option String :=
  if pathPrefix.isEmpty then none else some pathPrefix

theorem getD_documentPath (pathPrefix : String) :
    (documentPath pathPrefix).getD "" = pathPrefix := by
  rw [documentPath]
  split
  · rename_i hempty
    exact (String.isEmpty_iff.1 hempty).symm
  · rfl

/-- **Both ways read the same.** Take a chain of accesses to members with names, and a hit with its
source and without fields. By itself the chain is read at its path below the prefix. In a selector
that uses the document as a whole, with documents at the prefix, it is followed member by member.
Both give the value at the path, or null where there is none; only an array of one element is given
up for the element where the chain is read by itself and its last member is scalar. -/
theorem strategies_agree (h : Accesses x members e) (hnames : ∀ m ∈ members, m.name ≠ "")
    (hsource : hit.source = some source) (hfields : hit.fields = []) (d' : Option String) :
    ∃ v last p, members.getLast? = some last ∧
      v = (source.atPath? (members.foldl options.fieldName pathPrefix)).getD .null ∧
      ofSelector (options.mapping d) pathPrefix d' (.lambda x e) = .ok p ∧
      (∀ item, v = .arr [item] → last.valueType.isScalar = true →
        p.projector.project hit = .ok item) ∧
      ((∀ item, v = .arr [item] → last.valueType.isScalar = false) →
        p.projector.project hit = .ok v) ∧
      ∀ {body : Expression}, body.usesDocument x = true → ∀ pathPrefix' fields, ∃ node,
        (Selection.ofLambda (options.mapping d) pathPrefix' (documentPath pathPrefix) x body).bind
          fields e = .ok (node, fields) ∧
        node.evaluate (.hit hit) = .ok v := by
  obtain ⟨last, node, fields, hlast, hbind, hread⟩ := h.bind_fields
    (s := Selection.ofLambda (options.mapping d) pathPrefix d' x e) h.usesDocument []
  have hselector : ofSelector (options.mapping d) pathPrefix d' (.lambda x e) =
      .ok ⟨fields, ⟨node⟩⟩ :=
    bind_eq_ok.2 ⟨_, hbind, rfl⟩
  have hproject : node.evaluate (.hit hit) =
      .ok (hit.readField (members.foldl options.fieldName pathPrefix) last.valueType.isScalar) :=
    hread hit
  have hraw : hit.rawField (members.foldl options.fieldName pathPrefix) =
      (source.atPath? (members.foldl options.fieldName pathPrefix)).getD .null := by
    rw [Hit.rawField, hfields, hsource]
    rfl
  refine ⟨_, last, _, hlast, hraw, hselector, fun item hitem hscalar => ?_, fun hmany => ?_,
    fun {body} huses pathPrefix' fields => ?_⟩
  · rw [hscalar, Hit.readField_sole hitem] at hproject
    exact hproject
  · rw [Hit.readField_eq_rawField hmany] at hproject
    exact hproject
  · obtain ⟨node, hbind, hfollow⟩ := h.bind_document
      (s := Selection.ofLambda (options.mapping d) pathPrefix' (documentPath pathPrefix) x body)
      huses rfl fields
    refine ⟨node, hbind, ?_⟩
    have hstart : (source.atPath? ((documentPath pathPrefix).getD "")).getD .null =
        (source.atPath? pathPrefix).getD .null := by
      rw [getD_documentPath]
    rw [hfollow hit source hsource, hraw, options.atPath?_foldl hnames, ← hstart]
    rfl

end Projection

namespace Film

def setPlace : Member := ⟨"Set.Place", .object "Place"⟩

def placeName : Member := ⟨"Name", .string⟩

/-- The name of the place where a film was set. -/
def nameOfPlace : Expression :=
  (((Expression.parameter "f").member setPlace).convert.member placeName).convert

/-- The film with the name of its place. -/
def withPlace : Expression :=
  .construct [("Film", .parameter "f"), ("Place", nameOfPlace)]

/-- A film whose place has an array of one name. -/
def nestedSource : Json :=
  .obj [("doc", .obj [("set", .obj [("Place", .obj [("name", .arr [.str "Harbour"])])])])]

end Film

theorem Projection.strategies_agree_film :
    Accesses "f" [Film.setPlace, Film.placeName] Film.nameOfPlace ∧
      Film.withPlace.usesDocument "f" = true ∧
      ∀ hit : Hit, hit.source = some Film.nestedSource → hit.fields = [] → ∃ p node,
        ofSelector Film.mapping "doc" none (.lambda "f" Film.nameOfPlace) = .ok p ∧
        p.projector.project hit = .ok (.str "Harbour") ∧
        (Selection.ofLambda Film.mapping "doc" (some "doc") "f" Film.withPlace).bind []
          Film.nameOfPlace = .ok (node, []) ∧
        node.evaluate (.hit hit) = .ok (.arr [.str "Harbour"]) := by
  have haccesses : Accesses "f" [Film.setPlace, Film.placeName] Film.nameOfPlace :=
    .convert (.next (.convert (.first Film.setPlace)) Film.placeName)
  have hnames : ∀ m ∈ [Film.setPlace, Film.placeName], m.name ≠ "" := by decide
  have huses : Film.withPlace.usesDocument "f" = true := rfl
  refine ⟨haccesses, huses, fun hit hsource hfields => ?_⟩
  obtain ⟨v, last, p, hlast, hv, hp, hsole, -, hdocument⟩ :=
    @strategies_agree .standard none "doc" "f" _ _ hit _ haccesses hnames hsource hfields none
  obtain rfl : Film.placeName = last := Option.some.inj hlast
  obtain rfl : v = .arr [.str "Harbour"] := by
    rw [hv]
    decide
  obtain ⟨node, hbind, hread⟩ := hdocument huses "doc" []
  exact ⟨p, node, hp, hsole _ rfl rfl, hbind, hread⟩

end SearchQuery
