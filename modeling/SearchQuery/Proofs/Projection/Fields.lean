import Mathlib.Data.List.Basic
import Mathlib.Data.List.Induction
import SearchQuery.Plan.Selection
import SearchQuery.Proofs.Expression.Subexpressions
import SearchQuery.Proofs.Plan.Contribution

/-!
# What a projection reads

One recursion over a selector decides whether the document is read as a whole, and another one makes
the projection and lists the fields to ask for. They agree on what is read.

* `usesDocument_iff`: the document is read as a whole where the parameter occurs more often than one of
  its members is accessed.
* `BindCases`: the induction over binding.
* `Fetches`: what was asked for after an expression was bound is what was asked for before and the paths
  that the projection reads.
* `Hit.AgreesOn`, `evaluate_congr`: of a hit, a projection of fields sees its metadata and those paths.
* `ofSelector_reads`: so a request lists the fields that its projection reads, or none where it reads
  documents.
-/

namespace SearchQuery

/-! ### Uses of the document -/

namespace Expression

def isParameter (name : String) : Expression → Bool
  | .parameter p => p == name
  | _ => false

def isMemberOf (name : String) : Expression → Bool
  | .member (.parameter p) _ => p == name
  | _ => false

/-- Whether the parameter occurs other than as the target of a member access: there are more
occurrences than such accesses. -/
def UsesWhole (name : String) (e : Expression) : Prop :=
  e.subexpressions.countP (isMemberOf name) < e.subexpressions.countP (isParameter name)

/-- Among these expressions, members of the parameter are accessed at most as often as it occurs, and
as often exactly where it is not used as a whole. -/
def CountsUses (name : String) (es : List Expression) (uses : Bool) : Prop :=
  es.countP (isMemberOf name) ≤ es.countP (isParameter name) ∧
    (uses = true ↔ es.countP (isMemberOf name) < es.countP (isParameter name))

variable {name : String} {es es' : List Expression} {uses uses' : Bool}

theorem CountsUses.append (h : CountsUses name es uses) (h' : CountsUses name es' uses') :
    CountsUses name (es ++ es') (uses || uses') := by
  unfold CountsUses at *
  rw [List.countP_append, List.countP_append, Bool.or_eq_true, h.2, h'.2]
  omega

theorem CountsUses.cons {e : Expression} (hparameter : e.isParameter name = false)
    (hmember : e.isMemberOf name = false) (h : CountsUses name es uses) :
    CountsUses name (e :: es) uses := by
  unfold CountsUses at *
  rw [List.countP_cons, List.countP_cons, hparameter, hmember]
  exact h

theorem countsUses_nil : CountsUses name [] false := by
  simp [CountsUses]

mutual

theorem countsUses (name : String) :
    (e : Expression) → CountsUses name e.subexpressions (e.usesDocument name)
  | .parameter p => by
    by_cases hp : p = name <;>
      simp [CountsUses, usesDocument, isParameter, isMemberOf, hp]
  | .member target m => by
    by_cases hparameter : ∃ p, target = .parameter p
    · obtain ⟨p, rfl⟩ := hparameter
      simp [CountsUses, usesDocument, isParameter, isMemberOf, List.countP_cons]
    · have htarget : ∀ p, target ≠ .parameter p := fun p hp => hparameter ⟨p, hp⟩
      have hmember : isMemberOf name (.member target m) = false := by
        unfold isMemberOf
        split
        · rename_i heq
          cases heq
          exact absurd rfl (htarget _)
        · rfl
      rw [usesDocument_member htarget]
      exact (countsUses name target).cons rfl hmember
  | .binary op left right =>
    ((countsUses name left).append (countsUses name right)).cons rfl rfl
  | .unary op operand => (countsUses name operand).cons rfl rfl
  | .call method args => (countsUses_args name args).cons rfl rfl
  | .lambda p body => (countsUses name body).cons rfl rfl
  | .construct members => (countsUses_members name members).cons rfl rfl
  | .constant _ | .source _ | .hitField _ => countsUses_nil.cons rfl rfl

theorem countsUses_args (name : String) :
    (args : List Expression) → CountsUses name (argsSubexpressions args) (argsUseDocument name args)
  | [] => countsUses_nil
  | e :: rest => (countsUses name e).append (countsUses_args name rest)

theorem countsUses_members (name : String) :
    (members : List (String × Expression)) →
      CountsUses name (membersSubexpressions members) (membersUseDocument name members)
  | [] => countsUses_nil
  | (_, e) :: rest => (countsUses name e).append (countsUses_members name rest)

end

theorem usesDocument_iff {e : Expression} : e.usesDocument name = true ↔ e.UsesWhole name :=
  (countsUses name e).2

end Expression

/-! ### Reads of a projection -/

namespace ProjectionNode

mutual

/-- The paths of the fields that a projection reads, from left to right. -/
def readPaths : ProjectionNode → List String
  | .field path _ => [path]
  | .member target _ => readPaths target
  | .binary _ left right => readPaths left ++ readPaths right
  | .unary _ operand => readPaths operand
  | .call _ args => argsReadPaths args
  | .object members => membersReadPaths members
  | .constant _ | .document _ | .metadata _ | .groupKey | .aggregate .. => []

def argsReadPaths : List ProjectionNode → List String
  | [] => []
  | node :: rest => readPaths node ++ argsReadPaths rest

def membersReadPaths : List (String × ProjectionNode) → List String
  | [] => []
  | (_, node) :: rest => readPaths node ++ membersReadPaths rest

end

mutual

/-- Whether the whole document is read somewhere. -/
def readsDocument : ProjectionNode → Bool
  | .document _ => true
  | .member target _ => readsDocument target
  | .binary _ left right => readsDocument left || readsDocument right
  | .unary _ operand => readsDocument operand
  | .call _ args => argsReadDocument args
  | .object members => membersReadDocument members
  | .constant _ | .field .. | .metadata _ | .groupKey | .aggregate .. => false

def argsReadDocument : List ProjectionNode → Bool
  | [] => false
  | node :: rest => readsDocument node || argsReadDocument rest

def membersReadDocument : List (String × ProjectionNode) → Bool
  | [] => false
  | (_, node) :: rest => readsDocument node || membersReadDocument rest

end

end ProjectionNode

/-! ### Binding -/

namespace Selection

variable {s : Selection} {fields fields' fields'' paths paths' : List String}
  {readsDocument readsDocument' : Bool}

/-- After something was bound, the fields are those from before and the paths that it reads, each
once. Documents are read only where they are selected as a whole, and only there no field is. -/
structure Fetches (s : Selection) (fields fields' paths : List String) (readsDocument : Bool) :
    Prop where
  fields : fields' = paths.foldl Text.pushNew fields
  document : s.wholeDocument = false → readsDocument = false
  paths : s.wholeDocument = true → paths = []

/-- Induction over binding: what relates the fields before to the fields after, the paths that are
read and whether documents are, provided that it passes from parts to what is made of them. -/
structure BindCases (s : Selection) (R : List String → List String → List String → Bool → Prop) :
    Prop where
  nothing (fields : List String) : R fields fields [] false
  document (fields : List String) (hwhole : s.wholeDocument = true) : R fields fields [] true
  field (fields : List String) {e : Expression} {path : String} {last : Member}
    (hpart : s.wholeDocument = false)
    (hpath : e.memberPath? s.mapping s.pathPrefix = some (path, last)) :
    R fields (Text.pushNew fields path) [path] false
  append {fields fields' fields'' paths paths' : List String} {readsDocument readsDocument' : Bool}
    (h : R fields fields' paths readsDocument) (h' : R fields' fields'' paths' readsDocument') :
    R fields fields'' (paths ++ paths') (readsDocument || readsDocument')

namespace BindCases

variable {R : List String → List String → List String → Bool → Prop}

theorem bindParameter (hR : BindCases s R) {x : String} {bound : ProjectionNode × List String}
    (h : s.bindParameter fields x = .ok bound) :
    R fields bound.2 bound.1.readPaths bound.1.readsDocument := by
  unfold Selection.bindParameter at h
  split at h
  · rename_i hwhole
    cases h
    exact hR.document fields hwhole.2
  · cases h

theorem bindField (hR : BindCases s R) {e : Expression} {bound : ProjectionNode × List String}
    (hpart : s.wholeDocument = false) (h : s.bindField fields e = .ok bound) :
    R fields bound.2 bound.1.readPaths bound.1.readsDocument := by
  unfold Selection.bindField at h
  split at h
  · rename_i hpath
    cases h
    exact hR.field fields hpart hpath
  · cases h

mutual

theorem bind (hR : BindCases s R) (fields : List String) :
    (e : Expression) → ∀ bound, s.bind fields e = .ok bound →
      R fields bound.2 bound.1.readPaths bound.1.readsDocument
  | .constant v, bound, h => by
    cases h
    exact hR.nothing fields
  | .hitField f, bound, h => by
    cases h
    exact hR.nothing fields
  | .parameter x, bound, h => hR.bindParameter h
  | .member target m, bound, h => by
    rw [Selection.bind] at h
    split at h
    · obtain ⟨⟨node, fields'⟩, htarget, h⟩ := bind_eq_ok.1 h
      cases h
      have htargetBound := hR.bind fields target _ htarget
      exact htargetBound
    · rename_i hpart
      exact hR.bindField (Bool.eq_false_iff.2 hpart) h
  | .binary op left right, bound, h => by
    rw [Selection.bind] at h
    obtain ⟨⟨l, fields'⟩, hleft, h⟩ := bind_eq_ok.1 h
    obtain ⟨⟨r, fields''⟩, hright, h⟩ := bind_eq_ok.1 h
    cases h
    have hl := hR.bind fields left _ hleft
    have hr := hR.bind fields' right _ hright
    exact hR.append hl hr
  | .unary op operand, bound, h => by
    rw [Selection.bind] at h
    obtain ⟨⟨node, fields'⟩, hoperand, h⟩ := bind_eq_ok.1 h
    cases h
    have hoperandBound := hR.bind fields operand _ hoperand
    exact hoperandBound
  | .call method args, bound, h => by
    rw [Selection.bind] at h
    obtain ⟨⟨nodes, fields'⟩, hargs, h⟩ := bind_eq_ok.1 h
    cases h
    exact hR.bindArgs fields args _ hargs
  | .construct members, bound, h => by
    rw [Selection.bind] at h
    obtain ⟨⟨nodes, fields'⟩, hmembers, h⟩ := bind_eq_ok.1 h
    cases h
    exact hR.bindMembers fields members _ hmembers
  | .lambda p body, bound, h => by cases h
  | .source type, bound, h => by cases h

theorem bindArgs (hR : BindCases s R) (fields : List String) :
    (args : List Expression) → ∀ bound, s.bindArgs fields args = .ok bound →
      R fields bound.2 (ProjectionNode.argsReadPaths bound.1)
        (ProjectionNode.argsReadDocument bound.1)
  | [], bound, h => by
    cases h
    exact hR.nothing fields
  | e :: rest, bound, h => by
    rw [Selection.bindArgs] at h
    obtain ⟨⟨node, fields'⟩, hnode, h⟩ := bind_eq_ok.1 h
    obtain ⟨⟨nodes, fields''⟩, hnodes, h⟩ := bind_eq_ok.1 h
    cases h
    have hfirst := hR.bind fields e _ hnode
    have hrest := hR.bindArgs fields' rest _ hnodes
    exact hR.append hfirst hrest

theorem bindMembers (hR : BindCases s R) (fields : List String) :
    (members : List (String × Expression)) → ∀ bound, s.bindMembers fields members = .ok bound →
      R fields bound.2 (ProjectionNode.membersReadPaths bound.1)
        (ProjectionNode.membersReadDocument bound.1)
  | [], bound, h => by
    cases h
    exact hR.nothing fields
  | (name, e) :: rest, bound, h => by
    rw [Selection.bindMembers] at h
    obtain ⟨⟨node, fields'⟩, hnode, h⟩ := bind_eq_ok.1 h
    obtain ⟨⟨nodes, fields''⟩, hnodes, h⟩ := bind_eq_ok.1 h
    cases h
    have hfirst := hR.bind fields e _ hnode
    have hrest := hR.bindMembers fields' rest _ hnodes
    exact hR.append hfirst hrest

end

end BindCases

theorem fetches_nothing (s : Selection) (fields : List String) :
    Fetches s fields fields [] false :=
  ⟨rfl, fun _ => rfl, fun _ => rfl⟩

theorem Fetches.append (h : Fetches s fields fields' paths readsDocument)
    (h' : Fetches s fields' fields'' paths' readsDocument') :
    Fetches s fields fields'' (paths ++ paths') (readsDocument || readsDocument') where
  fields := by rw [h'.fields, h.fields, List.foldl_append]
  document hpart := by rw [h.document hpart, h'.document hpart, Bool.or_false]
  paths hwhole := by rw [h.paths hwhole, h'.paths hwhole, List.append_nil]

theorem bindCases_fetches (s : Selection) : BindCases s (Fetches s) where
  nothing := fetches_nothing s
  document fields hwhole := by
    refine ⟨rfl, fun hpart => ?_, fun _ => rfl⟩
    rw [hwhole] at hpart
    cases hpart
  field fields {e path last} hpart _ := by
    refine ⟨rfl, fun _ => rfl, fun hwhole => ?_⟩
    rw [hwhole] at hpart
    cases hpart
  append := Fetches.append

/-- Binding a node fetches what the projection of it reads. -/
def NodeFetches (s : Selection) (fields : List String) (bound : ProjectionNode × List String) :
    Prop :=
  Fetches s fields bound.2 bound.1.readPaths bound.1.readsDocument

theorem bind_fetches (s : Selection) (fields : List String) (e : Expression)
    (bound : ProjectionNode × List String) (h : s.bind fields e = .ok bound) :
    NodeFetches s fields bound :=
  (bindCases_fetches s).bind fields e bound h

end Selection

/-- Pushing paths one after the other keeps the first occurrence of each. -/
theorem Text.foldl_pushNew (paths : List String) :
    paths.foldl Text.pushNew [] = paths.eraseDups := by
  induction paths using List.reverseRecOn with
  | nil => rfl
  | append_singleton paths path ih =>
    rw [List.foldl_append, ih, List.eraseDups_append, List.foldl_cons, List.foldl_nil, Text.pushNew]
    by_cases hknown : path ∈ paths
    · have hold : [path].removeAll paths = [] := by simp [List.removeAll, hknown]
      rw [if_pos (List.mem_eraseDups.2 hknown), hold]
      simp
    · have hnew : [path].removeAll paths = [path] := by simp [List.removeAll, hknown]
      rw [if_neg (fun h => hknown (List.mem_eraseDups.1 h)), hnew]
      rfl

/-! ### Evaluation -/

namespace Hit

/-- Two hits have the same metadata, and the same field and the same value in the document at each of
the paths. -/
structure AgreesOn (paths : List String) (a b : Hit) : Prop where
  id : a.id = b.id
  score : a.score = b.score
  fields : ∀ path ∈ paths, a.fields.lookup path = b.fields.lookup path
  source : ∀ path ∈ paths, a.source.bind (·.atPath? path) = b.source.bind (·.atPath? path)

variable {paths paths' : List String} {a b : Hit}

theorem AgreesOn.mono (h : AgreesOn paths a b) (hsub : paths' ⊆ paths) : AgreesOn paths' a b :=
  ⟨h.id, h.score, fun path hpath => h.fields path (hsub hpath),
    fun path hpath => h.source path (hsub hpath)⟩

theorem AgreesOn.readField {path : String} (h : AgreesOn paths a b) (hpath : path ∈ paths)
    (scalar : Bool) : a.readField path scalar = b.readField path scalar := by
  have hraw : a.rawField path = b.rawField path := by
    rw [rawField, rawField, h.fields path hpath, h.source path hpath]
  unfold Hit.readField
  rw [hraw]

theorem AgreesOn.readMetadata (h : AgreesOn paths a b) (field : HitField) :
    a.readMetadata field = b.readMetadata field := by
  cases field with
  | id => rw [Hit.readMetadata, Hit.readMetadata, h.id]
  | score => rw [Hit.readMetadata, Hit.readMetadata, h.score]

end Hit

namespace ProjectionNode

variable {a b : Hit}

mutual

/-- A projection that reads no document sees the metadata of a hit and the paths that it reads. -/
theorem evaluate_congr :
    (node : ProjectionNode) → node.readsDocument = false → Hit.AgreesOn node.readPaths a b →
      node.evaluate (.hit a) = node.evaluate (.hit b)
  | .constant _, _, _ => rfl
  | .document _, hdocument, _ => by cases hdocument
  | .member target name, hdocument, h => by
    rw [evaluate, evaluate, evaluate_congr target hdocument h]
  | .field path scalar, _, h => by
    rw [evaluate, evaluate]
    exact congrArg Except.ok (h.readField (List.mem_singleton.2 rfl) scalar)
  | .metadata f, _, h => by
    rw [evaluate, evaluate]
    exact congrArg Except.ok (h.readMetadata f)
  | .groupKey, _, _ => rfl
  | .aggregate _ _, _, _ => rfl
  | .binary op left right, hdocument, h => by
    rw [readsDocument, Bool.or_eq_false_iff] at hdocument
    have hleft := evaluate_congr left hdocument.1 (h.mono (List.subset_append_left ..))
    have hright := evaluate_congr right hdocument.2 (h.mono (List.subset_append_right ..))
    rw [evaluate, evaluate, hleft, hright]
  | .unary op operand, hdocument, h => by
    rw [evaluate, evaluate, evaluate_congr operand hdocument h]
  | .call method args, hdocument, h => by
    rw [evaluate, evaluate, evaluateArgs_congr args hdocument h]
  | .object members, hdocument, h => by
    rw [evaluate, evaluate, evaluateMembers_congr members hdocument h]

theorem evaluateArgs_congr :
    (args : List ProjectionNode) → argsReadDocument args = false →
      Hit.AgreesOn (argsReadPaths args) a b →
        evaluateArgs (.hit a) args = evaluateArgs (.hit b) args
  | [], _, _ => rfl
  | node :: rest, hdocument, h => by
    rw [argsReadDocument, Bool.or_eq_false_iff] at hdocument
    have hnode := evaluate_congr node hdocument.1 (h.mono (List.subset_append_left ..))
    have hrest := evaluateArgs_congr rest hdocument.2 (h.mono (List.subset_append_right ..))
    rw [evaluateArgs, evaluateArgs, hnode, hrest]

theorem evaluateMembers_congr :
    (members : List (String × ProjectionNode)) → membersReadDocument members = false →
      Hit.AgreesOn (membersReadPaths members) a b →
        evaluateMembers (.hit a) members = evaluateMembers (.hit b) members
  | [], _, _ => rfl
  | (name, node) :: rest, hdocument, h => by
    rw [membersReadDocument, Bool.or_eq_false_iff] at hdocument
    have hnode := evaluate_congr node hdocument.1 (h.mono (List.subset_append_left ..))
    have hrest := evaluateMembers_congr rest hdocument.2 (h.mono (List.subset_append_right ..))
    rw [evaluateMembers, evaluateMembers, hnode, hrest]

end

end ProjectionNode

/-! ### Selectors -/

namespace Projection

variable {m : FieldMapping} {pathPrefix : String} {documentPrefix : Option String} {x : String}
  {body : Expression} {p : Projection}

/-- **A projection reads what is asked for.** If a selector uses its parameter other than for a
member, no fields are asked for and none are read. Otherwise no document is read, the fields that are
asked for are the paths that are read, each once and in the order of their first use, and hits that
agree on them, with one identifier and one score, are projected alike. -/
theorem ofSelector_reads
    (h : ofSelector m pathPrefix documentPrefix (.lambda x body) = .ok p) :
    (body.UsesWhole x ∧ p.fields = [] ∧ p.projector.node.readPaths = []) ∨
      (¬ body.UsesWhole x ∧ p.projector.node.readsDocument = false ∧
        p.fields = p.projector.node.readPaths.eraseDups ∧
        ∀ a b : Hit, a.AgreesOn p.fields b → p.projector.project a = p.projector.project b) := by
  obtain ⟨⟨node, fields⟩, hbind, hp⟩ := bind_eq_ok.1 h
  cases hp
  have hfetches : Selection.NodeFetches _ [] (node, fields) := Selection.bind_fetches _ [] body _ hbind
  have hfields : fields = node.readPaths.eraseDups :=
    hfetches.fields.trans (Text.foldl_pushNew node.readPaths)
  by_cases hwhole : body.UsesWhole x
  · have hpaths : node.readPaths = [] := hfetches.paths (Expression.usesDocument_iff.2 hwhole)
    refine .inl ⟨hwhole, ?_, hpaths⟩
    rw [hfields, hpaths]
    rfl
  · have hdocument : node.readsDocument = false :=
      hfetches.document (Bool.eq_false_iff.2 fun huses => hwhole (Expression.usesDocument_iff.1 huses))
    refine .inr ⟨hwhole, hdocument, hfields, fun a b hagrees => ?_⟩
    have hpaths : node.readPaths ⊆ fields := by
      intro path hpath
      rw [hfields]
      exact List.mem_eraseDups.2 hpath
    exact ProjectionNode.evaluate_congr node hdocument (hagrees.mono hpaths)

end Projection

namespace Film

/-- The title of a film, its decade, and whether it is a late one. -/
def titleAndDecade : Expression :=
  .construct
    [("Title", (Expression.parameter "f").member title),
      ("Decade", ((Expression.parameter "f").member year).divide (.constant (.int 10))),
      ("Late", ((Expression.parameter "f").member year).greaterThan (.constant (.int 1970)))]

end Film

theorem Projection.ofSelector_reads_film :
    ∃ p, Projection.ofSelector Film.mapping "" none (.lambda "f" Film.titleAndDecade) = .ok p ∧
      p.projector.node.readPaths = ["title", "year", "year"] ∧ p.fields = ["title", "year"] ∧
      ∀ a b : Hit, a.AgreesOn ["title", "year"] b →
        p.projector.project a = p.projector.project b := by
  have hpart : ¬ Film.titleAndDecade.UsesWhole "f" := by
    unfold Expression.UsesWhole
    decide
  obtain ⟨p, hp⟩ : ∃ p, Projection.ofSelector Film.mapping "" none
      (.lambda "f" Film.titleAndDecade) = .ok p := ⟨_, rfl⟩
  have hpaths : p.projector.node.readPaths = ["title", "year", "year"] := by
    cases hp
    rfl
  obtain ⟨hwhole, -⟩ | ⟨-, -, hfields, hproject⟩ := Projection.ofSelector_reads hp
  · exact absurd hwhole hpart
  · have htwo : p.fields = ["title", "year"] := by
      rw [hfields, hpaths]
      decide
    rw [htwo] at hproject
    exact ⟨p, hp, hpaths, htwo, hproject⟩

end SearchQuery
