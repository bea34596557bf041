import SearchQuery.Proofs.Expression.Renaming
import SearchQuery.Proofs.Plan.Heads

/-!
# Plans and the names of parameters

Planning compares names of parameters where it looks for uses of a document or of a group, and
ignores them elsewhere. Renaming parameters that stay bound makes no difference to it: what it gives
stays the same, or the kind of its error does (`upToKind`).

* `leafCriteria_renamed`, `upToKind_lower`: a predicate is lowered alike.
* `Selection.upToKind_bind`, `Selection.usesDocument_renamed`: a selection is bound alike, and where
  it can be bound it uses the document alike.
* `Grouping.upToKind_bind`: so is a projection over groups.
* `Operator.Renamed`, `Draft.stepAlike_renamed`: the operators of a chain do the same.
* `plan_renamed`: so a query has the same plan.
-/

namespace SearchQuery

open Expression

variable {m : FieldMapping} {pathPrefix : String} {around : List (String × String)}
  {e e' left left' right right' : Expression} {args args' : List Expression}
  {members members' : List (String × Expression)}

/-! ### Predicates -/

namespace Expression

theorem leafCriteria_renamed (h : Renamed around e e') :
    upToKind (e'.leafCriteria m pathPrefix) = upToKind (e.leafCriteria m pathPrefix) := by
  cases h with
  | member last htarget =>
    rw [leafCriteria, leafCriteria, booleanField?_renamed (.member last htarget)]
    cases booleanField? m pathPrefix (member _ last) <;> rfl
  | binary op hleft hright =>
    exact upToKind_comparisonCriteria (seenAlike_of_sameHead sameHead_renamed hleft)
      (seenAlike_of_sameHead sameHead_renamed hright) op
  | call method hargs =>
    exact upToKind_callCriteria
      ((forall₂_renamedArgs hargs).imp fun _ _ => seenAlike_of_sameHead sameHead_renamed)
  | _ => rfl

theorem upToKind_lower {query : Option Criteria} (h : Renamed around e e') :
    upToKind (e'.lower m pathPrefix query).result =
      upToKind (e.lower m pathPrefix query).result :=
  upToKind_lower_of_sameHead sameHead_renamed (fun _ _ => leafCriteria_renamed) h

theorem upToKind_lowerLambda {query : Option Criteria} (h : Renamed around e e') :
    upToKind (e'.lowerLambda m pathPrefix query).result =
      upToKind (e.lowerLambda m pathPrefix query).result := by
  rw [lowerLambda, lowerLambda]
  rcases lambda?_renamed h with ⟨hnone, hnone'⟩ | ⟨x, y, body, body', rfl, rfl, hbody⟩
  · rw [hnone, hnone']
    rfl
  · exact upToKind_lower hbody

end Expression

/-! ### Selections -/

theorem Expression.usesDocument_of_memberPath? {name : String} {x : String × Member}
    (h : e.memberPath? m pathPrefix = some x) : e.usesDocument name = false := by
  induction e using memberPath?.induct generalizing x with
  | case1 operand ih =>
    rw [memberPath?] at h
    rw [usesDocument, ih h]
  | case2 y last => rfl
  | case3 target last hne ih =>
    rw [memberPath?_member hne] at h
    obtain ⟨y, hy, -⟩ := Option.map_eq_some_iff.1 h
    rw [usesDocument_member hne, ih hy]
  | case4 e hconvert hparameter hmember =>
    rw [memberPath?] at h
    · cases h
    all_goals assumption

namespace Selection

variable {s : Selection} {fields : List String} {p p' : String}

def withParameter (s : Selection) (p : String) : Selection := { s with parameter := p }

theorem upToKind_bindField (h : Renamed around e e') :
    upToKind ((s.withParameter p').bindField fields e') = upToKind (s.bindField fields e) := by
  rw [bindField, bindField, withParameter, memberPath?_renamed h]
  cases e.memberPath? s.mapping s.pathPrefix <;> rfl

theorem upToKind_bindParameter {x y : String} (h : SameBinder [(s.parameter, p')] x y) :
    upToKind ((s.withParameter p').bindParameter fields y) =
      upToKind (s.bindParameter fields x) := by
  obtain ⟨rfl, rfl⟩ := sameBinder_singleton h
  unfold bindParameter
  simp only [withParameter, true_and]
  split_ifs <;> rfl

mutual

theorem upToKind_bind : (e : Expression) → {e' : Expression} → {fields : List String} →
    Renamed [(s.parameter, p')] e e' →
    upToKind ((s.withParameter p').bind fields e') = upToKind (s.bind fields e)
  | .constant _, _, _, h | .hitField _, _, _, h | .source _, _, _, h | .lambda _ _, _, _, h => by
    cases h
    rfl
  | .parameter x, _, _, h => by
    cases h with
    | parameter hbinder => exact upToKind_bindParameter hbinder
  | .member target last, _, _, h => by
    cases h with
    | member _ htarget =>
      rw [bind, bind]
      show upToKind (if s.wholeDocument then _ else _) = _
      split_ifs
      · exact upToKind_bind_congr (upToKind_bind target htarget) fun _ => rfl
      · exact upToKind_bindField (.member last htarget)
  | .binary op left right, _, _, h => by
    cases h with
    | binary _ hleft hright =>
      rw [bind, bind]
      refine upToKind_bind_congr (upToKind_bind left hleft) fun l => ?_
      exact upToKind_bind_congr (upToKind_bind right hright) fun _ => rfl
  | .unary op operand, _, _, h => by
    cases h with
    | unary _ hoperand =>
      rw [bind, bind]
      exact upToKind_bind_congr (upToKind_bind operand hoperand) fun _ => rfl
  | .call method args, _, _, h => by
    cases h with
    | call _ hargs =>
      rw [bind, bind]
      exact upToKind_bind_congr (upToKind_bindArgs args hargs) fun _ => rfl
  | .construct members, _, _, h => by
    cases h with
    | construct hmembers =>
      rw [bind, bind]
      exact upToKind_bind_congr (upToKind_bindMembers members hmembers) fun _ => rfl

theorem upToKind_bindArgs : (args : List Expression) → {args' : List Expression} →
    {fields : List String} → RenamedArgs [(s.parameter, p')] args args' →
    upToKind ((s.withParameter p').bindArgs fields args') = upToKind (s.bindArgs fields args)
  | [], _, _, h => by
    cases h
    rfl
  | e :: rest, _, _, h => by
    cases h with
    | cons he hrest =>
      rw [bindArgs, bindArgs]
      refine upToKind_bind_congr (upToKind_bind e he) fun _ => ?_
      exact upToKind_bind_congr (upToKind_bindArgs rest hrest) fun _ => rfl

theorem upToKind_bindMembers : (members : List (String × Expression)) →
    {members' : List (String × Expression)} → {fields : List String} →
    RenamedMembers [(s.parameter, p')] members members' →
    upToKind ((s.withParameter p').bindMembers fields members') =
      upToKind (s.bindMembers fields members)
  | [], _, _, h => by
    cases h
    rfl
  | (name, e) :: rest, _, _, h => by
    cases h with
    | cons _ he hrest =>
      rw [bindMembers, bindMembers]
      refine upToKind_bind_congr (upToKind_bind e he) fun _ => ?_
      exact upToKind_bind_congr (upToKind_bindMembers rest hrest) fun _ => rfl

end

/-- All errors of the computation say that something is not supported. -/
def FailsUnsupported {α : Type} (x : Except Error α) : Prop :=
  ∀ e, x = .error e → e.kind = .unsupportedExpression

theorem failsUnsupported_ok {α : Type} (a : α) : FailsUnsupported (.ok a) := nofun

theorem failsUnsupported_error {α : Type} (cause : Error.Unsupported) :
    FailsUnsupported (.error (.unsupported cause) : Except Error α) := by
  rintro e ⟨⟩
  rfl

theorem FailsUnsupported.bind {α β : Type} {x : Except Error α} {f : α → Except Error β}
    (h : FailsUnsupported x) (hf : ∀ a, FailsUnsupported (f a)) : FailsUnsupported (x >>= f) := by
  intro e he
  rcases bind_eq_error.1 he with hx | ⟨a, -, ha⟩
  · exact h e hx
  · exact hf a e ha

mutual

theorem failsUnsupported_bind : (e : Expression) → (fields : List String) →
    FailsUnsupported (s.bind fields e)
  | .constant _, _ | .hitField _, _ => failsUnsupported_ok _
  | .source _, _ | .lambda _ _, _ => failsUnsupported_error _
  | .parameter x, fields => by
    rw [bind, bindParameter]
    split_ifs
    · exact failsUnsupported_ok _
    · exact failsUnsupported_error _
  | .member target last, fields => by
    rw [bind]
    split_ifs
    · exact (failsUnsupported_bind target fields).bind fun _ => failsUnsupported_ok _
    · unfold bindField
      split
      · exact failsUnsupported_ok _
      · exact failsUnsupported_error _
  | .binary op left right, fields => by
    rw [bind]
    refine (failsUnsupported_bind left fields).bind fun l => ?_
    exact (failsUnsupported_bind right l.2).bind fun _ => failsUnsupported_ok _
  | .unary op operand, fields => by
    rw [bind]
    exact (failsUnsupported_bind operand fields).bind fun _ => failsUnsupported_ok _
  | .call method args, fields => by
    rw [bind]
    exact (failsUnsupported_bindArgs args fields).bind fun _ => failsUnsupported_ok _
  | .construct members, fields => by
    rw [bind]
    exact (failsUnsupported_bindMembers members fields).bind fun _ => failsUnsupported_ok _

theorem failsUnsupported_bindArgs : (args : List Expression) → (fields : List String) →
    FailsUnsupported (s.bindArgs fields args)
  | [], _ => failsUnsupported_ok _
  | e :: rest, fields => by
    rw [bindArgs]
    refine (failsUnsupported_bind e fields).bind fun x => ?_
    exact (failsUnsupported_bindArgs rest x.2).bind fun _ => failsUnsupported_ok _

theorem failsUnsupported_bindMembers : (members : List (String × Expression)) →
    (fields : List String) → FailsUnsupported (s.bindMembers fields members)
  | [], _ => failsUnsupported_ok _
  | (name, e) :: rest, fields => by
    rw [bindMembers]
    refine (failsUnsupported_bind e fields).bind fun x => ?_
    exact (failsUnsupported_bindMembers rest x.2).bind fun _ => failsUnsupported_ok _

end

mutual

/-- Where an expression can be bound, it uses the document as its renamed form does. -/
theorem usesDocument_renamed : (e : Expression) → {e' : Expression} →
    {fields : List String} → {bound : ProjectionNode × List String} →
    Renamed [(p, p')] e e' → s.bind fields e = .ok bound → e'.usesDocument p' = e.usesDocument p
  | .constant _, _, _, _, h, _ | .hitField _, _, _, _, h, _ => by
    cases h
    rfl
  | .source _, _, _, _, _, hbind | .lambda _ _, _, _, _, _, hbind => by cases hbind
  | .parameter x, _, _, _, h, _ => by
    cases h with
    | parameter hbinder =>
      obtain ⟨rfl, rfl⟩ := sameBinder_singleton hbinder
      simp [usesDocument]
  | .member target last, _, _, _, h, hbind => by
    cases h with
    | member _ htarget =>
      rcases (sameHead_renamed _ _ htarget).both_parameters with ⟨x, y, rfl, rfl⟩ | ⟨hne, hne'⟩
      · rfl
      · rw [bind] at hbind
        split_ifs at hbind
        · obtain ⟨_, hbound, -⟩ := bind_eq_ok.1 hbind
          rw [usesDocument_member hne, usesDocument_member hne']
          exact usesDocument_renamed target htarget hbound
        · unfold bindField at hbind
          split at hbind
          · rename_i hpath
            have hpath' := (memberPath?_renamed (.member last htarget)).trans hpath
            rw [usesDocument_of_memberPath? hpath, usesDocument_of_memberPath? hpath']
          · cases hbind
  | .binary op left right, _, _, _, h, hbind => by
    cases h with
    | binary _ hleft hright =>
      rw [bind] at hbind
      obtain ⟨l, hl, hbind⟩ := bind_eq_ok.1 hbind
      obtain ⟨r, hr, -⟩ := bind_eq_ok.1 hbind
      rw [usesDocument, usesDocument, usesDocument_renamed left hleft hl,
        usesDocument_renamed right hright hr]
  | .unary op operand, _, _, _, h, hbind => by
    cases h with
    | unary _ hoperand =>
      rw [bind] at hbind
      obtain ⟨_, hbound, -⟩ := bind_eq_ok.1 hbind
      rw [usesDocument, usesDocument, usesDocument_renamed operand hoperand hbound]
  | .call method args, _, _, _, h, hbind => by
    cases h with
    | call _ hargs =>
      rw [bind] at hbind
      obtain ⟨_, hbound, -⟩ := bind_eq_ok.1 hbind
      rw [usesDocument, usesDocument, argsUseDocument_renamed args hargs hbound]
  | .construct members, _, _, _, h, hbind => by
    cases h with
    | construct hmembers =>
      rw [bind] at hbind
      obtain ⟨_, hbound, -⟩ := bind_eq_ok.1 hbind
      rw [usesDocument, usesDocument, membersUseDocument_renamed members hmembers hbound]

theorem argsUseDocument_renamed : (args : List Expression) →
    {args' : List Expression} → {fields : List String} →
    {bound : List ProjectionNode × List String} → RenamedArgs [(p, p')] args args' →
    s.bindArgs fields args = .ok bound → argsUseDocument p' args' = argsUseDocument p args
  | [], _, _, _, h, _ => by
    cases h
    rfl
  | e :: rest, _, _, _, h, hbind => by
    cases h with
    | cons he hrest =>
      rw [bindArgs] at hbind
      obtain ⟨x, hx, hbind⟩ := bind_eq_ok.1 hbind
      obtain ⟨xs, hxs, -⟩ := bind_eq_ok.1 hbind
      rw [argsUseDocument, argsUseDocument, usesDocument_renamed e he hx,
        argsUseDocument_renamed rest hrest hxs]

theorem membersUseDocument_renamed : (members : List (String × Expression)) →
    {members' : List (String × Expression)} → {fields : List String} →
    {bound : List (String × ProjectionNode) × List String} →
    RenamedMembers [(p, p')] members members' → s.bindMembers fields members = .ok bound →
    membersUseDocument p' members' = membersUseDocument p members
  | [], _, _, _, h, _ => by
    cases h
    rfl
  | (name, e) :: rest, _, _, _, h, hbind => by
    cases h with
    | cons _ he hrest =>
      rw [bindMembers] at hbind
      obtain ⟨x, hx, hbind⟩ := bind_eq_ok.1 hbind
      obtain ⟨xs, hxs, -⟩ := bind_eq_ok.1 hbind
      rw [membersUseDocument, membersUseDocument, usesDocument_renamed e he hx,
        membersUseDocument_renamed rest hrest hxs]

end

/-- An expression that uses the document otherwise once it is renamed has no projection. -/
theorem upToKind_bind_of_usesDocument_ne (h : Renamed [(s.parameter, p')] e e')
    (huses : e'.usesDocument p' ≠ e.usesDocument s.parameter) :
    upToKind (s.bind fields e) = .error .unsupportedExpression := by
  cases hbind : s.bind fields e with
  | ok bound => exact absurd (usesDocument_renamed e h hbind) huses
  | error err => rw [upToKind_error, failsUnsupported_bind e fields err hbind]

theorem upToKind_ofLambda {x y : String} {documentPrefix : Option String}
    (h : Renamed [(x, y)] e e') :
    upToKind ((ofLambda m pathPrefix documentPrefix y e').bind [] e') =
      upToKind ((ofLambda m pathPrefix documentPrefix x e).bind [] e) := by
  have hrenamed : ∀ whole, upToKind (bind ⟨m, pathPrefix, y, whole, documentPrefix⟩ [] e') =
      upToKind (bind ⟨m, pathPrefix, x, whole, documentPrefix⟩ [] e) :=
    fun whole => upToKind_bind (s := ⟨m, pathPrefix, x, whole, documentPrefix⟩) e h
  rw [ofLambda, ofLambda, hrenamed]
  by_cases huses : e'.usesDocument y = e.usesDocument x
  · rw [huses]
  · rw [upToKind_bind_of_usesDocument_ne h huses, upToKind_bind_of_usesDocument_ne h huses]

end Selection

theorem Projection.upToKind_ofSelector {documentPrefix : Option String} (h : Renamed [] e e') :
    upToKind (ofSelector m pathPrefix documentPrefix e') =
      upToKind (ofSelector m pathPrefix documentPrefix e) := by
  rw [ofSelector, ofSelector]
  rcases lambda?_renamed h with ⟨hnone, hnone'⟩ | ⟨x, y, body, body', rfl, rfl, hbody⟩
  · rw [hnone, hnone']
    rfl
  · exact upToKind_bind_congr (Selection.upToKind_ofLambda hbody) fun _ => rfl


/-! ### Groups -/

namespace Grouping

variable {g : Grouping} {a : Aggregates} {p' : String}

def withParameter (g : Grouping) (p : String) : Grouping := { g with parameter := p }

theorem isGroup_renamed (h : Renamed [(g.parameter, p')] e e') :
    (g.withParameter p').isGroup e' = g.isGroup e := by
  cases h with
  | parameter hbinder =>
    obtain ⟨rfl, rfl⟩ := sameBinder_singleton hbinder
    simp [isGroup, withParameter]
  | _ => rfl

theorem upToKind_bindCount (h : Renamed around e e') :
    upToKind ((g.withParameter p').bindCount a e').result = upToKind (g.bindCount a e).result := by
  refine Traced.upToKind_bind_congr (upToKind_lowerLambda h) fun lowered => ?_
  split_ifs <;> rfl

theorem upToKind_bindStatistic {s : Statistic} (h : Renamed around e e') :
    upToKind ((g.withParameter p').bindStatistic a s e') = upToKind (g.bindStatistic a s e) := by
  rw [bindStatistic, bindStatistic, withParameter]
  rcases lambda?_renamed h with ⟨hnone, hnone'⟩ | ⟨x, y, body, body', rfl, rfl, hbody⟩
  · rw [hnone, hnone']
    rfl
  · simp only [lambda?, memberPath?_renamed hbody]
    cases body.memberPath? g.mapping g.pathPrefix <;> rfl

theorem upToKind_bindAggregate {method : String} (h : RenamedArgs around args args') :
    upToKind ((g.withParameter p').bindAggregate a method args').result =
      upToKind (g.bindAggregate a method args).result := by
  unfold bindAggregate
  cases Statistic.ofMethod? method with
  | none => rfl
  | some s =>
    obtain _ | ⟨he, _ | ⟨he', hrest⟩⟩ := h
    · cases s <;> rfl
    · cases s with
      | count => exact upToKind_bindCount he
      | _ => exact upToKind_bindStatistic he
    · cases s <;> rfl

mutual

theorem upToKind_bind : (e : Expression) → {e' : Expression} → {a : Aggregates} →
    Renamed [(g.parameter, p')] e e' →
    upToKind ((g.withParameter p').bind a e').result = upToKind (g.bind a e).result
  | .constant _, _, _, h | .hitField _, _, _, h | .source _, _, _, h | .lambda _ _, _, _, h
  | .parameter _, _, _, h => by
    cases h
    rfl
  | .member target last, _, _, h => by
    cases h with
    | member _ htarget =>
      rw [bind, bind, isGroup_renamed htarget]
      split_ifs <;> rfl
  | .binary op left right, _, _, h => by
    cases h with
    | binary _ hleft hright =>
      rw [bind, bind]
      refine Traced.upToKind_bind_congr (upToKind_bind left hleft) fun l => ?_
      exact Traced.upToKind_bind_congr (upToKind_bind right hright) fun _ => rfl
  | .unary op operand, _, _, h => by
    cases h with
    | unary _ hoperand =>
      rw [bind, bind]
      exact Traced.upToKind_bind_congr (upToKind_bind operand hoperand) fun _ => rfl
  | .call method args, _, _, h => by
    cases h with
    | call _ hargs =>
      cases hargs with
      | nil => rfl
      | cons he hrest =>
        rw [bind, bind, isGroup_renamed he]
        split_ifs
        · exact upToKind_bindAggregate hrest
        · refine Traced.upToKind_bind_congr (upToKind_bind _ he) fun x => ?_
          exact Traced.upToKind_bind_congr (upToKind_bindArgs _ hrest) fun _ => rfl
  | .construct members, _, _, h => by
    cases h with
    | construct hmembers =>
      rw [bind, bind]
      exact Traced.upToKind_bind_congr (upToKind_bindMembers members hmembers) fun _ => rfl

theorem upToKind_bindArgs : (args : List Expression) → {args' : List Expression} →
    {a : Aggregates} → RenamedArgs [(g.parameter, p')] args args' →
    upToKind ((g.withParameter p').bindArgs a args').result = upToKind (g.bindArgs a args).result
  | [], _, _, h => by
    cases h
    rfl
  | e :: rest, _, _, h => by
    cases h with
    | cons he hrest =>
      rw [bindArgs, bindArgs]
      refine Traced.upToKind_bind_congr (upToKind_bind e he) fun _ => ?_
      exact Traced.upToKind_bind_congr (upToKind_bindArgs rest hrest) fun _ => rfl

theorem upToKind_bindMembers : (members : List (String × Expression)) →
    {members' : List (String × Expression)} → {a : Aggregates} →
    RenamedMembers [(g.parameter, p')] members members' →
    upToKind ((g.withParameter p').bindMembers a members').result =
      upToKind (g.bindMembers a members).result
  | [], _, _, h => by
    cases h
    rfl
  | (name, e) :: rest, _, _, h => by
    cases h with
    | cons _ he hrest =>
      rw [bindMembers, bindMembers]
      refine Traced.upToKind_bind_congr (upToKind_bind e he) fun _ => ?_
      exact Traced.upToKind_bind_congr (upToKind_bindMembers rest hrest) fun _ => rfl

end

end Grouping

theorem GroupKey.upToKind_ofSelector (h : Renamed around e e') :
    upToKind (ofSelector m pathPrefix e') = upToKind (ofSelector m pathPrefix e) := by
  rw [ofSelector, ofSelector]
  rcases lambda?_renamed h with ⟨hnone, hnone'⟩ | ⟨x, y, body, body', rfl, rfl, hbody⟩
  · rw [hnone, hnone']
    rfl
  · simp only [lambda?, memberPath?_renamed hbody, constant?_renamed hbody]
    cases body.constant? <;> cases body.memberPath? m pathPrefix <;> rfl

theorem AggregateQuery.upToKind_aggregation {q q' : AggregateQuery} (h : QueryRenamed q q') :
    upToKind (q'.aggregation m pathPrefix).result =
      upToKind (q.aggregation m pathPrefix).result := by
  rw [aggregation, aggregation]
  refine Traced.upToKind_bind_congr (GroupKey.upToKind_ofSelector h.keySelector) fun key => ?_
  rcases lambda?_renamed h.selector with ⟨hnone, hnone'⟩ | ⟨x, y, body, body', hx, hy, hbody⟩
  · rw [hnone, hnone']
    rfl
  · rw [hx, hy, h.size]
    exact Traced.upToKind_bind_congr
      (Grouping.upToKind_bind (g := ⟨m, pathPrefix, x⟩) body hbody) fun _ => rfl


/-! ### Operators -/

/-- Operators that differ only in the names of the parameters of their lambdas. -/
inductive Operator.Renamed : Operator → Operator → Prop
  | same (op : Operator) : Renamed op op
  | filterBy {e e' : Expression} (h : Expression.Renamed [] e e') :
    Renamed (.filterBy e) (.filterBy e')
  | scoreBy {e e' : Expression} (h : Expression.Renamed [] e e') :
    Renamed (.scoreBy e) (.scoreBy e')
  | sortBy {e e' : Expression} (ascending : Bool) (h : Expression.Renamed [] e e') :
    Renamed (.sortBy e ascending) (.sortBy e' ascending)
  | select {e e' : Expression} (h : Expression.Renamed [] e e') : Renamed (.select e) (.select e')
  | terminal {e e' : Expression} (method : String) (t : Terminal)
    (h : Expression.Renamed [] e e') :
    Renamed (.terminal method t (some e)) (.terminal method t (some e'))

namespace Operator

theorem agree_countArgument {method : String} (make : Nat → Operator)
    (h : Expression.Renamed around e e') :
    Agree Renamed ((countArgument method e).map make) ((countArgument method e').map make) := by
  rw [countArgument, countArgument, constant?_renamed h]
  cases e.constant?.bind Json.nat64? with
  | none => exact .error _ _
  | some n => exact .ok (.same _)

theorem agree_ofUnaryCall {method : String} (h : Expression.Renamed [] e e') :
    Agree Renamed (ofUnaryCall method e) (ofUnaryCall method e') := by
  unfold ofUnaryCall
  split
  · exact .ok (.filterBy h)
  · exact .ok (.scoreBy h)
  · rw [constant?_renamed h]
    cases e.constant?.bind Json.text? with
    | none => exact .error _ _
    | some text => exact .ok (.same _)
  · exact .ok (.select h)
  · exact agree_countArgument .skip h
  · exact agree_countArgument .take h
  · exact .error _ _
  · cases sortDirection? method with
    | some ascending => exact .ok (.sortBy ascending h)
    | none =>
      cases terminal? method with
      | some t => exact .ok (.terminal method t h)
      | none => exact .error _ _

theorem agree_ofCall {method : String} (h : RenamedArgs [] args args') :
    Agree Renamed (ofCall method args) (ofCall method args') := by
  obtain _ | ⟨he, _ | ⟨he', hrest⟩⟩ := h
  · exact Agree.refl Renamed.same _
  · exact agree_ofUnaryCall he
  · simp only [ofCall]
    split_ifs <;> exact .error _ _

end Operator

theorem upToKind_documentType_renamed {root root' : ChainRoot} (h : RootRenamed root root') :
    upToKind root'.documentType = upToKind root.documentType := by
  cases h <;> rfl

namespace Draft

variable {scope : Scope} {d : Draft}

theorem upToKind_filterBy (h : Expression.Renamed [] e e') :
    upToKind (d.filterBy scope e').result = upToKind (d.filterBy scope e).result :=
  Traced.upToKind_bind_congr (upToKind_lowerLambda h) fun _ => rfl

theorem upToKind_scoreBy (h : Expression.Renamed [] e e') :
    upToKind (d.scoreBy scope e').result = upToKind (d.scoreBy scope e).result :=
  Traced.upToKind_bind_congr (upToKind_lowerLambda h) fun _ => rfl

theorem upToKind_sortBy {ascending : Bool} (h : Expression.Renamed [] e e') :
    upToKind (d.sortBy scope e' ascending) = upToKind (d.sortBy scope e ascending) := by
  rw [sortBy, sortBy]
  rcases lambda?_renamed h with ⟨hnone, hnone'⟩ | ⟨x, y, body, body', rfl, rfl, hbody⟩
  · rw [hnone, hnone']
    rfl
  · simp only [lambda?, field?_renamed hbody]
    cases body.field? scope.mapping scope.pathPrefix <;> rfl

theorem upToKind_select (h : Expression.Renamed [] e e') :
    upToKind (d.select scope e') = upToKind (d.select scope e) := by
  rw [select, select]
  split_ifs
  · rfl
  · exact upToKind_bind_congr (Projection.upToKind_ofSelector h) fun _ => rfl

theorem upToKind_apply {op op' : Operator} (h : op.Renamed op') :
    upToKind (d.apply scope op').result = upToKind (d.apply scope op).result := by
  cases h with
  | same => rfl
  | filterBy h => exact upToKind_filterBy h
  | scoreBy h => exact upToKind_scoreBy h
  | sortBy ascending h => exact upToKind_sortBy h
  | select h => exact upToKind_select h
  | terminal method t h =>
    rw [apply, apply]
    exact Traced.upToKind_bind_congr rfl fun d => upToKind_filterBy h

theorem stepAlike_renamed (step step' : String × List Expression) (h : StepRenamed step step') :
    StepAlike scope step step' := by
  intro d
  rw [applyStep, applyStep, Traced.result_bind, Traced.result_bind, ← h.1]
  symm
  exact (Operator.agree_ofCall h.2).upToKind_bind (fun _ _ => rfl)
    fun _ _ hop => (upToKind_apply hop).symm

theorem upToKind_ofChain (h : Renamed [] e e') :
    upToKind (ofChain scope e'.chain).result = upToKind (ofChain scope e.chain).result := by
  obtain ⟨hsteps, hroot⟩ := chain_renamed h
  exact upToKind_ofChain_congr (hsteps.imp stepAlike_renamed) (upToKind_documentType_renamed hroot)

end Draft

namespace Expression

theorem upToKind_planFolded (h : Renamed [] e e') :
    upToKind (e'.planFolded m pathPrefix).result = upToKind (e.planFolded m pathPrefix).result := by
  rw [planFolded, planFolded, chainSource?_renamed h]
  have hquery := aggregateQuery?_renamed h
  generalize e.aggregateQuery? = query at hquery ⊢
  generalize e'.aggregateQuery? = query' at hquery ⊢
  cases hquery with
  | none => exact Traced.upToKind_bind_congr (Draft.upToKind_ofChain h) fun _ => rfl
  | some hparts =>
    refine Traced.upToKind_bind_congr (AggregateQuery.upToKind_aggregation hparts) fun _ => ?_
    exact Traced.upToKind_bind_congr (Draft.upToKind_ofChain hparts.source) fun _ => rfl

/-- **Names of parameters do not matter.** Queries that differ only in the names of parameters, all
of them bound, have the same plan, or both cannot be planned for errors of one kind. -/
theorem plan_renamed (h : Renamed [] e e') :
    upToKind (e'.plan m pathPrefix).result = upToKind (e.plan m pathPrefix).result := by
  rw [plan, plan, Traced.result_finish, Traced.result_finish]
  refine Traced.upToKind_bind_congr rfl fun _ => ?_
  rw [Traced.result_bind, Traced.result_bind]
  symm
  exact (agree_fold e h).upToKind_bind (fun _ _ => rfl) fun _ _ h => (upToKind_planFolded h).symm

end Expression

namespace Film

/-- How many films of each year are from after 1970; the names of the parameters may be chosen. -/
def newByYear (film group counted : String) : Expression :=
  ((Expression.source documents).groupBy
    (.lambda film ((Expression.parameter film).member year))).select
      (.lambda group (.construct [("year", (Expression.parameter group).key),
        ("new", (Expression.parameter group).countWhere (.lambda counted
          (((Expression.parameter counted).member year).greaterThan (.constant (.int 1970)))))]))

/-- What is counted may even have the name of the group. -/
theorem renamed_newByYear : Renamed [] (newByYear "f" "g" "h") (newByYear "x" "x" "x") := by
  have hsource : Renamed [] (.source documents) (.source documents) := .source _
  have hkey : Renamed [] (.lambda "f" ((Expression.parameter "f").member year))
      (.lambda "x" ((Expression.parameter "x").member year)) :=
    .lambda (.member year (.parameter rfl))
  have hgroup : Renamed [("g", "x")] (.parameter "g") (.parameter "x") := .parameter rfl
  have hcounted : Renamed [("h", "x"), ("g", "x")] (.parameter "h") (.parameter "x") :=
    .parameter rfl
  refine .call "select" (.cons (.call "group_by" (.cons hsource (.cons hkey .nil))) (.cons ?_ .nil))
  refine .lambda (.construct (.cons "year" (.member _ hgroup) (.cons "new" ?_ .nil)))
  refine .call "count" (.cons hgroup (.cons (.lambda ?_) .nil))
  exact .binary .greaterThan (.member year hcounted) (.constant _)

end Film

namespace Expression

theorem plan_renamed_film :
    ∃ t, Renamed [] (Film.newByYear "f" "g" "h") (Film.newByYear "x" "x" "x") ∧
      ((Film.newByYear "f" "g" "h").plan Film.mapping "").result = .ok t ∧
      ((Film.newByYear "x" "x" "x").plan Film.mapping "").result = .ok t := by
  have hplans : ((Film.newByYear "f" "g" "h").plan Film.mapping "").result.toOption.isSome =
      true := by decide
  obtain ⟨t, ht⟩ := Option.isSome_iff_exists.1 hplans
  have hplan := toOption_eq_some.1 ht
  have hsame : upToKind ((Film.newByYear "x" "x" "x").plan Film.mapping "").result =
      upToKind ((Film.newByYear "f" "g" "h").plan Film.mapping "").result :=
    plan_renamed Film.renamed_newByYear
  rw [hplan, upToKind_ok] at hsame
  exact ⟨t, Film.renamed_newByYear, hplan, mapError_eq_ok.1 hsame⟩

end Expression

end SearchQuery
