import SearchQuery.Plan.Aggregate
import SearchQuery.Proofs.Expression.Folding
import SearchQuery.Proofs.Expression.Integers

/-!
# Expressions with the same heads

Constants, fields and groupings are recognised from the head of an expression downwards. Two
expressions are compared here that are related in some way: as long as the relation keeps their
heads, they are recognised alike, whatever else it changes.

* `SameHead`: the heads are the same, but for names of parameters and for which comparison it is.
* `foldMember_related` to `foldConstruct_related`: compounds of related parts are folded alike.
* `memberPath?_of_sameHead`, `field?_of_sameHead`: both stand for the same field.
* `KeepsCalls.rel_aggregateQuery?`: both are aggregate queries with related parts, or neither is.
-/

namespace SearchQuery

namespace Expression

/-- The heads of two expressions are the same. Names of parameters may differ, and so may two
comparisons. What members and operators stand on is related. -/
inductive SameHead (R : Expression → Expression → Prop) : Expression → Expression → Prop
  | constant (v : Json) : SameHead R (.constant v) (.constant v)
  | source (type : DocumentType) : SameHead R (.source type) (.source type)
  | parameter (x y : String) : SameHead R (.parameter x) (.parameter y)
  | hitField (field : HitField) : SameHead R (.hitField field) (.hitField field)
  | member {target target'} (m : Member) (h : R target target') :
    SameHead R (.member target m) (.member target' m)
  | unary {operand operand'} (op : UnaryOperator) (h : R operand operand') :
    SameHead R (.unary op operand) (.unary op operand')
  | binary {left left' right right'} (op : BinaryOperator) (hleft : R left left')
    (hright : R right right') : SameHead R (.binary op left right) (.binary op left' right')
  | comparison {op op' left left' right right'} (hop : op.isComparison = true)
    (hop' : op'.isComparison = true) : SameHead R (.binary op left right) (.binary op' left' right')
  | call (method : String) (args args' : List Expression) :
    SameHead R (.call method args) (.call method args')
  | lambda (x y : String) (body body' : Expression) : SameHead R (.lambda x body) (.lambda y body')
  | construct (members members' : List (String × Expression)) :
    SameHead R (.construct members) (.construct members')

variable {R : Expression → Expression → Prop}
  {e e' target target' left left' right right' operand operand' : Expression}
  {args args' : List Expression} {members members' : List (String × Expression)}

theorem SameHead.constant?_eq (h : SameHead R e e') : e'.constant? = e.constant? := by
  cases h <;> rfl

theorem SameHead.both_parameters (h : SameHead R e e') :
    (∃ x y, e = .parameter x ∧ e' = .parameter y) ∨
      (∀ x, e ≠ .parameter x) ∧ ∀ y, e' ≠ .parameter y := by
  cases h with
  | parameter x y => exact .inl ⟨x, y, rfl, rfl⟩
  | _ => exact .inr ⟨nofun, nofun⟩

/-! ### Folding -/

section Folding

variable (hR : ∀ e e', R e e' → SameHead R e e')

include hR

theorem mapM_constant?_of_sameHead (h : List.Forall₂ R args args') :
    args'.mapM constant? = args.mapM constant? := by
  induction h with
  | nil => rfl
  | cons he _ ih => rw [List.mapM_cons, List.mapM_cons, (hR _ _ he).constant?_eq, ih]

theorem mapM_constantMember_of_sameHead
    (h : List.Forall₂ (fun a b => a.1 = b.1 ∧ R a.2 b.2) members members') :
    (members'.mapM fun entry => entry.2.constant?.map (entry.1, ·)) =
      members.mapM fun entry => entry.2.constant?.map (entry.1, ·) := by
  induction h with
  | nil => rfl
  | cons he _ ih => rw [List.mapM_cons, List.mapM_cons, (hR _ _ he.2).constant?_eq, he.1, ih]

variable (hconstant : ∀ v, R (.constant v) (.constant v))

include hconstant

theorem foldMember_related {m : Member} (h : R target target')
    (hself : R (.member target m) (.member target' m)) :
    R (foldMember target m) (foldMember target' m) := by
  have htarget := (hR _ _ h).constant?_eq
  cases ht : target.constant? with
  | none =>
    rw [foldMember_eq_self ht, foldMember_eq_self (htarget.trans ht)]
    exact hself
  | some v =>
    rw [constant?_eq_some.1 ht, constant?_eq_some.1 (htarget.trans ht)]
    exact hconstant _

theorem agree_foldBinary {op : BinaryOperator} (hleft : R left left') (hright : R right right')
    (hself : R (.binary op left right) (.binary op left' right')) :
    Agree R (foldBinary op left right) (foldBinary op left' right') := by
  have hleft := (hR _ _ hleft).constant?_eq
  have hright := (hR _ _ hright).constant?_eq
  cases hl : left.constant? with
  | none =>
    rw [foldBinary_eq_self hl, foldBinary_eq_self (hleft.trans hl)]
    exact .ok hself
  | some l =>
    cases hr : right.constant? with
    | none =>
      rw [foldBinary_eq_self_right hr, foldBinary_eq_self_right (hright.trans hr)]
      exact .ok hself
    | some r =>
      rw [constant?_eq_some.1 hl, constant?_eq_some.1 hr, constant?_eq_some.1 (hleft.trans hl),
        constant?_eq_some.1 (hright.trans hr), foldBinary]
      cases op.apply l r with
      | error fault => exact .error fault fault
      | ok v => exact .ok (hconstant v)

theorem agree_foldUnary {op : UnaryOperator} (h : R operand operand')
    (hself : R (.unary op operand) (.unary op operand')) :
    Agree R (foldUnary op operand) (foldUnary op operand') := by
  have hoperand := (hR _ _ h).constant?_eq
  cases ho : operand.constant? with
  | none =>
    rw [foldUnary_eq_self ho, foldUnary_eq_self (hoperand.trans ho)]
    exact .ok hself
  | some o =>
    rw [constant?_eq_some.1 ho, constant?_eq_some.1 (hoperand.trans ho), foldUnary]
    cases op.apply o with
    | error fault => exact .error fault fault
    | ok v => exact .ok (hconstant v)

theorem agree_foldCall {method : String} (hargs : List.Forall₂ R args args')
    (hself : R (.call method args) (.call method args')) :
    Agree R (foldCall method args) (foldCall method args') := by
  unfold foldCall
  rw [mapM_constant?_of_sameHead hR hargs]
  cases args.mapM constant? with
  | none => exact .ok hself
  | some values =>
    have happly : Agree Eq (applyMethod method values) (applyMethod method values) :=
      Agree.refl (fun _ => rfl) _
    refine happly.bind fun outcome outcome' houtcome => ?_
    subst houtcome
    cases outcome with
    | none => exact .ok hself
    | some v => exact .ok (hconstant v)

theorem foldConstruct_related
    (hmembers : List.Forall₂ (fun a b => a.1 = b.1 ∧ R a.2 b.2) members members')
    (hself : R (.construct members) (.construct members')) :
    R (foldConstruct members) (foldConstruct members') := by
  unfold foldConstruct
  rw [mapM_constantMember_of_sameHead hR hmembers]
  split
  · exact hconstant _
  · exact hself

end Folding

/-! ### Fields -/

section Fields

variable {m : FieldMapping} {pathPrefix : String} (hR : ∀ e e', R e e' → SameHead R e e')

include hR

theorem memberPath?_of_sameHead (h : R e e') :
    e'.memberPath? m pathPrefix = e.memberPath? m pathPrefix := by
  induction e using memberPath?.induct generalizing e' with
  | case1 operand ih =>
    cases hR _ _ h with
    | unary _ hoperand => rw [memberPath?, memberPath?, ih hoperand]
  | case2 x last =>
    cases hR _ _ h with
    | member _ htarget =>
      cases hR _ _ htarget
      rfl
  | case3 target last hne ih =>
    cases hR _ _ h with
    | member _ htarget =>
      rcases (hR _ _ htarget).both_parameters with ⟨x, y, rfl, -⟩ | ⟨hne, hne'⟩
      · exact absurd rfl (hne x)
      · rw [memberPath?_member hne, memberPath?_member hne', ih htarget]
  | case4 e hconvert hparameter hmember =>
    cases hR _ _ h with
    | member _ _ => exact absurd rfl (hmember _ _)
    | unary op _ =>
      cases op with
      | convert => exact absurd rfl (hconvert _)
      | not | negate => rfl
    | _ => rfl

theorem field?_of_sameHead (h : R e e') : e'.field? m pathPrefix = e.field? m pathPrefix := by
  induction e using field?.induct generalizing e' with
  | case1 field =>
    cases hR _ _ h
    rfl
  | case2 operand ih =>
    cases hR _ _ h with
    | unary _ hoperand => rw [field?, field?, ih hoperand]
  | case3 e hfield hconvert =>
    have hpath : e'.memberPath? m pathPrefix = e.memberPath? m pathPrefix :=
      memberPath?_of_sameHead hR h
    cases hR _ _ h with
    | hitField field => exact absurd rfl (hfield field)
    | member last htarget =>
      rw [field?_member, field?_member]
      exact hpath
    | unary op _ =>
      cases op with
      | convert => exact absurd rfl (hconvert _)
      | not | negate => rfl
    | _ => rfl

theorem booleanField?_of_sameHead (h : R e e') :
    e'.booleanField? m pathPrefix = e.booleanField? m pathPrefix := by
  rw [booleanField?, booleanField?, field?_of_sameHead hR h]

end Fields

/-! ### Groupings -/

/-- The methods that take a predicate. -/
def predicateMethods : List String :=
  ["where", "query", "first", "first_or_default", "single", "single_or_default", "count",
    "long_count"]

/-- The relation keeps heads, and it holds of the arguments of calls that take no predicate. -/
structure KeepsCalls (R : Expression → Expression → Prop) : Prop where
  head (e e' : Expression) (h : R e e') : SameHead R e e'
  args {method : String} {args args' : List Expression} (hmethod : method ∉ predicateMethods)
    (h : R (.call method args) (.call method args')) : List.Forall₂ R args args'

namespace KeepsCalls

variable {method : String} {a b : Expression} (hR : KeepsCalls R)

include hR

theorem exists_call (h : R (.call method args) e') : ∃ args', e' = .call method args' := by
  cases hR.head _ _ h
  exact ⟨_, rfl⟩

theorem exists_call_of (h : R e (.call method args')) : ∃ args, e = .call method args := by
  cases hR.head _ _ h
  exact ⟨_, rfl⟩

theorem pair (hmethod : method ∉ predicateMethods) (h : R (.call method [a, b]) e') :
    ∃ a' b', e' = .call method [a', b'] ∧ R a a' ∧ R b b' := by
  obtain ⟨args', rfl⟩ := hR.exists_call h
  obtain _ | ⟨ha, _ | ⟨hb, _ | _⟩⟩ := hR.args hmethod h
  exact ⟨_, _, rfl, ha, hb⟩

theorem pair_of (hmethod : method ∉ predicateMethods) (h : R e (.call method [a, b])) :
    ∃ a' b', e = .call method [a', b'] ∧ R a' a ∧ R b' b := by
  obtain ⟨args, rfl⟩ := hR.exists_call_of h
  obtain _ | ⟨ha, _ | ⟨hb, _ | _⟩⟩ := hR.args hmethod h
  exact ⟨_, _, rfl, ha, hb⟩

theorem rel_limitedSelection? (h : R e e') :
    Option.Rel (fun x x' => R x.1 x'.1 ∧ x.2 = x'.2) e.limitedSelection? e'.limitedSelection? := by
  by_cases hlimited : ∃ args n, e = .call "take" [.call "select" args, n]
  · obtain ⟨args, n, rfl⟩ := hlimited
    obtain ⟨_, n', rfl, hselect, hn⟩ := hR.pair (by decide) h
    obtain ⟨args', rfl⟩ := hR.exists_call hselect
    rw [limitedSelection?, limitedSelection?, (hR.head _ _ hn).constant?_eq]
    cases n.constant?.bind Json.nat64? with
    | none => exact .none
    | some count => exact .some ⟨hselect, rfl⟩
  · have hnone : e.limitedSelection? = none := by
      unfold limitedSelection?
      split
      · exact absurd ⟨_, _, rfl⟩ hlimited
      · rfl
    have hnone' : e'.limitedSelection? = none := by
      unfold limitedSelection?
      split
      · obtain ⟨_, n, rfl, hselect, -⟩ := hR.pair_of (by decide) h
        obtain ⟨args, rfl⟩ := hR.exists_call_of hselect
        exact absurd ⟨_, _, rfl⟩ hlimited
      · rfl
    rw [hnone, hnone']
    exact .none

section Parts

variable {Q : AggregateQuery → AggregateQuery → Prop}
  (hQ : ∀ q q' : AggregateQuery, R q.source q'.source → R q.keySelector q'.keySelector →
    R q.selector q'.selector → q.size = q'.size → Q q q')

include hQ

theorem rel_groupSelection? (size : Option Nat) (h : R e e') :
    Option.Rel Q (e.groupSelection? size) (e'.groupSelection? size) := by
  by_cases hgroups : ∃ grouped keySelector selector,
      e = .call "select" [.call "group_by" [grouped, keySelector], selector]
  · obtain ⟨grouped, keySelector, selector, rfl⟩ := hgroups
    obtain ⟨_, selector', rfl, hgrouping, hselector⟩ := hR.pair (by decide) h
    obtain ⟨grouped', keySelector', rfl, hsource, hkeys⟩ := hR.pair (by decide) hgrouping
    exact .some (hQ _ _ hsource hkeys hselector rfl)
  · have hnone : e.groupSelection? size = none := by
      unfold groupSelection?
      split
      · exact absurd ⟨_, _, _, rfl⟩ hgroups
      · rfl
    have hnone' : e'.groupSelection? size = none := by
      unfold groupSelection?
      split
      · obtain ⟨_, selector, rfl, hgrouping, -⟩ := hR.pair_of (by decide) h
        obtain ⟨grouped, keySelector, rfl, -, -⟩ := hR.pair_of (by decide) hgrouping
        exact absurd ⟨_, _, _, rfl⟩ hgroups
      · rfl
    rw [hnone, hnone']
    exact .none

theorem rel_aggregateQuery? (h : R e e') : Option.Rel Q e.aggregateQuery? e'.aggregateQuery? := by
  have hlimited := hR.rel_limitedSelection? h
  rw [aggregateQuery?, aggregateQuery?]
  generalize e.limitedSelection? = limited at hlimited ⊢
  generalize e'.limitedSelection? = limited' at hlimited ⊢
  cases hlimited with
  | none => exact hR.rel_groupSelection? hQ none h
  | some hboth =>
    obtain ⟨hinner, hsize⟩ := hboth
    simp only [← hsize]
    exact hR.rel_groupSelection? hQ _ hinner

end Parts

end KeepsCalls

end Expression

end SearchQuery
