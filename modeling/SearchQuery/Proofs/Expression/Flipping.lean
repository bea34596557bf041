import SearchQuery.Proofs.Expression.Integers
import SearchQuery.Proofs.Expression.Renaming
import SearchQuery.Proofs.Json.Sameness

/-!
# Flipping comparisons

A comparison may be written the other way round, with its operands changed and its operator turned:
`a < b` as `b > a`. Two expressions are compared here that differ so in predicates of a query.

* `compareValues_swap`: the order of two constants turns round with them, whatever their types.
* `BinaryOperator.agree_apply_flipped`: so a flipped comparison of constants has the same value.
* `Flipped`: expressions that differ in flipped comparisons, which stand in predicates only.
* `agree_fold_flipped`: folding succeeds for both and leaves them so, or it fails for both.
* `field?_flipped`, `constant?_flipped`: both stand for the same field and are the same constant.
* `chain_flipped`, `aggregateQuery?_flipped`: they are taken apart alike.
-/

namespace SearchQuery

/-! ### Comparing constants -/

theorem Binary64.cmp_swap (x y : Binary64) : y.cmp x = (x.cmp y).swap := Std.OrientedOrd.eq_swap

/-- The order of two numbers, and of no other values. -/
def compareNumbers (a b : Json) : Option Ordering :=
  match a.int64?, b.int64? with
  | some x, some y => some (compare x y)
  | _, _ =>
    match a.float?, b.float? with
    | some x, some y => some (x.cmp y)
    | _, _ => none

theorem compareNumbers_swap (a b : Json) :
    compareNumbers b a = (compareNumbers a b).map Ordering.swap := by
  have hfloats : (match b.float?, a.float? with | some y, some x => some (y.cmp x) | _, _ => none) =
      (match a.float?, b.float? with
        | some x, some y => some (x.cmp y) | _, _ => none).map Ordering.swap := by
    cases a.float? <;> cases b.float? <;> first | rfl | exact congrArg some (Binary64.cmp_swap _ _)
  unfold compareNumbers
  cases a.int64? <;> cases b.int64? <;>
    first | exact hfloats | exact congrArg some Std.OrientedOrd.eq_swap

/-- Texts and booleans are compared as such, all other pairs as numbers. -/
theorem compareValues_eq_numbers {a b : Json} (htexts : ∀ s t, a = .str s → b ≠ .str t)
    (hbooleans : ∀ x y, a = .bool x → b ≠ .bool y) : compareValues a b = compareNumbers a b := by
  unfold compareValues
  split
  · exact absurd rfl (htexts _ _ rfl)
  · exact absurd rfl (hbooleans _ _ rfl)
  · rfl

/-- The order of two values turns round with them. -/
theorem compareValues_swap (a b : Json) :
    compareValues b a = (compareValues a b).map Ordering.swap := by
  by_cases htexts : ∃ s t, a = .str s ∧ b = .str t
  · obtain ⟨s, t, rfl, rfl⟩ := htexts
    exact congrArg some Std.OrientedOrd.eq_swap
  by_cases hbooleans : ∃ x y, a = .bool x ∧ b = .bool y
  · obtain ⟨x, y, rfl, rfl⟩ := hbooleans
    exact congrArg some Std.OrientedOrd.eq_swap
  rw [compareValues_eq_numbers (fun s t ha hb => htexts ⟨s, t, ha, hb⟩)
      (fun x y ha hb => hbooleans ⟨x, y, ha, hb⟩),
    compareValues_eq_numbers (fun s t hb ha => htexts ⟨t, s, ha, hb⟩)
      (fun x y hb ha => hbooleans ⟨y, x, ha, hb⟩), compareNumbers_swap]

theorem looselyEqual_comm (a b : Json) : looselyEqual b a = looselyEqual a b := by
  rw [looselyEqual, looselyEqual, compareValues_swap a b, Json.same_comm b a]
  cases compareValues a b with
  | none => rfl
  | some order => cases order <;> rfl

namespace BinaryOperator

variable {op : BinaryOperator}

theorem flipped_flipped (op : BinaryOperator) : op.flipped.flipped = op := by
  cases op <;> rfl

theorem isComparison_flipped (op : BinaryOperator) :
    op.flipped.isComparison = op.isComparison := by
  cases op <;> rfl

theorem agree_relational_flipped (hop : op.isRelational = true) (l r : Json) :
    Agree Eq (op.relational l r) (op.flipped.relational r l) := by
  have hholds : ∀ order : Ordering, op.flipped.holdsFor order.swap = op.holdsFor order := by
    intro order
    cases op <;> cases order <;> first | rfl | cases hop
  rw [relational, relational, compareValues_swap l r, Bool.or_comm r.isNull]
  split_ifs
  · exact .ok rfl
  · cases compareValues l r with
    | none => exact .error _ _
    | some order => exact .ok (by rw [hholds])

/-- A comparison of two constants has the same result when it is flipped, or both ways fail. -/
theorem agree_apply_flipped (hop : op.isComparison = true) (l r : Json) :
    Agree Eq (op.apply l r) (op.flipped.apply r l) := by
  cases op with
  | equal => exact .ok (by rw [looselyEqual_comm])
  | notEqual => exact .ok (by rw [looselyEqual_comm])
  | lessThan | lessThanOrEqual | greaterThan | greaterThanOrEqual =>
    exact agree_relational_flipped rfl l r
  | _ => cases hop

end BinaryOperator

namespace Expression

/-! ### Flipped comparisons -/

/-- Where an expression stands: in a predicate of a query or outside of its predicates. -/
inductive Place where
  | query
  | predicate

mutual

/-- The expressions differ in comparisons of predicates that are flipped: their operands have
changed places and the operator is turned round. -/
inductive Flipped : Place → Expression → Expression → Prop
  | constant {place} (v : Json) : Flipped place (.constant v) (.constant v)
  | source {place} (type : DocumentType) : Flipped place (.source type) (.source type)
  | parameter {place} (x : String) : Flipped place (.parameter x) (.parameter x)
  | member {place target target'} (m : Member) (h : Flipped place target target') :
    Flipped place (.member target m) (.member target' m)
  | hitField {place} (field : HitField) : Flipped place (.hitField field) (.hitField field)
  | binary {place left left' right right'} (op : BinaryOperator)
    (hleft : Flipped place left left') (hright : Flipped place right right') :
    Flipped place (.binary op left right) (.binary op left' right')
  | unary {place operand operand'} (op : UnaryOperator) (h : Flipped place operand operand') :
    Flipped place (.unary op operand) (.unary op operand')
  | call {place args args'} (method : String) (h : FlippedArgs place args args') :
    Flipped place (.call method args) (.call method args')
  | lambda {place body body'} (x : String) (h : Flipped place body body') :
    Flipped place (.lambda x body) (.lambda x body')
  | construct {place members members'} (h : FlippedMembers place members members') :
    Flipped place (.construct members) (.construct members')
  | comparison {op left left' right right'} (hop : op.isComparison = true)
    (hleft : Flipped .predicate left left') (hright : Flipped .predicate right right') :
    Flipped .predicate (.binary op left right) (.binary op.flipped right' left')
  | satisfying {method source source' body body'} (x : String) (hmethod : method ∈ predicateMethods)
    (hsource : Flipped .query source source') (hbody : Flipped .predicate body body') :
    Flipped .query (.call method [source, .lambda x body]) (.call method [source', .lambda x body'])

inductive FlippedArgs : Place → List Expression → List Expression → Prop
  | nil {place} : FlippedArgs place [] []
  | cons {place e e' rest rest'} (h : Flipped place e e') (hrest : FlippedArgs place rest rest') :
    FlippedArgs place (e :: rest) (e' :: rest')

inductive FlippedMembers :
    Place → List (String × Expression) → List (String × Expression) → Prop
  | nil {place} : FlippedMembers place [] []
  | cons {place e e' rest rest'} (name : String) (h : Flipped place e e')
    (hrest : FlippedMembers place rest rest') :
    FlippedMembers place ((name, e) :: rest) ((name, e') :: rest')

end

variable {place : Place} {e e' left left' right right' target target' : Expression}
  {args args' : List Expression} {members members' : List (String × Expression)}

mutual

/-- No comparison has to be flipped. -/
theorem Flipped.refl : (e : Expression) → Flipped place e e
  | .constant v => .constant v
  | .source type => .source type
  | .parameter x => .parameter x
  | .hitField field => .hitField field
  | .member target m => .member m (Flipped.refl target)
  | .binary op left right => .binary op (Flipped.refl left) (Flipped.refl right)
  | .unary op operand => .unary op (Flipped.refl operand)
  | .call method args => .call method (FlippedArgs.refl args)
  | .lambda x body => .lambda x (Flipped.refl body)
  | .construct members => .construct (FlippedMembers.refl members)

theorem FlippedArgs.refl : (args : List Expression) → FlippedArgs place args args
  | [] => .nil
  | e :: rest => .cons (Flipped.refl e) (FlippedArgs.refl rest)

theorem FlippedMembers.refl :
    (members : List (String × Expression)) → FlippedMembers place members members
  | [] => .nil
  | (name, e) :: rest => .cons name (Flipped.refl e) (FlippedMembers.refl rest)

end

/-! ### Heads -/

theorem sameHead_flipped (e e' : Expression) (h : Flipped place e e') :
    SameHead (Flipped place) e e' := by
  cases h with
  | constant v => exact .constant v
  | source type => exact .source type
  | parameter x => exact .parameter x x
  | member m h => exact .member m h
  | hitField field => exact .hitField field
  | binary op hleft hright => exact .binary op hleft hright
  | comparison hop _ _ =>
    exact .comparison hop ((BinaryOperator.isComparison_flipped _).trans hop)
  | unary op h => exact .unary op h
  | call method _ => exact .call method _ _
  | satisfying _ _ _ _ => exact .call _ _ _
  | lambda x _ => exact .lambda x x _ _
  | construct _ => exact .construct _ _

theorem constant?_flipped (h : Flipped place e e') : e'.constant? = e.constant? :=
  (sameHead_flipped _ _ h).constant?_eq

theorem forall₂_flippedArgs (h : FlippedArgs place args args') :
    List.Forall₂ (Flipped place) args args' := by
  induction args generalizing args' with
  | nil =>
    cases h
    exact .nil
  | cons e rest ih =>
    cases h with
    | cons he hrest => exact .cons he (ih hrest)

theorem forall₂_flippedMembers (h : FlippedMembers place members members') :
    List.Forall₂ (fun a b => a.1 = b.1 ∧ Flipped place a.2 b.2) members members' := by
  induction members generalizing members' with
  | nil =>
    cases h
    exact .nil
  | cons entry rest ih =>
    cases h with
    | cons name he hrest => exact .cons ⟨rfl, he⟩ (ih hrest)

/-- Either both are lambdas with one parameter, or neither is a lambda. -/
theorem lambda?_flipped (h : Flipped place e e') :
    (e.lambda? = none ∧ e'.lambda? = none) ∨
      ∃ x body body', e = .lambda x body ∧ e' = .lambda x body' ∧ Flipped place body body' := by
  cases h with
  | lambda x hbody => exact .inr ⟨x, _, _, rfl, rfl, hbody⟩
  | _ => exact .inl ⟨rfl, rfl⟩

/-! ### Folding -/

/-- A flipped comparison of constants is folded to the same constant. -/
theorem agree_foldComparison {op : BinaryOperator} (hop : op.isComparison = true)
    (hleft : Flipped .predicate left left') (hright : Flipped .predicate right right') :
    Agree (Flipped .predicate) (foldBinary op left right) (foldBinary op.flipped right' left') := by
  cases hl : left.constant? with
  | none =>
    rw [foldBinary_eq_self hl, foldBinary_eq_self_right ((constant?_flipped hleft).trans hl)]
    exact .ok (.comparison hop hleft hright)
  | some l =>
    cases hr : right.constant? with
    | none =>
      rw [foldBinary_eq_self_right hr, foldBinary_eq_self ((constant?_flipped hright).trans hr)]
      exact .ok (.comparison hop hleft hright)
    | some r =>
      rw [constant?_eq_some.1 hl, constant?_eq_some.1 hr,
        constant?_eq_some.1 ((constant?_flipped hleft).trans hl),
        constant?_eq_some.1 ((constant?_flipped hright).trans hr), foldBinary, foldBinary]
      have hvalues := BinaryOperator.agree_apply_flipped hop l r
      generalize op.apply l r = x at hvalues ⊢
      generalize op.flipped.apply r l = y at hvalues ⊢
      cases hvalues with
      | error fault fault' => exact .error fault fault'
      | ok hsame => exact .ok (hsame ▸ .constant _)

/-- A call with a lambda is folded in its parts only. -/
theorem fold_call_lambda (method x : String) (source body : Expression) :
    (call method [source, .lambda x body]).fold =
      source.fold >>= fun s => body.fold >>= fun b => .ok (.call method [s, .lambda x b]) := by
  have hcall : ∀ s b, foldCall method [s, .lambda x b] = .ok (.call method [s, .lambda x b]) := by
    intro s b
    have hvalues : [s, .lambda x b].mapM constant? = none := by
      cases s <;> rfl
    rw [foldCall, hvalues]
    rfl
  rw [fold, foldArgs, foldArgs, fold, foldArgs]
  cases source.fold with
  | error fault => rfl
  | ok s =>
    cases body.fold with
    | error fault => rfl
    | ok b => exact hcall s b

mutual

/-- Flipping comparisons commutes with folding. -/
theorem agree_fold_flipped {place : Place} {e e' : Expression} (h : Flipped place e e') :
    Agree (Flipped place) e.fold e'.fold := by
  cases h with
  | constant v => exact .ok (.constant v)
  | source type => exact .ok (.source type)
  | parameter x => exact .ok (.parameter x)
  | hitField field => exact .ok (.hitField field)
  | member m h =>
    rw [fold, fold]
    exact (agree_fold_flipped h).bind fun _ _ h =>
      .ok (foldMember_related sameHead_flipped .constant h (.member m h))
  | binary op hleft hright =>
    rw [fold, fold]
    refine (agree_fold_flipped hleft).bind fun _ _ hl => ?_
    exact (agree_fold_flipped hright).bind fun _ _ hr =>
      agree_foldBinary sameHead_flipped .constant hl hr (.binary op hl hr)
  | comparison hop hleft hright =>
    rw [fold, fold]
    exact (agree_fold_flipped hleft).bind_swap (agree_fold_flipped hright)
      fun _ _ _ _ hl hr => agree_foldComparison hop hl hr
  | unary op h =>
    rw [fold, fold]
    exact (agree_fold_flipped h).bind fun _ _ h =>
      agree_foldUnary sameHead_flipped .constant h (.unary op h)
  | call method hargs =>
    rw [fold, fold]
    exact (agree_foldArgs_flipped hargs).bind fun _ _ h =>
      agree_foldCall sameHead_flipped .constant (forall₂_flippedArgs h) (.call method h)
  | satisfying x hmethod hsource hbody =>
    rw [fold_call_lambda, fold_call_lambda]
    refine (agree_fold_flipped hsource).bind fun _ _ hs => ?_
    exact (agree_fold_flipped hbody).bind fun _ _ hb => .ok (.satisfying x hmethod hs hb)
  | lambda x h =>
    rw [fold, fold]
    exact (agree_fold_flipped h).bind fun _ _ h => .ok (.lambda x h)
  | construct h =>
    rw [fold, fold]
    refine (agree_foldMembers_flipped h).bind fun _ _ h => .ok ?_
    exact foldConstruct_related sameHead_flipped .constant (forall₂_flippedMembers h) (.construct h)

theorem agree_foldArgs_flipped {place : Place} {args args' : List Expression}
    (h : FlippedArgs place args args') :
    Agree (FlippedArgs place) (foldArgs args) (foldArgs args') := by
  cases h with
  | nil => exact .ok .nil
  | cons h hrest =>
    rw [foldArgs, foldArgs]
    refine (agree_fold_flipped h).bind fun _ _ he => ?_
    exact (agree_foldArgs_flipped hrest).bind fun _ _ hrest => .ok (.cons he hrest)

theorem agree_foldMembers_flipped {place : Place} {members members' : List (String × Expression)}
    (h : FlippedMembers place members members') :
    Agree (FlippedMembers place) (foldMembers members) (foldMembers members') := by
  cases h with
  | nil => exact .ok .nil
  | cons name h hrest =>
    rw [foldMembers, foldMembers]
    refine (agree_fold_flipped h).bind fun _ _ he => ?_
    exact (agree_foldMembers_flipped hrest).bind fun _ _ hrest => .ok (.cons name he hrest)

end

/-! ### Fields -/

section Fields

variable {m : FieldMapping} {pathPrefix : String}

theorem memberPath?_flipped (h : Flipped place e e') :
    e'.memberPath? m pathPrefix = e.memberPath? m pathPrefix :=
  memberPath?_of_sameHead sameHead_flipped h

theorem field?_flipped (h : Flipped place e e') :
    e'.field? m pathPrefix = e.field? m pathPrefix :=
  field?_of_sameHead sameHead_flipped h

theorem booleanField?_flipped (h : Flipped place e e') :
    e'.booleanField? m pathPrefix = e.booleanField? m pathPrefix :=
  booleanField?_of_sameHead sameHead_flipped h

end Fields

/-! ### Chains -/

/-- One step of a chain, with flipped comparisons in the predicates of its arguments or in the one
predicate that it takes. -/
inductive StepFlipped : String × List Expression → String × List Expression → Prop
  | args {args args' : List Expression} (method : String) (h : FlippedArgs .query args args') :
    StepFlipped (method, args) (method, args')
  | satisfying {method : String} {body body' : Expression} (x : String)
    (hmethod : method ∈ predicateMethods) (h : Flipped .predicate body body') :
    StepFlipped (method, [.lambda x body]) (method, [.lambda x body'])

theorem chain_flipped {e e' : Expression} (h : Flipped .query e e') :
    List.Forall₂ StepFlipped e.chain.steps e'.chain.steps ∧
      RootRenamed e.chain.root e'.chain.root := by
  cases h with
  | source type => exact ⟨.nil, .documents type⟩
  | call method hargs =>
    cases hargs with
    | nil => exact ⟨.nil, .bareCall method⟩
    | cons hinner hrest =>
      obtain ⟨hsteps, hroot⟩ := chain_flipped hinner
      exact ⟨.cons (.args method hrest) hsteps, hroot⟩
  | satisfying x hmethod hsource hbody =>
    obtain ⟨hsteps, hroot⟩ := chain_flipped hsource
    exact ⟨.cons (.satisfying x hmethod hbody) hsteps, hroot⟩
  | unary op hoperand =>
    cases op with
    | convert =>
      have hchain := chain_flipped hoperand
      exact hchain
    | not | negate => exact ⟨.nil, .other _ _⟩
  | _ => exact ⟨.nil, .other _ _⟩

theorem chainSource?_flipped {e e' : Expression} (h : Flipped .query e e') :
    e'.chainSource? = e.chainSource? := by
  cases h with
  | call method hargs =>
    cases hargs with
    | nil => rfl
    | cons hinner hrest =>
      have hsource := chainSource?_flipped hinner
      exact hsource
  | satisfying x hmethod hsource hbody =>
    have hsource := chainSource?_flipped hsource
    exact hsource
  | unary op hoperand =>
    have hsource := chainSource?_flipped hoperand
    exact hsource
  | _ => rfl

/-! ### Groupings -/

/-- Two aggregate queries that differ in flipped comparisons of predicates. -/
structure QueryFlipped (q q' : AggregateQuery) : Prop where
  source : Flipped .query q.source q'.source
  keySelector : Flipped .query q.keySelector q'.keySelector
  selector : Flipped .query q.selector q'.selector
  size : q.size = q'.size

theorem keepsCalls_flipped : KeepsCalls (Flipped .query) where
  head := sameHead_flipped
  args hmethod h := by
    cases h with
    | call _ hargs => exact forall₂_flippedArgs hargs
    | satisfying _ hpredicate _ _ => exact absurd hpredicate hmethod

/-- Two queries that differ in flipped comparisons are both aggregate queries, with such parts, or
neither is. -/
theorem aggregateQuery?_flipped (h : Flipped .query e e') :
    Option.Rel QueryFlipped e.aggregateQuery? e'.aggregateQuery? :=
  keepsCalls_flipped.rel_aggregateQuery? (fun _ _ => QueryFlipped.mk) h

end Expression

end SearchQuery
