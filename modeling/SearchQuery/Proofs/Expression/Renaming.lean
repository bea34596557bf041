import SearchQuery.Proofs.Expression.Heads

/-!
# Renaming parameters

Names of lambda parameters may be chosen freely as long as each parameter stays bound by its lambda.
Two expressions are compared here that differ in such names only.

* `SameBinder`: two names that refer to one lambda, whatever other lambdas shadow.
* `Renamed`: expressions that differ in the names of parameters, all of which are bound.
* `agree_fold`: folding succeeds for both and leaves them so, or it fails for both.
* `constant?_renamed`, `field?_renamed`: both are the same constant and stand for the same field.
* `chain_renamed`, `aggregateQuery?_renamed`: they are taken apart alike.
-/

namespace SearchQuery

namespace Expression

/-- Whether two names refer to one lambda: of the lambdas around, whose two names are listed
innermost first, the first one that has either name has both. -/
def SameBinder (around : List (String × String)) (x y : String) : Prop :=
  around.find? (fun names => names.1 == x || names.2 == y) = some (x, y)

theorem sameBinder_singleton {a b x y : String} (h : SameBinder [(a, b)] x y) : x = a ∧ y = b := by
  have hnames : (a, b) = (x, y) := by
    have hfound := List.mem_of_find?_eq_some h
    exact (List.mem_singleton.1 hfound).symm
  exact ⟨(Prod.ext_iff.1 hnames).1.symm, (Prod.ext_iff.1 hnames).2.symm⟩

mutual

/-- The expressions differ only in the names of lambda parameters. The names of the lambdas around
them are given, and each parameter refers to one of these or to a lambda within. -/
inductive Renamed : List (String × String) → Expression → Expression → Prop
  | constant {around} (v : Json) : Renamed around (.constant v) (.constant v)
  | source {around} (type : DocumentType) : Renamed around (.source type) (.source type)
  | parameter {around x y} (h : SameBinder around x y) :
    Renamed around (.parameter x) (.parameter y)
  | member {around target target'} (m : Member) (h : Renamed around target target') :
    Renamed around (.member target m) (.member target' m)
  | hitField {around} (field : HitField) : Renamed around (.hitField field) (.hitField field)
  | binary {around left left' right right'} (op : BinaryOperator)
    (hleft : Renamed around left left') (hright : Renamed around right right') :
    Renamed around (.binary op left right) (.binary op left' right')
  | unary {around operand operand'} (op : UnaryOperator) (h : Renamed around operand operand') :
    Renamed around (.unary op operand) (.unary op operand')
  | call {around args args'} (method : String) (h : RenamedArgs around args args') :
    Renamed around (.call method args) (.call method args')
  | lambda {around x y body body'} (h : Renamed ((x, y) :: around) body body') :
    Renamed around (.lambda x body) (.lambda y body')
  | construct {around members members'} (h : RenamedMembers around members members') :
    Renamed around (.construct members) (.construct members')

inductive RenamedArgs : List (String × String) → List Expression → List Expression → Prop
  | nil {around} : RenamedArgs around [] []
  | cons {around e e' rest rest'} (h : Renamed around e e') (hrest : RenamedArgs around rest rest') :
    RenamedArgs around (e :: rest) (e' :: rest')

inductive RenamedMembers :
    List (String × String) → List (String × Expression) → List (String × Expression) → Prop
  | nil {around} : RenamedMembers around [] []
  | cons {around e e' rest rest'} (name : String) (h : Renamed around e e')
    (hrest : RenamedMembers around rest rest') :
    RenamedMembers around ((name, e) :: rest) ((name, e') :: rest')

end

variable {around : List (String × String)} {e e' left left' right right' target target' : Expression}
  {args args' : List Expression} {members members' : List (String × Expression)}

/-! ### Heads -/

theorem sameHead_renamed (e e' : Expression) (h : Renamed around e e') :
    SameHead (Renamed around) e e' := by
  cases h with
  | constant v => exact .constant v
  | source type => exact .source type
  | parameter _ => exact .parameter _ _
  | member m h => exact .member m h
  | hitField field => exact .hitField field
  | binary op hleft hright => exact .binary op hleft hright
  | unary op h => exact .unary op h
  | call method _ => exact .call method _ _
  | lambda _ => exact .lambda _ _ _ _
  | construct _ => exact .construct _ _

theorem constant?_renamed (h : Renamed around e e') : e'.constant? = e.constant? :=
  (sameHead_renamed _ _ h).constant?_eq

theorem forall₂_renamedArgs (h : RenamedArgs around args args') :
    List.Forall₂ (Renamed around) args args' := by
  induction args generalizing args' with
  | nil =>
    cases h
    exact .nil
  | cons e rest ih =>
    cases h with
    | cons he hrest => exact .cons he (ih hrest)

theorem forall₂_renamedMembers (h : RenamedMembers around members members') :
    List.Forall₂ (fun a b => a.1 = b.1 ∧ Renamed around a.2 b.2) members members' := by
  induction members generalizing members' with
  | nil =>
    cases h
    exact .nil
  | cons entry rest ih =>
    cases h with
    | cons name he hrest => exact .cons ⟨rfl, he⟩ (ih hrest)

/-- Either both are lambdas, whose bodies are related inside of them, or neither is. -/
theorem lambda?_renamed (h : Renamed around e e') :
    (e.lambda? = none ∧ e'.lambda? = none) ∨
      ∃ x y body body', e = .lambda x body ∧ e' = .lambda y body' ∧
        Renamed ((x, y) :: around) body body' := by
  cases h with
  | lambda hbody => exact .inr ⟨_, _, _, _, rfl, rfl, hbody⟩
  | _ => exact .inl ⟨rfl, rfl⟩

/-! ### Folding -/

mutual

/-- Folding does not look at the names of parameters. -/
theorem agree_fold : (e : Expression) → {around : List (String × String)} → {e' : Expression} →
    Renamed around e e' → Agree (Renamed around) e.fold e'.fold
  | .constant v, _, _, h => by
    cases h
    exact .ok (.constant v)
  | .source type, _, _, h => by
    cases h
    exact .ok (.source type)
  | .parameter x, _, _, h => by
    cases h with
    | parameter hbinder => exact .ok (.parameter hbinder)
  | .hitField field, _, _, h => by
    cases h
    exact .ok (.hitField field)
  | .member target m, _, _, h => by
    cases h with
    | member _ htarget =>
      rw [fold, fold]
      exact (agree_fold target htarget).bind fun _ _ h =>
        .ok (foldMember_related sameHead_renamed .constant h (.member m h))
  | .binary op left right, _, _, h => by
    cases h with
    | binary _ hleft hright =>
      rw [fold, fold]
      refine (agree_fold left hleft).bind fun _ _ hl => ?_
      exact (agree_fold right hright).bind fun _ _ hr =>
        agree_foldBinary sameHead_renamed .constant hl hr (.binary op hl hr)
  | .unary op operand, _, _, h => by
    cases h with
    | unary _ hoperand =>
      rw [fold, fold]
      exact (agree_fold operand hoperand).bind fun _ _ h =>
        agree_foldUnary sameHead_renamed .constant h (.unary op h)
  | .call method args, _, _, h => by
    cases h with
    | call _ hargs =>
      rw [fold, fold]
      exact (agree_foldArgs args hargs).bind fun _ _ h =>
        agree_foldCall sameHead_renamed .constant (forall₂_renamedArgs h) (.call method h)
  | .lambda x body, _, _, h => by
    cases h with
    | lambda hbody =>
      rw [fold, fold]
      exact (agree_fold body hbody).bind fun _ _ h => .ok (.lambda h)
  | .construct members, _, _, h => by
    cases h with
    | construct hmembers =>
      rw [fold, fold]
      refine (agree_foldMembers members hmembers).bind fun _ _ h => .ok ?_
      exact foldConstruct_related sameHead_renamed .constant (forall₂_renamedMembers h)
        (.construct h)

theorem agree_foldArgs : (args : List Expression) → {around : List (String × String)} →
    {args' : List Expression} → RenamedArgs around args args' →
    Agree (RenamedArgs around) (foldArgs args) (foldArgs args')
  | [], _, _, h => by
    cases h
    exact .ok .nil
  | e :: rest, _, _, h => by
    cases h with
    | cons he hrest =>
      rw [foldArgs, foldArgs]
      refine (agree_fold e he).bind fun _ _ he => ?_
      exact (agree_foldArgs rest hrest).bind fun _ _ hrest => .ok (.cons he hrest)

theorem agree_foldMembers : (members : List (String × Expression)) →
    {around : List (String × String)} → {members' : List (String × Expression)} →
    RenamedMembers around members members' →
    Agree (RenamedMembers around) (foldMembers members) (foldMembers members')
  | [], _, _, h => by
    cases h
    exact .ok .nil
  | (name, e) :: rest, _, _, h => by
    cases h with
    | cons _ he hrest =>
      rw [foldMembers, foldMembers]
      refine (agree_fold e he).bind fun _ _ he => ?_
      exact (agree_foldMembers rest hrest).bind fun _ _ hrest => .ok (.cons name he hrest)

end

/-! ### Fields -/

section Fields

variable {m : FieldMapping} {pathPrefix : String}

theorem memberPath?_renamed (h : Renamed around e e') :
    e'.memberPath? m pathPrefix = e.memberPath? m pathPrefix :=
  memberPath?_of_sameHead sameHead_renamed h

theorem field?_renamed (h : Renamed around e e') :
    e'.field? m pathPrefix = e.field? m pathPrefix :=
  field?_of_sameHead sameHead_renamed h

theorem booleanField?_renamed (h : Renamed around e e') :
    e'.booleanField? m pathPrefix = e.booleanField? m pathPrefix :=
  booleanField?_of_sameHead sameHead_renamed h

end Fields

/-! ### Chains -/

/-- One step of a chain, with renamed parameters in its arguments. -/
def StepRenamed (step step' : String × List Expression) : Prop :=
  step.1 = step'.1 ∧ RenamedArgs [] step.2 step'.2

/-- What chains end in: documents of one type, or neither ends in documents. -/
inductive RootRenamed : ChainRoot → ChainRoot → Prop
  | documents (type : DocumentType) : RootRenamed (.documents type) (.documents type)
  | bareCall (method : String) : RootRenamed (.bareCall method) (.bareCall method)
  | other (e e' : Expression) : RootRenamed (.other e) (.other e')

theorem chain_renamed (h : Renamed [] e e') :
    List.Forall₂ StepRenamed e.chain.steps e'.chain.steps ∧
      RootRenamed e.chain.root e'.chain.root := by
  induction e using chain.induct generalizing e' with
  | case1 method inner args ih =>
    cases h with
    | call _ hargs =>
      cases hargs with
      | cons hinner hrest =>
        obtain ⟨hsteps, hroot⟩ := ih hinner
        exact ⟨.cons ⟨rfl, hrest⟩ hsteps, hroot⟩
  | case2 method =>
    cases h with
    | call _ hargs =>
      cases hargs
      exact ⟨.nil, .bareCall method⟩
  | case3 type =>
    cases h
    exact ⟨.nil, .documents type⟩
  | case4 operand ih =>
    cases h with
    | unary _ hoperand =>
      have hchain := ih hoperand
      exact hchain
  | case5 e hcall hbare hsource hconvert =>
    cases h with
    | call _ hargs =>
      cases hargs with
      | nil => exact absurd rfl (hbare _)
      | cons _ _ => exact absurd rfl (hcall _ _ _)
    | source type => exact absurd rfl (hsource type)
    | unary op _ =>
      cases op with
      | convert => exact absurd rfl (hconvert _)
      | not | negate => exact ⟨.nil, .other _ _⟩
    | _ => exact ⟨.nil, .other _ _⟩

theorem chainSource?_renamed (h : Renamed around e e') : e'.chainSource? = e.chainSource? := by
  induction e using chainSource?.induct generalizing e' with
  | case1 type =>
    cases h
    rfl
  | case2 method inner args ih =>
    cases h with
    | call _ hargs =>
      cases hargs with
      | cons hinner _ =>
        have hsource := ih hinner
        exact hsource
  | case3 op operand ih =>
    cases h with
    | unary _ hoperand =>
      have hsource := ih hoperand
      exact hsource
  | case4 e hsource hcall hunary =>
    cases h with
    | source type => exact absurd rfl (hsource type)
    | unary _ _ => exact absurd rfl (hunary _ _)
    | call _ hargs =>
      cases hargs with
      | nil => rfl
      | cons _ _ => exact absurd rfl (hcall _ _ _)
    | _ => rfl

/-! ### Groupings -/

/-- Two aggregate queries whose parts differ only in the names of parameters. -/
structure QueryRenamed (q q' : AggregateQuery) : Prop where
  source : Renamed [] q.source q'.source
  keySelector : Renamed [] q.keySelector q'.keySelector
  selector : Renamed [] q.selector q'.selector
  size : q.size = q'.size

theorem keepsCalls_renamed : KeepsCalls (Renamed around) where
  head := sameHead_renamed
  args _ h := by
    cases h with
    | call _ hargs => exact forall₂_renamedArgs hargs

/-- Two queries that differ in names are both aggregate queries, with such parts, or neither is. -/
theorem aggregateQuery?_renamed (h : Renamed [] e e') :
    Option.Rel QueryRenamed e.aggregateQuery? e'.aggregateQuery? :=
  keepsCalls_renamed.rel_aggregateQuery? (fun _ _ => QueryRenamed.mk) h

end Expression

end SearchQuery
