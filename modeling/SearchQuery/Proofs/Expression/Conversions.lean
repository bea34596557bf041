import SearchQuery.Proofs.Expression.Folding

/-!
# Conversions

A conversion changes the static type of an expression and nothing else. An expression is compared
here with what is left of it when its conversions are taken off.

* `unconverted`: the expression without conversions.
* `fold_unconverted`: taking conversions off commutes with folding.
* `Converts`: an expression of some kind stands right below a conversion. Folding leaves no
  converted constants (`not_converts_constant_of_fold`), and it neither makes converted parameters
  nor loses any (`converts_parameter_fold`).
* `field?_unconverted`: without converted parameters, conversions make no difference to the field
  that an expression stands for. With one, it stands for none (`not_converts_of_field?`).
-/

namespace SearchQuery

namespace Expression

mutual

/-- The expression with all conversions taken off. -/
@[simp] def unconverted : Expression → Expression
  | .unary .convert operand => unconverted operand
  | .unary op operand => .unary op (unconverted operand)
  | .member target m => .member (unconverted target) m
  | .binary op left right => .binary op (unconverted left) (unconverted right)
  | .call method args => .call method (unconvertedArgs args)
  | .lambda p body => .lambda p (unconverted body)
  | .construct members => .construct (unconvertedMembers members)
  | .constant v => .constant v
  | .source type => .source type
  | .parameter name => .parameter name
  | .hitField field => .hitField field

@[simp] def unconvertedArgs : List Expression → List Expression
  | [] => []
  | e :: rest => unconverted e :: unconvertedArgs rest

@[simp] def unconvertedMembers : List (String × Expression) → List (String × Expression)
  | [] => []
  | (name, e) :: rest => (name, unconverted e) :: unconvertedMembers rest

end

def isConstant (e : Expression) : Bool := e.constant?.isSome

def isAnyParameter : Expression → Bool
  | .parameter _ => true
  | _ => false

mutual

/-- Whether an expression of that kind stands right below a conversion. -/
@[simp] def converts (kind : Expression → Bool) : Expression → Bool
  | .unary op operand => (decide (op = .convert) && kind operand) || converts kind operand
  | .member target _ => converts kind target
  | .binary _ left right => converts kind left || converts kind right
  | .call _ args => argsConvert kind args
  | .lambda _ body => converts kind body
  | .construct members => membersConvert kind members
  | .constant _ | .source _ | .parameter _ | .hitField _ => false

@[simp] def argsConvert (kind : Expression → Bool) : List Expression → Bool
  | [] => false
  | e :: rest => converts kind e || argsConvert kind rest

@[simp] def membersConvert (kind : Expression → Bool) : List (String × Expression) → Bool
  | [] => false
  | (_, e) :: rest => converts kind e || membersConvert kind rest

end

variable {e e' : Expression} {args args' : List Expression}
  {members members' : List (String × Expression)} {kind : Expression → Bool}

/-! ### Constants -/

theorem argsConvert_constants (values : List Json) :
    argsConvert kind (values.map .constant) = false := by
  induction values with
  | nil => rfl
  | cons v rest ih => rw [List.map_cons, argsConvert, ih, converts, Bool.or_false]

theorem membersConvert_constants (entries : List (String × Json)) :
    membersConvert kind (constantMembers entries) = false := by
  induction entries with
  | nil => rfl
  | cons entry rest ih =>
    rw [constantMembers, List.map_cons, membersConvert, converts, Bool.false_or]
    exact ih

theorem argsConvert_eq_false (h : List.Forall₂ (fun _ e => e.converts kind = false) args args') :
    argsConvert kind args' = false := by
  induction h with
  | nil => rfl
  | cons he _ ih => rw [argsConvert, he, ih, Bool.or_false]

theorem membersConvert_eq_false
    (h : List.Forall₂ (fun a b => a.1 = b.1 ∧ b.2.converts kind = false) members members') :
    membersConvert kind members' = false := by
  induction h with
  | nil => rfl
  | cons he _ ih => rw [membersConvert, he.2, ih, Bool.or_false]

theorem foldCases_converts_constant : FoldCases fun _ e => e.converts isConstant = false where
  constant _ := rfl
  source _ := rfl
  parameter _ := rfl
  hitField _ := rfl
  field _ _ := rfl
  member {target target'} m _ _ _ htarget := by
    rcases foldMember_cases target' m with ⟨-, hfolded⟩ | ⟨v, -, hfolded⟩ <;> rw [hfolded]
    · exact htarget
    · rfl
  binary {op left left' right right' e} hleft hright h := by
    rcases foldBinary_cases h with rfl | ⟨_, _, v, -, -, -, rfl⟩
    · rw [converts, hleft, hright, Bool.or_false]
    · rfl
  unary {op operand operand' e} hoperand h := by
    cases hconstant : operand'.constant? with
    | none =>
      rw [foldUnary_eq_self hconstant] at h
      cases h
      simp [isConstant, hconstant, hoperand]
    | some o =>
      obtain rfl := constant?_eq_some.1 hconstant
      obtain ⟨v, -, rfl⟩ := map_eq_ok.1 h
      rfl
  call {method args args' e} hargs h := by
    rcases foldCall_cases h with rfl | ⟨values, v, -, -, rfl⟩
    · exact argsConvert_eq_false hargs
    · rfl
  lambda hbody := hbody
  construct {members members'} hmembers := by
    rcases foldConstruct_cases members' with hfolded | ⟨entries, -, hfolded⟩ <;> rw [hfolded]
    · exact membersConvert_eq_false hmembers
    · rfl

/-- A conversion of a constant is folded away. -/
theorem not_converts_constant_of_fold (h : e.fold = .ok e') : e'.converts isConstant = false :=
  foldCases_converts_constant.of_fold e h

theorem constant?_unconverted :
    (e : Expression) → e.converts isConstant = false → e.unconverted.constant? = e.constant?
  | .unary .convert operand, h => by
    simp only [converts, decide_true, Bool.true_and, Bool.or_eq_false_iff] at h
    rw [unconverted, constant?_unconverted operand h.2]
    exact Option.not_isSome_iff_eq_none.1 (by simpa [isConstant] using h.1)
  | .unary .not _, _ | .unary .negate _, _ | .constant _, _ | .source _, _ | .parameter _, _
  | .hitField _, _ | .member _ _, _ | .binary _ _ _, _ | .call _ _, _ | .lambda _ _, _
  | .construct _, _ => rfl

/-! ### Folding -/

theorem unconvertedArgs_eq (args : List Expression) :
    unconvertedArgs args = args.map unconverted := by
  induction args with
  | nil => rfl
  | cons e rest ih => rw [unconvertedArgs, ih, List.map_cons]

theorem unconvertedMembers_eq (members : List (String × Expression)) :
    unconvertedMembers members = members.map fun entry => (entry.1, entry.2.unconverted) := by
  induction members with
  | nil => rfl
  | cons entry rest ih =>
    obtain ⟨name, e⟩ := entry
    rw [unconvertedMembers, ih, List.map_cons]

theorem foldMember_unconverted {target : Expression} {m : Member}
    (h : target.unconverted.constant? = target.constant?) :
    foldMember target.unconverted m = (foldMember target m).unconverted := by
  cases htarget : target.constant? with
  | none =>
    rw [foldMember_eq_self htarget, foldMember_eq_self (h.trans htarget), unconverted]
  | some v =>
    obtain rfl := constant?_eq_some.1 htarget
    rfl

theorem foldBinary_unconverted {op : BinaryOperator} {left right : Expression}
    (hleft : left.unconverted.constant? = left.constant?)
    (hright : right.unconverted.constant? = right.constant?) :
    foldBinary op left.unconverted right.unconverted =
      (foldBinary op left right).map unconverted := by
  cases hl : left.constant? with
  | none =>
    rw [foldBinary_eq_self hl, foldBinary_eq_self (hleft.trans hl)]
    rfl
  | some l =>
    cases hr : right.constant? with
    | none =>
      rw [foldBinary_eq_self_right hr, foldBinary_eq_self_right (hright.trans hr)]
      rfl
    | some r =>
      obtain rfl := constant?_eq_some.1 hl
      obtain rfl := constant?_eq_some.1 hr
      simp only [unconverted, foldBinary]
      cases op.apply l r <;> rfl

theorem unconverted_unary {op : UnaryOperator} {operand : Expression} (hop : op ≠ .convert) :
    (unary op operand).unconverted = unary op operand.unconverted := by
  cases op with
  | convert => exact absurd rfl hop
  | not | negate => rfl

theorem foldUnary_unconverted {op : UnaryOperator} {operand : Expression} (hop : op ≠ .convert)
    (h : operand.unconverted.constant? = operand.constant?) :
    foldUnary op operand.unconverted = (foldUnary op operand).map unconverted := by
  cases ho : operand.constant? with
  | none =>
    rw [foldUnary_eq_self ho, foldUnary_eq_self (h.trans ho)]
    exact congrArg Except.ok (unconverted_unary hop).symm
  | some o =>
    obtain rfl := constant?_eq_some.1 ho
    simp only [unconverted, foldUnary]
    cases op.apply o <;> rfl

/-- A conversion that is folded leaves its operand, or it stays and is taken off. -/
theorem foldUnary_convert (operand : Expression) :
    (foldUnary .convert operand).map unconverted = .ok operand.unconverted := by
  cases ho : operand.constant? with
  | none =>
    rw [foldUnary_eq_self ho]
    rfl
  | some o =>
    obtain rfl := constant?_eq_some.1 ho
    rfl

/-- A change of the arguments that no constant notices changes the folded call likewise. -/
theorem foldCall_map {method : String} {f : Expression → Expression}
    (hargs : args'.mapM constant? = args.mapM constant?)
    (hconstant : ∀ v, f (.constant v) = .constant v)
    (hcall : f (.call method args) = .call method args') :
    foldCall method args' = (foldCall method args).map f := by
  unfold foldCall
  rw [hargs]
  cases args.mapM constant? with
  | none => exact congrArg Except.ok hcall.symm
  | some values =>
    cases happly : applyMethod method values with
    | error fault =>
      simp only [happly]
      rfl
    | ok outcome =>
      simp only [happly]
      cases outcome with
      | none => exact congrArg Except.ok hcall.symm
      | some v => exact congrArg Except.ok (hconstant v).symm

theorem foldCall_unconverted {method : String}
    (h : ∀ e ∈ args, e.unconverted.constant? = e.constant?) :
    foldCall method (unconvertedArgs args) = (foldCall method args).map unconverted := by
  refine foldCall_map ?_ (fun _ => rfl) rfl
  rw [unconvertedArgs_eq, List.mapM_map]
  exact mapM_congr h

theorem foldConstruct_unconverted
    (h : ∀ entry ∈ members, entry.2.unconverted.constant? = entry.2.constant?) :
    foldConstruct (unconvertedMembers members) = (foldConstruct members).unconverted := by
  have hentries : ((unconvertedMembers members).mapM fun entry =>
      entry.2.constant?.map (entry.1, ·)) =
        members.mapM fun entry => entry.2.constant?.map (entry.1, ·) := by
    rw [unconvertedMembers_eq, List.mapM_map]
    exact mapM_congr fun entry hentry => by rw [Function.comp, h entry hentry]
  unfold foldConstruct
  rw [hentries]
  split
  · rfl
  · rfl

theorem constant?_unconverted_of_fold (h : e.fold = .ok e') :
    e'.unconverted.constant? = e'.constant? :=
  constant?_unconverted e' (not_converts_constant_of_fold h)

theorem constants_of_foldArgs (h : foldArgs args = .ok args') :
    ∀ e ∈ args', e.unconverted.constant? = e.constant? := by
  have hfolded := foldCases_converts_constant.of_foldArgs args h
  clear h
  induction hfolded with
  | nil => simp
  | cons he _ ih => exact List.forall_mem_cons.2 ⟨constant?_unconverted _ he, ih⟩

theorem constants_of_foldMembers (h : foldMembers members = .ok members') :
    ∀ entry ∈ members', entry.2.unconverted.constant? = entry.2.constant? := by
  have hfolded := foldCases_converts_constant.of_foldMembers members h
  clear h
  induction hfolded with
  | nil => simp
  | cons he _ ih => exact List.forall_mem_cons.2 ⟨constant?_unconverted _ he.2, ih⟩

mutual

/-- **Conversions and folding.** Without conversions, an expression folds to what it folds to with
them, again without. -/
theorem fold_unconverted : (e : Expression) → e.unconverted.fold = e.fold.map unconverted
  | .constant _ | .source _ | .parameter _ | .hitField _ => rfl
  | .member target m => by
    rw [unconverted, fold, fold, fold_unconverted target]
    cases htarget : target.fold with
    | error fault => rfl
    | ok target' =>
      exact congrArg Except.ok (foldMember_unconverted (constant?_unconverted_of_fold htarget))
  | .binary op left right => by
    rw [unconverted, fold, fold, fold_unconverted left, fold_unconverted right]
    cases hleft : left.fold with
    | error fault => rfl
    | ok left' =>
      cases hright : right.fold with
      | error fault => rfl
      | ok right' =>
        exact foldBinary_unconverted (constant?_unconverted_of_fold hleft)
          (constant?_unconverted_of_fold hright)
  | .unary op operand => by
    by_cases hop : op = .convert
    · subst hop
      rw [unconverted, fold, fold_unconverted operand]
      cases operand.fold with
      | error fault => rfl
      | ok operand' => exact (foldUnary_convert operand').symm
    · rw [unconverted_unary hop, fold, fold, fold_unconverted operand]
      cases hoperand : operand.fold with
      | error fault => rfl
      | ok operand' => exact foldUnary_unconverted hop (constant?_unconverted_of_fold hoperand)
  | .call method args => by
    rw [unconverted, fold, fold, foldArgs_unconverted args]
    cases hargs : foldArgs args with
    | error fault => rfl
    | ok args' => exact foldCall_unconverted (constants_of_foldArgs hargs)
  | .lambda p body => by
    rw [unconverted, fold, fold, fold_unconverted body]
    cases body.fold <;> rfl
  | .construct members => by
    rw [unconverted, fold, fold, foldMembers_unconverted members]
    cases hmembers : foldMembers members with
    | error fault => rfl
    | ok members' =>
      exact congrArg Except.ok (foldConstruct_unconverted (constants_of_foldMembers hmembers))

theorem foldArgs_unconverted :
    (args : List Expression) → foldArgs (unconvertedArgs args) =
      (foldArgs args).map unconvertedArgs
  | [] => rfl
  | e :: rest => by
    rw [unconvertedArgs, foldArgs, foldArgs, fold_unconverted e, foldArgs_unconverted rest]
    cases e.fold with
    | error fault => rfl
    | ok e' => cases foldArgs rest <;> rfl

theorem foldMembers_unconverted :
    (members : List (String × Expression)) → foldMembers (unconvertedMembers members) =
      (foldMembers members).map unconvertedMembers
  | [] => rfl
  | (name, e) :: rest => by
    rw [unconvertedMembers, foldMembers, foldMembers, fold_unconverted e,
      foldMembers_unconverted rest]
    cases e.fold with
    | error fault => rfl
    | ok e' => cases foldMembers rest <;> rfl

end

/-! ### Parameters -/

theorem argsConvert_congr
    (h : List.Forall₂ (fun e e' => e'.isAnyParameter = e.isAnyParameter ∧
      e'.converts kind = e.converts kind) args args') :
    argsConvert kind args' = argsConvert kind args := by
  induction h with
  | nil => rfl
  | cons he _ ih => rw [argsConvert, argsConvert, he.2, ih]

theorem membersConvert_congr
    (h : List.Forall₂ (fun a b => a.1 = b.1 ∧ b.2.isAnyParameter = a.2.isAnyParameter ∧
      b.2.converts kind = a.2.converts kind) members members') :
    membersConvert kind members' = membersConvert kind members := by
  induction h with
  | nil => rfl
  | cons he _ ih => rw [membersConvert, membersConvert, he.2.2, ih]

theorem foldCases_converts_parameter :
    FoldCases fun e e' => e'.isAnyParameter = e.isAnyParameter ∧
      e'.converts isAnyParameter = e.converts isAnyParameter where
  constant _ := ⟨rfl, rfl⟩
  source _ := ⟨rfl, rfl⟩
  parameter _ := ⟨rfl, rfl⟩
  hitField _ := ⟨rfl, rfl⟩
  field _ _ := ⟨rfl, rfl⟩
  member {target target'} m _ _ _ htarget := by
    rw [converts, ← htarget.2]
    rcases foldMember_cases target' m with ⟨-, hfolded⟩ | ⟨v, rfl, hfolded⟩ <;> rw [hfolded]
    · exact ⟨rfl, rfl⟩
    · exact ⟨rfl, rfl⟩
  binary {op left left' right right' e} hleft hright h := by
    rw [converts, ← hleft.2, ← hright.2]
    rcases foldBinary_cases h with rfl | ⟨_, _, v, rfl, rfl, -, rfl⟩ <;> exact ⟨rfl, rfl⟩
  unary {op operand operand' e} hoperand h := by
    rw [converts, ← hoperand.1, ← hoperand.2]
    rcases foldUnary_cases h with rfl | ⟨o, v, rfl, -, rfl⟩
    · exact ⟨rfl, rfl⟩
    · exact ⟨rfl, by simp [isAnyParameter]⟩
  call {method args args' e} hargs h := by
    rw [converts, ← argsConvert_congr hargs]
    rcases foldCall_cases h with rfl | ⟨values, v, rfl, -, rfl⟩
    · exact ⟨rfl, rfl⟩
    · exact ⟨rfl, (argsConvert_constants values).symm⟩
  lambda hbody := ⟨rfl, hbody.2⟩
  construct {members members'} hmembers := by
    rw [converts, ← membersConvert_congr hmembers]
    rcases foldConstruct_cases members' with hfolded | ⟨entries, rfl, hfolded⟩ <;> rw [hfolded]
    · exact ⟨rfl, rfl⟩
    · exact ⟨rfl, (membersConvert_constants entries).symm⟩

/-- A converted parameter stays one when the expression is folded. -/
theorem converts_parameter_fold (h : e.fold = .ok e') :
    e'.converts isAnyParameter = e.converts isAnyParameter :=
  (foldCases_converts_parameter.of_fold e h).2

theorem converts_convert {operand : Expression} :
    (unary .convert operand).converts kind = (kind operand || operand.converts kind) := by
  simp

/-- Only a parameter becomes one when its conversions are taken off, unless a parameter is
converted. -/
theorem eq_parameter_of_unconverted {name : String} :
    (e : Expression) → e.converts isAnyParameter = false → e.unconverted = .parameter name →
      e = .parameter name
  | .unary .convert operand, h, heq => by
    rw [converts_convert, Bool.or_eq_false_iff] at h
    rw [unconverted] at heq
    rw [eq_parameter_of_unconverted operand h.2 heq] at h
    cases h.1
  | .parameter _, _, heq => heq

/-! ### Fields -/

variable {m : FieldMapping} {pathPrefix : String} {x : String × Member}

theorem memberPath?_unconverted (h : e.converts isAnyParameter = false) :
    e.unconverted.memberPath? m pathPrefix = e.memberPath? m pathPrefix := by
  induction e using memberPath?.induct with
  | case1 operand ih =>
    rw [converts_convert, Bool.or_eq_false_iff] at h
    rw [unconverted, memberPath?, ih h.2]
  | case2 name last => rfl
  | case3 target last hparameter ih =>
    rw [converts] at h
    have hunconverted : ∀ name, target.unconverted ≠ .parameter name :=
      fun name heq => hparameter name (eq_parameter_of_unconverted target h heq)
    rw [unconverted, memberPath?_member hunconverted, memberPath?_member hparameter, ih h]
  | case4 e hconvert hparameter hmember =>
    cases e with
    | unary op operand =>
      cases op with
      | convert => exact absurd rfl (hconvert operand)
      | not | negate => rfl
    | member target last => exact absurd rfl (hmember target last)
    | _ => rfl

/-- Without a converted parameter, conversions make no difference to the field. -/
theorem field?_unconverted (h : e.converts isAnyParameter = false) :
    e.unconverted.field? m pathPrefix = e.field? m pathPrefix := by
  induction e using field?.induct with
  | case1 hit => rfl
  | case2 operand ih =>
    rw [converts_convert, Bool.or_eq_false_iff] at h
    rw [unconverted, field?, ih h.2]
  | case3 e hhit hconvert =>
    cases e with
    | unary op operand =>
      cases op with
      | convert => exact absurd rfl (hconvert operand)
      | not | negate => rfl
    | member target last =>
      rw [field?_member, ← memberPath?_unconverted h, unconverted, field?_member]
    | _ => rfl

theorem booleanField?_unconverted (h : e.converts isAnyParameter = false) :
    e.unconverted.booleanField? m pathPrefix = e.booleanField? m pathPrefix := by
  rw [booleanField?, field?_unconverted h, booleanField?]

theorem isAnyParameter_of_memberPath? (h : e.memberPath? m pathPrefix = some x) :
    e.isAnyParameter = false := by
  cases e <;> first | rfl | cases h

theorem not_converts_of_memberPath? (h : e.memberPath? m pathPrefix = some x) :
    e.converts isAnyParameter = false := by
  induction e using memberPath?.induct generalizing x with
  | case1 operand ih =>
    rw [memberPath?] at h
    rw [converts_convert, isAnyParameter_of_memberPath? h, ih h, Bool.or_false]
  | case2 name last => rfl
  | case3 target last hparameter ih =>
    rw [memberPath?_member hparameter] at h
    obtain ⟨parent, hparent, -⟩ := Option.map_eq_some_iff.1 h
    exact ih hparent
  | case4 e hconvert hparameter hmember =>
    rw [memberPath?] at h
    · cases h
    all_goals assumption

/-- What stands for a field converts no parameter. -/
theorem not_converts_of_field? (h : e.field? m pathPrefix = some x) :
    e.isAnyParameter = false ∧ e.converts isAnyParameter = false := by
  induction e using field?.induct with
  | case1 hit => exact ⟨rfl, rfl⟩
  | case2 operand ih =>
    rw [field?] at h
    obtain ⟨hparameter, hconverts⟩ := ih h
    exact ⟨rfl, by rw [converts_convert, hparameter, hconverts, Bool.or_false]⟩
  | case3 e hhit hconvert =>
    rw [field?] at h
    · exact ⟨isAnyParameter_of_memberPath? h, not_converts_of_memberPath? h⟩
    all_goals assumption

end Expression

end SearchQuery
