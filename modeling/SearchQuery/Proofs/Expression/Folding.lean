import Mathlib.Data.List.Forall2
import SearchQuery.Proofs.Expression.Folded
import SearchQuery.Proofs.Success

/-!
# Induction over folding

What folding does to a compound once its parts are folded, and the induction that follows from it.

* `foldBinary_cases` to `foldConstruct_cases`: a compound of folded parts stays as it is, or it has
  constants for parts and becomes a constant.
* `FoldCases`: a relation between expressions and what they fold to, one field for each constructor
  and one for the members of a parameter.
* `FoldCases.of_fold`: such a relation holds between every expression and what it folds to.
* `memberPath?_fold`, `booleanField?_fold`: folding neither makes a field of a document nor loses
  one.
-/

namespace SearchQuery

namespace Expression

variable {e e' target target' left right operand : Expression} {args : List Expression}
  {members : List (String × Expression)}

/-! ### Compounds of folded parts -/

theorem constant?_eq_some {v : Json} : e.constant? = some v ↔ e = .constant v := by
  cases e <;> simp [constant?]

theorem mapM_constant?_eq_some {values : List Json} :
    args.mapM constant? = some values ↔ args = values.map .constant := by
  induction args generalizing values with
  | nil => cases values <;> simp
  | cons e rest ih =>
    simp only [List.mapM_cons, Option.bind_eq_bind, Option.bind_eq_some_iff, constant?_eq_some, ih]
    constructor
    · rintro ⟨v, rfl, vs, rfl, h⟩
      cases h
      rfl
    · intro h
      cases values with
      | nil => cases h
      | cons v vs =>
        obtain ⟨rfl, rfl⟩ := List.cons.inj h
        exact ⟨v, rfl, vs, rfl, rfl⟩

/-- The members of an object all of which are constants. -/
def constantMembers (entries : List (String × Json)) : List (String × Expression) :=
  entries.map fun entry => (entry.1, .constant entry.2)

theorem mapM_constantMember_eq_some {entries : List (String × Json)} :
    (members.mapM fun entry => entry.2.constant?.map (entry.1, ·)) = some entries ↔
      members = constantMembers entries := by
  induction members generalizing entries with
  | nil => cases entries <;> simp [constantMembers]
  | cons entry rest ih =>
    obtain ⟨name, e⟩ := entry
    simp only [List.mapM_cons, Option.bind_eq_bind, Option.bind_eq_some_iff, Option.map_eq_some_iff,
      constant?_eq_some, ih]
    constructor
    · rintro ⟨_, ⟨v, rfl, rfl⟩, others, rfl, h⟩
      cases h
      rfl
    · intro h
      cases entries with
      | nil => cases h
      | cons entry others =>
        obtain ⟨hentry, rfl⟩ := List.cons.inj h
        obtain ⟨rfl, rfl⟩ := Prod.mk.inj hentry
        exact ⟨entry, ⟨entry.2, rfl, rfl⟩, others, rfl, rfl⟩

theorem foldMember_cases (target : Expression) (m : Member) :
    (target.constant? = none ∧ foldMember target m = .member target m) ∨
      ∃ v, target = .constant v ∧ foldMember target m = .constant (readMember m.name v) := by
  cases h : target.constant? with
  | none => exact .inl ⟨rfl, foldMember_eq_self h⟩
  | some v =>
    obtain rfl := constant?_eq_some.1 h
    exact .inr ⟨v, rfl, rfl⟩

theorem foldBinary_cases {op : BinaryOperator} (h : foldBinary op left right = .ok e) :
    e = .binary op left right ∨
      ∃ l r v, left = .constant l ∧ right = .constant r ∧ op.apply l r = .ok v ∧
        e = .constant v := by
  unfold foldBinary at h
  split at h
  · obtain ⟨v, hv, rfl⟩ := map_eq_ok.1 h
    exact .inr ⟨_, _, v, rfl, rfl, hv, rfl⟩
  · exact .inl (Except.ok.inj h).symm

theorem foldUnary_cases {op : UnaryOperator} (h : foldUnary op operand = .ok e) :
    e = .unary op operand ∨
      ∃ o v, operand = .constant o ∧ op.apply o = .ok v ∧ e = .constant v := by
  unfold foldUnary at h
  split at h
  · obtain ⟨v, hv, rfl⟩ := map_eq_ok.1 h
    exact .inr ⟨_, v, rfl, hv, rfl⟩
  · exact .inl (Except.ok.inj h).symm

theorem foldCall_cases {method : String} (h : foldCall method args = .ok e) :
    e = .call method args ∨
      ∃ values v, args = values.map .constant ∧ applyMethod method values = .ok (some v) ∧
        e = .constant v := by
  unfold foldCall at h
  split at h
  · rename_i values hvalues
    obtain ⟨outcome, happly, h⟩ := bind_eq_ok.1 h
    cases outcome with
    | none => exact .inl (Except.ok.inj h).symm
    | some v =>
      exact .inr ⟨values, v, mapM_constant?_eq_some.1 hvalues, happly, (Except.ok.inj h).symm⟩
  · exact .inl (Except.ok.inj h).symm

theorem foldConstruct_cases (members : List (String × Expression)) :
    foldConstruct members = .construct members ∨
      ∃ entries, members = constantMembers entries ∧
        foldConstruct members = .constant (.obj (Json.collectMembers entries)) := by
  unfold foldConstruct
  split
  · rename_i entries hentries
    exact .inr ⟨entries, mapM_constantMember_eq_some.1 hentries, rfl⟩
  · exact .inl rfl

/-- Folding makes no parameter. -/
theorem eq_parameter_of_fold {name : String} (h : e.fold = .ok (.parameter name)) :
    e = .parameter name := by
  cases e with
  | parameter name' =>
    cases h
    rfl
  | constant v | source type | hitField field => cases h
  | member target m =>
    rw [fold] at h
    obtain ⟨target', -, h⟩ := bind_eq_ok.1 h
    rcases foldMember_cases target' m with ⟨-, hfolded⟩ | ⟨v, -, hfolded⟩ <;>
      rw [hfolded] at h <;> cases h
  | binary op left right =>
    rw [fold] at h
    obtain ⟨left', -, h⟩ := bind_eq_ok.1 h
    obtain ⟨right', -, h⟩ := bind_eq_ok.1 h
    rcases foldBinary_cases h with h | ⟨l, r, v, -, -, -, h⟩ <;> cases h
  | unary op operand =>
    rw [fold] at h
    obtain ⟨operand', -, h⟩ := bind_eq_ok.1 h
    rcases foldUnary_cases h with h | ⟨o, v, -, -, h⟩ <;> cases h
  | call method args =>
    rw [fold] at h
    obtain ⟨args', -, h⟩ := bind_eq_ok.1 h
    rcases foldCall_cases h with h | ⟨values, v, -, -, h⟩ <;> cases h
  | lambda name' body =>
    rw [fold] at h
    obtain ⟨body', -, h⟩ := bind_eq_ok.1 h
    cases h
  | construct members =>
    rw [fold] at h
    obtain ⟨members', -, h⟩ := bind_eq_ok.1 h
    rcases foldConstruct_cases members' with hfolded | ⟨entries, -, hfolded⟩ <;>
      rw [hfolded] at h <;> cases h

/-! ### The induction -/

/-- A relation between an expression and what it folds to, given for parts and then for compounds
of folded parts. A member of a parameter, which may be a field, is a case of its own. -/
structure FoldCases (R : Expression → Expression → Prop) : Prop where
  constant (v : Json) : R (.constant v) (.constant v)
  source (type : DocumentType) : R (.source type) (.source type)
  parameter (name : String) : R (.parameter name) (.parameter name)
  hitField (field : HitField) : R (.hitField field) (.hitField field)
  field (name : String) (m : Member) :
    R (.member (.parameter name) m) (.member (.parameter name) m)
  member {target target' : Expression} (m : Member) (hne : ∀ name, target ≠ .parameter name)
    (hne' : ∀ name, target' ≠ .parameter name) (hfold : target.fold = .ok target')
    (htarget : R target target') : R (.member target m) (foldMember target' m)
  binary {op : BinaryOperator} {left left' right right' e : Expression} (hleft : R left left')
    (hright : R right right') (h : foldBinary op left' right' = .ok e) : R (.binary op left right) e
  unary {op : UnaryOperator} {operand operand' e : Expression} (hoperand : R operand operand')
    (h : foldUnary op operand' = .ok e) : R (.unary op operand) e
  call {method : String} {args args' : List Expression} {e : Expression}
    (hargs : List.Forall₂ R args args') (h : foldCall method args' = .ok e) :
    R (.call method args) e
  lambda {name : String} {body body' : Expression} (hbody : R body body') :
    R (.lambda name body) (.lambda name body')
  construct {members members' : List (String × Expression)}
    (hmembers : List.Forall₂ (fun a b => a.1 = b.1 ∧ R a.2 b.2) members members') :
    R (.construct members) (foldConstruct members')

namespace FoldCases

variable {R : Expression → Expression → Prop}

mutual

theorem of_fold (H : FoldCases R) : (e : Expression) → {e' : Expression} → e.fold = .ok e' → R e e'
  | .constant v, e', h => by
    cases h
    exact H.constant v
  | .source type, e', h => by
    cases h
    exact H.source type
  | .parameter name, e', h => by
    cases h
    exact H.parameter name
  | .hitField field, e', h => by
    cases h
    exact H.hitField field
  | .member target m, e', h => by
    rw [fold] at h
    obtain ⟨target', htarget, h⟩ := bind_eq_ok.1 h
    cases h
    by_cases hparameter : ∃ name, target = .parameter name
    · obtain ⟨name, rfl⟩ := hparameter
      cases htarget
      exact H.field name m
    · have hne : ∀ name, target ≠ .parameter name := fun name h => hparameter ⟨name, h⟩
      have hne' : ∀ name, target' ≠ .parameter name := by
        rintro name rfl
        exact hne name (eq_parameter_of_fold htarget)
      exact H.member m hne hne' htarget (of_fold H target htarget)
  | .binary op left right, e', h => by
    rw [fold] at h
    obtain ⟨left', hleft, h⟩ := bind_eq_ok.1 h
    obtain ⟨right', hright, h⟩ := bind_eq_ok.1 h
    exact H.binary (of_fold H left hleft) (of_fold H right hright) h
  | .unary op operand, e', h => by
    rw [fold] at h
    obtain ⟨operand', hoperand, h⟩ := bind_eq_ok.1 h
    exact H.unary (of_fold H operand hoperand) h
  | .call method args, e', h => by
    rw [fold] at h
    obtain ⟨args', hargs, h⟩ := bind_eq_ok.1 h
    exact H.call (of_foldArgs H args hargs) h
  | .lambda name body, e', h => by
    rw [fold] at h
    obtain ⟨body', hbody, h⟩ := bind_eq_ok.1 h
    cases h
    exact H.lambda (of_fold H body hbody)
  | .construct members, e', h => by
    rw [fold] at h
    obtain ⟨members', hmembers, h⟩ := bind_eq_ok.1 h
    cases h
    exact H.construct (of_foldMembers H members hmembers)

theorem of_foldArgs (H : FoldCases R) : (args : List Expression) → {args' : List Expression} →
    foldArgs args = .ok args' → List.Forall₂ R args args'
  | [], args', h => by
    cases h
    exact .nil
  | e :: rest, args', h => by
    rw [foldArgs] at h
    obtain ⟨e', he, h⟩ := bind_eq_ok.1 h
    obtain ⟨rest', hrest, h⟩ := bind_eq_ok.1 h
    cases h
    exact .cons (of_fold H e he) (of_foldArgs H rest hrest)

theorem of_foldMembers (H : FoldCases R) : (members : List (String × Expression)) →
    {members' : List (String × Expression)} → foldMembers members = .ok members' →
    List.Forall₂ (fun a b => a.1 = b.1 ∧ R a.2 b.2) members members'
  | [], members', h => by
    cases h
    exact .nil
  | (name, e) :: rest, members', h => by
    rw [foldMembers] at h
    obtain ⟨e', he, h⟩ := bind_eq_ok.1 h
    obtain ⟨rest', hrest, h⟩ := bind_eq_ok.1 h
    cases h
    exact .cons ⟨rfl, of_fold H e he⟩ (of_foldMembers H rest hrest)

end

end FoldCases

/-! ### Fields -/

section Fields

variable {m : FieldMapping} {pathPrefix : String}

theorem memberPath?_member {last : Member} (h : ∀ name, target ≠ .parameter name) :
    (member target last).memberPath? m pathPrefix =
      (target.memberPath? m pathPrefix).map fun parent => (m.fieldName parent.1 last, last) := by
  rw [memberPath?]
  · cases target.memberPath? m pathPrefix <;> rfl
  · exact h

theorem foldCases_memberPath? :
    FoldCases fun e e' => e'.memberPath? m pathPrefix = e.memberPath? m pathPrefix where
  constant _ := rfl
  source _ := rfl
  parameter _ := rfl
  hitField _ := rfl
  field _ _ := rfl
  member {target target'} last hne hne' _ htarget := by
    rw [memberPath?_member hne, ← htarget]
    rcases foldMember_cases target' last with ⟨-, hfolded⟩ | ⟨v, rfl, hfolded⟩
    · rw [hfolded, memberPath?_member hne']
    · rw [hfolded]
      rfl
  binary _ _ h := by
    rcases foldBinary_cases h with rfl | ⟨_, _, _, -, -, -, rfl⟩ <;> rfl
  unary {op operand operand' e} hoperand h := by
    cases op with
    | convert =>
      rw [memberPath?, ← hoperand]
      rcases foldUnary_cases h with rfl | ⟨o, v, rfl, -, rfl⟩
      · rw [memberPath?]
      · rfl
    | not | negate =>
      rcases foldUnary_cases h with rfl | ⟨_, _, -, -, rfl⟩ <;> rfl
  call _ h := by
    rcases foldCall_cases h with rfl | ⟨_, _, -, -, rfl⟩ <;> rfl
  lambda _ := rfl
  construct {members members'} _ := by
    rcases foldConstruct_cases members' with hfolded | ⟨_, -, hfolded⟩ <;> rw [hfolded] <;> rfl

/-- Folding neither makes a field of a document nor loses one. -/
theorem memberPath?_fold (h : e.fold = .ok e') :
    e'.memberPath? m pathPrefix = e.memberPath? m pathPrefix :=
  foldCases_memberPath?.of_fold e h

theorem field?_member {last : Member} :
    (member target last).field? m pathPrefix = (member target last).memberPath? m pathPrefix := by
  rw [field?] <;> simp

theorem foldCases_field? :
    FoldCases fun e e' => e'.field? m pathPrefix = e.field? m pathPrefix where
  constant _ := rfl
  source _ := rfl
  parameter _ := rfl
  hitField _ := rfl
  field _ _ := rfl
  member {target target'} last hne hne' hfold _ := by
    rcases foldMember_cases target' last with ⟨-, hfolded⟩ | ⟨v, rfl, hfolded⟩
    · rw [hfolded, field?_member, field?_member, memberPath?_member hne, memberPath?_member hne',
        memberPath?_fold hfold]
    · rw [hfolded, field?_member, memberPath?_member hne, ← memberPath?_fold hfold]
      rfl
  binary _ _ h := by
    rcases foldBinary_cases h with rfl | ⟨_, _, _, -, -, -, rfl⟩ <;> rfl
  unary {op operand operand' e} hoperand h := by
    cases op with
    | convert =>
      rw [field?, ← hoperand]
      rcases foldUnary_cases h with rfl | ⟨o, v, rfl, -, rfl⟩
      · rw [field?]
      · rfl
    | not | negate =>
      rcases foldUnary_cases h with rfl | ⟨_, _, -, -, rfl⟩ <;> rfl
  call _ h := by
    rcases foldCall_cases h with rfl | ⟨_, _, -, -, rfl⟩ <;> rfl
  lambda _ := rfl
  construct {members members'} _ := by
    rcases foldConstruct_cases members' with hfolded | ⟨_, -, hfolded⟩ <;> rw [hfolded] <;> rfl

theorem booleanField?_fold (h : e.fold = .ok e') :
    e'.booleanField? m pathPrefix = e.booleanField? m pathPrefix := by
  rw [booleanField?, booleanField?, foldCases_field?.of_fold e h]

end Fields

end Expression

end SearchQuery
