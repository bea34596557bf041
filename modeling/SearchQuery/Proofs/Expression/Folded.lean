import Mathlib.Tactic.Common
import SearchQuery.Expression.Folding
import SearchQuery.Plan.Field

/-!
# Folded expressions

An expression is folded when folding leaves it alone and it is no constant. Compounds with a folded
part in front are folded, and so are the fields of documents.
-/

namespace SearchQuery

namespace Expression

structure IsFolded (e : Expression) : Prop where
  fold_eq : e.fold = .ok e
  not_constant : e.constant? = none

/-! ### Compounds without constants -/

theorem foldCall_eq_self {method : String} {first : Expression} {rest : List Expression}
    (h : first.constant? = none) :
    foldCall method (first :: rest) = .ok (.call method (first :: rest)) := by
  have hvalues : (first :: rest).mapM constant? = none := by
    rw [List.mapM_cons, h]
    rfl
  rw [foldCall, hvalues]
  rfl

theorem foldBinary_eq_self {op : BinaryOperator} {left right : Expression}
    (h : left.constant? = none) : foldBinary op left right = .ok (.binary op left right) := by
  cases left <;> first | rfl | cases h

theorem foldBinary_eq_self_right {op : BinaryOperator} {left right : Expression}
    (h : right.constant? = none) : foldBinary op left right = .ok (.binary op left right) := by
  cases left <;> cases right <;> first | rfl | cases h

theorem foldUnary_eq_self {op : UnaryOperator} {operand : Expression}
    (h : operand.constant? = none) : foldUnary op operand = .ok (.unary op operand) := by
  cases operand <;> first | rfl | cases h

theorem foldMember_eq_self {target : Expression} {last : Member} (h : target.constant? = none) :
    foldMember target last = .member target last := by
  cases target <;> first | rfl | cases h

theorem IsFolded.unary {op : UnaryOperator} {operand : Expression} (h : operand.IsFolded) :
    (Expression.unary op operand).IsFolded := by
  refine ⟨?_, rfl⟩
  rw [fold, h.fold_eq]
  exact foldUnary_eq_self h.not_constant

theorem IsFolded.member {target : Expression} {last : Member} (h : target.IsFolded) :
    (Expression.member target last).IsFolded := by
  refine ⟨?_, rfl⟩
  rw [fold, h.fold_eq]
  exact congrArg Except.ok (foldMember_eq_self h.not_constant)

theorem IsFolded.binary {op : BinaryOperator} {left right : Expression} (hl : left.IsFolded)
    (hr : right.IsFolded) : (Expression.binary op left right).IsFolded := by
  refine ⟨?_, rfl⟩
  rw [fold, hl.fold_eq, hr.fold_eq]
  exact foldBinary_eq_self hl.not_constant

/-! ### Fields -/

variable {m : FieldMapping} {pathPrefix : String}

theorem isFolded_of_memberPath? {e : Expression} {x : String × Member}
    (h : e.memberPath? m pathPrefix = some x) : e.IsFolded := by
  induction e using memberPath?.induct generalizing x with
  | case1 operand ih =>
    rw [memberPath?] at h
    exact (ih h).unary
  | case2 name last => exact ⟨rfl, rfl⟩
  | case3 target last hparameter ih =>
    rw [memberPath?] at h
    · obtain ⟨parent, hparent, -⟩ := Option.bind_eq_some_iff.1 h
      exact (ih hparent).member
    · exact hparameter
  | case4 e hconvert hparameter hmember =>
    rw [memberPath?] at h
    · cases h
    all_goals assumption

theorem isFolded_of_field? {e : Expression} {x : String × Member}
    (h : e.field? m pathPrefix = some x) : e.IsFolded := by
  induction e using field?.induct with
  | case1 field => exact ⟨rfl, rfl⟩
  | case2 operand ih =>
    rw [field?] at h
    exact (ih h).unary
  | case3 e hhit hconvert =>
    rw [field?] at h
    · exact isFolded_of_memberPath? h
    all_goals assumption

end Expression

end SearchQuery
