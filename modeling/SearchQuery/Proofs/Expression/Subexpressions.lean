import Mathlib.Data.List.Basic
import SearchQuery.Expression.Basic

/-!
# Subexpressions

* `subexpressions`: an expression and everything below it, from left to right.
* `bindings`: what ties an expression to the documents of a query. These are its parameters and the
  lambdas that bind them, its sources, and metadata of hits.
-/

namespace SearchQuery

namespace Expression

mutual

/-- The expression and everything below it. -/
@[simp] def subexpressions : Expression → List Expression
  | .member target m => .member target m :: subexpressions target
  | .binary op left right => .binary op left right :: (subexpressions left ++ subexpressions right)
  | .unary op operand => .unary op operand :: subexpressions operand
  | .call method args => .call method args :: argsSubexpressions args
  | .lambda p body => .lambda p body :: subexpressions body
  | .construct members => .construct members :: membersSubexpressions members
  | e => [e]

@[simp] def argsSubexpressions : List Expression → List Expression
  | [] => []
  | e :: rest => subexpressions e ++ argsSubexpressions rest

@[simp] def membersSubexpressions : List (String × Expression) → List Expression
  | [] => []
  | (_, e) :: rest => subexpressions e ++ membersSubexpressions rest

end

theorem argsSubexpressions_eq (args : List Expression) :
    argsSubexpressions args = args.flatMap subexpressions := by
  induction args with
  | nil => rfl
  | cons e rest ih => rw [argsSubexpressions, ih, List.flatMap_cons]

theorem membersSubexpressions_eq (members : List (String × Expression)) :
    membersSubexpressions members = members.flatMap fun entry => entry.2.subexpressions := by
  induction members with
  | nil => rfl
  | cons entry rest ih => rw [membersSubexpressions, ih, List.flatMap_cons]

/-! ### Bindings -/

/-- What ties an expression to the documents of a query. -/
inductive Binding where
  | parameter (name : String)
  | lambda (parameter : String)
  | source (type : DocumentType)
  | hitField (field : HitField)
  deriving DecidableEq

def binding? : Expression → Option Binding
  | .parameter name => some (.parameter name)
  | .lambda p _ => some (.lambda p)
  | .source type => some (.source type)
  | .hitField field => some (.hitField field)
  | _ => none

/-- The bindings of an expression, from left to right. -/
def bindings (e : Expression) : List Binding := e.subexpressions.filterMap binding?

@[simp] theorem bindings_constant (v : Json) : (constant v).bindings = [] := rfl

@[simp] theorem bindings_member (target : Expression) (m : Member) :
    (member target m).bindings = target.bindings := by
  rw [bindings, subexpressions, List.filterMap_cons_none rfl, ← bindings]

@[simp] theorem bindings_binary (op : BinaryOperator) (left right : Expression) :
    (binary op left right).bindings = left.bindings ++ right.bindings := by
  rw [bindings, subexpressions, List.filterMap_cons_none rfl, List.filterMap_append, ← bindings,
    ← bindings]

@[simp] theorem bindings_unary (op : UnaryOperator) (operand : Expression) :
    (unary op operand).bindings = operand.bindings := by
  rw [bindings, subexpressions, List.filterMap_cons_none rfl, ← bindings]

@[simp] theorem bindings_call (method : String) (args : List Expression) :
    (call method args).bindings = args.flatMap bindings := by
  rw [bindings, subexpressions, List.filterMap_cons_none rfl, argsSubexpressions_eq,
    List.filterMap_flatMap]
  rfl

@[simp] theorem bindings_lambda (p : String) (body : Expression) :
    (lambda p body).bindings = .lambda p :: body.bindings := by
  have hlambda : binding? (lambda p body) = some (.lambda p) := rfl
  rw [bindings, subexpressions, List.filterMap_cons_some hlambda, ← bindings]

@[simp] theorem bindings_construct (members : List (String × Expression)) :
    (construct members).bindings = members.flatMap fun entry => entry.2.bindings := by
  rw [bindings, subexpressions, List.filterMap_cons_none rfl, membersSubexpressions_eq,
    List.filterMap_flatMap]
  rfl

end Expression

end SearchQuery
