import SearchQuery.Expression.Evaluation

/-!
# Folding constants

`Expression.fold` evaluates every part of an expression that depends on no document. Sources,
parameters and metadata stay as they are, and a fault in a constant part is a fault of the whole.
-/

namespace SearchQuery

namespace Expression

/-- A call whose arguments are folded; it is a constant when its method can be applied to them. -/
def foldCall (method : String) (args : List Expression) : Except Fault Expression :=
  match args.mapM constant? with
  | some values => do
    match ← applyMethod method values with
    | some v => return .constant v
    | none => return .call method args
  | none => return .call method args

/-- An object whose members are folded. -/
def foldConstruct (members : List (String × Expression)) : Expression :=
  match members.mapM fun entry => entry.2.constant?.map (entry.1, ·) with
  | some entries => .constant (.obj (Json.collectMembers entries))
  | none => .construct members

def foldBinary (op : BinaryOperator) (left right : Expression) : Except Fault Expression :=
  match left, right with
  | .constant l, .constant r => (op.apply l r).map .constant
  | _, _ => .ok (.binary op left right)

def foldUnary (op : UnaryOperator) (operand : Expression) : Except Fault Expression :=
  match operand with
  | .constant v => (op.apply v).map .constant
  | _ => .ok (.unary op operand)

def foldMember (target : Expression) (m : Member) : Expression :=
  match target with
  | .constant v => .constant (readMember m.name v)
  | _ => .member target m

mutual

/-- The expression with every part folded that is constant. -/
def fold : Expression → Except Fault Expression
  | .constant v => .ok (.constant v)
  | .source type => .ok (.source type)
  | .parameter name => .ok (.parameter name)
  | .hitField field => .ok (.hitField field)
  | .member target m => do return foldMember (← fold target) m
  | .binary op left right => do
    let l ← fold left
    let r ← fold right
    foldBinary op l r
  | .unary op operand => do foldUnary op (← fold operand)
  | .call method args => do foldCall method (← foldArgs args)
  | .lambda p body => do return .lambda p (← fold body)
  | .construct members => do return foldConstruct (← foldMembers members)

def foldArgs : List Expression → Except Fault (List Expression)
  | [] => .ok []
  | e :: rest => do
    let e' ← fold e
    let rest' ← foldArgs rest
    return e' :: rest'

def foldMembers : List (String × Expression) → Except Fault (List (String × Expression))
  | [] => .ok []
  | (name, e) :: rest => do
    let e' ← fold e
    let rest' ← foldMembers rest
    return (name, e') :: rest'

end

end Expression

end SearchQuery
