import SearchQuery.Error

/-!
# Query operators

A query is a chain of operators over the documents of a type. `Expression.chain` takes the chain
apart, outermost operator first, and `Operator.ofCall` recognises one operator by its method and
the arguments after the source.
-/

namespace SearchQuery

/-- What a terminal operator asks for: one hit, or the number of hits. -/
inductive Terminal where
  /-- A strict one fails on a second hit; one with a default gives null without a hit. -/
  | oneHit (strict orDefault : Bool)
  | count
  deriving DecidableEq

namespace Terminal

/-- How many hits have to be seen; two show that there is more than one. -/
def size? : Terminal → Option Nat
  | .oneHit strict _ => some (if strict then 2 else 1)
  | .count => none

def display : Terminal → String
  | .oneHit strict orDefault =>
    "OneHit \x7b strict: " ++ toString strict ++ ", or_default: " ++ toString orDefault ++ " \x7d"
  | .count => "Count"

end Terminal

inductive Operator where
  | filterBy (predicate : Expression)
  /-- A predicate that always counts for the score. -/
  | scoreBy (predicate : Expression)
  | matchText (text : String)
  | sortBy (key : Expression) (ascending : Bool)
  | sortByScore (ascending : Bool)
  | select (selector : Expression)
  | skip (count : Nat)
  | take (count : Nat)
  | terminal (method : String) (terminal : Terminal) (predicate : Option Expression)
  /-- A change of the static type alone. -/
  | retype

namespace Operator

/-- The terminal operator of that name. -/
def terminal? : String → Option Terminal
  | "first" => some (.oneHit false false)
  | "first_or_default" => some (.oneHit false true)
  | "single" => some (.oneHit true false)
  | "single_or_default" => some (.oneHit true true)
  | "count" | "long_count" => some .count
  | _ => none

/-- The operator that sorts by a key, and its direction. -/
def sortDirection? : String → Option Bool
  | "order_by" | "then_by" => some true
  | "order_by_descending" | "then_by_descending" => some false
  | _ => none

/-- The operator that sorts by the score, and its direction. -/
def scoreDirection? : String → Option Bool
  | "order_by_score" | "then_by_score" => some true
  | "order_by_score_descending" | "then_by_score_descending" => some false
  | _ => none

/-- A number of documents. -/
def countArgument (method : String) (e : Expression) : Except Error.Unsupported Nat :=
  match e.constant?.bind Json.nat64? with
  | some n => .ok n
  | none => .error (.countArgument method e)

/-- An operator with one argument after its source. -/
def ofUnaryCall (method : String) (e : Expression) : Except Error.Unsupported Operator :=
  match method with
  | "where" => .ok (.filterBy e)
  | "query" => .ok (.scoreBy e)
  | "query_string" =>
    match e.constant?.bind Json.text? with
    | some text => .ok (.matchText text)
    | none => .error (.queryStringArgument e)
  | "select" => .ok (.select e)
  | "skip" => (countArgument method e).map .skip
  | "take" => (countArgument method e).map .take
  | "group_by" => .error .groupByAlone
  | _ =>
    match sortDirection? method, terminal? method with
    | some ascending, _ => .ok (.sortBy e ascending)
    | none, some t => .ok (.terminal method t (some e))
    | none, none => .error (.methodArguments method 1)

/-- An operator without arguments after its source. -/
def ofNullaryCall (method : String) : Except Error.Unsupported Operator :=
  match method with
  | "of_type" | "cast" => .ok .retype
  | "group_by" => .error .groupByAlone
  | _ =>
    match scoreDirection? method, terminal? method with
    | some ascending, _ => .ok (.sortByScore ascending)
    | none, some t => .ok (.terminal method t none)
    | none, none => .error (.methodArguments method 0)

/-- The operator that a method is, given the arguments after its source. -/
def ofCall (method : String) (args : List Expression) : Except Error.Unsupported Operator :=
  match args with
  | [] => ofNullaryCall method
  | [e] => ofUnaryCall method e
  | args =>
    if method = "group_by" then .error .groupByAlone
    else .error (.methodArguments method args.length)

end Operator

/-! ## Chains -/

/-- What a chain of operators ends in. -/
inductive ChainRoot where
  | documents (type : DocumentType)
  /-- A call without any argument. -/
  | bareCall (method : String)
  | other (e : Expression)

/-- A chain of operators, outermost first; each is a method and the arguments after its source. -/
structure Chain where
  steps : List (String × List Expression)
  root : ChainRoot

namespace Expression

/-- Take a chain of operators apart; conversions between them leave no trace. -/
def chain : Expression → Chain
  | .call method (inner :: args) => ⟨(method, args) :: inner.chain.steps, inner.chain.root⟩
  | .call method [] => ⟨[], .bareCall method⟩
  | .source type => ⟨[], .documents type⟩
  | .unary .convert operand => operand.chain
  | e => ⟨[], .other e⟩

/-- The document type at the bottom of a chain. -/
def chainSource? : Expression → Option DocumentType
  | .source type => some type
  | .call _ (inner :: _) => inner.chainSource?
  | .unary _ operand => operand.chainSource?
  | _ => none

end Expression

end SearchQuery
