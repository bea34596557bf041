import SearchQuery.Binary64.Decimal
import SearchQuery.Expression.Basic
import SearchQuery.Json.Printer
import SearchQuery.Text.Case

/-!
# Operators on constants

What an operator or a pure method gives on JSON values.

* `compareValues`: numbers by value, also across integers and floats, texts by code point, booleans
  with false first; other pairs are not comparable.
* `looselyEqual`: equality by that order where it applies, sameness elsewhere.
* `BinaryOperator.apply`, `UnaryOperator.apply`: integers within 64 bits stay exact or fail, other
  numbers are computed in binary64 and must stay finite, and null absorbs arithmetic.
* `applyMethod`: the methods that are functions of their arguments alone.
-/

namespace SearchQuery

/-! ## Faults -/

/-- Why an operator or a method has no value on its operands. -/
inductive Fault where
  | nonFinite (outcome : Binary64.Rounded)
  | incomparable (left right : Json)
  | notBooleans (left right : Json)
  | integerRange (op : BinaryOperator) (left right : Int)
  | binaryOperands (op : BinaryOperator) (left right : Json)
  | unaryOperand (op : UnaryOperator) (operand : Json)
  | negationRange (operand : Int)
  | absRange (operand : Int)
  deriving DecidableEq

def Fault.message : Fault → String
  | .nonFinite outcome => "non-finite result " ++ outcome.text
  | .incomparable l r => "cannot compare " ++ l.render ++ " with " ++ r.render
  | .notBooleans l r =>
    "logical operator needs booleans, got " ++ l.render ++ " and " ++ r.render
  | .integerRange op l r =>
    "integer overflow or division by zero in " ++ toString l ++ " " ++ op.name ++ " " ++ toString r
  | .binaryOperands op l r =>
    "cannot apply " ++ op.name ++ " to " ++ l.render ++ " and " ++ r.render
  | .unaryOperand op v => "cannot apply " ++ op.name ++ " to " ++ v.render
  | .negationRange i => "integer overflow negating " ++ toString i
  | .absRange i => "integer overflow in abs(" ++ toString i ++ ")"

/-! ## Comparison -/

/-- The order of two values, where there is one. -/
def compareValues : Json → Json → Option Ordering
  | .str a, .str b => some (compare a b)
  | .bool a, .bool b => some (compare a b)
  | a, b =>
    match a.int64?, b.int64? with
    | some x, some y => some (compare x y)
    | _, _ =>
      match a.float?, b.float? with
      | some x, some y => some (x.cmp y)
      | _, _ => none

/-- Equality that does not tell `1` from `1.0`. -/
def looselyEqual (a b : Json) : Bool :=
  match compareValues a b with
  | some order => order == .eq
  | none => a.same b

/-- The text of a value in a concatenation: raw for a text, empty for null, JSON for the rest. -/
def asText : Json → String
  | .str text => text
  | .null => ""
  | v => v.render

/-! ## Arithmetic -/

/-- The integer, if it fits in 64 bits. -/
def fitInt64 (i : Int) : Option Int :=
  if -Int.pow 2 63 ≤ i ∧ i < Int.pow 2 63 then some i else none

/-- A float result, which must be finite. -/
def finite : Binary64.Rounded → Except Fault Json
  | .finite x => .ok (.float x)
  | outcome => .error (.nonFinite outcome)

namespace BinaryOperator

/-- The 64-bit integer result; division goes toward zero and excludes its one overflow. -/
def onIntegers (op : BinaryOperator) (x y : Int) : Option Int :=
  match op with
  | .add => fitInt64 (x + y)
  | .subtract => fitInt64 (x - y)
  | .multiply => fitInt64 (x * y)
  | .divide => if y = 0 then none else fitInt64 (x.tdiv y)
  | .modulo => if y = 0 ∨ (x = -Int.pow 2 63 ∧ y = -1) then none else some (x.tmod y)
  | _ => none

def onFloats (op : BinaryOperator) (x y : Binary64) : Binary64.Rounded :=
  match op with
  | .add => x.add y
  | .subtract => x.sub y
  | .multiply => x.mul y
  | .divide => x.div y
  | .modulo => x.rem y
  | _ => .undefined

/-- Arithmetic on numbers, with null absorbing. -/
def arithmetic (op : BinaryOperator) (l r : Json) : Except Fault Json :=
  if l.isNull || r.isNull then .ok .null
  else
    match l.int64?, r.int64? with
    | some x, some y =>
      match op.onIntegers x y with
      | some i => .ok (.int i)
      | none => .error (.integerRange op x y)
    | _, _ =>
      match l.float?, r.float? with
      | some x, some y => finite (op.onFloats x y)
      | _, _ => .error (.binaryOperands op l r)

/-- Whether an order of the operands satisfies a relational operator. -/
def holdsFor (op : BinaryOperator) (order : Ordering) : Bool :=
  match op with
  | .lessThan => order == .lt
  | .lessThanOrEqual => order != .gt
  | .greaterThan => order == .gt
  | _ => order != .lt

/-- A comparison with null is false. -/
def relational (op : BinaryOperator) (l r : Json) : Except Fault Json :=
  if l.isNull || r.isNull then .ok (.bool false)
  else
    match compareValues l r with
    | some order => .ok (.bool (op.holdsFor order))
    | none => .error (.incomparable l r)

def logical (op : BinaryOperator) : Json → Json → Except Fault Json
  | .bool a, .bool b => .ok (.bool (if op = .andAlso then a && b else a || b))
  | l, r => .error (.notBooleans l r)

/-- A sum with a text is a concatenation. -/
def sum (l r : Json) : Except Fault Json :=
  if l.text?.isSome || r.text?.isSome then .ok (.str (asText l ++ asText r))
  else arithmetic .add l r

/-- The value of a binary operator on two constants. -/
def apply (op : BinaryOperator) (l r : Json) : Except Fault Json :=
  match op with
  | .equal => .ok (.bool (looselyEqual l r))
  | .notEqual => .ok (.bool (!looselyEqual l r))
  | .lessThan | .lessThanOrEqual | .greaterThan | .greaterThanOrEqual => op.relational l r
  | .andAlso | .orElse => op.logical l r
  | .add => sum l r
  | .subtract | .multiply | .divide | .modulo => op.arithmetic l r

end BinaryOperator

/-- The value of a unary operator on a constant. -/
def UnaryOperator.apply (op : UnaryOperator) (v : Json) : Except Fault Json :=
  match op, v with
  | .convert, v => .ok v
  | .not, .bool b => .ok (.bool !b)
  | .negate, .null => .ok .null
  | op, v =>
    match op, v.int64?, v.float? with
    | .negate, some i, _ =>
      match fitInt64 (-i) with
      | some j => .ok (.int j)
      | none => .error (.negationRange i)
    | .negate, none, some x => .ok (.float x.neg)
    | _, _, _ => .error (.unaryOperand op v)

/-! ## Methods -/

def absolute (v : Json) : Except Fault (Option Json) :=
  match v.int64?, v.float? with
  | some i, _ =>
    match fitInt64 i.natAbs with
    | some j => .ok (some (.int j))
    | none => .error (.absRange i)
  | none, some x => .ok (some (.float x.abs))
  | none, none => .ok none

/-- The nearest whole number, a half going away from zero. -/
def rounded (v : Json) : Except Fault (Option Json) :=
  match v.int64?, v.float? with
  | some i, _ => .ok (some (.int i))
  | none, some x => (finite x.round).map some
  | none, none => .ok none

/-- The value of a pure method, receiver first; `none` if the method is no function of these
constants. -/
def applyMethod (method : String) (args : List Json) : Except Fault (Option Json) :=
  match method, args with
  | "to_lower", [.str s] => .ok (some (.str (Text.lower s)))
  | "to_upper", [.str s] => .ok (some (.str (Text.upper s)))
  | "trim", [.str s] => .ok (some (.str (Text.trim s)))
  | "len", [.str s] => .ok (some (.int s.length))
  | "len", [.arr items] => .ok (some (.int items.length))
  | "concat", parts => .ok (some (.str (String.join (parts.map asText))))
  | "starts_with", [.str s, .str p] => .ok (some (.bool (Text.startsWith s p)))
  | "ends_with", [.str s, .str p] => .ok (some (.bool (Text.endsWith s p)))
  | "contains", [.str s, .str p] => .ok (some (.bool (Text.contains s p)))
  | "contains", [.arr items, needle] =>
    .ok (some (.bool (items.any fun item => looselyEqual item needle)))
  | "abs", [v] => absolute v
  | "round", [v] => rounded v
  | _, _ => .ok none

/-- The value of a member read on a constant: a member of an object, with ASCII case ignored if
need be, or the size of a text or an array. -/
def readMember (name : String) : Json → Json
  | .obj members =>
    match members.lookup name with
    | some v => v
    | none =>
      match members.find? fun entry => Text.equalIgnoringCase entry.1 name with
      | some entry => entry.2
      | none => .null
  | .str s => if Text.equalIgnoringCase name "length" then .int s.length else .null
  | .arr items =>
    if Text.equalIgnoringCase name "length" || Text.equalIgnoringCase name "count" then
      .int items.length
    else .null
  | _ => .null

end SearchQuery
