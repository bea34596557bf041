import SearchQuery.Binary64.Basic

/-!
# JSON values

Integers and floating-point numbers are different values, and the members of an object keep the
order in which they were written.

* `insertMember`: a new name goes to the end, a known one keeps its place and takes the new value.
* `same`: two values are the same when they agree up to the order of members and the sign of zeros.
* `int64?`, `nat64?`, `float?`: the readings of a number, each with its range.
-/

namespace SearchQuery

/-- A JSON value. An integer written in text lies between `-2 ^ 63` and `2 ^ 64 - 1`. -/
inductive Json where
  | null
  | bool (value : Bool)
  | int (value : Int)
  | float (value : Binary64)
  | str (text : String)
  | arr (items : List Json)
  | obj (members : List (String × Json))
  deriving Inhabited

namespace Json

/-! ## Equality -/

mutual

private def beq : Json → Json → Bool
  | .null, .null => true
  | .bool a, .bool b => a == b
  | .int a, .int b => a == b
  | .float a, .float b => a == b
  | .str a, .str b => a == b
  | .arr a, .arr b => beqItems a b
  | .obj a, .obj b => beqMembers a b
  | _, _ => false

private def beqItems : List Json → List Json → Bool
  | [], [] => true
  | a :: as, b :: bs => beq a b && beqItems as bs
  | _, _ => false

private def beqMembers : List (String × Json) → List (String × Json) → Bool
  | [], [] => true
  | (k, a) :: as, (l, b) :: bs => k == l && beq a b && beqMembers as bs
  | _, _ => false

end

mutual

private theorem beq_iff : (a b : Json) → (beq a b = true ↔ a = b)
  | .null, b => by cases b <;> simp [beq]
  | .bool a, b => by cases b <;> simp [beq]
  | .int a, b => by cases b <;> simp [beq]
  | .float a, b => by cases b <;> simp [beq]
  | .str a, b => by cases b <;> simp [beq]
  | .arr a, b => by cases b <;> simp [beq, beqItems_iff a]
  | .obj a, b => by cases b <;> simp [beq, beqMembers_iff a]

private theorem beqItems_iff : (a b : List Json) → (beqItems a b = true ↔ a = b)
  | [], b => by cases b <;> simp [beqItems]
  | a :: as, b => by cases b <;> simp [beqItems, beq_iff a, beqItems_iff as]

private theorem beqMembers_iff :
    (a b : List (String × Json)) → (beqMembers a b = true ↔ a = b)
  | [], b => by cases b <;> simp [beqMembers]
  | (k, a) :: as, b => by
    cases b <;> simp [beqMembers, beq_iff a, beqMembers_iff as, Prod.ext_iff]

end

instance : DecidableEq Json := fun a b => decidable_of_iff _ (beq_iff a b)

/-! ## Members -/

/-- Give a member a value: in place when the name is known, at the end otherwise. -/
def insertMember (name : String) (value : Json) : List (String × Json) → List (String × Json)
  | [] => [(name, value)]
  | (k, v) :: rest =>
    if k = name then (k, value) :: rest else (k, v) :: insertMember name value rest

/-- The members that result from giving each name its value in turn. -/
def collectMembers (entries : List (String × Json)) : List (String × Json) :=
  entries.foldl (fun members entry => insertMember entry.1 entry.2 members) []

/-- The member of that name, when the value is an object that has one. -/
def member? (name : String) : Json → Option Json
  | .obj members => members.lookup name
  | _ => none

/-! ## Sameness -/

/-- Insert a member in front of the first one whose name is not smaller. -/
def insertByName (entry : String × Json) : List (String × Json) → List (String × Json)
  | [] => [entry]
  | head :: rest =>
    if head.1 < entry.1 then head :: insertByName entry rest else entry :: head :: rest

mutual

/-- The value with members sorted by name and zeros unsigned, at every depth. -/
def canonical : Json → Json
  | .float x => .float x.unsignZero
  | .arr items => .arr (canonicalItems items)
  | .obj members => .obj (canonicalMembers members)
  | v => v

def canonicalItems : List Json → List Json
  | [] => []
  | v :: rest => canonical v :: canonicalItems rest

def canonicalMembers : List (String × Json) → List (String × Json)
  | [] => []
  | (k, v) :: rest => insertByName (k, canonical v) (canonicalMembers rest)

end

/-- Sameness ignores the order of members and the sign of zeros; `1` and `1.0` differ. -/
def same (a b : Json) : Bool := a.canonical == b.canonical

/-- Append a value unless the same one is there. -/
def pushNew (values : List Json) (v : Json) : List Json :=
  if values.any (·.same v) then values else values ++ [v]

/-- The values without repetitions, in the order of their first occurrences. -/
def distinct (values : List Json) : List Json := values.foldl pushNew []

/-! ## Readings -/

/-- The number as a signed 64-bit integer. -/
def int64? : Json → Option Int
  | .int i => if -Int.pow 2 63 ≤ i ∧ i < Int.pow 2 63 then some i else none
  | _ => none

/-- The number as an unsigned 64-bit integer. -/
def nat64? : Json → Option Nat
  | .int i => if 0 ≤ i ∧ i < Int.pow 2 64 then some i.toNat else none
  | _ => none

/-- The number as the nearest binary64 number. -/
def float? : Json → Option Binary64
  | .int i => some (Binary64.ofInt i)
  | .float x => some x
  | _ => none

/-- The items of an array. -/
def items? : Json → Option (List Json)
  | .arr items => some items
  | _ => none

def text? : Json → Option String
  | .str text => some text
  | _ => none

def isNull : Json → Bool
  | .null => true
  | _ => false

end Json

end SearchQuery
