import SearchQuery.Json.Basic

/-!
# Reading JSON text

`Json.parse` reads one value that fills a text; there is no limit on nesting. An integer literal
between `-2 ^ 63` and `2 ^ 64 - 1` other than `-0` is an integer, every other literal a binary64
number. Its significand is kept to 64 bits, taken as a binary64 number and multiplied or divided
by a power of ten, each step rounded.
-/

namespace SearchQuery

namespace Json

/-! ## Numbers -/

/-- The significand of a literal and the power of ten that it counts. -/
structure Significand where
  value : Nat
  exponent : Int

def digitValue (c : Char) : Nat := c.toNat - '0'.toNat

/-- Take a digit before the point; once the significand is full, each further digit counts ten. -/
def Significand.pushWhole (s : Significand) (c : Char) : Significand :=
  if s.exponent = 0 ∧ s.value * 10 + digitValue c < Nat.pow 2 64 then
    ⟨s.value * 10 + digitValue c, 0⟩
  else ⟨s.value, s.exponent + 1⟩

/-- Take the digits after the point for as long as the significand has room. -/
def Significand.pushFraction (s : Significand) : List Char → Significand
  | [] => s
  | c :: rest =>
    if s.value * 10 + digitValue c < Nat.pow 2 64 then
      pushFraction ⟨s.value * 10 + digitValue c, s.exponent - 1⟩ rest
    else s

/-- The largest power of ten in range. -/
def largestTenPow : Binary64 := Binary64.tenPow 308

/-- A number over `10 ^ n`, in steps of at most `10 ^ 308`; zero stays zero. -/
def divTenPow (x : Binary64) (n : Nat) : Option Binary64 :=
  if n ≤ 308 then (x.div (Binary64.tenPow n)).finite?
  else if x.rank = 0 then some x
  else (x.div largestTenPow).finite?.bind fun y => divTenPow y (n - 308)
termination_by n
decreasing_by omega

/-- A number times a power of ten; `none` if it is too large. -/
def scaleByTen (x : Binary64) (exponent : Int) : Option Binary64 :=
  if exponent < 0 then divTenPow x exponent.natAbs
  else if exponent ≤ 308 then (x.mul (Binary64.tenPow exponent.natAbs)).finite?
  else if x.rank = 0 then some x
  else none

/-- Split off the digits in front. -/
def spanDigits (cs : List Char) : List Char × List Char :=
  (cs.takeWhile Char.isDigit, cs.dropWhile Char.isDigit)

/-- The digits of a fraction, if there is one, and what follows. -/
def readFraction : List Char → Option (Option (List Char) × List Char)
  | '.' :: rest =>
    let (digits, rest) := spanDigits rest
    if digits.isEmpty then none else some (some digits, rest)
  | rest => some (none, rest)

/-- The exponent, if there is one, and what follows. -/
def readExponent : List Char → Option (Option Int × List Char)
  | 'e' :: rest => signed rest
  | 'E' :: rest => signed rest
  | rest => some (none, rest)
where
  signed : List Char → Option (Option Int × List Char)
    | '-' :: rest => (unsigned rest).map fun (n, rest) => (some (-(n : Int)), rest)
    | '+' :: rest => (unsigned rest).map fun (n, rest) => (some (n : Int), rest)
    | rest => (unsigned rest).map fun (n, rest) => (some (n : Int), rest)
  unsigned (cs : List Char) : Option (Nat × List Char) :=
    let (digits, rest) := spanDigits cs
    if digits.isEmpty then none
    else some (digits.foldl (fun n c => n * 10 + digitValue c) 0, rest)

def readUnsigned (negative : Bool) (cs : List Char) : Option (Json × List Char) := do
  let (digits, rest) := spanDigits cs
  if digits.isEmpty || (digits.head? == some '0' && digits.length != 1) then none
  let (fraction, rest) ← readFraction rest
  let (exponent, rest) ← readExponent rest
  let whole := digits.foldl Significand.pushWhole ⟨0, 0⟩
  let isInteger := fraction.isNone && exponent.isNone && whole.exponent == 0 &&
    (!negative || (0 < whole.value && whole.value ≤ Nat.pow 2 63))
  if isInteger then
    return (.int (if negative then -(whole.value : Int) else whole.value), rest)
  let s := whole.pushFraction (fraction.getD [])
  let x ← scaleByTen (Binary64.ofInt s.value) (s.exponent + exponent.getD 0)
  return (.float (if negative then x.neg else x), rest)

def readNumber : List Char → Option (Json × List Char)
  | '-' :: rest => readUnsigned true rest
  | rest => readUnsigned false rest

/-! ## Strings -/

def hexValue (c : Char) : Option Nat :=
  if c.isDigit then some (c.toNat - '0'.toNat)
  else if 'a' ≤ c ∧ c ≤ 'f' then some (c.toNat - 'a'.toNat + 10)
  else if 'A' ≤ c ∧ c ≤ 'F' then some (c.toNat - 'A'.toNat + 10)
  else none

def hexUnit (a b c d : Char) : Option Nat := do
  return ((← hexValue a) * 16 + (← hexValue b)) * 256 + ((← hexValue c) * 16 + (← hexValue d))

/-- The character of an escape of one letter. -/
def simpleEscape : Char → Option Nat
  | 'n' => some 10
  | 'r' => some 13
  | 't' => some 9
  | 'b' => some 8
  | 'f' => some 12
  | '"' => some 34
  | '\\' => some 92
  | '/' => some 47
  | _ => none

/-- The code units of a string up to its closing quote, last one first, and what follows. -/
def readUnits (units : List Nat) : List Char → Option (List Nat × List Char)
  | '"' :: rest => some (units, rest)
  | '\\' :: 'u' :: a :: b :: c :: d :: rest =>
    match hexUnit a b c d with
    | some n => readUnits (n :: units) rest
    | none => none
  | '\\' :: e :: rest =>
    match simpleEscape e with
    | some n => readUnits (n :: units) rest
    | none => none
  | c :: rest => if c.toNat < 32 then none else readUnits (c.toNat :: units) rest
  | [] => none

/-- Join surrogate pairs; the units come last one first. -/
def joinUnits (text : List Char) : List Nat → Option (List Char)
  | low :: high :: rest =>
    if 0xdc00 ≤ low ∧ low < 0xe000 then
      if 0xd800 ≤ high ∧ high < 0xdc00 then
        joinUnits (Char.ofNat (0x10000 + (high - 0xd800) * 0x400 + (low - 0xdc00)) :: text) rest
      else none
    else if 0xd800 ≤ low ∧ low < 0xdc00 then none
    else joinUnits (Char.ofNat low :: text) (high :: rest)
  | [unit] => if 0xd800 ≤ unit ∧ unit < 0xe000 then none else some (Char.ofNat unit :: text)
  | [] => some text

/-- A string after its opening quote. -/
def readString (cs : List Char) : Option (String × List Char) := do
  let (units, rest) ← readUnits [] cs
  return (String.ofList (← joinUnits [] units), rest)

/-! ## Values -/

def isBlank (c : Char) : Bool := c == ' ' || c == '\t' || c == '\n' || c == '\r'

def skipBlanks (cs : List Char) : List Char := cs.dropWhile isBlank

mutual

/-- Read one value; the fuel bounds the number of nested readings. -/
def readValue (fuel : Nat) (cs : List Char) : Option (Json × List Char) :=
  match fuel with
  | 0 => none
  | fuel + 1 =>
    match skipBlanks cs with
    | 'n' :: 'u' :: 'l' :: 'l' :: rest => some (.null, rest)
    | 't' :: 'r' :: 'u' :: 'e' :: rest => some (.bool true, rest)
    | 'f' :: 'a' :: 'l' :: 's' :: 'e' :: rest => some (.bool false, rest)
    | '"' :: rest => (readString rest).map fun (text, rest) => (.str text, rest)
    | '[' :: rest =>
      match skipBlanks rest with
      | ']' :: rest => some (.arr [], rest)
      | rest => readItems fuel [] rest
    | '\x7b' :: rest =>
      match skipBlanks rest with
      | '\x7d' :: rest => some (.obj [], rest)
      | rest => readMembers fuel [] rest
    | rest => readNumber rest

/-- Read items up to the closing bracket; those read so far come last one first. -/
def readItems (fuel : Nat) (items : List Json) (cs : List Char) : Option (Json × List Char) :=
  match fuel with
  | 0 => none
  | fuel + 1 =>
    match readValue fuel cs with
    | none => none
    | some (v, rest) =>
      match skipBlanks rest with
      | ',' :: rest => readItems fuel (v :: items) rest
      | ']' :: rest => some (.arr (v :: items).reverse, rest)
      | _ => none

/-- Read members up to the closing brace. -/
def readMembers (fuel : Nat) (members : List (String × Json)) (cs : List Char) :
    Option (Json × List Char) :=
  match fuel with
  | 0 => none
  | fuel + 1 =>
    match skipBlanks cs with
    | '"' :: rest =>
      match readString rest with
      | none => none
      | some (name, rest) =>
        match skipBlanks rest with
        | ':' :: rest =>
          match readValue fuel rest with
          | none => none
          | some (v, rest) =>
            match skipBlanks rest with
            | ',' :: rest => readMembers fuel (insertMember name v members) rest
            | '\x7d' :: rest => some (.obj (insertMember name v members), rest)
            | _ => none
        | _ => none
    | _ => none

end

/-- The value that a text holds, blanks around it apart. -/
def parse (text : String) : Option Json :=
  let cs := text.toList
  match readValue (2 * cs.length + 2) cs with
  | some (v, rest) => if (skipBlanks rest).isEmpty then some v else none
  | none => none

end Json

end SearchQuery
