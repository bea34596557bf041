/-!
# Finite binary64 numbers

A finite binary64 number is a sign and a rank, the number of magnitudes of the format below its
own. Every magnitude is a whole multiple of the least one, `2 ^ -1074`, so `scaled` is an integer
and comparison and arithmetic are exact integer arithmetic followed by one rounding.

* `Rounded`: the outcome of rounding, which may overflow or be undefined.
* `ofRatio`: the number nearest a ratio of such units, ties to the even significand.
* `add`, `sub`, `mul`, `div`, `rem`: the exact result, rounded once.
-/

namespace SearchQuery

/-- A finite binary64 number; its rank orders the magnitudes from zero up. -/
structure Binary64 where
  negative : Bool
  rank : Nat
  rank_lt : rank < 2047 * Nat.pow 2 52
  deriving DecidableEq

namespace Binary64

/-- The number of least magnitudes, `2 ^ -1074`, that make one. -/
def unitsPerOne : Nat := Nat.pow 2 1074

/-- The integer significand: below `2 ^ 52` in the lowest binade, from `2 ^ 52` on above it. -/
def significand (x : Binary64) : Nat :=
  if x.rank < Nat.pow 2 52 then x.rank else Nat.pow 2 52 + x.rank % Nat.pow 2 52

/-- The binary exponent of one significand step, in units. -/
def exponent (x : Binary64) : Nat := x.rank / Nat.pow 2 52 - 1

/-- The magnitude in units. -/
def magnitude (x : Binary64) : Nat := x.significand * Nat.pow 2 x.exponent

/-- The value in units. -/
def scaled (x : Binary64) : Int := if x.negative then -(x.magnitude : Int) else x.magnitude

def zero (negative : Bool) : Binary64 := ⟨negative, 0, by decide⟩

instance : Inhabited Binary64 := ⟨zero false⟩

/-- The same value without the sign of a zero. -/
def unsignZero (x : Binary64) : Binary64 := if x.rank = 0 then zero false else x

def neg (x : Binary64) : Binary64 := ⟨!x.negative, x.rank, x.rank_lt⟩

def abs (x : Binary64) : Binary64 := ⟨false, x.rank, x.rank_lt⟩

/-- The order of the values; the two zeros are equal. -/
def cmp (x y : Binary64) : Ordering := compare x.scaled y.scaled

/-! ## Rounding -/

/-- The outcome of rounding an exact result. -/
inductive Rounded where
  | finite (value : Binary64)
  | infinite (negative : Bool)
  | undefined
  deriving DecidableEq

def Rounded.finite? : Rounded → Option Binary64
  | .finite value => some value
  | _ => none

/-- The whole number nearest `num / den`, a tie going to the even one. -/
def roundHalfEven (num den : Nat) : Nat :=
  let low := num / den
  let twice := 2 * (num % den)
  if twice < den then low else if den < twice then low + 1 else low + low % 2

/-- The rank nearest `num / den` units when the exponent has no upper end. -/
def rankOfRatio (num den : Nat) : Nat :=
  let step := (num / den).log2 - 52
  step * Nat.pow 2 52 + roundHalfEven num (den * Nat.pow 2 step)

def ofRank (negative : Bool) (rank : Nat) : Rounded :=
  if h : rank < 2047 * Nat.pow 2 52 then .finite ⟨negative, rank, h⟩ else .infinite negative

/-- The number nearest `num / den` units, a tie going to the even significand. -/
def ofRatio (negative : Bool) (num den : Nat) : Rounded :=
  ofRank negative (rankOfRatio num den)

/-- The number nearest an integer, never beyond the largest finite one. -/
def ofInt (i : Int) : Binary64 :=
  ⟨decide (i < 0), min (rankOfRatio (i.natAbs * unitsPerOne) 1) (2047 * Nat.pow 2 52 - 1),
    Nat.lt_of_le_of_lt (Nat.min_le_right _ _) (by decide)⟩

/-- The number nearest `10 ^ n`, never beyond the largest finite one. -/
def tenPow (n : Nat) : Binary64 := ofInt (Nat.pow 10 n : Nat)

/-! ## Arithmetic -/

/-- A sum of zero is negative only when both summands are. -/
def add (x y : Binary64) : Rounded :=
  let sum := x.scaled + y.scaled
  if sum = 0 then .finite (zero (x.negative && y.negative))
  else ofRatio (decide (sum < 0)) sum.natAbs 1

def sub (x y : Binary64) : Rounded := x.add y.neg

def mul (x y : Binary64) : Rounded :=
  ofRatio (x.negative != y.negative) (x.magnitude * y.magnitude) unitsPerOne

/-- A nonzero number over zero is infinite; zero over zero is undefined. -/
def div (x y : Binary64) : Rounded :=
  if y.rank = 0 then
    if x.rank = 0 then .undefined else .infinite (x.negative != y.negative)
  else ofRatio (x.negative != y.negative) (x.magnitude * unitsPerOne) y.magnitude

/-- The remainder of the division toward zero; it has the sign of the dividend. -/
def rem (x y : Binary64) : Rounded :=
  if y.rank = 0 then .undefined else ofRatio x.negative (x.magnitude % y.magnitude) 1

/-- The nearest whole number, a half going away from zero. -/
def round (x : Binary64) : Rounded :=
  let whole := (2 * x.magnitude + unitsPerOne) / (2 * unitsPerOne)
  ofRatio x.negative (whole * unitsPerOne) 1

end Binary64

end SearchQuery
