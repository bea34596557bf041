import SearchQuery.Binary64.Basic

/-!
# Shortest decimals

`Decimal.shortest x` is the decimal with the fewest digits that reads back as `x`: for one digit,
two digits, and so on, the two neighbours of `x` on that decimal grid are tried, and the first grid
with a neighbour in the rounding interval of `x` wins. Of two such neighbours the nearer is taken,
and of two equally near ones the even one.

`Decimal.text` writes a decimal: positionally when the exponent of its leading digit is in
`positional`, otherwise with one leading digit and a signed exponent.
-/

namespace SearchQuery

/-- The number `digits * 10 ^ exponent`. -/
structure Decimal where
  digits : Nat
  exponent : Int
  deriving DecidableEq

namespace Decimal

/-- The number of decimal digits, one for zero. -/
def digitCount (n : Nat) : Nat := (Nat.toDigits 10 n).length

/-- The exponent of the leading digit of the positive ratio `num / den`. -/
def leadingExponent (num den : Nat) : Int :=
  if den ≤ num then (digitCount (num / den) : Int) - 1 else -(digitCount ((den - 1) / num) : Int)

/-- The positive reals that round to one number, over a common denominator. -/
structure Interval where
  low : Nat
  value : Nat
  high : Nat
  denominator : Nat
  closed : Bool

/-- The reals that round to a nonzero magnitude. The gap below a power of two is half the one above
it, and an even significand takes both ends. -/
def Interval.of (x : Binary64) : Interval :=
  let gap := Nat.pow 2 x.exponent
  let below := if Nat.pow 2 53 ≤ x.rank ∧ x.rank % Nat.pow 2 52 = 0 then gap else 2 * gap
  ⟨4 * x.magnitude - below, 4 * x.magnitude, 4 * x.magnitude + 2 * gap,
    4 * Binary64.unitsPerOne, x.significand % 2 == 0⟩

/-- The point of the interval on the grid of multiples of `10 ^ exponent`, if there is one. -/
def Interval.gridPoint? (i : Interval) (exponent : Int) : Option Decimal :=
  let up := if exponent < 0 then Nat.pow 10 exponent.natAbs else 1
  let step := i.denominator * (if exponent < 0 then 1 else Nat.pow 10 exponent.natAbs)
  let inside (n : Nat) : Bool :=
    if i.closed then i.low * up ≤ n * step && n * step ≤ i.high * up
    else i.low * up < n * step && n * step < i.high * up
  let floor := i.value * up / step
  let twice := 2 * (i.value * up % step)
  let nearer := if twice < step then floor else if step < twice then floor + 1
    else floor + floor % 2
  let other := if nearer = floor then floor + 1 else floor
  if inside nearer then some ⟨nearer, exponent⟩
  else if inside other then some ⟨other, exponent⟩ else none

/-- The same number without trailing zeros among its digits. -/
def trim (d : Decimal) (fuel : Nat) : Decimal :=
  match fuel with
  | 0 => d
  | fuel + 1 =>
    if d.digits ≠ 0 ∧ d.digits % 10 = 0 then trim ⟨d.digits / 10, d.exponent + 1⟩ fuel else d

/-- The shortest decimal that reads back as a magnitude; no magnitude needs more than 17 digits. -/
def shortest (x : Binary64) : Decimal :=
  if x.rank = 0 then ⟨0, 0⟩
  else
    let i := Interval.of x
    let lead := leadingExponent i.value i.denominator
    match (List.range 17).findSome? fun (n : Nat) => i.gridPoint? (lead - n) with
    | some d => d.trim 17
    | none => ⟨0, 0⟩

/-- The exponents of the leading digit that are written positionally. -/
def positional (exponent : Int) : Bool := -5 ≤ exponent && exponent ≤ 15

/-- The text of a decimal: `0.00015`, `12.0`, `1.5e+16`, `5e-324`. -/
def text (d : Decimal) : String :=
  let digits := Nat.toDigits 10 d.digits
  let lead := (digits.length : Int) - 1 + d.exponent
  if positional lead then
    if lead < 0 then
      "0." ++ String.ofList (List.replicate (lead.natAbs - 1) '0' ++ digits)
    else
      let whole := lead.toNat + 1
      let padded := digits ++ List.replicate (whole - digits.length) '0'
      let fraction := padded.drop whole
      String.ofList (padded.take whole) ++ "." ++
        (if fraction.isEmpty then "0" else String.ofList fraction)
  else
    let fraction := digits.drop 1
    String.ofList (digits.take 1) ++
      (if fraction.isEmpty then "" else "." ++ String.ofList fraction) ++
      (if lead < 0 then "e-" else "e+") ++ toString lead.natAbs

end Decimal

/-- The shortest text that reads back as the number, with a sign also on a negative zero. -/
def Binary64.text (x : Binary64) : String :=
  (if x.negative then "-" else "") ++ (Decimal.shortest x).text

/-- The name of an outcome that is no number. -/
def Binary64.Rounded.text : Binary64.Rounded → String
  | .finite x => x.text
  | .infinite false => "inf"
  | .infinite true => "-inf"
  | .undefined => "NaN"

end SearchQuery
