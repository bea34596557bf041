/-!
# Ranges of code points

Unicode properties and case mappings are given by short lists of ranges. A range takes every code
point or every second one, since capital and small letters often alternate.
-/

namespace SearchQuery

namespace Text

/-- The code points `first, first + step, …` up to `last`. -/
structure CodeRange where
  first : Nat
  last : Nat
  step : Nat

def CodeRange.contains (r : CodeRange) (n : Nat) : Bool :=
  r.first ≤ n && n ≤ r.last && (n - r.first) % r.step == 0

/-- Code points that are all mapped to the one `offset` further on. -/
structure CaseRange where
  first : Nat
  last : Nat
  step : Nat
  offset : Int

def CaseRange.contains (r : CaseRange) (n : Nat) : Bool :=
  r.first ≤ n && n ≤ r.last && (n - r.first) % r.step == 0

def CaseRange.apply (r : CaseRange) (n : Nat) : Nat := (n + r.offset).toNat

end Text

end SearchQuery
