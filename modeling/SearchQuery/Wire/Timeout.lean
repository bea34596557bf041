import SearchQuery.Json.Basic

/-!
# Time limits

A time limit is sent in the largest of three units that holds it as a whole number: minutes,
seconds or milliseconds.
-/

namespace SearchQuery

inductive Timeout where
  | millis (n : Nat)
  | seconds (n : Nat)
  | minutes (n : Nat)
  deriving DecidableEq

namespace Timeout

/-- The limit of a number of milliseconds; none is not sent. Milliseconds are kept to 64 bits. -/
def ofMillis? (millis : Nat) : Option Timeout :=
  if millis = 0 then none
  else if millis % 1000 ≠ 0 then some (.millis (millis % Nat.pow 2 64))
  else if millis / 1000 % 60 ≠ 0 then some (.seconds (millis / 1000))
  else some (.minutes (millis / 1000 / 60))

/-- The form in a body: a bare number counts milliseconds. -/
def toJson : Timeout → Json
  | .millis n => .int n
  | .seconds n => .str (toString n ++ "s")
  | .minutes n => .str (toString n ++ "m")

/-- The form in an address. -/
def text : Timeout → String
  | .millis n => toString n ++ "ms"
  | .seconds n => toString n ++ "s"
  | .minutes n => toString n ++ "m"

end Timeout

end SearchQuery
