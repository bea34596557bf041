/-!
# Percent encoding

Every byte of the UTF-8 form is written as a percent sign and two hexadecimal digits, except for
ASCII letters, digits and four marks.
-/

namespace SearchQuery

namespace Percent

/-- The bytes that stand for themselves. -/
def isUnreserved (b : UInt8) : Bool :=
  (0x30 ≤ b && b ≤ 0x39) || (0x41 ≤ b && b ≤ 0x5a) || (0x61 ≤ b && b ≤ 0x7a) ||
    b == 0x2d || b == 0x2e || b == 0x5f || b == 0x7e

/-- A hexadecimal digit with a capital letter. -/
def hexDigit (n : Nat) : Char := if n < 10 then Char.ofNat (48 + n) else Char.ofNat (55 + n)

def encodeByte (b : UInt8) : List Char :=
  if isUnreserved b then [Char.ofNat b.toNat]
  else ['%', hexDigit (b.toNat / 16), hexDigit (b.toNat % 16)]

def encodeChars (cs : List Char) : List Char :=
  cs.flatMap fun c => (String.utf8EncodeChar c).flatMap encodeByte

def encode (text : String) : String := String.ofList (encodeChars text.toList)

end Percent

end SearchQuery
