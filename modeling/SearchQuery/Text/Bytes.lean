/-!
# Cutting texts by bytes

In UTF-8 a character has one to four bytes. A text can be cut off behind a number of bytes only if a
character ends there.
-/

namespace SearchQuery

namespace Text

/-- The first bytes of a text, if a character ends behind them. -/
def takeBytes? (text : String) (count : Nat) : Option String :=
  if h : (String.Pos.Raw.mk count).IsValid text then some (text.sliceTo (text.pos ⟨count⟩ h)).copy
  else none

/-- The text without its last byte, if there is one and a character ends in front of it. -/
def dropLastByte? (text : String) : Option String :=
  if text.isEmpty then none else takeBytes? text (text.utf8ByteSize - 1)

end Text

end SearchQuery
