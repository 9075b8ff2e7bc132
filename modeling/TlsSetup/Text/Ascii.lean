/-!
# ASCII letter case and white space

Names of hosts, engines and issuers ignore the case of ASCII letters only; every other character
stands for itself.
-/

namespace TlsSetup.Text

/-- A text with its ASCII capitals replaced by small letters. -/
def lowerAscii (s : String) : String := s.map Char.toLower

/-- The small letter of an ASCII capital; any other byte is itself. -/
def lowerByte (b : UInt8) : UInt8 := if 65 ≤ b ∧ b ≤ 90 then b + 32 else b

/-- Blank, tab, line feed, form feed and carriage return. -/
def isBlankByte (b : UInt8) : Bool := b == 32 || b == 9 || b == 10 || b == 12 || b == 13

end TlsSetup.Text
