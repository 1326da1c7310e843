import PageFilters.Text.Utf8

/-!
# Hexadecimal text

Octets are written as two lower-case digits each.
-/

namespace PageFilters.Text

/-- The lower-case digit of a value below sixteen. -/
def hexDigit (value : Nat) : Char :=
  "0123456789abcdef".toList.getD value '0'

/-- The two digits of an octet, the high one first. -/
def hexPair (octet : UInt8) : List Char :=
  [hexDigit (octet.toNat / 16), hexDigit (octet.toNat % 16)]

def hex (bytes : Bytes) : String :=
  String.ofList (bytes.flatMap hexPair)

end PageFilters.Text
