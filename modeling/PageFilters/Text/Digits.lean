/-!
# Digits

Digits of the bases up to sixteen, and the numbers they spell.
-/

namespace PageFilters.Text

/-- Digits of base sixteen in either case. -/
def isHexDigit (char : Char) : Bool :=
  char.isDigit || ('a' ≤ char && char ≤ 'f') || ('A' ≤ char && char ≤ 'F')

/-- The value of a digit in any base up to sixteen. -/
def digitValue (char : Char) : Nat :=
  if char.isDigit then char.toNat - '0'.toNat
  else if char.isUpper then char.toNat - 'A'.toNat + 10
  else char.toNat - 'a'.toNat + 10

/-- The number that digits spell in a base. -/
def numeral (base : Nat) (digits : List Char) : Nat :=
  digits.foldl (fun value digit => value * base + digitValue digit) 0

end PageFilters.Text
