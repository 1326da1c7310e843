import PageFilters.Text.LetterTable

/-!
# Character categories

Each test answers for the ASCII characters directly and asks the range tables
for the others.
-/

namespace PageFilters.Text

/-- An ASCII test widened to all characters by a table. -/
def inCategory (ascii : Char → Bool) (table : RangeTable) (char : Char) : Bool :=
  if char.toNat < 0x80 then ascii char else table.holds char.toNat

def isLetter : Char → Bool := inCategory Char.isAlpha letterTable

def isUpper : Char → Bool := inCategory Char.isUpper upperTable

def isLower : Char → Bool := inCategory Char.isLower lowerTable

def isNumber : Char → Bool := inCategory Char.isDigit numberTable

def isDigit : Char → Bool := inCategory Char.isDigit digitTable

/-- Characters that words are made of. -/
def isWord : Char → Bool :=
  inCategory (fun char => char.isAlphanum || char == '_') wordTable

end PageFilters.Text
