import PageFilters.Text.PrintableTable

/-!
# Quoted text

A text between double quotes, on one line whatever it holds: quotes,
backslashes and the usual controls have escapes of their own, and every other
character that does not print is written by number.
-/

namespace PageFilters.Text

/-- Whether a character has to be written by number. -/
def isUnprintable (char : Char) : Bool :=
  if char.toNat < 0x80 then
    char.toNat < 0x20 || char.toNat == 0x7F
  else
    unprintableTable.holds char.toNat || extenderTable.holds char.toNat

/-- A character as it is written between the quotes. -/
def quoteChar (char : Char) : List Char :=
  match char with
  | '\x00' => ['\\', '0']
  | '\t' => ['\\', 't']
  | '\n' => ['\\', 'n']
  | '\r' => ['\\', 'r']
  | '\x22' => ['\\', '\x22']
  | '\\' => ['\\', '\\']
  | _ =>
      if isUnprintable char then
        "\\u\x7b".toList ++ Nat.toDigits 16 char.toNat ++ ['\x7d']
      else
        [char]

def quote (text : String) : String :=
  "\"" ++ String.ofList (text.toList.flatMap quoteChar) ++ "\""

end PageFilters.Text
