import PageFilters.Toml.Strings

/-!
# Reading TOML: values without parts

Integers of sixty-four bits in four bases, floating-point numbers, dates and
times of day, and the two truth values.  Underscores can stand between digits.
-/

namespace PageFilters.Toml

open Reader

/-- Whether every underscore of a numeral stands between two digits. -/
def wellGrouped : List Char → Bool
  | [] => false
  | '_' :: _ => false
  | [_] => true
  | _ :: '_' :: rest => wellGrouped rest
  | _ :: rest => wellGrouped rest

/-- Reads digits of a base, with underscores between them. -/
def digits (base : Nat) : Reader (List Char) := do
  let isDigit (char : Char) := Text.isHexDigit char && Text.digitValue char < base
  let numeral ← run fun char => isDigit char || char == '_'
  unless wellGrouped numeral do failure
  return numeral.filter (· != '_')

/-- Reads decimal digits; zero comes first only if it stands alone. -/
def wholeDigits : Reader (List Char) := do
  if (← peek) == some '0' then return [← charIf (· == '0')]
  else digits 10

def sign : Reader Bool := do
  if ← accept "-" then return true
  let _ ← accept "+"
  return false

/-- Whether a number is an integer of sixty-four bits. -/
def isLong (value : Int) : Bool :=
  -0x8000000000000000 ≤ value && value < 0x8000000000000000

/-- Reads an integer of any size. -/
def unboundedInteger : Reader Int := do
  if ← accept "0x" then return Int.ofNat (Text.numeral 16 (← digits 16))
  if ← accept "0o" then return Int.ofNat (Text.numeral 8 (← digits 8))
  if ← accept "0b" then return Int.ofNat (Text.numeral 2 (← digits 2))
  let negative ← sign
  let value := Int.ofNat (Text.numeral 10 (← wholeDigits))
  return if negative then -value else value

def integer : Reader Int := do
  let value ← unboundedInteger
  unless isLong value do failure
  return value

/-- Reads the places behind a decimal point, none if there is no point. -/
def places : Reader (List Char) := do
  if ← accept "." then digits 10 else return []

/-- Reads an exponent, if there is one. -/
def exponent : Reader (Option Int) := do
  match ← peek with
  | some 'e' => skip 1
  | some 'E' => skip 1
  | _ => return none
  let negative ← sign
  let value := Int.ofNat (Text.numeral 10 (← digits 10))
  return some (if negative then -value else value)

/-- Reads a floating-point number.  A positive one that is too great is
refused, a negative one is infinite. -/
def float : Reader Number.Binary64 := do
  let negative ← sign
  if ← accept "inf" then return .infinite negative
  if ← accept "nan" then return .nan
  let whole ← wholeDigits
  let places ← places
  let exponent ← exponent
  if places.isEmpty && exponent.isNone then failure
  let coefficient := Text.numeral 10 (whole ++ places)
  match Number.Magnitude.ofDecimal? coefficient (exponent.getD 0 - Int.ofNat places.length) with
  | some magnitude => return .finite negative magnitude
  | none =>
      unless negative do failure
      return .infinite true

/-- Reads a number of `count` digits within bounds. -/
def fixedNumber (count least most : Nat) : Reader Nat := do
  let text := (← get).rest.take count
  unless text.length == count && text.all Char.isDigit do failure
  skip count
  let value := Text.numeral 10 text
  unless least ≤ value && value ≤ most do failure
  return value

def daysIn (year month : Nat) : Nat :=
  if month == 2 then
    if year % 4 == 0 && (year % 100 != 0 || year % 400 == 0) then 29 else 28
  else if [4, 6, 9, 11].contains month then 30
  else 31

def date : Reader Unit := do
  let year ← fixedNumber 4 0 9999
  expect "-"
  let month ← fixedNumber 2 1 12
  expect "-"
  let _ ← fixedNumber 2 1 (daysIn year month)

def time : Reader Unit := do
  let _ ← fixedNumber 2 0 23
  expect ":"
  let _ ← fixedNumber 2 0 59
  expect ":"
  let _ ← fixedNumber 2 0 60
  if ← accept "." then
    let fraction ← run Char.isDigit
    if fraction.isEmpty then failure

/-- Reads the distance from universal time, if there is one. -/
def offset : Reader Unit := do
  match ← peek with
  | some 'Z' => skip 1
  | some 'z' => skip 1
  | some '+' => shift
  | some '-' => shift
  | _ => pure ()
where
  /-- Reads a signed distance in hours and minutes. -/
  shift : Reader Unit := do
    skip 1
    let _ ← fixedNumber 2 0 23
    expect ":"
    let _ ← fixedNumber 2 0 59

/-- Reads the time of day behind a date. -/
def timeBehindDate : Reader Unit := do
  let _ ← charIf fun char => char == 'T' || char == 't' || char == ' '
  time
  offset

/-- Reads a date, a time of day or both. -/
def moment : Reader String := do
  let text := (← get).rest
  (do date; timeBehindDate <|> pure ()) <|> time
  return String.ofList (text.take (text.length - (← get).rest.length))

def boolean : Reader Bool := do
  if ← accept "true" then return true
  expect "false"
  return false

def scalar : Reader Scalar := do
  match ← peek with
  | some '\x22' => return .string (← string)
  | some '\x27' => return .string (← string)
  | some 't' => return .boolean (← boolean)
  | some 'f' => return .boolean (← boolean)
  | _ =>
      (return .moment (← moment)) <|> (return .float (← float)) <|>
        (return .integer (← integer))

end PageFilters.Toml
