import PageFilters.Text.Digits
import PageFilters.Toml.Reader

/-!
# Reading TOML: strings and keys

Strings between quotes know escapes, strings between apostrophes do not.  A
tripled mark at either end makes a string that can go over several lines.
Keys are bare words or strings on one line.
-/

namespace PageFilters.Toml

open Reader

/-- The character of a code point, none if there is none. -/
def scalarOf? (digits : List Char) : Option Char :=
  let value := Text.numeral 16 digits
  if digits.all Text.isHexDigit && value.isValidChar then some (Char.ofNat value) else none

/-- The character for which an escape of one letter stands. -/
def escaped? : Char → Option Char
  | 'b' => some '\x08'
  | 'f' => some '\x0c'
  | 'n' => some '\n'
  | 'r' => some '\r'
  | 't' => some '\t'
  | '\\' => some '\\'
  | '\x22' => some '\x22'
  | _ => none

/-- Reads an escape behind its backslash: the character it stands for, and the
text behind it. -/
def takeEscape (text : List Char) : Option (Char × List Char) :=
  match text with
  | 'u' :: rest =>
      if rest.length < 4 then none
      else (scalarOf? (rest.take 4)).map fun char => (char, rest.drop 4)
  | 'U' :: rest =>
      if rest.length < 8 then none
      else (scalarOf? (rest.take 8)).map fun char => (char, rest.drop 8)
  | letter :: rest => (escaped? letter).map fun char => (char, rest)
  | [] => none

theorem length_takeEscape_lt {text rest : List Char} {char : Char}
    (taken : takeEscape text = some (char, rest)) : rest.length < text.length := by
  unfold takeEscape at taken
  split at taken
  · split at taken
    · simp at taken
    · obtain ⟨_, _, equal⟩ := Option.map_eq_some_iff.1 taken
      simp only [← (Prod.mk.inj equal).2, List.length_drop, List.length_cons]
      omega
  · split at taken
    · simp at taken
    · obtain ⟨_, _, equal⟩ := Option.map_eq_some_iff.1 taken
      simp only [← (Prod.mk.inj equal).2, List.length_drop, List.length_cons]
      omega
  · obtain ⟨_, _, equal⟩ := Option.map_eq_some_iff.1 taken
    simp only [← (Prod.mk.inj equal).2, List.length_cons]
    omega
  · simp at taken

/-- Takes a string up to the quote that closes it; what has been read of it is
given last character first. -/
def takeQuoted (read : List Char) (text : List Char) : Option (List Char × List Char) :=
  match text with
  | [] => none
  | '\x22' :: rest => some (read.reverse, rest)
  | '\\' :: rest =>
      match _taken : takeEscape rest with
      | some (char, rest) => takeQuoted (char :: read) rest
      | none => none
  | char :: rest => if isTextChar char then takeQuoted (char :: read) rest else none
termination_by text.length
decreasing_by
  · have shorter := length_takeEscape_lt _taken
    simp only [List.length_cons]
    omega
  · simp

/-- Takes a string up to the apostrophe that closes it. -/
def takeLiteral (text : List Char) : Option (List Char × List Char) :=
  let content := text.takeWhile fun char => isTextChar char && char != '\x27'
  match text.drop content.length with
  | '\x27' :: rest => some (content, rest)
  | _ => none

/-- Whether a backslash in front of a text ends a line: only blanks come before
the line's end. -/
def endsLine (text : List Char) : Bool :=
  match text.dropWhile isLineBlank with
  | '\n' :: _ => true
  | '\r' :: '\n' :: _ => true
  | _ => false

/-- Takes the marks behind the three that close a string: up to two of them
belong to it. -/
def takeExtraMarks (mark : Char) (read rest : List Char) : Option (List Char × List Char) :=
  let extra := rest.takeWhile (· == mark)
  if extra.length ≤ 2 then some (read.reverse ++ extra, rest.drop extra.length) else none

/-- Takes a string over several lines up to the quotes that close it.  While
`folding`, blanks and line ends are passed over. -/
def takeQuotedLines (folding : Bool) (read : List Char) (text : List Char) :
    Option (List Char × List Char) :=
  match text with
  | [] => none
  | '\x22' :: '\x22' :: '\x22' :: rest => takeExtraMarks '\x22' read rest
  | '\\' :: rest =>
      if endsLine rest then takeQuotedLines true read rest
      else
        match _taken : takeEscape rest with
        | some (char, rest) => takeQuotedLines false (char :: read) rest
        | none => none
  | '\r' :: '\n' :: rest => takeQuotedLines folding (if folding then read else '\n' :: read) rest
  | '\n' :: rest => takeQuotedLines folding (if folding then read else '\n' :: read) rest
  | char :: rest =>
      if folding && isLineBlank char then takeQuotedLines true read rest
      else if isTextChar char then takeQuotedLines false (char :: read) rest
      else none
termination_by text.length
decreasing_by
  all_goals first
    | (have shorter := length_takeEscape_lt _taken
       simp only [List.length_cons]
       omega)
    | (simp only [List.length_cons]; omega)

/-- Takes a string over several lines up to the apostrophes that close it. -/
def takeLiteralLines (read : List Char) : (text : List Char) → Option (List Char × List Char)
  | [] => none
  | '\x27' :: '\x27' :: '\x27' :: rest => takeExtraMarks '\x27' read rest
  | '\r' :: '\n' :: rest => takeLiteralLines ('\n' :: read) rest
  | '\n' :: rest => takeLiteralLines ('\n' :: read) rest
  | char :: rest => if isTextChar char then takeLiteralLines (char :: read) rest else none

/-- Reads a string on one line. -/
def lineString : Reader String := do
  if ← accept "\"" then return String.ofList (← scan (takeQuoted []))
  else
    expect "'"
    return String.ofList (← scan takeLiteral)

def string : Reader String := do
  if ← accept "\"\"\"" then
    let _ ← newline
    return String.ofList (← scan (takeQuotedLines false []))
  else if ← accept "'''" then
    let _ ← newline
    return String.ofList (← scan (takeLiteralLines []))
  else
    lineString

/-- Characters of bare keys. -/
def isBareChar (char : Char) : Bool :=
  char.isAlphanum || char == '_' || char == '-'

def keyPart : Reader Key := do
  let (text, span) ← spanned do
    match ← peek with
    | some '\x22' => lineString
    | some '\x27' => lineString
    | _ =>
        let word ← run isBareChar
        if word.isEmpty then failure
        return String.ofList word
  return ⟨text, span⟩

/-- Reads a key of at most so many parts behind those read already, the last of
which comes first. -/
def keyParts (read : List Key) : (parts : Nat) → Reader (List Key × Key)
  | 0 => failure
  | parts + 1 => do
      blanks
      let key ← keyPart
      blanks
      if ← accept "." then keyParts (key :: read) parts
      else return (read.reverse, key)

/-- The greatest depth to which tables and arrays are nested. -/
def depthLimit : Nat := 79

/-- Reads a key: the parts before the last one, and the last one. -/
def key : Reader (List Key × Key) := keyParts [] depthLimit

end PageFilters.Toml
