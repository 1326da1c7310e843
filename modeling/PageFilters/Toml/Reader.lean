import PageFilters.Toml.Basic

/-!
# Reading TOML: the small parts

Readers go through the characters of a document and know where they are.
Blanks stand between the parts of a line; comments and line ends only where a
line may end.
-/

namespace PageFilters.Toml

/-- What is left to read, and how many characters have been passed over. -/
structure Cursor where
  rest : List Char
  position : Nat := 0
  deriving Repr, DecidableEq, Inhabited

abbrev Reader := StateT Cursor Option

namespace Reader

def position : Reader Nat := do return (← get).position

def peek : Reader (Option Char) := do return (← get).rest.head?

def skip (count : Nat) : Reader Unit :=
  modify fun cursor => ⟨cursor.rest.drop count, cursor.position + count⟩

def accept (text : String) : Reader Bool := do
  if text.toList.isPrefixOf (← get).rest then
    skip text.length
    return true
  else
    return false

def expect (text : String) : Reader Unit := do
  unless ← accept text do failure

/-- Reads one character of a kind. -/
def charIf (wanted : Char → Bool) : Reader Char := do
  let some char ← peek | failure
  unless wanted char do failure
  skip 1
  return char

/-- Reads the longest run of characters of a kind. -/
def run (wanted : Char → Bool) : Reader (List Char) := do
  let run := (← get).rest.takeWhile wanted
  skip run.length
  return run

/-- Reads what a function takes from the front of a text: it gives its result
and the text behind. -/
def scan {α : Type} (take : List Char → Option (α × List Char)) : Reader α := do
  let text := (← get).rest
  let some (value, rest) := take text | failure
  skip (text.length - rest.length)
  return value

/-- The result of a reader, and the part of the document it has read. -/
def spanned {α : Type} (reader : Reader α) : Reader (α × Span) := do
  let start ← position
  let value ← reader
  return (value, ⟨start, ← position⟩)

end Reader

open Reader

/-- Blanks within a line. -/
def isLineBlank (char : Char) : Bool := char == ' ' || char == '\t'

/-- Characters that can stand in comments and, between apostrophes, in strings:
all but the controls other than the tab. -/
def isTextChar (char : Char) : Bool :=
  char == '\t' || (' ' ≤ char && char != '\x7f')

def blanks : Reader Unit := do
  let _ ← run isLineBlank

def comment : Reader Unit := do
  if (← peek) == some '#' then
    let _ ← run isTextChar

def newline : Reader Bool := do
  if ← accept "\n" then return true
  else accept "\x0d\n"

/-- Passes over what may stand behind the last part of a line. -/
def lineEnd : Reader Unit := do
  blanks
  comment
  unless ← newline do
    unless (← peek).isNone do failure

/-- Passes over blanks, comments and line ends, in so many lines. -/
def emptyLines : (lines : Nat) → Reader Unit
  | 0 => pure ()
  | lines + 1 => do
      blanks
      comment
      if ← newline then emptyLines lines

/-- Passes over blanks, comments and line ends. -/
def between : Reader Unit := do
  emptyLines ((← get).rest.length + 1)

end PageFilters.Toml
