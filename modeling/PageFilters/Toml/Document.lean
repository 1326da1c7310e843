import PageFilters.Toml.Values

/-!
# Reading TOML: documents

A document is a sequence of assignments and headers; the assignments behind a
header add to its table.  `parse?` gives the table of the whole document.
-/

namespace PageFilters.Toml

open Reader

/-- What a line of a document says. -/
inductive Statement where
  | assignment (assignment : Assignment)
  | header (header : Header)
  deriving Repr, Inhabited

def header : Reader Header := do
  let ((repeated, path, key), span) ← spanned do
    let repeated ← accept "[["
    unless repeated do expect "["
    let (path, key) ← key
    expect (if repeated then "]]" else "]")
    return (repeated, path, key)
  return ⟨path, key, repeated, span⟩

/-- Reads statements up to the end of the document, on at most so many lines. -/
def statements (read : List Statement) : (lines : Nat) → Reader (List Statement)
  | 0 => failure
  | lines + 1 => do
      blanks
      match ← peek with
      | none => return read.reverse
      | some '[' => do
          let header ← header
          lineEnd
          statements (.header header :: read) lines
      | some char => do
          if char == '#' || char == '\n' || char == '\r' then
            lineEnd
            statements read lines
          else
            let assignment ← assignment (value depthLimit)
            lineEnd
            statements (.assignment assignment :: read) lines

def document : Reader (List Statement) := do
  let _ ← accept "\ufeff"
  statements [] ((← get).rest.length + 1)

/-- The assignments up to the first header, and the statements from there on. -/
def leadingAssignments : List Statement → List Assignment × List Statement
  | .assignment assignment :: rest =>
      let (assignments, rest) := leadingAssignments rest
      (assignment :: assignments, rest)
  | rest => ([], rest)

theorem length_leadingAssignments_le (statements : List Statement) :
    (leadingAssignments statements).2.length ≤ statements.length := by
  induction statements with
  | nil => simp [leadingAssignments]
  | cons statement rest induction =>
      cases statement with
      | header header => simp [leadingAssignments]
      | assignment assignment =>
          simp only [leadingAssignments, List.length_cons]
          omega

/-- Adds to a table what the statements say. -/
def addStatements (entries : Entries) (statements : List Statement) : Option Entries :=
  match statements with
  | [] => some entries
  | .assignment assignment :: rest => do
      addStatements (← entries.assign assignment.key assignment.node assignment.path) rest
  | .header header :: rest =>
      match Entries.addSection header (leadingAssignments rest).1 entries with
      | some entries => addStatements entries (leadingAssignments rest).2
      | none => none
termination_by statements.length
decreasing_by
  · simp
  · have bounded := length_leadingAssignments_le rest
    simp only [List.length_cons]
    omega

def parse? (text : List Char) : Option Entries := do
  let (statements, _) ← StateT.run document { rest := text }
  addStatements [] statements

end PageFilters.Toml
