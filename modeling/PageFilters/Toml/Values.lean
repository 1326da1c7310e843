import PageFilters.Toml.Scalars
import PageFilters.Toml.Table

/-!
# Reading TOML: values

Arrays stand between brackets and go over as many lines as they like; tables
between braces stand on one line.
-/

namespace PageFilters.Toml

open Reader

/-- Reads items and the bracket behind them, at most so many; those read
already are given last item first. -/
def arrayItems (item : Reader Node) (read : List Node) : (items : Nat) → Reader (List Node)
  | 0 => failure
  | items + 1 => do
      between
      if ← accept "]" then return read.reverse
      let node ← item
      between
      if ← accept "," then arrayItems item (node :: read) items
      else
        expect "]"
        return (node :: read).reverse

def assignment (value : Reader Node) : Reader Assignment := do
  let (path, key) ← key
  expect "="
  blanks
  return ⟨path, key, ← value⟩

/-- Reads assignments with commas between them and the brace behind them, at
most so many. -/
def braceItems (value : Reader Node) (read : List Assignment) :
    (items : Nat) → Reader (List Assignment)
  | 0 => failure
  | items + 1 => do
      let item ← assignment value
      blanks
      if ← accept "," then braceItems value (item :: read) items
      else
        expect "\x7d"
        return (item :: read).reverse

/-- Reads what is between braces. -/
def braceTable (value : Reader Node) : Reader Entries := do
  blanks
  if ← accept "\x7d" then return []
  let items ← braceItems value [] ((← get).rest.length + 1)
  StateT.lift (Entries.assignAll items [])

/-- Reads a value with at most so many levels of parts. -/
def value : (levels : Nat) → Reader Node
  | 0 => plain
  | levels + 1 => do
      match ← peek with
      | some '[' =>
          let (items, span) ← spanned do
            skip 1
            arrayItems (value levels) [] ((← get).rest.length + 1)
          return .array items span
      | some '\x7b' =>
          let (entries, span) ← spanned do
            skip 1
            braceTable (value levels)
          return .table .braces (some span) entries
      | _ => plain
where
  /-- Reads a value without parts. -/
  plain : Reader Node := do
    let (scalar, span) ← spanned scalar
    return .scalar scalar span

end PageFilters.Toml
