import PageFilters.Number.Binary64

/-!
# Documents of keys and values

What a TOML document says: tables from keys to nodes, in the order of the
document.  Keys and nodes remember where they are written, and tables how they
have come about, which decides whether they can be added to.
-/

namespace PageFilters.Toml

/-- A part of a document, in characters from its start. -/
structure Span where
  start : Nat
  stop : Nat
  deriving Repr, DecidableEq, Inhabited

/-- One part of a key as it is written. -/
structure Key where
  text : String
  span : Span
  deriving Repr, DecidableEq, Inhabited

inductive Scalar where
  | string (text : String)
  | integer (value : Int)
  | float (value : Number.Binary64)
  | boolean (value : Bool)
  /-- A date, a time of day or both, as it is written. -/
  | moment (written : String)
  deriving Repr, DecidableEq, Inhabited

/-- How a table has come about. -/
inductive TableForm where
  /-- By a header of its own. -/
  | header
  /-- On the way to the table of a header. -/
  | passing
  /-- On the way to the last part of a dotted key. -/
  | dotted
  /-- Between braces. -/
  | braces
  deriving Repr, DecidableEq, Inhabited

/-- What stands under a key. -/
inductive Node where
  | scalar (value : Scalar) (span : Span)
  | array (items : List Node) (span : Span)
  /-- Tables made in passing or by dotted keys are written nowhere. -/
  | table (form : TableForm) (span : Option Span) (entries : List (Key × Node))
  /-- Tables of one repeated header, the last one apart. -/
  | tables (earlier : List (Span × List (Key × Node))) (last : Span × List (Key × Node))
  deriving Repr, Inhabited

/-- The entries of a table in order. -/
abbrev Entries := List (Key × Node)

namespace Node

/-- Where a node is written. -/
def span? : Node → Option Span
  | .scalar _ span => some span
  | .array _ span => some span
  | .table _ span _ => span
  | .tables earlier last =>
      some ⟨((earlier.map (·.1)).headD last.1).start, last.1.stop⟩

def typeName : Node → String
  | .scalar (.string _) _ => "string"
  | .scalar (.integer _) _ => "integer"
  | .scalar (.float _) _ => "float"
  | .scalar (.boolean _) _ => "boolean"
  | .scalar (.moment _) _ => "datetime"
  | .array .. => "array"
  | .table .braces .. => "inline table"
  | .table .. => "table"
  | .tables .. => "array of tables"

end Node

end PageFilters.Toml
