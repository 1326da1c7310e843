import PageFilters.Toml.Basic

/-!
# Building tables

Assignments and headers add to tables along a path of keys.  What has been
written out stays as it is: a key is assigned once, a table has one header, and
dotted keys extend only tables that dotted keys have made.
-/

namespace PageFilters.Toml

/-- A value under a dotted key: the parts before the last one, the last one, and
what stands there. -/
structure Assignment where
  path : List Key
  key : Key
  node : Node
  deriving Repr, Inhabited

/-- The header of a table, or of one more table of an array. -/
structure Header where
  path : List Key
  key : Key
  repeated : Bool
  span : Span
  deriving Repr, Inhabited

namespace Entries

/-- What stands under a key. -/
def find? (entries : Entries) (text : String) : Option Node :=
  (List.find? (fun entry => entry.1.text == text) entries).map (·.2)

/-- Changes what stands under a key, or adds it at the end. -/
def alter (key : Key) (change : Option Node → Option Node) : Entries → Option Entries
  | [] => (change none).map fun node => [(key, node)]
  | (other, node) :: rest =>
      if other.text == key.text then
        (change (some node)).map fun node => (other, node) :: rest
      else
        (alter key change rest).map ((other, node) :: ·)

/-- Assigns a value to the last part of a key, in the table to which the parts
before it lead. -/
def assign (last : Key) (value : Node) : (path : List Key) → Entries → Option Entries
  | [], entries => alter last (fun | none => some value | some _ => none) entries
  | key :: path, entries =>
      alter key (fun
        | none => (assign last value path []).map (.table .dotted none)
        | some (.table .dotted span inner) =>
            (assign last value path inner).map (.table .dotted span)
        | some (.table .passing span inner) =>
            if path.isEmpty then none
            else (assign last value path inner).map (.table .passing span)
        | some (.tables earlier (span, inner)) =>
            if path.isEmpty then none
            else (assign last value path inner).map fun inner => .tables earlier (span, inner)
        | some _ => none) entries

def assignAll (assignments : List Assignment) (entries : Entries) : Option Entries :=
  assignments.foldlM
    (fun entries assignment => assign assignment.key assignment.node assignment.path entries)
    entries

/-- Changes the table to which a header's path leads. -/
def under (change : Entries → Option Entries) : (path : List Key) → Entries → Option Entries
  | [], entries => change entries
  | key :: path, entries =>
      alter key (fun
        | none => (under change path []).map (.table .passing none)
        | some (.table .braces _ _) => none
        | some (.table form span inner) => (under change path inner).map (.table form span)
        | some (.tables earlier (span, inner)) =>
            (under change path inner).map fun inner => .tables earlier (span, inner)
        | some _ => none) entries

/-- Adds the table of a header.  A table that has only been passed through gets
its header now, and moves to the end. -/
def addTable (header : Header) (assignments : List Assignment) (entries : Entries) :
    Option Entries :=
  let finish (inner : Entries) :=
    (assignAll assignments inner).map fun inner =>
      [(header.key, Node.table .header (some header.span) inner)]
  match find? entries header.key.text with
  | none => (finish []).map (entries ++ ·)
  | some (.table .passing _ inner) =>
      (finish inner).map (entries.filter (·.1.text != header.key.text) ++ ·)
  | some _ => none

/-- Adds one more table to an array of tables. -/
def addElement (header : Header) (assignments : List Assignment) (entries : Entries) :
    Option Entries := do
  let element ← assignAll assignments []
  alter header.key (fun
    | none => some (.tables [] (header.span, element))
    | some (.tables earlier last) => some (.tables (earlier ++ [last]) (header.span, element))
    | some _ => none) entries

def addSection (header : Header) (assignments : List Assignment) (entries : Entries) :
    Option Entries :=
  under (if header.repeated then addElement header assignments else addTable header assignments)
    header.path entries

end Entries

end PageFilters.Toml
