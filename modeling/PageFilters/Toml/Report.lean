import PageFilters.Text.Slice
import PageFilters.Toml.Basic

/-!
# Pointing at a place in a document

A report shows the line of a document in which a span starts, and under it one
caret for each octet of the span that is on the line.
-/

namespace PageFilters.Toml

def repeated (count : Nat) (char : Char) : String :=
  String.ofList (List.replicate count char)

/-- The report that something is wrong with a part of a document. -/
def report (source : List Char) (span : Span) (detail : String) : String :=
  let before := source.take span.start
  let column := (before.reverse.takeWhile (· != '\n')).length
  let line := (source.drop (span.start - column)).takeWhile (· != '\n')
  let number := (before.count '\n' + 1).repr
  let width := Text.size ((source.drop span.start).take (span.stop - span.start))
  let carets := max 1 (min width (Text.size line - column))
  let gutter := repeated (number.length + 1) ' ' ++ "|"
  "TOML parse error at line " ++ number ++ ", column " ++ (column + 1).repr ++ "\n" ++
    gutter ++ "\n" ++
    number ++ " | " ++ String.ofList line ++ "\n" ++
    gutter ++ repeated (column + 1) ' ' ++ repeated carets '^' ++ "\n" ++
    detail ++ "\n"

end PageFilters.Toml
