import PageFilters.Log
import PageFilters.Text.Quoted

/-!
# Log lines

An event is written on a line of its own: its level, the span in which it has
happened, the message, and the values by name.  A threshold decides which
events are written; the span is an event of level `info` in this respect.
-/

namespace PageFilters.Log

/-- The least grave level that is written; none of them if there is none. -/
abbrev Threshold := Option Level

namespace Threshold

def admits (threshold : Threshold) (level : Level) : Bool :=
  threshold.any fun least => level.rank ≤ least.rank

/-- The threshold that a directive asks for.  Warnings and errors are written
where there is no directive or an unknown one, errors alone where it is empty.
Directives are read as bare levels: those for single targets or spans count as
unknown. -/
def ofDirective (directive : Option String) : Threshold :=
  match directive.map String.toLower with
  | some "" => some .error
  | some "off" => none
  | some "error" => some .error
  | some "info" => some .info
  | some "debug" => some .debug
  | some "trace" => some .debug
  | _ => some .warn

end Threshold

/-- What a program does on behalf of a repository. -/
structure Span where
  name : String
  /-- Label of the repository. -/
  repository : String
  deriving Repr, DecidableEq, Inhabited

/-- A span as it is written in front of messages. -/
def Span.text (span : Span) : String :=
  span.name ++ "\x7brepo=" ++ Text.quote span.repository ++ "\x7d: "

/-- The name of a level, to the right of five columns. -/
def Level.column (level : Level) : String :=
  String.ofList (List.replicate (5 - level.name.length) ' ') ++ level.name

def valueText (value : String × String) : String :=
  " " ++ value.1 ++ "=" ++ value.2

def Event.line (span : Option Span) (event : Event) : String :=
  event.level.column ++ " " ++ (span.map Span.text).getD "" ++ event.message ++
    String.join (event.values.map valueText) ++ "\n"

/-- The lines of the events that a threshold admits. -/
def lines (threshold : Threshold) (span : Span) (events : List Event) : String :=
  let shown := if threshold.admits .info then some span else none
  String.join ((events.filter fun event => threshold.admits event.level).map (·.line shown))

end PageFilters.Log
