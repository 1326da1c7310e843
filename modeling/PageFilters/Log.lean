/-!
# Log events

What happens on the way is told as events: a level, a message and named values.
`Logs` is implemented by the monads in which events can be told, and `Logged`
keeps them.
-/

namespace PageFilters

namespace Log

inductive Level where
  | error
  | warn
  | info
  | debug
  deriving Repr, DecidableEq, Inhabited

/-- Levels in order, the gravest first. -/
def Level.rank : Level → Nat
  | .error => 1
  | .warn => 2
  | .info => 3
  | .debug => 4

def Level.name : Level → String
  | .error => "ERROR"
  | .warn => "WARN"
  | .info => "INFO"
  | .debug => "DEBUG"

/-- Something that has happened; the values are given as they are written. -/
structure Event where
  level : Level
  message : String
  values : List (String × String) := []
  deriving Repr, DecidableEq, Inhabited

end Log

/-- Monads in which events can be told. -/
class Logs (m : Type → Type) where
  tell : Log.Event → m Unit

/-- Without effects, events are lost. -/
instance : Logs Id where
  tell _ := pure ()

/-- Keeps events in order. -/
abbrev Logged := StateM (List Log.Event)

instance : Logs Logged where
  tell event := modify (· ++ [event])

instance {m : Type → Type} {σ : Type} [Monad m] [Logs m] : Logs (StateT σ m) where
  tell event := StateT.lift (Logs.tell event)

end PageFilters
