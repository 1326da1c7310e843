import PageFilters.Failure
import PageFilters.Text.Utf8

/-!
# Output

A sink takes octets up to a limit.  What goes beyond is refused: the sink keeps
the octets that still fit, and the write fails.
-/

namespace PageFilters

/-- Takes octets, and keeps what it has taken. -/
structure Sink where
  written : Text.Bytes := []
  /-- Number of octets that can be taken altogether. -/
  limit : Option Nat := none
  /-- Why octets beyond the limit are refused. -/
  fullReason : String := ""
  /-- Why flushing is refused, if it is. -/
  flushReason : Option String := none
  deriving Repr, DecidableEq, Inhabited

namespace Sink

/-- The octets that still fit of those to be written. -/
def fitting (sink : Sink) (bytes : Text.Bytes) : Text.Bytes :=
  match sink.limit with
  | none => bytes
  | some limit => bytes.take (limit - sink.written.length)

def write (sink : Sink) (bytes : Text.Bytes) : Except Failure Unit × Sink :=
  let taken := sink.fitting bytes
  let outcome :=
    if taken.length < bytes.length then .error (.transfer sink.fullReason) else .ok ()
  (outcome, { sink with written := sink.written ++ taken })

def flush (sink : Sink) : Except Failure Unit :=
  match sink.flushReason with
  | some reason => .error (.transfer reason)
  | none => .ok ()

/-- Writes texts one after the other and flushes them.  The first failure ends
it. -/
def deliver (sink : Sink) : List String → Except Failure Unit × Sink
  | [] => (sink.flush, sink)
  | text :: texts =>
      match sink.write (Text.encode text.toList) with
      | (.ok (), sink) => sink.deliver texts
      | (.error failure, sink) => (.error failure, sink)

end Sink

end PageFilters
