import PageFilters.Avatar
import PageFilters.Highlight
import PageFilters.Output

/-!
# Filters

A filter reads all of its input and writes a piece of a page.  The source
filter highlights a file; the email filter puts an avatar in front of an
address.  Only output that is refused makes a filter fail.
-/

namespace PageFilters

def Highlighted.event (highlighted : Highlighted) (filename : String) (inputSize : Nat) :
    Log.Event where
  level := .debug
  message := "Highlighted document"
  values := [
    ("filename", Text.quote filename),
    ("grammar", highlighted.grammar),
    ("by", highlighted.origin.name),
    ("bytes", inputSize.repr)]

def Avatar.event (page : Option String) : Log.Event where
  level := .debug
  message := "Annotating email"
  values := [("page", Text.quote (page.getD "-"))]

variable {m : Type → Type} [Monad m] [Logs m]

/-- Highlights a file and writes it.  The result says how its tokenizer was
found. -/
def sourceFilter (provider : Provider m) (settings : Settings) (sheets : StyleSheets)
    (filename : String) (input : Text.Bytes) (sink : Sink) :
    m (Except Failure Origin × Sink) := do
  let highlighted ← highlight provider settings sheets (Document.ofBytes filename input)
  Logs.tell (highlighted.event filename input.length)
  let (outcome, sink) := sink.deliver [highlighted.html]
  return (outcome.map fun () => highlighted.origin, sink)

/-- Puts an avatar in front of the text of an address, and writes both as a
line. -/
def emailFilter (settings : Settings) (email : String) (page : Option String)
    (input : Text.Bytes) (sink : Sink) : m (Except Failure Unit × Sink) := do
  Logs.tell (Avatar.event page)
  let text := String.ofList (Text.decodeLossy input)
  let line := Avatar.annotate email text settings.avatarBaseUrl settings.avatarSize
  return sink.deliver [line, "\n"]

end PageFilters
