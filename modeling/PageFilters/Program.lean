import PageFilters.Filter
import PageFilters.Grammar.Bundled.Catalogue
import PageFilters.Log.Line
import PageFilters.Settings.File
import PageFilters.Theme.Bundled

/-!
# Programs

Each filter is a program: what it filters comes from its input and its first
argument, the settings from a file, and the repository from the environment.
`Program.run` says what a program does in given surroundings, whatever it is
equipped with; `Equipment.bundled` is what it comes with.
-/

namespace PageFilters

inductive Program where
  /-- Highlights the file that is named by the first argument. -/
  | source
  /-- Puts an avatar in front of the address in the first argument; the second
  one names the page. -/
  | email
  deriving Repr, DecidableEq, Inhabited

/-- What a program finds when it is run. -/
structure Surroundings where
  arguments : List Text.Bytes
  environment : Environment
  /-- The home directory of the account under which the program runs. -/
  accountHome : Option Path := none
  /-- The whole input, or why it cannot be read. -/
  input : Except String Text.Bytes
  /-- What is found at each path. -/
  files : Path → FileState
  output : Sink := {}

/-- An argument by its number, decoded. -/
def Surroundings.argument? (surroundings : Surroundings) (index : Nat) : Option String :=
  surroundings.arguments[index]?.map fun bytes => String.ofList (Text.decodeLossy bytes)

/-- The first argument, empty where there is none. -/
def Surroundings.subject (surroundings : Surroundings) : String :=
  (surroundings.argument? 0).getD ""

/-- Whoever answers for tokenizers, and the themes. -/
structure Equipment where
  provider : Provider Logged
  themes : ThemeSet

/-- The provider that guesses among grammars, and some themes. -/
def Equipment.ofGrammars (grammars : GrammarSet) (themes : ThemeSet) : Equipment where
  provider := grammars.provider
  themes := themes

/-- The bundled themes and what is known of the bundled grammars, most of which
leave their text plain. -/
def Equipment.bundled : Equipment :=
  .ofGrammars GrammarSet.bundled BundledTheme.themeSet

structure Outcome where
  exitCode : Nat
  output : Text.Bytes
  log : String
  deriving Repr, DecidableEq, Inhabited

namespace Program

def spanName : Program → String
  | .source => "source_filter"
  | .email => "email_filter"

def failureEvent (surroundings : Surroundings) (failure : Failure) : Program → Log.Event
  | .source => {
      level := .error
      message := "Source filter failed"
      values := [
        ("filename", Text.quote surroundings.subject),
        ("error", failure.message)] }
  | .email => {
      level := .error
      message := "Email filter failed"
      values := [("error", failure.message)] }

def apply (equipment : Equipment) (surroundings : Surroundings) (settings : Settings)
    (input : Text.Bytes) : Program → Logged (Except Failure Unit × Sink)
  | .source => do
      let sheets := StyleSheets.ofSettings equipment.themes settings
      let (outcome, sink) ← sourceFilter equipment.provider settings sheets
        surroundings.subject input surroundings.output
      return (outcome.map fun _ => (), sink)
  | .email =>
      emailFilter settings surroundings.subject (surroundings.argument? 1) input
        surroundings.output

def filter (program : Program) (equipment : Equipment) (surroundings : Surroundings) :
    Logged (Except Failure Unit × Sink) :=
  match surroundings.input with
  | .error reason => pure (.error (.transfer reason), surroundings.output)
  | .ok input => do
      let path := Settings.path surroundings.environment surroundings.accountHome
      let settings ← Settings.load path.shown (surroundings.files path)
      program.apply equipment surroundings settings input

def execute (program : Program) (equipment : Equipment) (surroundings : Surroundings) :
    Logged (Except Failure Unit × Sink) := do
  let (outcome, sink) ← program.filter equipment surroundings
  if let .error failure := outcome then
    Logs.tell (program.failureEvent surroundings failure)
  return (outcome, sink)

/-- The exit code that tells whether a filter has failed. -/
def exitCode : Except Failure Unit → Nat
  | .ok () => 0
  | .error _ => 1

def run (program : Program) (equipment : Equipment) (surroundings : Surroundings) :
    Outcome :=
  let ((outcome, sink), events) := (program.execute equipment surroundings).run []
  let threshold := Log.Threshold.ofDirective (surroundings.environment.text? "CGIT_FILTER_LOG")
  let label := (Repository.ofEnvironment surroundings.environment).label
  { exitCode := exitCode outcome
    output := sink.written
    log := Log.lines threshold ⟨program.spanName, label⟩ events }

end Program

end PageFilters
