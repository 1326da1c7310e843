import PageFilters.Log
import PageFilters.Settings.Location
import PageFilters.Settings.Reading

/-!
# The settings file

What is found at the path of the settings file, and the settings that come of
it.  A file that is not there, or not in order, leaves the defaults.
-/

namespace PageFilters

/-- What is found at a path. -/
inductive FileState where
  | missing
  /-- There is something that cannot be read as a file. -/
  | unreadable (reason : String)
  | present (bytes : Text.Bytes)
  deriving Repr, DecidableEq, Inhabited

namespace Settings

def notUtf8 : String := "stream did not contain valid UTF-8"

/-- The settings of a file, none if it is missing. -/
def ofFile : FileState → Except Failure (Option Settings)
  | .missing => .ok none
  | .unreadable reason => .error (.transfer reason)
  | .present bytes =>
      match Text.decode? bytes with
      | none => .error (.transfer notUtf8)
      | some text => (ofText text).map some

/-- The settings of a file; the defaults where there are none to be had. -/
def ofFileOrDefault (file : FileState) : Settings :=
  match ofFile file with
  | .ok (some settings) => settings
  | _ => {}

def faultEvent (path : String) (failure : Failure) : Log.Event where
  level := .warn
  message := "Failed to load settings: " ++ failure.message ++ ". Using defaults."
  values := [("path", path)]

variable {m : Type → Type} [Monad m] [Logs m]

/-- Loads the settings of a file, with a word on a file that is not in order in
the log. -/
def load (path : String) (file : FileState) : m Settings := do
  if let .error failure := ofFile file then
    Logs.tell (faultEvent path failure)
  return ofFileOrDefault file

end Settings

end PageFilters
