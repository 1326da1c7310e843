/-!
# Failures

Everything that can go wrong in a filter, by cause, and how each cause is
reported.
-/

namespace PageFilters

/-- What can be wrong with a settings file. -/
inductive SettingsFault where
  /-- The text is no TOML document. -/
  | malformed
  /-- A value is not of the type that its key asks for. -/
  | misshapen (report : String)
  deriving Repr, DecidableEq, Inhabited

def SettingsFault.message : SettingsFault → String
  | .malformed => "not a TOML document"
  | .misshapen report => report

/-- Why something could not be done. -/
inductive Failure where
  /-- Reading or writing was refused, for the reason that the system gives. -/
  | transfer (reason : String)
  /-- The settings file is not in order. -/
  | settings (fault : SettingsFault)
  /-- There is no style sheet slot of the name. -/
  | unknownSlot (name : String)
  /-- The theme set holds no theme under the key. -/
  | themeMissing (key : String)
  /-- Whoever is asked for tokenizers failed to answer. -/
  | provider (reason : String)
  /-- A grammar gave up on a line. -/
  | tokenize (reason : String)
  deriving Repr, DecidableEq, Inhabited

def Failure.message : Failure → String
  | .transfer reason => "IO error: " ++ reason
  | .settings fault => "Config error: " ++ fault.message
  | .unknownSlot name => "Unknown theme: " ++ name
  | .themeMissing key => "Syntax theme not bundled: " ++ key
  | .provider reason => "Lexical provider error: " ++ reason
  | .tokenize reason => "Tokenize error: " ++ reason

end PageFilters
