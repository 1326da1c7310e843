import PageFilters.Repository

/-!
# Where the settings are

The settings file is the one that the environment names, and otherwise a file
in the configuration directory of the user.  Paths are octets of any kind.
-/

namespace PageFilters

/-- The octets of a path. -/
abbrev Path := Text.Bytes

namespace Path

def separator : UInt8 := 0x2F

def isAbsolute (path : Path) : Bool :=
  path.head? == some separator

/-- A path with one more part, which is relative. -/
def join (path : Path) (part : String) : Path :=
  if path.getLast?.all (· == separator) then path ++ Text.encode part.toList
  else path ++ separator :: Text.encode part.toList

def shown (path : Path) : String :=
  String.ofList (Text.decodeLossy path)

end Path

namespace Settings

/-- The name of the settings file in a configuration directory. -/
def fileIn (directory : Path) : Path :=
  (directory.join "cgit-filters").join "settings.toml"

/-- The home directory of the user; where the environment names none, the account
may have one. -/
def home? (environment : Environment) (accountHome : Option Path) : Option Path :=
  (environment.nonempty? "HOME").or accountHome

/-- The configuration directory of the user; a relative path in its variable is
passed over. -/
def directory? (environment : Environment) (accountHome : Option Path) : Option Path :=
  ((environment "XDG_CONFIG_HOME").filter Path.isAbsolute).or
    ((home? environment accountHome).map (·.join ".config"))

/-- The path of the settings file.  A user without a configuration directory has
it below the directory in which the program runs. -/
def path (environment : Environment) (accountHome : Option Path) : Path :=
  match environment.nonempty? "CGIT_FILTER_CONFIG" with
  | some path => path
  | none => fileIn ((directory? environment accountHome).getD (Text.encode ['.']))

end Settings

end PageFilters
