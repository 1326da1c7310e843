/-!
# Settings

What the owner of a site can choose: whether documents are highlighted, a theme
for light and one for dark screens, the prefix of class names, and where
avatars come from.
-/

namespace PageFilters

inductive BundledTheme where
  | base16OceanDark
  | base16OceanLight
  | base16EightiesDark
  | base16MochaDark
  | solarizedDark
  | solarizedLight
  | inspiredGitHub
  deriving Repr, DecidableEq, Inhabited

namespace BundledTheme

def all : List BundledTheme :=
  [.base16OceanDark, .base16OceanLight, .base16EightiesDark, .base16MochaDark, .solarizedDark,
    .solarizedLight, .inspiredGitHub]

/-- The name by which settings choose the theme. -/
def name : BundledTheme → String
  | .base16OceanDark => "Base16OceanDark"
  | .base16OceanLight => "Base16OceanLight"
  | .base16EightiesDark => "Base16EightiesDark"
  | .base16MochaDark => "Base16MochaDark"
  | .solarizedDark => "SolarizedDark"
  | .solarizedLight => "SolarizedLight"
  | .inspiredGitHub => "InspiredGitHub"

/-- The key under which theme sets hold the theme. -/
def key : BundledTheme → String
  | .base16OceanDark => "base16-ocean.dark"
  | .base16OceanLight => "base16-ocean.light"
  | .base16EightiesDark => "base16-eighties.dark"
  | .base16MochaDark => "base16-mocha.dark"
  | .solarizedDark => "Solarized (dark)"
  | .solarizedLight => "Solarized (light)"
  | .inspiredGitHub => "InspiredGitHub"

def ofName? (name : String) : Option BundledTheme :=
  all.find? fun theme => theme.name == name

theorem ofName?_name (theme : BundledTheme) : ofName? theme.name = some theme := by
  cases theme <;> decide

end BundledTheme

/-- The settings of a filter, with their defaults. -/
structure Settings where
  /-- Where this is off, every document is shown as plain text. -/
  highlightingEnabled : Bool := true
  lightTheme : BundledTheme := .inspiredGitHub
  darkTheme : BundledTheme := .base16OceanDark
  /-- Stands in front of every class name. -/
  classPrefix : String := "hl-"
  /-- What avatar addresses begin with. -/
  avatarBaseUrl : String := "//www.gravatar.com/avatar/"
  /-- Edge length of avatars in pixels. -/
  avatarSize : UInt32 := 13
  deriving Repr, DecidableEq, Inhabited

end PageFilters
