import PageFilters.Failure
import PageFilters.Settings
import PageFilters.Theme.Palette

/-!
# Style sheets

A page carries two style sheets, one for light and one for dark screens.  Each
is taken from the theme that the settings choose for its slot.
-/

namespace PageFilters

/-- The place of a style sheet in the page. -/
inductive Slot where
  | light
  | dark
  deriving Repr, DecidableEq, Inhabited

namespace Slot

def name : Slot → String
  | .light => "light"
  | .dark => "dark"

def ofName (name : String) : Except Failure Slot :=
  if name == "light" then .ok .light
  else if name == "dark" then .ok .dark
  else .error (.unknownSlot name)

end Slot

/-- What style sheets are made from. -/
structure StyleSheets where
  themes : ThemeSet
  lightTheme : BundledTheme
  darkTheme : BundledTheme
  classPrefix : String

namespace StyleSheets

/-- Style sheets by the settings, from a theme set. -/
def ofSettings (themes : ThemeSet) (settings : Settings) : StyleSheets where
  themes := themes
  lightTheme := settings.lightTheme
  darkTheme := settings.darkTheme
  classPrefix := settings.classPrefix

/-- The theme chosen for a slot. -/
def choice (sheets : StyleSheets) : Slot → BundledTheme
  | .light => sheets.lightTheme
  | .dark => sheets.darkTheme

def palette (sheets : StyleSheets) (slot : Slot) : Except Failure Palette :=
  let key := (sheets.choice slot).key
  match sheets.themes.lookup key with
  | some theme => .ok (Palette.ofTheme theme)
  | none => .error (.themeMissing key)

def css (sheets : StyleSheets) (slot : Slot) : Except Failure String :=
  (sheets.palette slot).map (·.css sheets.classPrefix)

/-- The style sheet of the slot of a name; an unknown name is reported before
a missing theme. -/
def cssNamed (sheets : StyleSheets) (name : String) : Except Failure String := do
  sheets.css (← Slot.ofName name)

end StyleSheets

end PageFilters
