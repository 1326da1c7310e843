import PageFilters.Failure
import PageFilters.Settings
import PageFilters.Text.Quoted
import PageFilters.Text.Utf8
import PageFilters.Toml.Document
import PageFilters.Toml.Report

/-!
# Reading settings

The settings file is a TOML document.  Of its entries those with known keys set
one field each, and have to be of the field's type; all others mean nothing.
The file counts as a whole or not at all.
-/

namespace PageFilters.Settings

open Toml (Entries Key Node Scalar Span)

inductive Misfit where
  | wrongType (found expected : String)
  | outOfRange (value : Int)
  | unknownTheme (name : String)
  /-- A theme is neither a string nor a table. -/
  | noTheme
  /-- A theme is an empty table. -/
  | noVariant
  /-- A theme is a table with more than one entry. -/
  | manyVariants
  /-- There is something in the table under a theme's name. -/
  | filledVariant
  /-- There is no table under a theme's name. -/
  | noVariantTable (found : String)
  deriving Repr, DecidableEq, Inhabited

def Misfit.message : Misfit → String
  | .wrongType found expected => "invalid type: " ++ found ++ ", expected " ++ expected
  | .outOfRange value => "invalid value: integer `" ++ toString value ++ "`, expected u32"
  | .unknownTheme name =>
      "unknown variant `" ++ name ++ "`, expected one of " ++
        ", ".intercalate (BundledTheme.all.map fun theme => "`" ++ theme.name ++ "`")
  | .noTheme => "wanted string or table"
  | .noVariant => "wanted exactly 1 element, found 0 elements"
  | .manyVariants => "wanted exactly 1 element, more than 1 element"
  | .filledVariant => "expected empty table"
  | .noVariantTable found => "expected table, found " ++ found

/-- A value that does not fit, and where it is written, if that is anywhere. -/
structure Objection where
  misfit : Misfit
  span : Option Span
  deriving Repr, DecidableEq, Inhabited

/-- What a node of an unexpected type is called. -/
def described : Node → String
  | .scalar (.string text) _ => "string " ++ Text.quote text
  | .scalar (.integer value) _ => "integer `" ++ toString value ++ "`"
  | .scalar (.float value) _ => "floating point `" ++ value.text ++ "`"
  | .scalar (.boolean value) _ => "boolean `" ++ (if value then "true" else "false") ++ "`"
  | .scalar (.moment _) _ => "map"
  | .array .. => "sequence"
  | .table .. => "map"
  | .tables .. => "sequence"

/-- Objects to a node's type. -/
def wrongType {α : Type} (node : Node) (expected : String) : Except Objection α :=
  .error ⟨.wrongType (described node) expected, node.span?⟩

def boolean : Node → Except Objection Bool
  | .scalar (.boolean value) _ => .ok value
  | node => wrongType node "a boolean"

def string : Node → Except Objection String
  | .scalar (.string text) _ => .ok text
  | node => wrongType node "a string"

/-- The natural number of a node, of thirty-two bits. -/
def natural : Node → Except Objection UInt32
  | .scalar (.integer value) span =>
      if 0 ≤ value && value < UInt32.size then .ok (UInt32.ofNat value.toNat)
      else .error ⟨.outOfRange value, some span⟩
  | node => wrongType node "u32"

def themeNamed (name : String) (span : Span) : Except Objection BundledTheme :=
  match BundledTheme.ofName? name with
  | some theme => .ok theme
  | none => .error ⟨.unknownTheme name, some span⟩

/-- Whether the node under a theme's name says nothing more. -/
def emptyVariant : Node → Except Objection Unit
  | .table _ _ [] => .ok ()
  | .table _ span _ => .error ⟨.filledVariant, span⟩
  | node => .error ⟨.noVariantTable node.typeName, node.span?⟩

/-- The theme of a node: its name, or a table with nothing but an empty table
under the name. -/
def theme : Node → Except Objection BundledTheme
  | .scalar (.string name) span => themeNamed name span
  | .table _ span [] => .error ⟨.noVariant, span⟩
  | .table _ _ [(key, node)] => do
      let theme ← themeNamed key.text key.span
      emptyVariant node
      return theme
  | .table _ span _ => .error ⟨.manyVariants, span⟩
  | node => .error ⟨.noTheme, node.span?⟩

def setField (settings : Settings) (name : String) (node : Node) : Except Objection Settings :=
  match name with
  | "highlighting_enabled" =>
      (boolean node).map fun value => { settings with highlightingEnabled := value }
  | "syntax_theme_light" => (theme node).map fun value => { settings with lightTheme := value }
  | "syntax_theme_dark" => (theme node).map fun value => { settings with darkTheme := value }
  | "class_prefix" => (string node).map fun value => { settings with classPrefix := value }
  | "avatar_base_url" => (string node).map fun value => { settings with avatarBaseUrl := value }
  | "avatar_size" => (natural node).map fun value => { settings with avatarSize := value }
  | _ => .ok settings

/-- Sets the field of an entry.  An objection without a place of its own is to
the key. -/
def setEntry (settings : Settings) (entry : Key × Node) : Except (Misfit × Span) Settings :=
  (settings.setField entry.1.text entry.2).mapError fun objection =>
    (objection.misfit, ((objection.span.or entry.2.span?).getD entry.1.span))

/-- The settings of a table.  The first entry that does not fit is objected
to. -/
def ofEntries (entries : Entries) : Except (Misfit × Span) Settings :=
  entries.foldlM setEntry {}

def ofText (text : List Char) : Except Failure Settings :=
  match Toml.parse? text with
  | none => .error (.settings .malformed)
  | some entries =>
      (ofEntries entries).mapError fun (misfit, span) =>
        .settings (.misshapen (Toml.report text span misfit.message))

end PageFilters.Settings
