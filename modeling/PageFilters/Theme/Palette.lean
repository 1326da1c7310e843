import PageFilters.Text.Hex
import PageFilters.Theme
import PageFilters.Token

/-!
# Palettes

A palette gives a style to every token kind.  It is taken from a theme: only
what sets a kind off from the page's own text is kept, backgrounds never, and a
text colour that would not be seen on the page neither.
-/

namespace PageFilters

structure Rgb where
  red : UInt8
  green : UInt8
  blue : UInt8
  deriving Repr, DecidableEq, Inhabited

/-- A colour less its opacity. -/
def Rgba.opaqueColour (colour : Rgba) : Rgb := ⟨colour.red, colour.green, colour.blue⟩

/-- How the text of a kind differs from the page's text. -/
structure TokenStyle where
  foreground : Option Rgb := none
  bold : Bool := false
  italic : Bool := false
  underline : Bool := false
  deriving Repr, DecidableEq, Inhabited

namespace TokenStyle

def isDefault (style : TokenStyle) : Bool := style == {}

/-- What sets `style` off from the text of the page.  Text in the page's
background colour that has a background of its own takes that as its colour;
a colour of the page itself is not kept. -/
def ofTextStyle (page style : TextStyle) : TokenStyle :=
  let colour :=
    if style.foreground == page.background && style.background != page.background then
      style.background
    else
      style.foreground
  let visible := colour != page.foreground && colour != page.background
  { foreground := if visible then some colour.opaqueColour else none
    bold := style.font.bold
    italic := style.font.italic
    underline := style.font.underline }

/-- The declarations of a style, in a fixed order. -/
def declarationList (style : TokenStyle) : List String :=
  (style.foreground.map fun colour =>
    "color: #" ++ Text.hex [colour.red, colour.green, colour.blue] ++ ";").toList ++
  (if style.bold then ["font-weight: bold;"] else []) ++
  (if style.italic then ["font-style: italic;"] else []) ++
  (if style.underline then ["text-decoration: underline;"] else [])

/-- The declarations of a style with blanks between them. -/
def declarations (style : TokenStyle) : String :=
  " ".intercalate style.declarationList

end TokenStyle

/-- The scope that stands for a kind in themes; plain text has none. -/
def TokenKind.themeScope? : TokenKind → Option Scope
  | .plain => none
  | .keyword => some "keyword.control"
  | .keywordType => some "storage.type"
  | .constant => some "constant.language"
  | .number => some "constant.numeric"
  | .string => some "string.quoted.double"
  | .escape => some "constant.character.escape"
  | .regex => some "string.regexp"
  | .comment => some "comment.line"
  | .preprocessor => some "meta.preprocessor"
  | .operator => some "keyword.operator"
  | .punctuation => some "punctuation.separator"
  | .functionName => some "entity.name.function"
  | .typeName => some "entity.name.type"
  | .tagName => some "entity.name.tag"
  | .attributeName => some "entity.other.attribute-name"
  | .variableName => some "variable.other"
  | .builtin => some "support.function.builtin"
  | .heading => some "markup.heading"
  | .emphasis => some "markup.italic"
  | .strong => some "markup.bold"
  | .inserted => some "markup.inserted"
  | .deleted => some "markup.deleted"
  | .error => some "invalid.illegal"

structure Palette where
  style : TokenKind → TokenStyle

/-- A style rule: the text of a class, and its declarations. -/
structure CssRule where
  className : String
  declarations : String
  deriving Repr, DecidableEq, Inhabited

/-- A rule on a line of its own. -/
def CssRule.text (rule : CssRule) : String :=
  "." ++ rule.className ++ " \x7b " ++ rule.declarations ++ " \x7d\n"

namespace Palette

def ofTheme (theme : Theme) : Palette where
  style kind :=
    match kind.themeScope? with
    | some scope => TokenStyle.ofTextStyle theme.pageStyle (theme.style scope)
    | none => {}

/-- One rule for each kind whose text is set off, in the order of the kinds. -/
def rules (palette : Palette) (classPrefix : String) : List CssRule :=
  (TokenKind.all.filter fun kind => !kind.isPlain && !(palette.style kind).isDefault).map
    fun kind => ⟨classPrefix ++ kind.classSuffix, (palette.style kind).declarations⟩

def css (palette : Palette) (classPrefix : String) : String :=
  String.join ((palette.rules classPrefix).map CssRule.text)

end Palette

end PageFilters
