import PageFilters.Scope

/-!
# Themes

A theme gives colours and a font style to scopes, by selectors.  The style of a
scope starts from the theme's own colours; of the selectors that match, each
attribute goes to the first of those with the highest score.
-/

namespace PageFilters

structure Rgba where
  red : UInt8
  green : UInt8
  blue : UInt8
  alpha : UInt8
  deriving Repr, DecidableEq, Inhabited

structure FontStyle where
  bold : Bool := false
  italic : Bool := false
  underline : Bool := false
  deriving Repr, DecidableEq, Inhabited

structure TextStyle where
  foreground : Rgba
  background : Rgba
  font : FontStyle := {}
  deriving Repr, DecidableEq, Inhabited

/-- Selects scopes by a path of scopes, less what one of the exclusions
selects. -/
structure ScopeSelector where
  path : List Scope
  exclusions : List (List Scope) := []
  deriving Repr, DecidableEq, Inhabited

/-- A selector list and the attributes it sets. -/
structure ThemeItem where
  selectors : String
  foreground : Option Rgba := none
  background : Option Rgba := none
  font : Option FontStyle := none
  deriving Repr, DecidableEq, Inhabited

/-- A theme: the colours of the page and its items in order. -/
structure Theme where
  foreground : Rgba := ⟨0, 0, 0, 255⟩
  background : Rgba := ⟨255, 255, 255, 255⟩
  items : List ThemeItem := []
  deriving Repr, DecidableEq, Inhabited

/-- Themes by key. -/
abbrev ThemeSet := List (String × Theme)

namespace ScopeSelector

/-- Reads one selector: a path, and behind each ` -` an exclusion. -/
def ofWritten (written : String) : ScopeSelector :=
  match (written.splitOn " -").map Scope.listOfWritten with
  | [] => { path := [] }
  | path :: exclusions => { path, exclusions }

/-- Reads selectors with commas or bars between them. -/
def listOfWritten (written : String) : List ScopeSelector :=
  (written.splitToList fun char => char == ',' || char == '|').map ofWritten

/-- Whether a path selects a scope that stands alone, and with what score: the
number of atoms that are the same. -/
def pathScore? (path : List Scope) (scope : Scope) : Option Nat :=
  match path with
  | [lead] =>
      if lead.atoms.isPrefixOf scope.atoms then some lead.atoms.length else none
  | _ => none

/-- The score with which a selector selects a scope; an empty path selects
everything, an empty exclusion too. -/
def score? (selector : ScopeSelector) (scope : Scope) : Option Nat :=
  if selector.exclusions.any fun path => path.isEmpty || (pathScore? path scope).isSome then
    none
  else if selector.path.isEmpty then
    some 1
  else
    pathScore? selector.path scope

/-- Whether a selector is one scope without exclusions. -/
def isSimple (selector : ScopeSelector) : Bool :=
  selector.path.length == 1 && selector.exclusions.isEmpty

end ScopeSelector

/-- An attribute, and one more than the score of the selector that set it. -/
structure Rated (α : Type) where
  value : α
  rating : Nat := 0
  deriving Repr, DecidableEq, Inhabited

/-- The attribute after a selector has matched with a score; it is set if the
score is higher than that of the one before. -/
def Rated.offer {α : Type} (rated : Rated α) (value : Option α) (score : Nat) : Rated α :=
  match value with
  | some value => if rated.rating < score + 1 then ⟨value, score + 1⟩ else rated
  | none => rated

/-- The style of a scope while its selectors are gone through. -/
structure RatedStyle where
  foreground : Rated Rgba
  background : Rated Rgba
  font : Rated FontStyle
  deriving Repr, DecidableEq, Inhabited

/-- The style after an item, where its selector matches. -/
def RatedStyle.consider (scope : Scope) (style : RatedStyle) (entry : ScopeSelector × ThemeItem) :
    RatedStyle :=
  match entry.1.score? scope with
  | none => style
  | some score => {
      foreground := style.foreground.offer entry.2.foreground score
      background := style.background.offer entry.2.background score
      font := style.font.offer entry.2.font score }

namespace Theme

/-- The style of text without any scope. -/
def pageStyle (theme : Theme) : TextStyle :=
  { foreground := theme.foreground, background := theme.background }

/-- Every selector with its item, in the order in which they are gone through:
simple ones first, those with more atoms before the others. -/
def selectors (theme : Theme) : List (ScopeSelector × ThemeItem) :=
  let entries := theme.items.flatMap fun item =>
    (ScopeSelector.listOfWritten item.selectors).map (·, item)
  let length (entry : ScopeSelector × ThemeItem) := (entry.1.path.flatMap (·.atoms)).length
  let simple := entries.filter (·.1.isSimple)
  simple.mergeSort (fun left right => length right ≤ length left) ++
    entries.filter (!·.1.isSimple)

/-- The style of text with one scope. -/
def style (theme : Theme) (scope : Scope) : TextStyle :=
  let start : RatedStyle :=
    ⟨{ value := theme.foreground }, { value := theme.background }, { value := {} }⟩
  let style := theme.selectors.foldl (RatedStyle.consider scope) start
  ⟨style.foreground.value, style.background.value, style.font.value⟩

end Theme

end PageFilters
