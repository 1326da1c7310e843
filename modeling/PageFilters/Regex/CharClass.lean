import PageFilters.Text.Blank
import PageFilters.Text.Case
import PageFilters.Text.Category
import PageFilters.Text.Digits

/-!
# Character classes

The sets of characters that a regular expression can name, and membership with
and without regard to case.
-/

namespace PageFilters.Regex

inductive CharClass where
  | empty
  | range (first last : Char)
  | letter
  | upper
  | lower
  | number
  | digit
  | word
  | blank
  | hexDigit
  | complement (inner : CharClass)
  | union (left right : CharClass)
  | intersection (left right : CharClass)
  deriving Repr, DecidableEq, Inhabited

namespace CharClass

/-- Membership of a character. -/
def holds : CharClass → Char → Bool
  | .empty, _ => false
  | .range first last, char => first ≤ char && char ≤ last
  | .letter, char => Text.isLetter char
  | .upper, char => Text.isUpper char
  | .lower, char => Text.isLower char
  | .number, char => Text.isNumber char
  | .digit, char => Text.isDigit char
  | .word, char => Text.isWord char
  | .blank, char => Text.isBlank char
  | .hexDigit, char => Text.isHexDigit char
  | .complement inner, char => !inner.holds char
  | .union left right, char => left.holds char || right.holds char
  | .intersection left right, char => left.holds char && right.holds char

def single (char : Char) : CharClass := .range char char

/-- Every character but the line feed. -/
def notLineFeed : CharClass := .complement (single '\n')

/-- Every character. -/
def all : CharClass := .complement .empty

/-- Characters that are equal to the given one when case does not count, the
character itself among them. -/
def caseVariants (char : Char) : List Char :=
  match Text.foldChar char with
  | [folded] =>
      let ascii := if folded.isLower && folded.toNat < 0x80 then [folded.toUpper] else []
      let listed := Text.foldRuns.toList.filterMap fun run =>
        let point := run.first + (folded.toNat - run.image)
        if run.imageOf? point == some folded.toNat then some (Char.ofNat point) else none
      char :: folded :: ascii ++ listed
  | _ => [char]

/-- Membership when case does not count. -/
def holdsFolded (charClass : CharClass) (char : Char) : Bool :=
  match charClass with
  | .complement inner => !(caseVariants char).any inner.holds
  | _ => (caseVariants char).any charClass.holds

end CharClass

end PageFilters.Regex
