import PageFilters.Regex.CharClass

/-!
# Regular expressions

The expressions that grammars are written in: literals, classes, anchors,
groups, repetition in three tempers, look-around and back-references.
-/

namespace PageFilters

namespace Regex

/-- A condition on a position that consumes nothing. -/
inductive Anchor where
  /-- The start of the text, or behind a line feed that is not its last character. -/
  | lineStart
  /-- The end of the text, or in front of a line feed. -/
  | lineEnd
  | textStart
  | textEnd
  /-- The end of the text, or in front of a line feed that ends it. -/
  | lastLineEnd
  | wordEdge
  | notWordEdge
  deriving Repr, DecidableEq, Inhabited

/-- In which order a repetition tries its lengths, and whether it gives back. -/
inductive Temper where
  | greedy
  | reluctant
  /-- Longest first, and never shorter once it has matched. -/
  | possessive
  deriving Repr, DecidableEq, Inhabited

/-- The side on which a look-around looks. -/
inductive Side where
  | ahead
  | behind
  deriving Repr, DecidableEq, Inhabited

end Regex

/-- A regular expression.  Where `ignoreCase` is set, characters are compared
by their folded images; a `folded` literal holds such images. -/
inductive Regex where
  | empty
  | literal (char : Char)
  | folded (chars : List Char)
  | oneOf (charClass : Regex.CharClass) (ignoreCase : Bool)
  | anchor (anchor : Regex.Anchor)
  | concat (left right : Regex)
  | either (left right : Regex)
  | group (number : Nat) (inner : Regex)
  | repetition (inner : Regex) (least : Nat) (most : Option Nat) (temper : Regex.Temper)
  | look (side : Regex.Side) (wanted : Bool) (inner : Regex)
  | atomic (inner : Regex)
  | backref (number : Nat) (ignoreCase : Bool)
  deriving Repr, DecidableEq, Inhabited

namespace Regex

/-- Appends an expression; literals that ignore case are joined, because an
image may stand for several characters. -/
def append : Regex → Regex → Regex
  | .empty, right => right
  | .folded left, .folded right => .folded (left ++ right)
  | .concat front (.folded left), .folded right => .concat front (.folded (left ++ right))
  | left, right => .concat left right

/-- The greatest number of characters that a match can have, none if there is
no bound. -/
def longest : Regex → Option Nat
  | .empty => some 0
  | .literal _ => some 1
  | .folded chars => some (3 * chars.length)
  | .oneOf _ _ => some 1
  | .anchor _ => some 0
  | .concat left right => do return (← left.longest) + (← right.longest)
  | .either left right => do return max (← left.longest) (← right.longest)
  | .group _ inner => inner.longest
  | .repetition inner _ most _ => do return (← inner.longest) * (← most)
  | .look _ _ _ => some 0
  | .atomic inner => inner.longest
  | .backref _ _ => none

end Regex

end PageFilters
