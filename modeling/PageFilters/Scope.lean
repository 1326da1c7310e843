import PageFilters.Text.Blank

/-!
# Scopes

A scope names what a grammar takes a piece of text for, from the general to
the particular, as in `string.quoted.double`.  While a document is read, scopes
are kept on a stack.
-/

namespace PageFilters

/-- A scope is written as its atoms with dots between them. -/
abbrev Scope := String

namespace Scope

/-- A scope as written, less the dots at its end. -/
def ofWritten (written : String) : Scope :=
  String.ofList (written.toList.reverse.dropWhile (· == '.')).reverse

/-- The scopes of a list with blanks between them. -/
def listOfWritten (written : String) : List Scope :=
  (written.splitToList Text.isBlank).filter (· ≠ "") |>.map ofWritten

/-- Whether a text is `lead` or continues it behind a dot. -/
def isUnderChars (name lead : List Char) : Bool :=
  lead.isPrefixOf name && (name.drop lead.length).head?.all (· == '.')

/-- Whether a scope is `lead` or more particular than it. -/
def isUnder (scope lead : Scope) : Bool :=
  isUnderChars scope.toList lead.toList

/-- The atoms of a scope; the empty scope has none. -/
def atoms (scope : Scope) : List String :=
  if scope.isEmpty then [] else scope.splitToList (· == '.')

end Scope

/-- How many scopes are cleared from the top of the stack. -/
inductive ClearAmount where
  | top (count : Nat)
  | all
  deriving Repr, DecidableEq, Inhabited

inductive ScopeOp where
  | push (scope : Scope)
  | pop (count : Nat)
  | clear (amount : ClearAmount)
  | restore
  deriving Repr, DecidableEq, Inhabited

/-- The open scopes, innermost first, and the groups that have been cleared,
the last one first. -/
structure ScopeStack where
  scopes : List Scope := []
  cleared : List (List Scope) := []
  deriving Repr, DecidableEq, Inhabited

/-- Why a change cannot be made: nothing has been cleared that could be put back. -/
inductive ScopeFault where
  | nothingCleared
  deriving Repr, DecidableEq, Inhabited

namespace ScopeStack

def apply (stack : ScopeStack) : ScopeOp → Except ScopeFault ScopeStack
  | .push scope => .ok { stack with scopes := scope :: stack.scopes }
  | .pop count => .ok { stack with scopes := stack.scopes.drop count }
  | .clear (.top count) =>
      .ok ⟨stack.scopes.drop count, stack.scopes.take count :: stack.cleared⟩
  | .clear .all => .ok ⟨[], stack.scopes :: stack.cleared⟩
  | .restore =>
      match stack.cleared with
      | [] => .error .nothingCleared
      | group :: cleared => .ok ⟨group ++ stack.scopes, cleared⟩

end ScopeStack

end PageFilters
