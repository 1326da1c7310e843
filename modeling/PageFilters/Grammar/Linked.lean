import PageFilters.Regex.Search
import PageFilters.Scope

/-!
# Linked grammars

A set of grammars whose references have been resolved: contexts are numbered
through the whole set, and each holds its rules with everything it includes.
-/

namespace PageFilters.Grammar

/-- The number of a context in a set of grammars. -/
abbrev ContextId := Nat

/-- What a rule does to the open contexts.  A target without a number was
written as a reference that names nothing. -/
inductive Step where
  | stay
  | pop
  | push (targets : List (Option ContextId))
  | set (targets : List (Option ContextId))
  deriving Repr, DecidableEq, Inhabited

structure Rule where
  /-- Tells rules apart throughout the set. -/
  number : Nat
  /-- The expression as written, for inserting remembered groups. -/
  written : List Char
  regex : Option Regex
  /-- The rule closes a context and refers to groups of the match that opened it. -/
  recalls : Bool
  scopes : List Scope
  captures : List (Nat × List Scope)
  step : Step
  layer : Option ContextId
  deriving Repr, Inhabited

/-- A context with everything it includes. -/
structure Context where
  metaScope : List Scope := []
  metaContentScope : List Scope := []
  clears : Option ClearAmount := none
  prototype : Option ContextId := none
  rules : List Rule := []
  deriving Repr, Inhabited

/-- Whether a match that opens the context has to be remembered. -/
def Context.recalls (context : Context) : Bool :=
  context.rules.any (·.recalls)

end PageFilters.Grammar

namespace PageFilters

structure Grammar where
  name : String
  scope : Scope
  /-- Base names and extensions of the files it claims. -/
  claims : List String
  /-- Recognizes a document by its first line. -/
  firstLine : Option Regex
  /-- The context in which every document starts, none if the set holds none. -/
  start : Option Grammar.ContextId
  deriving Repr, Inhabited

/-- Grammars in load order, with their contexts. -/
structure GrammarSet where
  grammars : List Grammar := []
  contexts : Array Grammar.Context := #[]
  deriving Repr, Inhabited

namespace GrammarSet

/-- The last loaded grammar of a name. -/
def find? (set : GrammarSet) (name : String) : Option Grammar :=
  set.grammars.reverse.find? (·.name == name)

end GrammarSet

end PageFilters
