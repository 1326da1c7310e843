import PageFilters.Scope
import PageFilters.Token
import Std.Data.HashMap

/-!
# The kind of a scope stack

A stack of scopes is shown as one token kind.  The innermost scope that has a
kind of its own decides; punctuation counts only where no enclosing scope has
one.  `ScopeStack.kind` looks scopes up in a memory of earlier answers, and
`kindOfScopes` says the same without one.
-/

namespace PageFilters

/-- How strongly a scope decides the kind of its text. -/
inductive ScopeClass where
  | strong (kind : TokenKind)
  /-- Decides only where no enclosing scope does. -/
  | weak (kind : TokenKind)
  deriving Repr, DecidableEq, Inhabited

/-- Scopes that decide a kind for everything under them, the particular ones
before the general ones. -/
def scopeRules : List (Scope × TokenKind) := [
    ("comment", .comment),
    ("string.regexp", .regex),
    ("constant.character.escape", .escape),
    ("string", .string),
    ("constant.numeric", .number),
    ("constant", .constant),
    ("keyword.operator", .operator),
    ("keyword", .keyword),
    ("storage.type", .keywordType),
    ("storage", .keyword),
    ("meta.preprocessor", .preprocessor),
    ("entity.name.function", .functionName),
    ("support.function", .functionName),
    ("variable.function", .functionName),
    ("entity.name.tag", .tagName),
    ("entity.other.attribute-name", .attributeName),
    ("entity.other.inherited-class", .typeName),
    ("entity.name", .typeName),
    ("support.type", .typeName),
    ("support.class", .typeName),
    ("support", .builtin),
    ("variable.language", .builtin),
    ("variable", .variableName),
    ("markup.heading", .heading),
    ("markup.italic", .emphasis),
    ("markup.bold", .strong),
    ("markup.inserted", .inserted),
    ("markup.deleted", .deleted),
    ("invalid", .error)]

/-- The class of a scope, none if it says nothing about looks. -/
def Scope.class? (scope : Scope) : Option ScopeClass :=
  if scope.isUnder "punctuation" then
    some (.weak .punctuation)
  else
    (scopeRules.find? fun rule => scope.isUnder rule.1).map fun rule => .strong rule.2

/-- The kind of a list of scopes, innermost first; `weak` is the kind that a
weak scope further inside has settled for. -/
def kindOfScopes (weak : Option TokenKind) : List Scope → TokenKind
  | [] => weak.getD .plain
  | scope :: outer =>
      match scope.class? with
      | some (.strong kind) => kind
      | some (.weak kind) => kindOfScopes (weak.or (some kind)) outer
      | none => kindOfScopes weak outer

/-- Classes of scopes that have been asked for. -/
abbrev ClassMemory := Std.HashMap Scope (Option ScopeClass)

/-- The class of a scope, remembered for the next time. -/
def ClassMemory.classOf (memory : ClassMemory) (scope : Scope) :
    Option ScopeClass × ClassMemory :=
  match memory[scope]? with
  | some known => (known, memory)
  | none => (scope.class?, memory.insert scope scope.class?)

/-- `kindOfScopes` by way of a memory. -/
def ClassMemory.kindOf (memory : ClassMemory) (weak : Option TokenKind) :
    List Scope → TokenKind × ClassMemory
  | [] => (weak.getD .plain, memory)
  | scope :: outer =>
      match memory.classOf scope with
      | (some (.strong kind), memory) => (kind, memory)
      | (some (.weak kind), memory) => memory.kindOf (weak.or (some kind)) outer
      | (none, memory) => memory.kindOf weak outer

/-- The kind of the text under a scope stack. -/
def ScopeStack.kind (stack : ScopeStack) (memory : ClassMemory) : TokenKind × ClassMemory :=
  memory.kindOf none stack.scopes

end PageFilters
