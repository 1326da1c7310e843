import PageFilters.Scope

/-!
# Written forms in grammars

References to contexts, and the two replacements in an expression before it is
read: variables are replaced by their values, and bracketed letter classes by
the properties they stand for.
-/

namespace PageFilters.Grammar

inductive Reference where
  /-- A context of the same grammar. -/
  | named (context : String)
  /-- A context of the grammar with the given scope. -/
  | ofScope (scope : Scope) (context : String)
  /-- A context of the grammar with the given name. -/
  | ofGrammar (name : String) (context : String)
  deriving Repr, DecidableEq, Inhabited

/-- Ending of a reference to a grammar by its name. -/
def grammarSuffix : String := ".sublime-syntax"

/-- Reads a reference: `name`, `scope:S#context` or a grammar's file name. -/
def Reference.ofWritten (written : String) : Reference :=
  let parts := written.splitToList (· == '#')
  let target := parts.head?.getD ""
  let context := (parts[1]?).getD "main"
  if "scope:".isPrefixOf target then
    .ofScope (Scope.ofWritten (String.ofList (target.toList.drop 6))) context
  else if grammarSuffix.toList.isSuffixOf target.toList then
    let file := ((target.splitToList (· == '/')).getLast?.getD "").toList
    .ofGrammar (String.ofList (file.take (file.length - grammarSuffix.length))) context
  else
    .named target

/-- The name of a variable reference that begins the text, and what follows. -/
def variableReference? (text : List Char) : Option (String × List Char) :=
  let name := (text.drop 2).takeWhile fun char => char.isAlphanum || char == '_'
  let behind := text.drop (2 + name.length)
  if "\x7b\x7b".toList.isPrefixOf text && !name.isEmpty &&
      "\x7d\x7d".toList.isPrefixOf behind then
    some (String.ofList name, behind.drop 2)
  else
    none

theorem length_variableReference? {text rest : List Char} {name : String}
    (found : variableReference? text = some (name, rest)) : rest.length < text.length := by
  unfold variableReference? at found
  simp only [Option.ite_none_right_eq_some, Option.some.injEq, Prod.mk.injEq, Bool.and_eq_true,
    List.isPrefixOf_iff_prefix] at found
  obtain ⟨⟨⟨opening, _⟩, _⟩, _, rfl⟩ := found
  have bound := opening.length_le
  simp only [List.length_drop]
  have : "\x7b\x7b".toList.length = 2 := rfl
  omega

/-- Replaces the variable references of a text by what `value` gives. -/
def replaceVariables (value : String → List Char) (text : List Char) : List Char :=
  match _found : variableReference? text with
  | some (name, rest) => value name ++ replaceVariables value rest
  | none =>
      match text with
      | [] => []
      | char :: rest => char :: replaceVariables value rest
termination_by text.length
decreasing_by
  · exact length_variableReference? _found
  · simp

/-- Replaces variable references, also those in the values, `depth` levels
deep; an unknown variable is empty. -/
def expandVariables (bindings : List (String × String)) :
    (depth : Nat) → List Char → List Char
  | 0, text => replaceVariables (fun _ => []) text
  | depth + 1, text =>
      replaceVariables
        (fun name => expandVariables bindings depth ((bindings.lookup name).getD "").toList)
        text

/-- Bracketed letter classes and the properties they stand for. -/
def letterClasses : List (String × String) := [
    ("[:alpha:]", "\\p\x7bL\x7d"),
    ("[:alnum:]", "\\p\x7bL\x7d\\p\x7bN\x7d"),
    ("[:lower:]", "\\p\x7bLl\x7d"),
    ("[:upper:]", "\\p\x7bLu\x7d"),
    ("[:digit:]", "\\p\x7bNd\x7d")]

/-- Replaces every occurrence of a pattern, from the left; `count` more
characters of an occurrence are to be passed over. -/
def replaceAll (pattern value : List Char) : (count : Nat) → List Char → List Char
  | _, [] => []
  | count + 1, _ :: rest => replaceAll pattern value count rest
  | 0, char :: rest =>
      if !pattern.isEmpty && pattern.isPrefixOf (char :: rest) then
        value ++ replaceAll pattern value (pattern.length - 1) rest
      else
        char :: replaceAll pattern value 0 rest

/-- The text of an expression after both replacements. -/
def expandExpression (bindings : List (String × String)) (written : String) : List Char :=
  let text := expandVariables bindings bindings.length written.toList
  letterClasses.foldl
    (fun text entry => replaceAll entry.1.toList entry.2.toList 0 text) text

/-- Whether a backslash stands before a digit somewhere. -/
def refersToGroup : List Char → Bool
  | '\\' :: next :: rest => next.isDigit || refersToGroup (next :: rest)
  | _ :: rest => refersToGroup rest
  | [] => false

/-- A text as an expression that matches exactly it. -/
def quoteExpression (text : List Char) : List Char :=
  text.flatMap fun char =>
    if "\\.+*?()|[]\x7b\x7d^$#&-~".toList.contains char then ['\\', char] else [char]

/-- Replaces `\n` by the text of group `n`, as an expression that matches
exactly it; a group that took no part leaves nothing. -/
def insertGroups (group : Nat → Option (List Char)) : List Char → List Char
  | '\\' :: char :: rest =>
      if char.isDigit then
        ((group (char.toNat - '0'.toNat)).map quoteExpression).getD [] ++ insertGroups group rest
      else
        '\\' :: char :: insertGroups group rest
  | ['\\'] => []
  | char :: rest => char :: insertGroups group rest
  | [] => []

end PageFilters.Grammar
