import PageFilters.Scope

/-!
# Grammar definitions

A grammar as it is written down: contexts by name, and in each context the
rules that are tried there.  Contexts refer to each other, also across
grammars, by written references.
-/

namespace PageFilters.Grammar

mutual

inductive Entry where
  /-- Scopes of everything in the context, with what begins and ends it. -/
  | metaScope (scopes : String)
  /-- Scopes of what stands between the beginning and the end. -/
  | metaContentScope (scopes : String)
  /-- Whether the grammar's prototype applies in the context. -/
  | metaPrototype (applies : Bool)
  /-- Scopes to take off the stack while the context is open. -/
  | clearScopes (amount : ClearAmount)
  /-- The rules of another context. -/
  | includes (reference : String)
  /-- A rule; `layer` holds rules that stay in force in whatever it opens. -/
  | rule (regex : String) (scopes : String) (captures : List (Nat × String))
      (action : Action) (layer : Option (List Entry))

/-- What a rule does to the open contexts. -/
inductive Action where
  | stay
  | pop
  | push (targets : List Target)
  | set (targets : List Target)

/-- A context that a rule opens. -/
inductive Target where
  | written (reference : String)
  | inline (entries : List Entry)

end

structure Definition where
  name : String
  scope : String
  /-- Base names and extensions of the files it claims. -/
  claims : List String := []
  /-- Expression that recognizes a document by its first line. -/
  firstLine : Option String := none
  /-- Values of the variables that its expressions refer to. -/
  bindings : List (String × String) := []
  contexts : List (String × List Entry) := []

instance : Inhabited Definition := ⟨{ name := "", scope := "" }⟩

end PageFilters.Grammar
