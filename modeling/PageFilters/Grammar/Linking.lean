import PageFilters.Grammar.Definition
import PageFilters.Grammar.Linked
import PageFilters.Grammar.Written
import PageFilters.Regex.Parser

/-!
# Linking

`GrammarSet.link` turns definitions into a set of linked grammars.  Contexts
are first drafted: each gets a number, inline ones too, and each rule is read.
Then references are resolved throughout the set, the contexts that the
prototype reaches are found, and includes are replaced by what they include.
-/

namespace PageFilters.Grammar

/-- A link that is still to be resolved. -/
inductive Link where
  | written (reference : Reference)
  | direct (target : ContextId)
  deriving Repr, DecidableEq, Inhabited

inductive DraftStep where
  | stay
  | pop
  | push (targets : List Link)
  | set (targets : List Link)
  deriving Repr, DecidableEq, Inhabited

def DraftStep.targets : DraftStep → List Link
  | .stay | .pop => []
  | .push targets | .set targets => targets

/-- An entry of a drafted context: the rules of another one, or a rule whose
step is still to be resolved. -/
inductive DraftEntry where
  | includes (link : Link)
  | rule (rule : Rule) (step : DraftStep)
  deriving Repr, Inhabited

/-- A context whose links are still to be resolved. -/
structure DraftContext where
  owner : Nat
  metaScope : List Scope := []
  metaContentScope : List Scope := []
  clears : Option ClearAmount := none
  prototypeApplies : Bool := true
  entries : List DraftEntry := []
  deriving Repr, Inhabited

/-- All contexts drafted so far, and the number of rules in them. -/
structure Draft where
  contexts : Array DraftContext := #[]
  rules : Nat := 0
  deriving Repr, Inhabited

def addContext (context : DraftContext) : StateM Draft ContextId := do
  let draft ← get
  set { draft with contexts := draft.contexts.push context }
  return draft.contexts.size

/-- The groups of an expression that consume text, outside of every
look-around. -/
def consumingGroups : Regex → List Nat
  | .group number inner => number :: consumingGroups inner
  | .concat left right | .either left right => consumingGroups left ++ consumingGroups right
  | .repetition inner _ _ _ | .atomic inner => consumingGroups inner
  | _ => []

/-- Drafts a rule: reads its expression and keeps the scopes of the groups
that consume text, by ascending group. -/
def draftRule (bindings : List (String × String)) (regex scopes : String)
    (captures : List (Nat × String)) (step : DraftStep) (layer : Option ContextId) :
    StateM Draft DraftEntry := do
  let written := expandExpression bindings regex
  let parsed := Regex.parse? written
  let consuming := 0 :: (parsed.map consumingGroups).getD []
  let kept := captures.filter fun capture => consuming.contains capture.1
  let draft ← get
  set { draft with rules := draft.rules + 1 }
  let rule : Rule := {
    number := draft.rules
    written := written
    regex := parsed
    recalls := step == .pop && refersToGroup written
    scopes := Scope.listOfWritten scopes
    captures := (kept.mergeSort fun left right => left.1 ≤ right.1).map fun capture =>
      (capture.1, Scope.listOfWritten capture.2)
    step := .stay
    layer := layer }
  return .rule rule step

mutual

def draftEntries (bindings : List (String × String)) :
    List Entry → DraftContext → StateM Draft DraftContext
  | [], context => pure context
  | entry :: rest, context => do
      draftEntries bindings rest (← draftEntry bindings entry context)

def draftEntry (bindings : List (String × String)) :
    Entry → DraftContext → StateM Draft DraftContext
  | .metaScope scopes, context =>
      pure { context with metaScope := Scope.listOfWritten scopes }
  | .metaContentScope scopes, context =>
      pure { context with metaContentScope := Scope.listOfWritten scopes }
  | .metaPrototype applies, context => pure { context with prototypeApplies := applies }
  | .clearScopes amount, context => pure { context with clears := some amount }
  | .includes reference, context =>
      let link := Link.written (Reference.ofWritten reference)
      pure { context with entries := context.entries ++ [.includes link] }
  | .rule regex scopes captures action layer, context => do
      let step ← draftAction bindings context.owner action
      let layer ← draftLayer bindings context.owner layer
      let rule ← draftRule bindings regex scopes captures step layer
      return { context with entries := context.entries ++ [rule] }

def draftAction (bindings : List (String × String)) (owner : Nat) :
    Action → StateM Draft DraftStep
  | .stay => pure .stay
  | .pop => pure .pop
  | .push targets => return .push (← draftTargets bindings owner targets)
  | .set targets => return .set (← draftTargets bindings owner targets)

def draftTargets (bindings : List (String × String)) (owner : Nat) :
    List Target → StateM Draft (List Link)
  | [] => pure []
  | target :: rest => do
      let first ← draftTarget bindings owner target
      return first :: (← draftTargets bindings owner rest)

/-- Drafts one target; an inline context gets a number. -/
def draftTarget (bindings : List (String × String)) (owner : Nat) :
    Target → StateM Draft Link
  | .written reference => pure (.written (Reference.ofWritten reference))
  | .inline entries => do
      let context ← draftEntries bindings entries { owner := owner }
      return .direct (← addContext context)

/-- Drafts the rules that stay in force in what a rule opens. -/
def draftLayer (bindings : List (String × String)) (owner : Nat) :
    Option (List Entry) → StateM Draft (Option ContextId)
  | none => pure none
  | some entries => do
      let context ← draftEntries bindings entries { owner := owner }
      return some (← addContext context)

end

/-- A grammar with the numbers of its contexts. -/
structure DraftGrammar where
  definition : Definition
  contexts : List (String × ContextId)
  start : Option ContextId
  deriving Inhabited

/-- Drafts the contexts that have names, under the numbers from `number` on. -/
def draftNamed (bindings : List (String × String)) (owner : Nat) :
    (number : Nat) → List (String × List Entry) → StateM Draft Unit
  | _, [] => pure ()
  | number, (_, entries) :: rest => do
      let context ← draftEntries bindings entries { owner := owner }
      modify fun draft => { draft with contexts := draft.contexts.setIfInBounds number context }
      draftNamed bindings owner (number + 1) rest

/-- Adds the two contexts at the bottom of every stack: the root, which stands
for the main context, and below it the start, which opens the root wherever it
is closed.  The main context, where it is opened by a reference, has the
grammar's scope in front of its content scopes. -/
def draftStart (owner : Nat) (scope : Scope) (main : ContextId) : StateM Draft ContextId := do
  let context := ((← get).contexts[main]?).getD { owner := owner }
  let root ← addContext {
    owner := owner
    metaScope := context.metaScope
    metaContentScope := context.metaContentScope
    prototypeApplies := context.prototypeApplies
    entries := [.includes (.direct main)] }
  let opening ← draftRule [] "" "" [] (.push [.direct root]) none
  modify fun draft => {
    draft with
    contexts := draft.contexts.setIfInBounds main
      { context with metaContentScope := scope :: context.metaContentScope } }
  addContext {
    owner := owner
    metaContentScope := [scope]
    prototypeApplies := false
    entries := [opening] }

def draftGrammar (owner : Nat) (definition : Definition) : StateM Draft DraftGrammar := do
  let base := (← get).contexts.size
  let names := definition.contexts.mapIdx fun index entry => (entry.1, base + index)
  modify fun draft => {
    draft with
    contexts := draft.contexts ++ Array.replicate names.length { owner := owner } }
  draftNamed definition.bindings owner base definition.contexts
  let start ← match names.lookup "main" with
    | none => pure none
    | some main => some <$> draftStart owner (Scope.ofWritten definition.scope) main
  return { definition := definition, contexts := names, start := start }

def draftGrammars : (owner : Nat) → List Definition → StateM Draft (List DraftGrammar)
  | _, [] => pure []
  | owner, definition :: rest => do
      let first ← draftGrammar owner definition
      return first :: (← draftGrammars (owner + 1) rest)

/-- Resolves a link of a grammar; of several grammars that fit the last loaded
one is meant. -/
def resolve (drafts : List DraftGrammar) (owner : Nat) : Link → Option ContextId
  | .direct target => some target
  | .written (.named context) => do (← drafts[owner]?).contexts.lookup context
  | .written (.ofScope scope context) => do
      let draft ← drafts.reverse.find? fun draft =>
        Scope.ofWritten draft.definition.scope == scope
      draft.contexts.lookup context
  | .written (.ofGrammar name context) => do
      let draft ← drafts.reverse.find? (·.definition.name == name)
      draft.contexts.lookup context

/-- The contexts of the same grammar that an entry leads to. -/
def DraftEntry.leadsTo (drafts : List DraftGrammar) (owner : Nat) (entry : DraftEntry) :
    List ContextId :=
  let links := match entry with
    | .includes link => [link]
    | .rule _ step => step.targets
  links.filterMap fun
    | .written (.ofScope _ _) | .written (.ofGrammar _ _) => none
    | link => resolve drafts owner link

/-- The contexts reached from the given ones in at most `rounds` steps. -/
def reached (contexts : Array DraftContext) (drafts : List DraftGrammar) :
    (rounds : Nat) → List ContextId → List ContextId
  | 0, known => known
  | rounds + 1, known =>
      let next := known.flatMap fun number =>
        match contexts[number]? with
        | none => []
        | some context => context.entries.flatMap (·.leadsTo drafts context.owner)
      let fresh := (next.filter fun number => !known.contains number).eraseDups
      if fresh.isEmpty then known else reached contexts drafts rounds (known ++ fresh)

/-- The rules of a context with those it includes, in order; an include that
leads back to a context on its own path, `path`, has no rules. -/
def expand (contexts : Array DraftContext) (drafts : List DraftGrammar) :
    (depth : Nat) → (path : List ContextId) → ContextId → List (Nat × Rule × DraftStep)
  | 0, _, _ => []
  | depth + 1, path, number =>
      if path.contains number then []
      else match contexts[number]? with
        | none => []
        | some context =>
            context.entries.flatMap fun
              | .rule rule step => [(context.owner, rule, step)]
              | .includes link =>
                  match resolve drafts context.owner link with
                  | none => []
                  | some target => expand contexts drafts depth (number :: path) target

def linkStep (drafts : List DraftGrammar) (owner : Nat) : DraftStep → Step
  | .stay => .stay
  | .pop => .pop
  | .push targets => .push (targets.map (resolve drafts owner))
  | .set targets => .set (targets.map (resolve drafts owner))

/-- The prototype of each grammar, with the contexts it reaches: those do not
include it. -/
def prototypes (contexts : Array DraftContext) (drafts : List DraftGrammar) :
    List (Option (ContextId × List ContextId)) :=
  drafts.map fun draft =>
    (draft.contexts.lookup "prototype").map fun prototype =>
      (prototype, reached contexts drafts contexts.size [prototype])

def linkContext (contexts : Array DraftContext) (drafts : List DraftGrammar)
    (prototypes : List (Option (ContextId × List ContextId))) (number : ContextId)
    (context : DraftContext) : Context := {
  metaScope := context.metaScope
  metaContentScope := context.metaContentScope
  clears := context.clears
  prototype := do
    let (prototype, reached) ← (prototypes[context.owner]?).join
    if context.prototypeApplies && !reached.contains number then some prototype else none
  rules := (expand contexts drafts (contexts.size + 1) [] number).map fun (owner, rule, step) =>
    { rule with step := linkStep drafts owner step } }

end PageFilters.Grammar

namespace PageFilters

/-- Links definitions in load order. -/
def GrammarSet.link (definitions : List Grammar.Definition) : GrammarSet :=
  let (drafts, draft) := (Grammar.draftGrammars 0 definitions).run {}
  let prototypes := Grammar.prototypes draft.contexts drafts
  let grammarOf (draft : Grammar.DraftGrammar) : Grammar := {
    name := draft.definition.name
    scope := Scope.ofWritten draft.definition.scope
    claims := draft.definition.claims
    firstLine := draft.definition.firstLine.bind fun text => Regex.parse? text.toList
    start := draft.start }
  { grammars := drafts.map grammarOf
    contexts := draft.contexts.mapIdx fun number context =>
      Grammar.linkContext draft.contexts drafts prototypes number context }

end PageFilters
