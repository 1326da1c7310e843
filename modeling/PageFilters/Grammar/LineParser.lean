import PageFilters.Grammar.Linked
import PageFilters.Grammar.Written
import PageFilters.Regex.Parser
import PageFilters.Text.Slice
import Std.Data.HashMap

/-!
# Parsing lines

The state of a parse is a stack of open contexts.  A line is read from left to
right: of all rules in force the one whose match starts first is applied, and
what it does to the scopes is written down with its position.  Searches are
remembered for the rest of the line.

A rule that opens a context without consuming anything must not be undone by
one that closes it without consuming anything; the parse then moves on by one
character.  Steps that consume nothing are limited in number, so that every
line ends.
-/

namespace PageFilters.Grammar

/-- Why a line cannot be parsed. -/
inductive LineFault where
  /-- A rule opens a context that the set does not hold. -/
  | unresolvedTarget
  /-- The context on top of the stack is not in the set. -/
  | missingContext
  /-- The rules have been applied over and over without moving on. -/
  | noProgress
  deriving Repr, DecidableEq, Inhabited

def LineFault.message : LineFault → String
  | .unresolvedTarget => "a rule opens a context that no grammar defines"
  | .missingContext => "the open context is not in the grammar set"
  | .noProgress => "the rules do not move on"

/-- The text and groups of a match that is still referred to. -/
structure Remembered where
  subject : Array Char
  found : Regex.Match
  deriving Repr, Inhabited

def Remembered.group? (remembered : Remembered) (number : Nat) : Option (List Char) := do
  let (start, stop) ← remembered.found.group? number
  return (remembered.subject.extract start stop).toList

/-- An open context, with the layers of rules that hold as long as it is open. -/
structure Frame where
  context : ContextId
  layers : List ContextId := []
  remembered : Option Remembered := none
  deriving Repr, Inhabited

/-- The state between lines: the open contexts, the top one first, and the
heights of the stack at which rules of layers have been applied, the last one
first. -/
structure ParserState where
  frames : List Frame
  layerHeights : List Nat := []
  fresh : Bool := true
  deriving Repr, Inhabited

def ParserState.initial (start : Option ContextId) : ParserState :=
  { frames := (start.map fun context => { context := context }).toList }

/-- A rule in force. -/
structure Candidate where
  rule : Rule
  layered : Bool
  remembered : Option Remembered

/-- Searches of the current line, by rule: where the rule matches next, or that
it does not match any more. -/
abbrev SearchMemory := Std.HashMap Nat (Option Regex.Match)

/-- What the steps on a line share. -/
structure LineState where
  parser : ParserState
  position : Nat := 0
  memory : SearchMemory := ∅
  /-- Position and height of the stack after the last opening that consumed nothing. -/
  openedAt : Nat × Nat := (0, 0)
  /-- Changes of the scopes, the last one first. -/
  ops : List (Nat × ScopeOp) := []

/-- Greatest height of the stack at which a rule may open a context. -/
def heightLimit : Nat := 100

/-- Searches for a rule without looking at what is remembered.  A match that
would do nothing, or that would open a context too deep in the stack, does not
count and is not remembered; neither is one of an expression with inserted
groups. -/
def searchAnew (subject : Array Char) (position height : Nat) (candidate : Candidate)
    (memory : SearchMemory) : Option Regex.Match × SearchMemory :=
  let rule := candidate.rule
  let inserted := if rule.recalls then candidate.remembered else none
  let regex := match inserted with
    | none => rule.regex
    | some remembered => Regex.parse? (insertGroups remembered.group? rule.written)
  match regex.bind fun regex => regex.search subject position with
  | none => (none, if inserted.isSome then memory else memory.insert rule.number none)
  | some found =>
      let counts := match rule.step with
        | .stay => found.start != found.stop
        | .push _ => height < heightLimit
        | _ => true
      if counts then
        (some found, if inserted.isSome then memory else memory.insert rule.number (some found))
      else
        (none, memory)

/-- Searches for a rule.  What is remembered stands as long as its start has
not been passed. -/
def searchRule (subject : Array Char) (position height : Nat) (candidate : Candidate)
    (memory : SearchMemory) : Option Regex.Match × SearchMemory :=
  match memory[candidate.rule.number]? with
  | some none => (none, memory)
  | some (some found) =>
      if position ≤ found.start then (some found, memory)
      else searchAnew subject position height candidate memory
  | none => searchAnew subject position height candidate memory

structure Choice where
  candidate : Candidate
  found : Regex.Match
  /-- The rule would close what has just been opened, without consuming anything. -/
  loops : Bool

inductive Selection where
  | chosen (choice : Choice)
  | nothing
  /-- A rule that opens a context came first, but the stack is too high. -/
  | tooHigh

/-- Chooses the candidate whose match starts first, of several the first one; a
choice that would loop gives way to a later candidate with the same start. -/
def choose (subject : Array Char) (position height : Nat) (guarded : Bool) :
    List Candidate → Option Choice → SearchMemory → Selection × SearchMemory
  | [], best, memory => ((best.map .chosen).getD .nothing, memory)
  | candidate :: rest, best, memory =>
      match searchRule subject position height candidate memory with
      | (none, memory) => choose subject position height guarded rest best memory
      | (some found, memory) =>
          let better := match best with
            | none => true
            | some best =>
                found.start < best.found.start ||
                  (found.start == best.found.start && best.loops)
          if !better then
            choose subject position height guarded rest best memory
          else
            let step := candidate.rule.step
            let loops := guarded && found.stop ≤ position && step == .pop
            let opens := match step with
              | .push _ => true
              | _ => false
            if opens && heightLimit ≤ height then
              (.tooHigh, memory)
            else
              let choice : Choice := ⟨candidate, found, loops⟩
              if found.start == position && !loops then
                (.chosen choice, memory)
              else
                choose subject position height guarded rest (some choice) memory

/-- The rules in force: the layers of the frames from the bottom up, as far as
they are not below the height where a layer's rule was last applied, then the
prototype, then the current context. -/
def candidates (set : GrammarSet) (parser : ParserState) (current : Frame) (context : Context) :
    List Candidate :=
  let bottomUp := parser.frames.reverse.drop (parser.layerHeights.head?.getD 0)
  let rulesOf (number : ContextId) : List Rule := ((set.contexts[number]?).map (·.rules)).getD []
  let layered := bottomUp.flatMap fun frame =>
    frame.layers.flatMap fun layer =>
      (rulesOf layer).map fun rule => ⟨rule, true, frame.remembered⟩
  let common := ((context.prototype.map rulesOf).getD []).map fun rule => ⟨rule, false, none⟩
  layered ++ common ++ context.rules.map fun rule => ⟨rule, false, current.remembered⟩

/-- A pop of `count` scopes, where there are any. -/
def popOps (position count : Nat) : List (Nat × ScopeOp) :=
  if count == 0 then [] else [(position, .pop count)]

def pushOps (position : Nat) (scopes : List Scope) : List (Nat × ScopeOp) :=
  scopes.map fun scope => (position, .push scope)

/-- The change that clears scopes for a context, where it does. -/
def clearOps (position : Nat) (context : Context) : List (Nat × ScopeOp) :=
  context.clears.toList.map fun amount => (position, .clear amount)

def opsBefore (position : Nat) (current : Context) (step : Step) (targets : List Context) :
    List (Nat × ScopeOp) :=
  match step with
  | .stay => []
  | .pop => popOps position current.metaContentScope.length
  | .push _ =>
      targets.flatMap fun target =>
        clearOps position target ++ pushOps position target.metaScope
  | .set _ =>
      (if current.clears.isSome then [(position, .restore)] else []) ++
        targets.flatMap fun target => pushOps position target.metaScope

def opsAfter (position : Nat) (current : Context) (step : Step) (targets : List Context) :
    List (Nat × ScopeOp) :=
  let opened := (targets.flatMap (·.metaScope)).length
  let hasContent := targets.any fun target => !target.metaContentScope.isEmpty
  match step with
  | .stay => []
  | .pop =>
      popOps position current.metaScope.length ++
        if current.clears.isSome then [(position, .restore)] else []
  | .push _ =>
      if hasContent then
        popOps position opened ++ targets.flatMap fun target =>
          pushOps position (target.metaScope ++ target.metaContentScope)
      else
        []
  | .set _ =>
      let closed := current.metaContentScope.length + current.metaScope.length
      if closed != 0 || hasContent || targets.any (·.clears.isSome) then
        popOps position (opened + closed) ++ targets.flatMap fun target =>
          clearOps position target ++
            pushOps position (target.metaScope ++ target.metaContentScope)
      else
        []

/-- A change that a group causes, with what it is sorted by: at one position
scopes are popped before others are pushed, and longer groups push first. -/
structure GroupOp where
  position : Nat
  length : Option Nat
  op : ScopeOp

def GroupOp.le (left right : GroupOp) : Bool :=
  left.position < right.position || (left.position == right.position &&
    match left.length, right.length with
    | none, _ => true
    | some _, none => false
    | some left, some right => right ≤ left)

/-- Changes that the groups of a match cause. -/
def groupOps (rule : Rule) (found : Regex.Match) : List (Nat × ScopeOp) :=
  let ops := rule.captures.flatMap fun (number, scopes) =>
    match found.group? number with
    | none => []
    | some (start, stop) =>
        if start == stop then []
        else
          scopes.map (fun scope => ⟨start, some (stop - start), .push scope⟩) ++
            [GroupOp.mk stop none (.pop scopes.length)]
  (ops.mergeSort GroupOp.le).map fun entry => (entry.position, entry.op)

/-- The contexts of a step's targets, none if one of them names nothing. -/
def targetContexts (set : GrammarSet) (step : Step) :
    Except LineFault (List (ContextId × Context)) :=
  let targets := match step with
    | .push targets | .set targets => targets
    | _ => []
  targets.mapM fun target =>
    match target.bind fun number => (set.contexts[number]?).map (number, ·) with
    | some found => .ok found
    | none => .error .unresolvedTarget

/-- The frames that a match opens, the last one on top; `kept` are layers that
the first one takes over. -/
def openFrames (set : GrammarSet) (remembered : Remembered) (layer : Option ContextId) :
    (kept : List ContextId) → List (ContextId × Context) → List Frame → List Frame
  | _, [], frames => frames
  | kept, (number, context) :: rest, frames =>
      let layers := kept ++ if rest.isEmpty then layer.toList else []
      let recalls := context.recalls || layers.any fun layer =>
        ((set.contexts[layer]?).map (·.recalls)).getD false
      let frame : Frame := {
        context := number
        layers := layers
        remembered := if recalls then some remembered else none }
      openFrames set remembered layer [] rest (frame :: frames)

def applyChoice (set : GrammarSet) (subject : Array Char) (current : Context) (choice : Choice)
    (line : LineState) : Except LineFault LineState := do
  let rule := choice.candidate.rule
  let found := choice.found
  let targets ← targetContexts set rule.step
  let contexts := targets.map (·.2)
  let ops :=
    opsBefore found.start current rule.step contexts ++
    pushOps found.start rule.scopes ++
    groupOps rule found ++
    popOps found.stop rule.scopes.length ++
    opsAfter found.stop current rule.step contexts
  let remembered : Remembered := ⟨subject, found⟩
  let frames := line.parser.frames
  let height := frames.length
  let opened := match rule.step with
    | .stay => frames
    | .pop => frames.drop 1
    | .push _ => openFrames set remembered rule.layer [] targets frames
    | .set _ =>
        let kept := (frames.head?.map (·.layers)).getD []
        openFrames set remembered rule.layer kept targets (frames.drop 1)
  let emptyOpening := found.stop ≤ line.position && match rule.step with
    | .push _ => true
    | _ => false
  let heights := line.parser.layerHeights
  return {
    line with
    parser := {
      line.parser with
      frames := opened
      layerHeights := if choice.candidate.layered then height :: heights else heights }
    position := found.stop
    openedAt := if emptyOpening then (found.stop, height + 1) else line.openedAt
    ops := ops.reverse ++ line.ops }

inductive StepResult where
  | more (line : LineState)
  | done (line : LineState)

def stepLine (set : GrammarSet) (subject : Array Char) (line : LineState) :
    Except LineFault StepResult := do
  let height := line.parser.frames.length
  let parser := {
    line.parser with layerHeights := line.parser.layerHeights.dropWhile (height ≤ ·) }
  let line := { line with parser := parser }
  let some current := parser.frames.head? | throw .missingContext
  let some context := set.contexts[current.context]? | throw .missingContext
  let guarded := line.openedAt == (line.position, height)
  let (selection, memory) :=
    choose subject line.position height guarded (candidates set parser current context) none
      line.memory
  let line := { line with memory := memory }
  match selection with
  | .nothing | .tooHigh => return .done line
  | .chosen choice =>
      if !choice.loops then
        return .more (← applyChoice set subject context choice line)
      else if line.position + 1 < subject.size then
        return .more { line with position := line.position + 1 }
      else
        return .done line

def runLine (set : GrammarSet) (subject : Array Char) :
    (rounds : Nat) → LineState → Except LineFault LineState
  | 0, _ => .error .noProgress
  | rounds + 1, line => do
      match ← stepLine set subject line with
      | .more line => runLine set subject rounds line
      | .done line => return line

/-- How many steps a line may take for each of its positions. -/
def stepsPerPosition : Nat := 4096

def octetOffsets (line : List Char) : Array Nat :=
  line.foldl (fun offsets char => offsets.push (offsets.back?.getD 0 + char.utf8Size)) #[0]

/-- Parses a line: the changes of the scopes with their octet offsets, and the
state behind the line. -/
def parseLine (set : GrammarSet) (parser : ParserState) (text : List Char) :
    Except LineFault (List (Nat × ScopeOp) × ParserState) := do
  let subject := text.toArray
  let some current := parser.frames.head? | throw .missingContext
  let some context := set.contexts[current.context]? | throw .missingContext
  let opening : List (Nat × ScopeOp) :=
    if parser.fresh then (pushOps 0 context.metaContentScope).take 1 else []
  let line ← runLine set subject (stepsPerPosition * (subject.size + 1))
    { parser := { parser with fresh := false }, ops := opening.reverse }
  let offsets := octetOffsets text
  let size := offsets.back?.getD 0
  let ops := line.ops.reverse.map fun (position, op) => (offsets.getD position size, op)
  return (ops, line.parser)

end PageFilters.Grammar
