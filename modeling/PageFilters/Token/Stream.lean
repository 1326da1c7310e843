import PageFilters.Scope.Kind
import PageFilters.Text.Lines

/-!
# Token streams

A grammar engine answers each line with changes of the scope stack at octet
offsets.  A token stream takes one line after the other, cuts it wherever an
offset moves on, and gives each piece the kind of the scopes open there.  When
a line fails, the engine or a change of the stack, the stream hands out
everything from the start of that line as one plain token and ends.
-/

namespace PageFilters

/-- How a scope stack takes a change. -/
abbrev ScopeChange := ScopeStack → ScopeOp → Except ScopeFault ScopeStack

/-- What a grammar answers for the lines of a document: changes of the scope
stack with their offsets, and the state in which the next line is read. -/
structure Engine (σ : Type) where
  parseLine : σ → List Char → Except String (List (Nat × ScopeOp) × σ)
  /-- How its changes are made. -/
  change : ScopeChange := ScopeStack.apply

/-- Why a line could not be cut. -/
inductive CutFault where
  | engine (message : String)
  | scopes (fault : ScopeFault)
  /-- An offset lies inside a character. -/
  | offBoundary (offset : Nat)
  deriving Repr, DecidableEq, Inhabited

def CutFault.message : CutFault → String
  | .engine message => message
  | .scopes .nothingCleared => "NoClearedScopesToRestore"
  | .offBoundary _ => "offset inside a character"

/-- Scopes open at some point, with the memory of their classes. -/
structure CutState where
  stack : ScopeStack := {}
  memory : ClassMemory := ∅

/-- Cuts `length` octets off a text and gives them the kind of the open scopes;
no token comes of no octets. -/
def cutPiece (length : Nat) (text : List Char) (state : CutState) :
    Except CutFault (List Token × List Char × CutState) :=
  if length == 0 then
    .ok ([], text, state)
  else
    match Text.splitAt? length text with
    | none => .error (.offBoundary length)
    | some (piece, rest) =>
        let (kind, memory) := state.stack.kind state.memory
        .ok ([⟨kind, String.ofList piece⟩], rest, { state with memory := memory })

/-- Cuts what is left of a line, `rest`, between octet `start` and octet
`stop`: every change takes effect behind the piece that ends at its offset. -/
def cutRest (change : ScopeChange) (stop : Nat) : (start : Nat) → (rest : List Char) →
    CutState → List (Nat × ScopeOp) → Except CutFault (List Token × CutState)
  | start, rest, state, [] => do
      let (tokens, _, state) ← cutPiece (stop - start) rest state
      return (tokens, state)
  | start, rest, state, (offset, op) :: ops => do
      let offset := min offset stop
      let (front, rest, state) ← cutPiece (offset - start) rest state
      let stack ← (change state.stack op).mapError .scopes
      let (tokens, state) ←
        cutRest change stop (max start offset) rest { state with stack := stack } ops
      return (front ++ tokens, state)

/-- Cuts a line at the offsets of its changes. -/
def cutLine (change : ScopeChange) (line : List Char) (state : CutState)
    (ops : List (Nat × ScopeOp)) : Except CutFault (List Token × CutState) :=
  cutRest change (Text.size line) 0 line state ops

/-- A stream: the lines still to be taken, what the lines before them have
left behind, and the tokens of the last line that are still to be handed out. -/
structure TokenStream (σ : Type) where
  lines : Text.LineCursor
  parser : σ
  cutting : CutState := {}
  pending : List Token := []
  fault : Option CutFault := none

namespace TokenStream

variable {σ : Type}

def start (parser : σ) (text : List Char) : TokenStream σ :=
  { lines := ⟨text⟩, parser := parser }

def takeLine (engine : Engine σ) (stream : TokenStream σ) (line : List Char) :
    Except CutFault (List Token × σ × CutState) := do
  let (ops, parser) ← (engine.parseLine stream.parser line).mapError .engine
  let (tokens, cutting) ← cutLine engine.change line stream.cutting ops
  return (tokens, parser, cutting)

/-- The next token, and the stream behind it. -/
def next? (engine : Engine σ) (stream : TokenStream σ) : Option (Token × TokenStream σ) :=
  match stream.pending with
  | token :: pending => some (token, { stream with pending := pending })
  | [] =>
      match _found : stream.lines.next? with
      | none => none
      | some (line, lines) =>
          match stream.takeLine engine line with
          | .ok (tokens, parser, cutting) =>
              next? engine { stream with lines, parser, cutting, pending := tokens }
          | .error fault =>
              some (Token.plain (String.ofList stream.lines.rest),
                { stream with lines := lines.finish, fault := some fault })
termination_by stream.lines.rest.length
decreasing_by exact Text.LineCursor.next?_shorter _found

theorem next?_shorter {engine : Engine σ} {stream following : TokenStream σ} {token : Token}
    (found : stream.next? engine = some (token, following)) :
    following.lines.rest.length < stream.lines.rest.length ∨
      following.lines.rest.length = stream.lines.rest.length ∧
        following.pending.length < stream.pending.length := by
  fun_induction next? engine stream with
  | case1 stream token pending content =>
      simp only [Option.some.injEq, Prod.mk.injEq] at found
      right
      simp [← found.2, content]
  | case2 => simp at found
  | case3 stream content line lines taken tokens parser cutting outcome induction =>
      left
      have shorter := Text.LineCursor.next?_shorter taken
      have later := induction found
      simp only at later
      omega
  | case4 stream content line lines taken fault outcome =>
      simp only [Option.some.injEq, Prod.mk.injEq] at found
      left
      have shorter := Text.LineCursor.next?_shorter taken
      simp only [← found.2, Text.LineCursor.finish, List.length_nil]
      omega

/-- All tokens of a stream behind those in `read`, the last one first, and the
fault that ended it, if one did. -/
def drainFrom (engine : Engine σ) (read : List Token) (stream : TokenStream σ) :
    List Token × Option CutFault :=
  match _found : stream.next? engine with
  | none => (read.reverse, stream.fault)
  | some (token, following) => drainFrom engine (token :: read) following
termination_by (stream.lines.rest.length, stream.pending.length)
decreasing_by
  rcases next?_shorter _found with shorter | ⟨same, shorter⟩
  · exact Prod.Lex.left _ _ shorter
  · rw [same]
    exact Prod.Lex.right _ shorter

/-- All tokens of a stream, and the fault that ended it, if one did. -/
def drain (engine : Engine σ) (stream : TokenStream σ) : List Token × Option CutFault :=
  drainFrom engine [] stream

end TokenStream

end PageFilters
