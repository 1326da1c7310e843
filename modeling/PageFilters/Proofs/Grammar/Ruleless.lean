import PageFilters.Proofs.Token.Faults

/-!
# Grammars without rules

A linked document starts in a context that holds the grammar's scope and opens
another one at once.  If that one has no rules, the grammar knows nothing but its
scope: the first line opens it, nothing closes it, and so each line of every text
is one token of its kind.
-/

namespace PageFilters

namespace Grammar

/-- A rule that opens a context without consuming anything. -/
def opener (number : Nat) (root : ContextId) : Rule where
  number := number
  written := []
  regex := some .empty
  recalls := false
  scopes := []
  captures := []
  step := .push [some root]
  layer := none

/-- The context in which a document starts has a scope and opens another one,
which has nothing. -/
structure Ruleless (set : GrammarSet) (start root : ContextId) (scope : Scope) : Prop where
  opens : ∃ number, set.contexts[start]? = some
    { metaContentScope := [scope], rules := [opener number root] }
  bare : set.contexts[root]? = some ({} : Context)

/-- The state behind the first line of such a document. -/
def ParserState.settled (start root : ContextId) : ParserState where
  frames := [{ context := root }, { context := start }]
  fresh := false

theorem octetOffsets_zero (line : List Char) : (octetOffsets line)[0]? = some 0 := by
  suffices kept : ∀ offsets : Array Nat, offsets[0]? = some 0 →
      (line.foldl (fun offsets char => offsets.push (offsets.back?.getD 0 + char.utf8Size))
        offsets)[0]? = some 0 from kept #[0] rfl
  induction line with
  | nil => exact fun _ first => first
  | cons char rest induction =>
      intro offsets first
      apply induction
      have inside : 0 < offsets.size := (Array.getElem?_eq_some_iff.mp first).1
      rw [Array.getElem?_push, if_neg (Nat.ne_of_lt inside), first]

theorem exists_rounds (line : List Char) :
    ∃ rounds, stepsPerPosition * (line.length + 1) = rounds + 2 := by
  apply Nat.exists_eq_add_of_le'
  rw [stepsPerPosition]
  omega

namespace Ruleless

variable {set : GrammarSet} {start root : ContextId} {scope : Scope}
  (ruleless : Ruleless set start root scope)

include ruleless

theorem runLine_settled (subject : Array Char) (rounds : Nat) (line : LineState)
    (settled : line.parser = .settled start root) :
    runLine set subject (rounds + 1) line = .ok line := by
  obtain ⟨parser, position, memory, openedAt, ops⟩ := line
  subst settled
  have done : stepLine set subject ⟨.settled start root, position, memory, openedAt, ops⟩ =
      .ok (.done ⟨.settled start root, position, memory, openedAt, ops⟩) := by
    simp [stepLine, ParserState.settled, ruleless.bare, candidates, choose, pure, Except.pure]
  rw [runLine, done]
  rfl

theorem parseLine_initial (line : List Char) :
    parseLine set (.initial (some start)) line =
      .ok ([(0, .push scope)], .settled start root) := by
  obtain ⟨number, opens⟩ := ruleless.opens
  have found : Regex.search .empty line.toArray 0 = some ⟨0, 0, #[]⟩ := by
    simp [Regex.search, Regex.searchFrom.eq_def, Regex.matchAt]
  have targets : targetContexts set (.push [some root]) = .ok [(root, {})] := by
    simp [targetContexts, ruleless.bare, bind, Except.bind, pure, Except.pure]
  let opened : LineState := {
    parser := .settled start root
    memory := (∅ : SearchMemory).insert number (some ⟨0, 0, #[]⟩)
    openedAt := (0, 2)
    ops := [(0, .push scope)] }
  have step : stepLine set line.toArray
      { parser := ⟨[{ context := start }], [], false⟩, ops := [(0, .push scope)] } =
        .ok (.more opened) := by
    simp [stepLine, opens, candidates, opener, choose, searchRule, searchAnew, found, heightLimit,
      applyChoice, targets, openFrames, opsBefore, opsAfter, pushOps, popOps, clearOps, groupOps,
      Context.recalls, opened, ParserState.settled, Functor.map, Except.map]
  obtain ⟨rounds, enough⟩ := exists_rounds line
  have run : runLine set line.toArray (stepsPerPosition * (line.length + 1))
      { parser := ⟨[{ context := start }], [], false⟩, ops := [(0, .push scope)] } =
        .ok opened := by
    rw [enough, runLine, step]
    exact ruleless.runLine_settled line.toArray rounds opened rfl
  simp [parseLine, ParserState.initial, opens, pushOps, run, octetOffsets_zero, opened,
    Functor.map, Except.map]

theorem parseLine_settled (line : List Char) :
    parseLine set (.settled start root) line = .ok ([], .settled start root) := by
  obtain ⟨rounds, enough⟩ := exists_rounds line
  have run := ruleless.runLine_settled line.toArray (rounds + 1)
    { parser := .settled start root } rfl
  simp only [ParserState.settled] at run
  simp [parseLine, ParserState.settled, ruleless.bare, enough, run, Functor.map, Except.map]

end Ruleless

end Grammar

open Grammar

theorem exists_cutRest_nil (change : ScopeChange) (state : CutState) {line : List Char}
    (nonempty : line ≠ []) (sound : state.memory.Sound) :
    ∃ memory, cutRest change (Text.size line) 0 line state [] =
      .ok ([⟨kindOfScopes none state.stack.scopes, String.ofList line⟩],
        { state with memory }) := by
  have kind := (sound.kindOf none state.stack.scopes).1
  have sized : Text.size line ≠ 0 := mt Text.size_eq_zero_iff.mp nonempty
  have uncut : Text.splitAt? (Text.size line) line = some (line, []) := by
    simp [Text.splitAt?_eq_some_iff]
  refine ⟨(state.stack.kind state.memory).2, ?_⟩
  rw [cutRest, Outcome.bind_eq_ok_iff]
  refine ⟨([⟨kindOfScopes none state.stack.scopes, String.ofList line⟩], [],
    { state with memory := (state.stack.kind state.memory).2 }), ?_, rfl⟩
  simp [cutPiece, sized, uncut, ScopeStack.kind, kind]

namespace Grammar.Ruleless

variable {set : GrammarSet} {start root : ContextId} {scope : Scope} {line : List Char}
  (ruleless : Ruleless set start root scope)

include ruleless

theorem readLine_initial (nonempty : line ≠ []) :
    set.engine.readLine ⟨.initial (some start), {}⟩ line =
      .ok ([⟨kindOfScopes none [scope], String.ofList line⟩],
        ⟨.settled start root, ⟨[scope], []⟩⟩) := by
  have parsed : set.engine.parseLine (.initial (some start)) line = _ :=
    Outcome.mapError_eq_ok_iff.mpr (ruleless.parseLine_initial line)
  obtain ⟨memory, cut⟩ := exists_cutRest_nil ScopeStack.apply { stack := ⟨[scope], []⟩ } nonempty
    ClassMemory.sound_empty
  refine Engine.readLine_eq_ok_iff.mpr ⟨_, { stack := ⟨[scope], []⟩, memory }, parsed, ?_, rfl⟩
  rw [cutLine, cutRest]
  simp only [Outcome.bind_eq_ok_iff]
  exact ⟨_, rfl, _, rfl, _, cut, rfl⟩

theorem readLine_settled (nonempty : line ≠ []) :
    set.engine.readLine ⟨.settled start root, ⟨[scope], []⟩⟩ line =
      .ok ([⟨kindOfScopes none [scope], String.ofList line⟩],
        ⟨.settled start root, ⟨[scope], []⟩⟩) := by
  have parsed : set.engine.parseLine (.settled start root) line = _ :=
    Outcome.mapError_eq_ok_iff.mpr (ruleless.parseLine_settled line)
  obtain ⟨memory, cut⟩ := exists_cutRest_nil ScopeStack.apply { stack := ⟨[scope], []⟩ } nonempty
    ClassMemory.sound_empty
  exact Engine.readLine_eq_ok_iff.mpr ⟨_, _, parsed, cut, rfl⟩

theorem reads_settled {lines : List (List Char)} (nonempty : ∀ line ∈ lines, line ≠ []) :
    set.engine.Reads ⟨.settled start root, ⟨[scope], []⟩⟩ lines
      (lines.map fun line => [⟨kindOfScopes none [scope], String.ofList line⟩])
      ⟨.settled start root, ⟨[scope], []⟩⟩ := by
  induction lines with
  | nil => exact .nil _
  | cons line lines induction =>
      obtain ⟨first, others⟩ := List.forall_mem_cons.mp nonempty
      exact .cons (ruleless.readLine_settled first) (induction others)

/-- Without rules each line is one token. -/
theorem tokenize_eq {grammar : Grammar} (starts : grammar.start = some start) (text : String) :
    (set.tokenizer grammar).tokenize text =
      { tokens := (Text.lines text.toList).map fun line =>
          ⟨kindOfScopes none [scope], String.ofList line⟩ } := by
  have reads : ∃ reached, set.engine.Reads ⟨.initial grammar.start, {}⟩ (Text.lines text.toList)
      ((Text.lines text.toList).map fun line =>
        [⟨kindOfScopes none [scope], String.ofList line⟩]) reached := by
    have nonempty : ∀ line ∈ Text.lines text.toList, line ≠ [] :=
      fun line => Text.ne_nil_of_mem_lines
    rw [starts]
    cases lines : Text.lines text.toList with
    | nil => exact ⟨_, .nil _⟩
    | cons line later =>
        rw [lines] at nonempty
        obtain ⟨first, others⟩ := List.forall_mem_cons.mp nonempty
        exact ⟨_, .cons (ruleless.readLine_initial first) (ruleless.reads_settled others)⟩
  obtain ⟨reached, reads⟩ := reads
  have drained := TokenStream.drain_of_reads reads
  rw [← List.flatMap_def, ← List.map_eq_flatMap] at drained
  simp only [GrammarSet.tokenizer, Tokenizer.ofEngine, drained]

end Grammar.Ruleless

end PageFilters
