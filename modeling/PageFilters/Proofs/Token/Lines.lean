import PageFilters.Proofs.Token.Causality
import PageFilters.Proofs.Token.Marks

/-!
# Lines read one by one

A line is read in the states that the lines in front of it have left: that of
the parser and the scope stack.  Nothing else goes over from line to line, least
of all what is remembered of scopes.  A text is read line by line until one of
them fails, and a line fails where the engine has no answer to it or one of the
changes that it answers cannot be made.
-/

namespace PageFilters

open Outcome (Alike)

/-- The states in front of a line. -/
structure LineState (σ : Type) where
  parser : σ
  stack : ScopeStack := {}

namespace Engine

variable {σ : Type}

/-- The tokens of a line and the states behind it. -/
def readLine (engine : Engine σ) (state : LineState σ) (line : List Char) :
    Except CutFault (List Token × LineState σ) :=
  ((TokenStream.resume state.parser { stack := state.stack } line).takeLine engine line).map
    fun (tokens, parser, cutting) => (tokens, ⟨parser, cutting.stack⟩)

/-- Lines that are read one after the other without a fault, and the tokens of
each of them. -/
inductive Reads (engine : Engine σ) :
    LineState σ → List (List Char) → List (List Token) → LineState σ → Prop where
  | nil (state : LineState σ) : Reads engine state [] [] state
  | cons {before reached after : LineState σ} {line : List Char} {lines : List (List Char)}
      {tokens : List Token} {later : List (List Token)}
      (read : engine.readLine before line = .ok (tokens, reached))
      (others : Reads engine reached lines later after) :
      Reads engine before (line :: lines) (tokens :: later) after

/-- What the engine answers for lines, each of them in the state behind the one
before it. -/
def answers (engine : Engine σ) (parser : σ) :
    List (List Char) → Except String (List (List (Nat × ScopeOp)) × σ)
  | [] => .ok ([], parser)
  | line :: lines => do
      let (ops, parser) ← engine.parseLine parser line
      let (later, parser) ← engine.answers parser lines
      return (ops :: later, parser)

/-- A line on which the engine or one of the changes that it answers fails. -/
inductive FailsOn (engine : Engine σ) (state : LineState σ) (line : List Char) :
    CutFault → Prop where
  | refused {message : String} (refused : engine.parseLine state.parser line = .error message) :
      FailsOn engine state line (.engine message)
  | unmade {before after : List (Nat × ScopeOp)} {entry : Nat × ScopeOp} {following : σ}
      {stack : ScopeStack} {reason : ScopeFault}
      (answered : engine.parseLine state.parser line = .ok (before ++ entry :: after, following))
      (made : engine.change.all state.stack before = .ok stack)
      (unmade : engine.change stack entry.2 = .error reason) :
      FailsOn engine state line (.scopes reason)

variable {engine : Engine σ} {state before reached after : LineState σ} {line : List Char}
  {lines : List (List Char)} {tokens : List Token} {fault : CutFault}

theorem readLine_eq_ok_iff :
    engine.readLine state line = .ok (tokens, after) ↔
      ∃ ops cutting, engine.parseLine state.parser line = .ok (ops, after.parser) ∧
        cutLine engine.change line { stack := state.stack } ops = .ok (tokens, cutting) ∧
        cutting.stack = after.stack := by
  rw [readLine, Outcome.map_eq_ok_iff, TokenStream.takeLine]
  simp only [Outcome.bind_eq_ok_iff, Outcome.mapError_eq_ok_iff]
  constructor
  · rintro ⟨_, ⟨⟨ops, parser⟩, answered, ⟨found, cutting⟩, cut, result⟩, same⟩
    cases result
    cases same
    exact ⟨ops, cutting, answered, cut, rfl⟩
  · rintro ⟨ops, cutting, answered, cut, sameStack⟩
    refine ⟨_, ⟨_, answered, _, cut, rfl⟩, ?_⟩
    rw [sameStack]

theorem readLine_eq_error_iff :
    engine.readLine state line = .error fault ↔
      (∃ message, engine.parseLine state.parser line = .error message ∧ .engine message = fault) ∨
        ∃ ops following, engine.parseLine state.parser line = .ok (ops, following) ∧
          cutLine engine.change line { stack := state.stack } ops = .error fault := by
  rw [readLine, Outcome.map_eq_error_iff, TokenStream.takeLine]
  simp only [Outcome.bind_eq_error_iff, Outcome.mapError_eq_error_iff, Outcome.mapError_eq_ok_iff]
  constructor
  · rintro (refused | ⟨⟨ops, following⟩, answered, failed | ⟨found, -, result⟩⟩)
    · exact .inl refused
    · exact .inr ⟨ops, following, answered, failed⟩
    · cases result
  · rintro (refused | ⟨ops, following, answered, failed⟩)
    · exact .inl refused
    · exact .inr ⟨(ops, following), answered, .inl failed⟩

/-- A stream takes a line as the line is read, whatever its memory holds. -/
theorem takeLine_alike_readLine (engine : Engine σ) (stream : TokenStream σ)
    (sound : stream.cutting.memory.Sound) (line : List Char) :
    Alike (fun taken read => taken.1 = read.1 ∧ taken.2.1 = read.2.parser ∧
        taken.2.2.stack = read.2.stack ∧ taken.2.2.memory.Sound)
      (stream.takeLine engine line)
      (engine.readLine ⟨stream.parser, stream.cutting.stack⟩ line) := by
  have alike := TokenStream.takeLine_alike engine stream
    (TokenStream.resume stream.parser { stack := stream.cutting.stack } line) rfl
    (CutState.SameScopes.forget sound) line
  apply alike.mapRight
  rintro ⟨tokens, parser, cutting⟩ ⟨_, _, other⟩ ⟨sameTokens, sameParser, sameScopes⟩
  exact ⟨sameTokens, sameParser, sameScopes.stack, sameScopes.leftSound⟩

theorem readLine_of_takeLine {stream : TokenStream σ} {parser : σ} {cutting : CutState}
    (sound : stream.cutting.memory.Sound)
    (taken : stream.takeLine engine line = .ok (tokens, parser, cutting)) :
    engine.readLine ⟨stream.parser, stream.cutting.stack⟩ line =
        .ok (tokens, ⟨parser, cutting.stack⟩) ∧
      cutting.memory.Sound := by
  obtain ⟨⟨found, reached⟩, read, sameTokens, sameParser, sameStack, soundBehind⟩ :=
    (takeLine_alike_readLine engine stream sound line).of_ok taken
  obtain ⟨parser, stack⟩ := reached
  dsimp only at sameTokens sameParser sameStack
  subst sameTokens sameParser sameStack
  exact ⟨read, soundBehind⟩

theorem takeLine_of_readLine {stream : TokenStream σ} (sound : stream.cutting.memory.Sound)
    (read : engine.readLine ⟨stream.parser, stream.cutting.stack⟩ line = .ok (tokens, after)) :
    ∃ cutting, stream.takeLine engine line = .ok (tokens, after.parser, cutting) ∧
      cutting.stack = after.stack ∧ cutting.memory.Sound := by
  obtain ⟨⟨found, parser, cutting⟩, taken, sameTokens, sameParser, sameStack, soundBehind⟩ :=
    (takeLine_alike_readLine engine stream sound line).symm.of_ok read
  dsimp only at sameTokens sameParser
  subst sameTokens sameParser
  exact ⟨cutting, taken, sameStack, soundBehind⟩

theorem chars_of_readLine (read : engine.readLine state line = .ok (tokens, after)) :
    Token.chars tokens = line := by
  obtain ⟨ops, cutting, -, cut, -⟩ := readLine_eq_ok_iff.mp read
  exact (cutLine_ok cut).1

/-- On a line with proper offsets, nothing else fails than what the engine
answers. -/
theorem readLine_eq_error_iff_failsOn (onBoundaries : engine.AnswersOnBoundaries) :
    engine.readLine state line = .error fault ↔ engine.FailsOn state line fault := by
  rw [readLine_eq_error_iff]
  constructor
  · rintro (⟨message, refused, rfl⟩ | ⟨ops, following, answered, failed⟩)
    · exact .refused refused
    · have proper := onBoundaries _ _ _ _ answered
      obtain ⟨reason, rfl, unmade⟩ := (cutLine_eq_error_iff proper).mp failed
      obtain ⟨front, entry, back, stack, rfl, made, unmade⟩ :=
        ScopeChange.all_eq_error_iff.mp unmade
      exact .unmade answered made unmade
  · intro fails
    cases fails with
    | refused refused => exact .inl ⟨_, refused, rfl⟩
    | unmade answered made unmade =>
        right
        refine ⟨_, _, answered, ?_⟩
        apply (cutLine_eq_error_iff (onBoundaries _ _ _ _ answered)).mpr
        exact ⟨_, rfl, ScopeChange.all_eq_error_iff.mpr ⟨_, _, _, _, rfl, made, unmade⟩⟩

/-- Wherever its offsets lie, such a line is not read. -/
theorem FailsOn.exists_fault (fails : engine.FailsOn state line fault) :
    ∃ found, engine.readLine state line = .error found := by
  cases outcome : engine.readLine state line with
  | error found => exact ⟨found, rfl⟩
  | ok read =>
      obtain ⟨ops, cutting, answered, cut, -⟩ := readLine_eq_ok_iff.mp outcome
      cases fails with
      | refused refused =>
          rw [refused] at answered
          cases answered
      | unmade found made unmade =>
          rw [found] at answered
          cases answered
          have all := all_of_cutRest cut
          rw [ScopeChange.all_eq_error_iff.mpr ⟨_, _, _, _, rfl, made, unmade⟩] at all
          cases all

namespace Reads

variable {tokens : List (List Token)} {front back : List (List Char)}

theorem chars (reads : engine.Reads before lines tokens after) :
    Token.chars tokens.flatten = lines.flatten := by
  induction reads with
  | nil => rfl
  | cons read others induction =>
      rw [List.flatten_cons, List.flatten_cons, Token.chars_append, induction,
        chars_of_readLine read]

theorem of_append (reads : engine.Reads before (front ++ back) tokens after) :
    ∃ (frontTokens backTokens : List (List Token)) (reached : LineState σ),
      engine.Reads before front frontTokens reached ∧ engine.Reads reached back backTokens after ∧
        tokens = frontTokens ++ backTokens := by
  induction front generalizing before tokens with
  | nil => exact ⟨[], tokens, before, .nil before, reads, rfl⟩
  | cons line front induction =>
      cases reads with
      | cons read others =>
          obtain ⟨frontTokens, backTokens, reached, first, second, rfl⟩ := induction others
          exact ⟨_, backTokens, reached, .cons read first, second, rfl⟩

theorem answers (reads : engine.Reads before lines tokens after) :
    ∃ opss, engine.answers before.parser lines = .ok (opss, after.parser) ∧
      engine.change.all before.stack opss.flatten = .ok after.stack := by
  induction reads with
  | nil => exact ⟨[], rfl, rfl⟩
  | cons read others induction =>
      obtain ⟨opss, answered, made⟩ := induction
      obtain ⟨ops, cutting, first, cut, sameStack⟩ := readLine_eq_ok_iff.mp read
      have madeFirst := all_of_cutRest cut
      rw [sameStack] at madeFirst
      refine ⟨ops :: opss, ?_, ?_⟩
      · exact Outcome.bind_eq_ok_iff.mpr
          ⟨_, first, Outcome.bind_eq_ok_iff.mpr ⟨_, answered, rfl⟩⟩
      · exact ScopeChange.all_append_eq_ok_iff.mpr ⟨_, madeFirst, made⟩

/-- Lines that are read come first in what comes of a text, whatever the memory
in front of them holds. -/
theorem readLines_append {cutting : CutState} (sameStack : cutting.stack = before.stack)
    (sound : cutting.memory.Sound) (reads : engine.Reads before lines tokens after)
    (back : List (List Char)) :
    ∃ behind : CutState, behind.stack = after.stack ∧ behind.memory.Sound ∧
      TokenStream.readLines engine before.parser cutting (lines ++ back) =
        (TokenStream.readLines engine after.parser behind back).after tokens.flatten := by
  induction reads generalizing cutting with
  | nil state => exact ⟨cutting, sameStack, sound, rfl⟩
  | @cons before reached after line lines tokens later read others induction =>
      obtain ⟨parser, stack⟩ := before
      subst sameStack
      let stream := TokenStream.resume parser cutting line
      have readHere : engine.readLine ⟨stream.parser, stream.cutting.stack⟩ line = _ := read
      obtain ⟨last, taken, stackReached, soundReached⟩ := takeLine_of_readLine sound readHere
      obtain ⟨behind, stackBehind, soundBehind, whole⟩ := induction stackReached soundReached
      refine ⟨behind, stackBehind, soundBehind, ?_⟩
      rw [List.cons_append, TokenStream.readLines_of_ok taken, whole,
        TokenStream.Reading.after_after, List.flatten_cons]

end Reads

theorem readLine_of_answer (onBoundaries : engine.AnswersOnBoundaries)
    {ops : List (Nat × ScopeOp)}
    (answered : engine.parseLine before.parser line = .ok (ops, reached.parser))
    (made : engine.change.all before.stack ops = .ok reached.stack) :
    ∃ tokens, engine.readLine before line = .ok (tokens, reached) := by
  cases outcome : cutLine engine.change line { stack := before.stack } ops with
  | ok found =>
      obtain ⟨tokens, cutting⟩ := found
      have all := all_of_cutRest outcome
      rw [made] at all
      have sameStack : cutting.stack = reached.stack := (Except.ok.inj all).symm
      exact ⟨tokens, readLine_eq_ok_iff.mpr ⟨ops, cutting, answered, outcome, sameStack⟩⟩
  | error fault =>
      have proper := onBoundaries _ _ _ _ answered
      obtain ⟨reason, -, unmade⟩ := (cutLine_eq_error_iff proper).mp outcome
      rw [made] at unmade
      contradiction

theorem exists_reads_of_answers (onBoundaries : engine.AnswersOnBoundaries)
    {opss : List (List (Nat × ScopeOp))}
    (answered : engine.answers before.parser lines = .ok (opss, after.parser))
    (made : engine.change.all before.stack opss.flatten = .ok after.stack) :
    ∃ tokens, engine.Reads before lines tokens after := by
  induction lines generalizing before opss with
  | nil =>
      cases before
      cases after
      cases answered
      cases made
      exact ⟨[], .nil _⟩
  | cons line lines induction =>
      obtain ⟨⟨ops, following⟩, first, answered⟩ := Outcome.bind_eq_ok_iff.mp answered
      obtain ⟨⟨later, last⟩, others, result⟩ := Outcome.bind_eq_ok_iff.mp answered
      cases result
      obtain ⟨stack, madeFirst, madeOthers⟩ := ScopeChange.all_append_eq_ok_iff.mp made
      let reached : LineState σ := ⟨following, stack⟩
      have answeredFirst : engine.parseLine before.parser line = .ok (ops, reached.parser) := first
      obtain ⟨tokens, read⟩ := readLine_of_answer onBoundaries answeredFirst madeFirst
      have answeredOthers : engine.answers reached.parser lines = .ok (later, after.parser) :=
        others
      obtain ⟨laterTokens, reads⟩ := induction answeredOthers madeOthers
      exact ⟨tokens :: laterTokens, .cons read reads⟩

/-- Either all lines are read, or one of them is the first to fail. -/
theorem reads_or_fails (engine : Engine σ) (before : LineState σ) (lines : List (List Char)) :
    (∃ tokens after, engine.Reads before lines tokens after) ∨
      ∃ earlier line later tokens reached fault, lines = earlier ++ line :: later ∧
        engine.Reads before earlier tokens reached ∧
        engine.readLine reached line = .error fault := by
  induction lines generalizing before with
  | nil => exact .inl ⟨[], before, .nil before⟩
  | cons line lines induction =>
      cases outcome : engine.readLine before line with
      | error fault => exact .inr ⟨[], line, lines, [], before, fault, rfl, .nil before, outcome⟩
      | ok read =>
          obtain ⟨tokens, reached⟩ := read
          rcases induction reached with ⟨later, after, reads⟩ |
            ⟨earlier, failing, later, found, stopped, fault, rfl, reads, failed⟩
          · exact .inl ⟨tokens :: later, after, .cons outcome reads⟩
          · exact .inr ⟨line :: earlier, failing, later, tokens :: found, stopped, fault, rfl,
              .cons outcome reads, failed⟩

end Engine

theorem TokenStream.drain_of_reads_append {σ : Type} {engine : Engine σ} {parser : σ}
    {text : List Char} {front : List (List Char)} {tokens : List (List Token)}
    {reached : LineState σ} (reads : engine.Reads ⟨parser, {}⟩ front tokens reached)
    (back : List (List Char)) (split : Text.lines text = front ++ back) :
    ∃ behind : CutState, behind.stack = reached.stack ∧ behind.memory.Sound ∧
      (start parser text).drain engine =
        (tokens.flatten ++ (readLines engine reached.parser behind back).tokens,
          (readLines engine reached.parser behind back).fault?) := by
  have nothingOpen : ({} : CutState).stack = (⟨parser, {}⟩ : LineState σ).stack := rfl
  obtain ⟨behind, sameStack, sound, whole⟩ :=
    reads.readLines_append nothingOpen ClassMemory.sound_empty back
  refine ⟨behind, sameStack, sound, ?_⟩
  rw [drain_start, split, whole]
  rfl

end PageFilters
