import PageFilters.Proofs.Iteration
import PageFilters.Proofs.Token.Cutting

/-!
# Token streams lose nothing

A request to a token stream hands out a pending token, the first token of the
next line, or everything from the start of a line that fails.  Each of these
moves text from the stream to the tokens handed out, so at any moment of a run
the two together are the whole text; and as no token is empty, the run ends.
-/

namespace PageFilters

/-- The engine answers every line with offsets at which it can be cut. -/
def Engine.AnswersOnBoundaries {σ : Type} (engine : Engine σ) : Prop :=
  ∀ state line ops following,
    engine.parseLine state line = .ok (ops, following) → OnBoundaries line ops

namespace TokenStream

open Text (LineCursor)

variable {σ : Type} {engine : Engine σ} {stream following : TokenStream σ} {token : Token}

theorem takeLine_ok {line : List Char} {tokens : List Token} {parser : σ} {cutting : CutState}
    (taken : stream.takeLine engine line = .ok (tokens, parser, cutting)) :
    Token.chars tokens = line ∧ Token.NoneEmpty tokens := by
  rw [takeLine, Outcome.bind_eq_ok_iff] at taken
  obtain ⟨⟨ops, reached⟩, -, taken⟩ := taken
  obtain ⟨⟨cut, last⟩, found, result⟩ := Outcome.bind_eq_ok_iff.mp taken
  cases result
  exact cutLine_ok found

theorem takeLine_error {line : List Char} {fault : CutFault}
    (onBoundaries : engine.AnswersOnBoundaries)
    (failed : stream.takeLine engine line = .error fault) :
    ∀ offset, fault ≠ .offBoundary offset := by
  intro offset
  rw [takeLine] at failed
  rcases Outcome.bind_eq_error_iff.mp failed with refused | ⟨⟨ops, reached⟩, answered, failed⟩
  · obtain ⟨message, -, rfl⟩ := Outcome.mapError_eq_error_iff.mp refused
    simp
  · rcases Outcome.bind_eq_error_iff.mp failed with refused | ⟨cut, -, result⟩
    · have within := onBoundaries _ _ _ _ (Outcome.mapError_eq_ok_iff.mp answered)
      obtain ⟨reason, rfl⟩ := cutLine_error within refused
      simp
    · simp [pure, Except.pure] at result

/-- What one request to a stream does. -/
inductive Hands (engine : Engine σ) : TokenStream σ → Token → TokenStream σ → Prop where
  /-- The first of the pending tokens is handed out. -/
  | pending {stream : TokenStream σ} {token : Token} {waiting : List Token}
      (content : stream.pending = token :: waiting) :
      Hands engine stream token { stream with pending := waiting }
  /-- The next line is cut, and the first of its tokens is handed out. -/
  | line {stream : TokenStream σ} {line : List Char} {lines : LineCursor} {token : Token}
      {waiting : List Token} {parser : σ} {cutting : CutState}
      (content : stream.pending = []) (next : stream.lines.next? = some (line, lines))
      (taken : stream.takeLine engine line = .ok (token :: waiting, parser, cutting)) :
      Hands engine stream token { stream with lines, parser, cutting, pending := waiting }
  /-- The next line fails, and everything from its start is handed out. -/
  | fault {stream : TokenStream σ} {line : List Char} {lines : LineCursor} {fault : CutFault}
      (content : stream.pending = []) (next : stream.lines.next? = some (line, lines))
      (failed : stream.takeLine engine line = .error fault) :
      Hands engine stream (Token.plain (String.ofList stream.lines.rest))
        { stream with lines := lines.finish, fault := some fault }

theorem takeLine_ne_nil {line : List Char} {lines : LineCursor} {parser : σ} {cutting : CutState}
    (next : stream.lines.next? = some (line, lines)) :
    stream.takeLine engine line ≠ .ok ([], parser, cutting) := by
  intro taken
  obtain ⟨nonempty, rfl, -⟩ := LineCursor.next?_eq_some_iff.mp next
  exact Text.firstLine_ne_nil nonempty (takeLine_ok taken).1.symm

theorem next?_eq_some_iff :
    stream.next? engine = some (token, following) ↔ Hands engine stream token following := by
  constructor
  · intro found
    unfold next? at found
    split at found
    next waiting content =>
        cases found
        exact .pending content
    next content =>
        split at found
        next => contradiction
        next line lines next =>
            split at found
            next tokens parser cutting taken =>
                cases tokens with
                | nil => exact absurd taken (takeLine_ne_nil next)
                | cons first waiting =>
                    unfold next? at found
                    cases found
                    exact .line content next taken
            next fault failed =>
                cases found
                exact .fault content next failed
  · intro hands
    cases hands with
    | pending content =>
        unfold next?
        simp [content]
    | line content next taken =>
        unfold next?
        simp only [content]
        split
        next none => simp [none] at next
        next found =>
            rw [next] at found
            cases found
            simp only [taken]
            unfold next?
            rfl
    | fault content next failed =>
        unfold next?
        simp only [content]
        split
        next none => simp [none] at next
        next found =>
            rw [next] at found
            cases found
            simp only [failed]

/-- As long as a token is pending or some text is left, a token is handed out. -/
theorem exists_hands (engine : Engine σ)
    (unfinished : ¬ (stream.pending = [] ∧ stream.lines.rest = [])) :
    ∃ token following, Hands engine stream token following := by
  cases content : stream.pending with
  | cons token waiting => exact ⟨token, _, .pending content⟩
  | nil =>
      cases next : stream.lines.next? with
      | none => exact absurd ⟨content, LineCursor.next?_eq_none_iff.mp next⟩ unfinished
      | some found =>
          obtain ⟨line, lines⟩ := found
          cases outcome : stream.takeLine engine line with
          | error fault => exact ⟨_, _, .fault content next outcome⟩
          | ok taken =>
              obtain ⟨tokens, parser, cutting⟩ := taken
              cases tokens with
              | nil => exact absurd outcome (takeLine_ne_nil next)
              | cons first waiting => exact ⟨first, _, .line content next outcome⟩

theorem next?_eq_none_iff :
    stream.next? engine = none ↔ stream.pending = [] ∧ stream.lines.rest = [] := by
  constructor
  · intro ended
    apply Decidable.of_not_not
    intro unfinished
    obtain ⟨token, following, hands⟩ := exists_hands engine unfinished
    rw [next?_eq_some_iff.mpr hands] at ended
    contradiction
  · intro finished
    cases found : stream.next? engine with
    | none => rfl
    | some answer =>
        obtain ⟨token, following⟩ := answer
        obtain ⟨content, nothing⟩ := finished
        have noLine := LineCursor.next?_eq_none_iff.mpr nothing
        cases next?_eq_some_iff.mp found with
        | pending waiting => simp [content] at waiting
        | line _ next => simp [noLine] at next
        | fault _ next => simp [noLine] at next

/-- A request moves text from the stream to the tokens handed out. -/
theorem Hands.chars (hands : Hands engine stream token following) :
    token.text.toList ++ (Token.chars following.pending ++ following.lines.rest) =
      Token.chars stream.pending ++ stream.lines.rest := by
  cases hands with
  | pending content => simp [content]
  | line content next taken =>
      obtain ⟨-, rfl, rest⟩ := LineCursor.next?_eq_some_iff.mp next
      have cut := (takeLine_ok taken).1
      rw [Token.chars_cons] at cut
      rw [content, ← List.append_assoc, cut, rest, Text.firstLine_append_afterFirstLine]
      rfl
  | fault content next failed => simp [content, Token.plain, LineCursor.finish]

theorem Hands.nonempty (noneEmpty : Token.NoneEmpty stream.pending)
    (hands : Hands engine stream token following) :
    token.text ≠ "" ∧ Token.NoneEmpty following.pending := by
  cases hands with
  | pending content =>
      rw [content] at noneEmpty
      exact Token.noneEmpty_cons.mp noneEmpty
  | line content next taken => exact Token.noneEmpty_cons.mp (takeLine_ok taken).2
  | fault content next failed =>
      refine ⟨?_, noneEmpty⟩
      obtain ⟨nonempty, -, -⟩ := LineCursor.next?_eq_some_iff.mp next
      simpa [Token.plain] using nonempty

end TokenStream

end PageFilters
