import PageFilters.Proofs.Text.Lines
import PageFilters.Proofs.Token.Classes
import PageFilters.Proofs.Token.Streams

/-!
# Token streams line by line

A stream hands out the tokens of one line after the other.  `readLines` says
what comes of a list of lines without any requests: their tokens, and either
the states behind the last line or the fault at which the rest became one plain
token.  What a stream has handed out and what it still will is what comes of
all lines of its text.
-/

namespace PageFilters.TokenStream

open Outcome (Alike)

variable {σ : Type}

/-- What comes of lines: their tokens, and the states behind them or the fault
that ended it. -/
structure Reading (σ : Type) where
  tokens : List Token
  ending : Except CutFault (σ × CutState)

namespace Reading

/-- The same behind other tokens. -/
def after (tokens : List Token) (reading : Reading σ) : Reading σ :=
  { reading with tokens := tokens ++ reading.tokens }

def fault? (reading : Reading σ) : Option CutFault :=
  match reading.ending with
  | .ok _ => none
  | .error fault => some fault

@[simp] theorem after_nil (reading : Reading σ) : reading.after [] = reading := rfl

theorem after_after (front back : List Token) (reading : Reading σ) :
    (reading.after back).after front = reading.after (front ++ back) := by
  simp [after]

@[simp] theorem fault?_after (tokens : List Token) (reading : Reading σ) :
    (reading.after tokens).fault? = reading.fault? := rfl

theorem fault?_eq_some_iff {reading : Reading σ} {fault : CutFault} :
    reading.fault? = some fault ↔ reading.ending = .error fault := by
  unfold fault?
  split
  next states found => simp [found]
  next fault found => simp [found]

theorem fault?_eq_of_alike {Related : σ × CutState → σ × CutState → Prop}
    {left right : Reading σ} (alike : Alike Related left.ending right.ending) :
    left.fault? = right.fault? := by
  obtain ⟨leftTokens, leftEnding⟩ := left
  obtain ⟨rightTokens, rightEnding⟩ := right
  cases alike with
  | ok related => rfl
  | error fault => rfl

end Reading

/-- The stream over a text that is read in these states. -/
def resume (parser : σ) (cutting : CutState) (text : List Char) : TokenStream σ :=
  { start parser text with cutting := cutting }

/-- What comes of lines that are read in these states. -/
def readLines (engine : Engine σ) (parser : σ) (cutting : CutState) :
    List (List Char) → Reading σ
  | [] => ⟨[], .ok (parser, cutting)⟩
  | line :: lines =>
      match (resume parser cutting line).takeLine engine line with
      | .ok (tokens, parser, cutting) => (readLines engine parser cutting lines).after tokens
      | .error fault => ⟨[Token.plain (String.ofList (line :: lines).flatten)], .error fault⟩

/-- What still comes of a stream. -/
def remaining (engine : Engine σ) (stream : TokenStream σ) : Reading σ :=
  match stream.fault with
  | some fault => ⟨stream.pending, .error fault⟩
  | none =>
      (readLines engine stream.parser stream.cutting (Text.lines stream.lines.rest)).after
        stream.pending

section Lines

variable {engine : Engine σ} {parser reached : σ} {cutting behind : CutState}
  {line : List Char} {lines front : List (List Char)}

theorem readLines_of_ok {tokens : List Token}
    (taken : (resume parser cutting line).takeLine engine line = .ok (tokens, reached, behind)) :
    readLines engine parser cutting (line :: lines) =
      (readLines engine reached behind lines).after tokens := by
  rw [readLines, taken]

theorem readLines_of_error {fault : CutFault}
    (failed : (resume parser cutting line).takeLine engine line = .error fault) :
    readLines engine parser cutting (line :: lines) =
      ⟨[Token.plain (String.ofList (line :: lines).flatten)], .error fault⟩ := by
  rw [readLines, failed]

/-- Lines behind others are read in the states that those leave. -/
theorem readLines_append_of_ok (back : List (List Char))
    (read : (readLines engine parser cutting front).ending = .ok (reached, behind)) :
    readLines engine parser cutting (front ++ back) =
      (readLines engine reached behind back).after
        (readLines engine parser cutting front).tokens := by
  induction front generalizing parser cutting with
  | nil =>
      cases read
      rfl
  | cons line front induction =>
      rw [List.cons_append, readLines]
      rw [readLines] at read ⊢
      split
      next tokens parser cutting taken =>
          rw [taken] at read
          have others := induction read
          rw [others, Reading.after_after]
          rfl
      next fault failed =>
          rw [failed] at read
          contradiction

/-- Lines behind a fault become a part of the plain token. -/
theorem readLines_append_of_error {fault : CutFault} (back : List (List Char))
    (read : (readLines engine parser cutting front).ending = .error fault) :
    (readLines engine parser cutting (front ++ back)).ending = .error fault ∧
      Token.markedChars (readLines engine parser cutting (front ++ back)).tokens =
        Token.markedChars (readLines engine parser cutting front).tokens ++
          back.flatten.map (·, TokenKind.plain) := by
  induction front generalizing parser cutting with
  | nil => contradiction
  | cons line front induction =>
      rw [List.cons_append, readLines]
      rw [readLines] at read ⊢
      split
      next tokens parser cutting taken =>
          rw [taken] at read
          obtain ⟨sameFault, marked⟩ := induction read
          refine ⟨sameFault, ?_⟩
          simp [Reading.after, marked]
      next fault failed =>
          rw [failed] at read
          exact ⟨read, by simp [Token.plain]⟩

theorem readLines_alike (engine : Engine σ) (parser : σ) {left right : CutState}
    (same : left.SameScopes right) (lines : List (List Char)) :
    (readLines engine parser left lines).tokens = (readLines engine parser right lines).tokens ∧
      Alike (fun found other => found.1 = other.1 ∧ found.2.SameScopes other.2)
        (readLines engine parser left lines).ending
        (readLines engine parser right lines).ending := by
  induction lines generalizing parser left right with
  | nil => exact ⟨rfl, .ok ⟨rfl, same⟩⟩
  | cons line lines induction =>
      have alike := takeLine_alike engine (resume parser left line) (resume parser right line)
        rfl same line
      cases taken : (resume parser left line).takeLine engine line with
      | ok found =>
          obtain ⟨tokens, reached, behind⟩ := found
          obtain ⟨⟨_, _, otherBehind⟩, otherTaken, rfl, rfl, sameBehind⟩ := alike.of_ok taken
          rw [readLines_of_ok taken, readLines_of_ok otherTaken]
          obtain ⟨sameTokens, sameEnding⟩ := induction reached sameBehind
          exact ⟨congrArg (tokens ++ ·) sameTokens, sameEnding⟩
      | error fault =>
          have otherFailed := alike.of_error taken
          rw [readLines_of_error taken, readLines_of_error otherFailed]
          exact ⟨rfl, .error fault⟩

theorem sound_of_readLines (sound : cutting.memory.Sound)
    (read : (readLines engine parser cutting lines).ending = .ok (reached, behind)) :
    behind.memory.Sound := by
  obtain ⟨-, alike⟩ := readLines_alike engine parser (CutState.SameScopes.refl sound) lines
  obtain ⟨⟨_, other⟩, -, -, same⟩ := alike.of_ok read
  exact same.leftSound

end Lines

section Requests

variable {engine : Engine σ} {stream following : TokenStream σ} {token : Token}

theorem remaining_of_sound (sound : stream.fault = none) :
    remaining engine stream =
      (readLines engine stream.parser stream.cutting (Text.lines stream.lines.rest)).after
        stream.pending := by
  simp [remaining, sound]

/-- A request takes the first of the tokens that come of a stream. -/
theorem Hands.remaining (sound : stream.fault = none)
    (hands : Hands engine stream token following) :
    remaining engine stream = (remaining engine following).after [token] := by
  rw [remaining_of_sound sound]
  cases hands with
  | @pending _ waiting content =>
      have later : TokenStream.remaining engine { stream with pending := waiting } = _ :=
        remaining_of_sound sound
      rw [later, content, Reading.after_after]
      rfl
  | @line line lines _ waiting parser cutting content next taken =>
      have later : TokenStream.remaining engine
          { stream with lines, parser, cutting, pending := waiting } = _ :=
        remaining_of_sound sound
      rw [later, content, Text.lines_eq_of_next? next, readLines_of_ok taken, Reading.after_nil,
        Reading.after_after]
      rfl
  | fault content next failed =>
      rw [content, Text.lines_eq_of_next? next, readLines_of_error failed,
        ← Text.lines_eq_of_next? next, Text.flatten_lines]
      simp [TokenStream.remaining, Reading.after]

theorem sound_of_next? (stopped : stream.fault ≠ none → stream.next? engine = none)
    (found : stream.next? engine = some (token, following)) : stream.fault = none := by
  cases faulty : stream.fault with
  | none => rfl
  | some fault =>
      rw [stopped (by simp [faulty])] at found
      contradiction

theorem Hands.stopped (sound : stream.fault = none)
    (hands : Hands engine stream token following) :
    following.fault ≠ none → following.next? engine = none := by
  intro faulty
  cases hands with
  | pending content => exact absurd sound faulty
  | line content next taken => exact absurd sound faulty
  | fault content next failed => exact next?_eq_none_iff.mpr ⟨content, rfl⟩

theorem remaining_of_ended (ended : stream.next? engine = none) :
    remaining engine stream =
      ⟨[], match stream.fault with
        | some fault => .error fault
        | none => .ok (stream.parser, stream.cutting)⟩ := by
  obtain ⟨nothingPending, nothingLeft⟩ := next?_eq_none_iff.mp ended
  unfold TokenStream.remaining
  split
  next fault faulty => simp [nothingPending]
  next sound => simp [nothingPending, nothingLeft, Text.lines, readLines, Reading.after]

/-- At any moment, the tokens handed out and what still comes are what comes of
all lines. -/
theorem readLines_eq_after_handed (engine : Engine σ) (parser : σ) (text : List Char)
    (count : Nat) :
    readLines engine parser {} (Text.lines text) =
      (remaining engine (Iteration.behind (next? engine) count (start parser text))).after
        (Iteration.handed (next? engine) count (start parser text)) := by
  let Holds (handed : List Token) (stream : TokenStream σ) : Prop :=
    readLines engine parser {} (Text.lines text) = (remaining engine stream).after handed ∧
      (stream.fault ≠ none → stream.next? engine = none)
  have step : ∀ handed stream token following, Holds handed stream →
      stream.next? engine = some (token, following) → Holds (handed ++ [token]) following := by
    intro handed stream token following held found
    obtain ⟨before, stopped⟩ := held
    have hands := next?_eq_some_iff.mp found
    have sound := sound_of_next? stopped found
    refine ⟨?_, hands.stopped sound⟩
    rw [before, hands.remaining sound, Reading.after_after]
  have initial : Holds [] (start parser text) := ⟨rfl, fun faulty => absurd rfl faulty⟩
  exact (Iteration.handed_behind_induction Holds initial step count).1

theorem drainFrom_eq (read : List Token)
    (stopped : stream.fault ≠ none → stream.next? engine = none) :
    drainFrom engine read stream =
      (read.reverse ++ (remaining engine stream).tokens, (remaining engine stream).fault?) := by
  fun_induction drainFrom engine read stream with
  | case1 read stream ended =>
      rw [remaining_of_ended ended]
      cases fault : stream.fault with
      | none => simp [Reading.fault?]
      | some fault => simp [Reading.fault?]
  | case2 read stream token following found induction =>
      have hands := next?_eq_some_iff.mp found
      have sound := sound_of_next? stopped found
      rw [induction (hands.stopped sound), hands.remaining sound, Reading.fault?_after]
      simp [Reading.after]

/-- All tokens of a stream are those that come of its lines. -/
theorem drain_eq_of_sound (sound : stream.fault = none) :
    stream.drain engine =
      ((remaining engine stream).tokens, (remaining engine stream).fault?) :=
  drainFrom_eq [] fun faulty => absurd sound faulty

end Requests

end PageFilters.TokenStream
