import PageFilters.Proofs.Token.Lines

/-!
# What a token stream asks its engine

A request asks the engine one question at most: where no token is pending, about
the next line, in the state behind the line before it.  Engines that answer the
questions of some requests alike answer these requests alike.  The questions of
all requests are those about the lines up to the first one that fails.
-/

namespace PageFilters

variable {σ : Type}

namespace Engine

/-- What is asked about lines that are read one after the other, up to the
first one that fails. -/
def questions (engine : Engine σ) : LineState σ → List (List Char) → List (σ × List Char)
  | _, [] => []
  | state, line :: lines =>
      (state.parser, line) ::
        match engine.readLine state line with
        | .ok (_, reached) => engine.questions reached lines
        | .error _ => []

/-- Whether two engines make changes alike and give the same answers to these
questions. -/
structure AgreeOn (engine other : Engine σ) (asked : List (σ × List Char)) : Prop where
  change : engine.change = other.change
  answers : ∀ question ∈ asked,
    engine.parseLine question.1 question.2 = other.parseLine question.1 question.2

variable {engine other : Engine σ} {before reached : LineState σ} {line : List Char}
  {lines front : List (List Char)} {tokens : List Token} {fault : CutFault}
  {asked fewer : List (σ × List Char)}

theorem AgreeOn.mono (agree : engine.AgreeOn other asked) (included : fewer ⊆ asked) :
    engine.AgreeOn other fewer where
  change := agree.change
  answers question member := agree.answers question (included member)

theorem questions_of_ok (read : engine.readLine before line = .ok (tokens, reached)) :
    engine.questions before (line :: lines) =
      (before.parser, line) :: engine.questions reached lines := by
  rw [questions, read]

theorem questions_of_error (failed : engine.readLine before line = .error fault) :
    engine.questions before (line :: lines) = [(before.parser, line)] := by
  rw [questions, failed]

theorem Reads.lines_of_questions {tokens : List (List Token)}
    (reads : engine.Reads before front tokens reached) (back : List (List Char)) :
    (engine.questions before (front ++ back)).map Prod.snd =
      front ++ (engine.questions reached back).map Prod.snd := by
  induction reads with
  | nil => rfl
  | cons read others induction =>
      rw [List.cons_append, questions_of_ok read, List.map_cons, induction]
      rfl

end Engine

namespace TokenStream

variable {engine other : Engine σ} {stream following : TokenStream σ} {token : Token}

/-- What the next request asks the engine. -/
def question? (stream : TokenStream σ) : Option (σ × List Char) :=
  match stream.pending with
  | [] => stream.lines.next?.map fun (line, _) => (stream.parser, line)
  | _ :: _ => none

/-- What a number of requests ask the engine, in order. -/
def asked (engine : Engine σ) : Nat → TokenStream σ → List (σ × List Char)
  | 0, _ => []
  | count + 1, stream =>
      asked engine count stream ++
        (Iteration.behind (next? engine) count stream).question?.toList

/-- What a stream has not asked yet. -/
def unasked (engine : Engine σ) (stream : TokenStream σ) : List (σ × List Char) :=
  engine.questions ⟨stream.parser, stream.cutting.stack⟩ (Text.lines stream.lines.rest)

theorem question?_of_next? {line : List Char} {lines : Text.LineCursor}
    (content : stream.pending = []) (next : stream.lines.next? = some (line, lines)) :
    stream.question? = some (stream.parser, line) := by
  simp [question?, content, next]

theorem question?_of_ended (ended : stream.next? engine = none) : stream.question? = none := by
  obtain ⟨content, nothingLeft⟩ := next?_eq_none_iff.mp ended
  have none := Text.LineCursor.next?_eq_none_iff.mpr nothingLeft
  simp [question?, content, none]

theorem unasked_of_ended (ended : stream.next? engine = none) : stream.unasked engine = [] := by
  rw [unasked, (next?_eq_none_iff.mp ended).2]
  rfl

section Agreement

theorem takeLine_congr {line : List Char}
    (agree : engine.AgreeOn other [(stream.parser, line)]) :
    stream.takeLine engine line = stream.takeLine other line := by
  have same : engine.parseLine stream.parser line = other.parseLine stream.parser line :=
    agree.answers _ List.mem_cons_self
  rw [takeLine, takeLine, same, agree.change]

theorem Hands.congr (agree : engine.AgreeOn other stream.question?.toList)
    (hands : Hands engine stream token following) : Hands other stream token following := by
  cases hands with
  | pending content => exact .pending content
  | line content next taken =>
      rw [question?_of_next? content next] at agree
      rw [takeLine_congr agree] at taken
      exact .line content next taken
  | fault content next failed =>
      rw [question?_of_next? content next] at agree
      rw [takeLine_congr agree] at failed
      exact .fault content next failed

theorem next?_congr (agree : engine.AgreeOn other stream.question?.toList) :
    stream.next? engine = stream.next? other := by
  cases found : stream.next? engine with
  | none => exact (next?_eq_none_iff.mpr (next?_eq_none_iff.mp found)).symm
  | some answer =>
      have hands := next?_eq_some_iff.mp found
      exact (next?_eq_some_iff.mpr (hands.congr agree)).symm

/-- Any number of requests depends on the answers to their questions alone. -/
theorem requests_congr {count : Nat} (agree : engine.AgreeOn other (asked engine count stream)) :
    Iteration.behind (next? other) count stream = Iteration.behind (next? engine) count stream ∧
      Iteration.handed (next? other) count stream = Iteration.handed (next? engine) count stream ∧
      asked other count stream = asked engine count stream := by
  induction count with
  | zero => exact ⟨rfl, rfl, rfl⟩
  | succ count induction =>
      rw [asked] at agree
      obtain ⟨sameBehind, sameHanded, sameAsked⟩ :=
        induction (agree.mono (List.subset_append_left _ _))
      have sameNext := next?_congr (agree.mono (List.subset_append_right _ _))
      refine ⟨?_, ?_, ?_⟩
      · rw [Iteration.behind, Iteration.behind, sameBehind, Iteration.advance, Iteration.advance,
          sameNext]
      · rw [Iteration.handed, Iteration.handed, sameBehind, sameHanded, sameNext]
      · rw [asked, asked, sameBehind, sameAsked]

end Agreement

/-- A request asks the first of the questions that a stream has not asked yet,
or none. -/
theorem Hands.unasked (sound : stream.cutting.memory.Sound)
    (hands : Hands engine stream token following) :
    stream.unasked engine = stream.question?.toList ++ following.unasked engine ∧
      following.cutting.memory.Sound := by
  cases hands with
  | pending content =>
      have nothing : stream.question? = none := by simp [question?, content]
      rw [nothing]
      exact ⟨rfl, sound⟩
  | line content next taken =>
      obtain ⟨read, soundBehind⟩ := Engine.readLine_of_takeLine sound taken
      refine ⟨?_, soundBehind⟩
      rw [question?_of_next? content next, TokenStream.unasked, TokenStream.unasked,
        Text.lines_eq_of_next? next, Engine.questions_of_ok read]
      rfl
  | fault content next failed =>
      have failedAlike := (Engine.takeLine_alike_readLine engine stream sound _).of_error failed
      refine ⟨?_, sound⟩
      rw [question?_of_next? content next, TokenStream.unasked, TokenStream.unasked,
        Text.lines_eq_of_next? next, Engine.questions_of_error failedAlike]
      rfl

/-- At any moment, the questions asked and the ones not asked yet are those
about all lines. -/
theorem questions_eq_asked_append (engine : Engine σ) (parser : σ) (text : List Char)
    (count : Nat) :
    engine.questions ⟨parser, {}⟩ (Text.lines text) =
        asked engine count (start parser text) ++
          (Iteration.behind (next? engine) count (start parser text)).unasked engine ∧
      (Iteration.behind (next? engine) count (start parser text)).cutting.memory.Sound := by
  induction count with
  | zero => exact ⟨rfl, ClassMemory.sound_empty⟩
  | succ count induction =>
      obtain ⟨before, sound⟩ := induction
      cases found : next? engine (Iteration.behind (next? engine) count (start parser text)) with
      | none =>
          rw [Iteration.behind_succ_of_none found, asked, question?_of_ended found]
          exact ⟨by simpa using before, sound⟩
      | some answer =>
          obtain ⟨token, following⟩ := answer
          obtain ⟨request, soundBehind⟩ := (next?_eq_some_iff.mp found).unasked sound
          rw [Iteration.behind_succ_of_some found, asked, List.append_assoc, ← request]
          exact ⟨before, soundBehind⟩

end TokenStream

end PageFilters
