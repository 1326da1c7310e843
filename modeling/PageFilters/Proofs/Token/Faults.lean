import PageFilters.Proofs.Token.Questions

/-!
# Where a line fails

What comes of a text are the tokens of its lines up to the first one that fails,
and everything from the start of that line as one plain token.  At each moment a
stream has handed out the first of these tokens, and has asked about no line
behind the one that fails.
-/

namespace PageFilters.TokenStream

variable {σ : Type}

theorem handed_eq_take (engine : Engine σ) (parser : σ) (text : List Char) (count : Nat) :
    Iteration.handed (next? engine) count (start parser text) =
      ((start parser text).drain engine).1.take count := by
  refine Iteration.handed_eq_take (fun stream => (remaining engine stream).tokens) ?_ ?_ count
  · intro count
    rw [drain_start, readLines_eq_after_handed engine parser text count]
    rfl
  · intro stream ended
    rw [remaining_of_ended ended]

theorem ended_of_length_drain_le (engine : Engine σ) (parser : σ) (text : List Char) {count : Nat}
    (beyond : ((start parser text).drain engine).1.length ≤ count) :
    next? engine (Iteration.behind (next? engine) count (start parser text)) = none :=
  (Iteration.ended_iff_of_handed_eq_take (handed_eq_take engine parser text)).mpr beyond

/-- Whether the requests to a stream get these tokens and ask these questions. -/
structure RunsTo (engine : Engine σ) (parser : σ) (text : List Char) (tokens : List Token)
    (questions : List (σ × List Char)) : Prop where
  drained : ((start parser text).drain engine).1 = tokens
  handed : ∀ count, Iteration.handed (next? engine) count (start parser text) = tokens.take count
  ended : ∀ count, tokens.length ≤ count →
    next? engine (Iteration.behind (next? engine) count (start parser text)) = none
  asks : ∀ count, asked engine count (start parser text) <+: questions
  asksAll : ∀ count, tokens.length ≤ count → asked engine count (start parser text) = questions
  /-- Other answers make no difference. -/
  asksNoOthers : ∀ other, engine.AgreeOn other questions → ∀ count,
    Iteration.behind (next? other) count (start parser text) =
        Iteration.behind (next? engine) count (start parser text) ∧
      Iteration.handed (next? other) count (start parser text) = tokens.take count ∧
      asked other count (start parser text) = asked engine count (start parser text)

theorem runsTo_drain (engine : Engine σ) (parser : σ) (text : List Char) :
    RunsTo engine parser text ((start parser text).drain engine).1
      (engine.questions ⟨parser, {}⟩ (Text.lines text)) := by
  have asks : ∀ count, asked engine count (start parser text) <+:
      engine.questions ⟨parser, {}⟩ (Text.lines text) := by
    intro count
    rw [(questions_eq_asked_append engine parser text count).1]
    exact List.prefix_append _ _
  refine ⟨rfl, handed_eq_take engine parser text, ?_, asks, ?_, ?_⟩
  · intro count beyond
    exact ended_of_length_drain_le engine parser text beyond
  · intro count beyond
    have ended := ended_of_length_drain_le engine parser text beyond
    rw [(questions_eq_asked_append engine parser text count).1, unasked_of_ended ended,
      List.append_nil]
  · intro other agree count
    rw [← handed_eq_take]
    exact requests_congr (agree.mono (asks count).subset)

section Lines

variable {engine : Engine σ} {parser : σ} {text line : List Char} {earlier later : List (List Char)}
  {tokens : List (List Token)} {reached : LineState σ}

theorem drain_of_reads (reads : engine.Reads ⟨parser, {}⟩ (Text.lines text) tokens reached) :
    (start parser text).drain engine = (tokens.flatten, none) := by
  obtain ⟨behind, -, -, drained⟩ := drain_of_reads_append reads [] (List.append_nil _).symm
  rw [drained]
  simp [readLines, Reading.fault?]

theorem drain_of_fault {fault : CutFault} (split : Text.lines text = earlier ++ line :: later)
    (reads : engine.Reads ⟨parser, {}⟩ earlier tokens reached)
    (failed : engine.readLine reached line = .error fault) :
    (start parser text).drain engine =
      (tokens.flatten ++ [Token.plain (String.ofList (line :: later).flatten)], some fault) := by
  obtain ⟨behind, sameStack, sound, drained⟩ := drain_of_reads_append reads (line :: later) split
  obtain ⟨following, stack⟩ := reached
  subst sameStack
  let stream := resume following behind line
  have failedHere : engine.readLine ⟨stream.parser, stream.cutting.stack⟩ line = .error fault :=
    failed
  have taken := (Engine.takeLine_alike_readLine engine stream sound line).symm.of_error failedHere
  rw [drained, readLines_of_error taken]
  rfl

end Lines

/-- For every engine and every text.  If the engine or a change of the scope
stack fails on a line up to which all are read, the tokens are those of the
lines in front of it and everything from its start as one plain token, and
nothing is asked about the lines behind it.  If all lines are read, the tokens
are theirs.  One of the two is the case, if the engine answers with proper
offsets. -/
theorem run_stops_at_fault (engine : Engine σ) (parser : σ) (text : List Char) :
    (∀ earlier line later tokens reached fault, Text.lines text = earlier ++ line :: later →
      engine.Reads ⟨parser, {}⟩ earlier tokens reached → engine.FailsOn reached line fault →
      (∃ questions, questions.map Prod.snd = earlier ++ [line] ∧
        RunsTo engine parser text
          (tokens.flatten ++ [Token.plain (String.ofList (line :: later).flatten)]) questions) ∧
        (engine.AnswersOnBoundaries → ((start parser text).drain engine).2 = some fault)) ∧
      (∀ tokens reached, engine.Reads ⟨parser, {}⟩ (Text.lines text) tokens reached →
        (∃ questions, questions.map Prod.snd = Text.lines text ∧
          RunsTo engine parser text tokens.flatten questions) ∧
          ((start parser text).drain engine).2 = none) ∧
      (engine.AnswersOnBoundaries →
        (∃ tokens reached, engine.Reads ⟨parser, {}⟩ (Text.lines text) tokens reached) ∨
          ∃ earlier line later tokens reached fault, Text.lines text = earlier ++ line :: later ∧
            engine.Reads ⟨parser, {}⟩ earlier tokens reached ∧
            engine.FailsOn reached line fault) := by
  have runsTo := runsTo_drain engine parser text
  refine ⟨?_, ?_, ?_⟩
  · intro earlier line later tokens reached fault split reads fails
    obtain ⟨found, failed⟩ := fails.exists_fault
    have drained := drain_of_fault split reads failed
    refine ⟨⟨engine.questions ⟨parser, {}⟩ (Text.lines text), ?_, ?_⟩, ?_⟩
    · rw [split, reads.lines_of_questions, Engine.questions_of_error failed]
      rfl
    · rw [drained] at runsTo
      exact runsTo
    · intro onBoundaries
      have same := (Engine.readLine_eq_error_iff_failsOn onBoundaries).mpr fails
      rw [drain_of_fault split reads same]
  · intro tokens reached reads
    have drained := drain_of_reads reads
    have lines := reads.lines_of_questions []
    rw [List.append_nil] at lines
    refine ⟨⟨engine.questions ⟨parser, {}⟩ (Text.lines text), ?_, ?_⟩, ?_⟩
    · rw [lines]
      exact List.append_nil _
    · rw [drained] at runsTo
      exact runsTo
    · rw [drained]
  · intro onBoundaries
    rcases Engine.reads_or_fails engine ⟨parser, {}⟩ (Text.lines text) with
      read | ⟨earlier, line, later, tokens, reached, fault, split, reads, failed⟩
    · exact .inl read
    · have fails := (Engine.readLine_eq_error_iff_failsOn onBoundaries).mp failed
      exact .inr ⟨earlier, line, later, tokens, reached, fault, split, reads, fails⟩

/-- Three lines, the second one of which fails when it has been cut. -/
theorem run_stops_at_fault_lateFault :
    lateFault.Reads ⟨false, {}⟩ [['é', '\n']] [[Token.plain "é\n"]] ⟨true, ⟨["comment"], []⟩⟩ ∧
      lateFault.FailsOn ⟨true, ⟨["comment"], []⟩⟩ ['b', '\n'] (.scopes .nothingCleared) ∧
      (∃ questions, questions.map Prod.snd = [['é', '\n'], ['b', '\n']] ∧
        RunsTo lateFault false ['é', '\n', 'b', '\n', 'c']
          [Token.plain "é\n", Token.plain "b\nc"] questions) ∧
      ((start false ['é', '\n', 'b', '\n', 'c']).drain lateFault).2 =
        some (.scopes .nothingCleared) := by
  have reads : lateFault.Reads ⟨false, {}⟩ [['é', '\n']] [[Token.plain "é\n"]]
      ⟨true, ⟨["comment"], []⟩⟩ := .cons rfl (.nil _)
  have made : lateFault.change.all ⟨["comment"], []⟩ [(5, .push "comment")] =
      .ok ⟨["comment", "comment"], []⟩ := rfl
  have fails : lateFault.FailsOn ⟨true, ⟨["comment"], []⟩⟩ ['b', '\n']
      (.scopes .nothingCleared) := .unmade rfl made rfl
  obtain ⟨stops, -, -⟩ := run_stops_at_fault lateFault false ['é', '\n', 'b', '\n', 'c']
  obtain ⟨run, reported⟩ := stops _ _ [['c']] _ _ _ rfl reads fails
  exact ⟨reads, fails, run, reported lateFault_answersOnBoundaries⟩

end PageFilters.TokenStream
