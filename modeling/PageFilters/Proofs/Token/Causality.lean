import PageFilters.Proofs.Token.Losslessness
import PageFilters.Proofs.Token.Reading

/-!
# What stands further down decides nothing

The tokens of a line depend on the lines in front of it alone.  So the
characters of a text that ends with a line keep their kinds, whatever follows;
and what follows is cut as a text of its own, from the parser state and the
scopes that the first text has left.
-/

namespace PageFilters.TokenStream

variable {σ : Type}

theorem drain_resume (engine : Engine σ) (parser : σ) (cutting : CutState) (text : List Char) :
    (resume parser cutting text).drain engine =
      ((readLines engine parser cutting (Text.lines text)).tokens,
        (readLines engine parser cutting (Text.lines text)).fault?) :=
  drain_eq_of_sound rfl

theorem drain_start (engine : Engine σ) (parser : σ) (text : List Char) :
    (start parser text).drain engine =
      ((readLines engine parser {} (Text.lines text)).tokens,
        (readLines engine parser {} (Text.lines text)).fault?) :=
  drain_resume engine parser {} text

theorem drain_resume_forget (engine : Engine σ) (parser : σ) {cutting : CutState}
    (sound : cutting.memory.Sound) (text : List Char) :
    (resume parser { stack := cutting.stack } text).drain engine =
      (resume parser cutting text).drain engine := by
  obtain ⟨sameTokens, alike⟩ := readLines_alike engine parser (CutState.SameScopes.forget sound)
    (Text.lines text)
  rw [drain_resume, drain_resume, sameTokens, Reading.fault?_eq_of_alike alike]

theorem length_markedChars_drain (engine : Engine σ) (parser : σ) (text : List Char) :
    (Token.markedChars ((start parser text).drain engine).1).length = text.length := by
  have chars : Token.chars ((start parser text).drain engine).1 = text :=
    chars_drainFrom engine [] (start parser text)
  rw [← List.length_map Prod.fst, Token.map_fst_markedChars, chars]

theorem ending_eq_of_ended {engine : Engine σ} {parser : σ} {text : List Char} {count : Nat}
    (ended : next? engine (Iteration.behind (next? engine) count (start parser text)) = none)
    (sound : (readLines engine parser {} (Text.lines text)).fault? = none) :
    (readLines engine parser {} (Text.lines text)).ending =
      .ok ((Iteration.behind (next? engine) count (start parser text)).parser,
        (Iteration.behind (next? engine) count (start parser text)).cutting) := by
  have whole := readLines_eq_after_handed engine parser text count
  rw [remaining_of_ended ended] at whole
  rw [whole] at sound ⊢
  cases faulty : (Iteration.behind (next? engine) count (start parser text)).fault with
  | none => rfl
  | some fault => simp [Reading.fault?, Reading.after, faulty] at sound

section Append

variable {engine : Engine σ} {parser : σ} {front : List Char}

theorem drain_append_of_sound (ends : Text.EndsLine front) {count : Nat}
    (ended : next? engine (Iteration.behind (next? engine) count (start parser front)) = none)
    (sound : ((start parser front).drain engine).2 = none) (back : List Char) :
    let reached := Iteration.behind (next? engine) count (start parser front)
    let later := (resume reached.parser { stack := reached.cutting.stack } back).drain engine
    (start parser (front ++ back)).drain engine =
      (((start parser front).drain engine).1 ++ later.1, later.2) := by
  intro reached later
  rw [drain_start] at sound
  have ending := ending_eq_of_ended ended sound
  have soundMemory := sound_of_readLines ClassMemory.sound_empty ending
  have laterRead : later = _ := drain_resume_forget engine reached.parser soundMemory back
  rw [drain_resume] at laterRead
  rw [drain_start, drain_start, laterRead, Text.lines_append ends,
    readLines_append_of_ok (Text.lines back) ending, Reading.fault?_after]
  rfl

theorem drain_append_of_fault (ends : Text.EndsLine front) {fault : CutFault}
    (faulty : ((start parser front).drain engine).2 = some fault) (back : List Char) :
    ((start parser (front ++ back)).drain engine).2 = some fault ∧
      Token.markedChars ((start parser (front ++ back)).drain engine).1 =
        Token.markedChars ((start parser front).drain engine).1 ++
          back.map (·, TokenKind.plain) := by
  rw [drain_start] at faulty
  have ending := Reading.fault?_eq_some_iff.mp faulty
  obtain ⟨sameFault, marked⟩ := readLines_append_of_error (Text.lines back) ending
  rw [Text.flatten_lines] at marked
  rw [drain_start, drain_start, Text.lines_append ends]
  exact ⟨Reading.fault?_eq_some_iff.mpr sameFault, marked⟩

theorem markedChars_drain_prefix (engine : Engine σ) (parser : σ) (ends : Text.EndsLine front)
    (back : List Char) :
    Token.markedChars ((start parser front).drain engine).1 <+:
      Token.markedChars ((start parser (front ++ back)).drain engine).1 := by
  cases outcome : ((start parser front).drain engine).2 with
  | none =>
      have ended := ended_of_length_lt engine parser (Nat.lt_succ_self front.length)
      rw [drain_append_of_sound ends ended outcome back, Token.markedChars_append]
      exact List.prefix_append _ _
  | some fault =>
      rw [(drain_append_of_fault ends outcome back).2]
      exact List.prefix_append _ _

end Append

/-- For every engine, and every text that is empty or ends with a line.
Whatever follows the text, its characters keep their kinds, wherever the engine
or the scope stack fails.  If nothing fails in the text, its tokens are followed
by those of what comes behind it, from the parser state and the scope stack that
its stream has reached; if something does, all that comes behind it is plain. -/
theorem run_causal (engine : Engine σ) (parser : σ) {front : List Char}
    (ends : Text.EndsLine front) (back : List Char) :
    let alone := (start parser front).drain engine
    let together := (start parser (front ++ back)).drain engine
    (Token.markedChars together.1).take front.length = Token.markedChars alone.1 ∧
      (alone.2 = none → ∀ count, front.length < count →
        let reached := Iteration.behind (next? engine) count (start parser front)
        let later := (resume reached.parser { stack := reached.cutting.stack } back).drain engine
        next? engine reached = none ∧ together = (alone.1 ++ later.1, later.2)) ∧
      ∀ fault, alone.2 = some fault →
        together.2 = some fault ∧
          Token.markedChars together.1 =
            Token.markedChars alone.1 ++ back.map (·, TokenKind.plain) := by
  intro alone together
  refine ⟨?_, ?_, ?_⟩
  · have continued := markedChars_drain_prefix engine parser ends back
    rw [← length_markedChars_drain engine parser front]
    exact (List.prefix_iff_eq_take.mp continued).symm
  · intro sound count beyond reached later
    have ended : next? engine reached = none := ended_of_length_lt engine parser beyond
    exact ⟨ended, drain_append_of_sound ends ended sound back⟩
  · intro fault faulty
    exact drain_append_of_fault ends faulty back

/-- A text of one line behind which the engine fails, and one of two lines in
which it has failed before. -/
theorem run_causal_lateFault :
    Text.EndsLine ['é', '\n'] ∧ Text.EndsLine ['é', '\n', 'b', '\n'] ∧
      ((start false ['é', '\n', 'b']).drain lateFault).2 = some (.scopes .nothingCleared) ∧
      (Token.markedChars ((start false ['é', '\n', 'b']).drain lateFault).1).take 2 =
        [('é', .plain), ('\n', .plain)] ∧
      ((start false ['é', '\n', 'b']).drain lateFault).1.head? = some (Token.plain "é\n") ∧
      Token.markedChars ((start false ['é', '\n', 'b', '\n', 'c']).drain lateFault).1 =
        Token.markedChars ((start false ['é', '\n', 'b', '\n']).drain lateFault).1 ++
          [('c', .plain)] := by
  have oneLine : Text.EndsLine ['é', '\n'] := .inr rfl
  have twoLines : Text.EndsLine ['é', '\n', 'b', '\n'] := .inr rfl
  have alone : (start false ['é', '\n']).drain lateFault = ([Token.plain "é\n"], none) := by
    rw [drain_start]
    rfl
  have failedBehind : ((start false ['é', '\n', 'b']).drain lateFault).2 =
      some (.scopes .nothingCleared) := by
    rw [drain_start]
    decide +kernel
  have failedBefore : ((start false ['é', '\n', 'b', '\n']).drain lateFault).2 =
      some (.scopes .nothingCleared) := by
    rw [drain_start]
    decide +kernel
  obtain ⟨kept, continued, -⟩ := run_causal lateFault false oneLine ['b']
  obtain ⟨-, -, plainBehind⟩ := run_causal lateFault false twoLines ['c']
  rw [alone] at kept
  have together := (continued (congrArg Prod.snd alone) 3 (by decide)).2
  rw [alone] at together
  have first : ((start false ['é', '\n', 'b']).drain lateFault).1.head? =
      some (Token.plain "é\n") :=
    congrArg (fun drained => drained.1.head?) together
  exact ⟨oneLine, twoLines, failedBehind, kept, first, (plainBehind _ failedBefore).2⟩

end PageFilters.TokenStream
