import PageFilters.Proofs.Token.Streams
import PageFilters.Tokenizer

/-!
# Tokenizers lose nothing

Whatever an engine answers and wherever it fails, the tokens of a text are the
text.  For a token stream this holds at every moment of its run: what has been
handed out, what is pending and what has not been taken are the text, piece by
piece and in this order.
-/

namespace PageFilters

namespace TokenStream

open Text (LineCursor)

variable {σ : Type} {engine : Engine σ} {stream following : TokenStream σ} {token : Token}

/-- The pending tokens are the last ones of those into which the line was cut
that has been taken from the text last. -/
def PendingOfLastLine (engine : Engine σ) (text : List Char) (stream : TokenStream σ) : Prop :=
  ∃ (count : Nat) (earlier : List (List Char)) (line : List Char) (front : List Token)
      (before : TokenStream σ),
    Iteration.handed LineCursor.next? count ⟨text⟩ = earlier ++ [line] ∧
      Iteration.behind LineCursor.next? count ⟨text⟩ = stream.lines ∧
      before.takeLine engine line =
        .ok (front ++ stream.pending, stream.parser, stream.cutting) ∧
      Token.chars (front ++ stream.pending) = line

/-- What holds between a text, the tokens that a stream at its start has handed
out, and the stream behind them. -/
structure Accounts (engine : Engine σ) (text : List Char) (handed : List Token)
    (stream : TokenStream σ) : Prop where
  /-- Nothing is lost, added or moved. -/
  complete : Token.chars handed ++ Token.chars stream.pending ++ stream.lines.rest = text
  noneEmpty : Token.NoneEmpty (handed ++ stream.pending)
  pendingOfLastLine : stream.pending ≠ [] → PendingOfLastLine engine text stream
  /-- Lines are taken one after the other. -/
  reached : stream.fault = none →
    ∃ count, Iteration.behind LineCursor.next? count ⟨text⟩ = stream.lines
  /-- Nothing is left behind a fault. -/
  stopped : stream.fault ≠ none → stream.pending = [] ∧ stream.lines.rest = []

theorem accounts_start (engine : Engine σ) (parser : σ) (text : List Char) :
    Accounts engine text [] (start parser text) where
  complete := rfl
  noneEmpty := Token.noneEmpty_nil
  pendingOfLastLine := by
    intro waiting
    exact absurd rfl waiting
  reached _ := ⟨0, rfl⟩
  stopped faulty := absurd rfl faulty

theorem Accounts.take {text : List Char} {handed : List Token} {line : List Char}
    {lines : LineCursor} (accounts : Accounts engine text handed stream)
    (next : stream.lines.next? = some (line, lines)) :
    stream.fault = none ∧ ∃ count earlier,
      Iteration.handed LineCursor.next? count ⟨text⟩ = earlier ++ [line] ∧
        Iteration.behind LineCursor.next? count ⟨text⟩ = lines := by
  have sound : stream.fault = none := by
    cases faulty : stream.fault with
    | none => rfl
    | some fault =>
        obtain ⟨textLeft, -, -⟩ := LineCursor.next?_eq_some_iff.mp next
        exact absurd (accounts.stopped (by simp [faulty])).2 textLeft
  obtain ⟨count, before⟩ := accounts.reached sound
  rw [← before] at next
  exact ⟨sound, count + 1, _, Iteration.handed_succ_of_some next,
    Iteration.behind_succ_of_some next⟩

theorem Accounts.request {text : List Char} {handed : List Token}
    (accounts : Accounts engine text handed stream)
    (hands : Hands engine stream token following) :
    Accounts engine text (handed ++ [token]) following := by
  obtain ⟨handedNoneEmpty, pendingNoneEmpty⟩ := Token.noneEmpty_append.mp accounts.noneEmpty
  have complete : Token.chars (handed ++ [token]) ++ Token.chars following.pending ++
      following.lines.rest = text := by
    rw [← accounts.complete, Token.chars_append, List.append_assoc, List.append_assoc,
      List.append_assoc, ← hands.chars]
    simp
  have noneEmpty : Token.NoneEmpty (handed ++ [token] ++ following.pending) := by
    obtain ⟨nonempty, waitingNoneEmpty⟩ := hands.nonempty pendingNoneEmpty
    simp [handedNoneEmpty, nonempty, waitingNoneEmpty]
  cases hands with
  | pending content =>
      have waitingBefore : stream.pending ≠ [] := by simp [content]
      refine ⟨complete, noneEmpty, ?_, accounts.reached, ?_⟩
      · intro _
        obtain ⟨count, earlier, line, front, before, last, behind, taken, cut⟩ :=
          accounts.pendingOfLastLine waitingBefore
        refine ⟨count, earlier, line, front ++ [token], before, last, behind, ?_, ?_⟩
        · rw [taken, content, List.append_assoc]
          rfl
        · rw [← cut, content, List.append_assoc]
          rfl
      · intro faulty
        exact absurd (accounts.stopped faulty).1 waitingBefore
  | line content next taken =>
      obtain ⟨sound, count, earlier, last, behind⟩ := accounts.take next
      refine ⟨complete, noneEmpty, ?_, fun _ => ⟨count, behind⟩, ?_⟩
      · intro _
        exact ⟨count, earlier, _, [token], stream, last, behind, taken, (takeLine_ok taken).1⟩
      · intro faulty
        exact absurd sound faulty
  | fault content next failed =>
      refine ⟨complete, noneEmpty, fun waiting => absurd content waiting, ?_, fun _ => ⟨content, rfl⟩⟩
      intro sound
      simp at sound

theorem accounts (engine : Engine σ) (parser : σ) (text : List Char) (count : Nat) :
    Accounts engine text (Iteration.handed (next? engine) count (start parser text))
      (Iteration.behind (next? engine) count (start parser text)) :=
  Iteration.handed_behind_induction (Accounts engine text) (accounts_start engine parser text)
    (fun _ _ _ _ held found => held.request (next?_eq_some_iff.mp found)) count

theorem ended_of_length_lt (engine : Engine σ) (parser : σ) {text : List Char} {count : Nat}
    (beyond : text.length < count) :
    next? engine (Iteration.behind (next? engine) count (start parser text)) = none := by
  apply Iteration.ended_of_length_handed_le _ beyond
  intro count
  have held := accounts engine parser text count
  have fewer := (Token.noneEmpty_append.mp held.noneEmpty).1.length_le
  have total := congrArg List.length held.complete
  simp only [List.length_append] at total
  omega

/-- An engine that answers with proper offsets never makes a stream cut inside
of a character. -/
theorem fault_ne_offBoundary (onBoundaries : engine.AnswersOnBoundaries) (parser : σ)
    (text : List Char) (count offset : Nat) :
    (Iteration.behind (next? engine) count (start parser text)).fault ≠
      some (.offBoundary offset) := by
  refine Iteration.handed_behind_induction
    (fun _ (stream : TokenStream σ) => stream.fault ≠ some (.offBoundary offset)) ?_ ?_ count
  · simp [start]
  · intro _ stream token following sound found
    cases next?_eq_some_iff.mp found with
    | pending => exact sound
    | line => exact sound
    | fault content next failed =>
        have other := takeLine_error onBoundaries failed offset
        simpa using other

/-- A run of a token stream over a text.  At every moment the tokens handed out,
the pending ones and the text not taken are the text; none of the tokens is
empty, the pending ones are of the line taken last, and no cut went through a
character.  Behind a bounded number of requests the stream has ended.  Once it
has ended it stays so, and the tokens handed out are the text. -/
theorem run_lossless (engine : Engine σ) (onBoundaries : engine.AnswersOnBoundaries) (parser : σ)
    (text : List Char) :
    (∀ count,
      Accounts engine text (Iteration.handed (next? engine) count (start parser text))
          (Iteration.behind (next? engine) count (start parser text)) ∧
        ∀ offset, (Iteration.behind (next? engine) count (start parser text)).fault ≠
          some (.offBoundary offset)) ∧
    (∀ count, text.length < count →
      next? engine (Iteration.behind (next? engine) count (start parser text)) = none) ∧
    ∀ count, next? engine (Iteration.behind (next? engine) count (start parser text)) = none →
      Token.chars (Iteration.handed (next? engine) count (start parser text)) = text ∧
        ∀ more, next? engine
          (Iteration.behind (next? engine) (count + more) (start parser text)) = none := by
  refine ⟨?_, ?_, ?_⟩
  · intro count
    exact ⟨accounts engine parser text count,
      fault_ne_offBoundary onBoundaries parser text count⟩
  · intro count beyond
    exact ended_of_length_lt engine parser beyond
  · -- At the end nothing is pending and no text is left, so the accounts say it all.
    intro count ended
    constructor
    · obtain ⟨nothingPending, nothingLeft⟩ := next?_eq_none_iff.mp ended
      have complete := (accounts engine parser text count).complete
      rw [nothingPending, nothingLeft] at complete
      simpa using complete
    · intro more
      rw [Iteration.behind_add_of_none ended]
      exact ended

/-- An engine that answers the first line with an offset beyond its end, and
fails on the others behind the cut at such an offset. -/
def lateFault : Engine Bool where
  parseLine started line :=
    let beyond := (Text.size line + 3, ScopeOp.push "comment")
    .ok (if started then [beyond, (0, .restore)] else [beyond], true)

theorem lateFault_answersOnBoundaries : lateFault.AnswersOnBoundaries := by
  intro started line ops following answered
  cases started with
  | false =>
      cases answered
      simp [OnBoundaries]
  | true =>
      cases answered
      have atStart : Text.IsBoundary line 0 := ⟨[], line, rfl, rfl⟩
      simp [OnBoundaries, atStart]

/-- Two lines, of which the second one fails. -/
theorem run_lossless_lateFault :
    lateFault.AnswersOnBoundaries ∧
      next? lateFault (Iteration.behind (next? lateFault) 4 (start false ['é', '\n', 'b'])) = none ∧
      Token.chars (Iteration.handed (next? lateFault) 4 (start false ['é', '\n', 'b'])) =
        ['é', '\n', 'b'] := by
  obtain ⟨-, ends, complete⟩ :=
    run_lossless lateFault lateFault_answersOnBoundaries false ['é', '\n', 'b']
  have ended := ends 4 (by decide)
  exact ⟨lateFault_answersOnBoundaries, ended, (complete 4 ended).1⟩

theorem chars_drainFrom (engine : Engine σ) (read : List Token) (stream : TokenStream σ) :
    Token.chars (drainFrom engine read stream).1 =
      Token.chars read.reverse ++ (Token.chars stream.pending ++ stream.lines.rest) := by
  fun_induction drainFrom engine read stream with
  | case1 read stream ended =>
      obtain ⟨nothingPending, nothingLeft⟩ := next?_eq_none_iff.mp ended
      simp [nothingPending, nothingLeft]
  | case2 read stream token following found induction =>
      rw [induction, ← (next?_eq_some_iff.mp found).chars]
      simp

end TokenStream

/-- The tokens of every text are the text. -/
def Tokenizer.Lossless (tokenizer : Tokenizer) : Prop :=
  ∀ text, Token.chars (tokenizer.tokenize text).tokens = text.toList

theorem Tokenizer.plain_lossless : Tokenizer.plain.Lossless := by
  intro text
  by_cases empty : text = ""
  · simp [Tokenizer.plain, empty]
  · simp [Tokenizer.plain, Token.plain, empty]

theorem Tokenizer.ofEngine_lossless {σ : Type} (grammar : String) (engine : Engine σ) (start : σ) :
    (Tokenizer.ofEngine grammar engine start).Lossless := by
  intro text
  exact TokenStream.chars_drainFrom engine [] (TokenStream.start start text.toList)

end PageFilters
