import Mathlib.Data.List.TakeWhile
import PageFilters.Proofs.Token.Lines

/-!
# The kind of every character

In a line that is read, a character has the kind of the scopes that are open at
it.  These are the scopes behind all changes of the lines in front of it, and
behind those changes of its own line that precede the first one at a greater
offset.
-/

namespace PageFilters

/-- Of changes in the order of their offsets, those up to an offset are the ones
in front of the first one behind it. -/
theorem takeWhile_le_eq_filter {ops : List (Nat × ScopeOp)}
    (ordered : ops.Pairwise (·.1 ≤ ·.1)) (offset : Nat) :
    ops.takeWhile (·.1 ≤ offset) = ops.filter (·.1 ≤ offset) := by
  induction ordered with
  | nil => rfl
  | @cons entry ops least ordered induction =>
      by_cases counts : entry.1 ≤ offset
      · simp [counts, induction]
      · have none : ∀ other ∈ ops, ¬ other.1 ≤ offset := by
          intro other member
          have greater := least other member
          omega
        simp only [List.takeWhile_cons, List.filter_cons, counts, decide_false, Bool.false_eq_true,
          ↓reduceIte]
        exact (List.filter_eq_nil_iff.mpr (by simpa using none)).symm

namespace Engine

variable {σ : Type} {engine : Engine σ} {before after : LineState σ} {earlier : List (List Char)}
  {line : List Char} {tokens : List (List Token)}

theorem Reads.kind_of_char (reads : engine.Reads before (earlier ++ [line]) tokens after) :
    ∃ opss following ops, engine.answers before.parser earlier = .ok (opss, following) ∧
      engine.parseLine following line = .ok (ops, after.parser) ∧
      ∀ front char back, line = front ++ char :: back →
        ∃ stack,
          engine.change.all before.stack
              (opss.flatten ++ ops.takeWhile (·.1 ≤ Text.size front)) = .ok stack ∧
            (Token.markedChars tokens.flatten)[earlier.flatten.length + front.length]? =
              some (char, kindOfScopes none stack.scopes) := by
  obtain ⟨earlierTokens, lineTokens, reached, readsEarlier, readsLine, rfl⟩ := reads.of_append
  cases readsLine with
  | @cons _ _ _ _ _ lineTokens _ read others =>
      cases others
      obtain ⟨opss, answered, made⟩ := readsEarlier.answers
      obtain ⟨ops, cutting, answeredLine, cut, -⟩ := readLine_eq_ok_iff.mp read
      refine ⟨opss, reached.parser, ops, answered, answeredLine, ?_⟩
      intro front char back parts
      obtain ⟨stack, madeLine, marked⟩ := markedChars_cutLine ClassMemory.sound_empty cut parts
      refine ⟨stack, ScopeChange.all_append_eq_ok_iff.mpr ⟨reached.stack, made, madeLine⟩, ?_⟩
      have length : (Token.markedChars earlierTokens.flatten).length = earlier.flatten.length := by
        rw [← List.length_map Prod.fst, Token.map_fst_markedChars, readsEarlier.chars]
      rw [List.flatten_append, Token.markedChars_append, ← length,
        List.getElem?_append_right (Nat.le_add_right _ _), Nat.add_sub_cancel_left]
      simpa using marked

end Engine

namespace TokenStream

variable {σ : Type}

/-- For every engine and every text, and each of its lines up to which all are
read.  A character of that line has the kind of the stack on which all changes
of the lines in front of it have been made, and those of its own that precede
the first one at a greater offset: if the offsets do not fall, those at an
offset not greater than its own.  Changes at the end of a line make no
difference in it.  If the engine answers with proper offsets, lines are read as
far as it answers them and their changes can be made. -/
theorem run_kinds (engine : Engine σ) (parser : σ) (text : List Char) :
    (∀ earlier line later tokens reached, Text.lines text = earlier ++ line :: later →
      engine.Reads ⟨parser, {}⟩ (earlier ++ [line]) tokens reached →
      ∃ opss following ops, engine.answers parser earlier = .ok (opss, following) ∧
        engine.parseLine following line = .ok (ops, reached.parser) ∧
        ∀ front char back, line = front ++ char :: back →
          let counting := ops.takeWhile (·.1 ≤ Text.size front)
          (∃ stack, engine.change.all {} (opss.flatten ++ counting) = .ok stack ∧
            (Token.markedChars ((start parser text).drain engine).1)[
                earlier.flatten.length + front.length]? =
              some (char, kindOfScopes none stack.scopes)) ∧
            (∀ entry ∈ counting, entry.1 < Text.size line) ∧
            (ops.Pairwise (·.1 ≤ ·.1) → counting = ops.filter (·.1 ≤ Text.size front))) ∧
      (engine.AnswersOnBoundaries → ∀ lines reached,
        (∃ tokens, engine.Reads ⟨parser, {}⟩ lines tokens reached) ↔
          ∃ opss, engine.answers parser lines = .ok (opss, reached.parser) ∧
            engine.change.all {} opss.flatten = .ok reached.stack) := by
  constructor
  · intro earlier line later tokens reached split reads
    obtain ⟨opss, following, ops, answered, answeredLine, kinds⟩ := reads.kind_of_char
    refine ⟨opss, following, ops, answered, answeredLine, ?_⟩
    intro front char back parts counting
    refine ⟨?_, ?_, ?_⟩
    · obtain ⟨stack, made, marked⟩ := kinds front char back parts
      have whole : Text.lines text = (earlier ++ [line]) ++ later := by simp [split]
      obtain ⟨behind, -, -, drained⟩ := drain_of_reads_append reads later whole
      have within := (List.getElem?_eq_some_iff.mp marked).1
      refine ⟨stack, made, ?_⟩
      rw [drained, Token.markedChars_append, List.getElem?_append_left within]
      exact marked
    · intro entry member
      have upTo : entry.1 ≤ Text.size front := by simpa using List.mem_takeWhile_imp member
      have positive := char.utf8Size_pos
      rw [parts, Text.size_append, Text.size_cons]
      omega
    · intro ordered
      exact takeWhile_le_eq_filter ordered _
  · intro onBoundaries lines reached
    constructor
    · rintro ⟨tokens, reads⟩
      exact reads.answers
    · rintro ⟨opss, answered, made⟩
      exact Engine.exists_reads_of_answers onBoundaries answered made

/-- An engine whose offsets go back to the start of a line, and beyond its
end. -/
def zigzag : Engine Unit where
  parseLine _ line :=
    .ok ([(Text.size (line.take 1), .push "keyword"), (0, .push "string"),
      (Text.size line + 1, .pop 1)], ())

theorem zigzag_answersOnBoundaries : zigzag.AnswersOnBoundaries := by
  intro _ line ops _ answered
  cases answered
  have behindFirst : Text.IsBoundary line (Text.size (line.take 1)) :=
    ⟨line.take 1, line.drop 1, (List.take_append_drop 1 line).symm, rfl⟩
  have atStart : Text.IsBoundary line 0 := ⟨[], line, rfl, rfl⟩
  simp [OnBoundaries, behindFirst, atStart]

/-- Two lines: the second character has the kind of the change at the start,
which comes behind its own, and what the end of the first line leaves open
counts in the second one. -/
theorem run_kinds_zigzag :
    Text.lines ['é', 'b', '\n', 'c'] = [] ++ ['é', 'b', '\n'] :: [['c']] ∧
      zigzag.AnswersOnBoundaries ∧
      (Token.markedChars ((start () ['é', 'b', '\n', 'c']).drain zigzag).1)[0]? =
        some ('é', .plain) ∧
      (Token.markedChars ((start () ['é', 'b', '\n', 'c']).drain zigzag).1)[1]? =
        some ('b', .string) ∧
      (Token.markedChars ((start () ['é', 'b', '\n', 'c']).drain zigzag).1)[3]? =
        some ('c', .keyword) := by
  obtain ⟨kinds, progress⟩ := run_kinds zigzag () ['é', 'b', '\n', 'c']
  obtain ⟨firstTokens, readsFirst⟩ := (progress zigzag_answersOnBoundaries
    [['é', 'b', '\n']] ⟨(), ⟨["keyword"], []⟩⟩).mpr ⟨_, rfl, rfl⟩
  obtain ⟨allTokens, readsAll⟩ := (progress zigzag_answersOnBoundaries
    [['é', 'b', '\n'], ['c']] ⟨(), ⟨["keyword", "keyword"], []⟩⟩).mpr ⟨_, rfl, rfl⟩
  obtain ⟨_, _, _, answered, answeredLine, inFirst⟩ := kinds [] _ [['c']] _ _ rfl readsFirst
  cases answered
  cases answeredLine
  obtain ⟨_, _, _, answered, answeredLine, inSecond⟩ :=
    kinds [['é', 'b', '\n']] _ [] _ _ rfl readsAll
  cases answered
  cases answeredLine
  obtain ⟨⟨_, madeAtStart, kindAtStart⟩, -, -⟩ := inFirst [] _ _ rfl
  obtain ⟨⟨_, madeBehind, kindBehind⟩, -, -⟩ := inFirst ['é'] _ _ rfl
  obtain ⟨⟨_, madeNext, kindNext⟩, -, -⟩ := inSecond [] _ _ rfl
  cases madeAtStart
  cases madeBehind
  cases madeNext
  have string : kindOfScopes none ["string", "keyword"] = .string := by decide +kernel
  have keyword : kindOfScopes none ["keyword"] = .keyword := by decide +kernel
  change _ = some ('b', kindOfScopes none ["string", "keyword"]) at kindBehind
  change _ = some ('c', kindOfScopes none ["keyword"]) at kindNext
  rw [string] at kindBehind
  rw [keyword] at kindNext
  exact ⟨rfl, zigzag_answersOnBoundaries, kindAtStart, kindBehind, kindNext⟩

end TokenStream

end PageFilters
