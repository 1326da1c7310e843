import PageFilters.Proofs.Iteration
import PageFilters.Proofs.Text.Lines

/-!
# Runs of a line cursor

Whenever a cursor has handed out some lines, these and the text that it has left
are the text.  A text can be cut into lines in one way only, so they are the
first ones of `lines`, and the end is reached behind as many requests as lines.
-/

namespace PageFilters.Text

open LineCursor (next?)

/-- Whether a text is cut into lines, as far as some rest. -/
structure CutsInto (text : List Char) (parts : List (List Char)) (rest : List Char) : Prop where
  /-- Nothing is lost, added or moved. -/
  complete : parts.flatten ++ rest = text
  nonempty : ∀ line ∈ parts, line ≠ []
  /-- A line feed is the last character of its line, so there is at most one. -/
  feedLast : ∀ line ∈ parts, '\n' ∉ line.dropLast
  /-- Only a line with nothing behind it can lack its line feed. -/
  ended : ∀ earlier line later, parts = earlier ++ line :: later →
    later.flatten ++ rest ≠ [] → line.getLast? = some '\n'

namespace CutsInto

variable {text middle rest line : List Char} {parts front back later : List (List Char)}

theorem start (text : List Char) : CutsInto text [] text where
  complete := rfl
  nonempty _ member := absurd member List.not_mem_nil
  feedLast _ member := absurd member List.not_mem_nil
  ended _ _ _ split := by simp at split

theorem firstLine (nonempty : text ≠ []) :
    CutsInto text [Text.firstLine text] (afterFirstLine text) where
  complete := by
    rw [List.flatten_singleton, firstLine_append_afterFirstLine]
  nonempty := by
    intro line member
    rw [List.mem_singleton.mp member]
    exact firstLine_ne_nil nonempty
  feedLast := by
    intro line member
    rw [List.mem_singleton.mp member]
    exact feed_not_mem_dropLast_firstLine text
  ended := by
    intro earlier line later split goesOn
    cases earlier with
    | nil =>
        obtain ⟨rfl, rfl⟩ := List.cons.inj split
        exact getLast?_firstLine goesOn
    | cons first earlier => simp at split

theorem append (cuts : CutsInto text front middle) (further : CutsInto middle back rest) :
    CutsInto text (front ++ back) rest where
  complete := by
    rw [List.flatten_append, List.append_assoc, further.complete, cuts.complete]
  nonempty := by
    intro line member
    exact (List.mem_append.mp member).elim (cuts.nonempty line) (further.nonempty line)
  feedLast := by
    intro line member
    exact (List.mem_append.mp member).elim (cuts.feedLast line) (further.feedLast line)
  ended := by
    intro earlier line later split goesOn
    rcases List.append_eq_append_iff.mp split with
      ⟨between, -, inBack⟩ | ⟨between, inFront, onwards⟩
    · exact further.ended between line later inBack goesOn
    · cases between with
      | nil => exact further.ended [] line later onwards.symm goesOn
      | cons first between =>
          obtain ⟨rfl, rfl⟩ := List.cons.inj onwards
          apply cuts.ended earlier line between inFront
          -- The same text stands behind the line, the further lines within it.
          rw [← further.complete, ← List.append_assoc, ← List.flatten_append]
          exact goesOn

theorem tail (cuts : CutsInto text (line :: later) rest) :
    CutsInto (later.flatten ++ rest) later rest where
  complete := rfl
  nonempty part member := cuts.nonempty part (List.mem_cons_of_mem line member)
  feedLast part member := cuts.feedLast part (List.mem_cons_of_mem line member)
  ended earlier part behind split :=
    cuts.ended (line :: earlier) part behind (congrArg (line :: ·) split)

/-- However a text is cut into lines, they are the first ones of `lines`. -/
theorem lines_eq_append (cuts : CutsInto text parts rest) :
    lines text = parts ++ lines rest := by
  induction parts generalizing text with
  | nil =>
      rw [← cuts.complete]
      rfl
  | cons line later induction =>
      have alone : lines line = [line] :=
        lines_eq_singleton (cuts.nonempty line List.mem_cons_self)
          (cuts.feedLast line List.mem_cons_self)
      have others := induction cuts.tail
      rw [← cuts.complete, List.flatten_cons, List.append_assoc, List.cons_append, ← others]
      by_cases last : later.flatten ++ rest = []
      · rw [last, List.append_nil, alone]
        rfl
      · have ends : EndsLine line := .inr (cuts.ended [] line later rfl last)
        rw [lines_append ends, alone]
        rfl

end CutsInto

namespace LineCursor

open Iteration (handed behind)

theorem cutsInto_of_next? {cursor following : LineCursor} {line : List Char}
    (found : cursor.next? = some (line, following)) :
    CutsInto cursor.rest [line] following.rest := by
  obtain ⟨textLeft, isFirst, isBehind⟩ := next?_eq_some_iff.mp found
  rw [isFirst, isBehind]
  exact .firstLine textLeft

theorem cutsInto_handed (text : List Char) (count : Nat) :
    CutsInto text (handed next? count ⟨text⟩) (behind next? count ⟨text⟩).rest := by
  refine Iteration.handed_behind_induction
    (fun parts (cursor : LineCursor) => CutsInto text parts cursor.rest) ?_ ?_ count
  · exact .start text
  · intro parts cursor line following cuts found
    exact cuts.append (cutsInto_of_next? found)

theorem handed_eq_take_lines (text : List Char) (count : Nat) :
    handed next? count ⟨text⟩ = (lines text).take count := by
  refine Iteration.handed_eq_take (fun cursor => lines cursor.rest) ?_ ?_ count
  · intro count
    exact (cutsInto_handed text count).lines_eq_append.symm
  · intro cursor ended
    rw [next?_eq_none_iff.mp ended]
    rfl

theorem ended_iff_lineCount_le (text : List Char) (count : Nat) :
    next? (behind next? count ⟨text⟩) = none ↔ lineCount text ≤ count := by
  rw [← length_lines]
  exact Iteration.ended_iff_of_handed_eq_take (handed_eq_take_lines text)

/-- A text is cut into lines as `lines` has them, and in no other way. -/
theorem cutsInto_iff_eq_lines {text : List Char} {parts : List (List Char)} :
    CutsInto text parts [] ↔ parts = lines text := by
  constructor
  · intro cuts
    rw [cuts.lines_eq_append, lines, List.append_nil]
  · intro same
    have cuts := cutsInto_handed text (lineCount text)
    have ended := (ended_iff_lineCount_le text (lineCount text)).mpr (Nat.le_refl _)
    rw [next?_eq_none_iff.mp ended, handed_eq_take_lines, ← length_lines, List.take_length] at cuts
    rw [same]
    exact cuts

theorem handed_finish (cursor : LineCursor) (count : Nat) :
    handed next? count cursor.finish = [] ∧ (behind next? count cursor.finish).rest = [] := by
  constructor
  · exact (handed_eq_take_lines [] count).trans List.take_nil
  · have complete := (cutsInto_handed [] count).complete
    exact (List.append_eq_nil_iff.mp complete).2

/-- A run of a line cursor over a text.  At every moment the text is cut into the
lines handed out and the text left; the end is reached behind as many requests as
there are lines; and a cursor that is finished has nothing left and hands out
nothing.  There are as many lines as line feeds, and one more if the text goes on
behind the last of them.  They are handed out one after the other, and there is
no other way to cut the text. -/
theorem run_exact (text : List Char) :
    (∀ count,
      CutsInto text (handed next? count ⟨text⟩) (behind next? count ⟨text⟩).rest ∧
        (next? (behind next? count ⟨text⟩) = none ↔ lineCount text ≤ count) ∧
        ∀ more, handed next? more (behind next? count ⟨text⟩).finish = [] ∧
          (behind next? more (behind next? count ⟨text⟩).finish).rest = []) ∧
    (lines text).length = lineCount text ∧
    (∀ count, handed next? count ⟨text⟩ = (lines text).take count) ∧
    ∀ parts, CutsInto text parts [] ↔ parts = lines text := by
  refine ⟨?_, length_lines text, handed_eq_take_lines text, ?_⟩
  · intro count
    refine ⟨cutsInto_handed text count, ended_iff_lineCount_le text count, ?_⟩
    intro more
    exact handed_finish _ more
  · intro parts
    exact cutsInto_iff_eq_lines

end LineCursor

end PageFilters.Text
