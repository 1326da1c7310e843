import PageFilters.Proofs.Text.Cuts

/-!
# All lines of a text

A cursor hands out the lines of a text one at a time.  `lines` lists them all,
and where the first part of a text ends with a line, its lines are the lines of
the two parts.  So a text that is written line by line has the lines that have
been written.  How many lines a text has can be told from its line feeds.
-/

namespace PageFilters.Text

/-- The lines of a text in order, each with the line feed that ends it. -/
def lines : List Char → List (List Char)
  | [] => []
  | char :: rest =>
      if char = '\n' then [char] :: lines rest
      else
        match lines rest with
        | [] => [[char]]
        | line :: later => (char :: line) :: later

/-- Whether a text ends with a line; an empty one does. -/
def EndsLine (text : List Char) : Prop :=
  text = [] ∨ text.getLast? = some '\n'

instance (text : List Char) : Decidable (EndsLine text) :=
  inferInstanceAs (Decidable (_ ∨ _))

theorem lines_of_ne_nil {text : List Char} (nonempty : text ≠ []) :
    lines text = firstLine text :: lines (afterFirstLine text) := by
  induction text with
  | nil => exact absurd rfl nonempty
  | cons char rest induction =>
      by_cases isFeed : char = '\n'
      · simp [lines, firstLine, afterFirstLine, isFeed]
      · by_cases last : rest = []
        · simp [lines, firstLine, afterFirstLine, isFeed, last]
        · rw [lines, if_neg isFeed, induction last]
          simp [firstLine, afterFirstLine, isFeed]

theorem lines_eq_of_next? {cursor following : LineCursor} {line : List Char}
    (next : cursor.next? = some (line, following)) :
    lines cursor.rest = line :: lines following.rest := by
  obtain ⟨nonempty, rfl, rest⟩ := LineCursor.next?_eq_some_iff.mp next
  rw [rest]
  exact lines_of_ne_nil nonempty

theorem flatten_lines (text : List Char) : (lines text).flatten = text := by
  induction text with
  | nil => rfl
  | cons char rest induction =>
      by_cases isFeed : char = '\n'
      · simp [lines, isFeed, induction]
      · rw [lines, if_neg isFeed]
        split
        next none =>
            rw [none] at induction
            simp [← induction]
        next line later found =>
            rw [found] at induction
            simp [← induction]

theorem ne_nil_of_mem_lines {text line : List Char} (member : line ∈ lines text) : line ≠ [] := by
  induction text with
  | nil => contradiction
  | cons char rest induction =>
      rw [lines] at member
      split at member
      next => exact (List.mem_cons.mp member).elim (by rintro rfl; simp) induction
      next =>
        split at member
        next => simp_all
        next first later found =>
            rw [found] at induction
            rcases List.mem_cons.mp member with rfl | behind
            · exact List.cons_ne_nil char first
            · exact induction (List.mem_cons_of_mem first behind)

theorem endsLine_cons_iff {char : Char} {rest : List Char} (goesOn : rest ≠ []) :
    EndsLine (char :: rest) ↔ EndsLine rest := by
  obtain ⟨next, rest, rfl⟩ := List.exists_cons_of_ne_nil goesOn
  simp [EndsLine]

theorem EndsLine.tail {char : Char} {rest : List Char} (ends : EndsLine (char :: rest)) :
    EndsLine rest := by
  by_cases last : rest = []
  · exact .inl last
  · exact (endsLine_cons_iff last).mp ends

theorem lines_append {front : List Char} (ends : EndsLine front) (back : List Char) :
    lines (front ++ back) = lines front ++ lines back := by
  induction front with
  | nil => rfl
  | cons char front induction =>
      have together := induction ends.tail
      by_cases isFeed : char = '\n'
      · simp [lines, isFeed, together]
      · -- The line goes on, so there is one in what follows to which the character belongs.
        have goesOn : front ≠ [] := by
          rintro rfl
          simp [EndsLine, isFeed] at ends
        have line := lines_of_ne_nil goesOn
        simp [lines, isFeed, together, line]

/-- Number of lines: one for every line feed, and one for what stands behind the
last of them. -/
def lineCount (text : List Char) : Nat :=
  text.count '\n' + if EndsLine text then 0 else 1

theorem lineCount_feed (rest : List Char) : lineCount ('\n' :: rest) = lineCount rest + 1 := by
  by_cases last : rest = []
  · rw [last]
    rfl
  · simp only [lineCount, List.count_cons_self, endsLine_cons_iff last]
    omega

theorem lineCount_cons {char : Char} {rest : List Char} (notFeed : char ≠ '\n')
    (goesOn : rest ≠ []) : lineCount (char :: rest) = lineCount rest := by
  simp only [lineCount, List.count_cons_of_ne notFeed, endsLine_cons_iff goesOn]

theorem length_lines (text : List Char) : (lines text).length = lineCount text := by
  induction text with
  | nil => rfl
  | cons char rest induction =>
      by_cases isFeed : char = '\n'
      · rw [lines, if_pos isFeed, List.length_cons, induction, isFeed, lineCount_feed]
      · by_cases last : rest = []
        · simp [lines, lineCount, EndsLine, isFeed, last]
        · rw [lineCount_cons isFeed last, ← induction, lines, if_neg isFeed,
            lines_of_ne_nil last]
          rfl

/-- A text is one line if no line feed stands in front of its last character. -/
theorem lines_eq_singleton {line : List Char} (nonempty : line ≠ [])
    (feedLast : '\n' ∉ line.dropLast) : lines line = [line] := by
  induction line with
  | nil => exact absurd rfl nonempty
  | cons char rest induction =>
      by_cases last : rest = []
      · by_cases isFeed : char = '\n'
        · simp [lines, last, isFeed]
        · simp [lines, last, isFeed]
      · rw [List.dropLast_cons_of_ne_nil last, List.mem_cons, not_or] at feedLast
        have others := induction last feedLast.2
        have notFeed : char ≠ '\n' := fun isFeed => feedLast.1 isFeed.symm
        rw [lines, if_neg notFeed, others]

/-- Whether a text is one line, with the line feed that ends it. -/
def IsLine (text : List Char) : Prop :=
  ∃ content, '\n' ∉ content ∧ text = content ++ ['\n']

theorem IsLine.endsLine {line : List Char} (isLine : IsLine line) : EndsLine line := by
  obtain ⟨content, -, rfl⟩ := isLine
  right
  simp

theorem IsLine.lines_eq {line : List Char} (isLine : IsLine line) : lines line = [line] := by
  obtain ⟨content, noFeed, rfl⟩ := isLine
  apply lines_eq_singleton
  · simp
  · rw [List.dropLast_concat]
    exact noFeed

/-- Only the last line of a text can lack its line feed. -/
theorem firstLine_cases (text : List Char) :
    IsLine (firstLine text) ∨ '\n' ∉ firstLine text ∧ afterFirstLine text = [] := by
  induction text with
  | nil => simp [firstLine, afterFirstLine]
  | cons char rest induction =>
      by_cases isFeed : char = '\n'
      · left
        exact ⟨[], List.not_mem_nil, by simp [firstLine, isFeed]⟩
      · have first : firstLine (char :: rest) = char :: firstLine rest := by
          simp [firstLine, isFeed]
        have behind : afterFirstLine (char :: rest) = afterFirstLine rest := by
          simp [afterFirstLine, isFeed]
        rw [first, behind]
        rcases induction with ⟨content, noFeed, same⟩ | ⟨noFeed, nothing⟩
        · left
          exact ⟨char :: content, by simp [noFeed, Ne.symm isFeed], by rw [same]; rfl⟩
        · right
          exact ⟨by simp [noFeed, Ne.symm isFeed], nothing⟩

theorem feed_not_mem_dropLast_firstLine (text : List Char) :
    '\n' ∉ (firstLine text).dropLast := by
  rcases firstLine_cases text with ⟨content, noFeed, same⟩ | ⟨noFeed, -⟩
  · rw [same, List.dropLast_concat]
    exact noFeed
  · exact fun feed => noFeed (List.dropLast_subset _ feed)

theorem getLast?_firstLine {text : List Char} (goesOn : afterFirstLine text ≠ []) :
    (firstLine text).getLast? = some '\n' := by
  rcases firstLine_cases text with ⟨content, -, same⟩ | ⟨-, nothing⟩
  · rw [same, List.getLast?_concat]
  · exact absurd nothing goesOn

theorem lines_flatten_append {written : List (List Char)} (each : ∀ line ∈ written, IsLine line)
    (rest : List Char) : lines (written.flatten ++ rest) = written ++ lines rest := by
  induction written with
  | nil => rfl
  | cons line written induction =>
      have first := each line List.mem_cons_self
      have others := induction fun line member => each line (List.mem_cons_of_mem _ member)
      rw [List.flatten_cons, List.append_assoc, lines_append first.endsLine, first.lines_eq, others]
      rfl

theorem endsLine_flatten {written : List (List Char)} (each : ∀ line ∈ written, IsLine line) :
    EndsLine written.flatten := by
  rcases List.eq_nil_or_concat written with rfl | ⟨earlier, last, rfl⟩
  · exact .inl rfl
  · obtain ⟨content, -, same⟩ := each last (by simp)
    right
    simp [same]

end PageFilters.Text
