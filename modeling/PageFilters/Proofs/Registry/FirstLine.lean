import Mathlib
import PageFilters.Registry

/-!
# The line that grammars look at

A document is recognized by the first line of its content, less the ending of
the line and less a byte order mark in front of it.  `Text.OpensWith` and
`Text.Unmarks` say what is left out, and leave exactly one line to look at.
-/

namespace PageFilters

namespace Text

/-- A text begins with a line, which is told without its ending.  A carriage
return belongs to the ending if a line feed follows. -/
inductive OpensWith : List Char → List Char → Prop where
  | alone {line : List Char} : '\n' ∉ line → OpensWith line line
  | feed {line rest : List Char} :
      '\n' ∉ line → line.getLast? ≠ some '\r' → OpensWith (line ++ '\n' :: rest) line
  | returnFeed {line rest : List Char} :
      '\n' ∉ line → OpensWith (line ++ '\r' :: '\n' :: rest) line

/-- A line without the byte order mark in front of it, if there is one. -/
inductive Unmarks : List Char → List Char → Prop where
  | marked {line : List Char} : Unmarks ('\ufeff' :: line) line
  | bare {line : List Char} : line.head? ≠ some '\ufeff' → Unmarks line line

/-- The first line of a text, less its ending and a byte order mark. -/
def IsFirstLine (text line : List Char) : Prop :=
  ∃ marked, OpensWith text marked ∧ Unmarks marked line

variable {text line rest : List Char}

theorem bne_feed_of_not_mem (noFeed : '\n' ∉ line) : ∀ char ∈ line, (char != '\n') = true := by
  intro char member
  exact bne_iff_ne.mpr fun isFeed => noFeed (isFeed ▸ member)

theorem takeWhile_append_feed (noFeed : '\n' ∉ line) (rest : List Char) :
    (line ++ '\n' :: rest).takeWhile (· != '\n') = line := by
  rw [List.takeWhile_append_of_pos (bne_feed_of_not_mem noFeed)]
  simp

/-- What is cut off in front of the first line feed is the line, but for a
carriage return that belongs to the ending. -/
theorem OpensWith.eq (opens : OpensWith text line) :
    line =
      let first := text.takeWhile (· != '\n')
      if first.length < text.length && first.getLast? == some '\r' then first.dropLast
      else first := by
  cases opens with
  | alone noFeed =>
      have whole := List.takeWhile_eq_self_iff.mpr (bne_feed_of_not_mem noFeed)
      simp [whole]
  | feed noFeed noReturn => simp [takeWhile_append_feed noFeed, noReturn]
  | @returnFeed line rest noFeed =>
      have noFeed : '\n' ∉ line ++ ['\r'] := by simp [noFeed]
      have first := takeWhile_append_feed noFeed rest
      rw [List.append_assoc, List.singleton_append] at first
      simp [first]

theorem exists_opensWith (text : List Char) : ∃ line, OpensWith text line := by
  by_cases fed : '\n' ∈ text
  · obtain ⟨front, rest, rfl, noFeed⟩ := List.eq_append_cons_of_mem fed
    by_cases returned : front.getLast? = some '\r'
    · obtain ⟨line, rfl⟩ := List.getLast?_eq_some_iff.mp returned
      rw [List.append_assoc, List.singleton_append]
      exact ⟨line, .returnFeed fun feed => noFeed (List.mem_append_left _ feed)⟩
    · exact ⟨front, .feed noFeed returned⟩
  · exact ⟨text, .alone fed⟩

theorem Unmarks.eq {marked : List Char} (unmarks : Unmarks marked line) :
    line = if marked.head? == some '\ufeff' then marked.drop 1 else marked := by
  cases unmarks with
  | marked => simp
  | bare noMark => simp [noMark]

theorem exists_unmarks (marked : List Char) : ∃ line, Unmarks marked line := by
  by_cases noMark : marked.head? = some '\ufeff'
  · obtain ⟨line, rfl⟩ := List.head?_eq_some_iff.mp noMark
    exact ⟨line, .marked⟩
  · exact ⟨marked, .bare noMark⟩

end Text

/-- What grammars look at is the first line, and nothing else is. -/
theorem GrammarSet.isFirstLine_iff {content : String} {line : List Char} :
    Text.IsFirstLine content.toList line ↔ line = firstLine content := by
  have unique {line : List Char} (first : Text.IsFirstLine content.toList line) :
      line = firstLine content := by
    obtain ⟨marked, opens, unmarks⟩ := first
    rw [unmarks.eq, opens.eq]
    rfl
  constructor
  · exact unique
  · intro same
    obtain ⟨marked, opens⟩ := Text.exists_opensWith content.toList
    obtain ⟨other, unmarks⟩ := Text.exists_unmarks marked
    have first : Text.IsFirstLine content.toList other := ⟨marked, opens, unmarks⟩
    rw [same, ← unique first]
    exact first

end PageFilters
