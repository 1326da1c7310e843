import PageFilters.Text.RangeTable

/-!
# Blank characters

The characters with the property White_Space, and trimming them.
-/

namespace PageFilters.Text

/-- The ranges of White_Space. -/
def blankTable : RangeTable := #[
    (0x0009, 0x000D), (0x0020, 0x0020), (0x0085, 0x0085), (0x00A0, 0x00A0), (0x1680, 0x1680),
    (0x2000, 0x200A), (0x2028, 0x2029), (0x202F, 0x202F), (0x205F, 0x205F), (0x3000, 0x3000)]

def isBlank (char : Char) : Bool :=
  blankTable.holds char.toNat

/-- A text without the blanks at its two ends. -/
def trim (text : List Char) : List Char :=
  ((text.dropWhile isBlank).reverse.dropWhile isBlank).reverse

theorem dropWhile_isBlank_eq_self {text : List Char}
    (begins : ∀ char ∈ text.head?, isBlank char = false) : text.dropWhile isBlank = text := by
  cases text with
  | nil => rfl
  | cons first rest => exact List.dropWhile_cons_of_neg (by simp [begins first rfl])

theorem trim_append {before text behind : List Char}
    (blankBefore : ∀ char ∈ before, isBlank char = true)
    (blankBehind : ∀ char ∈ behind, isBlank char = true)
    (begins : ∀ char ∈ text.head?, isBlank char = false)
    (ends : ∀ char ∈ text.getLast?, isBlank char = false) :
    trim (before ++ text ++ behind) = text := by
  cases text with
  | nil =>
      have nothing : behind.dropWhile isBlank = [] := by
        rw [← List.append_nil behind, List.dropWhile_append_of_pos blankBehind]
        rfl
      rw [trim, List.append_nil, List.dropWhile_append_of_pos blankBefore, nothing]
      rfl
  | cons first rest =>
      have front : (before ++ first :: rest ++ behind).dropWhile isBlank =
          first :: rest ++ behind := by
        rw [List.append_assoc, List.dropWhile_append_of_pos blankBefore]
        exact dropWhile_isBlank_eq_self begins
      have back : (first :: rest ++ behind).reverse.dropWhile isBlank =
          (first :: rest).reverse := by
        rw [List.reverse_append, List.dropWhile_append_of_pos (by simpa using blankBehind)]
        exact dropWhile_isBlank_eq_self (by simpa only [List.head?_reverse] using ends)
      rw [trim, front, back, List.reverse_reverse]

/-- What a text is without the blanks at its two ends. -/
structure Trims (text trimmed : List Char) : Prop where
  around : ∃ before behind, text = before ++ trimmed ++ behind ∧
    ∀ char ∈ before ++ behind, isBlank char = true
  begins : ∀ char ∈ trimmed.head?, isBlank char = false
  ends : ∀ char ∈ trimmed.getLast?, isBlank char = false

theorem isBlank_of_head?_dropWhile {text : List Char} {char : Char}
    (first : char ∈ (text.dropWhile isBlank).head?) : isBlank char = false := by
  have stops := List.head?_dropWhile_not isBlank text
  rw [Option.mem_def] at first
  rwa [first] at stops

theorem trims_trim (text : List Char) : Trims text (trim text) := by
  have front := List.takeWhile_append_dropWhile (p := isBlank) (l := text)
  have back : trim text ++ ((text.dropWhile isBlank).reverse.takeWhile isBlank).reverse =
      text.dropWhile isBlank := by
    rw [trim, ← List.reverse_append, List.takeWhile_append_dropWhile, List.reverse_reverse]
  constructor
  · refine ⟨_, _, by rw [List.append_assoc, back, front], ?_⟩
    intro char member
    rcases List.mem_append.mp member with before | behind
    · exact List.all_eq_true.mp List.all_takeWhile char before
    · exact List.all_eq_true.mp List.all_takeWhile char (List.mem_reverse.mp behind)
  · intro char first
    have firstOfFront : char ∈ (text.dropWhile isBlank).head? := by
      rw [Option.mem_def] at first
      rw [← back, List.head?_append, first]
      rfl
    exact isBlank_of_head?_dropWhile firstOfFront
  · intro char last
    rw [trim, List.getLast?_reverse] at last
    exact isBlank_of_head?_dropWhile last

end PageFilters.Text
