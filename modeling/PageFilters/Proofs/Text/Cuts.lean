import PageFilters.Text.Lines

/-!
# Cuts of a text

`splitAt?` finds exactly the cuts between two characters, so it is described by
the two parts alone.  Offsets that lie on boundaries of a text lie on
boundaries of its parts as well.
-/

namespace PageFilters.Text

@[simp] theorem size_nil : size [] = 0 := rfl

@[simp] theorem size_cons (char : Char) (rest : List Char) :
    size (char :: rest) = char.utf8Size + size rest := rfl

@[simp] theorem size_append (front back : List Char) :
    size (front ++ back) = size front + size back := by
  induction front with
  | nil => simp
  | cons char rest induction =>
      simp only [List.cons_append, size_cons, induction]
      omega

theorem size_eq_length {text : List Char} (single : ∀ char ∈ text, char.utf8Size = 1) :
    size text = text.length := by
  induction text with
  | nil => rfl
  | cons char rest induction =>
      have others := induction fun other member => single other (List.mem_cons_of_mem _ member)
      rw [size_cons, others, single char List.mem_cons_self, List.length_cons, Nat.add_comm]

theorem size_eq_zero_iff {text : List Char} : size text = 0 ↔ text = [] := by
  cases text with
  | nil => simp
  | cons char rest =>
      have positive := char.utf8Size_pos
      simp only [size_cons, List.cons_ne_nil, iff_false]
      omega

theorem charsIn?_eq_some_iff {start offset count : Nat} {text : List Char} :
    charsIn? start offset text = some count ↔
      ∃ front back, text = front ++ back ∧ size front = offset ∧
        count = start + front.length := by
  induction text generalizing start offset with
  | nil =>
      cases offset with
      | zero => simp [charsIn?, eq_comm]
      | succ offset =>
          simp only [charsIn?, reduceCtorEq, false_iff]
          rintro ⟨front, back, parts, sized, -⟩
          simp [(List.append_eq_nil_iff.mp parts.symm).1] at sized
  | cons char rest induction =>
      have positive := char.utf8Size_pos
      cases offset with
      | zero =>
          simp only [charsIn?, Option.some.injEq]
          constructor
          · intro same
            exact ⟨[], char :: rest, rfl, rfl, by simp [same]⟩
          · rintro ⟨front, back, -, sized, counted⟩
            rw [size_eq_zero_iff] at sized
            simpa [sized] using counted.symm
      | succ offset =>
          rw [charsIn?]
          constructor
          · intro found
            split at found
            · obtain ⟨front, back, parts, sized, counted⟩ := induction.mp found
              refine ⟨char :: front, back, by simp [parts], ?_, ?_⟩
              · rw [size_cons]
                omega
              · rw [List.length_cons]
                omega
            · simp at found
          · rintro ⟨front, back, parts, sized, counted⟩
            cases front with
            | nil => simp at sized
            | cons first front =>
                obtain ⟨rfl, restParts⟩ := List.cons.inj parts
                rw [size_cons] at sized
                rw [List.length_cons] at counted
                rw [if_pos (by omega)]
                exact induction.mpr ⟨front, back, restParts, by omega, by omega⟩

theorem splitAt?_eq_some_iff {offset : Nat} {text front back : List Char} :
    splitAt? offset text = some (front, back) ↔
      text = front ++ back ∧ size front = offset := by
  unfold splitAt?
  constructor
  · intro found
    obtain ⟨count, counted, cut⟩ := Option.map_eq_some_iff.mp found
    obtain ⟨left, right, rfl, sized, length⟩ := charsIn?_eq_some_iff.mp counted
    rw [Nat.zero_add] at length
    rw [length, List.splitAt_eq, List.take_left, List.drop_left, Prod.mk.injEq] at cut
    obtain ⟨rfl, rfl⟩ := cut
    exact ⟨rfl, sized⟩
  · rintro ⟨rfl, sized⟩
    have counted : charsIn? 0 offset (front ++ back) = some front.length :=
      charsIn?_eq_some_iff.mpr ⟨front, back, rfl, sized, by simp⟩
    simp [counted]

theorem isSome_splitAt?_iff {offset : Nat} {text : List Char} :
    (splitAt? offset text).isSome ↔ IsBoundary text offset := by
  constructor
  · intro found
    obtain ⟨⟨front, back⟩, cut⟩ := Option.isSome_iff_exists.mp found
    obtain ⟨parts, sized⟩ := splitAt?_eq_some_iff.mp cut
    exact ⟨front, back, parts, sized⟩
  · rintro ⟨front, back, parts, sized⟩
    rw [splitAt?_eq_some_iff.mpr ⟨parts, sized⟩]
    rfl

theorem isBoundary_size (text : List Char) : IsBoundary text (size text) :=
  ⟨text, [], by simp, rfl⟩

/-- Of two beginnings of a text, the longer one continues the other. -/
theorem exists_between {first behind front back : List Char}
    (together : first ++ behind = front ++ back) (shorter : size first ≤ size front) :
    ∃ between, front = first ++ between ∧ behind = between ++ back := by
  rcases List.append_eq_append_iff.mp together with found | ⟨between, rfl, rfl⟩
  · exact found
  · rw [size_append] at shorter
    have nothing : between = [] := size_eq_zero_iff.mp (by omega)
    exact ⟨[], by simp [nothing], by simp [nothing]⟩

theorem exists_beyond {first behind front back : List Char} {char : Char}
    (together : first ++ behind = front ++ char :: back) (longer : size front < size first) :
    ∃ beyond, first = front ++ char :: beyond := by
  obtain ⟨between, rfl, parts⟩ := exists_between together.symm (Nat.le_of_lt longer)
  cases between with
  | nil => simp at longer
  | cons same beyond =>
      obtain ⟨rfl, -⟩ := List.cons.inj parts
      exact ⟨beyond, rfl⟩

/-- A boundary behind a part of a text is a boundary of what follows it. -/
theorem IsBoundary.behind {front back : List Char} {offset : Nat}
    (boundary : IsBoundary (front ++ back) offset) (later : size front ≤ offset) :
    IsBoundary back (offset - size front) := by
  obtain ⟨before, after, parts, rfl⟩ := boundary
  obtain ⟨middle, rfl, rfl⟩ := exists_between parts later
  exact ⟨middle, after, rfl, by simp⟩

/-- The first line of a text, with the line feed that ends it. -/
def firstLine (text : List Char) : List Char :=
  text.takeWhile (· != '\n') ++ (text.dropWhile (· != '\n')).take 1

/-- What follows the first line of a text. -/
def afterFirstLine (text : List Char) : List Char :=
  (text.dropWhile (· != '\n')).drop 1

theorem firstLine_append_afterFirstLine (text : List Char) :
    firstLine text ++ afterFirstLine text = text := by
  rw [firstLine, afterFirstLine, List.append_assoc, List.take_append_drop,
    List.takeWhile_append_dropWhile]

theorem firstLine_ne_nil {text : List Char} (nonempty : text ≠ []) : firstLine text ≠ [] := by
  cases text with
  | nil => exact absurd rfl nonempty
  | cons char rest =>
      by_cases isFeed : char = '\n'
      · simp [firstLine, isFeed]
      · simp [firstLine, isFeed]

theorem LineCursor.lineSize_eq (text : List Char) :
    LineCursor.lineSize text = size (firstLine text) := by
  unfold LineCursor.lineSize firstLine
  have together := List.takeWhile_append_dropWhile (p := (· != '\n')) (l := text)
  cases found : text.dropWhile (· != '\n') with
  | nil =>
      rw [found, List.append_nil] at together
      simp [together]
  | cons char rest =>
      have isFeed : char = '\n' := by
        have first := List.head_dropWhile_not (· != '\n') (by simp [found] : text.dropWhile _ ≠ [])
        simpa [found] using first
      have shorter : (text.takeWhile (· != '\n')).length < text.length := by
        conv => rhs; rw [← together, found]
        simp
      simp only [shorter, ↓reduceIte, List.take_succ_cons, List.take_zero, size_append, size_cons,
        size_nil, isFeed]
      rfl

@[simp] theorem LineCursor.next?_nil : LineCursor.next? ⟨[]⟩ = none := rfl

theorem LineCursor.next?_of_ne_nil {text : List Char} (nonempty : text ≠ []) :
    LineCursor.next? ⟨text⟩ = some (firstLine text, ⟨afterFirstLine text⟩) := by
  have cut : splitAt? (LineCursor.lineSize text) text =
      some (firstLine text, afterFirstLine text) :=
    splitAt?_eq_some_iff.mpr
      ⟨(firstLine_append_afterFirstLine text).symm, (LineCursor.lineSize_eq text).symm⟩
  simp [LineCursor.next?, nonempty, cut]

theorem LineCursor.next?_eq_none_iff {cursor : LineCursor} :
    cursor.next? = none ↔ cursor.rest = [] := by
  obtain ⟨text⟩ := cursor
  by_cases empty : text = []
  · simp [empty]
  · simp [LineCursor.next?_of_ne_nil empty, empty]

theorem LineCursor.next?_eq_some_iff {cursor following : LineCursor} {line : List Char} :
    cursor.next? = some (line, following) ↔
      cursor.rest ≠ [] ∧ line = firstLine cursor.rest ∧
        following.rest = afterFirstLine cursor.rest := by
  obtain ⟨text⟩ := cursor
  obtain ⟨rest⟩ := following
  by_cases empty : text = []
  · simp [empty]
  · simp [LineCursor.next?_of_ne_nil empty, empty, eq_comm]

end PageFilters.Text
