import PageFilters.Text.Slice

/-!
# Lines

A cursor that hands out the lines of a text one after the other, each with the
line feed that ends it.
-/

namespace PageFilters.Text

/-- The text whose lines are still to be handed out. -/
structure LineCursor where
  rest : List Char
  deriving Repr, DecidableEq, Inhabited

namespace LineCursor

/-- Number of octets of the first line, with its line feed. -/
def lineSize (text : List Char) : Nat :=
  let line := text.takeWhile (· != '\n')
  if line.length < text.length then size line + 1 else size line

/-- The next line, and the cursor behind it. -/
def next? (cursor : LineCursor) : Option (List Char × LineCursor) := do
  if cursor.rest.isEmpty then none
  let (line, rest) ← splitAt? (lineSize cursor.rest) cursor.rest
  return (line, ⟨rest⟩)

def finish (_ : LineCursor) : LineCursor := ⟨[]⟩

end LineCursor

theorem charsIn?_bounds {text : List Char} {start offset count : Nat}
    (found : charsIn? start offset text = some count) :
    start ≤ count ∧ (offset ≠ 0 → start < count) := by
  induction text generalizing start offset with
  | nil =>
      cases offset with
      | zero => simp_all [charsIn?]
      | succ offset => simp [charsIn?] at found
  | cons char rest induction =>
      cases offset with
      | zero => simp_all [charsIn?]
      | succ offset =>
          unfold charsIn? at found
          split at found
          · have bounds := induction found
            omega
          · simp at found

theorem LineCursor.lineSize_ne_zero {text : List Char} (nonempty : text ≠ []) :
    LineCursor.lineSize text ≠ 0 := by
  cases text with
  | nil => exact absurd rfl nonempty
  | cons char rest =>
      unfold LineCursor.lineSize
      by_cases isFeed : char = '\n'
      · simp [isFeed]
      · have positive := char.utf8Size_pos
        simp only [bne_iff_ne, ne_eq, isFeed, not_false_eq_true, List.takeWhile_cons_of_pos, size,
          List.foldr_cons]
        split <;> omega

theorem LineCursor.next?_shorter {cursor following : LineCursor} {line : List Char}
    (found : cursor.next? = some (line, following)) :
    following.rest.length < cursor.rest.length := by
  unfold LineCursor.next? at found
  cases content : cursor.rest with
  | nil => simp [content] at found
  | cons char rest =>
      rw [content] at found
      simp only [List.isEmpty_cons, Bool.false_eq_true, ↓reduceIte, splitAt?, List.splitAt_eq,
        Option.bind_eq_bind, Option.pure_def] at found
      cases counted : charsIn? 0 (LineCursor.lineSize (char :: rest)) (char :: rest) with
      | none => simp [counted] at found
      | some count =>
          have positive := (charsIn?_bounds counted).2
            (LineCursor.lineSize_ne_zero (List.cons_ne_nil _ _))
          simp only [counted, Option.map_some, Option.bind_some, Option.some.injEq,
            Prod.mk.injEq] at found
          rw [← found.2]
          simp only [List.length_drop, List.length_cons]
          omega

end PageFilters.Text
