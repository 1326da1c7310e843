import PageFilters.Proofs.FileName
import PageFilters.Text.Blank
import PageFilters.Text.Case

/-!
# Parts of a lower-cased text

The image of a capital sigma depends on the text around it, so a text is not
lower-cased character by character.  But the search for a cased neighbour stops
at every character that it does not pass over.  A character that it neither
passes over nor takes for a letter therefore cuts a text into parts that are
lower-cased on their own.
-/

namespace PageFilters.Text

section Neighbours

theorem startsCased_cons (char : Char) (rest : List Char) :
    startsCased (char :: rest) =
      if isCaseIgnorable char then startsCased rest else isCased char := by
  by_cases ignorable : isCaseIgnorable char = true
  · simp [startsCased, ignorable]
  · simp [startsCased, ignorable]

theorem isCased_sigma : isCased 'Σ' = true := by
  rw [isCased, if_neg (by decide), RangeTable.holds, ← Array.any_toList]
  decide +kernel

/-- A character at which the search for a cased neighbour ends without one. -/
structure SeparatesWords (mark : Char) : Prop where
  stops : isCaseIgnorable mark = false
  uncased : isCased mark = false

variable {mark : Char}

theorem SeparatesWords.startsCased_cons (separates : SeparatesWords mark) (rest : List Char) :
    startsCased (mark :: rest) = false := by
  simp [Text.startsCased_cons, separates.stops, separates.uncased]

theorem SeparatesWords.startsCased_append (separates : SeparatesWords mark)
    (text rest : List Char) : startsCased (text ++ mark :: rest) = startsCased text := by
  induction text with
  | nil => exact separates.startsCased_cons rest
  | cons char text induction =>
      rw [List.cons_append, Text.startsCased_cons, Text.startsCased_cons, induction]

theorem SeparatesWords.lowerAt_eq (separates : SeparatesWords mark) (before after : List Char) :
    lowerAt before mark after = lowerChar mark := by
  have notSigma : mark ≠ 'Σ' := by
    rintro rfl
    exact absurd separates.uncased (by simp [isCased_sigma])
  simp [lowerAt, notSigma]

theorem lowerAt_congr {before otherBefore after otherAfter : List Char}
    (same : startsCased before = startsCased otherBefore)
    (sameAfter : startsCased after = startsCased otherAfter) (char : Char) :
    lowerAt before char after = lowerAt otherBefore char otherAfter := by
  rw [lowerAt, lowerAt, endsWord, endsWord, same, sameAfter]

/-- Of the text before it the images depend only on whether that ends in a cased
character. -/
theorem lowercaseAfter_congr {before other : List Char}
    (same : startsCased before = startsCased other) (text : List Char) :
    lowercaseAfter before text = lowercaseAfter other text := by
  induction text generalizing before other with
  | nil => rfl
  | cons char rest induction =>
      have further : startsCased (char :: before) = startsCased (char :: other) := by
        rw [startsCased_cons, startsCased_cons, same]
      rw [lowercaseAfter, lowercaseAfter, lowerAt_congr same rfl, induction further]

theorem SeparatesWords.lowercaseAfter_append (separates : SeparatesWords mark)
    (before text rest : List Char) :
    lowercaseAfter before (text ++ mark :: rest) =
      lowercaseAfter before text ++ lowerChar mark ++ lowercase rest := by
  induction text generalizing before with
  | nil =>
      -- Behind the mark the search backwards ends as it does at the beginning of a text.
      have apart : startsCased (mark :: before) = startsCased [] :=
        separates.startsCased_cons before
      rw [List.nil_append, lowercaseAfter, lowercaseAfter, separates.lowerAt_eq,
        lowercaseAfter_congr apart]
      rfl
  | cons char text induction =>
      rw [List.cons_append, lowercaseAfter, lowercaseAfter, induction,
        lowerAt_congr rfl (separates.startsCased_append text rest)]
      simp only [List.append_assoc]

/-- The parts before and behind a character that separates words are
lower-cased on their own. -/
theorem SeparatesWords.lowercase_append (separates : SeparatesWords mark)
    (text rest : List Char) :
    lowercase (text ++ mark :: rest) = lowercase text ++ lowerChar mark ++ lowercase rest :=
  separates.lowercaseAfter_append [] text rest

end Neighbours

section Letters

variable {char : Char}

theorem range_of_isAlpha (letter : char.isAlpha = true) :
    0x41 ≤ char.toNat ∧ char.toNat ≤ 0x5A ∨ 0x61 ≤ char.toNat ∧ char.toNat ≤ 0x7A := by
  simpa [Char.isAlpha, Char.isUpper, Char.isLower, UInt32.le_iff_toNat_le] using letter

theorem ascii_of_isAlpha (letter : char.isAlpha = true) : char.toNat < 0x80 := by
  have range := range_of_isAlpha letter
  omega

theorem isCaseIgnorable_of_isAlpha (letter : char.isAlpha = true) :
    isCaseIgnorable char = false := by
  have apart (mark : Char) (noLetter : mark.isAlpha = false) : char ≠ mark := by
    rintro rfl
    rw [noLetter] at letter
    contradiction
  simp [isCaseIgnorable, ascii_of_isAlpha letter, apart]

theorem isCased_of_isAlpha (letter : char.isAlpha = true) : isCased char = true := by
  rw [isCased, if_pos (ascii_of_isAlpha letter), letter]

theorem lowerChar_of_isAlpha (letter : char.isAlpha = true) : lowerChar char = [char.toLower] := by
  rw [lowerChar, if_pos (ascii_of_isAlpha letter)]

theorem isBlank_of_isAlpha (letter : char.isAlpha = true) : isBlank char = false := by
  have range := range_of_isAlpha letter
  have outside : ∀ blanks ∈ blankTable, blanks.2 < 0x41 ∨ 0x7A < blanks.1 := by decide
  rw [← Bool.not_eq_true, isBlank, RangeTable.holds_iff]
  rintro ⟨blanks, listed, atLeast, atMost⟩
  have apart := outside blanks listed
  omega

end Letters

section Recasing

/-- What does not tell the cases of a letter apart does not notice that a
character is put in lower case. -/
theorem alike_toLower {β : Type} {test : Char → β}
    (alike : ∀ char, char.isAlpha = true → test char.toLower = test char) (char : Char) :
    test char.toLower = test char := by
  by_cases upper : char.isUpper = true
  · exact alike char (by simp [Char.isAlpha, upper])
  · rw [Char.toLower_eq_of_not_isUpper upper]

theorem isAlpha_toLower {char : Char} (letter : char.isAlpha = true) :
    char.toLower.isAlpha = true := by
  rw [Char.isAlpha_toLower_eq_isAlpha, letter]

theorem isCaseIgnorable_toLower :
    ∀ char : Char, isCaseIgnorable char.toLower = isCaseIgnorable char :=
  alike_toLower fun char letter => by
    rw [isCaseIgnorable_of_isAlpha letter, isCaseIgnorable_of_isAlpha (isAlpha_toLower letter)]

theorem isCased_toLower : ∀ char : Char, isCased char.toLower = isCased char :=
  alike_toLower fun char letter => by
    rw [isCased_of_isAlpha letter, isCased_of_isAlpha (isAlpha_toLower letter)]

theorem lowerChar_toLower : ∀ char : Char, lowerChar char.toLower = lowerChar char :=
  alike_toLower fun char letter => by
    rw [lowerChar_of_isAlpha letter, lowerChar_of_isAlpha (isAlpha_toLower letter),
      Char.toLower_toLower_eq_toLower]

theorem isBlank_toLower : ∀ char : Char, isBlank char.toLower = isBlank char :=
  alike_toLower fun char letter => by
    rw [isBlank_of_isAlpha letter, isBlank_of_isAlpha (isAlpha_toLower letter)]

theorem startsCased_map_toLower (text : List Char) :
    startsCased (text.map Char.toLower) = startsCased text := by
  induction text with
  | nil => rfl
  | cons char text induction =>
      rw [List.map_cons, startsCased_cons, startsCased_cons, isCaseIgnorable_toLower,
        isCased_toLower, induction]

theorem lowerAt_map_toLower (before : List Char) (char : Char) (after : List Char) :
    lowerAt (before.map Char.toLower) char.toLower (after.map Char.toLower) =
      lowerAt before char after := by
  have sigma : (char.toLower == 'Σ') = (char == 'Σ') := by
    rw [Bool.eq_iff_iff, beq_iff_eq, beq_iff_eq, FileName.char_toLower_eq_iff rfl]
  rw [lowerAt, lowerAt, endsWord, endsWord, sigma, startsCased_map_toLower,
    startsCased_map_toLower, lowerChar_toLower]

theorem lowercaseAfter_map_toLower (before text : List Char) :
    lowercaseAfter (before.map Char.toLower) (text.map Char.toLower) =
      lowercaseAfter before text := by
  induction text generalizing before with
  | nil => rfl
  | cons char rest induction =>
      rw [List.map_cons, lowercaseAfter, lowercaseAfter, lowerAt_map_toLower, ← List.map_cons,
        induction]

/-- The case of ASCII letters is not seen in the lower-case form. -/
theorem lowercase_map_toLower (text : List Char) :
    lowercase (text.map Char.toLower) = lowercase text :=
  lowercaseAfter_map_toLower [] text

end Recasing

section Signs

/-- Whether a character is one of the printable signs and digits in front of
the ASCII letters. -/
def IsSign (mark : Char) : Prop :=
  0x20 ≤ mark.toNat ∧ mark.toNat < 0x41

instance (mark : Char) : Decidable (IsSign mark) :=
  inferInstanceAs (Decidable (_ ∧ _))

theorem lowerRuns_images : ∀ run ∈ lowerRuns.toList, 0x41 ≤ run.image := by
  decide +kernel

theorem le_of_caseImage? {point image : Nat} (found : caseImage? lowerRuns point = some image) :
    0x41 ≤ image := by
  obtain ⟨run, listed, holds⟩ := Array.exists_of_findSome?_eq_some found
  exact (lowerRuns_images run listed.val).trans (CaseRun.image_le holds)

theorem not_isSign_ofNat {point : Nat} (above : 0x41 ≤ point) : ¬ IsSign (Char.ofNat point) := by
  rintro ⟨atLeast, below⟩
  rw [Char.toNat_ofNat] at atLeast below
  split at below
  · omega
  next invalid =>
    rw [if_neg invalid] at atLeast
    contradiction

variable {char mark : Char}

theorem IsSign.isAlpha_eq (sign : IsSign mark) : mark.isAlpha = false := by
  rw [← Bool.not_eq_true]
  intro letter
  have range := range_of_isAlpha letter
  have below := sign.2
  omega

theorem IsSign.ascii (sign : IsSign mark) : mark.toNat < 0x80 :=
  sign.2.trans (by decide)

theorem not_isSign_of_mem_lowerChar (foreign : ¬ char.toNat < 0x80)
    (member : mark ∈ lowerChar char) : ¬ IsSign mark := by
  rw [lowerChar, if_neg foreign] at member
  split at member
  · rcases List.mem_pair.mp member with rfl | rfl
    all_goals decide
  · rw [List.mem_singleton] at member
    rw [member]
    cases found : caseImage? lowerRuns char.toNat with
    | none => exact fun sign => foreign sign.ascii
    | some image => exact not_isSign_ofNat (le_of_caseImage? found)

theorem not_isSign_of_mem_lowerAt (foreign : ¬ char.toNat < 0x80) {before after : List Char}
    (member : mark ∈ lowerAt before char after) : ¬ IsSign mark := by
  unfold lowerAt at member
  split at member
  · rw [List.mem_singleton] at member
    rw [member]
    split
    all_goals decide
  · exact not_isSign_of_mem_lowerChar foreign member

theorem lowerAt_of_ascii (ascii : char.toNat < 0x80) (before after : List Char) :
    lowerAt before char after = [char.toLower] := by
  have notSigma : char ≠ 'Σ' := by
    rintro rfl
    exact absurd ascii (by decide)
  rw [lowerAt, if_neg (by simpa using notSigma), lowerChar, if_pos ascii]

/-- No character but itself has a sign in its lower-case image. -/
theorem mem_lowerAt_iff (sign : IsSign mark) (before : List Char) (char : Char)
    (after : List Char) : mark ∈ lowerAt before char after ↔ char = mark := by
  by_cases ascii : char.toNat < 0x80
  · rw [lowerAt_of_ascii ascii, List.mem_singleton, eq_comm,
      FileName.char_toLower_eq_iff sign.isAlpha_eq]
  · refine iff_of_false (fun member => not_isSign_of_mem_lowerAt ascii member sign) ?_
    rintro rfl
    exact ascii sign.ascii

theorem lowerAt_ne_nil (before : List Char) (char : Char) (after : List Char) :
    lowerAt before char after ≠ [] := by
  unfold lowerAt lowerChar
  split_ifs
  all_goals exact List.cons_ne_nil _ _

theorem head?_of_head?_lowercase (sign : IsSign mark) {text : List Char}
    (begins : (lowercase text).head? = some mark) : text.head? = some mark := by
  cases text with
  | nil => contradiction
  | cons char rest =>
      rw [lowercase, lowercaseAfter,
        List.head?_append_of_ne_nil _ (lowerAt_ne_nil [] char rest)] at begins
      rw [(mem_lowerAt_iff sign [] char rest).mp (List.mem_of_head? begins)]
      rfl

theorem getLast?_of_getLast?_lowercaseAfter (sign : IsSign mark) {before text : List Char}
    (ends : (lowercaseAfter before text).getLast? = some mark) : text.getLast? = some mark := by
  induction text generalizing before with
  | nil => contradiction
  | cons char rest induction =>
      cases rest with
      | nil =>
          rw [lowercaseAfter, lowercaseAfter, List.append_nil] at ends
          rw [(mem_lowerAt_iff sign before char []).mp (List.mem_of_getLast? ends)]
          rfl
      | cons next rest =>
          have nonempty : lowercaseAfter (char :: before) (next :: rest) ≠ [] := by
            rw [lowercaseAfter]
            exact List.append_ne_nil_of_left_ne_nil (lowerAt_ne_nil _ _ _) _
          rw [lowercaseAfter, List.getLast?_append_of_ne_nil _ nonempty] at ends
          rw [List.getLast?_cons_cons]
          exact induction ends

theorem getLast?_of_getLast?_lowercase (sign : IsSign mark) {text : List Char}
    (ends : (lowercase text).getLast? = some mark) : text.getLast? = some mark :=
  getLast?_of_getLast?_lowercaseAfter sign ends

end Signs

end PageFilters.Text
