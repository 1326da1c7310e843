/-!
# Replacing in a text

`String.replace` searches a text from left to right.  Where it finds the pattern
it writes the replacement and goes on behind the occurrence; a character at
which the pattern does not begin stays.
-/

namespace PageFilters.Text

open String.Slice.Pattern

/-- `Replaced pattern replacement text result`: the second text is the first
with the occurrences of the pattern replaced from left to right. -/
inductive Replaced (pattern replacement : List Char) : List Char → List Char → Prop where
  | nil : Replaced pattern replacement [] []
  | found {rest result : List Char} :
      Replaced pattern replacement rest result →
      Replaced pattern replacement (pattern ++ rest) (replacement ++ result)
  | kept {char : Char} {rest result : List Char} :
      ¬ pattern <+: char :: rest →
      Replaced pattern replacement rest result →
      Replaced pattern replacement (char :: rest) (char :: result)

theorem Replaced.keptAll {pattern replacement stretch rest result : List Char}
    (unfound : ∀ front back, stretch = front ++ back → back ≠ [] → ¬ pattern <+: back ++ rest)
    (replaced : Replaced pattern replacement rest result) :
    Replaced pattern replacement (stretch ++ rest) (stretch ++ result) := by
  induction stretch with
  | nil => exact replaced
  | cons char stretch induction =>
      have first := unfound [] (char :: stretch) rfl (List.cons_ne_nil _ _)
      refine .kept first (induction fun front back parts nonempty => ?_)
      exact unfound (char :: front) back (congrArg (char :: ·) parts) nonempty

/-- What a step of the search adds to what has been written. -/
def writeStep (replacement : String) {text : String.Slice} (written : String) :
    SearchStep text → String
  | .matched _ _ => written ++ replacement.toSlice
  | .rejected start stop => written ++ text.slice! start stop

theorem replace_eq_foldl (text pattern replacement : String) :
    text.replace pattern replacement =
      (ToForwardSearcher.toSearcher pattern text.toSlice).toList.foldl
        (writeStep replacement) "" := by
  rw [Std.Iter.foldl_toList]
  unfold String.replace String.Slice.replace
  congr 1
  funext written step
  cases step with
  | matched => rfl
  | rejected => rfl

section Search

variable {text : String.Slice} {start stop : text.Pos} {pattern : String}

theorem exists_stretch (ordered : start < stop) :
    ∃ stretch : String, (text.slice! start stop).copy = stretch ∧
      (text.sliceTo stop).copy = (text.sliceTo start).copy ++ stretch ∧
      (text.sliceFrom start).copy = stretch ++ (text.sliceFrom stop).copy := by
  obtain ⟨stretch, -, before, behind⟩ :=
    (start.splits.lt_iff_exists_eq_append stop.splits).mp ordered
  refine ⟨stretch, ?_, before, behind⟩
  obtain ⟨_, copied⟩ := String.Slice.copy_slice_eq_iff_splits.mpr
    ⟨_, _, behind ▸ start.splits, before ▸ stop.splits⟩
  rw [← String.Slice.slice_eq_slice!]
  exact copied

/-- The pattern begins nowhere in a stretch that the search passes over. -/
theorem not_begins_of_unfound {stretch : String} {front back : List Char}
    (unfound : ∀ pos, start ≤ pos → pos < stop → ¬ Model.MatchesAt pattern pos)
    (before : (text.sliceTo stop).copy = (text.sliceTo start).copy ++ stretch)
    (behind : (text.sliceFrom start).copy = stretch ++ (text.sliceFrom stop).copy)
    (parts : stretch.toList = front ++ back) (nonempty : back ≠ []) :
    ¬ pattern.toList <+: back ++ (text.sliceFrom stop).copy.toList := by
  rintro ⟨later, begins⟩
  have stretchParts : stretch = String.ofList front ++ String.ofList back := by
    rw [← String.ofList_append, ← parts, String.ofList_toList]
  have whole : text.copy = ((text.sliceTo start).copy ++ String.ofList front) ++
      (String.ofList back ++ (text.sliceFrom stop).copy) := by
    rw [start.splits.eq_append, behind, stretchParts, String.append_assoc, String.append_assoc]
  have splits := String.Slice.Pos.splits_ofEqAppend whole
  refine unfound (.ofEqAppend whole) ?_ ?_ ?_
  · refine (start.splits.le_iff_exists_eq_append splits).mpr ⟨_, rfl, ?_⟩
    rw [behind, stretchParts, String.append_assoc]
  · refine (splits.lt_iff_exists_eq_append stop.splits).mpr ⟨String.ofList back, ?_, ?_, rfl⟩
    · simpa using nonempty
    · rw [before, stretchParts, String.append_assoc]
  · have same : String.ofList back ++ (text.sliceFrom stop).copy =
        pattern ++ String.ofList later :=
      String.toList_inj.mp (by simp [begins])
    exact Model.ForwardStringSearcher.matchesAt_iff_splits.mpr ⟨_, _, splits.of_eq rfl same⟩

theorem replaced_of_isValidSearchFrom (replacement : String) {steps : List (SearchStep text)}
    (valid : Model.IsValidSearchFrom pattern start steps) (written : String) :
    ∃ result : String, steps.foldl (writeStep replacement) written = written ++ result ∧
      Replaced pattern.toList replacement.toList (text.sliceFrom start).copy.toList
        result.toList := by
  induction valid generalizing written with
  | endPos =>
      refine ⟨"", by simp, ?_⟩
      have nothing : (text.sliceFrom text.endPos).copy = "" :=
        (String.Slice.splits_endPos_iff.mp text.endPos.splits).2
      rw [nothing]
      exact .nil
  | matched found valid induction =>
      obtain ⟨before, behind, first, last⟩ :=
        Model.ForwardStringSearcher.isLongestMatchAt_iff_splits.mp found
      obtain ⟨result, folded, replaced⟩ := induction (written ++ replacement)
      refine ⟨replacement ++ result, ?_, ?_⟩
      · rw [List.foldl_cons, writeStep, String.appendSlice_eq, String.copy_toSlice, folded,
          String.append_assoc]
      · rw [last.copy_sliceFrom_eq] at replaced
        rw [first.copy_sliceFrom_eq, String.toList_append, String.toList_append]
        exact .found replaced
  | mismatched ordered unfound valid induction =>
      obtain ⟨stretch, copied, before, behind⟩ := exists_stretch ordered
      obtain ⟨result, folded, replaced⟩ := induction (written ++ stretch)
      refine ⟨stretch ++ result, ?_, ?_⟩
      · rw [List.foldl_cons, writeStep, String.appendSlice_eq, copied, folded,
          String.append_assoc]
      · rw [behind, String.toList_append, String.toList_append]
        exact replaced.keptAll fun front back => not_begins_of_unfound unfound before behind

end Search

theorem replaced_replace {pattern : String} (nonempty : pattern ≠ "") (replacement text : String) :
    Replaced pattern.toList replacement.toList text.toList
      (text.replace pattern replacement).toList := by
  have lawful := Model.ForwardStringSearcher.lawfulToForwardSearcherModel nonempty
  have valid := lawful.isValidSearchFrom_toList text.toSlice
  obtain ⟨result, written, replaced⟩ := replaced_of_isValidSearchFrom replacement valid ""
  rw [replace_eq_foldl, written]
  simpa using replaced

section Unique

variable {pattern replacement rest result : List Char}

theorem Replaced.eq_nil (nonempty : pattern ≠ [])
    (replaced : Replaced pattern replacement [] result) : result = [] := by
  generalize same : [] = text at replaced
  cases replaced with
  | nil => rfl
  | found => exact absurd (List.append_eq_nil_iff.mp same.symm).1 nonempty
  | kept => cases same

theorem Replaced.of_found (nonempty : pattern ≠ [])
    (replaced : Replaced pattern replacement (pattern ++ rest) result) :
    ∃ later, result = replacement ++ later ∧ Replaced pattern replacement rest later := by
  generalize same : pattern ++ rest = text at replaced
  cases replaced with
  | nil => exact absurd (List.append_eq_nil_iff.mp same).1 nonempty
  | found replaced =>
      rw [List.append_cancel_left same]
      exact ⟨_, rfl, replaced⟩
  | kept unfound => exact absurd ⟨rest, same⟩ unfound

theorem Replaced.of_kept {char : Char} (unfound : ¬ pattern <+: char :: rest)
    (replaced : Replaced pattern replacement (char :: rest) result) :
    ∃ later, result = char :: later ∧ Replaced pattern replacement rest later := by
  generalize same : char :: rest = text at replaced
  cases replaced with
  | nil => cases same
  | found => exact absurd ⟨_, same.symm⟩ unfound
  | kept _ replaced =>
      obtain ⟨rfl, rfl⟩ := List.cons.inj same
      exact ⟨_, rfl, replaced⟩

theorem Replaced.unique {text other : List Char} (nonempty : pattern ≠ [])
    (replaced : Replaced pattern replacement text result)
    (again : Replaced pattern replacement text other) : result = other := by
  induction replaced generalizing other with
  | nil => exact (again.eq_nil nonempty).symm
  | found _ induction =>
      obtain ⟨later, rfl, behind⟩ := again.of_found nonempty
      rw [induction behind]
  | kept unfound _ induction =>
      obtain ⟨later, rfl, behind⟩ := again.of_kept unfound
      rw [induction behind]

end Unique

theorem Replaced.replace_eq {pattern replacement text result : String} (nonempty : pattern ≠ "")
    (replaced : Replaced pattern.toList replacement.toList text.toList result.toList) :
    text.replace pattern replacement = result := by
  have someChar : pattern.toList ≠ [] := by simpa using nonempty
  exact String.toList_inj.mp ((replaced_replace nonempty replacement text).unique someChar replaced)

end PageFilters.Text
