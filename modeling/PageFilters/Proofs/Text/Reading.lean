/-!
# Texts read off the front

A text that shows where it ends can be read off the front of any other.  Then a
list of such texts is told from all joined together, with or without a
separator.
-/

namespace PageFilters.Text

/-- Whatever stands behind what has been written, it can be read off again. -/
def ReadsOff {α : Type} (write : α → List Char) : Prop :=
  ∀ left right rest other, write left ++ rest = write right ++ other →
    left = right ∧ rest = other

variable {α β : Type} {write : α → List Char}

theorem ReadsOff.of_end {content : α → List Char} {stop : Char}
    (absent : ∀ value, stop ∉ content value)
    (injective : ∀ left right, content left = content right → left = right) :
    ReadsOff fun value => content value ++ [stop] := by
  intro left right rest other same
  simp only [List.append_assoc, List.singleton_append] at same
  have first : ∀ value behind, ((content value ++ stop :: behind).splitOn stop).head? =
      some (content value) := by
    intro value behind
    rw [List.splitOn, List.splitOnP_append_cons_of_forall_mem]
    · rfl
    · intro char member
      apply beq_false_of_ne
      rintro rfl
      exact absent value member
    · exact beq_self_eq_true stop
  have sameContent : content left = content right := by
    have cut := first left rest
    rw [same, first] at cut
    exact (Option.some.inj cut).symm
  rw [sameContent] at same
  exact ⟨injective left right sameContent, (List.cons.inj (List.append_cancel_left same)).2⟩

theorem ReadsOff.behind (readsOff : ReadsOff write) (front : List Char) :
    ReadsOff fun value => front ++ write value := by
  intro left right rest other same
  simp only [List.append_assoc, List.append_cancel_left_eq] at same
  exact readsOff left right rest other same

theorem ReadsOff.before (readsOff : ReadsOff write) (back : List Char) :
    ReadsOff fun value => write value ++ back := by
  intro left right rest other same
  simp only [List.append_assoc] at same
  obtain ⟨sameValue, sameRest⟩ := readsOff left right _ _ same
  exact ⟨sameValue, List.append_cancel_left sameRest⟩

theorem ReadsOff.pair {writeNext : β → List Char} (readsOff : ReadsOff write)
    (nextReadsOff : ReadsOff writeNext) :
    ReadsOff fun values : α × β => write values.1 ++ writeNext values.2 := by
  intro left right rest other same
  simp only [List.append_assoc] at same
  obtain ⟨sameFirst, sameBehind⟩ := readsOff _ _ _ _ same
  obtain ⟨sameSecond, sameRest⟩ := nextReadsOff _ _ _ _ sameBehind
  exact ⟨Prod.ext sameFirst sameSecond, sameRest⟩

theorem ReadsOff.flatMap_injective (readsOff : ReadsOff write)
    (nonempty : ∀ value, write value ≠ []) {left right : List α}
    (same : left.flatMap write = right.flatMap write) : left = right := by
  induction left generalizing right with
  | nil =>
      cases right with
      | nil => rfl
      | cons value right => simp [nonempty value] at same
  | cons value left induction =>
      cases right with
      | nil => simp [nonempty value] at same
      | cons other right =>
          obtain ⟨sameValue, sameRest⟩ := readsOff value other _ _ same
          rw [sameValue, induction sameRest]

theorem toList_intercalate_cons (separator first : String) (texts : List String) :
    (separator.intercalate (first :: texts)).toList =
      first.toList ++ texts.flatMap fun text => separator.toList ++ text.toList := by
  induction texts generalizing first with
  | nil => simp
  | cons text texts induction =>
      rw [String.intercalate_cons_cons, String.toList_append, String.toList_append, induction,
        List.flatMap_cons]
      simp only [List.append_assoc]

theorem ReadsOff.intercalate_injective {text : α → String}
    (readsOff : ReadsOff fun value => (text value).toList) (nonempty : ∀ value, text value ≠ "")
    (separator : String) {left right : List α}
    (same : separator.intercalate (left.map text) = separator.intercalate (right.map text)) :
    left = right := by
  have begun : ∀ value values, separator.intercalate ((value :: values).map text) ≠ "" := by
    intro value values blank
    have split := congrArg String.toList blank
    rw [List.map_cons, toList_intercalate_cons] at split
    simp [nonempty value] at split
  cases left with
  | nil =>
      cases right with
      | nil => rfl
      | cons value right => exact absurd same.symm (begun value right)
  | cons value left =>
      cases right with
      | nil => exact absurd same (begun value left)
      | cons other right =>
          have sameText := congrArg String.toList same
          rw [List.map_cons, List.map_cons, toList_intercalate_cons, toList_intercalate_cons,
            List.flatMap_map, List.flatMap_map] at sameText
          obtain ⟨sameValue, sameRest⟩ := readsOff value other _ _ sameText
          have sameOthers : left = right := by
            apply (readsOff.behind separator.toList).flatMap_injective _ sameRest
            intro next
            simp [nonempty next]
          rw [sameValue, sameOthers]

end PageFilters.Text
