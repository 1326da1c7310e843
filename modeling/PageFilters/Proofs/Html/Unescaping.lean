import PageFilters.Proofs.Highlight.Fallback
import PageFilters.Proofs.Html.Entities
import PageFilters.Proofs.Text.Replacement

/-!
# Unescaping in passes

Instead of decoding an escaped text from left to right one can replace the
entities of one character in the whole text, then those of the next.  A pass
finds just the entities that escaping has written as long as the ampersand is
still escaped: then an ampersand stands only at the beginning of an entity, and
no two entities begin alike.  So the ampersand has to come last.
-/

namespace PageFilters.Html

/-- Replaces all entities of one character after the other. -/
def unescape (html : String) : String :=
  ((((html.replace "&lt;" "<").replace "&gt;" ">").replace "&quot;" "\"").replace "&#39;"
    "'").replace "&amp;" "&"

/-- A character as it stands in a text in which only some characters are still
escaped. -/
def escapeOnly (escaped : List Char) (char : Char) : List Char :=
  if char ∈ escaped then escapeChar char else [char]

section Pass

variable {escaped : List Char} {char source : Char} {entity : String}

theorem escapeOnly_cases (ampersand : '&' ∈ escaped) (char : Char) :
    escapeOnly escaped char = [char] ∧ char ≠ '&' ∨
      char ∈ escaped ∧ ∃ entity, entity? char = some entity ∧
        escapeOnly escaped char = entity.toList := by
  by_cases listed : char ∈ escaped
  · rw [escapeOnly, if_pos listed]
    cases found : entity? char with
    | some entity => exact .inr ⟨listed, entity, rfl, escapeChar_of_entity? found⟩
    | none =>
        have bare := isMarkup_of_entity?_eq_none found
        refine .inl ⟨escapeChar_of_bare bare, ?_⟩
        rintro rfl
        contradiction
  · rw [escapeOnly, if_neg listed]
    exact .inl ⟨rfl, fun same => listed (same ▸ ampersand)⟩

theorem eq_ampersand_of_begins (found : entity? source = some entity) {rest : List Char}
    (begins : entity.toList <+: char :: rest) : char = '&' := by
  obtain ⟨body, parts, -⟩ := exists_entity_eq_cons found
  rw [parts] at begins
  exact (List.cons_prefix_cons.mp begins).1.symm

theorem eq_of_begins {other : Char} {otherEntity : String} (found : entity? source = some entity)
    (otherFound : entity? other = some otherEntity) {rest : List Char}
    (begins : entity.toList <+: otherEntity.toList ++ rest) : source = other := by
  obtain ⟨later, together⟩ := begins
  have taken := takeEntity?_of_entity? found later
  rw [together, takeEntity?_of_entity? otherFound] at taken
  exact (Prod.mk.inj (Option.some.inj taken)).1.symm

/-- As long as the ampersand is escaped, the entity of a character begins only
where that character is escaped. -/
theorem not_begins_escapeOnly (ampersand : '&' ∈ escaped) (found : entity? source = some entity)
    (other : char ∈ escaped → char ≠ source) {front back : List Char}
    (parts : escapeOnly escaped char = front ++ back) (nonempty : back ≠ []) (rest : List Char) :
    ¬ entity.toList <+: back ++ rest := by
  intro begins
  obtain ⟨first, behind, rfl⟩ := List.exists_cons_of_ne_nil nonempty
  have isAmpersand := eq_ampersand_of_begins found begins
  rcases escapeOnly_cases ampersand char with ⟨bare, notAmpersand⟩ | ⟨listed, _, written, whole⟩
  · have member : first ∈ [char] := by simp [← bare, parts]
    exact notAmpersand ((List.mem_singleton.mp member).symm.trans isAmpersand)
  · rw [whole] at parts
    cases front with
    | nil =>
        rw [← List.nil_append (first :: behind), ← parts] at begins
        exact other listed (eq_of_begins found written begins).symm
    | cons lead front =>
        -- Behind its first character an entity has no ampersand.
        obtain ⟨body, wholeParts, bodyBare⟩ := exists_entity_eq_cons written
        rw [wholeParts] at parts
        have member : first ∈ body := by simp [(List.cons.inj parts).2]
        have contrary := bodyBare first member
        rw [isAmpersand] at contrary
        contradiction

theorem escapeOnly_filter (other : char ∈ escaped → char ≠ source) :
    escapeOnly (escaped.filter (· ≠ source)) char = escapeOnly escaped char := by
  by_cases listed : char ∈ escaped
  · simp [escapeOnly, listed, other listed]
  · simp [escapeOnly, listed]

theorem replaced_pass (ampersand : '&' ∈ escaped) (found : entity? source = some entity)
    (text : List Char) :
    Text.Replaced entity.toList [source] (text.flatMap (escapeOnly escaped))
      (text.flatMap (escapeOnly (escaped.filter (· ≠ source)))) := by
  induction text with
  | nil => exact .nil
  | cons char text induction =>
      rw [List.flatMap_cons, List.flatMap_cons]
      by_cases written : char ∈ escaped ∧ char = source
      · obtain ⟨listed, rfl⟩ := written
        have before : escapeOnly escaped char = entity.toList := by
          rw [escapeOnly, if_pos listed, escapeChar_of_entity? found]
        have behind : escapeOnly (escaped.filter (· ≠ char)) char = [char] := by
          simp [escapeOnly]
        rw [before, behind]
        exact .found induction
      · have other : char ∈ escaped → char ≠ source := fun listed same => written ⟨listed, same⟩
        rw [escapeOnly_filter other]
        exact induction.keptAll fun front back parts nonempty =>
          not_begins_escapeOnly ampersand found other parts nonempty _

end Pass

/-- A pass takes the escaping of one character back. -/
theorem replace_pass (escaped : List Char) (ampersand : '&' ∈ escaped) {source : Char}
    {entity replacement : String} (found : entity? source = some entity)
    (stands : replacement.toList = [source]) (text : List Char) :
    (String.ofList (text.flatMap (escapeOnly escaped))).replace entity replacement =
      String.ofList (text.flatMap (escapeOnly (escaped.filter (· ≠ source)))) := by
  have nonempty : entity ≠ "" := by
    rintro rfl
    obtain ⟨body, parts, -⟩ := exists_entity_eq_cons found
    contradiction
  apply Text.Replaced.replace_eq nonempty
  rw [stands, String.toList_ofList, String.toList_ofList]
  exact replaced_pass ampersand found text

theorem escapeOnly_markup : escapeOnly ['&', '<', '>', '\x22', '\x27'] = escapeChar := by
  funext char
  by_cases listed : char ∈ ['&', '<', '>', '\x22', '\x27']
  · rw [escapeOnly, if_pos listed]
  · have bare : isMarkup char = false := by
      rw [← Bool.not_eq_true, isMarkup_iff, ← List.mem_cons]
      exact listed
    rw [escapeOnly, if_neg listed, escapeChar_of_bare bare]

theorem escapeOnly_nil : escapeOnly [] = fun char => [char] := by
  funext char
  simp [escapeOnly]

theorem unescape_escape (text : String) : unescape (escape text) = text := by
  let stage (escaped : List Char) := String.ofList (text.toList.flatMap (escapeOnly escaped))
  have start : escape text = stage ['&', '<', '>', '\x22', '\x27'] := by
    simp only [stage, escapeOnly_markup, ← toList_escape, String.ofList_toList]
  have less : (stage ['&', '<', '>', '\x22', '\x27']).replace "&lt;" "<" =
      stage ['&', '>', '\x22', '\x27'] :=
    replace_pass _ List.mem_cons_self (rfl : entity? '<' = _) rfl text.toList
  have greater : (stage ['&', '>', '\x22', '\x27']).replace "&gt;" ">" =
      stage ['&', '\x22', '\x27'] :=
    replace_pass _ List.mem_cons_self (rfl : entity? '>' = _) rfl text.toList
  have quote : (stage ['&', '\x22', '\x27']).replace "&quot;" "\"" = stage ['&', '\x27'] :=
    replace_pass _ List.mem_cons_self (rfl : entity? '\x22' = _) rfl text.toList
  have apostrophe : (stage ['&', '\x27']).replace "&#39;" "'" = stage ['&'] :=
    replace_pass _ List.mem_cons_self (rfl : entity? '\x27' = _) rfl text.toList
  have ampersand : (stage ['&']).replace "&amp;" "&" = stage [] :=
    replace_pass _ List.mem_cons_self (rfl : entity? '&' = _) rfl text.toList
  have finish : stage [] = text := by
    simp [stage, escapeOnly_nil]
  rw [unescape, start, less, greater, quote, apostrophe, ampersand, finish]

/-- Plain text is recovered from its fragment by replacing the entities in
passes, the ampersand's last. -/
theorem unescape_render_plain (classPrefix text : String) :
    unescape (render classPrefix (Tokenizer.plain.tokenize text).tokens) = text := by
  rw [render_plain, unescape_escape]

end PageFilters.Html
