import PageFilters.Proofs.Html.Reading

/-!
# The language of escaped texts

Of the characters that mean something in HTML an escaped text has only the
ampersand, and every ampersand in it begins an entity.  A text of this kind is
the escaped form of exactly one text, which is found by decoding its entities
from left to right.  So escaping and decoding are inverse to each other, and
escaping respects the parts of a text.
-/

namespace PageFilters.Html

def entities : List String :=
  ["&amp;", "&lt;", "&gt;", "&quot;", "&#39;"]

/-- Whether markup stands in a text only as entities. -/
structure IsEscaped (html : List Char) : Prop where
  /-- None of the other four characters stands there as it is. -/
  bare : ∀ char ∈ ['<', '>', '\x22', '\x27'], char ∉ html
  /-- Every ampersand begins an entity. -/
  begins : ∀ before behind, html = before ++ '&' :: behind →
    ∃ entity ∈ entities, entity.toList <+: '&' :: behind

/-- The characters of a text from left to right, with entities decoded. -/
def decodeFrom (text : List Char) : List Char :=
  match text with
  | [] => []
  | char :: rest =>
      match _found : takeEntity? (char :: rest) with
      | some (decoded, behind) => decoded :: decodeFrom behind
      | none => char :: decodeFrom rest
termination_by text.length
decreasing_by
  · exact length_takeEntity?_lt _found
  · exact Nat.lt_succ_self _

def decode (html : String) : String :=
  String.ofList (decodeFrom html.toList)

section Entity

variable {char : Char} {entity : String}

theorem entity?_eq_some_iff :
    entity? char = some entity ↔
      char = '&' ∧ entity = "&amp;" ∨ char = '<' ∧ entity = "&lt;" ∨
        char = '>' ∧ entity = "&gt;" ∨ char = '\x22' ∧ entity = "&quot;" ∨
          char = '\x27' ∧ entity = "&#39;" := by
  constructor
  · intro found
    unfold entity? at found
    split at found
    all_goals
      first
      | contradiction
      | cases found; simp
  · rintro (⟨rfl, rfl⟩ | ⟨rfl, rfl⟩ | ⟨rfl, rfl⟩ | ⟨rfl, rfl⟩ | ⟨rfl, rfl⟩) <;> rfl

theorem mem_entities_iff : entity ∈ entities ↔ ∃ char, entity? char = some entity := by
  simp [entities, entity?_eq_some_iff, exists_or]

theorem isMarkup_iff : isMarkup char ↔ char = '&' ∨ char ∈ ['<', '>', '\x22', '\x27'] := by
  simp [isMarkup, or_assoc]

theorem exists_entity_eq_cons (found : entity? char = some entity) :
    ∃ body, entity.toList = '&' :: body ∧ ∀ other ∈ body, isMarkup other = false := by
  refine ⟨entity.toList.tail, ?_⟩
  rcases entity?_eq_some_iff.mp found with ⟨-, rfl⟩ | ⟨-, rfl⟩ | ⟨-, rfl⟩ | ⟨-, rfl⟩ | ⟨-, rfl⟩
  all_goals exact ⟨rfl, by simp [isMarkup]⟩

theorem takeEntity?_of_entity? (found : entity? char = some entity) (rest : List Char) :
    takeEntity? (entity.toList ++ rest) = some (char, rest) := by
  rcases entity?_eq_some_iff.mp found with
    ⟨rfl, rfl⟩ | ⟨rfl, rfl⟩ | ⟨rfl, rfl⟩ | ⟨rfl, rfl⟩ | ⟨rfl, rfl⟩
  all_goals rfl

theorem exists_entity_of_takeEntity? {text rest : List Char}
    (taken : takeEntity? text = some (char, rest)) :
    ∃ entity, entity? char = some entity ∧ text = entity.toList ++ rest := by
  unfold takeEntity? at taken
  split at taken
  all_goals
    first
    | contradiction
    | cases taken; exact ⟨_, rfl, rfl⟩

theorem escapeChar_of_entity? (found : entity? char = some entity) :
    escapeChar char = entity.toList := by
  rw [escapeChar, found]

theorem escapeChar_of_bare (bare : isMarkup char = false) : escapeChar char = [char] := by
  unfold escapeChar
  split
  next entity found =>
      rcases entity?_eq_some_iff.mp found with
        ⟨rfl, -⟩ | ⟨rfl, -⟩ | ⟨rfl, -⟩ | ⟨rfl, -⟩ | ⟨rfl, -⟩
      all_goals contradiction
  next => rfl

theorem takeEntity?_of_bare (bare : isMarkup char = false) (rest : List Char) :
    takeEntity? (char :: rest) = none := by
  apply Option.eq_none_iff_forall_ne_some.mpr
  rintro ⟨source, behind⟩ taken
  obtain ⟨entity, written, parts⟩ := exists_entity_of_takeEntity? taken
  obtain ⟨body, begins, -⟩ := exists_entity_eq_cons written
  rw [begins] at parts
  obtain ⟨rfl, -⟩ := List.cons.inj parts
  contradiction

end Entity

section Language

variable {char : Char} {text rest : List Char}

theorem isEscaped_nil : IsEscaped [] where
  bare := by simp
  begins := by simp

theorem IsEscaped.behind {front back : List Char} (escaped : IsEscaped (front ++ back)) :
    IsEscaped back where
  bare char markup member := escaped.bare char markup (List.mem_append_right front member)
  begins before behind parts :=
    escaped.begins (front ++ before) behind (by rw [parts, List.append_assoc])

theorem IsEscaped.cons (bare : char ∉ ['<', '>', '\x22', '\x27'])
    (begins : char = '&' → ∃ entity ∈ entities, entity.toList <+: char :: rest)
    (escaped : IsEscaped rest) : IsEscaped (char :: rest) where
  bare other markup member := by
    rcases List.mem_cons.mp member with rfl | later
    · exact bare markup
    · exact escaped.bare other markup later
  begins before behind parts := by
    cases before with
    | nil =>
        obtain ⟨rfl, rfl⟩ := List.cons.inj parts
        exact begins rfl
    | cons first before => exact escaped.begins before behind (List.cons.inj parts).2

theorem IsEscaped.append {stretch : List Char} (bare : ∀ char ∈ stretch, isMarkup char = false)
    (escaped : IsEscaped rest) : IsEscaped (stretch ++ rest) := by
  induction stretch with
  | nil => exact escaped
  | cons char stretch induction =>
      have notMarkup : ¬ isMarkup char := by simp [bare char List.mem_cons_self]
      rw [isMarkup_iff, not_or] at notMarkup
      have others := induction fun other member => bare other (List.mem_cons_of_mem _ member)
      exact .cons notMarkup.2 (fun ampersand => absurd ampersand notMarkup.1) others

theorem IsEscaped.entity {entity : String} (found : entity? char = some entity)
    (escaped : IsEscaped rest) : IsEscaped (entity.toList ++ rest) := by
  obtain ⟨body, parts, bare⟩ := exists_entity_eq_cons found
  have listed : entity ∈ entities := mem_entities_iff.mpr ⟨char, found⟩
  have begins : entity.toList <+: '&' :: (body ++ rest) := ⟨rest, by rw [parts, List.cons_append]⟩
  rw [parts, List.cons_append]
  exact .cons (by decide) (fun _ => ⟨entity, listed, begins⟩) (escaped.append bare)

theorem isEscaped_flatMap (text : List Char) : IsEscaped (text.flatMap escapeChar) := by
  induction text with
  | nil => exact isEscaped_nil
  | cons char text induction =>
      rw [List.flatMap_cons]
      cases found : entity? char with
      | some entity =>
          rw [escapeChar_of_entity? found]
          exact induction.entity found
      | none =>
          have bare := isMarkup_of_entity?_eq_none found
          rw [escapeChar_of_bare bare]
          exact induction.append (by simpa using bare)

/-- A character at which no entity is read stands for itself. -/
theorem IsEscaped.bare_of_takeEntity? (escaped : IsEscaped (char :: rest))
    (untaken : takeEntity? (char :: rest) = none) : isMarkup char = false := by
  rw [← Bool.not_eq_true, isMarkup_iff]
  rintro (rfl | markup)
  · obtain ⟨entity, listed, later, begins⟩ := escaped.begins [] rest rfl
    obtain ⟨source, found⟩ := mem_entities_iff.mp listed
    rw [← begins, takeEntity?_of_entity? found] at untaken
    contradiction
  · exact escaped.bare char markup List.mem_cons_self

theorem decodeFrom_of_takeEntity? (taken : takeEntity? text = some (char, rest)) :
    decodeFrom text = char :: decodeFrom rest := by
  cases text with
  | nil => contradiction
  | cons first later => rw [decodeFrom, taken]

theorem decodeFrom_of_bare (bare : isMarkup char = false) (rest : List Char) :
    decodeFrom (char :: rest) = char :: decodeFrom rest := by
  rw [decodeFrom, takeEntity?_of_bare bare]

theorem decodeFrom_flatMap (text : List Char) : decodeFrom (text.flatMap escapeChar) = text := by
  induction text with
  | nil => simp [decodeFrom]
  | cons char text induction =>
      rw [List.flatMap_cons]
      cases found : entity? char with
      | some entity =>
          rw [escapeChar_of_entity? found,
            decodeFrom_of_takeEntity? (takeEntity?_of_entity? found _), induction]
      | none =>
          have bare := isMarkup_of_entity?_eq_none found
          rw [escapeChar_of_bare bare, List.singleton_append, decodeFrom_of_bare bare, induction]

theorem IsEscaped.flatMap_decodeFrom (escaped : IsEscaped text) :
    (decodeFrom text).flatMap escapeChar = text := by
  fun_induction decodeFrom text with
  | case1 => rfl
  | case2 char rest decoded behind taken induction =>
      obtain ⟨entity, found, parts⟩ := exists_entity_of_takeEntity? taken
      rw [parts] at escaped
      rw [List.flatMap_cons, induction escaped.behind, escapeChar_of_entity? found, parts]
  | case3 char rest untaken induction =>
      have bare := escaped.bare_of_takeEntity? untaken
      have parts : IsEscaped ([char] ++ rest) := escaped
      rw [List.flatMap_cons, induction parts.behind, escapeChar_of_bare bare,
        List.singleton_append]

end Language

theorem decode_escape (text : String) : decode (escape text) = text := by
  rw [decode, toList_escape, decodeFrom_flatMap, String.ofList_toList]

theorem escape_decode_iff {html : String} :
    escape (decode html) = html ↔ IsEscaped html.toList := by
  constructor
  · intro same
    rw [← same, toList_escape]
    exact isEscaped_flatMap _
  · intro escaped
    apply String.toList_inj.mp
    rw [toList_escape, decode, String.toList_ofList, escaped.flatMap_decodeFrom]

/-- Escaping behind a text adds the escaped form, and the escaped form of two
texts in a row is theirs in a row.  The escaped forms are exactly the texts in
which markup stands only as entities, and there decoding is the inverse of
escaping, in both directions. -/
theorem escape_inverse :
    (∀ written text, appendEscaped written text = written ++ escape text) ∧
    (∀ front back, escape (front ++ back) = escape front ++ escape back) ∧
    (∀ text, IsEscaped (escape text).toList ∧ decode (escape text) = text) ∧
    ∀ html, IsEscaped html.toList ↔ escape (decode html) = html := by
  refine ⟨appendEscaped_eq, escape_append, fun text => ⟨?_, decode_escape text⟩,
    fun html => escape_decode_iff.symm⟩
  rw [toList_escape]
  exact isEscaped_flatMap text.toList

end PageFilters.Html
