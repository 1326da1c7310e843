import PageFilters.Proofs.Html.Entities

/-!
# Tags and attributes

Where tags and attributes begin in HTML is found by reading it from left to
right.  What is read next depends on the place that has been reached only, so a
text can be followed through its parts.  Characters that mean nothing to the
reading can be put for each other, and an escaped text begins nothing.
-/

namespace PageFilters.Html

/-- What begins in HTML. -/
inductive Part where
  | tag
  | attribute
  deriving Repr, DecidableEq, Inhabited

/-- Where the reading of HTML has come to. -/
inductive Place where
  | text
  /-- In the name of a tag. -/
  | tagName
  /-- Between the attributes of a tag. -/
  | between
  /-- In the name of an attribute. -/
  | attributeName
  | behindAttributeName
  | behindEquals
  | singleQuoted
  | doubleQuoted
  | unquoted
  deriving Repr, DecidableEq, Inhabited

/-- Whether a character is white space to the reading. -/
def isSpace (char : Char) : Bool :=
  char ∈ [' ', '\t', '\n', '\x0c', '\r']

/-- What begins at a character, and the place behind it.  In text every `<` is
taken to begin a tag, so that none is missed. -/
def Place.step (place : Place) (char : Char) : Option Part × Place :=
  match place with
  | text => if char == '<' then (some .tag, tagName) else (none, text)
  | tagName =>
      if isSpace char || char == '/' then (none, between)
      else if char == '>' then (none, text)
      else (none, tagName)
  | between =>
      if isSpace char || char == '/' then (none, between)
      else if char == '>' then (none, text)
      else (some .attribute, attributeName)
  | attributeName =>
      if isSpace char then (none, behindAttributeName)
      else if char == '/' then (none, between)
      else if char == '>' then (none, text)
      else if char == '=' then (none, behindEquals)
      else (none, attributeName)
  | behindAttributeName =>
      if isSpace char then (none, behindAttributeName)
      else if char == '/' then (none, between)
      else if char == '>' then (none, text)
      else if char == '=' then (none, behindEquals)
      else (some .attribute, attributeName)
  | behindEquals =>
      if isSpace char then (none, behindEquals)
      else if char == '>' then (none, text)
      else if char == '\x27' then (none, singleQuoted)
      else if char == '\x22' then (none, doubleQuoted)
      else (none, unquoted)
  | singleQuoted => if char == '\x27' then (none, between) else (none, singleQuoted)
  | doubleQuoted => if char == '\x22' then (none, between) else (none, doubleQuoted)
  | unquoted =>
      if isSpace char then (none, between)
      else if char == '>' then (none, text)
      else (none, unquoted)

/-- The place behind a text. -/
def Place.behind (place : Place) (text : List Char) : Place :=
  text.foldl (fun reached char => (reached.step char).2) place

/-- What begins within a text. -/
def Place.begun (place : Place) : List Char → List Part
  | [] => []
  | char :: rest => (place.step char).1.toList ++ (place.step char).2.begun rest

namespace Place

theorem behind_append (place : Place) (front back : List Char) :
    place.behind (front ++ back) = (place.behind front).behind back :=
  List.foldl_append

theorem begun_append (place : Place) (front back : List Char) :
    place.begun (front ++ back) = place.begun front ++ (place.behind front).begun back := by
  induction front generalizing place with
  | nil => rfl
  | cons char rest induction =>
      rw [List.cons_append, begun, begun, induction, List.append_assoc]
      rfl

/-- A text throughout which nothing begins and the place stays the same. -/
theorem begun_of_stays {place : Place} {text : List Char}
    (stays : ∀ char ∈ text, place.step char = (none, place)) :
    place.begun text = [] ∧ place.behind text = place := by
  induction text with
  | nil => exact ⟨rfl, rfl⟩
  | cons char rest induction =>
      have first := stays char List.mem_cons_self
      obtain ⟨nothing, same⟩ := induction fun other member =>
        stays other (List.mem_cons_of_mem _ member)
      constructor
      · rw [begun, first]
        exact nothing
      · rw [behind, List.foldl_cons, first]
        exact same

end Place

/-- Two texts in which the same begins, and behind which the place is the same,
wherever they stand. -/
def ReadAlike (left right : List Char) : Prop :=
  ∀ place : Place, place.begun left = place.begun right ∧ place.behind left = place.behind right

theorem ReadAlike.refl (text : List Char) : ReadAlike text text :=
  fun _ => ⟨rfl, rfl⟩

theorem ReadAlike.append {front otherFront back otherBack : List Char}
    (fronts : ReadAlike front otherFront) (backs : ReadAlike back otherBack) :
    ReadAlike (front ++ back) (otherFront ++ otherBack) := by
  intro place
  obtain ⟨sameFront, reached⟩ := fronts place
  obtain ⟨sameBack, ended⟩ := backs (place.behind otherFront)
  constructor
  · rw [Place.begun_append, Place.begun_append, sameFront, reached, sameBack]
  · rw [Place.behind_append, Place.behind_append, reached, ended]

/-- A text is read as if it were not there if it begins nothing at any place that
can be reached in front of it, and stays at this place. -/
theorem ReadAlike.append_silent {front other back : List Char} (fronts : ReadAlike front other)
    (silent : ∀ place : Place, (place.behind other).begun back = [] ∧
      (place.behind other).behind back = place.behind other) :
    ReadAlike (front ++ back) other := by
  intro place
  obtain ⟨begun, reached⟩ := fronts place
  obtain ⟨nothing, same⟩ := silent place
  constructor
  · rw [Place.begun_append, begun, reached, nothing, List.append_nil]
  · rw [Place.behind_append, reached, same]

/-- Whether a character means something at some place. -/
def isSign (char : Char) : Bool :=
  isSpace char || char ∈ ['<', '>', '\x27', '\x22', '=', '/']

section Ordinary

variable {char : Char} {text : List Char}

theorem step_of_not_isSign (ordinary : isSign char = false) (place : Place) :
    place.step char = place.step '0' := by
  simp only [isSign, List.mem_cons, List.not_mem_nil, or_false, Bool.or_eq_false_iff,
    decide_eq_false_iff_not, not_or] at ordinary
  obtain ⟨noSpace, noLess, noGreater, noSingle, noDouble, noEquals, noSlash⟩ := ordinary
  cases place
  all_goals simp [Place.step, noSpace, noLess, noGreater, noSingle, noDouble, noEquals, noSlash]
  all_goals decide

/-- A second ordinary character begins nothing and leaves the place as it is. -/
theorem step_step_zero (place : Place) :
    (place.step '0').2.step '0' = (none, (place.step '0').2) := by
  cases place
  all_goals rfl

theorem readAlike_of_not_isSign (nonempty : text ≠ [])
    (ordinary : ∀ char ∈ text, isSign char = false) : ReadAlike text ['0'] := by
  intro place
  cases text with
  | nil => contradiction
  | cons char rest =>
      -- Only the first character can begin anything, and it settles the place.
      have first := step_of_not_isSign (ordinary char List.mem_cons_self) place
      have stays : ∀ other ∈ rest,
          (place.step '0').2.step other = (none, (place.step '0').2) := by
        intro other member
        rw [step_of_not_isSign (ordinary other (List.mem_cons_of_mem _ member)), step_step_zero]
      obtain ⟨nothing, same⟩ := Place.begun_of_stays stays
      constructor
      · rw [Place.begun, first, nothing]
        rfl
      · rw [Place.behind, List.foldl_cons, first]
        exact same

end Ordinary

/-- In text and between double quotes nothing begins in an escaped text, and the
place behind it is the same. -/
theorem IsEscaped.begun {place : Place} {html : List Char} (escaped : IsEscaped html)
    (inside : place = .text ∨ place = .doubleQuoted) :
    place.begun html = [] ∧ place.behind html = place := by
  apply Place.begun_of_stays
  intro char member
  have noLess : char ≠ '<' := by
    intro less
    exact escaped.bare '<' (by decide) (less ▸ member)
  have noDouble : char ≠ '\x22' := by
    intro double
    exact escaped.bare '\x22' (by decide) (double ▸ member)
  rcases inside with rfl | rfl
  · simp [Place.step, noLess]
  · simp [Place.step, noDouble]

end PageFilters.Html
