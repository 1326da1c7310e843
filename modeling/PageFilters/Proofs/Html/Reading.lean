import Mathlib.Data.List.Basic
import PageFilters.Proofs.Html.Spans

/-!
# Reading a fragment back

A reader of HTML goes through a fragment from left to right.  It keeps the class
of the span it is in, drops the tags and decodes the entities.  Apart from the
class prefix it is told nothing about the text, and it refuses whatever is not
an entity, a tag in its place or a character that stands for itself.  What it
reads off a fragment are the characters of the tokens with the classes of their
kinds, so a fragment says of its tokens everything but their cuts.
-/

namespace PageFilters.Html

/-- Takes one of the five entities off a text. -/
def takeEntity? : List Char → Option (Char × List Char)
  | '&' :: 'a' :: 'm' :: 'p' :: ';' :: rest => some ('&', rest)
  | '&' :: 'l' :: 't' :: ';' :: rest => some ('<', rest)
  | '&' :: 'g' :: 't' :: ';' :: rest => some ('>', rest)
  | '&' :: 'q' :: 'u' :: 'o' :: 't' :: ';' :: rest => some ('\x22', rest)
  | '&' :: '#' :: '3' :: '9' :: ';' :: rest => some ('\x27', rest)
  | _ => none

/-- Whether a character means something in HTML. -/
def isMarkup (char : Char) : Bool :=
  char == '&' || char == '<' || char == '>' || char == '\x22' || char == '\x27'

/-- Takes a character off a text: one that stands for itself, or an entity. -/
def takeChar? : List Char → Option (Char × List Char)
  | [] => none
  | char :: rest => if isMarkup char then takeEntity? (char :: rest) else some (char, rest)

/-- Takes a tag off a text and gives the class of the span behind it.  Inside of
a span only the tag that closes it can stand, outside only one that opens a span
and has a class with the prefix. -/
def takeTag? (classPrefix : String) (inside : Option String) (text : List Char) :
    Option (Option String × List Char) :=
  match inside with
  | some _ => (text.dropPrefix? "</span>".toList).map (none, ·)
  | none => do
      let rest ← text.dropPrefix? "<span class=\"".toList
      let rest ← rest.dropPrefix? classPrefix.toList
      let suffix := rest.takeWhile (· != '\x22')
      let rest ← (rest.dropWhile (· != '\x22')).dropPrefix? "\">".toList
      return (some (classPrefix ++ String.ofList suffix), rest)

theorem dropPrefix?_append {α : Type} [BEq α] [ReflBEq α] (lead rest : List α) :
    (lead ++ rest).dropPrefix? lead = some rest :=
  List.dropPrefix?_append_of_beq rest (BEq.refl lead)

theorem length_of_dropPrefix? {text lead rest : List Char}
    (found : text.dropPrefix? lead = some rest) :
    text.length = lead.length + rest.length := by
  obtain ⟨front, rfl, same⟩ := List.dropPrefix?_eq_some_iff.mp found
  rw [beq_iff_eq] at same
  rw [same, List.length_append]

theorem length_takeEntity?_lt {text rest : List Char} {char : Char}
    (found : takeEntity? text = some (char, rest)) : rest.length < text.length := by
  unfold takeEntity? at found
  split at found
  all_goals
    simp only [Option.some.injEq, Prod.mk.injEq, reduceCtorEq] at found
  all_goals
    rw [found.2]
    simp only [List.length_cons]
    omega

theorem length_takeChar?_lt {text rest : List Char} {char : Char}
    (found : takeChar? text = some (char, rest)) : rest.length < text.length := by
  unfold takeChar? at found
  split at found
  · simp at found
  · split at found
    · exact length_takeEntity?_lt found
    · simp only [Option.some.injEq, Prod.mk.injEq] at found
      simp [found.2]

theorem length_takeTag?_lt {classPrefix : String} {inside behind : Option String}
    {text rest : List Char} (found : takeTag? classPrefix inside text = some (behind, rest)) :
    rest.length < text.length := by
  cases inside with
  | some className =>
      obtain ⟨_, closed, same⟩ := Option.map_eq_some_iff.mp found
      obtain ⟨-, rfl⟩ := Prod.mk.inj same
      have shorter := length_of_dropPrefix? closed
      have positive : 0 < "</span>".toList.length := by decide
      omega
  | none =>
      simp only [takeTag?, Option.bind_eq_bind, Option.bind_eq_some_iff, Option.pure_def,
        Option.some.injEq, Prod.mk.injEq] at found
      obtain ⟨named, opened, suffixed, prefixed, last, closed, -, rfl⟩ := found
      have first := length_of_dropPrefix? opened
      have second := length_of_dropPrefix? prefixed
      have third := length_of_dropPrefix? closed
      have less := (List.dropWhile_sublist (l := suffixed) (· != '\x22')).length_le
      have positive : 0 < "<span class=\"".toList.length := by decide
      omega

/-- The characters of what is left of a fragment, each with the class of the
span it stands in. -/
def readFrom (classPrefix : String) (inside : Option String) (text : List Char) :
    Option (List (Char × Option String)) :=
  match text with
  | [] => if inside.isNone then some [] else none
  | '<' :: rest =>
      match _found : takeTag? classPrefix inside ('<' :: rest) with
      | some (behind, rest) => readFrom classPrefix behind rest
      | none => none
  | char :: rest =>
      match _found : takeChar? (char :: rest) with
      | some (char, rest) => (readFrom classPrefix inside rest).map ((char, inside) :: ·)
      | none => none
termination_by text.length
decreasing_by
  · exact length_takeTag?_lt _found
  · exact length_takeChar?_lt _found

/-- The characters of a fragment, each with the class of the span it stands in. -/
def read? (classPrefix fragment : String) : Option (List (Char × Option String)) :=
  readFrom classPrefix none fragment.toList

theorem readFrom_nil (classPrefix : String) :
    readFrom classPrefix none [] = some [] := by
  simp [readFrom]

theorem readFrom_of_takeTag? {classPrefix : String} {inside behind : Option String}
    {text rest : List Char} (begins : text.head? = some '<')
    (found : takeTag? classPrefix inside text = some (behind, rest)) :
    readFrom classPrefix inside text = readFrom classPrefix behind rest := by
  cases text with
  | nil => simp at begins
  | cons first later =>
      obtain rfl : first = '<' := by simpa using begins
      rw [readFrom, found]

theorem readFrom_of_takeChar? {classPrefix : String} {inside : Option String} {char : Char}
    {text rest : List Char} (begins : text.head? ≠ some '<')
    (found : takeChar? text = some (char, rest)) :
    readFrom classPrefix inside text =
      (readFrom classPrefix inside rest).map ((char, inside) :: ·) := by
  cases text with
  | nil => simp [takeChar?] at found
  | cons first later =>
      rw [readFrom, found]
      simpa using begins

theorem isMarkup_of_entity?_eq_none {char : Char} (found : entity? char = none) :
    isMarkup char = false := by
  unfold entity? at found
  split at found
  all_goals
    first
    | contradiction
    | simp_all [isMarkup]

theorem eq_ampersand_of_mem_entity {source : Char} {entity : String}
    (found : entity? source = some entity) :
    ∀ char ∈ entity.toList, isMarkup char → char = '&' := by
  unfold entity? at found
  split at found
  all_goals
    first
    | contradiction
    | cases found; simp [isMarkup]

theorem takeChar?_escapeChar (char : Char) (rest : List Char) :
    takeChar? (escapeChar char ++ rest) = some (char, rest) := by
  unfold escapeChar
  split
  next entity found =>
      unfold entity? at found
      split at found
      all_goals
        first
        | contradiction
        | cases found; rfl
  next found => simp [takeChar?, isMarkup_of_entity?_eq_none found]

theorem head?_escapeChar_append (char : Char) (rest : List Char) :
    (escapeChar char ++ rest).head? ≠ some '<' := by
  unfold escapeChar
  split
  next entity found =>
      unfold entity? at found
      split at found
      all_goals
        first
        | contradiction
        | cases found; simp
  next found =>
      have bare := isMarkup_of_entity?_eq_none found
      rintro begins
      obtain rfl : char = '<' := by simpa using begins
      contradiction

theorem readFrom_escape (classPrefix : String) (inside : Option String) (text rest : List Char) :
    readFrom classPrefix inside (text.flatMap escapeChar ++ rest) =
      (readFrom classPrefix inside rest).map (text.map (·, inside) ++ ·) := by
  induction text with
  | nil => simp
  | cons char text induction =>
      rw [List.flatMap_cons, List.append_assoc,
        readFrom_of_takeChar? (head?_escapeChar_append char _) (takeChar?_escapeChar char _),
        induction, Option.map_map]
      rfl

theorem quote_not_mem_classSuffix (kind : TokenKind) : '\x22' ∉ kind.classSuffix.toList := by
  cases kind <;> decide

/-- The class of the spans of a kind; plain text stands outside of spans. -/
def spanClass? (classPrefix : String) (kind : TokenKind) : Option String :=
  if kind.isPlain then none else some (classPrefix ++ kind.classSuffix)

theorem spanClass?_of_ne_plain (classPrefix : String) {kind : TokenKind}
    (notPlain : kind ≠ .plain) :
    spanClass? classPrefix kind = some (classPrefix ++ kind.classSuffix) := by
  simp [spanClass?, TokenKind.isPlain, notPlain]

theorem spanClass?_eq_none_iff {classPrefix : String} {kind : TokenKind} :
    spanClass? classPrefix kind = none ↔ kind = .plain := by
  simp [spanClass?, TokenKind.isPlain]

theorem spanClass?_injective (classPrefix : String) :
    Function.Injective (spanClass? classPrefix) := by
  intro left right same
  by_cases leftPlain : left = .plain
  · have rightPlain := spanClass?_eq_none_iff.mp
      (same.symm.trans (spanClass?_eq_none_iff.mpr leftPlain))
    rw [leftPlain, rightPlain]
  · have rightNotPlain : right ≠ .plain := by
      intro rightPlain
      exact leftPlain (spanClass?_eq_none_iff.mp
        (same.trans (spanClass?_eq_none_iff.mpr rightPlain)))
    rw [spanClass?_of_ne_plain _ leftPlain, spanClass?_of_ne_plain _ rightNotPlain,
      Option.some.injEq] at same
    exact TokenKind.classSuffix_injective ((String.append_right_inj classPrefix).mp same)

/-- The tag of a span is taken off whole, whatever the class prefix. -/
theorem takeTag?_openTag (classPrefix : String) {kind : TokenKind} (notPlain : kind ≠ .plain)
    (rest : List Char) :
    takeTag? classPrefix none ((openTag classPrefix kind).toList ++ rest) =
      some (some (classPrefix ++ kind.classSuffix), rest) := by
  have noQuote : ∀ char ∈ kind.classSuffix.toList, (char != '\x22') = true := by
    intro char member
    rw [bne_iff_ne]
    rintro rfl
    exact quote_not_mem_classSuffix kind member
  have taken : (kind.classSuffix.toList ++ ("\">".toList ++ rest)).takeWhile (· != '\x22') =
      kind.classSuffix.toList := by
    rw [List.takeWhile_append_of_pos noQuote]
    simp
  have left : (kind.classSuffix.toList ++ ("\">".toList ++ rest)).dropWhile (· != '\x22') =
      "\">".toList ++ rest := by
    rw [List.dropWhile_append_of_pos noQuote]
    simp
  rw [openTag_of_ne_plain classPrefix notPlain]
  simp only [takeTag?, String.toList_append, List.append_assoc, dropPrefix?_append,
    Option.bind_eq_bind, Option.bind_some, taken, left, String.ofList_toList, Option.pure_def]

theorem readFrom_openTag (classPrefix : String) {kind : TokenKind} (notPlain : kind ≠ .plain)
    (rest : List Char) :
    readFrom classPrefix none ((openTag classPrefix kind).toList ++ rest) =
      readFrom classPrefix (spanClass? classPrefix kind) rest := by
  rw [spanClass?_of_ne_plain classPrefix notPlain]
  apply readFrom_of_takeTag? _ (takeTag?_openTag classPrefix notPlain rest)
  rw [openTag_of_ne_plain classPrefix notPlain]
  simp

theorem readFrom_closeTag (classPrefix : String) {kind : TokenKind} (notPlain : kind ≠ .plain)
    (rest : List Char) :
    readFrom classPrefix (spanClass? classPrefix kind) ((closeTag kind).toList ++ rest) =
      readFrom classPrefix none rest := by
  rw [spanClass?_of_ne_plain classPrefix notPlain, closeTag_of_ne_plain notPlain]
  apply readFrom_of_takeTag?
  · simp
  · simp only [takeTag?, dropPrefix?_append, Option.map_some]

theorem toList_span_append (classPrefix : String) (run : Token) (rest : List Char) :
    (span classPrefix run).toList ++ rest =
      (openTag classPrefix run.kind).toList ++
        (run.text.toList.flatMap escapeChar ++ ((closeTag run.kind).toList ++ rest)) := by
  simp [span]

theorem readFrom_span (classPrefix : String) (run : Token) (rest : List Char) :
    readFrom classPrefix none ((span classPrefix run).toList ++ rest) =
      (readFrom classPrefix none rest).map
        (run.text.toList.map (·, spanClass? classPrefix run.kind) ++ ·) := by
  rw [toList_span_append]
  by_cases plain : run.kind = .plain
  · rw [plain]
    exact readFrom_escape classPrefix none run.text.toList rest
  · rw [readFrom_openTag classPrefix plain, readFrom_escape, readFrom_closeTag classPrefix plain]

theorem read?_spans (classPrefix : String) (runs : List Token) :
    read? classPrefix (spans classPrefix runs) =
      some ((Token.markedChars runs).map fun marked =>
        (marked.1, spanClass? classPrefix marked.2)) := by
  unfold read?
  induction runs with
  | nil => exact readFrom_nil classPrefix
  | cons run runs induction =>
      rw [spans_cons, String.toList_append, readFrom_span, induction]
      simp [Function.comp_def]

theorem read?_render (classPrefix : String) (tokens : List Token) :
    read? classPrefix (render classPrefix tokens) =
      some ((Token.markedChars tokens).map fun marked =>
        (marked.1, spanClass? classPrefix marked.2)) := by
  rw [render_eq_spans, read?_spans, Token.markedChars_runs]

/-- The text of a fragment: its tags are dropped and its entities decoded. -/
def readText? (classPrefix fragment : String) : Option (List Char) :=
  (read? classPrefix fragment).map (·.map Prod.fst)

theorem readText?_spans (classPrefix : String) (runs : List Token) :
    readText? classPrefix (spans classPrefix runs) = some (Token.chars runs) := by
  simp [readText?, read?_spans, ← Token.map_fst_markedChars, Function.comp_def]

/-- Of the characters that mean something in HTML, written text has only the one
that begins entities. -/
theorem eq_ampersand_of_mem_escape {text : String} {char : Char}
    (member : char ∈ (escape text).toList) (markup : isMarkup char) : char = '&' := by
  rw [toList_escape, List.mem_flatMap] at member
  obtain ⟨source, -, written⟩ := member
  unfold escapeChar at written
  split at written
  next entity found => exact eq_ampersand_of_mem_entity found char written markup
  next found =>
      obtain rfl := List.mem_singleton.mp written
      simp [isMarkup_of_entity?_eq_none found] at markup

theorem render_eq_render_iff {classPrefix : String} {left right : List Token} :
    render classPrefix left = render classPrefix right ↔
      Token.markedChars left = Token.markedChars right := by
  constructor
  · intro same
    have reading := congrArg (read? classPrefix) same
    rw [read?_render, read?_render, Option.some.injEq] at reading
    refine List.map_injective_iff.mpr ?_ reading
    rintro ⟨leftChar, leftKind⟩ ⟨rightChar, rightKind⟩ marked
    obtain ⟨sameChar, sameClass⟩ := Prod.mk.inj marked
    exact Prod.ext sameChar (spanClass?_injective classPrefix sameClass)
  · intro same
    rw [render_eq_spans, render_eq_spans, Token.runs_eq_runs_iff.mpr same]

/-- The kind whose spans have a class. -/
def kindOfClass? (classPrefix : String) (className : Option String) : Option TokenKind :=
  TokenKind.all.find? fun kind => spanClass? classPrefix kind == className

theorem kindOfClass?_spanClass? (classPrefix : String) (kind : TokenKind) :
    kindOfClass? classPrefix (spanClass? classPrefix kind) = some kind := by
  have present : (kindOfClass? classPrefix (spanClass? classPrefix kind)).isSome :=
    List.find?_isSome.mpr ⟨kind, kind.mem_all, by simp⟩
  obtain ⟨found, same⟩ := Option.isSome_iff_exists.mp present
  have sameClass := List.find?_some same
  rw [beq_iff_eq] at sameClass
  rw [same, spanClass?_injective classPrefix sameClass]

/-- The characters of a fragment, each with the kind whose spans have the class
it is found in. -/
def recover? (classPrefix fragment : String) : Option (List (Char × TokenKind)) := do
  (← read? classPrefix fragment).mapM fun (char, className) =>
    (kindOfClass? classPrefix className).map (char, ·)

theorem recover?_render (classPrefix : String) (tokens : List Token) :
    recover? classPrefix (render classPrefix tokens) = some (Token.markedChars tokens) := by
  rw [recover?, read?_render, Option.bind_eq_bind, Option.bind_some, List.mapM_map]
  generalize Token.markedChars tokens = marked
  induction marked with
  | nil => rfl
  | cons first later induction =>
      rw [List.mapM_cons, induction]
      simp [kindOfClass?_spanClass?]

/-- A fragment shows the characters of its tokens and their kinds, and nothing
else of the tokens: both can be read off it, and tokens that agree in both give
the same fragment.  A token may be cut in two, and empty tokens may stand
anywhere. -/
theorem render_faithful (classPrefix : String) :
    (∀ left right, render classPrefix left = render classPrefix right ↔
      Token.markedChars left = Token.markedChars right) ∧
    (∀ tokens, recover? classPrefix (render classPrefix tokens) =
      some (Token.markedChars tokens)) ∧
    (∀ before after kind front back,
      render classPrefix (before ++ ⟨kind, front⟩ :: ⟨kind, back⟩ :: after) =
        render classPrefix (before ++ ⟨kind, front ++ back⟩ :: after)) ∧
    (∀ before after kind,
      render classPrefix (before ++ ⟨kind, ""⟩ :: after) = render classPrefix (before ++ after)) := by
  refine ⟨fun left right => render_eq_render_iff, recover?_render classPrefix, ?_, ?_⟩
  · intro before after kind front back
    apply render_eq_render_iff.mpr
    simp
  · intro before after kind
    apply render_eq_render_iff.mpr
    simp

end PageFilters.Html
