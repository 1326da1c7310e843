import PageFilters.Proofs.Html.Reading
import PageFilters.Proofs.Token.Groups

/-!
# The marks of a fragment

A fragment is taken apart into characters and tags without regard to how the
tags go together: a closing tag is read wherever it stands, and so is an opening
one.  What is found is nevertheless flat.  A fragment consists of pieces, each
of them text outside of spans or one whole span around text; no piece is without
text, and neighbours differ in class.
-/

namespace PageFilters.Html

/-- A character of the text, or the tag at an end of a span. -/
inductive Mark where
  | char (char : Char)
  | opened (className : String)
  | closed
  deriving Repr, DecidableEq

/-- Takes a mark off a text. -/
def takeMark? (classPrefix : String) (text : List Char) : Option (Mark × List Char) :=
  if text.head? = some '<' then
    match text.dropPrefix? "</span>".toList with
    | some rest => some (.closed, rest)
    | none => do
        let (className, rest) ← takeTag? classPrefix none text
        return (.opened (← className), rest)
  else (takeChar? text).map fun (char, rest) => (.char char, rest)

theorem length_takeMark?_lt {classPrefix : String} {text rest : List Char} {mark : Mark}
    (found : takeMark? classPrefix text = some (mark, rest)) : rest.length < text.length := by
  unfold takeMark? at found
  split at found
  · split at found
    next behind closing =>
      obtain ⟨-, rfl⟩ := Prod.mk.inj (Option.some.inj found)
      have shorter := length_of_dropPrefix? closing
      have positive : 0 < "</span>".toList.length := by decide
      omega
    next =>
      simp only [Option.bind_eq_bind, Option.bind_eq_some_iff, Option.pure_def,
        Option.some.injEq, Prod.mk.injEq] at found
      obtain ⟨⟨className, behind⟩, taken, named, -, -, rfl⟩ := found
      exact length_takeTag?_lt taken
  · obtain ⟨⟨char, behind⟩, taken, same⟩ := Option.map_eq_some_iff.mp found
    obtain ⟨-, rfl⟩ := Prod.mk.inj same
    exact length_takeChar?_lt taken

/-- The marks of what is left of a fragment. -/
def marksFrom (classPrefix : String) (text : List Char) : Option (List Mark) :=
  if text.isEmpty then some []
  else
    match _found : takeMark? classPrefix text with
    | some (mark, rest) => (marksFrom classPrefix rest).map (mark :: ·)
    | none => none
termination_by text.length
decreasing_by exact length_takeMark?_lt _found

/-- The marks of a fragment. -/
def marks? (classPrefix fragment : String) : Option (List Mark) :=
  marksFrom classPrefix fragment.toList

variable {classPrefix : String}

theorem marksFrom_nil : marksFrom classPrefix [] = some [] := by
  simp [marksFrom]

theorem marksFrom_of_takeMark? {text rest : List Char} {mark : Mark}
    (found : takeMark? classPrefix text = some (mark, rest)) :
    marksFrom classPrefix text = (marksFrom classPrefix rest).map (mark :: ·) := by
  have shorter := length_takeMark?_lt found
  have nonempty : text.isEmpty = false := by
    cases text with
    | nil => simp at shorter
    | cons => rfl
  rw [marksFrom, nonempty, found]
  rfl

theorem takeMark?_escapeChar (char : Char) (rest : List Char) :
    takeMark? classPrefix (escapeChar char ++ rest) = some (.char char, rest) := by
  rw [takeMark?, if_neg (head?_escapeChar_append char rest), takeChar?_escapeChar]
  rfl

theorem dropPrefix?_closing_openTag {kind : TokenKind} (notPlain : kind ≠ .plain)
    (rest : List Char) :
    ((openTag classPrefix kind).toList ++ rest).dropPrefix? "</span>".toList = none := by
  rw [openTag_of_ne_plain classPrefix notPlain]
  simp [List.dropPrefix?]

theorem takeMark?_openTag {kind : TokenKind} (notPlain : kind ≠ .plain) (rest : List Char) :
    takeMark? classPrefix ((openTag classPrefix kind).toList ++ rest) =
      some (.opened (classPrefix ++ kind.classSuffix), rest) := by
  have begins : ((openTag classPrefix kind).toList ++ rest).head? = some '<' := by
    rw [openTag_of_ne_plain classPrefix notPlain]
    simp
  rw [takeMark?, if_pos begins, dropPrefix?_closing_openTag notPlain,
    takeTag?_openTag classPrefix notPlain]
  rfl

theorem takeMark?_closeTag {kind : TokenKind} (notPlain : kind ≠ .plain) (rest : List Char) :
    takeMark? classPrefix ((closeTag kind).toList ++ rest) = some (.closed, rest) := by
  have taken : ("</span>".toList ++ rest).dropPrefix? "</span>".toList = some rest :=
    dropPrefix?_append _ rest
  rw [closeTag_of_ne_plain notPlain, takeMark?, taken]
  simp

theorem marksFrom_escape (text rest : List Char) :
    marksFrom classPrefix (text.flatMap escapeChar ++ rest) =
      (marksFrom classPrefix rest).map (text.map .char ++ ·) := by
  induction text with
  | nil => simp
  | cons char text induction =>
      rw [List.flatMap_cons, List.append_assoc,
        marksFrom_of_takeMark? (takeMark?_escapeChar char _), induction, Option.map_map]
      rfl

/-- Text outside of spans, or a span of a class around text. -/
structure Piece where
  className : Option String
  text : String
  deriving Repr, DecidableEq

/-- The characters of a piece, between the tags of its span if it is one. -/
def Piece.marks (piece : Piece) : List Mark :=
  match piece.className with
  | none => piece.text.toList.map .char
  | some className => .opened className :: (piece.text.toList.map .char ++ [.closed])

/-- The piece that a run is written as. -/
def Piece.ofRun (classPrefix : String) (run : Token) : Piece :=
  ⟨spanClass? classPrefix run.kind, run.text⟩

theorem marksFrom_span (run : Token) (rest : List Char) :
    marksFrom classPrefix ((span classPrefix run).toList ++ rest) =
      (marksFrom classPrefix rest).map ((Piece.ofRun classPrefix run).marks ++ ·) := by
  rw [toList_span_append]
  by_cases plain : run.kind = .plain
  · have outside : spanClass? classPrefix run.kind = none := spanClass?_eq_none_iff.mpr plain
    have untagged : (openTag classPrefix run.kind).toList = [] := by rw [plain]; rfl
    have unclosed : (closeTag run.kind).toList = [] := by rw [plain]; rfl
    rw [untagged, unclosed, List.nil_append, List.nil_append, marksFrom_escape]
    simp [Piece.marks, Piece.ofRun, outside]
  · have inside := spanClass?_of_ne_plain classPrefix plain
    rw [marksFrom_of_takeMark? (takeMark?_openTag plain _), marksFrom_escape,
      marksFrom_of_takeMark? (takeMark?_closeTag plain _)]
    simp [Piece.marks, Piece.ofRun, inside, Function.comp_def]

theorem marks?_spans (runs : List Token) :
    marks? classPrefix (spans classPrefix runs) =
      some (runs.flatMap fun run => (Piece.ofRun classPrefix run).marks) := by
  unfold marks?
  induction runs with
  | nil => exact marksFrom_nil
  | cons run runs induction =>
      rw [spans_cons, String.toList_append, marksFrom_span, induction]
      rfl

/-- A group of tokens of one kind, written at once: plain text as it is, all
other text in a span. -/
def writtenGroup (classPrefix : String) : List Token → String
  | [] => ""
  | first :: rest =>
      let text := escape (Token.joinedText (first :: rest))
      if first.kind = .plain then text
      else "<span class=\"" ++ classPrefix ++ first.kind.classSuffix ++ "\">" ++ text ++ "</span>"

theorem span_merged (group : List Token) :
    span classPrefix (Token.merged group) = writtenGroup classPrefix group := by
  cases group with
  | nil => rfl
  | cons first rest =>
      by_cases plain : first.kind = .plain
      · simp [span, Token.merged, writtenGroup, plain]
      · simp [span, Token.merged, writtenGroup, plain, openTag_of_ne_plain,
          closeTag_of_ne_plain]

theorem render_eq_join (tokens : List Token) :
    render classPrefix tokens =
      String.join ((Token.groups tokens).map (writtenGroup classPrefix)) := by
  rw [render_eq_spans, Token.runs_eq_map_groups, spans, List.map_map]
  congr 2
  exact funext span_merged

theorem isChain_pieces {runs : List Token}
    (chained : runs.IsChain fun left right => left.kind ≠ right.kind) :
    (runs.map (Piece.ofRun classPrefix)).IsChain fun left right =>
      left.className ≠ right.className := by
  rw [List.isChain_map]
  exact chained.imp fun left right differ same => differ (spanClass?_injective classPrefix same)

theorem render_eq_empty_iff {tokens : List Token} :
    render classPrefix tokens = "" ↔ ∀ token ∈ tokens, token.text = "" := by
  have unmarked : render classPrefix tokens = render classPrefix [] ↔
      Token.markedChars tokens = [] := render_eq_render_iff
  have nothing : render classPrefix [] = "" := rfl
  rw [← nothing, unmarked, nothing]
  simp [Token.markedChars]

/-- A fragment is what comes of dropping empty tokens, splitting the others
wherever the kind changes and writing every part at once, plain text as it is
and all other text in a span.  Taken apart again it is a sequence of pieces:
spans do not lie within each other, each has text in it and is closed behind it,
and a span is never followed at once by another of its class.  The fragment is
empty if and only if no token has text. -/
theorem render_minimal (classPrefix : String) (tokens : List Token) :
    render classPrefix tokens =
        String.join ((Token.groups tokens).map (writtenGroup classPrefix)) ∧
      (∃ pieces : List Piece,
        marks? classPrefix (render classPrefix tokens) = some (pieces.flatMap Piece.marks) ∧
        (∀ piece ∈ pieces, piece.text ≠ "") ∧
        pieces.IsChain fun left right => left.className ≠ right.className) ∧
      (render classPrefix tokens = "" ↔ ∀ token ∈ tokens, token.text = "") := by
  refine ⟨render_eq_join tokens, ⟨(Token.runs tokens).map (Piece.ofRun classPrefix), ?_, ?_, ?_⟩,
    render_eq_empty_iff⟩
  · rw [render_eq_spans, marks?_spans, List.flatMap_map]
  · intro piece member
    obtain ⟨run, listed, rfl⟩ := List.mem_map.mp member
    exact Token.nonempty_of_mem_runs run listed
  · exact isChain_pieces (Token.isChain_runs tokens)

end PageFilters.Html
