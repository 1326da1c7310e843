import PageFilters.Html.Spans
import PageFilters.Proofs.Token.Runs

/-!
# A fragment is its runs

Writing token by token keeps a span open until text of another kind comes.  The
fragment is nevertheless the flat sequence of the runs of its tokens, each
written for itself: plain runs as text, all others as a span with text in it.
-/

namespace PageFilters.Html

/-- A run written for itself: text of a kind in a span, plain text as it is. -/
def span (classPrefix : String) (run : Token) : String :=
  openTag classPrefix run.kind ++ escape run.text ++ closeTag run.kind

def spans (classPrefix : String) (runs : List Token) : String :=
  String.join (runs.map (span classPrefix))

@[simp] theorem spans_nil (classPrefix : String) : spans classPrefix [] = "" := rfl

@[simp] theorem spans_cons (classPrefix : String) (run : Token) (runs : List Token) :
    spans classPrefix (run :: runs) = span classPrefix run ++ spans classPrefix runs :=
  String.toList_inj.mp (by simp [spans])

@[simp] theorem openTag_plain (classPrefix : String) : openTag classPrefix .plain = "" := rfl

@[simp] theorem closeTag_plain : closeTag .plain = "" := rfl

theorem openTag_of_ne_plain (classPrefix : String) {kind : TokenKind} (notPlain : kind ≠ .plain) :
    openTag classPrefix kind = "<span class=\"" ++ classPrefix ++ kind.classSuffix ++ "\">" := by
  simp [openTag, TokenKind.isPlain, notPlain]

theorem closeTag_of_ne_plain {kind : TokenKind} (notPlain : kind ≠ .plain) :
    closeTag kind = "</span>" := by
  simp [closeTag, TokenKind.isPlain, notPlain]

@[simp] theorem escape_empty : escape "" = "" := rfl

theorem escape_append (front back : String) :
    escape (front ++ back) = escape front ++ escape back :=
  String.toList_inj.mp (by simp)

/-- What follows text of a kind: its first run may go on with that text, and
the span is closed behind it. -/
def continuation (classPrefix : String) (kind : TokenKind) (runs : List Token) : String :=
  match runs with
  | [] => closeTag kind
  | run :: later =>
      if run.kind = kind then escape run.text ++ closeTag kind ++ spans classPrefix later
      else closeTag kind ++ spans classPrefix (run :: later)

/-- Behind plain text nothing is open, so runs follow as they are. -/
theorem continuation_plain (classPrefix : String) (runs : List Token) :
    continuation classPrefix .plain runs = spans classPrefix runs := by
  cases runs with
  | nil => rfl
  | cons run later =>
      by_cases plain : run.kind = .plain
      · simp [continuation, plain, span]
      · simp [continuation, plain]

theorem continuation_joinRun_same (classPrefix : String) {token : Token}
    (nonempty : token.text ≠ "") (runs : List Token) :
    continuation classPrefix token.kind (Token.joinRun token runs) =
      escape token.text ++ continuation classPrefix token.kind runs := by
  cases runs with
  | nil => simp [continuation, Token.joinRun, nonempty]
  | cons run later =>
      by_cases same : token.kind = run.kind
      · simp [continuation, Token.joinRun, nonempty, same, escape_append, String.append_assoc]
      · have other : run.kind ≠ token.kind := Ne.symm same
        simp [continuation, Token.joinRun, nonempty, same, other, String.append_assoc]

theorem continuation_joinRun_other (classPrefix : String) {kind : TokenKind} {token : Token}
    (nonempty : token.text ≠ "") (other : token.kind ≠ kind) (runs : List Token) :
    continuation classPrefix kind (Token.joinRun token runs) =
      closeTag kind ++ openTag classPrefix token.kind ++ escape token.text ++
        continuation classPrefix token.kind runs := by
  cases runs with
  | nil => simp [continuation, Token.joinRun, nonempty, other, span, String.append_assoc]
  | cons run later =>
      by_cases same : token.kind = run.kind
      · have otherRun : run.kind ≠ kind := same ▸ other
        simp [continuation, Token.joinRun, nonempty, same, otherRun, span, escape_append,
          String.append_assoc]
      · have otherRun : run.kind ≠ token.kind := Ne.symm same
        simp [continuation, Token.joinRun, nonempty, same, other, otherRun, span,
          String.append_assoc]

/-- The invariant of writing: what has been written stays, and what is written
behind it depends only on the kind of the text at its end. -/
theorem foldl_add (classPrefix : String) (writing : Writing) (tokens : List Token) :
    (tokens.foldl (Writing.add classPrefix) writing).html ++
        closeTag (tokens.foldl (Writing.add classPrefix) writing).kind =
      writing.html ++ continuation classPrefix writing.kind (Token.runs tokens) := by
  induction tokens generalizing writing with
  | nil => rfl
  | cons token tokens induction =>
      rw [List.foldl_cons, induction]
      change _ = writing.html ++
        continuation classPrefix writing.kind (Token.joinRun token (Token.runs tokens))
      by_cases empty : token.text = ""
      · simp [Writing.add, Token.joinRun, empty]
      · by_cases same : token.kind = writing.kind
        · rw [← same, continuation_joinRun_same classPrefix empty]
          simp [Writing.add, empty, same, appendEscaped_eq, String.append_assoc]
        · rw [continuation_joinRun_other classPrefix empty same]
          simp [Writing.add, empty, same, appendEscaped_eq, String.append_assoc]

theorem render_eq_spans (classPrefix : String) (tokens : List Token) :
    render classPrefix tokens = spans classPrefix (Token.runs tokens) := by
  have written := foldl_add classPrefix {} tokens
  rw [continuation_plain] at written
  simpa [render] using written

end PageFilters.Html
