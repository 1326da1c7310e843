import PageFilters.Html.Escaped
import PageFilters.Token

/-!
# Tokens as spans

Tokens are written one after the other.  Text of a kind stands in a span whose
class is the class prefix and the kind's suffix; plain text stands outside of
every span.  Neighbours of one kind share a span, and empty tokens leave no
trace.
-/

namespace PageFilters.Html

/-- The tag that opens a span of a kind; plain text has none. -/
def openTag (classPrefix : String) (kind : TokenKind) : String :=
  if kind.isPlain then "" else "<span class=\"" ++ classPrefix ++ kind.classSuffix ++ "\">"

def closeTag (kind : TokenKind) : String :=
  if kind.isPlain then "" else "</span>"

/-- What has been written, and the kind of the text at its end. -/
structure Writing where
  html : String := ""
  kind : TokenKind := .plain
  deriving Repr, DecidableEq, Inhabited

/-- Writes one token. -/
def Writing.add (classPrefix : String) (writing : Writing) (token : Token) : Writing :=
  if token.text.isEmpty then writing
  else if token.kind == writing.kind then
    { writing with html := appendEscaped writing.html token.text }
  else
    let opened := writing.html ++ closeTag writing.kind ++ openTag classPrefix token.kind
    { html := appendEscaped opened token.text, kind := token.kind }

def render (classPrefix : String) (tokens : List Token) : String :=
  let writing := tokens.foldl (Writing.add classPrefix) {}
  writing.html ++ closeTag writing.kind

end PageFilters.Html
