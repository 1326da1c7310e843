/-!
# Tokens

A token is a piece of a document's text with the kind that decides how the
page shows it.
-/

namespace PageFilters

/-- What a piece of text is, as far as its looks are concerned. -/
inductive TokenKind where
  | plain
  | keyword
  | keywordType
  | constant
  | number
  | string
  | escape
  | regex
  | comment
  | preprocessor
  | operator
  | punctuation
  | functionName
  | typeName
  | tagName
  | attributeName
  | variableName
  | builtin
  | heading
  | emphasis
  | strong
  | inserted
  | deleted
  | error
  deriving Repr, DecidableEq, Inhabited

namespace TokenKind

def all : List TokenKind :=
  [.plain, .keyword, .keywordType, .constant, .number, .string, .escape, .regex, .comment,
    .preprocessor, .operator, .punctuation, .functionName, .typeName, .tagName, .attributeName,
    .variableName, .builtin, .heading, .emphasis, .strong, .inserted, .deleted, .error]

/-- What a kind's class name has behind the class prefix. -/
def classSuffix : TokenKind → String
  | .plain => ""
  | .keyword => "k"
  | .keywordType => "kt"
  | .constant => "kc"
  | .number => "m"
  | .string => "s"
  | .escape => "se"
  | .regex => "sr"
  | .comment => "c"
  | .preprocessor => "cp"
  | .operator => "o"
  | .punctuation => "p"
  | .functionName => "nf"
  | .typeName => "nc"
  | .tagName => "nt"
  | .attributeName => "na"
  | .variableName => "nv"
  | .builtin => "nb"
  | .heading => "gh"
  | .emphasis => "ge"
  | .strong => "gs"
  | .inserted => "gi"
  | .deleted => "gd"
  | .error => "err"

/-- Whether text of this kind stands outside of every span. -/
def isPlain (kind : TokenKind) : Bool := kind == .plain

theorem mem_all (kind : TokenKind) : kind ∈ all := by
  cases kind <;> decide

theorem classSuffix_injective {left right : TokenKind}
    (equal : left.classSuffix = right.classSuffix) : left = right := by
  cases left <;> cases right <;> first | rfl | exact absurd equal (by decide)

end TokenKind

structure Token where
  kind : TokenKind
  text : String
  deriving Repr, DecidableEq, Inhabited

/-- A token without a kind of its own. -/
def Token.plain (text : String) : Token := ⟨.plain, text⟩

end PageFilters
