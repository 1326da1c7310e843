import PageFilters.Text.Utf8

/-!
# Documents

A document is the decoded content of a file, with the name it goes by.
-/

namespace PageFilters

/-- A file to be shown. -/
structure Document where
  filename : String
  content : String
  deriving Repr, DecidableEq, Inhabited

namespace Document

def ofBytes (filename : String) (bytes : Text.Bytes) : Document :=
  { filename := filename, content := String.ofList (Text.decodeLossy bytes) }

def hasShebang (document : Document) : Bool :=
  ['#', '!'].isPrefixOf document.content.toList

end Document

end PageFilters
