import PageFilters.Document
import PageFilters.Provider

/-!
# Resolution

Every document gets a tokenizer.  The file name is asked first; where nothing
claims it and the content opens with an interpreter directive, the content
alone; and otherwise, or where the provider fails, the document is plain text.
-/

namespace PageFilters

/-- Why a document is shown as plain text. -/
inductive FallbackReason where
  | notRecognized
  /-- There is an interpreter directive, but no grammar for it. -/
  | noShebangMatch
  | ambiguous
  | providerFault
  /-- Highlighting is switched off. -/
  | disabled
  deriving Repr, DecidableEq, Inhabited

inductive Origin where
  | filename
  | shebang
  | fallback (reason : FallbackReason)
  deriving Repr, DecidableEq, Inhabited

def FallbackReason.name : FallbackReason → String
  | .notRecognized => "NotRecognized"
  | .noShebangMatch => "NoShebangMatch"
  | .ambiguous => "Ambiguous"
  | .providerFault => "ProviderFault"
  | .disabled => "Disabled"

def Origin.name : Origin → String
  | .filename => "Filename"
  | .shebang => "Shebang"
  | .fallback reason => "Fallback(" ++ reason.name ++ ")"

/-- A tokenizer for a document, and how it was found. -/
structure Resolution where
  tokenizer : Tokenizer
  origin : Origin

namespace Resolution

/-- Plain text. -/
def fallback (reason : FallbackReason) : Resolution :=
  { tokenizer := .plain, origin := .fallback reason }

/-- Texts in brackets, quoted. -/
def quoteList (texts : List String) : String :=
  "[" ++ ", ".intercalate (texts.map Text.quote) ++ "]"

def faultEvent (message filename : String) (failure : Failure) : Log.Event where
  level := .warn
  message := message
  values := [("filename", Text.quote filename), ("error", failure.message)]

/-- What is told of an ambiguous file name. -/
def ambiguityEvent (filename : String) (candidates : List String) : Log.Event where
  level := .debug
  message := "Ambiguous grammar match"
  values := [("filename", Text.quote filename), ("candidates", quoteList candidates)]

/-- What is told when a tokenizer has been found. -/
def resolvedEvent (filename : String) (resolution : Resolution) : Log.Event where
  level := .debug
  message := "Resolved tokenizer"
  values := [
    ("filename", Text.quote filename),
    ("grammar", Text.quote resolution.tokenizer.grammar),
    ("by", resolution.origin.name)]

end Resolution

variable {m : Type → Type} [Monad m] [Logs m]

/-- Finds a tokenizer by content alone. -/
def resolveByContent (provider : Provider m) (document : Document) : m Resolution := do
  match ← provider.byContent document.content with
  | .ok (some tokenizer) => return { tokenizer := tokenizer, origin := .shebang }
  | .ok none => return .fallback .noShebangMatch
  | .error failure =>
      Logs.tell (Resolution.faultEvent "Content guess failed, using plain text"
        document.filename failure)
      return .fallback .providerFault

/-- Acts on what the file name has said. -/
def resolveGuess (provider : Provider m) (document : Document) :
    Guess Tokenizer → m Resolution
  | .recognized tokenizer => return { tokenizer := tokenizer, origin := .filename }
  | .ambiguous candidates => do
      Logs.tell (Resolution.ambiguityEvent document.filename candidates)
      return .fallback .ambiguous
  | .notRecognized =>
      if document.hasShebang then resolveByContent provider document
      else return .fallback .notRecognized

def resolve (provider : Provider m) (document : Document) : m Resolution := do
  match ← provider.byFilename document.filename document.content with
  | .error failure =>
      Logs.tell (Resolution.faultEvent "Filename guess failed, using plain text"
        document.filename failure)
      return .fallback .providerFault
  | .ok guess =>
      let resolution ← resolveGuess provider document guess
      Logs.tell (Resolution.resolvedEvent document.filename resolution)
      return resolution

end PageFilters
