import PageFilters.Html.Page
import PageFilters.Html.Spans
import PageFilters.Resolution
import PageFilters.Theme.StyleSheets

/-!
# Highlighting

A document becomes a page snippet: it is split by the tokenizer found for it,
the tokens are written as spans, and the two style sheets stand in front.
Nothing on the way can fail: a style sheet that is not to be had is empty.
-/

namespace PageFilters

structure Highlighted where
  html : String
  /-- Name of the grammar. -/
  grammar : String
  origin : Origin
  deriving Repr, DecidableEq, Inhabited

def StyleSheets.cssEvent (slot : Slot) : Except Failure String → Log.Event
  | .ok css => {
      level := .debug
      message := "Generated stylesheet"
      values := [("theme", slot.name), ("rules", (css.toList.count '\n').repr)] }
  | .error failure => {
      level := .error
      message := "Stylesheet unavailable, emitting empty rule set"
      values := [("theme", slot.name), ("error", failure.message)] }

/-- The style sheet of a slot, empty where there is none. -/
def StyleSheets.cssOrEmpty (sheets : StyleSheets) (slot : Slot) : String :=
  match sheets.css slot with
  | .ok css => css
  | .error _ => ""

def Tokenizer.faultEvent (tokenizer : Tokenizer) (fault : CutFault) : Log.Event where
  level := .warn
  message := "Grammar failed mid-document, emitting the rest as plain text"
  values := [
    ("grammar", Text.quote tokenizer.grammar),
    ("error", (Failure.tokenize fault.message).message)]

variable {m : Type → Type} [Monad m] [Logs m]

/-- The style sheet of a slot, empty where there is none, with a word on it in
the log. -/
def StyleSheets.prepare (sheets : StyleSheets) (slot : Slot) : m String := do
  Logs.tell (StyleSheets.cssEvent slot (sheets.css slot))
  return sheets.cssOrEmpty slot

/-- Finds a tokenizer for a document, unless highlighting is switched off. -/
def resolveBySettings (provider : Provider m) (settings : Settings) (document : Document) :
    m Resolution :=
  if settings.highlightingEnabled then resolve provider document
  else pure (.fallback .disabled)

/-- Makes the page of a document whose tokenizer has been found. -/
def Resolution.present (settings : Settings) (sheets : StyleSheets) (document : Document)
    (resolution : Resolution) : m Highlighted := do
  let tokenization := resolution.tokenizer.tokenize document.content
  if let some fault := tokenization.fault then
    Logs.tell (resolution.tokenizer.faultEvent fault)
  let fragment := Html.render settings.classPrefix tokenization.tokens
  let dark ← sheets.prepare .dark
  let light ← sheets.prepare .light
  return {
    html := Html.assemble dark light fragment
    grammar := resolution.tokenizer.grammar
    origin := resolution.origin }

def highlight (provider : Provider m) (settings : Settings) (sheets : StyleSheets)
    (document : Document) : m Highlighted := do
  let resolution ← resolveBySettings provider settings document
  resolution.present settings sheets document

end PageFilters
