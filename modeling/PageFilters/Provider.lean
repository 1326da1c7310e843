import PageFilters.Failure
import PageFilters.Log
import PageFilters.Registry
import PageFilters.Text.Quoted

/-!
# Providers

A provider is asked for tokenizers: by file name and content, or by content
alone.  It may fail to answer, which is not the same as not knowing the file.
-/

namespace PageFilters

/-- Answers questions about tokenizers. -/
structure Provider (m : Type → Type) where
  byFilename : (filename content : String) → m (Except Failure (Guess Tokenizer))
  byContent : (content : String) → m (Except Failure (Option Tokenizer))

namespace Provider

structure Calls where
  byFilename : Nat := 0
  byContent : Nat := 0
  deriving Repr, DecidableEq, Inhabited

/-- The same provider, with its questions counted. -/
def counted {m : Type → Type} [Monad m] (provider : Provider m) : Provider (StateT Calls m) where
  byFilename filename content := do
    modify fun calls => { calls with byFilename := calls.byFilename + 1 }
    StateT.lift (provider.byFilename filename content)
  byContent content := do
    modify fun calls => { calls with byContent := calls.byContent + 1 }
    StateT.lift (provider.byContent content)

end Provider

/-- What is told where the first line speaks against every claim to a file. -/
def GrammarSet.contradictionEvent (set : GrammarSet) (filename content : String) : Log.Event where
  level := .debug
  message := "Content contradicts filename grammars"
  values := [
    ("filename", Text.quote filename),
    ("first_line", ((set.hint? content).map (·.name)).getD "")]

/-- The provider that guesses among the grammars of a set and answers with the
tokenizers made of them. -/
def GrammarSet.providerOf {m : Type → Type} [Monad m] [Logs m] (set : GrammarSet)
    (tokenizer : Grammar → Tokenizer) : Provider m where
  byFilename filename content := do
    let guess := set.guess filename content
    if guess matches .ambiguous _ then
      Logs.tell (set.contradictionEvent filename content)
    return .ok (guess.map tokenizer)
  byContent content := pure (.ok ((set.hint? content).map tokenizer))

/-- The provider whose tokenizers parse by the contexts of the set. -/
def GrammarSet.provider {m : Type → Type} [Monad m] [Logs m] (set : GrammarSet) : Provider m :=
  set.providerOf set.tokenizer

end PageFilters
