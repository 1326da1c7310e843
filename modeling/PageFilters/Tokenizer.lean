import PageFilters.Grammar.LineParser
import PageFilters.Token.Stream

/-!
# Tokenizers

A tokenizer splits a text into tokens by one grammar.  The plain one, which
every document falls back to, makes one token of the whole text.
-/

namespace PageFilters

/-- The tokens of a text, and the fault after which the grammar gave up. -/
structure Tokenization where
  tokens : List Token
  fault : Option CutFault := none
  deriving Repr, DecidableEq, Inhabited

/-- Splits texts by one grammar. -/
structure Tokenizer where
  /-- Name of the grammar. -/
  grammar : String
  tokenize : String → Tokenization

namespace Tokenizer

/-- Name of the grammar that knows nothing. -/
def plainName : String := "Plain Text"

def plain : Tokenizer where
  grammar := plainName
  tokenize text := { tokens := if text.isEmpty then [] else [Token.plain text] }

/-- The tokenizer of an engine whose documents start in a given state. -/
def ofEngine {σ : Type} (grammar : String) (engine : Engine σ) (start : σ) : Tokenizer where
  grammar := grammar
  tokenize text :=
    let (tokens, fault) := (TokenStream.start start text.toList).drain engine
    { tokens, fault }

end Tokenizer

def GrammarSet.engine (set : GrammarSet) : Engine Grammar.ParserState where
  parseLine state line := (Grammar.parseLine set state line).mapError (·.message)

/-- The tokenizer of a grammar, whose contexts are looked up in the set. -/
def GrammarSet.tokenizer (set : GrammarSet) (grammar : Grammar) : Tokenizer :=
  Tokenizer.ofEngine grammar.name set.engine (Grammar.ParserState.initial grammar.start)

end PageFilters
