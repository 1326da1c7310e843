import PageFilters.FileName
import PageFilters.Tokenizer

/-!
# Guessing a grammar

Grammars claim base names and extensions, and recognize documents by their
first lines.  A claim to the base name wins over claims to the extension; the
first line decides between several claims, and where it speaks for a grammar
that makes none the document is ambiguous.
-/

namespace PageFilters

/-- What a file name, with the content's help, says about the grammar. -/
inductive Guess (α : Type) where
  | recognized (answer : α)
  /-- Nothing claims the file. -/
  | notRecognized
  /-- Several grammars claim the file, and the content speaks for another one. -/
  | ambiguous (candidates : List String)
  deriving Repr, DecidableEq

def Guess.map {α β : Type} (change : α → β) : Guess α → Guess β
  | .recognized answer => .recognized (change answer)
  | .notRecognized => .notRecognized
  | .ambiguous candidates => .ambiguous candidates

namespace Grammar

def claimsName (grammar : Grammar) (name : String) : Bool :=
  grammar.claims.any (FileName.sameName · name)

def claimsFile (grammar : Grammar) (base : String) (extension : Option String) : Bool :=
  grammar.claimsName base || extension.any grammar.claimsName

/-- The position at which a grammar lists an extension, none if it does not. -/
def rank? (grammar : Grammar) (extension : Option String) : Option Nat := do
  let extension ← extension
  grammar.claims.findIdx? (FileName.sameName · extension)

/-- Whether the first position comes before the second; no position comes last. -/
def rankLess : Option Nat → Option Nat → Bool
  | some left, some right => left < right
  | some _, none => true
  | none, _ => false

/-- Of grammars with one name the first one. -/
def firstOfEachName : List Grammar → List Grammar
  | [] => []
  | grammar :: rest =>
      grammar :: (firstOfEachName rest).filter fun other => other.name != grammar.name

/-- The grammar that lists the extension earliest, of several the first one. -/
def earliest (extension : Option String) (first : Grammar) (rest : List Grammar) : Grammar :=
  rest.foldl (fun best grammar =>
    if rankLess (grammar.rank? extension) (best.rank? extension) then grammar else best) first

end Grammar

namespace GrammarSet

/-- The grammars that claim a file, those that claim its base name first. -/
def candidates (set : GrammarSet) (base : String) (extension : Option String) : List Grammar :=
  let claiming := set.grammars.filter fun grammar =>
    grammar.name != Tokenizer.plainName && grammar.claimsFile base extension
  let found := Grammar.firstOfEachName claiming
  found.filter (·.claimsName base) ++ found.filter (!·.claimsName base)

/-- The candidate to take when the first line is silent. -/
def preferred (base : String) (extension : Option String) (first : Grammar)
    (rest : List Grammar) : Grammar :=
  if first.claimsName base then first else Grammar.earliest extension first rest

/-- The first line of a content, without its ending and without a byte order
mark. -/
def firstLine (content : String) : List Char :=
  let chars := content.toList
  let line := chars.takeWhile (· != '\n')
  let line :=
    if line.length < chars.length && line.getLast? == some '\r' then line.dropLast else line
  if line.head? == some '\ufeff' then line.drop 1 else line

/-- The last loaded grammar whose pattern is found in a line. -/
def findByLine? (set : GrammarSet) (line : List Char) : Option Grammar :=
  set.grammars.reverse.find? fun grammar =>
    (grammar.firstLine.bind fun regex => regex.search line.toArray 0).isSome

/-- The grammar that the first line of a content speaks for, unless it is the
plain one. -/
def hint? (set : GrammarSet) (content : String) : Option Grammar :=
  (set.findByLine? (firstLine content)).filter fun grammar =>
    grammar.name != Tokenizer.plainName

/-- Guesses by file name; the content helps where several grammars claim it. -/
def guess (set : GrammarSet) (filename content : String) : Guess Grammar :=
  match FileName.base? filename with
  | none => .notRecognized
  | some base =>
      let extension := FileName.extension? base
      match set.candidates base extension with
      | [] => .notRecognized
      | [only] => .recognized only
      | first :: rest =>
          match set.hint? content with
          | some hint =>
              if (first :: rest).any fun candidate => candidate.name == hint.name then
                .recognized hint
              else
                .ambiguous ((first :: rest).map (·.name))
          | none => .recognized (preferred base extension first rest)

/-- The tokenizer of the grammar of a name; the plain one if there is none. -/
def tokenizerNamed (set : GrammarSet) (name : String) : Tokenizer :=
  match set.find? name with
  | some grammar =>
      if grammar.name == Tokenizer.plainName then Tokenizer.plain else set.tokenizer grammar
  | none => Tokenizer.plain

end GrammarSet

end PageFilters
