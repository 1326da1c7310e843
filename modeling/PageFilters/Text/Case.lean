import PageFilters.Text.CaseTable

/-!
# Lower case and case folding

`lowercase` gives the lower-case form of a text.  One character's image
depends on its neighbours: a capital sigma that ends a word becomes `ς`.
`foldChar` gives the form in which two characters are compared when case does
not count.
-/

namespace PageFilters.Text

/-- The lower-case image of a character on its own. -/
def lowerChar (char : Char) : List Char :=
  if char.toNat < 0x80 then [char.toLower]
  else if char.toNat == 0x130 then ['i', '\u0307']
  else [((caseImage? lowerRuns char.toNat).map Char.ofNat).getD char]

/-- Whether the search for a cased neighbour passes over the character. -/
def isCaseIgnorable (char : Char) : Bool :=
  if char.toNat < 0x80 then
    char == '\x27' || char == '.' || char == ':' || char == '^' || char == '\x60'
  else
    ignorableTable.holds char.toNat

/-- Whether a character has case and is not case-ignorable. -/
def isCased (char : Char) : Bool :=
  if char.toNat < 0x80 then char.isAlpha else casedTable.holds char.toNat

/-- Whether the first character that is not case-ignorable is cased. -/
def startsCased (text : List Char) : Bool :=
  ((text.dropWhile isCaseIgnorable).head?.map isCased).getD false

/-- Whether a capital sigma between `before`, the text before it read
backwards, and `after` ends a word. -/
def endsWord (before after : List Char) : Bool :=
  startsCased before && !startsCased after

/-- The lower-case image of a character between `before`, read backwards, and
`after`. -/
def lowerAt (before : List Char) (char : Char) (after : List Char) : List Char :=
  if char == 'Σ' then [if endsWord before after then 'ς' else 'σ'] else lowerChar char

/-- Lower-cases a text that follows `before`, which is read backwards. -/
def lowercaseAfter (before : List Char) : List Char → List Char
  | [] => []
  | char :: rest => lowerAt before char rest ++ lowercaseAfter (char :: before) rest

def lowercase (text : List Char) : List Char :=
  lowercaseAfter [] text

def foldChar (char : Char) : List Char :=
  if char.toNat < 0x80 then [char.toLower]
  else match caseImage? foldRuns char.toNat with
    | some point => [Char.ofNat point]
    | none =>
        match longFolds.find? (·.1 == char.toNat) with
        | some (_, points) => points.map Char.ofNat
        | none => [char]

end PageFilters.Text
