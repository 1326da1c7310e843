import PageFilters.Regex.Basic
import PageFilters.Text.Digits

/-!
# Reading regular expressions

The written form of expressions: alternation, repetition with a suffix for its
temper, bracketed classes with nesting and intersection, look-around, inline
options and back-references by number.

Every reader takes the number of nested calls it may still make; `parse?`
gives it a multiple of the length of the text, of which each call but the
bookkeeping ones consumes a character.
-/

namespace PageFilters.Regex

/-- Options that hold while a part of an expression is read. -/
structure Options where
  ignoreCase : Bool := false
  /-- Blanks and comments outside of classes mean nothing. -/
  extended : Bool := false
  /-- The dot also stands for a line feed. -/
  dotAll : Bool := false
  deriving Repr, DecidableEq, Inhabited

/-- What is left to read, and how many groups have been opened. -/
structure Reading where
  rest : List Char
  groups : Nat
  deriving Repr, DecidableEq, Inhabited

abbrev Reader := StateT Reading Option

def peek : Reader (Option Char) := do return (← get).rest.head?

def skip (count : Nat) : Reader Unit :=
  modify fun reading => { reading with rest := reading.rest.drop count }

/-- Reads one character. -/
def anyChar : Reader Char := do
  let some char ← peek | failure
  skip 1
  return char

/-- Passes over the given text if it comes next. -/
def accept (text : String) : Reader Bool := do
  if text.toList.isPrefixOf (← get).rest then
    skip text.length
    return true
  else
    return false

/-- Reads the longest run of characters of a kind. -/
def readWhile (wanted : Char → Bool) : Reader (List Char) := do
  let run := (← get).rest.takeWhile wanted
  skip run.length
  return run

/-- Reads at most `count` characters of a kind. -/
def readUpTo (count : Nat) (wanted : Char → Bool) : Reader (List Char) := do
  let run := ((← get).rest.take count).takeWhile wanted
  skip run.length
  return run

/-- Blanks that an extended expression ignores. -/
def isIgnorable (char : Char) : Bool :=
  char == ' ' || ('\t' ≤ char && char ≤ '\r')

/-- Passes over blanks and comments. -/
def skipIgnorable : (rounds : Nat) → Reader Unit
  | 0 => pure ()
  | rounds + 1 => do
      match ← peek with
      | some '#' =>
          let _ ← readWhile (· != '\n')
          skipIgnorable rounds
      | some char =>
          if isIgnorable char then
            skip 1
            skipIgnorable rounds
      | none => pure ()

/-- Passes over what the options ignore. -/
def skipBetween (options : Options) : Reader Unit := do
  if options.extended then
    skipIgnorable (← get).rest.length

/-- The class with the given property name, as written in `\p{…}` or between
`[:` and `:]`. -/
def propertyClass? (name : String) : Option CharClass :=
  match name.toLower with
  | "l" | "letter" => some .letter
  | "lu" => some .upper
  | "ll" => some .lower
  | "n" => some .number
  | "nd" => some .digit
  | "alpha" | "alphabetic" => some .letter
  | "upper" => some .upper
  | "lower" => some .lower
  | "digit" => some .digit
  | "alnum" => some (.union .letter .digit)
  | "space" => some .blank
  | "xdigit" => some .hexDigit
  | "word" => some .word
  | "blank" => some (.union (.single ' ') (.single '\t'))
  | "cntrl" => some (.union (.range '\x00' '\x1f') (.single '\x7f'))
  | "ascii" => some (.range '\x00' '\x7f')
  | "any" => some .all
  | _ => none

/-- Reads the property name behind `\p` or `\P`. -/
def readProperty (negated : Bool) : Reader CharClass := do
  if !(← accept "\x7b") then failure
  let inverted ← accept "^"
  let name ← readWhile (· != '\x7d')
  skip 1
  let some charClass := propertyClass? (String.ofList name) | failure
  return if negated != inverted then .complement charClass else charClass

/-- The class that a letter behind a backslash names. -/
def escapedClass? : Char → Option CharClass
  | 'd' => some .digit
  | 'D' => some (.complement .digit)
  | 'w' => some .word
  | 'W' => some (.complement .word)
  | 's' => some .blank
  | 'S' => some (.complement .blank)
  | 'h' => some .hexDigit
  | 'H' => some (.complement .hexDigit)
  | _ => none

/-- Reads the character that an escape spells; its first character behind the
backslash has been read. -/
def readEscapedChar (char : Char) : Reader Char := do
  match char with
  | 'n' => return '\n'
  | 't' => return '\t'
  | 'r' => return '\r'
  | 'f' => return '\x0c'
  | 'v' => return '\x0b'
  | 'a' => return '\x07'
  | 'e' => return '\x1b'
  | 'x' =>
      if ← accept "\x7b" then
        let digits ← readWhile Text.isHexDigit
        if !(← accept "\x7d") then failure
        return Char.ofNat (Text.numeral 16 digits)
      else
        return Char.ofNat (Text.numeral 16 (← readUpTo 2 Text.isHexDigit))
  | 'u' => return Char.ofNat (Text.numeral 16 (← readUpTo 4 Text.isHexDigit))
  | '0' =>
      return Char.ofNat (Text.numeral 8 (← readUpTo 2 fun char => '0' ≤ char && char ≤ '7'))
  | _ => return char

/-- One member of a bracketed class: a character, which may begin a range, or
a class of its own. -/
inductive Member where
  | char (char : Char)
  | charClass (charClass : CharClass)

/-- Reads the member that a backslash begins. -/
def readEscapedMember : Reader Member := do
  let char ← anyChar
  match char with
  | 'p' => return .charClass (← readProperty false)
  | 'P' => return .charClass (← readProperty true)
  | 'b' => return .char '\x08'
  | _ =>
      match escapedClass? char with
      | some charClass => return .charClass charClass
      | none =>
          if '1' ≤ char && char ≤ '7' then
            let more ← readUpTo 2 fun char => '0' ≤ char && char ≤ '7'
            return .char (Char.ofNat (Text.numeral 8 (char :: more)))
          else
            return .char (← readEscapedChar char)

/-- The name of a bracketed property that begins the text, and its length. -/
def posixName? (rest : List Char) : Option (Bool × List Char) := do
  let inner ← if "[:".toList.isPrefixOf rest then some (rest.drop 2) else none
  let inverted := inner.head? == some '^'
  let name := (if inverted then inner.drop 1 else inner).takeWhile (·.isAlpha)
  let behind := inner.drop ((if inverted then 1 else 0) + name.length)
  if ":]".toList.isPrefixOf behind then some (inverted, name) else none

mutual

/-- Reads a bracketed class behind its opening bracket. -/
def readClass : (calls : Nat) → Reader CharClass
  | 0 => failure
  | calls + 1 => do
      let negated ← accept "^"
      let leading ← accept "]"
      let inner ← readMembers calls (if leading then .single ']' else .empty)
      return if negated then .complement inner else inner

/-- Reads the members of a class up to its closing bracket. -/
def readMembers : (calls : Nat) → (read : CharClass) → Reader CharClass
  | 0, _ => failure
  | calls + 1, read => do
      if ← accept "]" then
        return read
      else if ← accept "&&" then
        return .intersection read (← readMembers calls .empty)
      else
        let member ← readMember calls
        match member with
        | .charClass charClass => readMembers calls (.union read charClass)
        | .char first =>
            let rest := (← get).rest
            let spans := rest.head? == some '-' && rest[1]?.isSome && rest[1]? != some ']'
            if !spans then
              readMembers calls (.union read (.single first))
            else
              skip 1
              match ← readMember calls with
              | .char last =>
                  if last < first then failure
                  readMembers calls (.union read (.range first last))
              | .charClass charClass =>
                  let both := CharClass.union (.single first) (.union (.single '-') charClass)
                  readMembers calls (.union read both)

/-- Reads one member of a class. -/
def readMember : (calls : Nat) → Reader Member
  | 0 => failure
  | calls + 1 => do
      match posixName? (← get).rest with
      | some (inverted, name) =>
          let some charClass := propertyClass? (String.ofList name) | failure
          skip (name.length + (if inverted then 5 else 4))
          return .charClass (if inverted then .complement charClass else charClass)
      | none =>
          let char ← anyChar
          match char with
          | '\\' => readEscapedMember
          | '[' => return .charClass (← readClass calls)
          | _ => return .char char

end

/-- A literal character under the options. -/
def literalOf (options : Options) (char : Char) : Regex :=
  if options.ignoreCase then .folded (Text.foldChar char) else .literal char

/-- Reads what a backslash begins outside of a class. -/
def readEscape (options : Options) : Reader Regex := do
  let char ← anyChar
  let classOf (charClass : CharClass) : Regex := .oneOf charClass false
  match char with
  | 'A' => return .anchor .textStart
  | 'z' => return .anchor .textEnd
  | 'Z' => return .anchor .lastLineEnd
  | 'b' => return .anchor .wordEdge
  | 'B' => return .anchor .notWordEdge
  | 'p' => return classOf (← readProperty false)
  | 'P' => return classOf (← readProperty true)
  | _ =>
      match escapedClass? char with
      | some charClass => return classOf charClass
      | none =>
          if '1' ≤ char && char ≤ '9' then
            let more ← readUpTo 1 Char.isDigit
            return .backref (Text.numeral 10 (char :: more)) options.ignoreCase
          else
            return literalOf options (← readEscapedChar char)

/-- The bounds of an interval such as `{2,5}`, with the count of characters it
takes; the text follows the opening brace. -/
def interval? (rest : List Char) : Option (Nat × Option Nat × Nat) :=
  let low := rest.takeWhile Char.isDigit
  let behind := rest.drop low.length
  match behind with
  | '\x7d' :: _ =>
      if low.isEmpty then none
      else some (Text.numeral 10 low, some (Text.numeral 10 low), low.length + 1)
  | ',' :: behind =>
      let high := behind.takeWhile Char.isDigit
      if behind[high.length]? != some '\x7d' || (low.isEmpty && high.isEmpty) then none
      else
        let most := if high.isEmpty then none else some (Text.numeral 10 high)
        some (Text.numeral 10 low, most, low.length + high.length + 2)
  | _ => none

/-- Reads the repetition suffixes behind an expression. -/
def readSuffixes (options : Options) : (rounds : Nat) → Regex → Reader Regex
  | 0, regex => return regex
  | rounds + 1, regex => do
      skipBetween options
      let simple (least : Nat) (most : Option Nat) : Reader Regex := do
        skip 1
        let temper ←
          if ← accept "?" then pure Temper.reluctant
          else if ← accept "+" then pure Temper.possessive
          else pure Temper.greedy
        readSuffixes options rounds (.repetition regex least most temper)
      match ← peek with
      | some '*' => simple 0 none
      | some '+' => simple 1 none
      | some '?' => simple 0 (some 1)
      | some '\x7b' =>
          match interval? ((← get).rest.drop 1) with
          | none => return regex
          | some (least, most, width) =>
              skip (width + 1)
              if (← peek) == some '?' && most != some least then
                skip 1
                readSuffixes options rounds (.repetition regex least most .reluctant)
              else
                readSuffixes options rounds (.repetition regex least most .greedy)
      | _ => return regex

/-- Reads inline option letters; a minus switches the following ones off. -/
def readOptions : (rounds : Nat) → (value : Bool) → Options → Reader Options
  | 0, _, _ => failure
  | rounds + 1, value, options => do
      match ← peek with
      | some '-' => skip 1; readOptions rounds false options
      | some 'i' => skip 1; readOptions rounds value { options with ignoreCase := value }
      | some 'x' => skip 1; readOptions rounds value { options with extended := value }
      | some 'm' => skip 1; readOptions rounds value { options with dotAll := value }
      | some ':' | some ')' => return options
      | _ => failure

mutual

/-- Reads alternatives up to the end of the group. -/
def readAlternatives : (calls : Nat) → Options → Reader Regex
  | 0, _ => failure
  | calls + 1, options => do
      let first ← readSequence calls options .empty
      if ← accept "|" then
        return .either first (← readAlternatives calls options)
      else
        return first

/-- Reads one alternative behind what has been read of it. -/
def readSequence : (calls : Nat) → Options → (read : Regex) → Reader Regex
  | 0, _, _ => failure
  | calls + 1, options, read => do
      skipBetween options
      match ← peek with
      | none | some ')' | some '|' => return read
      | some _ =>
          let atom ← readAtom calls options
          let piece ← readSuffixes options calls atom
          readSequence calls options (read.append piece)

/-- Reads one atom. -/
def readAtom : (calls : Nat) → Options → Reader Regex
  | 0, _ => failure
  | calls + 1, options => do
      let char ← anyChar
      match char with
      | '.' => return .oneOf (if options.dotAll then .all else .notLineFeed) false
      | '^' => return .anchor .lineStart
      | '$' => return .anchor .lineEnd
      | '[' => return .oneOf (← readClass calls) options.ignoreCase
      | '(' => readGroup calls options
      | '\\' => readEscape options
      | '*' | '+' | '?' => failure
      | _ => return literalOf options char

/-- Reads a group behind its opening parenthesis. -/
def readGroup : (calls : Nat) → Options → Reader Regex
  | 0, _ => failure
  | calls + 1, options => do
      let inner (options : Options) : Reader Regex := do
        let regex ← readAlternatives calls options
        if !(← accept ")") then failure
        return regex
      if ← accept "?:" then inner options
      else if ← accept "?=" then return .look .ahead true (← inner options)
      else if ← accept "?!" then return .look .ahead false (← inner options)
      else if ← accept "?<=" then return .look .behind true (← inner options)
      else if ← accept "?<!" then return .look .behind false (← inner options)
      else if ← accept "?>" then return .atomic (← inner options)
      else if ← accept "?#" then
        let _ ← readWhile (· != ')')
        skip 1
        return .empty
      else if ← accept "?" then
        let options ← readOptions calls true options
        if ← accept ":" then
          inner options
        else
          skip 1
          readAlternatives calls options
      else
        let number := (← get).groups + 1
        modify fun reading => { reading with groups := number }
        return .group number (← inner options)

end

/-- The expression that a text spells. -/
def parse? (text : List Char) : Option Regex := do
  let (regex, reading) ←
    (readAlternatives (4 * text.length + 4) {}).run { rest := text, groups := 0 }
  if reading.rest.isEmpty then some regex else none

end PageFilters.Regex
