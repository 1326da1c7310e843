import PageFilters.Regex.Basic

/-!
# Searching

A match is found by trying alternatives in order, first the left one, with a
continuation for what has to match afterwards.  Recursion is on the expression;
a repetition makes at most as many optional rounds as characters are left,
because a round that consumes nothing is its last.
-/

namespace PageFilters.Regex

/-- Start and stop of every group, in characters; group 0 is the whole match. -/
abbrev Groups := Array (Option (Nat × Nat))

structure Match where
  start : Nat
  stop : Nat
  groups : Groups
  deriving Repr, DecidableEq, Inhabited

/-- The span of a group that took part. -/
def Match.group? (found : Match) (number : Nat) : Option (Nat × Nat) :=
  if number == 0 then some (found.start, found.stop) else (found.groups[number]?).join

/-- What has to match after an expression. -/
abbrev Continuation := Nat → Groups → Option (Nat × Groups)

/-- Matches at a position, under a continuation. -/
abbrev Matcher := Nat → Groups → Continuation → Option (Nat × Groups)

/-- Groups with the span of one of them recorded. -/
def recordGroup (groups : Groups) (number start stop : Nat) : Groups :=
  let padded := groups ++ Array.replicate (number + 1 - groups.size) none
  padded.setIfInBounds number (some (start, stop))

/-- Whether an anchor holds at a position. -/
def Anchor.holdsAt (subject : Array Char) (position : Nat) : Anchor → Bool
  | .lineStart =>
      position == 0 || (subject[position - 1]? == some '\n' && position < subject.size)
  | .lineEnd => subject.size ≤ position || subject[position]? == some '\n'
  | .textStart => position == 0
  | .textEnd => subject.size ≤ position
  | .lastLineEnd =>
      subject.size ≤ position ||
        (subject[position]? == some '\n' && position + 1 == subject.size)
  | .wordEdge => wordBefore != wordAfter
  | .notWordEdge => wordBefore == wordAfter
where
  wordBefore : Bool := position != 0 && (subject[position - 1]?.map Text.isWord).getD false
  wordAfter : Bool := (subject[position]?.map Text.isWord).getD false

/-- The position behind the literal, when it stands at `position`. -/
def literalEnd (subject : Array Char) : (chars : List Char) → (position : Nat) → Option Nat
  | [], position => some position
  | char :: rest, position =>
      if subject[position]? == some char then literalEnd subject rest (position + 1) else none

/-- The position behind the characters whose folded images spell `chars`. -/
def foldedEnd (subject : Array Char) :
    (rounds : Nat) → (chars : List Char) → (position : Nat) → Option Nat
  | _, [], position => some position
  | 0, _ :: _, _ => none
  | rounds + 1, chars, position => do
      let image := Text.foldChar (← subject[position]?)
      if image.isPrefixOf chars then
        foldedEnd subject rounds (chars.drop image.length) (position + 1)
      else
        none

def exactly (body : Matcher) : (count : Nat) → Matcher
  | 0, position, groups, next => next position groups
  | count + 1, position, groups, next =>
      body position groups fun stop groups => exactly body count stop groups next

/-- Up to `rounds` rounds, as many as possible first. -/
def upToGreedy (body : Matcher) : (rounds : Nat) → Matcher
  | 0, position, groups, next => next position groups
  | rounds + 1, position, groups, next =>
      (body position groups fun stop inner =>
        if stop == position then next stop inner else upToGreedy body rounds stop inner next)
      <|> next position groups

/-- Up to `rounds` rounds, as few as possible first. -/
def upToReluctant (body : Matcher) : (rounds : Nat) → Matcher
  | 0, position, groups, next => next position groups
  | rounds + 1, position, groups, next =>
      next position groups <|>
        body position groups fun stop inner =>
          if stop == position then next stop inner
          else upToReluctant body rounds stop inner next

/-- The first match without regard to what follows. -/
def committed (body : Matcher) : Matcher := fun position groups next => do
  let (stop, inner) ← body position groups fun stop inner => some (stop, inner)
  next stop inner

/-- Matches that end at `position` and start at most `back` characters before
it, the nearest start first. -/
def endingAt (body : Matcher) (position : Nat) (groups : Groups) :
    (back tried : Nat) → Option (Nat × Groups)
  | back, tried =>
      (body (position - tried) groups fun stop inner =>
        if stop == position then some (stop, inner) else none)
      <|> match back with
        | 0 => none
        | back + 1 => endingAt body position groups back (tried + 1)

/-- Matches an expression at a position of the subject. -/
def matchAt (subject : Array Char) : Regex → Matcher
  | .empty, position, groups, next => next position groups
  | .literal char, position, groups, next =>
      if subject[position]? == some char then next (position + 1) groups else none
  | .folded chars, position, groups, next => do
      next (← foldedEnd subject (subject.size - position) chars position) groups
  | .oneOf charClass ignoreCase, position, groups, next => do
      let char ← subject[position]?
      if (if ignoreCase then charClass.holdsFolded char else charClass.holds char) then
        next (position + 1) groups
      else
        none
  | .anchor condition, position, groups, next =>
      if condition.holdsAt subject position then next position groups else none
  | .concat left right, position, groups, next =>
      matchAt subject left position groups fun stop inner =>
        matchAt subject right stop inner next
  | .either left right, position, groups, next =>
      matchAt subject left position groups next <|> matchAt subject right position groups next
  | .group number inner, position, groups, next =>
      matchAt subject inner position groups fun stop groups =>
        next stop (recordGroup groups number position stop)
  | .repetition inner least most temper, position, groups, next =>
      let body : Matcher := fun position groups next => matchAt subject inner position groups next
      let rounds (reached : Nat) := (most.map (· - least)).getD (subject.size - reached + 1)
      let whole : Matcher := fun position groups next =>
        exactly body least position groups fun stop groups =>
          match temper with
          | .reluctant => upToReluctant body (rounds stop) stop groups next
          | _ => upToGreedy body (rounds stop) stop groups next
      match temper with
      | .possessive => committed whole position groups next
      | _ => whole position groups next
  | .look side wanted inner, position, groups, next =>
      let body : Matcher := fun position groups next => matchAt subject inner position groups next
      let seen := match side with
        | .ahead => body position groups fun stop inner => some (stop, inner)
        | .behind =>
            endingAt body position groups (min position (inner.longest.getD position)) 0
      match wanted, seen with
      | true, some (_, inner) => next position inner
      | false, none => next position groups
      | _, _ => none
  | .atomic inner, position, groups, next =>
      committed (fun position groups next => matchAt subject inner position groups next)
        position groups next
  | .backref number ignoreCase, position, groups, next => do
      let (start, stop) ← (groups[number]?).join
      let chars := (subject.extract start stop).toList
      if ignoreCase then
        next (← foldedEnd subject (subject.size - position)
          (chars.flatMap Text.foldChar) position) groups
      else
        next (← literalEnd subject chars position) groups

/-- Tries `count + 1` start positions in ascending order. -/
def searchFrom (regex : Regex) (subject : Array Char) : (count start : Nat) → Option Match
  | count, start =>
      match matchAt subject regex start #[] fun stop groups => some (stop, groups) with
      | some (stop, groups) => some { start, stop, groups }
      | none =>
          match count with
          | 0 => none
          | count + 1 => searchFrom regex subject count (start + 1)

/-- The match that starts first, at or behind `start`. -/
def search (regex : Regex) (subject : Array Char) (start : Nat) : Option Match :=
  if subject.size < start then none
  else searchFrom regex subject (subject.size - start) start

end PageFilters.Regex
