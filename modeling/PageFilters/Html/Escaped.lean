import PageFilters.Text.Slice

/-!
# Escaped text

The five characters that mean something in HTML text and attribute values are
written as entities.  The stretches between them are copied whole, so the text
is cut at octet offsets.  No cut falls into a character, and what comes of it is
the text written character by character.
-/

namespace PageFilters.Html

/-- The entity of a character that cannot stand for itself. -/
def entity? : Char → Option String
  | '&' => some "&amp;"
  | '<' => some "&lt;"
  | '>' => some "&gt;"
  | '\x22' => some "&quot;"
  | '\x27' => some "&#39;"
  | _ => none

/-- A character as it is written in HTML. -/
def escapeChar (char : Char) : List Char :=
  match entity? char with
  | some entity => entity.toList
  | none => [char]

/-- Goes on writing a text, of which `rest` is what stands behind octet `offset`
and is still to be looked at.  Up to octet `copied` it has been written; the
stretch from there to the next entity, or to the end, is copied at once. -/
def copyFrom? (text written : String) (copied offset : Nat) : List Char → Option String
  | [] => do
      let stretch ← Text.slice? text copied text.utf8ByteSize
      return written ++ stretch
  | char :: rest =>
      match entity? char with
      | none => copyFrom? text written copied (offset + char.utf8Size) rest
      | some entity => do
          let stretch ← Text.slice? text copied offset
          copyFrom? text (written ++ stretch ++ entity) (offset + 1) (offset + char.utf8Size) rest

theorem utf8Size_of_entity?_eq_some {char : Char} {entity : String}
    (found : entity? char = some entity) : char.utf8Size = 1 := by
  unfold entity? at found
  split at found
  all_goals first | rfl | cases found

/-- The invariant of the copying: `before` has been written, and `pending`, the
stretch between it and what is still to be looked at, has not. -/
theorem copyFrom?_eq {text before pending : String} {rest : List Char} {copied offset : Nat}
    (written : String) (parts : text = before ++ pending ++ String.ofList rest)
    (done : before.utf8ByteSize = copied) (reached : copied + pending.utf8ByteSize = offset) :
    copyFrom? text written copied offset rest =
      some (written ++ pending ++ String.ofList (rest.flatMap escapeChar)) := by
  induction rest generalizing before pending copied offset written with
  | nil =>
      have stretch : Text.slice? text copied text.utf8ByteSize = some pending := by
        refine Text.slice?_eq_some_iff.mpr ⟨before, "", parts, done, ?_⟩
        simp [parts, done]
      simp [copyFrom?, stretch]
  | cons char rest induction =>
      cases found : entity? char with
      | none =>
          have partsBehind : text = before ++ (pending ++ String.singleton char) ++
              String.ofList rest := by
            rw [parts, String.ofList_cons, String.append_assoc, String.append_assoc,
              String.append_assoc]
          have reachedBehind : copied + (pending ++ String.singleton char).utf8ByteSize =
              offset + char.utf8Size := by
            rw [String.utf8ByteSize_append, String.utf8ByteSize_singleton, ← reached,
              Nat.add_assoc]
          have goesOn := induction written partsBehind done reachedBehind
          simp only [copyFrom?, found, goesOn, Option.some.injEq]
          exact String.toList_inj.mp (by simp [escapeChar, found])
      | some entity =>
          have stretch : Text.slice? text copied offset = some pending :=
            Text.slice?_eq_some_iff.mpr ⟨before, String.ofList (char :: rest), parts, done, reached⟩
          -- The character takes one octet, so behind its entity nothing is pending.
          have oneOctet := utf8Size_of_entity?_eq_some found
          have partsBehind : text = before ++ pending ++ String.singleton char ++ "" ++
              String.ofList rest := by
            rw [parts, String.ofList_cons, String.append_empty, ← String.append_assoc]
          have doneBehind : (before ++ pending ++ String.singleton char).utf8ByteSize =
              offset + 1 := by
            simp [done, ← reached, oneOctet]
          have reachedBehind : offset + 1 + "".utf8ByteSize = offset + char.utf8Size := by
            simp [oneOctet]
          have goesOn := induction (written ++ pending ++ entity) partsBehind doneBehind
            reachedBehind
          simp only [copyFrom?, found, stretch, Option.bind_eq_bind, Option.bind_some, goesOn,
            Option.some.injEq]
          exact String.toList_inj.mp (by simp [escapeChar, found])

theorem copyFrom?_start (written text : String) :
    copyFrom? text written 0 0 text.toList =
      some (written ++ String.ofList (text.toList.flatMap escapeChar)) := by
  have parts : text = "" ++ "" ++ String.ofList text.toList := by simp
  have started := copyFrom?_eq written parts rfl rfl
  rwa [String.append_empty] at started

def appendEscaped (written text : String) : String :=
  (copyFrom? text written 0 0 text.toList).get (by rw [copyFrom?_start]; rfl)

def escape (text : String) : String :=
  appendEscaped "" text

@[simp] theorem toList_appendEscaped (written text : String) :
    (appendEscaped written text).toList = written.toList ++ text.toList.flatMap escapeChar := by
  simp [appendEscaped, copyFrom?_start]

@[simp] theorem toList_escape (text : String) :
    (escape text).toList = text.toList.flatMap escapeChar := by
  simp [escape]

theorem appendEscaped_eq (written text : String) :
    appendEscaped written text = written ++ escape text :=
  String.toList_inj.mp (by simp)

end PageFilters.Html
