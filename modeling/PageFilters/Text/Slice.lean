/-!
# Cutting a text at octet offsets

Positions in a text count UTF-8 octets.  A cut inside a character has no
result, so `slice?` succeeds exactly between two character boundaries in
order.
-/

namespace PageFilters.Text

/-- Number of UTF-8 octets of a text. -/
def size (text : List Char) : Nat :=
  text.foldr (fun char octets => char.utf8Size + octets) 0

/-- The number of characters, counted from `count`, that take up `offset`
octets. -/
def charsIn? : (count offset : Nat) → List Char → Option Nat
  | count, 0, _ => some count
  | _, _ + 1, [] => none
  | count, offset + 1, char :: rest =>
      if char.utf8Size ≤ offset + 1 then
        charsIn? (count + 1) (offset + 1 - char.utf8Size) rest
      else
        none

/-- Cuts a text after `offset` octets. -/
def splitAt? (offset : Nat) (text : List Char) : Option (List Char × List Char) :=
  (charsIn? 0 offset text).map fun count => text.splitAt count

/-- Whether an octet offset lies between two characters or at an end. -/
def IsBoundary (text : List Char) (offset : Nat) : Prop :=
  ∃ front back, text = front ++ back ∧ size front = offset

/-- The part of a text from octet `start` to octet `stop`. -/
def slice? (text : String) (start stop : Nat) : Option String :=
  if bounds : String.Pos.Raw.IsValid text ⟨start⟩ ∧ String.Pos.Raw.IsValid text ⟨stop⟩ then
    (text.slice? (text.pos ⟨start⟩ bounds.1) (text.pos ⟨stop⟩ bounds.2)).map (·.copy)
  else
    none

theorem slice?_eq_some_iff {text middle : String} {start stop : Nat} :
    slice? text start stop = some middle ↔
      ∃ front back, text = front ++ middle ++ back ∧ front.utf8ByteSize = start ∧
        start + middle.utf8ByteSize = stop := by
  unfold slice? String.slice?
  constructor
  · intro found
    split at found
    next bounds =>
      obtain ⟨slice, ordered, copied⟩ := Option.map_eq_some_iff.mp found
      split at ordered
      next =>
        cases ordered
        obtain ⟨front, back, first, last⟩ := String.copy_slice_eq_iff_splits.mp ⟨_, copied⟩
        have starts : start = front.utf8ByteSize :=
          congrArg String.Pos.Raw.byteIdx first.offset_eq_rawEndPos
        have stops : stop = (front ++ middle).utf8ByteSize :=
          congrArg String.Pos.Raw.byteIdx last.offset_eq_rawEndPos
        refine ⟨front, back, last.eq_append, starts.symm, ?_⟩
        rw [stops, starts, String.utf8ByteSize_append]
      next => cases ordered
    next => cases found
  · rintro ⟨front, back, parts, rfl, rfl⟩
    have behindFirst : text = front ++ (middle ++ back) := parts.trans String.append_assoc
    have starts : (⟨front.utf8ByteSize⟩ : String.Pos.Raw) = front.rawEndPos := rfl
    have stops : (⟨front.utf8ByteSize + middle.utf8ByteSize⟩ : String.Pos.Raw) =
        (front ++ middle).rawEndPos := by
      simp [String.rawEndPos]
    have first := String.Pos.Raw.isValid_iff_exists_append.mpr ⟨_, _, behindFirst, starts⟩
    have last := String.Pos.Raw.isValid_iff_exists_append.mpr ⟨_, _, parts, stops⟩
    have cut : ∃ ordered,
        (text.slice (text.pos _ first) (text.pos _ last) ordered).copy = middle :=
      String.copy_slice_eq_iff_splits.mpr ⟨front, back, ⟨behindFirst, starts⟩, ⟨parts, stops⟩⟩
    obtain ⟨ordered, copied⟩ := cut
    rw [dif_pos ⟨first, last⟩, dif_pos ordered, Option.map_some, copied]

end PageFilters.Text
