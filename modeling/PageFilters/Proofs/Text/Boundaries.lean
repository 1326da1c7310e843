import PageFilters.Proofs.Text.Cuts
import PageFilters.Proofs.Text.Utf8

/-!
# Boundaries in octets

Whether an offset stands between two characters can be seen from the octets
alone: at the end of a text, or in front of an octet that begins a character.
Slicing between two offsets succeeds exactly if both are such boundaries and
stand in order, and what it gives is the text of the octets between them.
-/

namespace PageFilters.Text

/-- An offset is the end of an octet sequence, or stands in front of an octet
that begins a character. -/
def IsOctetBoundary (bytes : Bytes) (offset : Nat) : Prop :=
  offset = bytes.length ∨ ∃ octet, bytes[offset]? = some octet ∧ octet.IsUTF8FirstByte

/-- Two offsets between which octets can be taken off as a text, and this text. -/
structure IsSlice (bytes : Bytes) (bounds : Nat × Nat) (piece : String) : Prop where
  ordered : bounds.1 ≤ bounds.2
  within : bounds.2 ≤ bytes.length
  starts : IsOctetBoundary bytes bounds.1
  stops : IsOctetBoundary bytes bounds.2
  octets : encode piece.toList = (bytes.take bounds.2).drop bounds.1

theorem length_encode (text : List Char) : (encode text).length = size text := by
  induction text with
  | nil => rfl
  | cons char rest induction =>
      rw [size_cons, ← induction, encode, List.flatMap_cons, List.length_append,
        String.length_utf8EncodeChar]
      rfl

theorem utf8ByteSize_eq (text : String) : text.utf8ByteSize = size text.toList := by
  rw [← length_encode, ← List.size_toByteArray]
  exact congrArg ByteArray.size String.utf8Encode_toList.symm

theorem isValid_iff_isBoundary {text : String} {offset : Nat} :
    String.Pos.Raw.IsValid text ⟨offset⟩ ↔ IsBoundary text.toList offset := by
  rw [String.Pos.Raw.isValid_iff_exists_append]
  constructor
  · intro found
    obtain ⟨front, back, parts, reached⟩ := found
    refine ⟨front.toList, back.toList, by simp [parts], ?_⟩
    rw [← utf8ByteSize_eq]
    exact (congrArg String.Pos.Raw.byteIdx reached).symm
  · intro boundary
    obtain ⟨front, back, parts, sized⟩ := boundary
    refine ⟨String.ofList front, String.ofList back, ?_, ?_⟩
    · rw [← String.ofList_append, ← parts, String.ofList_toList]
    · have same := utf8ByteSize_eq (String.ofList front)
      rw [String.toList_ofList, sized] at same
      exact String.Pos.Raw.ext same.symm

theorem getUTF8Byte_ofList {text : List Char} {offset : Nat}
    (within : offset < (encode text).length)
    (below : (⟨offset⟩ : String.Pos.Raw) < (String.ofList text).rawEndPos) :
    (String.ofList text).getUTF8Byte ⟨offset⟩ below = (encode text)[offset] := by
  have octets : (String.ofList text).toByteArray = (encode text).toByteArray := rfl
  simp only [String.getUTF8Byte, octets, List.getElem_toByteArray]

theorem isOctetBoundary_iff_isBoundary {text : List Char} {offset : Nat} :
    IsOctetBoundary (encode text) offset ↔ IsBoundary text offset := by
  have chars : (String.ofList text).toList = text := String.toList_ofList
  have length : (encode text).length = (String.ofList text).utf8ByteSize := by
    rw [length_encode, utf8ByteSize_eq, chars]
  rw [← chars, ← isValid_iff_isBoundary, String.Pos.Raw.isValid_iff_isUTF8FirstByte, chars]
  apply or_congr
  · rw [length]
    exact ⟨congrArg String.Pos.Raw.mk, congrArg String.Pos.Raw.byteIdx⟩
  · constructor
    · intro found
      obtain ⟨octet, stands, first⟩ := found
      obtain ⟨within, same⟩ := List.getElem?_eq_some_iff.mp stands
      have below : offset < (String.ofList text).utf8ByteSize := Nat.lt_of_lt_of_eq within length
      refine ⟨String.Pos.Raw.lt_iff.mpr below, ?_⟩
      rwa [getUTF8Byte_ofList within, same]
    · intro found
      obtain ⟨below, first⟩ := found
      have within : offset < (encode text).length :=
        Nat.lt_of_lt_of_eq (String.Pos.Raw.lt_iff.mp below) length.symm
      rw [getUTF8Byte_ofList within] at first
      exact ⟨_, List.getElem?_eq_getElem within, first⟩

theorem encode_injective {left right : List Char} (same : encode left = encode right) :
    left = right := by
  have decoded := congrArg decode? same
  rw [decode?_encode, decode?_encode] at decoded
  exact Option.some.inj decoded

theorem isSlice_append (front middle back : List Char) :
    IsSlice (encode (front ++ middle ++ back)) (size front, size front + size middle)
      (String.ofList middle) := by
  have begins : IsBoundary (front ++ middle ++ back) (size front) :=
    ⟨front, middle ++ back, List.append_assoc .., rfl⟩
  have ends : IsBoundary (front ++ middle ++ back) (size front + size middle) :=
    ⟨front ++ middle, back, rfl, size_append ..⟩
  constructor
  · exact Nat.le_add_right ..
  · rw [length_encode, size_append, size_append]
    exact Nat.le_add_right ..
  · exact isOctetBoundary_iff_isBoundary.mpr begins
  · exact isOctetBoundary_iff_isBoundary.mpr ends
  · rw [String.toList_ofList, ← length_encode, ← length_encode, encode_append, encode_append,
      List.append_assoc, List.take_length_add_append, List.drop_left, List.take_left]

theorem exists_parts {text : List Char} {start stop : Nat} (ordered : start ≤ stop)
    (starts : IsBoundary text start) (stops : IsBoundary text stop) :
    ∃ front middle back,
      text = front ++ middle ++ back ∧ size front = start ∧ size front + size middle = stop := by
  obtain ⟨front, behind, parts, sized⟩ := starts
  obtain ⟨ahead, back, otherParts, reached⟩ := stops
  have shorter : size front ≤ size ahead := sized.le.trans (ordered.trans reached.ge)
  obtain ⟨middle, longer, rest⟩ := exists_between (parts.symm.trans otherParts) shorter
  refine ⟨front, middle, back, ?_, sized, ?_⟩
  · rw [otherParts, longer]
  · rw [← size_append, ← longer]
    exact reached

/-- Slicing takes the octets between two boundaries in order, and nothing else
can be sliced. -/
theorem slice?_eq_some_iff_isSlice {text piece : String} {start stop : Nat} :
    slice? text start stop = some piece ↔ IsSlice (encode text.toList) (start, stop) piece := by
  rw [slice?_eq_some_iff]
  constructor
  · intro found
    obtain ⟨front, back, rfl, rfl, rfl⟩ := found
    have slice := isSlice_append front.toList piece.toList back.toList
    rw [String.ofList_toList] at slice
    rwa [String.toList_append, String.toList_append, utf8ByteSize_eq, utf8ByteSize_eq]
  · intro slice
    obtain ⟨front, middle, back, parts, rfl, rfl⟩ := exists_parts slice.ordered
      (isOctetBoundary_iff_isBoundary.mp slice.starts)
      (isOctetBoundary_iff_isBoundary.mp slice.stops)
    rw [parts] at slice
    have octets : encode piece.toList = encode middle := by
      have taken := (isSlice_append front middle back).octets
      rw [String.toList_ofList] at taken
      exact slice.octets.trans taken.symm
    have chars := encode_injective octets
    refine ⟨String.ofList front, String.ofList back, ?_, ?_, ?_⟩
    · rw [← String.toList_inj, parts]
      simp only [String.toList_append, String.toList_ofList, chars]
    · rw [utf8ByteSize_eq, String.toList_ofList]
    · rw [utf8ByteSize_eq, chars]

end PageFilters.Text
