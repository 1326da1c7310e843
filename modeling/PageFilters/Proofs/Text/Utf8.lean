import Mathlib
import PageFilters.Text.Utf8

/-!
# Decoding is the inverse of encoding

A sequence of octets can be decoded if and only if it is the encoding of a text,
and then that text is what comes of it.
-/

namespace PageFilters.Text

/-- The last octets of a character, six bits in each. -/
def tailOctets : (count : Nat) → (value : Nat) → Bytes
  | 0, _ => []
  | count + 1, value => UInt8.ofNat (value / 64 ^ count % 64 + 0x80) :: tailOctets count value

theorem eq_tail_iff {octet : UInt8} {bits : Nat} :
    octet = UInt8.ofNat (bits % 64 + 0x80) ↔ octet.toNat = bits % 64 + 0x80 := by
  rw [← UInt8.toNat_inj, UInt8.toNat_ofNat']
  have small : (bits % 64 + 0x80) % 2 ^ 8 = bits % 64 + 0x80 := by omega
  rw [small]

theorem bounds_of_mem_tailOctets {count value : Nat} {octet : UInt8}
    (member : octet ∈ tailOctets count value) : 0x80 ≤ octet ∧ octet ≤ 0xBF := by
  induction count with
  | zero => contradiction
  | succ count induction =>
      rcases List.mem_cons.mp member with first | later
      · have bits := eq_tail_iff.mp first
        simp only [UInt8.le_iff_toNat_le, UInt8.reduceToNat]
        omega
      · exact induction later

/-- Octets are read as the tail of a character exactly if they are its tail, and
the first of them lies between the bounds. -/
theorem readTail_eq_some_iff {count value total : Nat} {low high : UInt8} {rest behind : Bytes}
    (least : 0x80 ≤ low) (greatest : high ≤ 0xBF) :
    readTail count low high value rest = (some total, behind) ↔
      total / 64 ^ count = value ∧ rest = tailOctets count total ++ behind ∧
        ∀ octet ∈ (tailOctets count total).head?, low ≤ octet ∧ octet ≤ high := by
  induction count generalizing low high value rest with
  | zero => simp [readTail, tailOctets, eq_comm]
  | succ count induction =>
      cases rest with
      | nil => simp [readTail, tailOctets]
      | cons octet rest =>
          have inner : ∀ octet ∈ (tailOctets count total).head?, 0x80 ≤ octet ∧ octet ≤ 0xBF :=
            fun octet first => bounds_of_mem_tailOctets (List.mem_of_mem_head? first)
          have bits : total / 64 ^ (count + 1) = total / 64 ^ count / 64 := by
            rw [Nat.pow_succ, Nat.div_div_eq_div_mul]
          simp only [readTail, tailOctets, List.head?_cons, Option.mem_some, forall_eq', bits,
            List.cons_append, List.cons.injEq]
          split
          next within =>
            simp only [Bool.and_eq_true, decide_eq_true_eq] at within
            have range : 0x80 ≤ octet.toNat ∧ octet.toNat ≤ 0xBF :=
              ⟨Nat.le_trans least within.1, Nat.le_trans within.2 greatest⟩
            rw [induction (UInt8.le_refl _) (UInt8.le_refl _)]
            constructor
            · intro read
              obtain ⟨same, behindTail, -⟩ := read
              have written : octet = UInt8.ofNat (total / 64 ^ count % 64 + 0x80) :=
                eq_tail_iff.mpr (by omega)
              exact ⟨by omega, ⟨written, behindTail⟩, written ▸ within⟩
            · intro written
              obtain ⟨same, ⟨written, behindTail⟩, -⟩ := written
              have sixBits := eq_tail_iff.mp written
              exact ⟨by omega, behindTail, inner⟩
          next outside =>
            constructor
            · intro read
              cases read
            · intro written
              obtain ⟨-, ⟨written, -⟩, within⟩ := written
              rw [← written] at within
              simp [within] at outside

theorem readTail_succ_eq_some_iff {count value total : Nat} {low high : UInt8}
    {rest behind : Bytes} (least : 0x80 ≤ low) (greatest : high ≤ 0xBF) :
    readTail (count + 1) low high value rest = (some total, behind) ↔
      total / 64 ^ (count + 1) = value ∧ rest = tailOctets (count + 1) total ++ behind ∧
        low.toNat ≤ total / 64 ^ count % 64 + 0x80 ∧
        total / 64 ^ count % 64 + 0x80 ≤ high.toNat := by
  rw [readTail_eq_some_iff least greatest]
  simp only [tailOctets, List.head?_cons, Option.mem_some, forall_eq', UInt8.le_iff_toNat_le]
  rw [eq_tail_iff.mp rfl]

/-- The octets of a character: one by itself, or a first one with the bits that
its tail leaves over. -/
theorem utf8EncodeChar_eq (char : Char) :
    String.utf8EncodeChar char =
      if char.toNat ≤ 0x7F then [UInt8.ofNat char.toNat]
      else if char.toNat ≤ 0x7FF then
        UInt8.ofNat (char.toNat / 64 + 0xC0) :: tailOctets 1 char.toNat
      else if char.toNat ≤ 0xFFFF then
        UInt8.ofNat (char.toNat / 4096 + 0xE0) :: tailOctets 2 char.toNat
      else UInt8.ofNat (char.toNat / 262144 + 0xF0) :: tailOctets 3 char.toNat := by
  have valid : char.toNat.isValidChar := char.valid
  simp only [String.utf8EncodeChar, Char.toNat_val, tailOctets, Nat.reducePow, Nat.div_one]
  by_cases one : char.toNat ≤ 0x7F
  · simp only [if_pos one]
  · by_cases two : char.toNat ≤ 0x7FF
    · have bits : char.toNat / 64 % 32 = char.toNat / 64 := by omega
      simp only [if_neg one, if_pos two, bits]
    · by_cases three : char.toNat ≤ 0xFFFF
      · have bits : char.toNat / 4096 % 16 = char.toNat / 4096 := by omega
        simp only [if_neg one, if_neg two, if_pos three, bits]
      · have bits : char.toNat / 262144 % 8 = char.toNat / 262144 := by omega
        simp only [if_neg one, if_neg two, if_neg three, bits]

section Leads

variable {lead : UInt8} {rest : Bytes}

theorem readScalar_one (least : lead.toNat < 0x80) :
    readScalar lead rest = (some lead.toNat, rest) := by
  simp only [readScalar, UInt8.lt_iff_toNat_lt, UInt8.reduceToNat]
  rw [if_pos least]

theorem readScalar_two (least : 0xC2 ≤ lead.toNat) (less : lead.toNat < 0xE0) :
    readScalar lead rest = readTail 1 0x80 0xBF (lead.toNat % 32) rest := by
  simp only [readScalar, UInt8.lt_iff_toNat_lt, UInt8.reduceToNat]
  rw [if_neg (by omega), if_neg (by omega), if_pos less]

theorem readScalar_three (least : 0xE0 ≤ lead.toNat) (less : lead.toNat < 0xF0) :
    readScalar lead rest =
      readTail 2 (if lead.toNat = 0xE0 then 0xA0 else 0x80)
        (if lead.toNat = 0xED then 0x9F else 0xBF) (lead.toNat % 16) rest := by
  simp only [readScalar, UInt8.lt_iff_toNat_lt, beq_iff_eq, ← UInt8.toNat_inj,
    UInt8.reduceToNat]
  rw [if_neg (by omega), if_neg (by omega), if_neg (by omega)]
  split
  next overlong => rw [if_neg (by omega)]
  next =>
    split
    next surrogates => rfl
    next => rfl

theorem readScalar_four (least : 0xF0 ≤ lead.toNat) (less : lead.toNat < 0xF5) :
    readScalar lead rest =
      readTail 3 (if lead.toNat = 0xF0 then 0x90 else 0x80)
        (if lead.toNat = 0xF4 then 0x8F else 0xBF) (lead.toNat % 8) rest := by
  simp only [readScalar, UInt8.lt_iff_toNat_lt, beq_iff_eq, ← UInt8.toNat_inj,
    UInt8.reduceToNat]
  rw [if_neg (by omega), if_neg (by omega), if_neg (by omega), if_neg (by omega),
    if_neg (by omega), if_neg (by omega)]
  split
  next overlong => rw [if_neg (by omega)]
  next =>
    split
    next below => rw [if_neg (by omega)]
    next => rw [if_pos (by omega), if_pos (by omega)]

theorem readScalar_none
    (stray : 0x80 ≤ lead.toNat ∧ lead.toNat < 0xC2 ∨ 0xF5 ≤ lead.toNat) :
    readScalar lead rest = (none, rest) := by
  simp only [readScalar, UInt8.lt_iff_toNat_lt, beq_iff_eq, ← UInt8.toNat_inj,
    UInt8.reduceToNat]
  rw [if_neg (by omega)]
  split
  next => rfl
  next =>
    rw [if_neg (by omega), if_neg (by omega), if_neg (by omega), if_neg (by omega),
      if_neg (by omega), if_neg (by omega), if_neg (by omega)]

variable {value : Nat} {behind : Bytes}

theorem eq_ofNat_iff {bits : Nat} (small : bits < 0x100) :
    lead = UInt8.ofNat bits ↔ lead.toNat = bits := by
  rw [← UInt8.toNat_inj, UInt8.toNat_ofNat']
  have same : bits % 2 ^ 8 = bits := by omega
  rw [same]

theorem readScalar_eq_two_iff :
    (0xC2 ≤ lead.toNat ∧ lead.toNat < 0xE0) ∧ readScalar lead rest = (some value, behind) ↔
      (0x80 ≤ value ∧ value ≤ 0x7FF) ∧ lead = UInt8.ofNat (value / 64 + 0xC0) ∧
        rest = tailOctets 1 value ++ behind := by
  constructor
  · intro read
    obtain ⟨⟨least, less⟩, read⟩ := read
    rw [readScalar_two least less, readTail_succ_eq_some_iff (by decide) (by decide)] at read
    obtain ⟨bits, octets, -⟩ := read
    refine ⟨by omega, ?_, octets⟩
    rw [eq_ofNat_iff (by omega)]
    omega
  · intro encoded
    obtain ⟨range, first, octets⟩ := encoded
    rw [eq_ofNat_iff (by omega)] at first
    have least : 0xC2 ≤ lead.toNat := by omega
    have less : lead.toNat < 0xE0 := by omega
    refine ⟨⟨least, less⟩, ?_⟩
    rw [readScalar_two least less, readTail_succ_eq_some_iff (by decide) (by decide)]
    simp only [Nat.reducePow, Nat.reduceAdd, UInt8.reduceToNat]
    exact ⟨by omega, octets, by omega, by omega⟩

theorem readScalar_eq_three_iff :
    (0xE0 ≤ lead.toNat ∧ lead.toNat < 0xF0) ∧ readScalar lead rest = (some value, behind) ↔
      (value.isValidChar ∧ 0x800 ≤ value ∧ value ≤ 0xFFFF) ∧
        lead = UInt8.ofNat (value / 4096 + 0xE0) ∧ rest = tailOctets 2 value ++ behind := by
  constructor
  · intro read
    obtain ⟨⟨least, less⟩, read⟩ := read
    rw [readScalar_three least less,
      readTail_succ_eq_some_iff (by split <;> decide) (by split <;> decide)] at read
    obtain ⟨bits, octets, floor, ceiling⟩ := read
    simp only [Nat.reducePow, Nat.reduceAdd] at bits floor ceiling
    have range : value.isValidChar ∧ 0x800 ≤ value ∧ value ≤ 0xFFFF := by
      split at floor <;> split at ceiling <;>
        simp only [UInt8.reduceToNat] at floor ceiling <;> omega
    refine ⟨range, ?_, octets⟩
    rw [eq_ofNat_iff (by omega)]
    omega
  · intro encoded
    obtain ⟨range, first, octets⟩ := encoded
    rw [eq_ofNat_iff (by omega)] at first
    have least : 0xE0 ≤ lead.toNat := by omega
    have less : lead.toNat < 0xF0 := by omega
    refine ⟨⟨least, less⟩, ?_⟩
    rw [readScalar_three least less,
      readTail_succ_eq_some_iff (by split <;> decide) (by split <;> decide)]
    simp only [Nat.reducePow, Nat.reduceAdd]
    refine ⟨by omega, octets, ?_, ?_⟩
    · split <;> simp only [UInt8.reduceToNat] <;> omega
    · split <;> simp only [UInt8.reduceToNat] <;> omega

theorem readScalar_eq_four_iff :
    (0xF0 ≤ lead.toNat ∧ lead.toNat < 0xF5) ∧ readScalar lead rest = (some value, behind) ↔
      (value.isValidChar ∧ 0x10000 ≤ value) ∧
        lead = UInt8.ofNat (value / 262144 + 0xF0) ∧ rest = tailOctets 3 value ++ behind := by
  constructor
  · intro read
    obtain ⟨⟨least, less⟩, read⟩ := read
    rw [readScalar_four least less,
      readTail_succ_eq_some_iff (by split <;> decide) (by split <;> decide)] at read
    obtain ⟨bits, octets, floor, ceiling⟩ := read
    simp only [Nat.reducePow, Nat.reduceAdd] at bits floor ceiling
    have range : value.isValidChar ∧ 0x10000 ≤ value := by
      split at floor <;> split at ceiling <;>
        simp only [UInt8.reduceToNat] at floor ceiling <;> omega
    refine ⟨range, ?_, octets⟩
    rw [eq_ofNat_iff (by omega)]
    omega
  · intro encoded
    obtain ⟨range, first, octets⟩ := encoded
    rw [eq_ofNat_iff (by omega)] at first
    have least : 0xF0 ≤ lead.toNat := by omega
    have less : lead.toNat < 0xF5 := by omega
    refine ⟨⟨least, less⟩, ?_⟩
    rw [readScalar_four least less,
      readTail_succ_eq_some_iff (by split <;> decide) (by split <;> decide)]
    simp only [Nat.reducePow, Nat.reduceAdd]
    refine ⟨by omega, octets, ?_, ?_⟩
    · split <;> simp only [UInt8.reduceToNat] <;> omega
    · split <;> simp only [UInt8.reduceToNat] <;> omega

theorem readScalar_of_encoded {char : Char}
    (encoded : lead :: rest = String.utf8EncodeChar char ++ behind) :
    readScalar lead rest = (some char.toNat, behind) := by
  have valid : char.toNat.isValidChar := char.valid
  rw [utf8EncodeChar_eq] at encoded
  split at encoded
  next one =>
    obtain ⟨first, rfl⟩ := List.cons.inj encoded
    have bits := (eq_ofNat_iff (by omega)).mp first
    rw [readScalar_one (by omega), bits]
  next =>
    split at encoded
    next two =>
      exact (readScalar_eq_two_iff.mpr ⟨by omega, List.cons.inj encoded⟩).2
    next =>
      split at encoded
      next three =>
        exact (readScalar_eq_three_iff.mpr ⟨by omega, List.cons.inj encoded⟩).2
      next four =>
        exact (readScalar_eq_four_iff.mpr ⟨by omega, List.cons.inj encoded⟩).2

theorem toNat_ofNat (valid : value.isValidChar) : (Char.ofNat value).toNat = value := by
  rw [Char.ofNat, dif_pos valid]
  rfl

theorem encoded_of_readScalar (read : readScalar lead rest = (some value, behind)) :
    lead :: rest = String.utf8EncodeChar (Char.ofNat value) ++ behind := by
  by_cases one : lead.toNat < 0x80
  · rw [readScalar_one one] at read
    cases read
    have first := (eq_ofNat_iff (by omega)).mpr (rfl : lead.toNat = lead.toNat)
    rw [utf8EncodeChar_eq, toNat_ofNat (by omega), if_pos (by omega), ← first]
    rfl
  by_cases two : 0xC2 ≤ lead.toNat ∧ lead.toNat < 0xE0
  · obtain ⟨range, first, rfl⟩ := readScalar_eq_two_iff.mp ⟨two, read⟩
    rw [utf8EncodeChar_eq, toNat_ofNat (by omega), if_neg (by omega), if_pos range.2, ← first]
    rfl
  by_cases three : 0xE0 ≤ lead.toNat ∧ lead.toNat < 0xF0
  · obtain ⟨⟨valid, range⟩, first, rfl⟩ := readScalar_eq_three_iff.mp ⟨three, read⟩
    rw [utf8EncodeChar_eq, toNat_ofNat valid, if_neg (by omega), if_neg (by omega),
      if_pos range.2, ← first]
    rfl
  by_cases four : 0xF0 ≤ lead.toNat ∧ lead.toNat < 0xF5
  · obtain ⟨⟨valid, range⟩, first, rfl⟩ := readScalar_eq_four_iff.mp ⟨four, read⟩
    rw [utf8EncodeChar_eq, toNat_ofNat valid, if_neg (by omega), if_neg (by omega),
      if_neg (by omega), ← first]
    rfl
  · rw [readScalar_none (by omega)] at read
    cases read

end Leads

theorem scalarsFrom_append (read earlier : List (Option Char)) (bytes : Bytes) :
    scalarsFrom (read ++ earlier) bytes = earlier.reverse ++ scalarsFrom read bytes := by
  induction read, bytes using scalarsFrom.induct with
  | case1 read => simp [scalarsFrom]
  | case2 read lead rest next induction =>
      rw [scalarsFrom, scalarsFrom]
      exact induction

theorem scalars_cons (lead : UInt8) (rest : Bytes) :
    scalars (lead :: rest) =
      (readScalar lead rest).1.map Char.ofNat :: scalars (readScalar lead rest).2 := by
  rw [scalars, scalarsFrom]
  exact scalarsFrom_append [] [(readScalar lead rest).1.map Char.ofNat] _

theorem decode?_nil : decode? [] = some [] := by
  simp [decode?, scalars, scalarsFrom]

theorem decode?_cons (lead : UInt8) (rest : Bytes) :
    decode? (lead :: rest) =
      ((readScalar lead rest).1.map Char.ofNat).bind fun char =>
        (decode? (readScalar lead rest).2).map (char :: ·) := by
  simp only [decode?, scalars_cons, List.mapM_cons, id_eq]
  cases (readScalar lead rest).1 with
  | none => rfl
  | some value =>
      cases (scalars (readScalar lead rest).2).mapM id with
      | none => rfl
      | some text => rfl

theorem decode?_encode (text : List Char) : decode? (encode text) = some text := by
  induction text with
  | nil => exact decode?_nil
  | cons char text induction =>
      have octets : encode (char :: text) = String.utf8EncodeChar char ++ encode text := rfl
      cases written : encode (char :: text) with
      | nil =>
          have size := congrArg List.length (octets.symm.trans written)
          have positive := char.utf8Size_pos
          simp only [List.length_append, String.length_utf8EncodeChar, List.length_nil] at size
          omega
      | cons lead rest =>
          have read := readScalar_of_encoded (written.symm.trans octets)
          rw [decode?_cons, read, induction]
          simp

theorem eq_encode_of_decode? {bytes : Bytes} {text : List Char}
    (decoded : decode? bytes = some text) : bytes = encode text := by
  induction text generalizing bytes with
  | nil =>
      cases bytes with
      | nil => rfl
      | cons lead rest =>
          rw [decode?_cons] at decoded
          obtain ⟨first, -, remaining⟩ := Option.bind_eq_some_iff.mp decoded
          obtain ⟨others, -, same⟩ := Option.map_eq_some_iff.mp remaining
          cases same
  | cons char text induction =>
      cases bytes with
      | nil =>
          rw [decode?_nil] at decoded
          cases decoded
      | cons lead rest =>
          rw [decode?_cons] at decoded
          obtain ⟨first, read, remaining⟩ := Option.bind_eq_some_iff.mp decoded
          obtain ⟨value, found, rfl⟩ := Option.map_eq_some_iff.mp read
          obtain ⟨others, later, same⟩ := Option.map_eq_some_iff.mp remaining
          obtain ⟨rfl, rfl⟩ := List.cons.inj same
          have scalar : readScalar lead rest = (some value, (readScalar lead rest).2) :=
            Prod.ext found rfl
          rw [encoded_of_readScalar scalar, induction later]
          rfl

/-- Octets are decoded exactly if they encode a text. -/
theorem decode?_eq_some_iff {bytes : Bytes} {text : List Char} :
    decode? bytes = some text ↔ bytes = encode text := by
  constructor
  · exact eq_encode_of_decode?
  · intro encoded
    subst encoded
    exact decode?_encode text

end PageFilters.Text
