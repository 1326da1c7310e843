/-!
# UTF-8

Octets of a text, and decoding in two strengths: `decode?` refuses whatever is
not UTF-8, `decodeLossy` writes one replacement character for each maximal
piece that begins a character and breaks off.
-/

namespace PageFilters.Text

abbrev Bytes := List UInt8

def encode (text : List Char) : Bytes :=
  text.flatMap String.utf8EncodeChar

theorem encode_append (front behind : List Char) :
    encode (front ++ behind) = encode front ++ encode behind :=
  List.flatMap_append

/-- Reads `count` continuation octets onto `value`.  The first has to lie
between `low` and `high`, the others between `80` and `BF`; reading stops in
front of the first octet that does not. -/
def readTail : (count : Nat) → (low high : UInt8) → (value : Nat) → Bytes →
    Option Nat × Bytes
  | 0, _, _, value, rest => (some value, rest)
  | _ + 1, _, _, _, [] => (none, [])
  | count + 1, low, high, value, octet :: rest =>
      if low ≤ octet && octet ≤ high then
        readTail count 0x80 0xBF (value * 64 + octet.toNat % 64) rest
      else
        (none, octet :: rest)

theorem length_readTail_le (count : Nat) (low high : UInt8) (value : Nat) (rest : Bytes) :
    (readTail count low high value rest).2.length ≤ rest.length := by
  induction count generalizing low high value rest with
  | zero => simp [readTail]
  | succ count induction =>
      cases rest with
      | nil => simp [readTail]
      | cons octet rest =>
          unfold readTail
          split
          · exact Nat.le_succ_of_le (induction _ _ _ _)
          · simp

/-- Reads one character whose first octet is `lead`: its code point, or none
after the longest piece that could still have begun one. -/
def readScalar (lead : UInt8) (rest : Bytes) : Option Nat × Bytes :=
  let bits (mask : Nat) := lead.toNat % mask
  if lead < 0x80 then (some lead.toNat, rest)
  else if lead < 0xC2 then (none, rest)
  else if lead < 0xE0 then readTail 1 0x80 0xBF (bits 32) rest
  else if lead == 0xE0 then readTail 2 0xA0 0xBF (bits 16) rest
  else if lead == 0xED then readTail 2 0x80 0x9F (bits 16) rest
  else if lead < 0xF0 then readTail 2 0x80 0xBF (bits 16) rest
  else if lead == 0xF0 then readTail 3 0x90 0xBF (bits 8) rest
  else if lead < 0xF4 then readTail 3 0x80 0xBF (bits 8) rest
  else if lead == 0xF4 then readTail 3 0x80 0x8F (bits 8) rest
  else (none, rest)

theorem length_readScalar_le (lead : UInt8) (rest : Bytes) :
    (readScalar lead rest).2.length ≤ rest.length := by
  unfold readScalar
  dsimp only
  repeat' split
  all_goals first
    | exact Nat.le_refl _
    | exact length_readTail_le ..

/-- Reads an octet sequence to its end, in front of it the pieces read so far,
the last one first. -/
def scalarsFrom (read : List (Option Char)) : Bytes → List (Option Char)
  | [] => read.reverse
  | lead :: rest =>
      let next := readScalar lead rest
      scalarsFrom (next.1.map Char.ofNat :: read) next.2
termination_by bytes => bytes.length
decreasing_by exact Nat.lt_succ_of_le (length_readScalar_le lead rest)

/-- The characters of an octet sequence in order, none for each piece that is
no character. -/
def scalars (bytes : Bytes) : List (Option Char) :=
  scalarsFrom [] bytes

/-- U+FFFD, which stands for what could not be decoded. -/
def replacement : Char := '\ufffd'

/-- Decodes any octet sequence. -/
def decodeLossy (bytes : Bytes) : List Char :=
  (scalars bytes).map (·.getD replacement)

/-- Decodes a sequence that is UTF-8 throughout. -/
def decode? (bytes : Bytes) : Option (List Char) :=
  (scalars bytes).mapM id

end PageFilters.Text
