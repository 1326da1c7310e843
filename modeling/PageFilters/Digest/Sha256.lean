import PageFilters.Text.Utf8

/-!
# SHA-256

The message is padded to whole blocks of sixty-four octets, and each block is
mixed into a state of eight words.
-/

namespace PageFilters.Digest

open PageFilters.Text (Bytes)

/-- The first thirty-two bits of the fractions of the cube roots of the first
sixty-four primes. -/
def roundConstants : List UInt32 := [
    0x428a2f98, 0x71374491, 0xb5c0fbcf, 0xe9b5dba5, 0x3956c25b, 0x59f111f1, 0x923f82a4, 0xab1c5ed5,
    0xd807aa98, 0x12835b01, 0x243185be, 0x550c7dc3, 0x72be5d74, 0x80deb1fe, 0x9bdc06a7, 0xc19bf174,
    0xe49b69c1, 0xefbe4786, 0x0fc19dc6, 0x240ca1cc, 0x2de92c6f, 0x4a7484aa, 0x5cb0a9dc, 0x76f988da,
    0x983e5152, 0xa831c66d, 0xb00327c8, 0xbf597fc7, 0xc6e00bf3, 0xd5a79147, 0x06ca6351, 0x14292967,
    0x27b70a85, 0x2e1b2138, 0x4d2c6dfc, 0x53380d13, 0x650a7354, 0x766a0abb, 0x81c2c92e, 0x92722c85,
    0xa2bfe8a1, 0xa81a664b, 0xc24b8b70, 0xc76c51a3, 0xd192e819, 0xd6990624, 0xf40e3585, 0x106aa070,
    0x19a4c116, 0x1e376c08, 0x2748774c, 0x34b0bcb5, 0x391c0cb3, 0x4ed8aa4a, 0x5b9cca4f, 0x682e6ff3,
    0x748f82ee, 0x78a5636f, 0x84c87814, 0x8cc70208, 0x90befffa, 0xa4506ceb, 0xbef9a3f7, 0xc67178f2]

/-- The eight words that blocks are mixed into. -/
structure HashState where
  a : UInt32
  b : UInt32
  c : UInt32
  d : UInt32
  e : UInt32
  f : UInt32
  g : UInt32
  h : UInt32
  deriving Repr, DecidableEq, Inhabited

/-- The first thirty-two bits of the fractions of the square roots of the first
eight primes. -/
def HashState.initial : HashState :=
  ⟨0x6a09e667, 0xbb67ae85, 0x3c6ef372, 0xa54ff53a, 0x510e527f, 0x9b05688c, 0x1f83d9ab, 0x5be0cd19⟩

def HashState.add (left right : HashState) : HashState :=
  ⟨left.a + right.a, left.b + right.b, left.c + right.c, left.d + right.d,
    left.e + right.e, left.f + right.f, left.g + right.g, left.h + right.h⟩

def HashState.words (state : HashState) : List UInt32 :=
  [state.a, state.b, state.c, state.d, state.e, state.f, state.g, state.h]

def rotateRight (word count : UInt32) : UInt32 :=
  (word >>> count) ||| (word <<< (32 - count))

def wordOctets (word : UInt32) : Bytes :=
  [(word >>> 24).toUInt8, (word >>> 16).toUInt8, (word >>> 8).toUInt8, word.toUInt8]

/-- Words that octets spell, the highest octet first. -/
def wordsOf : Bytes → List UInt32
  | first :: second :: third :: fourth :: rest =>
      ((first.toUInt32 <<< 24) ||| (second.toUInt32 <<< 16) ||| (third.toUInt32 <<< 8) |||
        fourth.toUInt32) :: wordsOf rest
  | _ => []

/-- The message with a one bit, zeros and its length in bits behind it: a whole
number of blocks. -/
def pad (message : Bytes) : Bytes :=
  let zeros := (119 - message.length % 64) % 64
  let bits := UInt64.ofNat (8 * message.length)
  message ++ [(0x80 : UInt8)] ++ List.replicate zeros (0 : UInt8) ++
    wordOctets (bits >>> 32).toUInt32 ++ wordOctets bits.toUInt32

/-- The word that follows sixteen others in the schedule of a block; they are
given the latest one first. -/
def nextWord (latest : List UInt32) : UInt32 :=
  let word (back : Nat) := latest.getD (back - 1) 0
  let small0 (word : UInt32) := rotateRight word 7 ^^^ rotateRight word 18 ^^^ (word >>> 3)
  let small1 (word : UInt32) := rotateRight word 17 ^^^ rotateRight word 19 ^^^ (word >>> 10)
  small1 (word 2) + word 7 + small0 (word 15) + word 16

/-- A schedule, the latest word first, with `count` more words. -/
def extendSchedule : (count : Nat) → (latest : List UInt32) → List UInt32
  | 0, latest => latest
  | count + 1, latest => extendSchedule count (nextWord latest :: latest)

/-- One round: mixes a constant and a word of the schedule into a state. -/
def round (state : HashState) (step : UInt32 × UInt32) : HashState :=
  let big1 := rotateRight state.e 6 ^^^ rotateRight state.e 11 ^^^ rotateRight state.e 25
  let choice := (state.e &&& state.f) ^^^ (~~~state.e &&& state.g)
  let first := state.h + big1 + choice + step.1 + step.2
  let big0 := rotateRight state.a 2 ^^^ rotateRight state.a 13 ^^^ rotateRight state.a 22
  let majority := (state.a &&& state.b) ^^^ (state.a &&& state.c) ^^^ (state.b &&& state.c)
  { a := first + (big0 + majority), b := state.a, c := state.b, d := state.c
    e := state.d + first, f := state.e, g := state.f, h := state.g }

def compress (state : HashState) (block : List UInt32) : HashState :=
  let schedule := (extendSchedule 48 block.reverse).reverse
  ((roundConstants.zip schedule).foldl round state).add state

def compressAll : (count : Nat) → HashState → List UInt32 → HashState
  | 0, state, _ => state
  | count + 1, state, words => compressAll count (compress state (words.take 16)) (words.drop 16)

/-- The digest of a message: thirty-two octets. -/
def sha256 (message : Bytes) : Bytes :=
  let words := wordsOf (pad message)
  (compressAll (words.length / 16) .initial words).words.flatMap wordOctets

theorem length_sha256 (message : Bytes) : (sha256 message).length = 32 := by
  simp [sha256, HashState.words, wordOctets]

end PageFilters.Digest
