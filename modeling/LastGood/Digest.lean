import LastGood.Text.Hexadecimal

/-!
# Checksums

A checksum is the SHA-256 digest of a text's UTF-8 bytes, written as sixty-four
hexadecimal digits in lower case. Two texts are told apart by their checksums; that
no two texts share one is assumed where it is needed and never here.

The message is padded with one set bit, with zeros, and with its length in bits, to
whole blocks of sixty-four bytes. Each block extends to sixty-four words by the
message schedule, and sixty-four rounds mix them into the eight words of state.
-/

namespace LastGood.Digest

/-- The eight words of state. -/
structure State where
  /-- First word. -/
  a : UInt32
  /-- Second word. -/
  b : UInt32
  /-- Third word. -/
  c : UInt32
  /-- Fourth word. -/
  d : UInt32
  /-- Fifth word. -/
  e : UInt32
  /-- Sixth word. -/
  f : UInt32
  /-- Seventh word. -/
  g : UInt32
  /-- Eighth word. -/
  h : UInt32
  deriving DecidableEq, Repr

/-- The state before the first block: fractional parts of the square roots of the
    first eight primes. -/
def State.initial : State :=
  ⟨0x6a09e667, 0xbb67ae85, 0x3c6ef372, 0xa54ff53a,
   0x510e527f, 0x9b05688c, 0x1f83d9ab, 0x5be0cd19⟩

/-- The constants of the rounds: fractional parts of the cube roots of the first
    sixty-four primes. -/
def roundConstants : List UInt32 := [
  0x428a2f98, 0x71374491, 0xb5c0fbcf, 0xe9b5dba5, 0x3956c25b, 0x59f111f1, 0x923f82a4, 0xab1c5ed5,
  0xd807aa98, 0x12835b01, 0x243185be, 0x550c7dc3, 0x72be5d74, 0x80deb1fe, 0x9bdc06a7, 0xc19bf174,
  0xe49b69c1, 0xefbe4786, 0x0fc19dc6, 0x240ca1cc, 0x2de92c6f, 0x4a7484aa, 0x5cb0a9dc, 0x76f988da,
  0x983e5152, 0xa831c66d, 0xb00327c8, 0xbf597fc7, 0xc6e00bf3, 0xd5a79147, 0x06ca6351, 0x14292967,
  0x27b70a85, 0x2e1b2138, 0x4d2c6dfc, 0x53380d13, 0x650a7354, 0x766a0abb, 0x81c2c92e, 0x92722c85,
  0xa2bfe8a1, 0xa81a664b, 0xc24b8b70, 0xc76c51a3, 0xd192e819, 0xd6990624, 0xf40e3585, 0x106aa070,
  0x19a4c116, 0x1e376c08, 0x2748774c, 0x34b0bcb5, 0x391c0cb3, 0x4ed8aa4a, 0x5b9cca4f, 0x682e6ff3,
  0x748f82ee, 0x78a5636f, 0x84c87814, 0x8cc70208, 0x90befffa, 0xa4506ceb, 0xbef9a3f7, 0xc67178f2]

/-- A word rotated to the right by `n` places, `0 < n < 32`. -/
def rotated (x : UInt32) (n : UInt32) : UInt32 := (x >>> n) ||| (x <<< (32 - n))

/-- The mixing of the word two places back in the schedule. -/
def smallSigma1 (x : UInt32) : UInt32 := rotated x 17 ^^^ rotated x 19 ^^^ (x >>> 10)

/-- The mixing of the word fifteen places back in the schedule. -/
def smallSigma0 (x : UInt32) : UInt32 := rotated x 7 ^^^ rotated x 18 ^^^ (x >>> 3)

/-- The mixing of the fifth word of state. -/
def bigSigma1 (x : UInt32) : UInt32 := rotated x 6 ^^^ rotated x 11 ^^^ rotated x 25

/-- The mixing of the first word of state. -/
def bigSigma0 (x : UInt32) : UInt32 := rotated x 2 ^^^ rotated x 13 ^^^ rotated x 22

/-- The message schedule, `count` words beyond the sixteen of the block. The words are
    held newest first in `recent`. -/
def schedule : Nat → List UInt32 → List UInt32
  | 0, recent => recent.reverse
  | count + 1, recent =>
      let word := smallSigma1 (recent.getD 1 0) + recent.getD 6 0 +
        smallSigma0 (recent.getD 14 0) + recent.getD 15 0
      schedule count (word :: recent)

/-- One round with a constant and a word of the schedule. -/
def round (s : State) (constant word : UInt32) : State :=
  let choice := (s.e &&& s.f) ^^^ (~~~s.e &&& s.g)
  let t1 := s.h + bigSigma1 s.e + choice + constant + word
  let majority := (s.a &&& s.b) ^^^ (s.a &&& s.c) ^^^ (s.b &&& s.c)
  let t2 := bigSigma0 s.a + majority
  ⟨t1 + t2, s.a, s.b, s.c, s.d + t1, s.e, s.f, s.g⟩

/-- The state after one block of sixteen words. -/
def compress (s : State) (block : List UInt32) : State :=
  let words := schedule 48 block.reverse
  let r := (roundConstants.zip words).foldl
    (fun state (constant, word) => round state constant word) s
  ⟨s.a + r.a, s.b + r.b, s.c + r.c, s.d + r.d, s.e + r.e, s.f + r.f, s.g + r.g, s.h + r.h⟩

/-- Four bytes as one word, most significant first; missing bytes count as zero. -/
def wordAt (bytes : ByteArray) (i : Nat) : UInt32 :=
  let byte (k : Nat) : UInt32 := (bytes[i + k]?.getD 0).toUInt32
  (byte 0 <<< 24) ||| (byte 1 <<< 16) ||| (byte 2 <<< 8) ||| byte 3

/-- The message with its padding: a set bit, zeros, and the length in bits as eight
    bytes, so that the whole is a multiple of sixty-four bytes. -/
def padded (message : ByteArray) : ByteArray :=
  let zeros := (119 - message.size % 64) % 64
  let bits := message.size * 8
  let length := (List.range 8).map fun i => UInt8.ofNat (bits >>> (8 * (7 - i)))
  message ++ ⟨(0x80 :: List.replicate zeros 0 ++ length).toArray⟩

/-- The state after all blocks of a message. -/
def finalState (message : ByteArray) : State :=
  let bytes := padded message
  (List.range (bytes.size / 64)).foldl (fun state i =>
    compress state ((List.range 16).map fun j => wordAt bytes (64 * i + 4 * j))) State.initial

/-- The digest of a message as text. -/
def hex (message : ByteArray) : String :=
  let s := finalState message
  String.ofList ([s.a, s.b, s.c, s.d, s.e, s.f, s.g, s.h].flatMap fun word =>
    Text.hexPadded 8 word.toNat)

end LastGood.Digest

namespace LastGood

/-- The checksum of a text. -/
def checksum (text : String) : String := Digest.hex text.toUTF8

end LastGood
