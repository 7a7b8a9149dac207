/-
The SHA-256 digest of a sequence of bytes.

The message is padded with a one bit, zeros and its bit length to a
multiple of sixteen 32-bit words, read big-endian. Each block of sixteen
words is stretched to a schedule of sixty-four, and sixty-four rounds
mix the schedule into eight words of running state; the digest is the
state after the last block.
-/
namespace SpellSessions.Digest

namespace Sha256

/-- The eight words of running state. -/
structure State where
  a : UInt32
  b : UInt32
  c : UInt32
  d : UInt32
  e : UInt32
  f : UInt32
  g : UInt32
  h : UInt32
deriving DecidableEq, Repr

/-- The state before the first block: the leading fraction bits of the
square roots of the first eight primes. -/
def State.initial : State :=
  ⟨0x6a09e667, 0xbb67ae85, 0x3c6ef372, 0xa54ff53a,
   0x510e527f, 0x9b05688c, 0x1f83d9ab, 0x5be0cd19⟩

/-- Wordwise sum of two states. -/
def State.add (s t : State) : State :=
  ⟨s.a + t.a, s.b + t.b, s.c + t.c, s.d + t.d,
   s.e + t.e, s.f + t.f, s.g + t.g, s.h + t.h⟩

/-- The words of a state, first to last. -/
def State.words (s : State) : List UInt32 :=
  [s.a, s.b, s.c, s.d, s.e, s.f, s.g, s.h]

/-- The constant of each round: the leading fraction bits of the cube
roots of the first sixty-four primes. -/
def roundConstants : List UInt32 :=
  [0x428a2f98, 0x71374491, 0xb5c0fbcf, 0xe9b5dba5,
   0x3956c25b, 0x59f111f1, 0x923f82a4, 0xab1c5ed5,
   0xd807aa98, 0x12835b01, 0x243185be, 0x550c7dc3,
   0x72be5d74, 0x80deb1fe, 0x9bdc06a7, 0xc19bf174,
   0xe49b69c1, 0xefbe4786, 0x0fc19dc6, 0x240ca1cc,
   0x2de92c6f, 0x4a7484aa, 0x5cb0a9dc, 0x76f988da,
   0x983e5152, 0xa831c66d, 0xb00327c8, 0xbf597fc7,
   0xc6e00bf3, 0xd5a79147, 0x06ca6351, 0x14292967,
   0x27b70a85, 0x2e1b2138, 0x4d2c6dfc, 0x53380d13,
   0x650a7354, 0x766a0abb, 0x81c2c92e, 0x92722c85,
   0xa2bfe8a1, 0xa81a664b, 0xc24b8b70, 0xc76c51a3,
   0xd192e819, 0xd6990624, 0xf40e3585, 0x106aa070,
   0x19a4c116, 0x1e376c08, 0x2748774c, 0x34b0bcb5,
   0x391c0cb3, 0x4ed8aa4a, 0x5b9cca4f, 0x682e6ff3,
   0x748f82ee, 0x78a5636f, 0x84c87814, 0x8cc70208,
   0x90befffa, 0xa4506ceb, 0xbef9a3f7, 0xc67178f2]

/-- A word turned right by `n` places, `n` between 1 and 31. -/
def rotate (x n : UInt32) : UInt32 :=
  (x >>> n) ||| (x <<< (32 - n))

-- ====================================================== the message

/-- How many zero bytes stand between the one bit and the length, so
that a message of `n` bytes fills whole blocks of 64. -/
def zeroCount (n : Nat) : Nat :=
  (119 - n % 64) % 64

/-- The eight bytes of a bit length, most significant first. -/
def lengthBytes (bits : Nat) : List UInt8 :=
  [56, 48, 40, 32, 24, 16, 8, 0].map fun shift =>
    UInt8.ofNat (bits >>> shift)

/-- The message with its padding. -/
def pad (message : List UInt8) : List UInt8 :=
  message ++ 0x80 :: List.replicate (zeroCount message.length) 0
    ++ lengthBytes (8 * message.length)

/-- Bytes read as big-endian words; fewer than four bytes at the end
make no word. -/
def wordsOfBytes : List UInt8 → List UInt32
  | b0 :: b1 :: b2 :: b3 :: rest =>
    ((b0.toUInt32 <<< 24) ||| (b1.toUInt32 <<< 16)
      ||| (b2.toUInt32 <<< 8) ||| b3.toUInt32) :: wordsOfBytes rest
  | _ => []

-- =========================================================== one block

/-- The next word of a schedule of which the last sixteen words are
known, newest first. -/
def nextWord (recent : List UInt32) : UInt32 :=
  let w2 := recent.getD 1 0
  let w7 := recent.getD 6 0
  let w15 := recent.getD 14 0
  let w16 := recent.getD 15 0
  let low := rotate w15 7 ^^^ rotate w15 18 ^^^ (w15 >>> 3)
  let high := rotate w2 17 ^^^ rotate w2 19 ^^^ (w2 >>> 10)
  w16 + low + w7 + high

/-- The schedule of a block: its sixteen words and forty-eight more. -/
def schedule (block : List UInt32) : List UInt32 :=
  ((List.range 48).foldl
    (fun words _ => nextWord words :: words) block.reverse).reverse

/-- One round, with its constant and its word of the schedule. -/
def round (s : State) (k w : UInt32) : State :=
  let sum1 := rotate s.e 6 ^^^ rotate s.e 11 ^^^ rotate s.e 25
  let choice := (s.e &&& s.f) ^^^ ((~~~ s.e) &&& s.g)
  let t1 := s.h + sum1 + choice + k + w
  let sum0 := rotate s.a 2 ^^^ rotate s.a 13 ^^^ rotate s.a 22
  let majority := (s.a &&& s.b) ^^^ (s.a &&& s.c) ^^^ (s.b &&& s.c)
  ⟨t1 + (sum0 + majority), s.a, s.b, s.c, s.d + t1, s.e, s.f, s.g⟩

/-- The state after one block. -/
def absorb (s : State) (block : List UInt32) : State :=
  s.add <| (roundConstants.zip (schedule block)).foldl
    (fun t kw => round t kw.1 kw.2) s

/-- The state after all words, taken in blocks of sixteen. -/
def absorbAll (s : State) (words : List UInt32) : State :=
  (List.range (words.length / 16)).foldl
    (fun t i => absorb t ((words.drop (16 * i)).take 16)) s

end Sha256

/-- The digest of a message, as eight words. -/
def sha256 (message : List UInt8) : List UInt32 :=
  (Sha256.absorbAll .initial (Sha256.wordsOfBytes (Sha256.pad message))).words

end SpellSessions.Digest
