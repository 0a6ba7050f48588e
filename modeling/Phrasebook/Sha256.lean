import Phrasebook.Number.Numeral
import Phrasebook.Text.Utf8

/-!
# SHA-256

The secure hash function with 256 bits of output, on lists of bytes.
-/

namespace Phrasebook.Sha256

open Utf8 (Bytes)

/-- The first 32 bits of the fractional parts of the cube roots of the first 64 primes. -/
def roundConstants : List UInt32 :=
  [0x428a2f98, 0x71374491, 0xb5c0fbcf, 0xe9b5dba5, 0x3956c25b, 0x59f111f1, 0x923f82a4, 0xab1c5ed5,
    0xd807aa98, 0x12835b01, 0x243185be, 0x550c7dc3, 0x72be5d74, 0x80deb1fe, 0x9bdc06a7, 0xc19bf174,
    0xe49b69c1, 0xefbe4786, 0x0fc19dc6, 0x240ca1cc, 0x2de92c6f, 0x4a7484aa, 0x5cb0a9dc, 0x76f988da,
    0x983e5152, 0xa831c66d, 0xb00327c8, 0xbf597fc7, 0xc6e00bf3, 0xd5a79147, 0x06ca6351, 0x14292967,
    0x27b70a85, 0x2e1b2138, 0x4d2c6dfc, 0x53380d13, 0x650a7354, 0x766a0abb, 0x81c2c92e, 0x92722c85,
    0xa2bfe8a1, 0xa81a664b, 0xc24b8b70, 0xc76c51a3, 0xd192e819, 0xd6990624, 0xf40e3585, 0x106aa070,
    0x19a4c116, 0x1e376c08, 0x2748774c, 0x34b0bcb5, 0x391c0cb3, 0x4ed8aa4a, 0x5b9cca4f, 0x682e6ff3,
    0x748f82ee, 0x78a5636f, 0x84c87814, 0x8cc70208, 0x90befffa, 0xa4506ceb, 0xbef9a3f7, 0xc67178f2]

/-- The eight words that a hash is made of. -/
structure State where
  a : UInt32
  b : UInt32
  c : UInt32
  d : UInt32
  e : UInt32
  f : UInt32
  g : UInt32
  h : UInt32
deriving DecidableEq, Repr

/-- The first 32 bits of the fractional parts of the square roots of the first eight primes. -/
def State.initial : State :=
  ⟨0x6a09e667, 0xbb67ae85, 0x3c6ef372, 0xa54ff53a, 0x510e527f, 0x9b05688c, 0x1f83d9ab, 0x5be0cd19⟩

/-- Adds two states word by word. -/
def State.add (first second : State) : State :=
  ⟨first.a + second.a, first.b + second.b, first.c + second.c, first.d + second.d,
    first.e + second.e, first.f + second.f, first.g + second.g, first.h + second.h⟩

/-- Rotates a word to the right. -/
def rotate (word : UInt32) (count : UInt32) : UInt32 :=
  (word >>> count) ||| (word <<< (32 - count))

/-- One round with a constant and a word of the schedule. -/
def State.round (state : State) (constant word : UInt32) : State :=
  let choice := (state.e &&& state.f) ^^^ (~~~state.e &&& state.g)
  let majority := (state.a &&& state.b) ^^^ (state.a &&& state.c) ^^^ (state.b &&& state.c)
  let first := rotate state.e 6 ^^^ rotate state.e 11 ^^^ rotate state.e 25
  let second := rotate state.a 2 ^^^ rotate state.a 13 ^^^ rotate state.a 22
  let added := state.h + first + choice + constant + word
  ⟨added + second + majority, state.a, state.b, state.c, state.d + added, state.e, state.f, state.g⟩

/-- The next word of a schedule, from the words before it with the last one first. -/
def nextWord (previous : List UInt32) : UInt32 :=
  let word (back : Nat) : UInt32 := previous.getD (back - 1) 0
  let first := rotate (word 15) 7 ^^^ rotate (word 15) 18 ^^^ (word 15 >>> 3)
  let second := rotate (word 2) 17 ^^^ rotate (word 2) 19 ^^^ (word 2 >>> 10)
  word 16 + first + word 7 + second

/-- The words of a block, four bytes each. -/
def words : Bytes → List UInt32
  | first :: second :: third :: fourth :: rest =>
    ((first.toUInt32 <<< 24) ||| (second.toUInt32 <<< 16) ||| (third.toUInt32 <<< 8) |||
      fourth.toUInt32) :: words rest
  | _ => []

/-- The 64 words that a block is spread into. -/
def schedule (block : Bytes) : List UInt32 :=
  ((List.range 48).foldl (fun previous _ => nextWord previous :: previous)
    (words block).reverse).reverse

/-- Mixes one block into a state. -/
def State.compress (state : State) (block : Bytes) : State :=
  state.add ((roundConstants.zip (schedule block)).foldl
    (fun state pair => state.round pair.1 pair.2) state)

/-- The bytes of a number, most significant first. -/
def bigEndian (width number : Nat) : Bytes :=
  (List.range width).map fun index => (number / Nat.pow 256 (width - 1 - index)).toUInt8

/-- A message with the padding that makes its length a multiple of 64. -/
def padded (message : Bytes) : Bytes :=
  let zeros := (119 - message.length % 64) % 64
  message ++ 0x80 :: List.replicate zeros 0 ++ bigEndian 8 (8 * message.length)

/-- Mixes blocks into a state, a given number of them at most. -/
def State.absorb (state : State) (blocks : Nat) (message : Bytes) : State :=
  match blocks with
  | 0 => state
  | blocks + 1 => (state.compress (message.take 64)).absorb blocks (message.drop 64)

/-- The hash of a message in hexadecimal. -/
def hexDigest (message : Bytes) : Text :=
  let blocks := padded message
  let state := State.initial.absorb (blocks.length / 64) blocks
  Text.concat ([state.a, state.b, state.c, state.d, state.e, state.f, state.g, state.h].map
    fun word => Numeral.padded 16 8 word.toNat)

end Phrasebook.Sha256
