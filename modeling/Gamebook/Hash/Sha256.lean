/-!
SHA-256: the message is padded to blocks of sixteen words, and each block is mixed into a state of
eight words.
-/

namespace Gamebook.Hash.Sha256

structure State where
  a : UInt32
  b : UInt32
  c : UInt32
  d : UInt32
  e : UInt32
  f : UInt32
  g : UInt32
  h : UInt32
deriving DecidableEq, Repr

/-- The fractional parts of the square roots of the first eight primes. -/
def initial : State :=
  ⟨0x6a09e667, 0xbb67ae85, 0x3c6ef372, 0xa54ff53a,
    0x510e527f, 0x9b05688c, 0x1f83d9ab, 0x5be0cd19⟩

/-- The fractional parts of the cube roots of the first sixty-four primes. -/
def roundConstants : Array UInt32 := #[
  0x428a2f98, 0x71374491, 0xb5c0fbcf, 0xe9b5dba5, 0x3956c25b, 0x59f111f1, 0x923f82a4, 0xab1c5ed5,
  0xd807aa98, 0x12835b01, 0x243185be, 0x550c7dc3, 0x72be5d74, 0x80deb1fe, 0x9bdc06a7, 0xc19bf174,
  0xe49b69c1, 0xefbe4786, 0x0fc19dc6, 0x240ca1cc, 0x2de92c6f, 0x4a7484aa, 0x5cb0a9dc, 0x76f988da,
  0x983e5152, 0xa831c66d, 0xb00327c8, 0xbf597fc7, 0xc6e00bf3, 0xd5a79147, 0x06ca6351, 0x14292967,
  0x27b70a85, 0x2e1b2138, 0x4d2c6dfc, 0x53380d13, 0x650a7354, 0x766a0abb, 0x81c2c92e, 0x92722c85,
  0xa2bfe8a1, 0xa81a664b, 0xc24b8b70, 0xc76c51a3, 0xd192e819, 0xd6990624, 0xf40e3585, 0x106aa070,
  0x19a4c116, 0x1e376c08, 0x2748774c, 0x34b0bcb5, 0x391c0cb3, 0x4ed8aa4a, 0x5b9cca4f, 0x682e6ff3,
  0x748f82ee, 0x78a5636f, 0x84c87814, 0x8cc70208, 0x90befffa, 0xa4506ceb, 0xbef9a3f7, 0xc67178f2]

def rotateRight (word count : UInt32) : UInt32 :=
  (word >>> count) ||| (word <<< (32 - count))

def schedule (block : Array UInt32) : Array UInt32 :=
  (List.range 48).foldl (fun words i =>
    let w15 := words.getD (i + 1) 0
    let w2 := words.getD (i + 14) 0
    let s0 := rotateRight w15 7 ^^^ rotateRight w15 18 ^^^ (w15 >>> 3)
    let s1 := rotateRight w2 17 ^^^ rotateRight w2 19 ^^^ (w2 >>> 10)
    words.push (words.getD i 0 + s0 + words.getD (i + 9) 0 + s1)) block

def round (state : State) (word constant : UInt32) : State :=
  let s1 := rotateRight state.e 6 ^^^ rotateRight state.e 11 ^^^ rotateRight state.e 25
  let choice := (state.e &&& state.f) ^^^ (~~~state.e &&& state.g)
  let mixed := state.h + s1 + choice + constant + word
  let s0 := rotateRight state.a 2 ^^^ rotateRight state.a 13 ^^^ rotateRight state.a 22
  let majority := (state.a &&& state.b) ^^^ (state.a &&& state.c) ^^^ (state.b &&& state.c)
  ⟨mixed + s0 + majority, state.a, state.b, state.c, state.d + mixed, state.e, state.f, state.g⟩

def compress (state : State) (block : Array UInt32) : State :=
  let words := schedule block
  let mixed := (List.range 64).foldl
    (fun state i => round state (words.getD i 0) (roundConstants.getD i 0)) state
  ⟨state.a + mixed.a, state.b + mixed.b, state.c + mixed.c, state.d + mixed.d,
    state.e + mixed.e, state.f + mixed.f, state.g + mixed.g, state.h + mixed.h⟩

/-- The message, one bit, zeros to eight bytes short of a block, and the length in bits. -/
def pad (message : ByteArray) : ByteArray :=
  let zeros := (119 - message.size % 64) % 64
  let bits := 8 * message.size
  let tail := (0x80 : UInt8) :: List.replicate zeros 0
    ++ (List.range 8).map fun i => (bits >>> (8 * (7 - i))).toUInt8
  tail.foldl ByteArray.push message

def word (bytes : ByteArray) (at4 : Nat) : UInt32 :=
  (List.range 4).foldl (fun value i => (value <<< 8) ||| (bytes.data.getD (at4 + i) 0).toUInt32) 0

def digest (message : ByteArray) : State :=
  let padded := pad message
  (List.range (padded.size / 64)).foldl (fun state block =>
    compress state ((Array.range 16).map fun i => word padded (64 * block + 4 * i))) initial

def wordHex (word : UInt32) : List Char :=
  (List.range 8).map fun i => Nat.digitChar ((word >>> (28 - 4 * i.toUInt32)) &&& 15).toNat

def hexDigest (message : ByteArray) : List Char :=
  let state := digest message
  [state.a, state.b, state.c, state.d, state.e, state.f, state.g, state.h].flatMap wordHex

end Gamebook.Hash.Sha256
