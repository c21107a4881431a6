/-!
# Fingerprints of contents

The fingerprint of a file is the SHA-256 digest of its bytes, written in lower-case hexadecimal.
The message is padded to whole blocks of 64 bytes, and the digest is a left fold of the compression
function over the blocks.

## Main definitions

* `Sha256.digest`: the eight words of a digest.
* `fingerprint`: the fingerprint of a byte sequence.
-/

namespace Driftwatch

namespace Sha256

/-- Eight words: a chaining value, or the working variables of a block. -/
structure Words where
  a : UInt32
  b : UInt32
  c : UInt32
  d : UInt32
  e : UInt32
  f : UInt32
  g : UInt32
  h : UInt32

/-- The first chaining value. -/
def initial : Words :=
  ⟨0x6a09e667, 0xbb67ae85, 0x3c6ef372, 0xa54ff53a, 0x510e527f, 0x9b05688c, 0x1f83d9ab, 0x5be0cd19⟩

/-- The constants of the 64 rounds. -/
def roundConstants : Array UInt32 :=
  #[0x428a2f98, 0x71374491, 0xb5c0fbcf, 0xe9b5dba5, 0x3956c25b, 0x59f111f1, 0x923f82a4, 0xab1c5ed5,
    0xd807aa98, 0x12835b01, 0x243185be, 0x550c7dc3, 0x72be5d74, 0x80deb1fe, 0x9bdc06a7, 0xc19bf174,
    0xe49b69c1, 0xefbe4786, 0x0fc19dc6, 0x240ca1cc, 0x2de92c6f, 0x4a7484aa, 0x5cb0a9dc, 0x76f988da,
    0x983e5152, 0xa831c66d, 0xb00327c8, 0xbf597fc7, 0xc6e00bf3, 0xd5a79147, 0x06ca6351, 0x14292967,
    0x27b70a85, 0x2e1b2138, 0x4d2c6dfc, 0x53380d13, 0x650a7354, 0x766a0abb, 0x81c2c92e, 0x92722c85,
    0xa2bfe8a1, 0xa81a664b, 0xc24b8b70, 0xc76c51a3, 0xd192e819, 0xd6990624, 0xf40e3585, 0x106aa070,
    0x19a4c116, 0x1e376c08, 0x2748774c, 0x34b0bcb5, 0x391c0cb3, 0x4ed8aa4a, 0x5b9cca4f, 0x682e6ff3,
    0x748f82ee, 0x78a5636f, 0x84c87814, 0x8cc70208, 0x90befffa, 0xa4506ceb, 0xbef9a3f7, 0xc67178f2]

/-- Rotation to the right by 1 to 31 places. -/
def rotateRight (x : UInt32) (n : UInt32) : UInt32 :=
  (x >>> n) ||| (x <<< (32 - n))

/-- The message with its padding: one bit, zeros up to the last eight bytes of a block, and the
length in bits. -/
def pad (message : ByteArray) : ByteArray :=
  let zeros := (119 - message.size % 64) % 64
  let bits := message.size * 8
  let padded := (List.replicate zeros (0 : UInt8)).foldl ByteArray.push (message.push 0x80)
  [56, 48, 40, 32, 24, 16, 8, 0].foldl
    (fun bytes (shift : Nat) => bytes.push (bits >>> shift).toUInt8) padded

/-- The four bytes from `index` on as a word, the most significant byte first. -/
def wordAt (bytes : ByteArray) (index : Nat) : UInt32 :=
  [0, 1, 2, 3].foldl
    (fun word offset => (word <<< 8) ||| (bytes.data.getD (index + offset) 0).toUInt32) 0

/-- The 64 words that the rounds of the block from `index` on use. -/
def schedule (bytes : ByteArray) (index : Nat) : Array UInt32 :=
  let block := (Array.range 16).map fun i => wordAt bytes (index + 4 * i)
  (List.range 48).foldl
    (fun words i =>
      let w15 := words.getD (i + 1) 0
      let w2 := words.getD (i + 14) 0
      let s0 := rotateRight w15 7 ^^^ rotateRight w15 18 ^^^ (w15 >>> 3)
      let s1 := rotateRight w2 17 ^^^ rotateRight w2 19 ^^^ (w2 >>> 10)
      words.push (words.getD i 0 + s0 + words.getD (i + 9) 0 + s1))
    block

/-- One round. -/
def round (s : Words) (constant word : UInt32) : Words :=
  let sum1 := rotateRight s.e 6 ^^^ rotateRight s.e 11 ^^^ rotateRight s.e 25
  let choice := (s.e &&& s.f) ^^^ (~~~s.e &&& s.g)
  let t1 := s.h + sum1 + choice + constant + word
  let sum0 := rotateRight s.a 2 ^^^ rotateRight s.a 13 ^^^ rotateRight s.a 22
  let majority := (s.a &&& s.b) ^^^ (s.a &&& s.c) ^^^ (s.b &&& s.c)
  ⟨t1 + (sum0 + majority), s.a, s.b, s.c, s.d + t1, s.e, s.f, s.g⟩

/-- The chaining value after the block from `index` on. -/
def compress (bytes : ByteArray) (chain : Words) (index : Nat) : Words :=
  let words := schedule bytes index
  let s := (List.range 64).foldl
    (fun s i => round s (roundConstants.getD i 0) (words.getD i 0)) chain
  ⟨chain.a + s.a, chain.b + s.b, chain.c + s.c, chain.d + s.d, chain.e + s.e, chain.f + s.f,
    chain.g + s.g, chain.h + s.h⟩

/-- The digest of a message. -/
def digest (message : ByteArray) : Words :=
  let padded := pad message
  (List.range (padded.size / 64)).foldl (fun chain i => compress padded chain (64 * i)) initial

/-- Eight hexadecimal digits of a word. -/
def hexWord (word : UInt32) : List Char :=
  [28, 24, 20, 16, 12, 8, 4, 0].map fun (shift : Nat) =>
    Nat.digitChar ((word.toNat >>> shift) % 16)

/-- The hexadecimal form of a digest. -/
def Words.hex (words : Words) : String :=
  String.ofList ([words.a, words.b, words.c, words.d, words.e, words.f, words.g, words.h].flatMap
    hexWord)

end Sha256

/-- The fingerprint of a byte sequence. -/
def fingerprint (bytes : ByteArray) : String :=
  (Sha256.digest bytes).hex

end Driftwatch
