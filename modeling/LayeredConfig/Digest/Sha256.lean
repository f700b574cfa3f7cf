import LayeredConfig.Text.CodePoint

/-!
# SHA-256

The SHA-256 digest: the message is padded to whole blocks of sixteen words, and each block is mixed into
the eight words of the state in sixty-four rounds. `Sha256.hex` gives the digest of bytes as sixty-four
hexadecimal digits.
-/

namespace LayeredConfig.Sha256

/-- The round constants: the fractional parts of the cube roots of the first sixty-four primes. -/
def roundConstants : List UInt32 := [
  0x428a2f98, 0x71374491, 0xb5c0fbcf, 0xe9b5dba5, 0x3956c25b, 0x59f111f1, 0x923f82a4, 0xab1c5ed5,
  0xd807aa98, 0x12835b01, 0x243185be, 0x550c7dc3, 0x72be5d74, 0x80deb1fe, 0x9bdc06a7, 0xc19bf174,
  0xe49b69c1, 0xefbe4786, 0x0fc19dc6, 0x240ca1cc, 0x2de92c6f, 0x4a7484aa, 0x5cb0a9dc, 0x76f988da,
  0x983e5152, 0xa831c66d, 0xb00327c8, 0xbf597fc7, 0xc6e00bf3, 0xd5a79147, 0x06ca6351, 0x14292967,
  0x27b70a85, 0x2e1b2138, 0x4d2c6dfc, 0x53380d13, 0x650a7354, 0x766a0abb, 0x81c2c92e, 0x92722c85,
  0xa2bfe8a1, 0xa81a664b, 0xc24b8b70, 0xc76c51a3, 0xd192e819, 0xd6990624, 0xf40e3585, 0x106aa070,
  0x19a4c116, 0x1e376c08, 0x2748774c, 0x34b0bcb5, 0x391c0cb3, 0x4ed8aa4a, 0x5b9cca4f, 0x682e6ff3,
  0x748f82ee, 0x78a5636f, 0x84c87814, 0x8cc70208, 0x90befffa, 0xa4506ceb, 0xbef9a3f7, 0xc67178f2
]

/-- The eight words that are mixed. -/
structure State where
  a : UInt32
  b : UInt32
  c : UInt32
  d : UInt32
  e : UInt32
  f : UInt32
  g : UInt32
  h : UInt32

namespace State

/-- The state before the first block: the fractional parts of the square roots of the first eight primes. -/
def initial : State :=
  ⟨0x6a09e667, 0xbb67ae85, 0x3c6ef372, 0xa54ff53a,
    0x510e527f, 0x9b05688c, 0x1f83d9ab, 0x5be0cd19⟩

/-- Word by word sums. -/
def add (s t : State) : State :=
  ⟨s.a + t.a, s.b + t.b, s.c + t.c, s.d + t.d, s.e + t.e, s.f + t.f, s.g + t.g, s.h + t.h⟩

def words (s : State) : List UInt32 :=
  [s.a, s.b, s.c, s.d, s.e, s.f, s.g, s.h]

end State

/-- Rotates a word to the right; `n` is between 1 and 31. -/
def rotate (x n : UInt32) : UInt32 :=
  (x >>> n) ||| (x <<< (32 - n))

/-- The bytes added behind a message of `length` bytes: a one bit, zeros up to eight bytes before the end of a
block, and the length in bits. -/
def padding (length : Nat) : List UInt8 :=
  let zeros := (119 - length % 64) % 64
  let bits := length * 8
  0x80 :: List.replicate zeros 0 ++
    ([56, 48, 40, 32, 24, 16, 8, 0].map fun shift : Nat => UInt8.ofNat (bits >>> shift))

/-- Bytes as words of four, the first byte highest. -/
def toWords : List UInt8 → List UInt32
  | a :: b :: c :: d :: rest =>
    ((a.toUInt32 <<< 24) ||| (b.toUInt32 <<< 16) ||| (c.toUInt32 <<< 8) ||| d.toUInt32) :: toWords rest
  | _ => []

/-- The word that follows sixteen words of the schedule, given those words. -/
def nextWord (w : List UInt32) : UInt32 :=
  match w with
  | w₀ :: w₁ :: _ :: _ :: _ :: _ :: _ :: _ :: _ :: w₉ :: _ :: _ :: _ :: _ :: w₁₄ :: _ =>
    let s₀ := rotate w₁ 7 ^^^ rotate w₁ 18 ^^^ (w₁ >>> 3)
    let s₁ := rotate w₁₄ 17 ^^^ rotate w₁₄ 19 ^^^ (w₁₄ >>> 10)
    w₀ + s₀ + w₉ + s₁
  | _ => 0

/-- One round with the word `w` of the schedule and the constant `k`. -/
def round (s : State) (k w : UInt32) : State :=
  let s₁ := rotate s.e 6 ^^^ rotate s.e 11 ^^^ rotate s.e 25
  let choice := (s.e &&& s.f) ^^^ ((~~~ s.e) &&& s.g)
  let t₁ := s.h + s₁ + choice + k + w
  let s₀ := rotate s.a 2 ^^^ rotate s.a 13 ^^^ rotate s.a 22
  let majority := (s.a &&& s.b) ^^^ (s.a &&& s.c) ^^^ (s.b &&& s.c)
  ⟨t₁ + (s₀ + majority), s.a, s.b, s.c, s.d + t₁, s.e, s.f, s.g⟩

/-- The rounds of one block. `window` holds the sixteen words of the schedule from the current one on. -/
def rounds (s : State) (window : List UInt32) : List UInt32 → State
  | [] => s
  | k :: rest => rounds (round s k (window.headD 0)) (window.drop 1 ++ [nextWord window]) rest

/-- Mixes blocks of sixteen words, `count` of them. -/
def blocks (s : State) : Nat → List UInt32 → State
  | 0, _ => s
  | count + 1, words =>
    blocks (s.add (rounds s (words.take 16) roundConstants)) count (words.drop 16)

def digest (message : List UInt8) : List UInt32 :=
  let padded := message ++ padding message.length
  (blocks State.initial (padded.length / 64) (toWords padded)).words

/-- The digest of a message in hexadecimal digits. -/
def hex (message : List UInt8) : Text :=
  (digest message).flatMap fun w => Text.hex 8 w.toNat

end LayeredConfig.Sha256
