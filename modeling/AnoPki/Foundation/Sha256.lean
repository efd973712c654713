import AnoPki.Foundation.Text

/-! # SHA-256

The hash function of FIPS 180-4 over byte lists. Words are natural numbers below `2 ^ 32`, with
the reduction written where an operation can leave that range, so that a digest is found by
evaluation. -/
namespace Foundation.Sha256

/-- The number of 32-bit words. -/
def modulus : Nat := 4294967296

def rotateRight (n x : Nat) : Nat := (x >>> n) ||| ((x <<< (32 - n)) % modulus)

def choose (x y z : Nat) : Nat := (x &&& y) ^^^ ((modulus - 1 - x) &&& z)

def majority (x y z : Nat) : Nat := (x &&& y) ^^^ (x &&& z) ^^^ (y &&& z)

def bigSigma0 (x : Nat) : Nat := rotateRight 2 x ^^^ rotateRight 13 x ^^^ rotateRight 22 x

def bigSigma1 (x : Nat) : Nat := rotateRight 6 x ^^^ rotateRight 11 x ^^^ rotateRight 25 x

def smallSigma0 (x : Nat) : Nat := rotateRight 7 x ^^^ rotateRight 18 x ^^^ (x >>> 3)

def smallSigma1 (x : Nat) : Nat := rotateRight 17 x ^^^ rotateRight 19 x ^^^ (x >>> 10)

/-- The round constants, from the cube roots of the first 64 primes. -/
def roundConstants : List Nat := [
  0x428a2f98, 0x71374491, 0xb5c0fbcf, 0xe9b5dba5, 0x3956c25b, 0x59f111f1, 0x923f82a4, 0xab1c5ed5,
  0xd807aa98, 0x12835b01, 0x243185be, 0x550c7dc3, 0x72be5d74, 0x80deb1fe, 0x9bdc06a7, 0xc19bf174,
  0xe49b69c1, 0xefbe4786, 0x0fc19dc6, 0x240ca1cc, 0x2de92c6f, 0x4a7484aa, 0x5cb0a9dc, 0x76f988da,
  0x983e5152, 0xa831c66d, 0xb00327c8, 0xbf597fc7, 0xc6e00bf3, 0xd5a79147, 0x06ca6351, 0x14292967,
  0x27b70a85, 0x2e1b2138, 0x4d2c6dfc, 0x53380d13, 0x650a7354, 0x766a0abb, 0x81c2c92e, 0x92722c85,
  0xa2bfe8a1, 0xa81a664b, 0xc24b8b70, 0xc76c51a3, 0xd192e819, 0xd6990624, 0xf40e3585, 0x106aa070,
  0x19a4c116, 0x1e376c08, 0x2748774c, 0x34b0bcb5, 0x391c0cb3, 0x4ed8aa4a, 0x5b9cca4f, 0x682e6ff3,
  0x748f82ee, 0x78a5636f, 0x84c87814, 0x8cc70208, 0x90befffa, 0xa4506ceb, 0xbef9a3f7, 0xc67178f2]

/-- The eight working words. -/
structure State where
  a : Nat
  b : Nat
  c : Nat
  d : Nat
  e : Nat
  f : Nat
  g : Nat
  h : Nat
deriving DecidableEq, Repr

/-- The initial hash value, from the square roots of the first eight primes. -/
def initial : State :=
  ⟨0x6a09e667, 0xbb67ae85, 0x3c6ef372, 0xa54ff53a, 0x510e527f, 0x9b05688c, 0x1f83d9ab, 0x5be0cd19⟩

def State.round (s : State) (constant word : Nat) : State :=
  let t1 := (s.h + bigSigma1 s.e + choose s.e s.f s.g + constant + word) % modulus
  let t2 := (bigSigma0 s.a + majority s.a s.b s.c) % modulus
  ⟨(t1 + t2) % modulus, s.a, s.b, s.c, (s.d + t1) % modulus, s.e, s.f, s.g⟩

/-- One round for each constant. The message schedule is kept as a window of sixteen words. -/
def rounds : List Nat → List Nat → State → State
  | constant :: constants, word :: next :: window, s =>
    let scheduled :=
      (smallSigma1 (window.getD 12 0) + window.getD 7 0 + smallSigma0 next + word) % modulus
    rounds constants (next :: window ++ [scheduled]) (s.round constant word)
  | _, _, s => s

def State.add (s t : State) : State :=
  ⟨(s.a + t.a) % modulus, (s.b + t.b) % modulus, (s.c + t.c) % modulus, (s.d + t.d) % modulus,
    (s.e + t.e) % modulus, (s.f + t.f) % modulus, (s.g + t.g) % modulus, (s.h + t.h) % modulus⟩

/-- Big-endian words of a byte list. -/
def words : List Nat → List Nat
  | a :: b :: c :: d :: rest => (a * 16777216 + b * 65536 + c * 256 + d) :: words rest
  | _ => []

def compress (s : State) (block : List Nat) : State := s.add (rounds roundConstants (words block) s)

/-- The big-endian bytes of a number of `width` bytes. -/
def bigEndian : Nat → Nat → List Nat
  | 0, _ => []
  | width + 1, n => bigEndian width (n / 256) ++ [n % 256]

/-- The message followed by a one bit, zeros, and its length in bits, in whole blocks. -/
def pad (message : List Nat) : List Nat :=
  message ++ 0x80 ::
    (List.replicate ((119 - message.length % 64) % 64) 0 ++ bigEndian 8 (8 * message.length))

/-- Compress the given number of blocks. -/
def absorb : Nat → List Nat → State → State
  | 0, _, s => s
  | blocks + 1, message, s => absorb blocks (message.drop 64) (compress s (message.take 64))

def State.bytes (s : State) : List UInt8 :=
  ([s.a, s.b, s.c, s.d, s.e, s.f, s.g, s.h].flatMap (bigEndian 4)).map UInt8.ofNat

end Foundation.Sha256

namespace Foundation

open Sha256

/-- The SHA-256 digest of a byte list. -/
def sha256 (message : List UInt8) : List UInt8 :=
  let padded := pad (message.map UInt8.toNat)
  (absorb (padded.length / 64) padded initial).bytes

private theorem length_bigEndian (width n : Nat) : (bigEndian width n).length = width := by
  induction width generalizing n with
  | zero => rfl
  | succ width ih => simp [bigEndian, ih]

@[simp] theorem length_sha256 (message : List UInt8) : (sha256 message).length = 32 := by
  simp [sha256, State.bytes, length_bigEndian]

example : Text.hexEncode (sha256 (Text.utf8 "abc".toList)) =
    "ba7816bf8f01cfea414140de5dae2223b00361a396177a9cb410ff61f20015ad".toList := by
  decide +kernel

/-- HMAC with SHA-256, whose blocks have 64 bytes. -/
def hmacSha256 (key message : List UInt8) : List UInt8 :=
  let short := if key.length > 64 then sha256 key else key
  let padded := short ++ List.replicate (64 - short.length) 0
  sha256 (padded.map (· ^^^ 0x5c) ++ sha256 (padded.map (· ^^^ 0x36) ++ message))

example : Text.hexEncode (hmacSha256 (Text.utf8 "key".toList)
    (Text.utf8 "The quick brown fox jumps over the lazy dog".toList)) =
    "f7bc83f430538424b13298e6aa6fb143ef4d59a14946175997479dbc2d1a3cd8".toList := by
  decide +kernel

end Foundation
