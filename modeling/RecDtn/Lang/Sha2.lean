import RecDtn.Lang.Runtime
import RecDtn.Wire.CborHead

/-! SHA-256 as FIPS 180-4 has it, on words that are numbers below `2 ^ 32`. -/

namespace RecDtn.Lang.Sha2

open Wire.CborHead

def word (value : Nat) : Nat := value % 2 ^ 32

def rotr (count value : Nat) : Nat := value >>> count ||| word (value <<< (32 - count))

def ch (x y z : Nat) : Nat := (x &&& y) ^^^ ((2 ^ 32 - 1 - x) &&& z)

def maj (x y z : Nat) : Nat := (x &&& y) ^^^ (x &&& z) ^^^ (y &&& z)

/-- The functions `Σ₀` and `Σ₁` of the rounds, `σ₀` and `σ₁` of the schedule. -/
def bigSigma0 (x : Nat) : Nat := rotr 2 x ^^^ rotr 13 x ^^^ rotr 22 x
def bigSigma1 (x : Nat) : Nat := rotr 6 x ^^^ rotr 11 x ^^^ rotr 25 x
def smallSigma0 (x : Nat) : Nat := rotr 7 x ^^^ rotr 18 x ^^^ x >>> 3
def smallSigma1 (x : Nat) : Nat := rotr 17 x ^^^ rotr 19 x ^^^ x >>> 10

def constants : List Nat :=
  [0x428a2f98, 0x71374491, 0xb5c0fbcf, 0xe9b5dba5, 0x3956c25b, 0x59f111f1, 0x923f82a4, 0xab1c5ed5,
   0xd807aa98, 0x12835b01, 0x243185be, 0x550c7dc3, 0x72be5d74, 0x80deb1fe, 0x9bdc06a7, 0xc19bf174,
   0xe49b69c1, 0xefbe4786, 0x0fc19dc6, 0x240ca1cc, 0x2de92c6f, 0x4a7484aa, 0x5cb0a9dc, 0x76f988da,
   0x983e5152, 0xa831c66d, 0xb00327c8, 0xbf597fc7, 0xc6e00bf3, 0xd5a79147, 0x06ca6351, 0x14292967,
   0x27b70a85, 0x2e1b2138, 0x4d2c6dfc, 0x53380d13, 0x650a7354, 0x766a0abb, 0x81c2c92e, 0x92722c85,
   0xa2bfe8a1, 0xa81a664b, 0xc24b8b70, 0xc76c51a3, 0xd192e819, 0xd6990624, 0xf40e3585, 0x106aa070,
   0x19a4c116, 0x1e376c08, 0x2748774c, 0x34b0bcb5, 0x391c0cb3, 0x4ed8aa4a, 0x5b9cca4f, 0x682e6ff3,
   0x748f82ee, 0x78a5636f, 0x84c87814, 0x8cc70208, 0x90befffa, 0xa4506ceb, 0xbef9a3f7, 0xc67178f2]

structure Working where
  a : Nat
  b : Nat
  c : Nat
  d : Nat
  e : Nat
  f : Nat
  g : Nat
  h : Nat

def initial : Working :=
  ⟨0x6a09e667, 0xbb67ae85, 0x3c6ef372, 0xa54ff53a,
   0x510e527f, 0x9b05688c, 0x1f83d9ab, 0x5be0cd19⟩

def round (constant scheduled : Nat) (w : Working) : Working :=
  let t1 := w.h + bigSigma1 w.e + ch w.e w.f w.g + constant + scheduled
  let t2 := bigSigma0 w.a + maj w.a w.b w.c
  ⟨word (t1 + t2), w.a, w.b, w.c, word (w.d + t1), w.e, w.f, w.g⟩

/-- The word that enters the schedule when the first of sixteen leaves it. -/
def extend (schedule : List Nat) : Nat :=
  word (smallSigma1 (schedule.getD 14 0) + schedule.getD 9 0 + smallSigma0 (schedule.getD 1 0) +
    schedule.getD 0 0)

def rounds : List Nat → List Nat → Working → Working
  | [], _, w => w
  | constant :: rest, schedule, w =>
    rounds rest (schedule.drop 1 ++ [extend schedule]) (round constant (schedule.getD 0 0) w)

def compress (w : Working) (block : List Nat) : Working :=
  let r := rounds constants block w
  ⟨word (w.a + r.a), word (w.b + r.b), word (w.c + r.c), word (w.d + r.d),
   word (w.e + r.e), word (w.f + r.f), word (w.g + r.g), word (w.h + r.h)⟩

def words : List UInt8 → List Nat
  | a :: b :: c :: d :: rest => ofBigEndian [a, b, c, d] :: words rest
  | _ => []

/-- A one bit, zeros up to eight bytes before the end of a block, and the length
of the message in bits. -/
def pad (message : List UInt8) : List UInt8 :=
  message ++ 0x80 :: List.replicate ((119 - message.length % 64) % 64) 0 ++
    bigEndian 8 (8 * message.length)

def digest (w : Working) : List UInt8 :=
  [w.a, w.b, w.c, w.d, w.e, w.f, w.g, w.h].flatMap (bigEndian 4)

def compressAll : Nat → List Nat → Working → Working
  | 0, _, w => w
  | blocks + 1, message, w => compressAll blocks (message.drop 16) (compress w (message.take 16))

def sum256 (message : List UInt8) : List UInt8 :=
  let padded := words (pad message)
  digest (compressAll (padded.length / 16) padded initial)

/-- The first example of the standard, `abc`. -/
example : sum256 [97, 98, 99] =
    [0xba, 0x78, 0x16, 0xbf, 0x8f, 0x01, 0xcf, 0xea, 0x41, 0x41, 0x40, 0xde, 0x5d, 0xae, 0x22, 0x23,
     0xb0, 0x03, 0x61, 0xa3, 0x96, 0x17, 0x7a, 0x9c, 0xb4, 0x10, 0xff, 0x61, 0xf2, 0x00, 0x15, 0xad] := by
  decide +kernel

end RecDtn.Lang.Sha2

/-- The hash function itself. -/
@[reducible] def RecDtn.Lang.Sha256.standard : Sha256 := ⟨Sha2.sum256⟩
