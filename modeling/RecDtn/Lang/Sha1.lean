import RecDtn.Lang.Sha2

/-! SHA-1 as FIPS 180-4 has it. -/

namespace RecDtn.Lang

/-- The hash function. Where two hashes have to differ, this is an assumption
about the data at hand. -/
class Sha1 where
  hexdigest : List UInt8 → List Char

namespace Sha1

open Lang.Sha2 Wire.CborHead

structure Working where
  a : Nat
  b : Nat
  c : Nat
  d : Nat
  e : Nat

def initial : Working := ⟨0x67452301, 0xefcdab89, 0x98badcfe, 0x10325476, 0xc3d2e1f0⟩

def parity (x y z : Nat) : Nat := x ^^^ y ^^^ z

/-- The function and the constant of each of the four times twenty rounds. -/
def stages : List ((Nat → Nat → Nat → Nat) × Nat) :=
  [(ch, 0x5a827999), (parity, 0x6ed9eba1), (maj, 0x8f1bbcdc), (parity, 0xca62c1d6)].flatMap
    (List.replicate 20)

def round (stage : (Nat → Nat → Nat → Nat) × Nat) (scheduled : Nat) (w : Working) : Working :=
  ⟨word (rotr 27 w.a + stage.1 w.b w.c w.d + w.e + stage.2 + scheduled), w.a,
    rotr 2 w.b, w.c, w.d⟩

/-- The word that enters the schedule when the first of sixteen leaves it. -/
def extend (schedule : List Nat) : Nat :=
  rotr 31 (schedule.getD 13 0 ^^^ schedule.getD 8 0 ^^^ schedule.getD 2 0 ^^^ schedule.getD 0 0)

def rounds : List ((Nat → Nat → Nat → Nat) × Nat) → List Nat → Working → Working
  | [], _, w => w
  | stage :: rest, schedule, w =>
    rounds rest (schedule.drop 1 ++ [extend schedule]) (round stage (schedule.getD 0 0) w)

def compress (w : Working) (block : List Nat) : Working :=
  let r := rounds stages block w
  ⟨word (w.a + r.a), word (w.b + r.b), word (w.c + r.c), word (w.d + r.d), word (w.e + r.e)⟩

def compressAll : Nat → List Nat → Working → Working
  | 0, _, w => w
  | blocks + 1, message, w => compressAll blocks (message.drop 16) (compress w (message.take 16))

def sum (message : List UInt8) : List UInt8 :=
  let padded := words (pad message)
  let w := compressAll (padded.length / 16) padded initial
  [w.a, w.b, w.c, w.d, w.e].flatMap (bigEndian 4)

/-- The first example of the standard, `abc`. -/
example : sum [97, 98, 99] =
    [0xa9, 0x99, 0x3e, 0x36, 0x47, 0x06, 0x81, 0x6a, 0xba, 0x3e,
     0x25, 0x71, 0x78, 0x50, 0xc2, 0x6c, 0x9c, 0xd0, 0xd8, 0x9d] := by
  decide +kernel

/-- The hash function itself. -/
@[reducible] def standard : Sha1 where
  hexdigest data := (sum data).flatMap fun byte =>
    [Nat.digitChar (byte.toNat / 16), Nat.digitChar (byte.toNat % 16)]

end Sha1

end RecDtn.Lang

namespace RecDtn.Samples

attribute [scoped instance] Lang.Sha1.standard

end RecDtn.Samples
