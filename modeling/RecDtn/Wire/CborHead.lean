import Mathlib.Data.Nat.Digits.Defs

namespace RecDtn.Wire.CborHead

open List

inductive HeadError where
  | endOfInput
  | reserved
  | indefiniteArray
  | breakCode
  deriving DecidableEq

def bigEndian : Nat → Nat → List UInt8
  | 0, _ => []
  | width + 1, count => bigEndian width (count / 256) ++ [UInt8.ofNat (count % 256)]

def ofBigEndian (bytes : List UInt8) : Nat :=
  bytes.foldl (fun count byte => count * 256 + byte.toNat) 0

/-- Digits in base 256, each announced by a one, ended by a zero. -/
def chain (digits : List Nat) : List UInt8 :=
  digits.flatMap (fun digit => [1, UInt8.ofNat digit]) ++ [0]

def readChain : List UInt8 → Option (List Nat × Nat)
  | 0 :: _ => some ([], 1)
  | 1 :: digit :: rest => (readChain rest).map fun (digits, used) => (digit.toNat :: digits, used + 2)
  | _ => none

/-- The shortest of the five forms. For counts that have none, the reserved value 28
continues the scheme; no byte string is that long. -/
def head (major : UInt8) (count : Nat) : List UInt8 :=
  if count < 24 then [major + UInt8.ofNat count]
  else if count < 2 ^ 8 then (major + 24) :: bigEndian 1 count
  else if count < 2 ^ 16 then (major + 25) :: bigEndian 2 count
  else if count < 2 ^ 32 then (major + 26) :: bigEndian 4 count
  else if count < 2 ^ 64 then (major + 27) :: bigEndian 8 count
  else (major + 28) :: chain (Nat.digits 256 count)

/-- Read a head: the major type, the count and the number of bytes taken. The
two one-byte marks of indefinite arrays are reported, not read as heads. -/
def readHead : List UInt8 → Except HeadError (UInt8 × Nat) × Nat
  | [] => (.error .endOfInput, 0)
  | first :: rest =>
    if first = 0x9f then (.error .indefiniteArray, 1)
    else if first = 0xff then (.error .breakCode, 1)
    else
      let major := first &&& 0xe0
      let short := (first &&& 0x1f).toNat
      if short < 24 then (.ok (major, short), 1)
      else if short < 28 then
        let width := 2 ^ (short - 24)
        if rest.length < width then (.error .endOfInput, 1 + rest.length)
        else (.ok (major, ofBigEndian (rest.take width)), 1 + width)
      else if short = 28 then
        match readChain rest with
        | some (digits, used) => (.ok (major, Nat.ofDigits 256 digits), 1 + used)
        | none => (.error .endOfInput, 1 + rest.length)
      else (.error .reserved, 1)

theorem length_bigEndian (width count : Nat) : (bigEndian width count).length = width := by
  induction width generalizing count with
  | zero => rfl
  | succ width ih => simp [bigEndian, ih]

/-- The length of the shortest head for a count that the standard has a form for. -/
def headLength (count : Nat) : Nat :=
  if count < 24 then 1
  else if count < 2 ^ 8 then 2
  else if count < 2 ^ 16 then 3
  else if count < 2 ^ 32 then 5
  else 9

theorem length_head (major : UInt8) {count : Nat} (fits : count < 2 ^ 64) :
    (head major count).length = headLength count := by
  unfold head headLength
  split
  · rfl
  split
  · simp [length_bigEndian]
  split
  · simp [length_bigEndian]
  split
  · simp [length_bigEndian]
  · simp [length_bigEndian]

theorem headLength_mono {first second : Nat} (less : first ≤ second) :
    headLength first ≤ headLength second := by
  unfold headLength
  split_ifs <;> omega

theorem ofBigEndian_bigEndian (width count : Nat) (fits : count < 256 ^ width) :
    ofBigEndian (bigEndian width count) = count := by
  induction width generalizing count with
  | zero =>
    have zero : count = 0 := by simpa using fits
    subst zero
    rfl
  | succ width ih =>
    have upper : count / 256 < 256 ^ width :=
      Nat.div_lt_of_lt_mul (by rwa [Nat.pow_succ, Nat.mul_comm] at fits)
    have digits := ih (count / 256) upper
    unfold ofBigEndian at digits ⊢
    rw [bigEndian, foldl_append, digits]
    simp only [foldl_cons, foldl_nil, UInt8.toNat_ofNat']
    omega

theorem readChain_chain (digits : List Nat) (bytes : ∀ digit ∈ digits, digit < 256)
    (rest : List UInt8) :
    readChain (chain digits ++ rest) = some (digits, (chain digits).length) := by
  induction digits with
  | nil => rfl
  | cons digit digits ih =>
    have later := ih (fun other member => bytes other (by simp [member]))
    have byte : (UInt8.ofNat digit).toNat = digit := by
      have small := bytes digit (by simp)
      simp only [UInt8.toNat_ofNat']
      omega
    unfold chain at later ⊢
    simp only [flatMap_cons, cons_append, nil_append, readChain]
    rw [later]
    simp [byte]

/-- The majors in use. The upper three bits of a head are the major and the
lower five the short count, whatever the form. -/
def majors : List UInt8 := [0x00, 0x40, 0x60, 0x80, 0xa0, 0xe0]

private theorem first_byte (major : UInt8) (known : major ∈ majors) (short : Nat)
    (small : short < 29) :
    major + UInt8.ofNat short ≠ 0x9f ∧ major + UInt8.ofNat short ≠ 0xff ∧
      (major + UInt8.ofNat short) &&& 0xe0 = major ∧ ((major + UInt8.ofNat short) &&& 0x1f).toNat = short := by
  have table : ∀ major ∈ majors, ∀ short : Fin 29,
      major + UInt8.ofNat short ≠ 0x9f ∧ major + UInt8.ofNat short ≠ 0xff ∧
        (major + UInt8.ofNat short) &&& 0xe0 = major ∧
        ((major + UInt8.ofNat short) &&& 0x1f).toNat = short := by decide +kernel
  exact table major known ⟨short, small⟩

private theorem readHead_wide (major : UInt8) (known : major ∈ majors) (short : Nat)
    (wide : 24 ≤ short) (small : short < 28) (count : Nat) (fits : count < 256 ^ 2 ^ (short - 24))
    (rest : List UInt8) :
    readHead ((major + UInt8.ofNat short) :: bigEndian (2 ^ (short - 24)) count ++ rest) =
      (.ok (major, count), 1 + 2 ^ (short - 24)) := by
  obtain ⟨notArray, notBreak, upper, lower⟩ := first_byte major known short (by omega)
  have taken : (bigEndian (2 ^ (short - 24)) count ++ rest).take (2 ^ (short - 24)) =
      bigEndian (2 ^ (short - 24)) count :=
    take_left' (length_bigEndian _ _)
  have enough : ¬ (bigEndian (2 ^ (short - 24)) count ++ rest).length < 2 ^ (short - 24) := by
    simp [length_bigEndian]
  simp only [cons_append, readHead, notArray, notBreak, upper, lower, ↓reduceIte, taken, enough,
    show ¬ short < 24 by omega, small, ofBigEndian_bigEndian _ _ fits]

theorem readHead_head (major : UInt8) (known : major ∈ majors) (count : Nat) (rest : List UInt8) :
    readHead (head major count ++ rest) = (.ok (major, count), (head major count).length) := by
  unfold head
  split
  · rename_i short
    obtain ⟨notArray, notBreak, upper, lower⟩ := first_byte major known count (by omega)
    simp [readHead, notArray, notBreak, upper, lower, short]
  split
  · rename_i fits
    simpa [length_bigEndian, Nat.add_comm] using
      readHead_wide major known 24 (by omega) (by omega) count (by simpa using fits) rest
  split
  · rename_i fits
    simpa [length_bigEndian, Nat.add_comm] using
      readHead_wide major known 25 (by omega) (by omega) count (by simpa using fits) rest
  split
  · rename_i fits
    simpa [length_bigEndian, Nat.add_comm] using
      readHead_wide major known 26 (by omega) (by omega) count (by simpa using fits) rest
  split
  · rename_i fits
    simpa [length_bigEndian, Nat.add_comm] using
      readHead_wide major known 27 (by omega) (by omega) count (by simpa using fits) rest
  · obtain ⟨notArray, notBreak, upper, lower⟩ := first_byte major known 28 (by omega)
    have digits : ∀ digit ∈ Nat.digits 256 count, digit < 256 :=
      fun digit member => Nat.digits_lt_base (by omega) member
    simp only [show (28 : UInt8) = UInt8.ofNat 28 by rfl] at *
    simp only [cons_append, readHead, notArray, notBreak, upper, lower, ↓reduceIte,
      Nat.lt_irrefl, show ¬ 28 < 24 by omega, readChain_chain _ digits, Nat.ofDigits_digits,
      length_cons, Nat.add_comm]

private theorem readChain_takes (read : readChain input = some (digits, used)) :
    used ≤ input.length := by
  induction input using readChain.induct generalizing digits used with
  | case1 rest =>
    cases Option.some.inj read
    simp
  | case2 digit rest ih =>
    simp only [readChain, Option.map_eq_some_iff, Prod.mk.injEq] at read
    obtain ⟨⟨later, inner⟩, found, _, same⟩ := read
    have bound := ih found
    simp only [length_cons]
    omega
  | case3 input notZero notOne => simp [readChain] at read

/-- A head that is read takes at least one byte, and no more than there are. -/
theorem readHead_takes (read : readHead input = (.ok item, used)) :
    0 < used ∧ used ≤ input.length := by
  cases input with
  | nil => simp [readHead] at read
  | cons first rest =>
    simp only [readHead] at read
    split at read
    · simp at read
    split at read
    · simp at read
    split at read
    · obtain ⟨_, rfl⟩ := Prod.mk.inj read
      simp
    split at read
    · split at read
      · simp at read
      · rename_i enough
        obtain ⟨_, rfl⟩ := Prod.mk.inj read
        rw [length_cons, Nat.add_comm]
        exact ⟨Nat.succ_pos _, Nat.succ_le_succ (Nat.le_of_not_lt enough)⟩
    split at read
    · split at read
      · rename_i found
        obtain ⟨_, rfl⟩ := Prod.mk.inj read
        have bound := readChain_takes found
        simp only [length_cons]
        omega
      · simp at read
    · simp at read

end RecDtn.Wire.CborHead
