import RecDtn.Lang.Go
import RecDtn.Wire.CborHead

/-! The CBOR package, which is not part of the repository: a parameter with its laws. -/

namespace RecDtn.Bpv7

open Wire Lang

class Cboring where
  readExpectFrom : UInt8 → Primitive UInt8 GoError Unit
  readMajorsFrom : Primitive UInt8 GoError (UInt8 × Nat)
  readRawBytesFrom : Nat → Primitive UInt8 GoError (List UInt8)
  readArrayLengthFrom : Primitive UInt8 GoError UInt64
  readUIntFrom : Primitive UInt8 GoError UInt64
  readByteStringFrom : Primitive UInt8 GoError (List UInt8)
  readByteStringLenFrom : Primitive UInt8 GoError UInt64
  writeArrayLength : UInt64 → List UInt8
  writeMapPairLength : UInt64 → List UInt8
  writeUInt : UInt64 → List UInt8
  /-- A 64-bit float, given by its bits. -/
  writeFloat64 : UInt64 → List UInt8
  writeByteString : List UInt8 → List UInt8
  writeByteStringLen : UInt64 → List UInt8
  writeTextString : List UInt8 → List UInt8
  readExpect_self : ∀ byte rest, readExpectFrom byte (byte :: rest) = (.ok (), 1)
  readArrayLength_write : ∀ length rest,
    readArrayLengthFrom (writeArrayLength length ++ rest) =
      (.ok length, (writeArrayLength length).length)
  readArrayLength_break : ∀ rest, readArrayLengthFrom (0xff :: rest) = (.error .flagBreakCode, 1)
  readArrayLength_takes : ∀ {input length used},
    readArrayLengthFrom input = (.ok length, used) → 0 < used ∧ used ≤ input.length
  readUInt_write : ∀ number rest,
    readUIntFrom (writeUInt number ++ rest) = (.ok number, (writeUInt number).length)
  readByteString_write : ∀ data rest,
    readByteStringFrom (writeByteString data ++ rest) = (.ok data, (writeByteString data).length)
  readByteStringLen_write : ∀ length rest,
    readByteStringLenFrom (writeByteStringLen length ++ rest) =
      (.ok length, (writeByteStringLen length).length)
  readByteStringLen_end : readByteStringLenFrom [] = (.error .eof, 0)
  readMajors_writeUInt : ∀ number rest,
    readMajorsFrom (writeUInt number ++ rest) =
      (.ok (0x00, number.toNat), (writeUInt number).length)
  readMajors_writeTextString : ∀ text, ∃ head, writeTextString text = head ++ text ∧
    ∀ rest, readMajorsFrom (head ++ rest) = (.ok (0x60, text.length), head.length)
  readRawBytes_self : ∀ data rest,
    readRawBytesFrom data.length (data ++ rest) = (.ok data, data.length)

namespace Cboring

def uint : UInt8 := 0x00
def textString : UInt8 := 0x60
def indefiniteArray : UInt8 := 0x9f
def breakCode : UInt8 := 0xff

variable [Cboring] {buffer : List UInt8}

def readExpect (byte : UInt8) : ByteReader Unit := .primitive (readExpectFrom byte)
def readMajors : ByteReader (UInt8 × Nat) := .primitive readMajorsFrom
def readRawBytes (count : Nat) : ByteReader (List UInt8) := .primitive (readRawBytesFrom count)
def readArrayLength : ByteReader UInt64 := .primitive readArrayLengthFrom
def readUInt : ByteReader UInt64 := .primitive readUIntFrom
def readByteString : ByteReader (List UInt8) := .primitive readByteStringFrom
def readByteStringLen : ByteReader UInt64 := .primitive readByteStringLenFrom

theorem reads_expect (byte : UInt8) : Reads buffer (readExpect byte) [byte] () :=
  .primitive (readExpect_self byte)

theorem reads_arrayLength (length : UInt64) :
    Reads buffer readArrayLength (writeArrayLength length) length :=
  .primitive (readArrayLength_write length)

theorem reads_uint (number : UInt64) : Reads buffer readUInt (writeUInt number) number :=
  .primitive (readUInt_write number)

theorem reads_byteString (data : List UInt8) :
    Reads buffer readByteString (writeByteString data) data :=
  .primitive (readByteString_write data)

theorem reads_byteStringLen (length : UInt64) :
    Reads buffer readByteStringLen (writeByteStringLen length) length :=
  .primitive (readByteStringLen_write length)

theorem readByteStringLen_of_end : readByteStringLen.run [] = .error (.error .eof) [] := by
  simp [readByteStringLen, Reader.run, Reader.primitive, readByteStringLen_end, Stream.advance]

theorem writeByteStringLen_ne_nil (length : UInt64) : writeByteStringLen length ≠ [] := by
  intro empty
  have read := readByteStringLen_write length []
  rw [empty, List.append_nil, readByteStringLen_end] at read
  cases read

theorem reads_majors_uint (number : UInt64) :
    Reads buffer readMajors (writeUInt number) (uint, number.toNat) :=
  .primitive (readMajors_writeUInt number)

/-- A text string is read as its head and then that many raw bytes. -/
theorem reads_textString {next : UInt8 × Nat → ByteReader α} (text : List UInt8)
    (back : ∀ buffer, Reads buffer (next (textString, text.length)) text result) :
    Reads buffer (readMajors >>= next) (writeTextString text) result := by
  obtain ⟨head, written, taken⟩ := readMajors_writeTextString text
  rw [written]
  exact Reads.bind (.primitive taken) (back _)

theorem reads_rawBytes (data : List UInt8) : Reads buffer (readRawBytes data.length) data data :=
  .primitive (readRawBytes_self data)

/-- The head of an array of two, and the first number in it. -/
def readFirst (cause : UInt64 → GoError) : ByteReader UInt64 := do
  let length ← readArrayLength
  Reader.ensure (length = 2) (cause length)
  readUInt

/-- An array of two numbers. -/
def readPair (cause : UInt64 → GoError) (make : UInt64 → UInt64 → α) : ByteReader α := do
  let first ← readFirst cause
  let second ← readUInt
  return make first second

theorem reads_pair {cause : UInt64 → GoError} {make : UInt64 → UInt64 → α}
    (first second : UInt64) :
    Reads buffer (readPair cause make) (writeArrayLength 2 ++ writeUInt first ++ writeUInt second)
      (make first second) :=
  .bind (.bind (reads_arrayLength 2) (.after (.ensure rfl) (reads_uint first)))
    (.before (reads_uint second) (.pure _))

theorem tracks_pair (cause : UInt64 → GoError) (make : UInt64 → UInt64 → α) :
    Tracks (readPair cause make) :=
  .bind (.bind (.primitive _) fun _ => .bind (.ensure _ _) fun _ => .primitive _) fun _ =>
    .bind (.primitive _) fun _ => .pure _

theorem readArrayLength_of_break (rest : List UInt8) :
    readArrayLength ⟨breakCode :: rest, buffer⟩ =
      .error (.error .flagBreakCode) ⟨rest, buffer ++ [breakCode]⟩ := by
  simp [readArrayLength, Reader.primitive, breakCode, readArrayLength_break, Stream.advance]

theorem readArrayLength_shortens (read : readArrayLength stream = .ok length final) :
    final.pending.length < stream.pending.length := by
  obtain ⟨used, found, same⟩ := Reader.primitive_eq_ok.mp read
  obtain ⟨some, bound⟩ := readArrayLength_takes found
  subst same
  simp only [Stream.advance, List.length_drop]
  omega

end Cboring

namespace StandardCbor

open CborHead

def goError : HeadError → GoError
  | .breakCode => .flagBreakCode
  | .indefiniteArray => .text "indefinite array"
  | .endOfInput => .text "unexpected EOF"
  | .reserved => .text "reserved additional information"

def readMajorsFrom : Primitive UInt8 GoError (UInt8 × Nat) := fun input =>
  match readHead input with
  | (.ok item, used) => (.ok item, used)
  | (.error cause, used) => (.error (goError cause), used)

def readNumberFrom (major : UInt8) : Primitive UInt8 GoError UInt64 := fun input =>
  match readHead input with
  | (.ok (found, count), used) =>
    if found = major then
      if count < 2 ^ 64 then (.ok (UInt64.ofNat count), used)
      else (.error (.text "number exceeds 64 bits"), used)
    else (.error (.text "wrong major type"), used)
  | (.error cause, used) => (.error (goError cause), used)

def readRawBytesFrom (count : Nat) : Primitive UInt8 GoError (List UInt8) := fun input =>
  if input.length < count then (.error (.text "unexpected EOF"), input.length)
  else (.ok (input.take count), count)

def readByteStringFrom : Primitive UInt8 GoError (List UInt8) := fun input =>
  match readHead input with
  | (.ok (found, count), used) =>
    if found = 0x40 then
      if input.length < used + count then (.error (.text "unexpected EOF"), input.length)
      else (.ok ((input.drop used).take count), used + count)
    else (.error (.text "wrong major type"), used)
  | (.error cause, used) => (.error (goError cause), used)

def readByteStringLenFrom : Primitive UInt8 GoError UInt64
  | [] => (.error .eof, 0)
  | input => readNumberFrom 0x40 input

def readExpectFrom (byte : UInt8) : Primitive UInt8 GoError Unit
  | [] => (.error (.text "unexpected EOF"), 0)
  | first :: _ => if first = byte then (.ok (), 1) else (.error (.text "unexpected byte"), 1)

private theorem readNumber_head (major : UInt8) (known : major ∈ majors) (number : UInt64)
    (rest : List UInt8) :
    readNumberFrom major (head major number.toNat ++ rest) =
      (.ok number, (head major number.toNat).length) := by
  simp [readNumberFrom, readHead_head major known, number.toNat_lt]

private theorem readByteStringLen_head (length : UInt64) (rest : List UInt8) :
    readByteStringLenFrom (head 0x40 length.toNat ++ rest) =
      (.ok length, (head 0x40 length.toNat).length) := by
  have number := readNumber_head 0x40 (by decide) length rest
  cases written : head 0x40 length.toNat ++ rest with
  | nil =>
    rw [written] at number
    cases number
  | cons first later =>
    rw [written] at number
    exact number

private theorem readNumber_takes (read : readNumberFrom major input = (.ok number, used)) :
    0 < used ∧ used ≤ input.length := by
  unfold readNumberFrom at read
  split at read
  · rename_i found
    split at read
    · split at read
      · obtain ⟨_, rfl⟩ := Prod.mk.inj read
        exact readHead_takes found
      · simp at read
    · simp at read
  · simp at read

end StandardCbor

open CborHead StandardCbor in
/-- CBOR as in the standard, with the shortest head for every count. -/
@[reducible] def standardCbor : Cboring where
  readExpectFrom := readExpectFrom
  readMajorsFrom := readMajorsFrom
  readRawBytesFrom := readRawBytesFrom
  readArrayLengthFrom := readNumberFrom 0x80
  readUIntFrom := readNumberFrom 0x00
  readByteStringFrom := readByteStringFrom
  readByteStringLenFrom := readByteStringLenFrom
  writeArrayLength length := head 0x80 length.toNat
  writeMapPairLength length := head 0xa0 length.toNat
  writeUInt number := head 0x00 number.toNat
  writeFloat64 bits := 0xfb :: bigEndian 8 bits.toNat
  writeByteString data := head 0x40 data.length ++ data
  writeByteStringLen length := head 0x40 length.toNat
  writeTextString text := head 0x60 text.length ++ text
  readExpect_self byte rest := by simp [StandardCbor.readExpectFrom]
  readArrayLength_write length rest := readNumber_head 0x80 (by decide) length rest
  readArrayLength_break rest := rfl
  readArrayLength_takes := readNumber_takes
  readUInt_write number rest := readNumber_head 0x00 (by decide) number rest
  readByteString_write data rest := by
    simp [StandardCbor.readByteStringFrom, List.append_assoc,
      readHead_head 0x40 (by decide) data.length, List.drop_left']
  readByteStringLen_write := readByteStringLen_head
  readByteStringLen_end := rfl
  readMajors_writeUInt number rest := by
    simp [StandardCbor.readMajorsFrom, readHead_head 0x00 (by decide)]
  readMajors_writeTextString text := by
    refine ⟨head 0x60 text.length, rfl, fun rest => ?_⟩
    simp [StandardCbor.readMajorsFrom, readHead_head 0x60 (by decide)]
  readRawBytes_self data rest := by simp [StandardCbor.readRawBytesFrom]

open CborHead in
/-- The heads that are written have the lengths of the standard. -/
class StandardHeads [Cboring] : Prop where
  writeArrayLength : ∀ length, (Cboring.writeArrayLength length).length = headLength length.toNat
  writeUInt : ∀ number, (Cboring.writeUInt number).length = headLength number.toNat
  writeByteString : ∀ data, data.length < 2 ^ 64 →
    (Cboring.writeByteString data).length = headLength data.length + data.length
  writeByteStringLen : ∀ length, (Cboring.writeByteStringLen length).length =
    headLength length.toNat

open CborHead in
theorem standardCbor_standardHeads : @StandardHeads standardCbor :=
  @StandardHeads.mk standardCbor (fun length => length_head 0x80 length.toNat_lt)
    (fun number => length_head 0x00 number.toNat_lt)
    (fun data fits => by
      change (head 0x40 data.length ++ data).length = _
      rw [List.length_append, length_head 0x40 fits])
    (fun length => length_head 0x40 length.toNat_lt)

/-- A byte string is written as its head and then its data. -/
class SplitByteStrings [Cboring] : Prop where
  length_le : ∀ data, data.length ≤ (Cboring.writeByteString data).length
  writeByteString : ∀ data, data.length < 2 ^ 64 →
    Cboring.writeByteString data = Cboring.writeByteStringLen data.length.toUInt64 ++ data

theorem standardCbor_splitByteStrings : @SplitByteStrings standardCbor :=
  @SplitByteStrings.mk standardCbor
    (fun data => by
      change data.length ≤ (CborHead.head 0x40 data.length ++ data).length
      simp)
    (fun data fits => by
      change CborHead.head 0x40 data.length ++ data = CborHead.head 0x40 data.length.toUInt64.toNat ++ data
      rw [UInt64.toNat_ofNat_of_lt' fits])

/-- The booleans of the package, which only status reports use. -/
class CboringBooleans where
  readBooleanFrom : Primitive UInt8 GoError Bool
  writeBoolean : Bool → List UInt8
  readBoolean_write : ∀ value rest,
    readBooleanFrom (writeBoolean value ++ rest) = (.ok value, (writeBoolean value).length)

namespace CboringBooleans

variable [CboringBooleans] {buffer : List UInt8}

def readBoolean : ByteReader Bool := .primitive readBooleanFrom

theorem reads_boolean (value : Bool) : Reads buffer readBoolean (writeBoolean value) value :=
  .primitive (readBoolean_write value)

end CboringBooleans

@[reducible] def standardBooleans : CboringBooleans where
  readBooleanFrom
    | [] => (.error .eof, 0)
    | 0xf4 :: _ => (.ok false, 1)
    | 0xf5 :: _ => (.ok true, 1)
    | _ :: _ => (.error (.text "wrong simple value"), 1)
  writeBoolean value := [if value then 0xf5 else 0xf4]
  readBoolean_write value rest := by cases value <;> rfl

end RecDtn.Bpv7
