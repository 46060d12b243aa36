import RecDtn.Bpv7.Cboring
import RecDtn.Lang.Text

namespace RecDtn.Bpv7

open Wire Lang Cboring Reader Go

abbrev CRCType := UInt64

namespace CRCType

def crcNo : CRCType := 0
def crc16 : CRCType := 1
def crc32 : CRCType := 2

end CRCType

/-- `crc16.Checksum` with the CCITT table. -/
class Crc16 where
  checksum : List UInt8 → UInt16

def crcBit (polynomial register : Nat) : Nat :=
  if register % 2 = 1 then (register / 2) ^^^ polynomial else register / 2

def crcByte (polynomial register : Nat) (byte : UInt8) : Nat :=
  (List.range 8).foldl (fun current _ => crcBit polynomial current) (register ^^^ byte.toNat)

/-- A reflected CRC with an inverted register at both ends. -/
def reflectedCrc (width polynomial : Nat) (data : List UInt8) : Nat :=
  data.foldl (crcByte polynomial) (2 ^ width - 1) ^^^ (2 ^ width - 1)

/-- `crc32.Checksum` with the Castagnoli table. -/
def crc32Checksum (data : List UInt8) : UInt32 := UInt32.ofNat (reflectedCrc 32 0x82f63b78 data)

-- The check value of CRC-32C over the nine ASCII digits.
example : crc32Checksum (List.range 9 |>.map fun digit => UInt8.ofNat (49 + digit)) = 0xe3069283 := by
  decide +kernel

/-- The X-25 checksum, as the CCITT table of the package computes it. -/
@[reducible] def x25 : Crc16 where
  checksum data := UInt16.ofNat (reflectedCrc 16 0x8408 data)

variable [Cboring] [Crc16]

/-- `emptyCRC`: the zeroed CRC field of a type. -/
def emptyCRC (crcType : CRCType) : Except GoError (List UInt8) :=
  if crcType = CRCType.crcNo then .ok []
  else if crcType = CRCType.crc16 then .ok [0, 0]
  else if crcType = CRCType.crc32 then .ok [0, 0, 0, 0]
  else .error (.text s!"unknown CRCType {crcType}")

/-- The CRC of a type over some bytes; a block without CRC has an empty one. -/
def CRCType.checksum (crcType : CRCType) (covered : List UInt8) : Except GoError (List UInt8) :=
  if crcType = crcNo then .ok []
  else if crcType = crc16 then .ok (CborHead.bigEndian 2 (Crc16.checksum covered).toNat)
  else if crcType = crc32 then .ok (CborHead.bigEndian 4 (crc32Checksum covered).toNat)
  else .error (.text s!"unknown CRCType {crcType}")

/-- `calculateCRCBuff`: the CRC over what the buffer holds, followed by the
zeroed CRC field. -/
def calculateCRCBuff (buff : List UInt8) (crcType : CRCType) : Except GoError (List UInt8) := do
  let data ← emptyCRC crcType
  crcType.checksum (buff ++ writeByteString data)

/-- The three types of section 4.1.1. -/
def CRCType.Known (crcType : CRCType) : Prop :=
  crcType = crcNo ∨ crcType = crc16 ∨ crcType = crc32

instance (crcType : CRCType) : Decidable crcType.Known :=
  inferInstanceAs (Decidable (_ ∨ _ ∨ _))

theorem calculateCRCBuff_known (buff : List UInt8) (crcType : CRCType) :
    (∃ crc, calculateCRCBuff buff crcType = .ok crc) ↔ crcType.Known := by
  constructor
  · rintro ⟨crc, calculated⟩
    by_cases no : crcType = CRCType.crcNo
    · exact .inl no
    by_cases short : crcType = CRCType.crc16
    · exact .inr (.inl short)
    by_cases long : crcType = CRCType.crc32
    · exact .inr (.inr long)
    simp [calculateCRCBuff, emptyCRC, no, short, long, bind, Except.bind] at calculated
  · rintro (rfl | rfl | rfl)
    · exact ⟨_, rfl⟩
    · exact ⟨_, rfl⟩
    · exact ⟨_, rfl⟩

theorem calculateCRCBuff_no (buff : List UInt8) : calculateCRCBuff buff CRCType.crcNo = .ok [] := rfl

/-- The zeroed CRC field is as long as the CRC. -/
theorem checksum_of_calculated {buff crc : List UInt8} {crcType : CRCType}
    (calculated : calculateCRCBuff buff crcType = .ok crc) :
    crcType.checksum (buff ++ writeByteString (List.replicate crc.length 0)) = .ok crc := by
  have length : ∀ width count, (CborHead.bigEndian width count).length = width :=
    CborHead.length_bigEndian
  rcases (calculateCRCBuff_known buff crcType).mp ⟨crc, calculated⟩ with rfl | rfl | rfl
  · cases calculated
    rfl
  · cases calculated
    rw [length]
    rfl
  · cases calculated
    rw [length]
    rfl

/-- The end of both encoders: a block with a CRC type is followed by the CRC
over its fields. Answers all bytes written, and the CRC if there is one. -/
def appendCRC (crcType : CRCType) (fields : List UInt8) : Go (List UInt8 × Option (List UInt8)) :=
  if crcType = CRCType.crcNo then .ok (fields, none)
  else do
    let crcVal ← Go.ofExcept (calculateCRCBuff fields crcType)
    return (fields ++ writeByteString crcVal, some crcVal)

/-- The end of both decoders: compare the CRC field with the CRC over what the
tee has received. -/
def checkCRC (crcType : CRCType) : ByteReader (List UInt8) := do
  let crcBuff ← Reader.teed
  let crcCalc ← Reader.lift (Go.ofExcept (calculateCRCBuff crcBuff crcType))
  let crcVal ← readByteString
  ensure (crcCalc = crcVal)
    (.text s!"invalid CRC value: {hexBytes crcVal} instead of expected {hexBytes crcCalc}")
  return crcVal

variable {crcType : CRCType} {fields written : List UInt8} {crc : Option (List UInt8)}

theorem appendCRC_eq_ok : appendCRC crcType fields = .ok (written, crc) ↔
      (crcType = CRCType.crcNo ∧ written = fields ∧ crc = none) ∨
        (crcType ≠ CRCType.crcNo ∧ ∃ crcVal, calculateCRCBuff fields crcType = .ok crcVal ∧
          written = fields ++ writeByteString crcVal ∧ crc = some crcVal) := by
  unfold appendCRC
  by_cases no : crcType = CRCType.crcNo
  · simp [no, eq_comm]
  · simp only [no, ↓reduceIte, false_and, ne_eq, not_false_eq_true, true_and, false_or]
    cases calculated : calculateCRCBuff fields crcType with
    | ok crcVal => simp [Go.ofExcept, ok_bind, pure, Except.pure, eq_comm]
    | error cause => simp [Go.ofExcept]

theorem appendCRC_known (known : crcType.Known) (fields : List UInt8) :
    ∃ written crc, appendCRC crcType fields = .ok (written, crc) := by
  by_cases no : crcType = CRCType.crcNo
  · exact ⟨fields, none, appendCRC_eq_ok.mpr (.inl ⟨no, rfl, rfl⟩)⟩
  · obtain ⟨crcVal, calculated⟩ := (calculateCRCBuff_known fields crcType).mpr known
    exact ⟨_, _, appendCRC_eq_ok.mpr (.inr ⟨no, crcVal, calculated, rfl, rfl⟩)⟩

theorem fields_of_appendCRC (sealed : appendCRC crcType fields = .ok (written, crc)) :
    ∃ tail, written = fields ++ tail := by
  rcases appendCRC_eq_ok.mp sealed with ⟨-, rfl, -⟩ | ⟨-, crcVal, -, rfl, -⟩
  · exact ⟨[], (List.append_nil _).symm⟩
  · exact ⟨_, rfl⟩

theorem known_of_appendCRC (sealed : appendCRC crcType fields = .ok (written, crc)) :
    crcType.Known := by
  rcases appendCRC_eq_ok.mp sealed with ⟨no, -⟩ | ⟨-, crcVal, calculated, -⟩
  · exact .inl no
  · exact (calculateCRCBuff_known _ _).mp ⟨crcVal, calculated⟩

theorem sealed_eq_ok {α : Type} {marshalFields : Go (List UInt8)} {left : α}
    (keep : Option (List UInt8) → α) :
    (marshalFields >>= fun fields => appendCRC crcType fields >>= fun sealed =>
        pure (sealed.1, keep sealed.2)) = .ok (written, left) ↔
      ∃ fields crc, marshalFields = .ok fields ∧ appendCRC crcType fields = .ok (written, crc) ∧ left = keep crc := by
  constructor
  · intro marshalled
    obtain ⟨fields, first, marshalled⟩ := Go.bind_eq_ok.mp marshalled
    obtain ⟨⟨bytes, crc⟩, second, marshalled⟩ := Go.bind_eq_ok.mp marshalled
    cases marshalled
    exact ⟨fields, crc, first, second, rfl⟩
  · rintro ⟨fields, crc, first, second, rfl⟩
    exact Go.bind_eq_ok.mpr ⟨fields, first, Go.bind_eq_ok.mpr ⟨_, second, rfl⟩⟩

theorem reads_checkCRC {buffer crcVal : List UInt8}
    (calculated : calculateCRCBuff buffer crcType = .ok crcVal) :
    Reads buffer (checkCRC crcType) (writeByteString crcVal) crcVal := by
  refine .after .teed (.after (.lift (ofExcept_eq_ok.mpr calculated)) ?_)
  exact .before (reads_byteString crcVal) (.after (.ensure rfl) (.pure crcVal))

theorem tracks_checkCRC (crcType : CRCType) : Tracks (checkCRC crcType) :=
  .bind .teed fun _ => .bind (.lift (settled_ofExcept _)) fun _ =>
    .bind (.primitive _) fun _ => .bind (.ensure _ _) fun _ => .pure _

theorem checkCRC_eq_ok {stream final : Stream UInt8} {crc : List UInt8} :
    checkCRC crcType stream = .ok crc final ↔
      calculateCRCBuff stream.teed crcType = .ok crc ∧ readByteString stream = .ok crc final := by
  unfold checkCRC
  constructor
  · intro read
    obtain ⟨buff, _, teed, read⟩ := Reader.bind_eq_ok.mp read
    obtain ⟨rfl, rfl⟩ := teed_eq_ok.mp teed
    obtain ⟨crcCalc, _, lifted, read⟩ := Reader.bind_eq_ok.mp read
    obtain ⟨calculated, rfl⟩ := lift_eq_ok.mp lifted
    obtain ⟨crcVal, _, field, read⟩ := Reader.bind_eq_ok.mp read
    obtain ⟨_, _, compared, read⟩ := Reader.bind_eq_ok.mp read
    obtain ⟨same, rfl⟩ := ensure_eq_ok.mp compared
    obtain ⟨rfl, rfl⟩ := pure_eq_ok.mp read
    subst same
    exact ⟨ofExcept_eq_ok.mp calculated, field⟩
  · rintro ⟨calculated, field⟩
    refine Reader.bind_eq_ok.mpr ⟨_, _, teed_eq_ok.mpr ⟨rfl, rfl⟩, ?_⟩
    refine Reader.bind_eq_ok.mpr ⟨_, _,
      lift_eq_ok.mpr ⟨ofExcept_eq_ok.mpr calculated, rfl⟩, ?_⟩
    refine Reader.bind_eq_ok.mpr ⟨_, _, field, ?_⟩
    exact Reader.bind_eq_ok.mpr ⟨_, _, ensure_eq_ok.mpr ⟨rfl, rfl⟩,
      pure_eq_ok.mpr ⟨rfl, rfl⟩⟩

end RecDtn.Bpv7
