import RecDtn.Bpv7.Crc
import RecDtn.Bpv7.ExtensionBlock
import RecDtn.Bpv7.Flags

namespace RecDtn.Bpv7

open Wire Lang Cboring ExtensionBlock Reader Go List

structure CanonicalBlock where
  blockNumber : UInt64
  blockControlFlags : BlockControlFlags
  crcType : CRCType
  crc : List UInt8
  value : Option ExtensionBlock
  deriving DecidableEq

/-- Where a CRC field lies in the input: behind the fields of the block, which go
to the CRC buffer. An array head in front of them is replayed, not copied. -/
structure CRCSegments where
  head : List UInt8
  fields : List UInt8
  field : List UInt8

namespace CRCSegments

/-- The bytes of a block with the CRC value at its end zeroed. -/
def zeroed (segments : CRCSegments) (crc : List UInt8) : List UInt8 :=
  segments.head ++ segments.fields ++ segments.field.take (segments.field.length - crc.length) ++
    List.replicate crc.length 0

variable [Cboring]

/-- The fields with another array head, and with the zeroed CRC field as the CBOR
package writes it. -/
def rewritten (head : List UInt8) (segments : CRCSegments) (crc : List UInt8) : List UInt8 :=
  head ++ segments.fields ++ writeByteString (List.replicate crc.length 0)

/-- With `head` in the tee, the reader takes the fields, and the CRC field is next. -/
def Lies (segments : CRCSegments) (head : List UInt8) (reader : ByteReader α) (value : α)
    (crc input : List UInt8) : Prop :=
  ∃ rest, input = segments.fields ++ (segments.field ++ rest) ∧
    reader ⟨input, head⟩ = .ok value ⟨segments.field ++ rest, head ++ segments.fields⟩ ∧
    readByteString.run (segments.field ++ rest) = .ok crc rest

variable {segments other : CRCSegments} {head crc input : List UInt8} {reader : ByteReader α}
  {value : α}

theorem Lies.unique (first : segments.Lies head reader value crc input)
    (second : other.Lies head reader value crc input) :
    segments.fields = other.fields ∧ segments.field = other.field := by
  obtain ⟨rest, split, read, field⟩ := first
  obtain ⟨left, splitAgain, readAgain, fieldAgain⟩ := second
  rw [readAgain] at read
  injection read with _ streams
  injection streams with pending
  rw [← pending, fieldAgain] at field
  cases field
  exact ⟨append_cancel_right (split.symm.trans (splitAgain.trans (by rw [pending]))),
    (append_cancel_right pending).symm⟩

theorem lies_of_read {stream final : Stream UInt8} (tracks : Tracks reader)
    (read : reader ⟨input, head⟩ = .ok value stream)
    (field : readByteString stream = .ok crc final) : ∃ fields bytes,
      stream.teed = head ++ fields ∧ ∀ front, Lies ⟨front, fields, bytes⟩ head reader value crc input := by
  obtain ⟨pending, teed⟩ := stream
  obtain ⟨fields, split, rfl⟩ := tracks.of_ok read
  obtain ⟨bytes, rfl, -⟩ := (Tracks.primitive _).of_ok field
  exact ⟨fields, bytes, rfl, fun front => ⟨final.pending, split, read, primitive_run field⟩⟩

end CRCSegments

namespace CanonicalBlock

/-- The zero value of the structure. -/
def blank : CanonicalBlock := ⟨0, 0, CRCType.crcNo, [], none⟩

def typeCode (cb : CanonicalBlock) : Go UInt64 := do
  let value ← Go.deref cb.value
  return value.blockTypeCode

def hasCRC (cb : CanonicalBlock) : Bool := cb.crcType != CRCType.crcNo

def checkValid (cb : CanonicalBlock) : Go (List GoError) := do
  let value ← Go.deref cb.value
  return cb.blockControlFlags.checkValid ++ value.checkValid ++
    if value.blockTypeCode = BlockType.payloadBlock ∧ cb.blockNumber ≠ 1 then
      [.text s!"CanonicalBlock is a PayloadBlock with a block number {cb.blockNumber} != 1"]
    else []

variable [Cboring]

def marshalFields (cb : CanonicalBlock) : Go (List UInt8) := do
  let typeCode ← cb.typeCode
  let value ← Go.deref cb.value
  let data ← Go.wrap "marshalling value failed" value.writeBlock
  return writeArrayLength (if cb.hasCRC then 6 else 5) ++ writeUInt typeCode ++
    writeUInt cb.blockNumber ++ writeUInt cb.blockControlFlags ++
    writeUInt cb.crcType ++ data

def unmarshalFields : ByteReader CanonicalBlock := do
  let blockType ← readUInt
  let blockNumber ← readUInt
  let blockControlFlags ← readUInt
  let crcType ← readUInt
  let value ← mapError (.wrapped s!"unmarshalling block type {blockType} failed")
    (readBlock blockType)
  return ⟨blockNumber, blockControlFlags, crcType, [], some value⟩

/-- `MarshalCbor`: the bytes written, and the block with its CRC updated. -/
def marshalCbor [Crc16] (cb : CanonicalBlock) : Go (List UInt8 × CanonicalBlock) := do
  let fields ← cb.marshalFields
  let sealed ← appendCRC cb.crcType fields
  return (sealed.1, { cb with crc := sealed.2.getD cb.crc })

/-- `UnmarshalCbor`: whether a CRC is expected depends on the array length, and
the array head is replayed into the CRC buffer. -/
def unmarshalCbor [Crc16] : ByteReader CanonicalBlock := do
  let blockLen ← readArrayLength
  ensure (blockLen = 5 ∨ blockLen = 6)
    (.text s!"expected array with length 5 or 6, got {blockLen}")
  if blockLen = 6 then
    withTee (writeArrayLength blockLen) do
      let cb ← unmarshalFields
      let crc ← checkCRC cb.crcType
      return { cb with crc := crc }
  else unmarshalFields

/-- The block as it comes back from its encoding: a CRC that the type does not
announce is not written. -/
def fresh (cb : CanonicalBlock) : CanonicalBlock :=
  { cb with crc := if cb.hasCRC then cb.crc else [] }

variable {cb left : CanonicalBlock} {start rest : List UInt8}

theorem marshalFields_eq_ok {fields : List UInt8} :
    cb.marshalFields = .ok fields ↔ ∃ value data, cb.value = some value ∧
      value.writeBlock = .ok data ∧ fields = writeArrayLength (if cb.hasCRC then 6 else 5) ++
        writeUInt value.blockTypeCode ++ writeUInt cb.blockNumber ++
        writeUInt cb.blockControlFlags ++ writeUInt cb.crcType ++ data := by
  unfold marshalFields typeCode
  cases cb.value with
  | none => simp [Go.deref, error_bind]
  | some value =>
    simp only [Go.deref, ok_bind, pure, Except.pure, Option.some.injEq]
    constructor
    · intro marshalled
      obtain ⟨data, wrapped, marshalled⟩ := Go.bind_eq_ok.mp marshalled
      cases marshalled
      exact ⟨value, data, rfl, wrap_eq_ok.mp wrapped, rfl⟩
    · rintro ⟨_, data, rfl, written, rfl⟩
      exact Go.bind_eq_ok.mpr ⟨data, wrap_eq_ok.mpr written, rfl⟩

theorem marshalCbor_eq_ok [Crc16] {written : List UInt8} :
    cb.marshalCbor = .ok (written, left) ↔ ∃ fields crc, cb.marshalFields = .ok fields ∧
      appendCRC cb.crcType fields = .ok (written, crc) ∧ left = { cb with crc := crc.getD cb.crc } :=
  sealed_eq_ok fun crc => { cb with crc := crc.getD cb.crc }

/-- What the manager creates, with an endpoint that survives its encoding. -/
def Faithful (cb : CanonicalBlock) : Prop :=
  ∃ value ∈ cb.value, value.Managed ∧ value.EndpointsWellFormed

/-- What the manager creates, with any endpoint. -/
def Managed (cb : CanonicalBlock) : Prop := ∃ value, cb.value = some value ∧ value.Managed

omit [Cboring] in
theorem Faithful.managed (faithful : cb.Faithful) : cb.Managed := by
  obtain ⟨value, held, managed, -⟩ := faithful
  exact ⟨value, held, managed⟩

/-- The fields behind the array head, whatever the CRC buffer holds. -/
private theorem reads_fields (cb : CanonicalBlock) {typeCode : UInt64} {data : List UInt8}
    {read : ExtensionBlock} (decoded : unmarshalData typeCode data = .ok read) :
    Reads buffer unmarshalFields (writeUInt typeCode ++ (writeUInt cb.blockNumber ++
        (writeUInt cb.blockControlFlags ++ (writeUInt cb.crcType ++ writeByteString data))))
      { cb with crc := [], value := some read } := by
  refine .bind (reads_uint _) (.bind (reads_uint _) ?_)
  refine .bind (reads_uint _) (.bind (reads_uint _) ?_)
  exact .before (.mapError (.before (reads_byteString data) (.lift decoded))) (.pure _)

/-- Decoding what the encoder wrote gives the block with the CRC the encoder
computed, and with what its data decode to. -/
theorem reads_decoded [Crc16] {value read : ExtensionBlock} {data : List UInt8}
    (present : cb.value = some value) (encoded : value.marshalData = .ok data)
    (decoded : unmarshalData value.blockTypeCode data = .ok read)
    (marshalled : cb.marshalCbor = .ok (written, left)) :
    Reads buffer unmarshalCbor written { left.fresh with value := some read } := by
  obtain ⟨fields, crc, first, sealed, rfl⟩ := marshalCbor_eq_ok.mp marshalled
  obtain ⟨other, bytes, member, block, rfl⟩ := marshalFields_eq_ok.mp first
  obtain rfl : value = other := by simpa [present] using member
  obtain ⟨other, again, rfl⟩ := writeBlock_eq_ok.mp block
  obtain rfl : data = other := by simpa [encoded] using again
  have body : ∀ buffer, Reads buffer unmarshalFields _ _ := fun buffer => reads_fields cb decoded
  simp only [append_assoc] at sealed
  rcases appendCRC_eq_ok.mp sealed with ⟨no, rfl, rfl⟩ | ⟨typed, crcVal, calculated, rfl, rfl⟩
  · have plain : cb.hasCRC = false := by simp [hasCRC, no]
    simp only [plain, Bool.false_eq_true, ↓reduceIte, Option.getD_none]
    refine .bind (reads_arrayLength 5) (.after (.ensure (.inl rfl)) ?_)
    simpa [fresh, plain] using body _
  · have checked : cb.hasCRC = true := by simpa [hasCRC] using typed
    simp only [checked, ↓reduceIte, Option.getD_some] at calculated ⊢
    rw [append_assoc]
    refine .bind (reads_arrayLength 6) (.after (.ensure (.inr rfl)) ?_)
    simp only [↓reduceIte]
    refine .withTee (.bind (body _) (.before (reads_checkCRC calculated) ?_))
    have kept : ({ cb with crc := crcVal } : CanonicalBlock).hasCRC = true := checked
    simpa [fresh, kept] using Reads.pure
      ({ cb with crc := crcVal, value := some read } : CanonicalBlock)

theorem reads_marshalCbor [Crc16] (faithful : cb.Faithful)
    (marshalled : cb.marshalCbor = .ok (written, left)) :
    Reads buffer unmarshalCbor written left.fresh := by
  obtain ⟨value, present, managed, formed⟩ := faithful
  obtain ⟨fields, crc, first, -, rfl⟩ := marshalCbor_eq_ok.mp marshalled
  obtain ⟨other, bytes, member, block, -⟩ := marshalFields_eq_ok.mp first
  obtain rfl : value = other := by
    have pointed : cb.value = some value := present
    simpa [pointed] using member
  obtain ⟨data, encoded, -⟩ := writeBlock_eq_ok.mp block
  have read : Reads buffer unmarshalCbor written _ := reads_decoded present encoded
    (unmarshalData_marshalData managed formed encoded) marshalled
  have same :
      { ({ cb with crc := crc.getD cb.crc } : CanonicalBlock).fresh with value := some value } =
      ({ cb with crc := crc.getD cb.crc } : CanonicalBlock).fresh := by
    rw [← (present : cb.value = some value)]
    rfl
  rwa [same] at read

theorem tracks_unmarshalFields : Tracks unmarshalFields :=
  .bind (.primitive _) fun _ => .bind (.primitive _) fun _ => .bind (.primitive _) fun _ =>
    .bind (.primitive _) fun _ => .bind (.mapError (tracks_readBlock _) _) fun _ => .pure _

theorem tracks_unmarshalCbor [Crc16] : Tracks unmarshalCbor := by
  refine .bind (.primitive _) fun blockLen => .bind (.ensure _ _) fun _ => ?_
  split
  · exact .withTee (.bind tracks_unmarshalFields fun _ =>
      .bind (tracks_checkCRC _) fun _ => .pure _) _
  · exact tracks_unmarshalFields

private theorem unmarshalFields_faithful :
    Yields unmarshalFields fun cb => cb.Faithful ∧ cb.crc = [] :=
  .after fun blockType => .after fun _ => .after fun _ => .after fun _ =>
    .bind (.mapError (readBlock_created blockType)) fun value created =>
      .pure ⟨⟨value, rfl, created.2⟩, rfl⟩

/-- The block at the start of the input has a CRC field, which lies as the
segments say. -/
def HasSegments (start : List UInt8) (cb : CanonicalBlock) (segments : CRCSegments) : Prop :=
  ∃ afterHead, start = segments.head ++ afterHead ∧
    readArrayLength.run start = .ok 6 afterHead ∧
    segments.Lies (writeArrayLength 6) unmarshalFields { cb with crc := [] } cb.crc afterHead

theorem HasSegments.unique {segments other : CRCSegments} (first : HasSegments start cb segments)
    (second : HasSegments start cb other) : segments = other := by
  obtain ⟨afterHead, split, head, lies⟩ := first
  obtain ⟨_, splitAgain, headAgain, liesAgain⟩ := second
  cases head.symm.trans headAgain
  obtain ⟨fields, field⟩ := lies.unique liesAgain
  cases segments
  cases other
  cases fields
  cases field
  cases append_cancel_right (split.symm.trans splitAgain)
  rfl

variable [Crc16]

section

variable (accepted : unmarshalCbor.run start = .ok cb rest)

include accepted

/-- The steps of an accepted block: the array head decides whether a CRC field
follows the fields. -/
private theorem unmarshalCbor_steps :
    ∃ blockLen middle, readArrayLength ⟨start, []⟩ = .ok blockLen middle ∧
      ((blockLen = 5 ∧ ∃ buffer, unmarshalFields middle = .ok cb ⟨rest, buffer⟩) ∨
        (blockLen = 6 ∧ ∃ plain atField covered buffer,
          unmarshalFields ⟨middle.pending, writeArrayLength 6⟩ = .ok plain
          ⟨atField, covered⟩ ∧ calculateCRCBuff covered plain.crcType = .ok cb.crc ∧
          readByteString ⟨atField, covered⟩ = .ok cb.crc ⟨rest, buffer⟩ ∧
          cb = { plain with crc := cb.crc })) := by
  obtain ⟨buffer, read⟩ := run_eq_ok.mp accepted
  obtain ⟨blockLen, middle, head, read⟩ := Reader.bind_eq_ok.mp read
  obtain ⟨_, _, ensured, read⟩ := Reader.bind_eq_ok.mp read
  obtain ⟨length, rfl⟩ := ensure_eq_ok.mp ensured
  refine ⟨blockLen, middle, head, ?_⟩
  by_cases six : blockLen = 6
  · subst six
    simp only [↓reduceIte] at read
    obtain ⟨⟨final, teed⟩, read, same⟩ := withTee_eq_ok.mp read
    obtain ⟨plain, ⟨atField, covered⟩, fields, read⟩ := Reader.bind_eq_ok.mp read
    obtain ⟨crc, _, compared, read⟩ := Reader.bind_eq_ok.mp read
    obtain ⟨calculated, field⟩ := checkCRC_eq_ok.mp compared
    obtain ⟨rfl, rfl⟩ := pure_eq_ok.mp read
    cases same
    exact .inr ⟨rfl, plain, atField, covered, teed, fields, calculated, field, rfl⟩
  · have five : blockLen = 5 := by simpa [six] using length
    rw [if_neg six] at read
    exact .inl ⟨five, buffer, read⟩

/-- The two ways a block is accepted: without a CRC field, or with one that is
the CRC over what the buffer held. -/
theorem unmarshalCbor_accepted :
    (cb.crc = [] ∧ ∃ afterHead, readArrayLength.run start = .ok 5 afterHead) ∨
      ∃ segments, HasSegments start cb segments ∧
        calculateCRCBuff (writeArrayLength 6 ++ segments.fields) cb.crcType = .ok cb.crc := by
  obtain ⟨blockLen, middle, head, outcome⟩ := unmarshalCbor_steps accepted
  have headRun := primitive_run head
  rcases outcome with ⟨rfl, buffer, fields⟩ |
    ⟨rfl, plain, atField, covered, buffer, fields, calculated, field, same⟩
  · exact .inl ⟨(unmarshalFields_faithful fields).2, middle.pending, headRun⟩
  · have bare : plain = { cb with crc := [] } := by
      rw [same, ← (unmarshalFields_faithful fields).2]
    have crcType : plain.crcType = cb.crcType := by rw [same]
    obtain ⟨front, split, -⟩ := (Tracks.primitive _).of_ok head
    obtain ⟨body, bytes, rfl, lies⟩ :=
      CRCSegments.lies_of_read tracks_unmarshalFields fields field
    rw [crcType] at calculated
    rw [bare] at lies
    exact .inr ⟨_, ⟨middle.pending, split, headRun, lies front⟩, calculated⟩

/-- An accepted block has a CRC field if its array is long enough for one. -/
theorem exists_hasSegments {afterHead : List UInt8}
    (head : readArrayLength.run start = .ok 6 afterHead) : ∃ segments,
      HasSegments start cb segments ∧
        calculateCRCBuff (writeArrayLength 6 ++ segments.fields) cb.crcType = .ok cb.crc := by
  refine (unmarshalCbor_accepted accepted).resolve_left ?_
  rintro ⟨-, other, five⟩
  rw [head] at five
  cases five

theorem HasSegments.calculated {segments : CRCSegments} (placed : HasSegments start cb segments) :
    calculateCRCBuff (writeArrayLength 6 ++ segments.fields) cb.crcType = .ok cb.crc := by
  obtain ⟨afterHead, -, head, -⟩ := id placed
  obtain ⟨found, again, calculated⟩ := exists_hasSegments accepted head
  rw [placed.unique again, calculated]

theorem unmarshalCbor_faithful : cb.Faithful := by
  obtain ⟨blockLen, middle, -, outcome⟩ := unmarshalCbor_steps accepted
  rcases outcome with ⟨-, buffer, fields⟩ | ⟨-, plain, _, _, _, fields, -, -, same⟩
  · exact (unmarshalFields_faithful fields).1
  · rw [same]
    exact (unmarshalFields_faithful fields).1

theorem unmarshalCbor_shortens : rest.length < start.length := by
  obtain ⟨blockLen, middle, head, outcome⟩ := unmarshalCbor_steps accepted
  have shorter := readArrayLength_shortens head
  refine Nat.lt_of_le_of_lt ?_ shorter
  rcases outcome with ⟨-, buffer, fields⟩ | ⟨-, plain, _, _, _, fields, -, field, -⟩
  · obtain ⟨used, split, -⟩ := tracks_unmarshalFields.of_ok fields
    simp [split]
  · obtain ⟨used, split, -⟩ := tracks_unmarshalFields.of_ok fields
    obtain ⟨more, splitAgain, -⟩ := (Tracks.primitive _).of_ok field
    simp only at split splitAgain
    simp [split, splitAgain]
    omega

end

/-- A managed block that passes its check can be encoded if its CRC type is known. -/
theorem marshalCbor_of_known (managed : cb.Managed) (known : cb.crcType.Known)
    (valid : cb.checkValid = .ok []) : ∃ written left, cb.marshalCbor = .ok (written, left) := by
  obtain ⟨value, present, managed⟩ := managed
  have held : value.checkValid = [] := by
    simp only [checkValid, present, Go.deref, ok_bind, pure, Except.pure,
      Except.ok.injEq, append_eq_nil_iff] at valid
    exact valid.1.2
  obtain ⟨data, block⟩ := writeBlock_of_managed managed held
  obtain ⟨written, crc, sealed⟩ := appendCRC_known known _
  exact ⟨written, _, marshalCbor_eq_ok.mpr
    ⟨_, crc, marshalFields_eq_ok.mpr ⟨value, data, present, block, rfl⟩, sealed, rfl⟩⟩

theorem known_of_marshalCbor (marshalled : cb.marshalCbor = .ok (written, left)) :
    cb.crcType.Known := by
  obtain ⟨fields, crc, -, sealed, -⟩ := marshalCbor_eq_ok.mp marshalled
  exact known_of_appendCRC sealed

end CanonicalBlock

end RecDtn.Bpv7
