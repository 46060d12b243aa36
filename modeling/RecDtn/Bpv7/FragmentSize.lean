import RecDtn.Bpv7.FragmentRoundTrip
import RecDtn.Bpv7.RoundTrip
import RecDtn.Lang.Tally

/-! The estimated overhead of a fragment, and its size. -/

namespace RecDtn.Bpv7

open Wire Wire.CborHead Lang Bpv7.Bundle CanonicalBlock List Go PrimaryBlock

/-- The CRC field of a block: the head of a byte string and the CRC. -/
def CRCType.fieldLength (crcType : CRCType) : Nat :=
  if crcType = crcNo then 0 else if crcType = crc16 then 3 else 5

theorem CRCType.fieldLength_le (crcType : CRCType) : crcType.fieldLength ≤ 5 := by
  unfold fieldLength
  split_ifs <;> omega

variable {crcType : CRCType}

theorem CRCType.Known.headLength (known : crcType.Known) : CborHead.headLength crcType.toNat = 1 := by
  rcases known with rfl | rfl | rfl <;> rfl

section Lengths

variable [Cboring] [Crc16] [StandardHeads]

theorem length_appendCRC {fields written : List UInt8} {crc : Option (List UInt8)}
    (sealed : appendCRC crcType fields = .ok (written, crc)) :
    written.length = fields.length + crcType.fieldLength := by
  rcases appendCRC_eq_ok.mp sealed with ⟨rfl, rfl, -⟩ | ⟨some, crcVal, calculated, rfl, -⟩
  · rfl
  · have field : crcVal.length < 24 → (Cboring.writeByteString crcVal).length = 1 + crcVal.length := by
      intro short
      rw [StandardHeads.writeByteString crcVal (by omega), headLength, if_pos short]
    rw [length_append]
    rcases (calculateCRCBuff_known fields crcType).mp ⟨crcVal, calculated⟩ with rfl | rfl | rfl
    · exact absurd rfl some
    · obtain rfl := Except.ok.inj calculated
      rw [field (by simp [length_bigEndian]), length_bigEndian]
      rfl
    · obtain rfl := Except.ok.inj calculated
      rw [field (by simp [length_bigEndian]), length_bigEndian]
      rfl

namespace CanonicalBlock

omit [StandardHeads] [Crc16]

def Writable (cb : CanonicalBlock) : Prop :=
  ∃ value data, cb.value = some value ∧ value.writeBlock = .ok data

/-- The bytes of a block that do not depend on its number and its CRC: the array
head, type code, flags, CRC type and value. -/
def frameLength (cb : CanonicalBlock) : Nat :=
  match cb.value with
  | none => 0
  | some value => 2 + headLength value.blockTypeCode.toNat + headLength cb.blockControlFlags.toNat +
      (value.writeBlock.toOption.getD []).length

def encodedLength (cb : CanonicalBlock) : Nat :=
  cb.frameLength + headLength cb.blockNumber.toNat + cb.crcType.fieldLength

/-- The length with a CRC of the longest type. -/
def estimatedLength (cb : CanonicalBlock) : Nat :=
  cb.frameLength + 5 + headLength cb.blockNumber.toNat

variable [Crc16] {cb left : CanonicalBlock} {written : List UInt8}

theorem writable_of_marshalCbor (marshalled : cb.marshalCbor = .ok (written, left)) :
    cb.Writable := by
  obtain ⟨fields, crc, first, -, -⟩ := marshalCbor_eq_ok.mp marshalled
  obtain ⟨value, data, held, block, -⟩ := marshalFields_eq_ok.mp first
  exact ⟨value, data, held, block⟩

theorem marshalCbor_of_writable (writable : cb.Writable) (known : cb.crcType.Known) :
    ∃ written left, cb.marshalCbor = .ok (written, left) := by
  obtain ⟨value, data, held, block⟩ := writable
  obtain ⟨written, crc, sealed⟩ := appendCRC_known known _
  exact ⟨written, _, marshalCbor_eq_ok.mpr
    ⟨_, crc, marshalFields_eq_ok.mpr ⟨value, data, held, block, rfl⟩, sealed, rfl⟩⟩

variable [StandardHeads]

theorem length_marshalCbor (marshalled : cb.marshalCbor = .ok (written, left)) :
    written.length = cb.encodedLength := by
  have known := known_of_marshalCbor marshalled
  obtain ⟨fields, crc, first, sealed, -⟩ := marshalCbor_eq_ok.mp marshalled
  obtain ⟨value, data, held, block, rfl⟩ := marshalFields_eq_ok.mp first
  have array : (Cboring.writeArrayLength (if cb.hasCRC then 6 else 5)).length = 1 := by
    rw [StandardHeads.writeArrayLength]
    split <;> rfl
  have frame : cb.frameLength = 2 + headLength value.blockTypeCode.toNat +
      headLength cb.blockControlFlags.toNat + data.length := by
    simp [frameLength, held, block, Except.toOption]
  rw [length_appendCRC sealed, encodedLength, frame]
  simp only [length_append, array, StandardHeads.writeUInt, known.headLength]
  omega

end CanonicalBlock

variable {blocks : List CanonicalBlock} {mtu : Int} {slice : List UInt8}

namespace Bundle

theorem length_marshalBlocks {left : List CanonicalBlock} {bytes : List UInt8}
    (marshalled : marshalBlocks blocks = .ok (bytes, left)) :
    bytes.length = tally encodedLength blocks := by
  induction blocks generalizing bytes left with
  | nil =>
    cases marshalled
    rfl
  | cons cb rest ih =>
    obtain ⟨first, sealed, later, others, head, tail, rfl, -⟩ := marshalBlocks_cons.mp marshalled
    rw [length_append, tally_cons, length_marshalCbor head, ih tail]

end Bundle

theorem extensionBlocksLen_eq_ok {lens : Int × Int} (plain : ∀ cb ∈ blocks, cb.isPayload = false)
    (estimated : extensionBlocksLen mtu blocks = .ok lens) :
    (∀ cb ∈ blocks, cb.Writable) ∧ lens.1 = tally estimatedLength blocks ∧
      lens.2 = tally estimatedLength
        (blocks.filter fun cb => cb.blockControlFlags.has BlockControlFlags.replicateBlock) := by
  induction blocks generalizing lens with
  | nil =>
    cases estimated
    exact ⟨by simp, rfl, rfl⟩
  | cons cb rest ih =>
    obtain ⟨own, first, estimated⟩ := bind_eq_ok.mp estimated
    obtain ⟨later, others, estimated⟩ := bind_eq_ok.mp estimated
    cases estimated
    obtain ⟨writable, whole, replicated⟩ :=
      ih (fun other member => plain other (by simp [member])) others
    obtain ⟨typeCode, code, first⟩ := bind_eq_ok.mp first
    obtain ⟨value, held, code⟩ := bind_eq_ok.mp code
    cases code
    have value_eq : cb.value = some value := deref_eq_ok.mp held
    have other : value.blockTypeCode ≠ BlockType.payloadBlock := by
      simpa [isPayload, ofType, value_eq] using plain cb (by simp)
    simp only [other, ↓reduceIte] at first
    obtain ⟨⟨written, sealed⟩, marshalled, first⟩ := bind_eq_ok.mp first
    cases first
    have size : written.length = cb.estimatedLength := by
      rw [length_marshalCbor marshalled]
      simp only [encodedLength, estimatedLength, frameLength,
        CRCType.fieldLength]
      simp [CRCType.crc32, CRCType.crcNo, CRCType.crc16]
      omega
    have own : cb.Writable := by
      have sealed := writable_of_marshalCbor marshalled
      exact sealed
    refine ⟨?_, ?_, ?_⟩
    · intro block member
      rcases mem_cons.mp member with rfl | member
      · exact own
      · exact writable block member
    · rw [tally_cons, ← size, whole]
      simp
    · rw [replicated, filter_cons]
      split
      · rw [tally_cons, ← size]
        simp
      · simp

/-- The estimate for the fragment at `i`: the blocks it carries, and a payload
block with a CRC and the length field of the MTU. -/
theorem fragmentExtensionBlocksLen_eq_ok {b : Bundle} {overhead : Int × Int}
    (plain : ∀ cb ∈ b.extensionBlocks, cb.isPayload = false)
    (estimated : fragmentExtensionBlocksLen b mtu = .ok overhead) :
    (∀ cb ∈ b.extensionBlocks, cb.Writable) ∧
      ∀ i, (if i = 0 then overhead.1 else overhead.2) =
      tally estimatedLength (b.extensionBlocks.filter (Bundle.carriedAt i)) + 9 +
        headLength b.payloadBlock.blockControlFlags.toNat + headLength (uint64Of mtu).toNat := by
  obtain ⟨extensions, first, estimated⟩ := bind_eq_ok.mp estimated
  obtain ⟨⟨written, sealed⟩, marshalled, estimated⟩ := bind_eq_ok.mp estimated
  cases estimated
  obtain ⟨writable, whole, replicated⟩ := extensionBlocksLen_eq_ok plain first
  have empty : (Cboring.writeByteString []).length = 1 := StandardHeads.writeByteString [] (by decide)
  have payload : written.length = 10 + headLength b.payloadBlock.blockControlFlags.toNat := by
    have block : (ExtensionBlock.payload []).writeBlock = .ok (Cboring.writeByteString []) := rfl
    have one : headLength (1 : UInt64).toNat = 1 := rfl
    have code : headLength (ExtensionBlock.payload []).blockTypeCode.toNat = 1 := rfl
    have field : CRCType.crc32.fieldLength = 5 := rfl
    rw [length_marshalCbor marshalled]
    simp only [encodedLength, frameLength, block, one, code, field, Except.toOption,
      Option.getD_some, empty]
    omega
  have length : lengthField mtu = headLength (uint64Of mtu).toNat - 1 := by
    rw [lengthField, StandardHeads.writeByteStringLen]
  refine ⟨writable, ?_⟩
  intro i
  by_cases start : i = 0
  · have all : b.extensionBlocks.filter (Bundle.carriedAt i) = b.extensionBlocks :=
      filter_eq_self.mpr fun cb _ => by simp [Bundle.carriedAt, start]
    simp only [start, ↓reduceIte, whole, payload, length]
    rw [← start, all]
    push_cast
    omega
  · have some : b.extensionBlocks.filter (Bundle.carriedAt i) =
        b.extensionBlocks.filter fun cb => cb.blockControlFlags.has BlockControlFlags.replicateBlock :=
      filter_congr fun cb _ => by simp [Bundle.carriedAt, start]
    simp only [start, ↓reduceIte, replicated, payload, length, some]
    push_cast
    omega

section

omit [Crc16] [StandardHeads]

theorem CanonicalBlock.encodedLength_le (cb : CanonicalBlock) :
    cb.encodedLength ≤ cb.estimatedLength := by
  have field := cb.crcType.fieldLength_le
  unfold encodedLength estimatedLength
  omega

/-- Numbers counted up from 2 do not take more bytes than other distinct ones. -/
theorem tally_numberedFrom (room : 2 + blocks.length < 2 ^ 64)
    (distinct : (blocks.map blockNumber).Nodup) (above : ∀ cb ∈ blocks, 2 ≤ cb.blockNumber) :
    tally estimatedLength (numberedFrom 2 blocks) ≤
      tally estimatedLength blocks := by
  let number : CanonicalBlock → Nat := fun cb => cb.blockNumber.toNat
  have split : ∀ list, tally estimatedLength list =
      tally (fun cb : CanonicalBlock => cb.frameLength + 5) list + tally headLength (list.map number) := by
    intro list
    rw [tally_map, ← tally_add]
    rfl
  have kept : ∀ (cb : CanonicalBlock) (number : UInt64),
      { cb with blockNumber := number }.frameLength + 5 = cb.frameLength + 5 := fun _ _ => rfl
  have frames : tally (fun cb : CanonicalBlock => cb.frameLength + 5) (numberedFrom 2 blocks) =
      tally (fun cb : CanonicalBlock => cb.frameLength + 5) blocks :=
    congrArg List.sum (map_numberedFrom kept 2 blocks)
  have counted : (numberedFrom 2 blocks).map number = List.range' 2 (blocks.map number).length := by
    have toNat : (numberedFrom 2 blocks).map number =
        ((List.range' 2 blocks.length).map Nat.toUInt64).map UInt64.toNat := by
      rw [← numbers_numberedFrom, map_map]
      rfl
    rw [toNat, map_map, length_map]
    refine (map_congr_left ?_).trans (map_id _)
    intro count member
    exact toNat_toUInt64 (by have bounds := mem_range'_1.mp member; omega)
  have numbers : (blocks.map number).Nodup := by
    rw [show blocks.map number = (blocks.map blockNumber).map UInt64.toNat by
      rw [map_map]; rfl]
    exact distinct.map fun first second same => UInt64.toNat_inj.mp same
  have lightest : tally headLength ((numberedFrom 2 blocks).map number) ≤
      tally headLength (blocks.map number) := by
    rw [counted]
    refine tally_range'_le (fun _ _ less => headLength_mono less) numbers ?_
    intro count member
    obtain ⟨cb, inside, rfl⟩ := mem_map.mp member
    exact UInt64.le_iff_toNat_le.mp (above cb inside)
  rw [split, split, frames]
  exact Nat.add_le_add_left lightest _

end

omit [Crc16] in
theorem payload_encodedLength_le {cb : CanonicalBlock} (number : cb.blockNumber = 1)
    (held : cb.value = some (.payload slice)) (fits : slice.length < 2 ^ 64) :
    cb.encodedLength ≤ 9 + headLength cb.blockControlFlags.toNat + headLength slice.length +
      slice.length := by
  have field := cb.crcType.fieldLength_le
  have block : (ExtensionBlock.payload slice).writeBlock = .ok (Cboring.writeByteString slice) := rfl
  have one : headLength (1 : UInt64).toNat = 1 := rfl
  have code : headLength (ExtensionBlock.payload slice).blockTypeCode.toNat = 1 := rfl
  simp only [encodedLength, frameLength, held, number, block, one, code,
    Except.toOption, Option.getD_some, StandardHeads.writeByteString slice fits]
  omega

namespace PrimaryBlock

variable {pb fragPb : PrimaryBlock} {offset total length : Nat}

/-- The primary block of a whole bundle is not longer than that of a fragment. -/
theorem marshalCbor_of_fragment (whole : pb.hasFragmentation = false)
    (answered : fragmentPrimaryBlock pb offset total = .ok (fragPb, length)) :
    ∃ written left, pb.marshalCbor = .ok (written, left) ∧ written.length ≤ length := by
  obtain ⟨⟨longer, left⟩, marshalled, answered⟩ := bind_eq_ok.mp answered
  cases answered
  have known := known_of_marshalCbor marshalled
  obtain ⟨fields, crc, first, sealed, -⟩ := marshalCbor_eq_ok.mp marshalled
  obtain ⟨destination, sourceNode, reportTo, destined, source, report, rfl⟩ :=
    marshalFields_eq_ok.mp first
  obtain ⟨written, own, done⟩ := appendCRC_known known _
  refine ⟨written, _, marshalCbor_eq_ok.mpr ⟨_, own, marshalFields_eq_ok.mpr
    ⟨destination, sourceNode, reportTo, destined, source, report, rfl⟩, done, rfl⟩, ?_⟩
  have array : ∀ pb : PrimaryBlock, (Cboring.writeArrayLength pb.blockLen).length = 1 := by
    intro pb
    rw [StandardHeads.writeArrayLength, blockLen]
    split <;> rfl
  have flags : headLength pb.bundleControlFlags.toNat ≤
      headLength (pb.bundleControlFlags ||| BundleControlFlags.isFragment).toNat := by
    refine headLength_mono ?_
    rw [UInt64.toNat_or]
    exact Nat.left_le_or
  have none : pb.marshalFragment = [] := by simp [marshalFragment, whole]
  rw [length_appendCRC sealed, length_appendCRC done, none]
  simp only [length_append, array, StandardHeads.writeUInt, length_nil]
  omega

omit [StandardHeads] in
theorem marshalCbor_fragment
    (answered : fragmentPrimaryBlock pb offset total = .ok (fragPb, length)) :
    ∃ written left, fragPb.marshalCbor = .ok (written, left) ∧ written.length ≤ length := by
  obtain ⟨⟨written, left⟩, marshalled, answered⟩ := bind_eq_ok.mp answered
  cases answered
  obtain ⟨fields, crc, first, sealed, rfl⟩ := marshalCbor_eq_ok.mp marshalled
  exact ⟨written, _, marshalCbor_eq_ok.mpr ⟨fields, crc, first, sealed, rfl⟩, Nat.le_refl _⟩

end PrimaryBlock

namespace Bundle

/-- A bundle that stays within each part of the estimate stays within the MTU. -/
theorem marshalCbor_within {g : Bundle} {mtu : Int64} {primaryOverhead blocks taken : Nat}
    (primary : ∃ written left, g.primaryBlock.marshalCbor = .ok (written, left) ∧
    written.length ≤ primaryOverhead) (writable : ∀ cb ∈ g.extensionBlocks, cb.Writable)
    (known : ∀ cb ∈ g.extensionBlocks ++ [g.payloadBlock], cb.crcType.Known)
    (extensions : tally encodedLength g.extensionBlocks ≤ blocks)
    (number : g.payloadBlock.blockNumber = 1) (held : g.payloadBlock.value = some (.payload slice))
    (short : slice.length ≤ taken)
    (full : 2 + primaryOverhead + (blocks + 9 + headLength g.payloadBlock.blockControlFlags.toNat +
      headLength (uint64Of mtu.toInt).toNat : Int) + taken = mtu.toInt) :
    ∃ written sent, g.marshalCbor = .ok (written, sent) ∧
      (written.length : Int) ≤ mtu.toInt := by
  have small : mtu.toInt < 2 ^ 63 := mtu.toInt_lt
  have length : slice.length < 2 ^ 63 := by omega
  have field : headLength slice.length ≤ headLength (uint64Of mtu.toInt).toNat := by
    have same : (uint64Of mtu.toInt).toNat = mtu.toInt.toNat := by
      unfold uint64Of
      rw [Int.emod_eq_of_lt (by omega) (by omega)]
      exact toNat_toUInt64 (by omega)
    rw [same]
    exact headLength_mono (by omega)
  obtain ⟨first, left, head, counted⟩ := primary
  obtain ⟨middle, others, tail⟩ := marshalBlocks_of_each fun cb member =>
    marshalCbor_of_writable (writable cb member) (known cb (mem_append_left _ member))
  have block : (ExtensionBlock.payload slice).writeBlock = .ok (Cboring.writeByteString slice) := rfl
  obtain ⟨last, sealed, payload⟩ := marshalCbor_of_writable ⟨_, _, held, block⟩
    (known g.payloadBlock (by simp))
  have bound := payload_encodedLength_le number held (by omega)
  refine ⟨_, ⟨left, others, sealed⟩,
    marshalCbor_eq_ok.mpr ⟨first, middle, last, head, tail, payload, rfl⟩, ?_⟩
  simp only [length_cons, length_append, length_marshalBlocks tail,
    length_marshalCbor payload, length_nil]
  omega

variable [Ed25519] [GoSort]

section Rounds

omit [StandardHeads]

variable {b : Bundle} {mtu : Int} {now : Time} {extOverhead : Int × Int}
  {data : List UInt8} {i : Nat} {bs : List Bundle}

theorem Rounds.mem (rounds : b.Rounds mtu now extOverhead data i bs) {f : Bundle}
    (member : f ∈ bs) : ∃ j next, b.fragmentAt mtu now extOverhead data j = .ok (f, next) := by
  induction rounds with
  | done past => cases member
  | @round i next _ _ below first rest ih =>
    rcases mem_cons.mp member with rfl | member
    · exact ⟨i, next, first⟩
    · exact ih member

/-- A single fragment takes all of the payload. -/
theorem Rounds.single (rounds : b.Rounds mtu now extOverhead data i bs) (single : bs.length = 1) :
    ∃ f next, b.fragmentAt mtu now extOverhead data i = .ok (f, next) ∧ data.length ≤ next := by
  cases rounds with
  | done past => cases single
  | round below first rest =>
    cases rest with
    | done past => exact ⟨_, _, first, past⟩
    | round _ _ _ => simp at single

end Rounds

section Within

variable {b f : Bundle} {mtu : Int64} {now : Time} {extOverhead : Int × Int} {data : List UInt8}
  (known : b.CRCTypesKnown) (plain : ∀ cb ∈ b.extensionBlocks, cb.isPayload = false)
    (fits : Allocatable data)
  (estimated : fragmentExtensionBlocksLen b mtu.toInt = .ok extOverhead)

include known plain fits estimated

variable {next : Nat}

/-- The whole bundle has its own numbers, and a primary block without the
fragment fields. -/
theorem whole_within_mtu (valid : b.checkValid now = .ok []) (whole : b.isFragment = false)
    (held : b.payloadBlock.value = some (.payload data))
    (first : b.fragmentAt mtu.toInt now extOverhead data 0 = .ok (f, next))
    (all : data.length ≤ next) :
    ∃ written sent, b.marshalCbor = .ok (written, sent) ∧
      (written.length : Int) ≤ mtu.toInt := by
  obtain ⟨writable, estimate⟩ := fragmentExtensionBlocksLen_eq_ok plain estimated
  obtain ⟨primaryOverhead, -, primary, -, -, -, -, full⟩ := fragmentAt_eq_ok fits first
  have every : b.extensionBlocks.filter (carriedAt 0) = b.extensionBlocks :=
    filter_eq_self.mpr fun cb _ => by simp [carriedAt]
  rw [estimate, every] at full
  exact marshalCbor_within (marshalCbor_of_fragment whole primary) writable known.2
    (tally_le fun cb _ => cb.encodedLength_le)
    (blockNumber_of_payload held rfl ((checkValid_eq_nil.mp valid).2.1 _ (by simp))) held all full

theorem fragmentAt_within_mtu {i : Nat} (extensions : b.ExtensionsPlain)
    (distinct : (b.extensionBlocks.map blockNumber).Nodup)
    (above : ∀ cb ∈ b.extensionBlocks, 2 ≤ cb.blockNumber)
    (room : Allocatable b.extensionBlocks)
    (round : b.fragmentAt mtu.toInt now extOverhead data i = .ok (f, next)) :
    ∃ written sent, f.marshalCbor = .ok (written, sent) ∧
      (written.length : Int) ≤ mtu.toInt := by
  have bound : b.extensionBlocks.length ≤ 2 ^ 48 := room
  obtain ⟨writable, estimate⟩ := fragmentExtensionBlocksLen_eq_ok plain estimated
  obtain ⟨primaryOverhead, carried, primary, added, same, slot, -, full⟩ :=
    fragmentAt_eq_ok fits round
  rw [addExtensionBlocks_carried extensions room] at added
  cases added
  have inside : ∀ cb ∈ b.extensionBlocks.filter (carriedAt i), cb ∈ b.extensionBlocks :=
    fun cb carried => (mem_filter.mp carried).1
  have numbered : ∀ cb ∈ f.extensionBlocks, ∃ original ∈ b.extensionBlocks,
      cb = { original with blockNumber := cb.blockNumber } := by
    intro cb listed
    rw [same] at listed
    obtain ⟨original, carried, renumbered⟩ := mem_numberedFrom listed
    exact ⟨original, inside original carried, renumbered⟩
  have fewer := length_filter_le (carriedAt i) b.extensionBlocks
  rw [estimate] at full
  refine marshalCbor_within (marshalCbor_fragment primary) ?_ ?_ ?_
    (by rw [slot]) (by rw [slot]) ?_ (by rw [slot]; exact full)
  · intro cb listed
    obtain ⟨original, carried, renumbered⟩ := numbered cb listed
    rw [renumbered]
    exact writable original carried
  · intro cb listed
    rcases mem_append.mp listed with extension | last
    · obtain ⟨original, carried, renumbered⟩ := numbered cb extension
      rw [renumbered]
      exact known.2 original (mem_append_left _ carried)
    · rw [mem_singleton.mp last, slot]
      exact known.2 b.payloadBlock (by simp)
  · rw [same]
    refine (tally_le fun cb _ => cb.encodedLength_le).trans (tally_numberedFrom (by omega) ?_ ?_)
    · exact (filter_sublist.map _).nodup distinct
    · exact fun cb carried => above cb (inside cb carried)
  · simp only [length_drop, length_take]
    omega

end Within

end Bundle

variable [Ed25519] [GoSort]

/-- What a successful call returns fits into the MTU. -/
theorem fragment_within_mtu {b : Bundle} {mtu : Int64} {now : Time} {bs : List Bundle}
    (valid : b.checkValid now = .ok []) (whole : b.isFragment = false) (known : b.CRCTypesKnown)
    (distinct : (b.extensionBlocks.map blockNumber).Nodup)
    (above : ∀ cb ∈ b.extensionBlocks, 2 ≤ cb.blockNumber)
    (plain : ∀ cb ∈ b.extensionBlocks, cb.isPayload = false)
    (fits : ∀ data, b.payloadBlock.value = some (.payload data) → Allocatable data)
    (room : Allocatable b.extensionBlocks) (fragmented : b.fragment mtu.toInt now = .ok bs) :
    ∀ f ∈ bs, ∃ written sent, f.marshalCbor = .ok (written, sent) ∧
      (written.length : Int) ≤ mtu.toInt := by
  obtain ⟨data, extOverhead, pieces, payload, estimated, rounds, result⟩ :=
    rounds_of_fragment fragmented
  have held := payloadData_eq_ok.mp payload
  intro f member
  by_cases single : pieces.length = 1
  · rw [result, if_pos single, mem_singleton] at member
    subst member
    obtain ⟨g, next, first, all⟩ := rounds.single single
    exact whole_within_mtu known plain (fits data held) estimated valid whole held first all
  · rw [result, if_neg single] at member
    obtain ⟨i, next, round⟩ := rounds.mem member
    exact fragmentAt_within_mtu known plain (fits data held) estimated
      (extensionsPlain_of_checkValid valid plain) distinct above room round

end Lengths

open scoped Samples

attribute [local instance] standardCbor_standardHeads

theorem largeBundle_within_mtu : ∃ bs, largeBundle.fragment (100 : Int64).toInt 0 = .ok bs ∧
    bs.length = 2 ∧
    ∀ f ∈ bs, ∃ written sent, f.marshalCbor = .ok (written, sent) ∧
      (written.length : Int) ≤ (100 : Int64).toInt := by
  have two : (largeBundle.fragment (100 : Int64).toInt 0).toOption.map List.length = some 2 := by
    decide +kernel
  obtain ⟨bs, fragmented, length⟩ := toOption_map_eq_some.mp two
  refine ⟨bs, fragmented, length, ?_⟩
  refine fragment_within_mtu rfl rfl ⟨by decide, by decide⟩ (by decide)
    (by decide) (by decide) ?_ (Nat.le_of_ble_eq_true rfl) fragmented
  intro data held
  cases held
  exact Nat.le_of_ble_eq_true rfl

end RecDtn.Bpv7
