import RecDtn.Bpv7.PartialBundle
import RecDtn.Bpv7.RoundTrip

/-! Partial parsing of what the encoder wrote. -/

namespace RecDtn.Bpv7

open Wire Lang Cboring ExtensionBlock List Bpv7.Bundle Go

namespace CanonicalBlock

variable [Cboring] [Crc16] {cb left : CanonicalBlock} {value : ExtensionBlock} {source : Source}
  {wanted : List UInt64} {front written : List UInt8}

def numbers (cb : CanonicalBlock) (typeCode : UInt64) : List UInt8 :=
  writeUInt typeCode ++ (writeUInt cb.blockNumber ++
    (writeUInt cb.blockControlFlags ++ writeUInt cb.crcType))

/-- The fields in front of the data of a block. -/
def head (cb : CanonicalBlock) (typeCode : UInt64) : Head :=
  ⟨if cb.hasCRC then 6 else 5, typeCode, { cb with crc := [], value := none }⟩

omit [Crc16] in
/-- The head of an encoded block is read back, and the CRC buffer holds what is
covered of it. -/
theorem unmarshalHead_written (cb : CanonicalBlock) (typeCode : UInt64) (front rest : List UInt8) :
    unmarshalHead (Place.between front
      (writeArrayLength (if cb.hasCRC then 6 else 5) ++ (cb.numbers typeCode ++ rest))).pending =
      .ok (cb.head typeCode) ⟨rest, crcBuff (if cb.hasCRC then 6 else 5) ++ cb.numbers typeCode⟩ := by
  have known : (if cb.hasCRC then 6 else 5 : UInt64) = 5 ∨
      (if cb.hasCRC then 6 else 5 : UInt64) = 6 := by
    cases cb.hasCRC with
    | false => exact .inl rfl
    | true => exact .inr rfl
  have length : Reads [] unmarshalLength (writeArrayLength (if cb.hasCRC then 6 else 5)) _ :=
    .before (reads_arrayLength _) (.after (.ensure known) (.pure _))
  have fields : Reads (crcBuff (if cb.hasCRC then 6 else 5))
      (unmarshalNumbers (if cb.hasCRC then 6 else 5)) (cb.numbers typeCode) (cb.head typeCode) :=
    .bind (reads_uint _) (.bind (reads_uint _) (.bind (reads_uint _)
      (.before (reads_uint _) (.pure _))))
  rw [Place.pending_between]
  exact unmarshalHead_eq_ok.mpr ⟨_, _, length.run _, fields rest⟩

section

variable (marshalled : cb.marshalCbor = .ok (written, left))

include marshalled

theorem marshalCbor_parts (present : cb.value = some value) :
    ∃ data crc, value.marshalData = .ok data ∧
      written = writeArrayLength (if cb.hasCRC then 6 else 5) ++
        (cb.numbers value.blockTypeCode ++ (Cboring.writeByteString data ++ crc)) ∧
      ((cb.hasCRC = false ∧ crc = [] ∧ left = cb) ∨
        cb.hasCRC = true ∧ ∃ crcVal, crc = Cboring.writeByteString crcVal ∧ left = { cb with crc := crcVal } ∧
          calculateCRCBuff (writeArrayLength 6 ++ (cb.numbers value.blockTypeCode ++
            Cboring.writeByteString data)) cb.crcType = .ok crcVal) := by
  obtain ⟨fields, crc, first, sealed, rfl⟩ := marshalCbor_eq_ok.mp marshalled
  obtain ⟨other, bytes, member, block, rfl⟩ := marshalFields_eq_ok.mp first
  obtain rfl : value = other := by simpa [present] using member
  obtain ⟨data, encoded, rfl⟩ := writeBlock_eq_ok.mp block
  rcases appendCRC_eq_ok.mp sealed with ⟨no, rfl, rfl⟩ | ⟨typed, crcVal, calculated, rfl, rfl⟩
  · refine ⟨data, [], encoded, by simp [numbers], .inl ⟨by simp [hasCRC, no], rfl, rfl⟩⟩
  · have checked : cb.hasCRC = true := by simpa [hasCRC] using typed
    refine ⟨data, _, encoded, by simp [numbers], .inr ⟨checked, crcVal, rfl, rfl, ?_⟩⟩
    simpa [checked, numbers] using calculated

theorem value_fresh : left.fresh.value = cb.value := by
  obtain ⟨_, _, -, -, rfl⟩ := marshalCbor_eq_ok.mp marshalled
  rfl

/-- A block of a wanted type comes back as the full decoder returns it. -/
theorem unmarshalWantedBlock_of_written (faithful : cb.Faithful) (present : cb.value = some value)
    (listed : value.blockTypeCode ∈ wanted) (rest : List UInt8) :
    unmarshalWantedBlock source wanted (.between front (written ++ rest)) =
      ⟨true, .ok (), left.fresh, .between (front ++ written) rest⟩ := by
  obtain ⟨data, crc, encoded, layout, ending⟩ := marshalCbor_parts marshalled present
  obtain ⟨other, member, managed, formed⟩ := faithful
  obtain rfl : value = other := Option.some.inj (present.symm.trans member)
  have block : ∀ buffer, Reads buffer (readData (cb.head value.blockTypeCode))
      (Cboring.writeByteString data) value :=
    fun buffer => .mapError (.before (reads_byteString data)
      (.lift (unmarshalData_marshalData managed formed encoded)))
  have read := unmarshalHead_written cb value.blockTypeCode front
    (Cboring.writeByteString data ++ (crc ++ rest))
  have place := Place.left_between front written rest
  have whole : written ++ rest = writeArrayLength (if cb.hasCRC then 6 else 5) ++
      (cb.numbers value.blockTypeCode ++ (Cboring.writeByteString data ++ (crc ++ rest))) := by
    simp only [layout, append_assoc]
  rw [← whole] at read
  rw [unmarshalWantedBlock_of_listed read listed]
  simp only [takeData, block _ (crc ++ rest)]
  rcases ending with ⟨plain, rfl, rfl⟩ | ⟨checked, crcVal, rfl, rfl, calculated⟩
  · simp [head, plain, place, fresh, present]
  · have field := reads_checkCRC calculated rest
    have kept : ({ cb with crc := crcVal, value := some value } : CanonicalBlock).hasCRC = true := checked
    simp [head, checked, crcBuff, field, place, fresh, present, kept]

/-- The data of any other block are skipped, and its CRC too. -/
theorem unmarshalWantedBlock_past_written [SplitByteStrings] (present : cb.value = some value)
    (unlisted : value.blockTypeCode ∉ wanted) (rest : List UInt8)
    (holds : source.Holds (front ++ (written ++ rest))) :
    unmarshalWantedBlock source wanted (.between front (written ++ rest)) =
      ⟨false, .ok (), { cb with crc := [], value := some (.generic [] value.blockTypeCode) },
        .between (front ++ written) rest⟩ := by
  obtain ⟨data, crc, -, layout, ending⟩ := marshalCbor_parts marshalled present
  have small : data.length < 2 ^ 64 := by
    have bound := holds.1
    have inside := SplitByteStrings.length_le data
    simp only [layout, length_append] at bound
    omega
  rw [SplitByteStrings.writeByteString data small] at layout
  -- the bytes in front of the data
  generalize used : writeArrayLength (if cb.hasCRC then 6 else 5) ++
    (cb.numbers value.blockTypeCode ++ writeByteStringLen data.length.toUInt64) = headBytes
  have whole : written ++ rest = headBytes ++ (data ++ (crc ++ rest)) := by
    simp only [layout, ← used, append_assoc]
  have ahead : front ++ written = front ++ headBytes ++ data ++ crc := by
    simp only [layout, ← used, append_assoc]
  have read := unmarshalHead_written cb value.blockTypeCode front
    (writeByteStringLen data.length.toUInt64 ++ (data ++ (crc ++ rest)))
  have length := (reads_byteStringLen data.length.toUInt64).run (data ++ (crc ++ rest))
  rw [← append_assoc (cb.numbers _), ← append_assoc, used] at read
  rw [whole] at holds ⊢
  have skipped := Source.skip_between (front ++ headBytes) data (crc ++ rest) (by simpa using holds)
  rw [unmarshalWantedBlock_of_unlisted read unlisted, ahead]
  simp only [skipData, length, Place.left_between, skipped, Place.pending_between]
  rcases ending with ⟨plain, rfl, -⟩ | ⟨checked, crcVal, rfl, -, -⟩
  · simp [head, plain]
  · have field := (reads_byteString crcVal).run rest
    simp [head, checked, field, Place.left_between]

end

end CanonicalBlock

namespace PartialBundle

/-- The blocks found are the first of each wanted type that occurs, in their order. -/
structure FirstOfEach (wanted : List UInt64) (blocks found : List CanonicalBlock) : Prop where
  inOrder : found.Sublist blocks
  mem_iff : ∀ cb, cb ∈ found ↔
    ∃ typeCode ∈ wanted, blocks.find? (CanonicalBlock.ofType typeCode) = some cb
  distinct : found.Pairwise fun first second =>
    first.value.map blockTypeCode ≠ second.value.map blockTypeCode

namespace FirstOfEach

variable {wanted : List UInt64} {cb : CanonicalBlock} {value : ExtensionBlock}
  {blocks found : List CanonicalBlock}

theorem of_nil (wanted : List UInt64) : FirstOfEach wanted [] [] :=
  ⟨.slnil, by simp, .nil⟩

theorem of_unwanted (blocks : List CanonicalBlock) : FirstOfEach [] blocks [] :=
  ⟨nil_sublist _, by simp, .nil⟩

private theorem ofType_iff (present : cb.value = some value) (typeCode : UInt64) :
    cb.ofType typeCode = true ↔ value.blockTypeCode = typeCode := by
  simp [CanonicalBlock.ofType, present]

private theorem type_of_find (looked : blocks.find? (CanonicalBlock.ofType typeCode) = some cb) :
    cb.value.map blockTypeCode = some typeCode := by
  have matched := find?_some looked
  simpa [CanonicalBlock.ofType] using matched

private theorem find_other (present : cb.value = some value)
    (different : typeCode ≠ value.blockTypeCode) :
    (cb :: blocks).find? (CanonicalBlock.ofType typeCode) =
      blocks.find? (CanonicalBlock.ofType typeCode) := by
  refine find?_cons_of_neg fun matched => ?_
  exact different ((ofType_iff present _).mp matched).symm

theorem pass (present : cb.value = some value) (unlisted : value.blockTypeCode ∉ wanted)
    (later : FirstOfEach wanted blocks found) : FirstOfEach wanted (cb :: blocks) found := by
  refine ⟨later.inOrder.cons cb, ?_, later.distinct⟩
  have skipped : ∀ typeCode ∈ wanted, (cb :: blocks).find? (CanonicalBlock.ofType typeCode) =
      blocks.find? (CanonicalBlock.ofType typeCode) := by
    intro typeCode member
    exact find_other present fun same => unlisted (same ▸ member)
  intro other
  rw [later.mem_iff]
  constructor
  · rintro ⟨typeCode, member, looked⟩
    exact ⟨typeCode, member, (skipped typeCode member).trans looked⟩
  · rintro ⟨typeCode, member, looked⟩
    exact ⟨typeCode, member, (skipped typeCode member).symm.trans looked⟩

theorem keep (present : cb.value = some value) (listed : value.blockTypeCode ∈ wanted)
    (nodup : wanted.Nodup) (later : FirstOfEach (wanted.erase value.blockTypeCode) blocks found) :
    FirstOfEach wanted (cb :: blocks) (cb :: found) := by
  have first : (cb :: blocks).find? (CanonicalBlock.ofType value.blockTypeCode) = some cb :=
    find?_cons_of_pos ((ofType_iff present _).mpr rfl)
  refine ⟨later.inOrder.cons_cons cb, ?_, .cons ?_ later.distinct⟩
  · intro other
    rw [mem_cons, later.mem_iff]
    constructor
    · rintro (rfl | ⟨typeCode, member, looked⟩)
      · exact ⟨_, listed, first⟩
      · obtain ⟨different, member⟩ := nodup.mem_erase_iff.mp member
        exact ⟨typeCode, member, (find_other present different).trans looked⟩
    · rintro ⟨typeCode, member, looked⟩
      by_cases same : typeCode = value.blockTypeCode
      · rw [same, first] at looked
        exact .inl (Option.some.inj looked).symm
      · exact .inr ⟨typeCode, nodup.mem_erase_iff.mpr ⟨same, member⟩, (find_other present same).symm.trans looked⟩
  · intro other member same
    obtain ⟨typeCode, left, looked⟩ := (later.mem_iff other).mp member
    rw [type_of_find looked, present] at same
    exact (nodup.mem_erase_iff.mp left).1 (Option.some.inj same).symm

end FirstOfEach

section Loop

variable [Cboring] [Crc16] {source : Source} {wanted : List UInt64} {cb left : CanonicalBlock}
  {value : ExtensionBlock} {written : List UInt8}

theorem round_of_written (faithful : cb.Faithful) (present : cb.value = some value)
    (other : value.blockTypeCode ≠ BlockType.payloadBlock) (listed : value.blockTypeCode ∈ wanted)
    (marshalled : cb.marshalCbor = .ok (written, left)) (front rest : List UInt8) :
    round source wanted (.between front (written ++ rest)) =
      .ok (if (wanted.erase value.blockTypeCode).isEmpty then .leave (some left.fresh)
        else .next (some left.fresh) (wanted.erase value.blockTypeCode) (.between (front ++ written) rest)) := by
  have held : left.fresh.value = some value := (CanonicalBlock.value_fresh marshalled).trans present
  rw [round, CanonicalBlock.unmarshalWantedBlock_of_written marshalled faithful present listed,
    judge_of_finished held rfl, if_neg other, keep_of_listed rfl listed]

/-- A block of another type is passed, and the payload block ends the loop. -/
theorem round_past_written [SplitByteStrings] (present : cb.value = some value)
    (unlisted : value.blockTypeCode ∉ wanted) (marshalled : cb.marshalCbor = .ok (written, left))
    (front rest : List UInt8) (holds : source.Holds (front ++ (written ++ rest))) :
    round source wanted (.between front (written ++ rest)) =
      .ok (if value.blockTypeCode = BlockType.payloadBlock then .leave none
        else .next none wanted (.between (front ++ written) rest)) := by
  have held :
      ({ cb with crc := [], value := some (.generic [] value.blockTypeCode) } : CanonicalBlock).value =
      some (.generic [] value.blockTypeCode) := rfl
  rw [round, CanonicalBlock.unmarshalWantedBlock_past_written marshalled present
    unlisted rest holds, judge_of_finished held rfl, keep_of_skipped rfl]
  rfl

/-- The loop over encoded blocks with a payload block behind them finds the first
block of each wanted type. The induction is on the blocks. -/
theorem unmarshalBlocks_of_written [SplitByteStrings] {blocks lefts : List CanonicalBlock}
    {payload last : CanonicalBlock} {bytes front lastBytes : List UInt8}
    (faithful : ∀ cb ∈ blocks, cb.Faithful ∧ cb.isPayload = false)
    (marshalled : Bundle.marshalBlocks blocks = .ok (bytes, lefts))
    (isPayload : payload.isPayload = true) (ending : payload.marshalCbor = .ok (lastBytes, last))
    (rest : List UInt8) (holds : source.Holds (front ++ (bytes ++ (lastBytes ++ rest))))
    (nodup : wanted.Nodup) (unlisted : BlockType.payloadBlock ∉ wanted) :
    ∃ found, unmarshalBlocks source (blocks.length + 1) wanted
      (.between front (bytes ++ (lastBytes ++ rest))) =
      .ok found ∧ FirstOfEach wanted (lefts.map CanonicalBlock.fresh) found := by
  induction blocks generalizing wanted front bytes lefts with
  | nil =>
    cases marshalled
    obtain ⟨value, present, code⟩ := Option.map_eq_some_iff.mp (of_decide_eq_true isPayload)
    have step := round_past_written present (code ▸ unlisted) ending front rest
      (by simpa using holds)
    refine ⟨[], ?_, .of_nil wanted⟩
    simp only [nil_append, length_nil, unmarshalBlocks, step, code, ↓reduceIte, ok_bind]
    rfl
  | cons cb blocks ih =>
    obtain ⟨first, sealed, later, others, head, tail, rfl, rfl⟩ :=
      marshalBlocks_cons.mp marshalled
    obtain ⟨⟨value, present, managed, formed⟩, notPayload⟩ := faithful cb mem_cons_self
    have other : value.blockTypeCode ≠ BlockType.payloadBlock := by
      have differs := of_decide_eq_false notPayload
      rw [Option.mem_def.mp present] at differs
      exact fun same => differs (congrArg some same)
    have held : sealed.fresh.value = some value := (CanonicalBlock.value_fresh head).trans present
    have members : ∀ cb ∈ blocks, cb.Faithful ∧ cb.isPayload = false :=
      fun other member => faithful other (mem_cons_of_mem cb member)
    simp only [append_assoc] at holds ⊢
    have onward : source.Holds ((front ++ first) ++ (later ++ (lastBytes ++ rest))) := by
      simpa only [append_assoc] using holds
    by_cases listed : value.blockTypeCode ∈ wanted
    · have step : round source wanted _ = _ := round_of_written ⟨value, present, managed, formed⟩ present other
        listed head front (later ++ (lastBytes ++ rest))
      by_cases done : (wanted.erase value.blockTypeCode).isEmpty
      · refine ⟨[sealed.fresh], ?_, .keep held listed nodup ?_⟩
        · simp only [length_cons, unmarshalBlocks, step, done, ↓reduceIte, ok_bind]
          rfl
        · rw [isEmpty_iff.mp done]
          exact .of_unwanted _
      · obtain ⟨found, read, firsts⟩ := ih members tail onward (nodup.erase _)
          (fun member => unlisted (mem_of_mem_erase member))
        refine ⟨sealed.fresh :: found, ?_, .keep held listed nodup firsts⟩
        simp only [length_cons, unmarshalBlocks, step, done, Bool.false_eq_true, ↓reduceIte, ok_bind]
        simp only [unmarshalBlocks] at read
        rw [read]
        rfl
    · have step := round_past_written present listed head front (later ++ (lastBytes ++ rest)) holds
      obtain ⟨found, read, firsts⟩ := ih members tail onward nodup unlisted
      refine ⟨found, ?_, .pass held listed firsts⟩
      simp only [length_cons, unmarshalBlocks, step, other, ↓reduceIte, ok_bind]
      simp only [unmarshalBlocks] at read
      rw [read]
      rfl

end Loop

theorem checkBlocks_of_valid {blocks : List CanonicalBlock}
    (valid : ∀ cb ∈ blocks, cb.checkValid = .ok []) : checkBlocks blocks = .ok () := by
  induction blocks with
  | nil => rfl
  | cons cb rest ih =>
    rw [checkBlocks, valid cb mem_cons_self,
      ih fun other member => valid other (mem_cons_of_mem cb member)]
    rfl

section Whole

variable [Cboring] [Crc16] {source : Source} {wanted : List UInt64} {b sent : Bundle}
  {written : List UInt8}

/-- Partial parsing of an encoded bundle that is valid when it comes back. -/
theorem parsePartialBundle_of_written [SplitByteStrings] (faithful : b.Faithful)
    (marshalled : b.marshalCbor = .ok (written, sent))
    (primary : sent.returned.primaryBlock.checkValid = [])
    (blocks : ∀ cb ∈ sent.returned.extensionBlocks, cb.checkValid = .ok [])
    (holds : source.Holds written)
    (nodup : wanted.Nodup) (unlisted : BlockType.payloadBlock ∉ wanted) :
    ∃ fuel found, parsePartialBundle source fuel wanted written =
      .ok ⟨sent.returned.primaryBlock, found⟩ ∧ FirstOfEach wanted sent.returned.extensionBlocks found := by
  obtain ⟨first, middle, last, head, extensions, payload, rfl⟩ := marshalCbor_eq_ok.mp marshalled
  have read : Reads [] unmarshalPrimary ([indefiniteArray] ++ first) sent.returned.primaryBlock :=
    .bind (reads_expect _)
      (.mapError (PrimaryBlock.reads_marshalCbor faithful.endpoints faithful.version head))
  have place := Place.left_between [] ([indefiniteArray] ++ first) (middle ++ (last ++ [breakCode]))
  have inside : source.Holds (([] ++ ([indefiniteArray] ++ first)) ++
      (middle ++ (last ++ [breakCode]))) := by
    simpa using holds
  obtain ⟨found, looped, firsts⟩ := unmarshalBlocks_of_written faithful.extensions extensions
    faithful.payload.2 payload [breakCode] inside nodup unlisted
  refine ⟨b.extensionBlocks.length + 1, found, ?_, firsts⟩
  have passed := checkBlocks_of_valid fun cb member => blocks cb (firsts.inOrder.subset member)
  have start := read.run (middle ++ (last ++ [breakCode]))
  have whole : indefiniteArray :: (first ++ (middle ++ (last ++ [breakCode]))) =
      [indefiniteArray] ++ first ++ (middle ++ (last ++ [breakCode])) := by simp
  rw [whole, parsePartialBundle, start]
  simp only [Place.start_eq_between, place, looped, ok_bind, primary, passed]
  rfl

end Whole

end PartialBundle

/-- Partial parsing agrees with full parsing: on the encoding of the bundle it
finds the primary block, and the first extension block of each wanted type, that
full parsing returns. -/
def Bundle.PartsAgree [Cboring] [Crc16] [Ed25519] (b : Bundle) (now : Time) : Prop :=
  ∃ written sent, b.marshalCbor = .ok (written, sent) ∧ sent.stripCRC = b.stripCRC ∧
    Bundle.parseBundle now written = ⟨sent.fresh, none, []⟩ ∧
    ∀ source wanted, source.Holds written → wanted.Nodup → BlockType.payloadBlock ∉ wanted →
      ∃ fuel found, PartialBundle.parsePartialBundle source fuel wanted written =
        .ok ⟨sent.fresh.primaryBlock, found⟩ ∧
        PartialBundle.FirstOfEach wanted sent.fresh.extensionBlocks found

theorem partsAgree_of_inFormat [Cboring] [Crc16] [Ed25519] [SplitByteStrings] {b : Bundle}
    {now : Time} (format : b.InFormat now) (formed : b.EndpointsWellFormed) : b.PartsAgree now := by
  obtain ⟨written, sent, marshalled, same, parsed⟩ := format.roundTrips formed
  refine ⟨written, sent, marshalled, same, by simpa using parsed [], ?_⟩
  intro source wanted holds nodup unlisted
  have returned := returned_of_fit format.fragment marshalled
  obtain ⟨primary, blocks, -⟩ := checkValid_eq_nil.mp (format.fresh_valid marshalled)
  rw [← returned] at primary blocks ⊢
  exact PartialBundle.parsePartialBundle_of_written (format.faithful formed) marshalled primary
    (fun cb member => blocks cb (mem_append_left _ member)) holds nodup unlisted

open scoped Samples

attribute [local instance] standardCbor_splitByteStrings

/-- Two of the four extension blocks are wanted, and a type that does not occur. -/
theorem relayedBundle_partsAgree : relayedBundle.PartsAgree 0 ∧
    ∃ written sent fuel found, relayedBundle.marshalCbor = .ok (written, sent) ∧
      PartialBundle.parsePartialBundle (.seekable 4096) fuel [77, 7, 10] written =
        .ok ⟨sent.fresh.primaryBlock, found⟩ ∧
      PartialBundle.FirstOfEach [77, 7, 10] sent.fresh.extensionBlocks found := by
  have agree := partsAgree_of_inFormat relayedBundle_inFormat ⟨by decide, by decide⟩
  refine ⟨agree, ?_⟩
  obtain ⟨written, sent, marshalled, -, -, parts⟩ := agree
  have short : written.length ≤ 4096 := by
    cases marshalled
    decide
  obtain ⟨fuel, found, parsed, firsts⟩ := parts (.seekable 4096) [77, 7, 10]
    ⟨by omega, fun limit same => by cases same; exact short⟩ (by decide) (by decide)
  exact ⟨written, sent, fuel, found, marshalled, parsed, firsts⟩

end RecDtn.Bpv7
