import RecDtn.Bpv7.CrcProtection
import RecDtn.Bpv7.Encoding

/-! Which bundles survive encoding and parsing. -/

namespace RecDtn.Bpv7

open Wire Lang CRCType CanonicalBlock List Bpv7.Bundle PrimaryBlock

section

namespace Bundle

private theorem isPayload_of_code {cb : CanonicalBlock} {value : ExtensionBlock}
    (present : cb.value = some value) :
    cb.isPayload = decide (value.blockTypeCode = BlockType.payloadBlock) := by
  simp [isPayload, ofType, present]

end Bundle

variable [Cboring] [Crc16] [Ed25519] {blocks left : List CanonicalBlock} {sent : Bundle}

namespace Bundle

omit [Ed25519] in
private theorem marshalBlocks_stripCRC (marshalled : marshalBlocks blocks = .ok (bytes, left)) :
    left.map CanonicalBlock.stripCRC = blocks.map CanonicalBlock.stripCRC := by
  induction blocks generalizing bytes left with
  | nil =>
    cases marshalled
    rfl
  | cons cb rest ih =>
    obtain ⟨first, sealed, later, others, head, tail, rfl, rfl⟩ :=
      marshalBlocks_cons.mp marshalled
    obtain ⟨_, _, -, -, rfl⟩ := CanonicalBlock.marshalCbor_eq_ok.mp head
    rw [map_cons, map_cons, ih tail]
    rfl

omit [Ed25519] in
theorem marshalCbor_stripCRC {b : Bundle} (marshalled : b.marshalCbor = .ok (written, sent)) :
    sent.stripCRC = b.stripCRC := by
  obtain ⟨_, _, _, head, middle, tail, -⟩ := marshalCbor_eq_ok.mp marshalled
  obtain ⟨_, _, -, -, primary⟩ := PrimaryBlock.marshalCbor_eq_ok.mp head
  obtain ⟨_, _, -, -, payload⟩ := CanonicalBlock.marshalCbor_eq_ok.mp tail
  unfold stripCRC
  rw [primary, marshalBlocks_stripCRC middle, payload]
  rfl

def CRCTypesKnown (b : Bundle) : Prop :=
  b.primaryBlock.crcType.Known ∧ ∀ cb ∈ b.extensionBlocks ++ [b.payloadBlock], cb.crcType.Known

theorem marshalCbor_of_known {b : Bundle} {now : Time}
    (extensions : ∀ cb ∈ b.extensionBlocks, cb.Managed) (payload : b.payloadBlock.Managed)
    (known : b.CRCTypesKnown) (valid : b.checkValid now = .ok []) :
    ∃ written sent, b.marshalCbor = .ok (written, sent) := by
  obtain ⟨validPrimary, validBlocks, -⟩ := checkValid_eq_nil.mp valid
  obtain ⟨knownPrimary, knownBlocks⟩ := known
  obtain ⟨primary, first, head⟩ := PrimaryBlock.marshalCbor_of_known knownPrimary validPrimary
  obtain ⟨bytes, others, middle⟩ := marshalBlocks_of_each fun cb member =>
    CanonicalBlock.marshalCbor_of_known (extensions cb member) (knownBlocks cb (by simp [member]))
      (validBlocks cb (by simp [member]))
  obtain ⟨last, sealed, tail⟩ := CanonicalBlock.marshalCbor_of_known payload
    (knownBlocks _ (by simp)) (validBlocks _ (by simp))
  exact ⟨_, ⟨first, others, sealed⟩,
    marshalCbor_eq_ok.mpr ⟨primary, bytes, last, head, middle, tail, rfl⟩⟩

/-- The bundle with the CRC values its CRC types announce. -/
def fresh (sent : Bundle) : Bundle :=
  ⟨sent.primaryBlock.fresh, sent.extensionBlocks.map CanonicalBlock.fresh,
    sent.payloadBlock.fresh⟩

/-- Parsing undoes encoding: whatever follows the encoding is left over, and the
result differs from the bundle only by the CRC values the encoder computed. -/
def RoundTrips (b : Bundle) (now : Time) : Prop :=
  ∃ written sent, b.marshalCbor = .ok (written, sent) ∧ sent.stripCRC = b.stripCRC ∧
    ∀ suffix, parseBundle now (written ++ suffix) = ⟨sent.fresh, none, suffix⟩

/-- A valid bundle of the format: known CRC types, a payload, extension blocks
of the registered types or generic ones, and fragment fields only in a fragment. -/
structure InFormat (b : Bundle) (now : Time) : Prop where
  valid : b.checkValid now = .ok []
  crcTypes : b.CRCTypesKnown
  payload : ∃ data, b.payloadBlock.value = some (.payload data)
  extensions : ∀ cb ∈ b.extensionBlocks, ∃ value, cb.value = some value ∧ value.Managed ∧
    value.blockTypeCode ≠ BlockType.payloadBlock
  fragment : b.primaryBlock.FragmentFieldsFit

/-- The endpoints of the primary block and of Previous Node Blocks survive
their encoding. -/
def EndpointsWellFormed (b : Bundle) : Prop :=
  b.primaryBlock.EndpointsWellFormed ∧
    ∀ cb ∈ b.extensionBlocks, ∀ value ∈ cb.value, value.EndpointsWellFormed

variable {b sent : Bundle} {now : Time}

theorem InFormat.faithful (format : b.InFormat now) (formed : b.EndpointsWellFormed) :
    b.Faithful := by
  obtain ⟨data, payload⟩ := format.payload
  refine ⟨(PrimaryBlock.checkValid_eq_nil.mp (checkValid_eq_nil.mp format.valid).1).1,
    formed.1, ?_, ?_⟩
  · intro cb member
    obtain ⟨value, present, managed, other⟩ := format.extensions cb member
    exact ⟨⟨value, present, managed, formed.2 cb member value present⟩,
      by rw [isPayload_of_code present]; exact decide_eq_false other⟩
  · exact ⟨⟨_, payload, trivial, trivial⟩, by rw [isPayload_of_code payload]; rfl⟩

omit [Ed25519] in
theorem returned_of_fit (fit : b.primaryBlock.FragmentFieldsFit)
    (marshalled : b.marshalCbor = .ok (written, sent)) : sent.returned = sent.fresh := by
  obtain ⟨_, _, _, head, -⟩ := marshalCbor_eq_ok.mp marshalled
  obtain ⟨_, _, -, -, primary⟩ := PrimaryBlock.marshalCbor_eq_ok.mp head
  have kept : sent.primaryBlock.FragmentFieldsFit := by
    rw [primary]
    exact fit
  rw [returned, kept.announced, fresh]

omit [Cboring] [Crc16] [Ed25519] in
theorem stripCRC_fresh (sent : Bundle) : sent.fresh.stripCRC = sent.stripCRC := by
  simp only [fresh, stripCRC, map_map]
  rfl

/-- The bundle that comes back is valid at the same time. -/
theorem InFormat.fresh_valid (format : b.InFormat now)
    (marshalled : b.marshalCbor = .ok (written, sent)) : sent.fresh.checkValid now = .ok [] := by
  rw [checkValid_congr ((stripCRC_fresh sent).trans (marshalCbor_stripCRC marshalled)), format.valid]

theorem InFormat.roundTrips (format : b.InFormat now) (formed : b.EndpointsWellFormed) :
    b.RoundTrips now := by
  have faithful := format.faithful formed
  obtain ⟨written, sent, marshalled⟩ := marshalCbor_of_known
    (fun cb member => (faithful.extensions cb member).1.managed)
      faithful.payload.1.managed format.crcTypes
    format.valid
  refine ⟨written, sent, marshalled, marshalCbor_stripCRC marshalled, fun suffix => ?_⟩
  rw [parseBundle_marshalCbor faithful marshalled, returned_of_fit format.fragment marshalled,
    format.fresh_valid marshalled]
  rfl

theorem endpointsWellFormed_of_accepted {input : List UInt8}
    (accepted : (parseBundle now input).err = none) :
    (parseBundle now input).bundle.EndpointsWellFormed := by
  obtain ⟨layout, rest, of, same, -, -⟩ := layout_of_accepted accepted
  have faithful := of.faithful
  obtain ⟨-, next, primary, -⟩ := of
  rw [same]
  refine ⟨(unmarshalCbor_formed primary).2, ?_⟩
  intro cb member value present
  obtain ⟨other, held, -, formed⟩ := faithful cb member
  have equal : other = value := by simpa [Option.mem_def.mp held] using present
  exact equal ▸ formed

omit [Cboring] [Crc16] [Ed25519] in
theorem EndpointsWellFormed.stripCRC {first second : Bundle} (formed : first.EndpointsWellFormed)
    (same : first.stripCRC = second.stripCRC) : second.EndpointsWellFormed := by
  have primary : first.primaryBlock.stripCRC = second.primaryBlock.stripCRC :=
    congrArg primaryBlock same
  have blocks := congrArg extensionBlocks same
  refine ⟨?_, ?_⟩
  · have formedSecond : second.primaryBlock.stripCRC.EndpointsWellFormed := primary ▸ formed.1
    exact formedSecond
  · intro cb member value present
    have listed : cb.stripCRC ∈ first.stripCRC.extensionBlocks := by
      rw [blocks]
      exact mem_map_of_mem member
    obtain ⟨other, known, equal⟩ := mem_map.mp listed
    have values : other.stripCRC.value = cb.stripCRC.value := congrArg CanonicalBlock.value equal
    exact formed.2 other known value (values ▸ present)

end Bundle

/-- A bundle of the format is restored from its encoding exactly if the decoder
can produce its endpoints. -/
theorem roundTrips_iff {b : Bundle} {now : Time} (format : b.InFormat now) :
    b.RoundTrips now ↔ b.EndpointsWellFormed := by
  constructor
  · rintro ⟨written, sent, -, same, parsed⟩
    have accepted : (Bundle.parseBundle now (written ++ [])).err = none := by rw [parsed]
    have formed := endpointsWellFormed_of_accepted accepted
    rw [parsed] at formed
    exact formed.stripCRC ((stripCRC_fresh sent).trans same)
  · exact format.roundTrips

/-- The CRC value is the one the encoder computes for the block; without a CRC
type there is none. -/
def CanonicalBlock.CRCCurrent (cb : CanonicalBlock) : Prop :=
  ∃ fields, cb.marshalFields = .ok fields ∧ calculateCRCBuff fields cb.crcType = .ok cb.crc

def PrimaryBlock.CRCCurrent (pb : PrimaryBlock) : Prop :=
  ∃ fields, pb.marshalFields = .ok fields ∧ calculateCRCBuff fields pb.crcType = .ok pb.crc

/-- Encoding the bundle and parsing the encoding gives the same bundle. -/
def Bundle.Restored (b : Bundle) (now : Time) : Prop :=
  ∃ written sent, b.marshalCbor = .ok (written, sent) ∧
    Bundle.parseBundle now written = ⟨b, none, []⟩

/-- The blocks of the result have known CRC types and the CRC values of their
shortest encoding, and fragment fields only come with the fragment flag. -/
def Layout.Canonical (layout : Layout) : Prop :=
  layout.primary.FragmentFieldsFit ∧ layout.primary.CRCCurrent ∧
    ∀ placed ∈ layout.kept, placed.block.CRCCurrent

section

omit [Ed25519]

variable {crcType : CRCType} {fields : List UInt8} {appended : Option (List UInt8)}
  {cb : CanonicalBlock} {pb : PrimaryBlock}

private theorem crc_current_iff {crc : List UInt8}
    (sealed : appendCRC crcType fields = .ok (written, appended)) :
    calculateCRCBuff fields crcType = .ok crc ↔ appended.getD [] = crc := by
  rcases appendCRC_eq_ok.mp sealed with ⟨rfl, -, rfl⟩ | ⟨-, crcVal, calculated, -, rfl⟩
  · simp [calculateCRCBuff_no]
  · simp [calculated]

private theorem hasCRC_of_sealed (sealed : appendCRC crcType fields = .ok (written, appended)) :
    (crcType != crcNo) = appended.isSome := by
  rcases appendCRC_eq_ok.mp sealed with ⟨rfl, -, rfl⟩ | ⟨other, _, -, -, rfl⟩
  · rfl
  · simpa using other

theorem CanonicalBlock.fresh_eq_self_iff {left : CanonicalBlock}
    (marshalled : cb.marshalCbor = .ok (written, left)) : left.fresh = cb ↔ cb.CRCCurrent := by
  obtain ⟨fields, appended, first, sealed, rfl⟩ := marshalCbor_eq_ok.mp marshalled
  have current : cb.CRCCurrent ↔ appended.getD [] = cb.crc := by
    simp [CRCCurrent, first, crc_current_iff sealed]
  have returned : ({ cb with crc := appended.getD cb.crc } : CanonicalBlock).fresh =
      { cb with crc := appended.getD [] } := by
    have announced : cb.hasCRC = appended.isSome := hasCRC_of_sealed sealed
    cases appended <;> simp_all [fresh, hasCRC]
  rw [current, returned]
  cases cb
  simp

theorem PrimaryBlock.returned_eq_self_iff {left : PrimaryBlock}
    (marshalled : pb.marshalCbor = .ok (written, left)) :
    left.announced.fresh = pb ↔ pb.FragmentFieldsFit ∧ pb.CRCCurrent := by
  obtain ⟨fields, appended, first, sealed, rfl⟩ := marshalCbor_eq_ok.mp marshalled
  have current : pb.CRCCurrent ↔ appended.getD [] = pb.crc := by
    simp [CRCCurrent, first, crc_current_iff sealed]
  have returned : ({ pb with crc := appended.getD pb.crc } : PrimaryBlock).announced.fresh =
      { pb.announced with crc := appended.getD [] } := by
    have announced : pb.hasCRC = appended.isSome := hasCRC_of_sealed sealed
    by_cases fragment : pb.hasFragmentation = true
    · cases appended <;> simp_all [fresh, hasCRC, PrimaryBlock.announced, hasFragmentation]
    · cases appended <;> simp_all [fresh, hasCRC, PrimaryBlock.announced, hasFragmentation]
  rw [current, returned]
  by_cases fragment : pb.hasFragmentation = true
  · simp only [PrimaryBlock.announced, fragment, ↓reduceIte, FragmentFieldsFit, true_or, true_and]
    cases pb
    simp
  · simp only [PrimaryBlock.announced, fragment, FragmentFieldsFit, Bool.false_eq_true,
      ↓reduceIte, false_or]
    cases pb
    simp [and_assoc, eq_comm]

theorem CanonicalBlock.CRCCurrent.known (current : cb.CRCCurrent) : cb.crcType.Known := by
  obtain ⟨fields, -, calculated⟩ := current
  exact (calculateCRCBuff_known _ _).mp ⟨_, calculated⟩

theorem PrimaryBlock.CRCCurrent.known (current : pb.CRCCurrent) : pb.crcType.Known := by
  obtain ⟨fields, -, calculated⟩ := current
  exact (calculateCRCBuff_known _ _).mp ⟨_, calculated⟩

end

namespace Bundle

omit [Ed25519] in
private theorem blocks_eq_self_iff (marshalled : marshalBlocks blocks = .ok (bytes, left)) :
    left.map CanonicalBlock.fresh = blocks ↔ ∀ cb ∈ blocks, cb.CRCCurrent := by
  induction blocks generalizing bytes left with
  | nil =>
    cases marshalled
    simp
  | cons cb rest ih =>
    obtain ⟨first, sealed, later, others, head, tail, rfl, rfl⟩ :=
      marshalBlocks_cons.mp marshalled
    rw [map_cons, List.cons.injEq, fresh_eq_self_iff head, ih tail, forall_mem_cons]

omit [Ed25519] in
/-- A bundle comes back unchanged exactly if its fields are those of its encoding. -/
theorem returned_eq_self_iff {b : Bundle} (marshalled : b.marshalCbor = .ok (written, sent)) :
    sent.returned = b ↔ b.primaryBlock.FragmentFieldsFit ∧ b.primaryBlock.CRCCurrent ∧
      ∀ cb ∈ b.extensionBlocks ++ [b.payloadBlock], cb.CRCCurrent := by
  obtain ⟨_, _, _, head, middle, tail, -⟩ := marshalCbor_eq_ok.mp marshalled
  have parts : sent.returned = b ↔ sent.primaryBlock.announced.fresh = b.primaryBlock ∧
      sent.extensionBlocks.map CanonicalBlock.fresh = b.extensionBlocks ∧
      sent.payloadBlock.fresh = b.payloadBlock := by
    cases b
    simp [returned]
  rw [parts, PrimaryBlock.returned_eq_self_iff head, blocks_eq_self_iff middle,
    fresh_eq_self_iff tail]
  simp only [mem_append, mem_singleton, or_imp, forall_and, forall_eq, and_assoc]

end Bundle

namespace Layout

variable {layout : Layout} {input rest : List UInt8} {placed : Placed}

omit [Cboring] [Crc16] [Ed25519] in
theorem blocks_of_kept (held : layout.payload = some placed) :
    layout.bundle.extensionBlocks ++ [layout.bundle.payloadBlock] = layout.kept.map Placed.block := by
  simp [bundle, kept, held]

omit [Ed25519] in
theorem Of.bundle_faithful (of : layout.Of input rest) (held : layout.payload = some placed) :
    layout.bundle.Faithful := by
  have extensions := of.faithful
  obtain ⟨same, payload⟩ := of.payload_faithful held
  obtain ⟨-, next, primary, -⟩ := of
  obtain ⟨version, formed⟩ := unmarshalCbor_formed primary
  refine ⟨version, formed, ?_, ?_⟩
  · intro cb member
    obtain ⟨entry, listed, rfl⟩ := mem_map.mp member
    exact ⟨extensions _ member, by simpa using (mem_filter.mp listed).2⟩
  · rw [same]
    exact ⟨payload, by simpa using (mem_filter.mp (mem_of_getLast? held)).2⟩

end Layout

/-- An accepted input gives a bundle that can be stored and loaded back
unchanged exactly if the input was canonical in this sense. -/
theorem accepted_restored_iff {now : Time} {input : List UInt8}
    (accepted : (Bundle.parseBundle now input).err = none) :
    ∃ layout rest, Layout.Of layout input rest ∧
      (Bundle.parseBundle now input).bundle = layout.bundle ∧
      (layout.bundle.Restored now ↔ layout.Canonical) := by
  obtain ⟨layout, rest, of, same, valid, placed, held⟩ := layout_of_accepted accepted
  refine ⟨layout, rest, of, same, ?_⟩
  have faithful := of.bundle_faithful held
  have blocks : (∀ entry ∈ layout.kept, entry.block.CRCCurrent) ↔
      ∀ cb ∈ layout.bundle.extensionBlocks ++ [layout.bundle.payloadBlock], cb.CRCCurrent := by
    rw [Layout.blocks_of_kept held, forall_mem_map]
  have primary : layout.bundle.primaryBlock = layout.primary := rfl
  unfold Layout.Canonical
  rw [blocks, ← primary]
  constructor
  · rintro ⟨written, sent, marshalled, parsed⟩
    have again := parseBundle_marshalCbor faithful marshalled now []
    rw [append_nil, parsed] at again
    exact (Bundle.returned_eq_self_iff marshalled).mp (congrArg Bundle.Parsed.bundle again).symm
  · rintro ⟨fit, current, others⟩
    obtain ⟨written, sent, marshalled⟩ := Bundle.marshalCbor_of_known
      (fun cb member => (faithful.extensions cb member).1.managed) faithful.payload.1.managed
      ⟨current.known, fun cb member => (others cb member).known⟩ valid
    have returned := (Bundle.returned_eq_self_iff marshalled).mpr ⟨fit, current, others⟩
    have again := parseBundle_marshalCbor faithful marshalled now []
    rw [append_nil, returned, valid] at again
    exact ⟨written, sent, marshalled, again⟩

end

open scoped Samples

def relayedBundle : Bundle :=
  ⟨primaryTo (nodeEndpoint "executor") crc32,
    [⟨2, 0, crc16, [], some (.previousNode (nodeEndpoint "relay"))⟩,
      ⟨3, 0, crcNo, [], some (.hopCount 8 1)⟩,
      ⟨4, 0, crcNo, [], some (.recBundleType 3)⟩,
      ⟨5, 0, crcNo, [], some (.generic [1, 2] 77)⟩],
    ⟨1, 0, crc16, [], some (.payload [42])⟩⟩

theorem relayedBundle_inFormat : relayedBundle.InFormat 0 where
  valid := rfl
  crcTypes := ⟨by decide, by decide⟩
  payload := ⟨[42], rfl⟩
  extensions := by
    intro cb member
    simp only [relayedBundle, mem_cons, not_mem_nil, or_false] at member
    rcases member with rfl | rfl | rfl | rfl <;> exact ⟨_, rfl, by decide, by decide⟩
  fragment := by decide

theorem relayedBundle_roundTrips_iff :
    relayedBundle.RoundTrips 0 ↔ relayedBundle.EndpointsWellFormed :=
  roundTrips_iff relayedBundle_inFormat

/-- A destination whose node name holds a slash passes its check, because the
regexp is not anchored there. -/
def slashedBundle : Bundle :=
  ⟨primaryTo (nodeEndpoint "a/b") crcNo, [], ⟨1, 0, crcNo, [], some (.payload [])⟩⟩

theorem slashedBundle_not_roundTrips : slashedBundle.InFormat 0 ∧ ¬slashedBundle.RoundTrips 0 := by
  refine ⟨⟨rfl, ⟨by decide, by decide⟩,
    ⟨[], rfl⟩, by simp [slashedBundle], by decide⟩, ?_⟩
  rintro ⟨written, sent, marshalled, same, parsed⟩
  have split : (Bundle.parseBundle 0 written).bundle.primaryBlock.destination =
      ⟨some (.dtn ⟨ascii "a", ascii "b/", false⟩)⟩ := by
    cases marshalled
    rfl
  have kept : (Bundle.parseBundle 0 written).bundle.primaryBlock.destination =
      nodeEndpoint "a/b" := by
    have whole := parsed []
    rw [append_nil] at whole
    rw [whole]
    cases marshalled
    rfl
  rw [kept] at split
  exact absurd split (by decide)

theorem sealedInput_restored_iff : ∃ layout rest, Layout.Of layout sealedInput rest ∧
    (Bundle.parseBundle 0 sealedInput).bundle = layout.bundle ∧
    (layout.bundle.Restored 0 ↔ layout.Canonical) :=
  accepted_restored_iff (by decide +kernel)

/-- An array of ten elements with an offset and a total length, but without the
fragment flag. -/
def unflaggedFragment : List UInt8 :=
  [0x9f, 0x8a, 7, 4, 0, 0x82, 1, 0, 0x82, 1, 0, 0x82, 1, 0, 0x82, 1, 0, 0, 5, 9,
    0x85, 1, 1, 0, 0, 0x40, 0xff]

theorem unflaggedFragment_not_restored :
    (Bundle.parseBundle 0 unflaggedFragment).err = none ∧
      ¬(Bundle.parseBundle 0 unflaggedFragment).bundle.Restored 0 := by
  refine ⟨rfl, ?_⟩
  rintro ⟨written, sent, marshalled, parsed⟩
  have dropped : (Bundle.parseBundle 0 written).bundle.primaryBlock.fragmentOffset = 0 := by
    cases marshalled
    rfl
  have offset : (Bundle.parseBundle 0 unflaggedFragment).bundle.primaryBlock.fragmentOffset = 5 := rfl
  rw [parsed] at dropped
  rw [dropped] at offset
  exact absurd offset (by decide)

end RecDtn.Bpv7
