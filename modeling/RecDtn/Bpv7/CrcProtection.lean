import RecDtn.Bpv7.Parsing

/-! Which blocks of an accepted input had their CRC checked. -/

namespace RecDtn.Bpv7

open Wire Lang CRCType PrimaryBlock

section

variable [Cboring] [Crc16]

/-- The block carries a CRC field, and its value is the CRC over the bytes of
the block with that value zeroed. -/
def CanonicalBlock.CarriesCRC (start : List UInt8) (cb : CanonicalBlock) : Prop :=
  ∃ segments, HasSegments start cb segments ∧
    cb.crcType.checksum (segments.zeroed cb.crc) = .ok cb.crc

def PrimaryBlock.CarriesCRC (start : List UInt8) (pb : PrimaryBlock) : Prop :=
  ∃ segments, HasSegments start pb segments ∧
    pb.crcType.checksum (segments.zeroed pb.crc) = .ok pb.crc

/-- The array that starts here has room for a CRC field. -/
def CanonicalBlock.AnnouncesCRC (start : List UInt8) : Prop :=
  ∃ rest, Cboring.readArrayLength.run start = .ok 6 rest

def PrimaryBlock.AnnouncesCRC (start : List UInt8) : Prop :=
  ∃ length rest, Cboring.readArrayLength.run start = .ok length rest ∧
    (length = 9 ∨ length = 11)

/-- The bytes have the checksum that they would have with the heads that the CBOR
package writes: those of the array and of the CRC field. -/
def CanonicalBlock.HeadsImmaterial (start : List UInt8) (cb : CanonicalBlock) : Prop :=
  ∀ segments, HasSegments start cb segments → cb.crcType.checksum (segments.zeroed cb.crc) =
    cb.crcType.checksum (segments.rewritten (Cboring.writeArrayLength 6) cb.crc)

/-- The array head of a primary block is not replaced. -/
def PrimaryBlock.HeadsImmaterial (start : List UInt8) (pb : PrimaryBlock) : Prop :=
  ∀ segments, HasSegments start pb segments →
    pb.crcType.checksum (segments.zeroed pb.crc) = pb.crcType.checksum (segments.rewritten [] pb.crc)

namespace Layout

omit [Cboring] [Crc16] in
/-- What holds of the primary block and of the other ones, if they declare a CRC type. -/
def Declared (layout : Layout) (primary : Prop) (other : Placed → Prop) : Prop :=
  (layout.primary.crcType ≠ crcNo → primary) ∧
    ∀ placed ∈ layout.kept, placed.block.crcType ≠ crcNo → other placed

/-- Every block of the result that declares a CRC type carried its CRC. -/
def CRCProtected (layout : Layout) : Prop :=
  layout.Declared (layout.primary.CarriesCRC layout.primaryStart)
    fun placed => placed.block.CarriesCRC placed.start

/-- Every block of the result that declares a CRC type has the array length for it. -/
def CRCAnnounced (layout : Layout) : Prop :=
  layout.Declared (PrimaryBlock.AnnouncesCRC layout.primaryStart)
    fun placed => CanonicalBlock.AnnouncesCRC placed.start

def HeadsImmaterial (layout : Layout) : Prop :=
  layout.Declared (layout.primary.HeadsImmaterial layout.primaryStart)
    fun placed => placed.block.HeadsImmaterial placed.start

end Layout

/-- With the CRC over its fields, a CRC field is right exactly if its checksum does
not depend on the heads. -/
theorem CRCSegments.carries_iff (has : CRCSegments → Prop) {head crc : List UInt8}
    {crcType : CRCType}
    (unique : ∀ {segments other}, has segments → has other → segments = other)
    (calculated : ∀ {segments}, has segments →
      calculateCRCBuff (head ++ segments.fields) crcType = .ok crc) :
    (∃ segments, has segments ∧ crcType.checksum (segments.zeroed crc) = .ok crc) ↔
      (∃ segments, has segments) ∧ ∀ segments, has segments →
        crcType.checksum (segments.zeroed crc) = crcType.checksum (segments.rewritten head crc) := by
  constructor
  · rintro ⟨segments, placed, checksum⟩
    refine ⟨⟨segments, placed⟩, ?_⟩
    intro other again
    cases unique placed again
    exact checksum.trans (checksum_of_calculated (calculated placed)).symm
  · rintro ⟨⟨segments, placed⟩, agrees⟩
    exact ⟨segments, placed, (agrees segments placed).trans
      (checksum_of_calculated (calculated placed))⟩

variable {start rest : List UInt8}

theorem CanonicalBlock.carriesCRC_iff {cb : CanonicalBlock}
    (accepted : unmarshalCbor.run start = .ok cb rest) :
    cb.CarriesCRC start ↔ AnnouncesCRC start ∧ cb.HeadsImmaterial start := by
  have announces : (∃ segments, HasSegments start cb segments) ↔ AnnouncesCRC start := by
    constructor
    · rintro ⟨segments, afterHead, -, head, -⟩
      exact ⟨afterHead, head⟩
    · rintro ⟨afterHead, head⟩
      obtain ⟨segments, placed, -⟩ := exists_hasSegments accepted head
      exact ⟨segments, placed⟩
  rw [← announces]
  exact CRCSegments.carries_iff (HasSegments start cb) HasSegments.unique
    fun placed => placed.calculated accepted

theorem PrimaryBlock.carriesCRC_iff {pb : PrimaryBlock}
    (accepted : unmarshalCbor.run start = .ok pb rest) :
    pb.CarriesCRC start ↔ AnnouncesCRC start ∧ pb.HeadsImmaterial start := by
  have announces : (∃ segments, HasSegments start pb segments) ↔ AnnouncesCRC start := by
    constructor
    · rintro ⟨segments, placed⟩
      exact placed.long
    · rintro ⟨length, afterHead, head, long⟩
      obtain ⟨segments, placed, -⟩ := exists_hasSegments accepted head long
      exact ⟨segments, placed⟩
  rw [← announces]
  exact CRCSegments.carries_iff (HasSegments start pb) HasSegments.unique
    fun placed => placed.calculated accepted

variable [Ed25519]

theorem Bundle.layout_of_accepted {now : Time} {input : List UInt8}
    (accepted : (parseBundle now input).err = none) :
    ∃ layout rest, Layout.Of layout input rest ∧
      (parseBundle now input).bundle = layout.bundle ∧
      layout.bundle.checkValid now = .ok [] ∧ ∃ placed, layout.payload = some placed := by
  rcases parseBundle_cases now input with ⟨layout, rest, of⟩ | ⟨cause, failed⟩
  · have parsed := of.parseBundle now
    rw [parsed] at accepted ⊢
    rcases of.verdict_cases now with ⟨-, panics⟩ | ⟨held, causes, checked⟩
    · rw [panics] at accepted
      cases accepted
    · rw [checked] at accepted
      cases causes with
      | nil => exact ⟨layout, rest, of, rfl, checked, held⟩
      | cons cause later => cases accepted
  · rw [failed] at accepted
    cases accepted

/-- Of an accepted input, every block that declares a CRC type had that CRC
checked against its bytes exactly if every such block has the array length with a
CRC field, and a checksum that does not depend on how its heads are written. -/
theorem accepted_crcProtected_iff {now : Time} {input : List UInt8}
    (accepted : (Bundle.parseBundle now input).err = none) :
    ∃ layout rest, Layout.Of layout input rest ∧
      (Bundle.parseBundle now input).bundle = layout.bundle ∧
      (layout.CRCProtected ↔ layout.CRCAnnounced ∧ layout.HeadsImmaterial) := by
  obtain ⟨layout, rest, of, same, -, -⟩ := Bundle.layout_of_accepted accepted
  refine ⟨layout, rest, of, same, ?_⟩
  have blocks : ∀ placed ∈ layout.kept, placed.block.CarriesCRC placed.start ↔
      CanonicalBlock.AnnouncesCRC placed.start ∧ placed.block.HeadsImmaterial placed.start := by
    intro placed member
    obtain ⟨next, read⟩ := of.accepted placed member
    exact CanonicalBlock.carriesCRC_iff read
  obtain ⟨-, next, primary, -⟩ := of
  have first := carriesCRC_iff primary
  unfold Layout.CRCProtected Layout.CRCAnnounced Layout.HeadsImmaterial Layout.Declared
  rw [first]
  constructor
  · rintro ⟨head, others⟩
    have each := fun placed member declared =>
      (blocks placed member).mp (others placed member declared)
    exact ⟨⟨fun declared => (head declared).1,
      fun placed member declared => (each placed member declared).1⟩,
      fun declared => (head declared).2, fun placed member declared => (each placed member declared).2⟩
  · rintro ⟨⟨long, others⟩, heads, otherHeads⟩
    exact ⟨fun declared => ⟨long declared, heads declared⟩, fun placed member declared =>
      (blocks placed member).mpr ⟨others placed member declared, otherHeads placed member declared⟩⟩

end

open scoped Samples

/-- A bundle with a CRC-32 in its primary and a CRC-16 in its payload block. -/
def sealedInput : List UInt8 :=
  [0x9f, 0x89, 7, 4, 2, 0x82, 1, 0, 0x82, 1, 0, 0x82, 1, 0, 0x82, 1, 0, 0,
    0x44, 0x3c, 0xe5, 0x24, 0x26, 0x86, 1, 1, 0, 1, 0x41, 0x2a, 0x42, 0xcb, 0x60, 0xff]

theorem sealedInput_crcProtected_iff : ∃ layout rest, Layout.Of layout sealedInput rest ∧
    (Bundle.parseBundle 0 sealedInput).bundle = layout.bundle ∧
    (layout.CRCProtected ↔ layout.CRCAnnounced ∧ layout.HeadsImmaterial) :=
  accepted_crcProtected_iff (by decide +kernel)

/-- The primary block declares CRC-32, but its array ends without a CRC field. -/
def unsealedPrimary : List UInt8 :=
  [0x88, 7, 4, 2, 0x82, 1, 0, 0x82, 1, 0, 0x82, 1, 0, 0x82, 1, 0, 0]

def unsealedPayload : List UInt8 := [0x85, 1, 1, 0, 0, 0x40, 0xff]

theorem unsealed_accepted : ∃ layout : Layout,
    (Bundle.parseBundle 0 (0x9f :: (unsealedPrimary ++ unsealedPayload))).err = none ∧
      layout.Of (0x9f :: (unsealedPrimary ++ unsealedPayload)) [] ∧
      (Bundle.parseBundle 0 (0x9f :: (unsealedPrimary ++ unsealedPayload))).bundle =
      layout.bundle ∧ ¬layout.CRCProtected := by
  refine ⟨⟨unsealedPrimary ++ unsealedPayload,
    ⟨7, 4, crc32, .dtnNone, .dtnNone, .dtnNone, ⟨1, 0⟩, 0, 0, 0, []⟩,
    [⟨unsealedPayload, ⟨1, 0, crcNo, [], some (.payload [])⟩⟩]⟩, rfl,
    ⟨rfl, unsealedPayload, rfl, .block rfl (.stop rfl)⟩, rfl, ?_⟩
  rintro ⟨carries, -⟩
  obtain ⟨segments, ⟨-, blockLen, long, rest, -, fields, -⟩, -⟩ := carries (by decide)
  have read : (unmarshalFields ⟨unsealedPrimary ++ unsealedPayload, []⟩) =
      .ok (8, ⟨7, 4, crc32, .dtnNone, .dtnNone, .dtnNone, ⟨1, 0⟩, 0, 0, 0, []⟩)
        ⟨unsealedPayload, unsealedPrimary⟩ := rfl
  rw [read] at fields
  injection fields with pair
  injection pair with lengths
  subst lengths
  exact absurd long (by decide)

end RecDtn.Bpv7
