import RecDtn.Store.Effects

/-! What loading a file gives back. -/

namespace RecDtn.Bpv7

open Wire Lang CanonicalBlock List

variable [Cboring] [Crc16]

namespace Bundle

/-- Canonical blocks as the decoder makes them; the payload may be missing. -/
structure Gathered (b : Bundle) : Prop where
  extensions : ∀ cb ∈ b.extensionBlocks, cb.Faithful ∧ cb.isPayload = false
  payload : b.payloadBlock.value = none ∨ b.payloadBlock.Faithful ∧
    b.payloadBlock.isPayload = true

omit [Cboring] [Crc16] in
theorem Gathered.place {b placed : Bundle} {cb : CanonicalBlock} (gathered : b.Gathered)
    (faithful : cb.Faithful) (added : b.place cb = .ok placed) :
    placed.Gathered ∧ placed.primaryBlock = b.primaryBlock := by
  rw [place_of_present faithful.present] at added
  cases payload : cb.isPayload with
  | true =>
    rw [payload] at added
    cases added
    exact ⟨⟨gathered.extensions, .inr ⟨faithful, payload⟩⟩, rfl⟩
  | false =>
    rw [payload] at added
    cases added
    refine ⟨⟨?_, gathered.payload⟩, rfl⟩
    intro other member
    rcases mem_append.mp member with member | member
    · exact gathered.extensions other member
    · rw [mem_singleton.mp member]
      exact ⟨faithful, payload⟩

theorem Gathered.unmarshalBlocks {b : Bundle} (gathered : b.Gathered) (fuel : Nat)
    (input : List UInt8) : (unmarshalBlocks fuel b input).bundle.Gathered ∧
      (unmarshalBlocks fuel b input).bundle.primaryBlock = b.primaryBlock := by
  induction fuel generalizing b input with
  | zero => exact ⟨gathered, rfl⟩
  | succ fuel ih =>
    unfold Bundle.unmarshalBlocks
    split
    · exact ⟨gathered, rfl⟩
    · exact ⟨gathered, rfl⟩
    · exact ⟨gathered, rfl⟩
    · rename_i cb rest read
      split
      · rename_i placed added
        obtain ⟨next, primary⟩ := gathered.place (unmarshalCbor_faithful read) added
        obtain ⟨final, same⟩ := ih next rest
        exact ⟨final, same.trans primary⟩
      · exact ⟨gathered, rfl⟩

/-- Whatever the input, the parser leaves a primary block without further blocks, or
one that it has decoded with canonical blocks that it has decoded. -/
theorem parseBundle_gathered [Ed25519] (now : Time) (input : List UInt8) :
    (∃ filled, (parseBundle now input).bundle = ⟨filled, [], .blank⟩) ∨
      (parseBundle now input).bundle.primaryBlock.version = dtnVersion ∧
      (parseBundle now input).bundle.primaryBlock.EndpointsWellFormed ∧ (parseBundle now input).bundle.Gathered := by
  rcases parseBundle_bundle now input with ⟨filled, bare⟩ | ⟨start, primary, next, read, same⟩
  · exact .inl ⟨filled, bare⟩
  · have bare : Gathered ⟨primary, [], .blank⟩ := ⟨by simp, .inl rfl⟩
    obtain ⟨gathered, kept⟩ := bare.unmarshalBlocks (next.length + 1) next
    obtain ⟨version, formed⟩ := PrimaryBlock.unmarshalCbor_formed read
    rw [same, kept]
    exact .inr ⟨version, formed, gathered⟩

/-- What comes back from its encoding: blocks of the kinds the decoder makes,
with known CRC types, and fragment fields in fragments only. -/
structure Storable (b : Bundle) : Prop where
  faithful : b.Faithful
  crcTypes : b.CRCTypesKnown
  fragment : b.primaryBlock.FragmentFieldsFit

variable {b sent : Bundle} {written : List UInt8}

theorem crcTypesKnown_of_marshalCbor (encoded : b.marshalCbor = .ok (written, sent)) :
    b.CRCTypesKnown := by
  obtain ⟨primary, extensions, payload, head, middle, tail, -⟩ := marshalCbor_eq_ok.mp encoded
  have blocks : ∀ {blocks left : List CanonicalBlock} {bytes : List UInt8},
      marshalBlocks blocks = .ok (bytes, left) → ∀ cb ∈ blocks, cb.crcType.Known := by
    intro blocks
    induction blocks with
    | nil => simp
    | cons cb rest ih =>
      intro left bytes marshalled other member
      obtain ⟨_, _, _, _, first, later, -⟩ := marshalBlocks_cons.mp marshalled
      rcases mem_cons.mp member with rfl | member
      · exact CanonicalBlock.known_of_marshalCbor first
      · exact ih later other member
  refine ⟨PrimaryBlock.known_of_marshalCbor head, ?_⟩
  intro cb member
  rcases mem_append.mp member with member | member
  · exact blocks middle cb member
  · rw [mem_singleton.mp member]
    exact CanonicalBlock.known_of_marshalCbor tail

section

omit [Cboring] [Crc16]

/-- The kinds of the blocks do not depend on CRC values. -/
private theorem block_of_stripCRC {blocks others : List CanonicalBlock}
    {property : CanonicalBlock → Prop}
    (same : others.map CanonicalBlock.stripCRC = blocks.map CanonicalBlock.stripCRC)
    (stable : ∀ cb, property cb ↔ property cb.stripCRC)
    (holds : ∀ cb ∈ others, property cb) : ∀ cb ∈ blocks, property cb := by
  intro cb member
  have listed : cb.stripCRC ∈ others.map CanonicalBlock.stripCRC := by
    rw [same]
    exact List.mem_map_of_mem member
  obtain ⟨other, known, equal⟩ := mem_map.mp listed
  rw [stable, ← equal, ← stable]
  exact holds other known

/-- A bundle with a payload that differs from a decoded one in CRC values only
is as faithful as that. -/
theorem faithful_of_gathered {loaded : Bundle} (gathered : loaded.Gathered)
    (version : loaded.primaryBlock.version = dtnVersion)
    (endpoints : loaded.primaryBlock.EndpointsWellFormed) (same : loaded.stripCRC = b.stripCRC)
    (present : b.payloadBlock.Present) : b.Faithful := by
  have primary : loaded.primaryBlock.stripCRC = b.primaryBlock.stripCRC := congrArg primaryBlock same
  have payload : loaded.payloadBlock.stripCRC = b.payloadBlock.stripCRC := congrArg payloadBlock same
  have value : loaded.payloadBlock.stripCRC.value = b.payloadBlock.stripCRC.value :=
    congrArg CanonicalBlock.value payload
  change loaded.payloadBlock.value = b.payloadBlock.value at value
  refine ⟨?_, ?_, ?_, ?_⟩
  · exact (congrArg PrimaryBlock.version primary).symm.trans version
  · have formed : b.primaryBlock.stripCRC.EndpointsWellFormed := primary ▸ endpoints
    exact formed
  · exact block_of_stripCRC (congrArg extensionBlocks same) (fun _ => .rfl) gathered.extensions
  · obtain ⟨held, presence⟩ := present
    rcases gathered.payload with absent | ⟨faithful, kind⟩
    · rw [value, presence] at absent
      cases absent
    · constructor
      · obtain ⟨other, member, managed⟩ := faithful
        exact ⟨other, value ▸ member, managed⟩
      · rw [isPayload, ofType, ← value]
        exact kind

end

end Bundle

end RecDtn.Bpv7

namespace RecDtn.Store

open Wire Lang Bpv7 BundleStore

variable [Cboring] [Crc16] [Ed25519] {b sent : Bundle} {written : List UInt8}

/-- Loading what was stored gives the bundle back, up to CRC values. -/
theorem parsedBundle_of_storable (storable : b.Storable)
    (encoded : b.marshalCbor = .ok (written, sent))
    (now : Time) : ∃ loaded, parsedBundle now written = .ok loaded ∧
      loaded.stripCRC = b.stripCRC := by
  have parsed := Bundle.parseBundle_marshalCbor storable.faithful encoded now []
  rw [List.append_nil, Bundle.returned_of_fit storable.fragment encoded] at parsed
  have stripped := Bundle.marshalCbor_stripCRC encoded
  have same : sent.fresh.stripCRC = b.stripCRC := (Bundle.stripCRC_fresh sent).trans stripped
  have extensions : ∀ cb ∈ b.extensionBlocks, cb.Managed :=
    fun cb member => (storable.faithful.extensions cb member).1.managed
  obtain ⟨causes, checked⟩ :=
    Bundle.checkValid_total extensions storable.faithful.payload.1.present now
  rw [Bundle.checkValid_congr same, checked] at parsed
  refine ⟨sent.fresh, ?_, same⟩
  unfold parsedBundle
  rw [parsed]
  cases causes <;> rfl

theorem storable_of_parsedBundle {now later : Time} {loaded : Bundle}
    (valid : b.checkValid now = .ok [])
    (encoded : b.marshalCbor = .ok (written, sent)) (parsed : parsedBundle later written = .ok loaded)
    (same : loaded.stripCRC = b.stripCRC) : b.Storable := by
  have found : (Bundle.parseBundle later written).bundle = loaded := (parsedBundle_eq_ok.mp parsed).1
  have present : b.payloadBlock.Present :=
    CanonicalBlock.present_of_checkValid ((Bundle.checkValid_eq_nil.mp valid).2.1 _ (by simp))
  have faithful : b.Faithful := by
    rcases Bundle.parseBundle_gathered later written with ⟨_, bare⟩ | ⟨version,
      endpoints, gathered⟩
    · rw [found] at bare
      subst bare
      obtain ⟨value, held⟩ := present
      have absent := congrArg (fun bundle : Bundle => bundle.payloadBlock.value) same
      cases absent.trans held
    · rw [found] at version endpoints gathered
      exact Bundle.faithful_of_gathered gathered version endpoints same present
  refine ⟨faithful, Bundle.crcTypesKnown_of_marshalCbor encoded, ?_⟩
  have returned := Bundle.parseBundle_marshalCbor faithful encoded later []
  rw [List.append_nil] at returned
  rw [returned] at found
  -- The encoder drops the fragment fields of a bundle without the flag.
  have primary : sent.returned.stripCRC = b.stripCRC := by
    rw [← same, ← found]
  have flag := congrArg (fun bundle : Bundle => bundle.primaryBlock.hasFragmentation)
    (Bundle.marshalCbor_stripCRC encoded)
  have offset := congrArg (fun bundle : Bundle => bundle.primaryBlock.fragmentOffset) primary
  have length := congrArg (fun bundle : Bundle => bundle.primaryBlock.totalDataLength) primary
  change sent.primaryBlock.hasFragmentation = b.primaryBlock.hasFragmentation at flag
  change sent.primaryBlock.announced.fragmentOffset = b.primaryBlock.fragmentOffset at offset
  change sent.primaryBlock.announced.totalDataLength = b.primaryBlock.totalDataLength at length
  cases fragment : b.primaryBlock.hasFragmentation with
  | true => exact .inl fragment
  | false =>
    rw [fragment] at flag
    simp only [PrimaryBlock.announced, flag, Bool.false_eq_true, ↓reduceIte] at offset length
    exact .inr ⟨offset.symm, length.symm⟩

end RecDtn.Store

namespace RecDtn.Bpv7

open Wire Lang

variable [Cboring] [Crc16] [Ed25519]

/-- Every CRC field that is there holds the CRC that the decoder calculates. -/
def Layout.CRCVerified (layout : Layout) : Prop :=
  (∀ segments, PrimaryBlock.HasSegments layout.primaryStart layout.primary segments →
    calculateCRCBuff segments.fields layout.primary.crcType = .ok layout.primary.crc) ∧
    ∀ placed ∈ layout.kept, ∀ segments,
      CanonicalBlock.HasSegments placed.start placed.block segments →
      calculateCRCBuff (Cboring.writeArrayLength 6 ++ segments.fields) placed.block.crcType =
        .ok placed.block.crc

omit [Ed25519] in
theorem Layout.Of.crcVerified {layout : Layout} {input rest : List UInt8}
    (of : layout.Of input rest) : layout.CRCVerified := by
  constructor
  · intro segments has
    obtain ⟨-, next, primary, -⟩ := of
    exact has.calculated primary
  · intro placed member segments has
    obtain ⟨next, read⟩ := of.accepted placed member
    exact has.calculated read

namespace Bundle

/-- The content has all of the bundle, with the CRCs that are calculated for it,
and the bundle is valid. -/
def AcceptedFrom (now : Time) (content : List UInt8) (bundle : Bundle) : Prop :=
  ∃ layout rest, Layout.Of layout content rest ∧ layout.CRCVerified ∧
    bundle = layout.bundle ∧ bundle.checkValid now = .ok []

/-- What the parser fills in is the bundle of the content if there is no error. -/
theorem acceptedFrom_parseBundle_iff (now : Time) (content : List UInt8) :
    AcceptedFrom now content (parseBundle now content).bundle ↔
      (parseBundle now content).err = none := by
  constructor
  · rintro ⟨layout, rest, of, -, same, valid⟩
    rw [same] at valid
    rw [of.parseBundle now, valid]
    rfl
  · intro accepted
    obtain ⟨layout, rest, of, same, valid, -⟩ := layout_of_accepted accepted
    rw [same]
    exact ⟨layout, rest, of, of.crcVerified, rfl, valid⟩

end Bundle

end RecDtn.Bpv7

namespace RecDtn.Store

open Wire Lang Bpv7

section

variable [Cboring] [Crc16] [Ed25519]

namespace BundleStore

variable [Sha256] [Badgerhold] {bst : BundleStore} {now : Time} {ref : Ref}

/-- A bundle that is loaded without an error is the one in the file, and what the
parser has against the file is reported as an error. -/
def LoadsSoundly (bst : BundleStore) (now : Time) (ref : Ref) : Prop :=
  (∀ bundle, bst.load now ref = .ok bundle →
    ∃ content, bst.FileOf ref content ∧ Bundle.AcceptedFrom now content bundle) ∧
    ∀ content, bst.FileOf ref content → (Bundle.parseBundle now content).err ≠ none →
      ∃ cause, bst.load now ref = .error (.error cause)

/-- The parser has nothing against the file, if there is one. -/
def FileParses (bst : BundleStore) (now : Time) (ref : Ref) : Prop :=
  ∀ content, bst.FileOf ref content → (Bundle.parseBundle now content).err = none

/-- Since the error of the parser is dropped, only files without one are loaded
soundly. -/
theorem loadsSoundly_iff_fileParses : bst.LoadsSoundly now ref ↔ bst.FileParses now ref := by
  constructor
  · rintro ⟨-, reported⟩ content file
    by_contra failed
    obtain ⟨cause, failure⟩ := reported content file failed
    rw [load_of_fileOf file] at failure
    exact parsedBundle_ne_error failure
  · intro parses
    constructor
    · intro bundle loaded
      obtain ⟨content, file, parsed⟩ := load_eq_ok.mp loaded
      obtain ⟨rfl, -⟩ := parsedBundle_eq_ok.mp parsed
      exact ⟨content, file, (Bundle.acceptedFrom_parseBundle_iff now content).mpr (parses content file)⟩
    · intro content file failed
      exact absurd (parses content file) failed

end BundleStore

end

open BundleStore

open scoped Samples

/-- A store with one bundle, and with this content in its file. -/
def holdingFile (content : List UInt8) : BundleStore :=
  let bst := BundleStore.empty (nodeEndpoint "broker")
  let metadata := bst.newMetadata relayedBundle none
  (bst.withDescriptor metadata).writeFile metadata.serialisedFileName content

/-- The file has been cut off after the primary block. The bundle that is loaded
without an error has no payload, and whoever encodes it panics. -/
theorem cutOff_not_loadsSoundly :
    (∃ bundle, (holdingFile primaryOnly.dropLast).load 0 0 = .ok bundle ∧
    bundle.payloadBlock.value = none ∧ bundle.marshalCbor = .error .panic) ∧
    ¬(holdingFile primaryOnly.dropLast).LoadsSoundly 0 0 := by
  have file : (holdingFile primaryOnly.dropLast).FileOf 0 primaryOnly.dropLast :=
    ⟨_, rfl, rfl, AList.lookup_insert _⟩
  have loaded : (holdingFile primaryOnly.dropLast).load 0 0 =
      .ok (Bundle.parseBundle 0 primaryOnly.dropLast).bundle := load_of_fileOf file
  refine ⟨⟨_, loaded, rfl, rfl⟩, ?_⟩
  rintro ⟨sound, -⟩
  obtain ⟨content, same, accepted⟩ := sound _ loaded
  rw [← file.unique same, Bundle.acceptedFrom_parseBundle_iff] at accepted
  cases accepted

end RecDtn.Store
