import RecDtn.Bpv7.Alike
import RecDtn.Bpv7.EndpointText
import RecDtn.Bpv7.Fragmentation

namespace RecDtn.Bpv7

open Wire Lang CRCType

/-- `DtnTimeFromTime`. The nanoseconds are an `int64`. -/
def dtnTimeFromTime (t : Time) : DtnTime :=
  (Int64.ofInt t / 1000000 - DtnTime.milliseconds1970To2k).toUInt64

/-- Reports go to the source, unless somebody else was named. -/
def PrimaryBlock.reporting (pb : PrimaryBlock) : PrimaryBlock :=
  if pb.reportTo = ⟨none⟩ then { pb with reportTo := pb.sourceNode } else pb

def newCanonicalBlock (no : UInt64) (bcf : BlockControlFlags) (value : ExtensionBlock) :
    CanonicalBlock :=
  ⟨no, bcf, crcNo, [], some value⟩

section

variable [Cboring] [Crc16]

/-- A primary block always has a CRC. An error of the calculation is dropped. -/
def PrimaryBlock.setCRCType (pb : PrimaryBlock) (crcType : CRCType) : PrimaryBlock :=
  let typed := { pb with crcType := if crcType = crcNo then crc32 else crcType, crc := [] }
  match typed.marshalCbor with
  | .ok (_, marshalled) => marshalled
  | .error _ => typed

def Bundle.setCRCType (b : Bundle) (crcType : CRCType) : Bundle where
  primaryBlock := b.primaryBlock.setCRCType crcType
  extensionBlocks := b.extensionBlocks.map fun cb => { cb with crcType := crcType }
  payloadBlock := { b.payloadBlock with crcType := crcType }

theorem PrimaryBlock.setCRCType_eq (pb : PrimaryBlock) (crcType : CRCType) :
    ∃ crc, pb.setCRCType crcType =
      { pb with crcType := if crcType = crcNo then crc32 else crcType, crc := crc } := by
  unfold setCRCType
  dsimp only
  split
  · rename_i bytes marshalled written
    obtain ⟨_, crc, -, -, rfl⟩ := marshalCbor_eq_ok.mp written
    exact ⟨_, rfl⟩
  · exact ⟨[], rfl⟩

theorem Bundle.checkValid_setCRCType [Ed25519] {b : Bundle}
    (unsigned : ∀ cb ∈ b.extensionBlocks, ∀ value,
      cb.value = some value → ∀ publicKey proof, value ≠ .signature publicKey proof) (crcType : CRCType) (now : Time) :
    (b.setCRCType crcType).checkValid now = b.checkValid now := by
  obtain ⟨crc, typed⟩ := b.primaryBlock.setCRCType_eq crcType
  have primary : (b.setCRCType crcType).primaryBlock = _ := typed
  have values : (b.setCRCType crcType).extensionBlocks.map CanonicalBlock.value =
      b.extensionBlocks.map CanonicalBlock.value := by
    rw [Bundle.setCRCType, List.map_map]
    rfl
  have blocks : checkBlocks ((b.setCRCType crcType).extensionBlocks ++
      [(b.setCRCType crcType).payloadBlock]) =
      checkBlocks (b.extensionBlocks ++ [b.payloadBlock]) := by
    rw [← checkBlocks_map (fun cb => { cb with crcType := crcType }) (fun _ => rfl)
      (b.extensionBlocks ++ [b.payloadBlock]), List.map_append]
    rfl
  have extensions : (b.setCRCType crcType).checkExtensions []
      (b.setCRCType crcType).extensionBlocks = b.checkExtensions [] b.extensionBlocks :=
    checkExtensions_map (fun cb => { cb with crcType := crcType }) (fun _ => rfl) (fun _ => rfl)
      (fun cb member value held => checkContextValid_values values (unsigned cb member value held)) []
  have timestamp : (b.setCRCType crcType).primaryBlock.creationTimestamp =
      b.primaryBlock.creationTimestamp := by
    rw [primary]
  have lifetime : (b.setCRCType crcType).primaryBlock.lifetime = b.primaryBlock.lifetime := by
    rw [primary]
  unfold checkValid
  rw [blocks, extensions, checkAge_congr timestamp values,
    isLifetimeExceeded_congr timestamp values lifetime, primary]
  rfl

end

structure BundleBuilder where
  err : Option GoError
  primary : PrimaryBlock
  canonicals : List CanonicalBlock
  canonicalCounter : UInt64
  payload : CanonicalBlock
  crcType : CRCType

namespace BundleBuilder

/-- `Builder`. -/
def new : BundleBuilder :=
  ⟨none, { PrimaryBlock.blank with version := dtnVersion }, [], 2, .blank, crcNo⟩

variable (bldr : BundleBuilder)

/-- A call does nothing after an error. -/
def unlessFailed (call : BundleBuilder → BundleBuilder) : BundleBuilder :=
  match bldr.err with
  | none => call bldr
  | some _ => bldr

def source (eid : EndpointID) : BundleBuilder :=
  bldr.unlessFailed fun bldr => { bldr with primary := { bldr.primary with sourceNode := eid } }

def destination (eid : EndpointID) : BundleBuilder :=
  bldr.unlessFailed fun bldr => { bldr with primary := { bldr.primary with destination := eid } }

def creationTimestamp (t : DtnTime) : BundleBuilder :=
  bldr.unlessFailed fun bldr =>
    { bldr with primary := { bldr.primary with creationTimestamp := ⟨t, 0⟩ } }

/-- `Lifetime`, of a duration in milliseconds. -/
def lifetime (ms : UInt64) : BundleBuilder :=
  bldr.unlessFailed fun bldr => { bldr with primary := { bldr.primary with lifetime := ms } }

/-- `Canonical`, of an extension block and its flags. -/
def canonical (data : ExtensionBlock) (blockCtrlFlags : BlockControlFlags) : BundleBuilder :=
  bldr.unlessFailed fun bldr =>
    if data.blockTypeCode = BlockType.payloadBlock then
      { bldr with payload := newCanonicalBlock 1 blockCtrlFlags data }
    else
      { bldr with
        canonicalCounter := bldr.canonicalCounter + 1
        canonicals := bldr.canonicals ++ [newCanonicalBlock bldr.canonicalCounter blockCtrlFlags data] }

def payloadBlock (data : List UInt8) : BundleBuilder := bldr.canonical (.payload data) 0

variable [Cboring] [Crc16] [Ed25519] [GoSort]

def build (now : Time) : Go Bundle := do
  Go.check bldr.err
  let primary := bldr.primary.reporting
  if primary.sourceNode = ⟨none⟩ ∨ primary.destination = ⟨none⟩ then
    .error (.error (.text "both Source and Destination must be set"))
  else
    let bndl : Bundle := ⟨primary, GoSort.sort canonicalBlockLess bldr.canonicals, bldr.payload⟩
    bndl.ensureValid now
    return bndl.setCRCType bldr.crcType

theorem payload_of_build {bldr : BundleBuilder} {now : Time} {bndl : Bundle}
    (built : bldr.build now = .ok bndl) : bndl.payloadBlock.value = bldr.payload.value := by
  obtain ⟨_, -, built⟩ := Go.bind_eq_ok.mp built
  dsimp only at built
  split at built
  · cases built
  · obtain ⟨_, -, built⟩ := Go.bind_eq_ok.mp built
    cases built
    rfl

end BundleBuilder

end RecDtn.Bpv7
