import RecDtn.Bpv7.Bundle
import RecDtn.Lang.Runtime

namespace RecDtn.Bpv7

open Wire Lang BundleControlFlags

/-- `canonicalBlockNumberSort.Less`: the number of the payload block comes last. -/
def canonicalBlockLess (first second : CanonicalBlock) : Bool :=
  if first.blockNumber = BlockType.payloadBlock then false
  else if second.blockNumber = BlockType.payloadBlock then true
  else first.blockNumber < second.blockNumber

namespace Bundle

/-- The first number from `blockNumber` on that is not taken. Fewer numbers are
taken than there are rounds. -/
def freeNumber (blockNumbers : List UInt64) : Nat → UInt64 → Go UInt64
  | 0, _ => .error .spin
  | rounds + 1, blockNumber =>
    if blockNumber ∈ blockNumbers then freeNumber blockNumbers rounds (blockNumber + 1)
      else .ok blockNumber

/-- `Value.(*PayloadBlock).Data()` of the payload block. -/
def payloadData (b : Bundle) : Go (List UInt8) :=
  match b.payloadBlock.value with
  | some (.payload data) => .ok data
  | _ => .error .panic

variable [GoSort]

def addExtensionBlock (b : Bundle) (block : CanonicalBlock) : Go Bundle := do
  let blockNumbers := b.extensionBlocks.map CanonicalBlock.blockNumber
  let typeCode ← block.typeCode
  let blockNumber ← freeNumber blockNumbers (blockNumbers.length + 1)
    (if typeCode = BlockType.payloadBlock then 1 else 2)
  let extended := b.extensionBlocks ++ [{ block with blockNumber := blockNumber }]
  return { b with extensionBlocks := GoSort.sort canonicalBlockLess extended }

def addExtensionBlocks (b : Bundle) (blocks : List CanonicalBlock) : Go Bundle :=
  blocks.foldlM addExtensionBlock b

end Bundle

section Fragment

variable [Cboring] [Crc16]

/-- The primary block of a fragment, and its encoded length. -/
def fragmentPrimaryBlock (pb : PrimaryBlock) (fragmentOffset totalDataLength : Nat) :
    Go (PrimaryBlock × Nat) := do
  let fragPb := { pb with
    bundleControlFlags := pb.bundleControlFlags ||| isFragment
    fragmentOffset := fragmentOffset.toUInt64
    totalDataLength := totalDataLength.toUInt64
    crc := [] }
  let marshalled ← fragPb.marshalCbor
  return (marshalled.2, marshalled.1.length)

/-- The length field of a byte string of `mtu` bytes, beyond the byte that an
empty one takes already. -/
def lengthField (mtu : Int) : Int := (Cboring.writeByteStringLen (uint64Of mtu)).length - 1

/-- What one extension block adds to the first and to the other fragments. -/
def extensionBlockLen (mtu : Int) (eb : CanonicalBlock) : Go (Int × Int) := do
  let isPayload := (← eb.typeCode) = BlockType.payloadBlock
  let value := if isPayload then some (.payload []) else eb.value
  let marshalled ←
      ({ eb with crcType := CRCType.crc32, value := value } : CanonicalBlock).marshalCbor
  let cbLen : Int := marshalled.1.length
  return (cbLen + (if isPayload then lengthField mtu else 0),
    (if eb.blockControlFlags.has BlockControlFlags.replicateBlock then cbLen else 0) +
      (if isPayload then cbLen + lengthField mtu else 0))

def extensionBlocksLen (mtu : Int) : List CanonicalBlock → Go (Int × Int)
  | [] => .ok (0, 0)
  | eb :: rest => do
    let own ← extensionBlockLen mtu eb
    let later ← extensionBlocksLen mtu rest
    return (own.1 + later.1, own.2 + later.2)

def fragmentExtensionBlocksLen (b : Bundle) (mtu : Int) : Go (Int × Int) := do
  let extensions ← extensionBlocksLen mtu b.extensionBlocks
  let eb : CanonicalBlock :=
    ⟨1, b.payloadBlock.blockControlFlags, CRCType.crc32, [], some (.payload [])⟩
  let marshalled ← eb.marshalCbor
  let cbLen : Int := marshalled.1.length
  return (extensions.1 + cbLen + lengthField mtu, extensions.2 + cbLen + lengthField mtu)

namespace Bundle

variable [GoSort] [Ed25519]

/-- `if err = fragBundle.CheckValid(); err != nil { return }`. -/
def ensureValid (b : Bundle) (now : Time) : Go Unit := do
  match ← b.checkValid now with
  | [] => return
  | causes => .error (.error (.multi causes))

omit [Cboring] [Crc16] [GoSort] [Ed25519] in
/-- The fragment at `i` carries the block: the first one carries all blocks. -/
def carriedAt (i : Nat) (cb : CanonicalBlock) : Bool :=
  i = 0 || cb.blockControlFlags.has BlockControlFlags.replicateBlock

/-- The fragment that starts at `i`, and the index at which the next one does. -/
def fragmentAt (b : Bundle) (mtu : Int) (now : Time) (extOverhead : Int × Int)
    (data : List UInt8) (i : Nat) : Go (Bundle × Nat) := do
  let (fragPrimaryBlock, primaryOverhead) ← fragmentPrimaryBlock b.primaryBlock i data.length
  let overhead := 2 + primaryOverhead + if i = 0 then extOverhead.1 else extOverhead.2
  if overhead ≥ mtu then
    .error (.error (.text s!"bundle overhead of fragment {i} exceeds MTU"))
  else
    let fragBundle ← addExtensionBlocks ⟨fragPrimaryBlock, [], .blank⟩ (b.extensionBlocks.filter (carriedAt i))
    let fragPayloadBlockLen := (mtu - overhead).toNat
    let offset := minFloat64 (i + fragPayloadBlockLen) data.length
    let slice ← sliceOf data i offset
    let fragment := { fragBundle with
      payloadBlock := ⟨1, b.payloadBlock.blockControlFlags, b.payloadBlock.crcType, [], some (.payload slice)⟩ }
    fragment.ensureValid now
    return (fragment, i + fragPayloadBlockLen)

/-- The loop over the payload. Every round takes at least one byte of it. -/
def fragmentsFrom (b : Bundle) (mtu : Int) (now : Time) (extOverhead : Int × Int)
    (data : List UInt8) : Nat → Nat → Go (List Bundle)
  | 0, _ => .error .spin
  | rounds + 1, i =>
    if i < data.length then do
      let (fragment, next) ← b.fragmentAt mtu now extOverhead data i
      let later ← fragmentsFrom b mtu now extOverhead data rounds next
      return fragment :: later
    else .ok []

def fragment (b : Bundle) (mtu : Int) (now : Time) : Go (List Bundle) := do
  if b.primaryBlock.bundleControlFlags.has mustNotFragmented then
    .error (.error (.text "bundle control flags forbids bundle fragmentation"))
  else
    let data ← b.payloadData
    let extOverhead ← fragmentExtensionBlocksLen b mtu
    let bs ← b.fragmentsFrom mtu now extOverhead data (data.length + 1) 0
    return if bs.length = 1 then [b] else bs

end Bundle

end Fragment

def fragmentOffsetLess (first second : Bundle) : Bool :=
  first.primaryBlock.fragmentOffset < second.primaryBlock.fragmentOffset

/-- The loop that looks for gaps. -/
def checkGaps : UInt64 → List Bundle → Go UInt64
  | lastIndex, [] => .ok lastIndex
  | lastIndex, b :: rest =>
    let fragOff := b.primaryBlock.fragmentOffset
    if !b.primaryBlock.bundleControlFlags.has isFragment then
      .error (.error (.text "bundle is not a fragment"))
    else if fragOff > lastIndex then
      .error (.error (.text
        s!"next fragment starts at offset {fragOff}, gap from {lastIndex} to {fragOff}"))
    else do
      let data ← b.payloadData
      checkGaps (fragOff + data.length.toUInt64) rest

/-- `mergeFragmentPayload`: `data[low:]` panics outside of the data. -/
def mergeFragmentPayload : Int → List Bundle → Go (List UInt8)
  | _, [] => .ok []
  | lastIndex, b :: rest => do
    let fragStartIndex := intOf b.primaryBlock.fragmentOffset
    let fragPayloadData ← b.payloadData
    let low := lastIndex - fragStartIndex
    if 0 ≤ low ∧ low ≤ fragPayloadData.length then
      let later ← mergeFragmentPayload (fragStartIndex + fragPayloadData.length) rest
      return fragPayloadData.drop low.toNat ++ later
    else .error .panic

variable [GoSort]

/-- The fragments in the order in which `sort.Slice` leaves them. -/
def sortedFragments (bs : List Bundle) : List Bundle := GoSort.sort fragmentOffsetLess bs

/-- `prepareReassembly`: answers the fragments as they are sorted in place. -/
def prepareReassembly (bs : List Bundle) : Go (List Bundle) :=
  if bs.isEmpty then .error (.error (.text "slice of fragments is empty"))
  else do
    let sorted := sortedFragments bs
    let lastIndex ← checkGaps 0 sorted
    let first ← Go.deref sorted.head?
    let total := first.primaryBlock.totalDataLength
    if total ≠ lastIndex then
      .error (.error (.text s!"last index is {lastIndex} and does not match total length of {total}"))
    else return sorted

def isBundleReassemblable (bs : List Bundle) : Go Bool := do
  return (← Go.errorOf (prepareReassembly bs)).isNone

/-- The primary block of the reassembled bundle, from that of the first fragment. -/
def reassembledPrimaryBlock (pb : PrimaryBlock) : PrimaryBlock := { pb with
  bundleControlFlags := pb.bundleControlFlags &&& ~~~isFragment
  fragmentOffset := 0
  totalDataLength := 0
  crc := [] }

variable [Cboring] [Crc16] [Ed25519]

def reassembleFragments (bs : List Bundle) (now : Time) : Go Bundle := do
  let sorted ← prepareReassembly bs
  let first ← Go.deref sorted.head?
  let b ← Bundle.addExtensionBlocks ⟨reassembledPrimaryBlock first.primaryBlock, [], .blank⟩
    first.extensionBlocks
  let payload ← mergeFragmentPayload 0 sorted
  let pb0 := first.payloadBlock
  let reassembled := { b with
    payloadBlock := ⟨1, pb0.blockControlFlags, pb0.crcType, [], some (.payload payload)⟩ }
  reassembled.ensureValid now
  return reassembled

end RecDtn.Bpv7
