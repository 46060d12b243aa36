import RecDtn.Bpv7.PrimaryBlock

namespace RecDtn.Bpv7

open Wire Lang

structure Bundle where
  primaryBlock : PrimaryBlock
  extensionBlocks : List CanonicalBlock
  payloadBlock : CanonicalBlock
  deriving DecidableEq

/-- `ed25519.Verify` of a public key, a message and a signature. -/
class Ed25519 where
  verify : List UInt8 → List UInt8 → List UInt8 → Bool

/-- No signature verifies. -/
@[reducible] def Ed25519.rejecting : Ed25519 where
  verify _ _ _ := false

namespace Bundle

/-- The zero value of the structure. -/
def blank : Bundle := ⟨.blank, [], .blank⟩

/-- The blocks of a type, in order. -/
def blocksOfType (blockType : UInt64) : List CanonicalBlock → Go (List CanonicalBlock)
  | [] => .ok []
  | cb :: rest => do
    let typeCode ← cb.typeCode
    let later ← blocksOfType blockType rest
    return if typeCode = blockType then cb :: later else later

def extensionBlocksByType (b : Bundle) (blockType : UInt64) : Go (List CanonicalBlock) := do
  let cbs ← blocksOfType blockType b.extensionBlocks
  if cbs.isEmpty then
    .error (.error (.text s!"no CanonicalBlock with block type {blockType} was found in Bundle"))
  else return cbs

def extensionBlockByType (b : Bundle) (blockType : UInt64) : Go CanonicalBlock := do
  match ← b.extensionBlocksByType blockType with
  | [cb] => return cb
  | cbs => .error (.error (.text s!"there are {cbs.length} Extension Blocks for type code {blockType}"))

def hasExtensionBlock (b : Bundle) (blockType : UInt64) : Go Bool := do
  return (← Go.errorOf (b.extensionBlocksByType blockType)).isNone

def isFragment (b : Bundle) : Bool := b.primaryBlock.hasFragmentation

/-- A type assertion to `*BundleAgeBlock` panics on any other value. -/
def isLifetimeExceeded (b : Bundle) (now : Time) : Go Bool :=
  if b.primaryBlock.creationTimestamp.isZeroTime then do
    match ← Go.attempt (b.extensionBlockByType BlockType.bundleAgeBlock) with
    | .error _ => return true
    | .ok bab =>
      match bab.value with
      | some (.bundleAge age) => return age > b.primaryBlock.lifetime
      | _ => .error .panic
  else
    return now > b.primaryBlock.creationTimestamp.dtnTime.time +
      lifetimeDuration b.primaryBlock.lifetime

variable [Cboring] [Crc16]

/-- The message of a signature: primary block, then payload block. -/
def signatureBundleData (b : Bundle) : Go (List UInt8) := do
  let primary ← b.primaryBlock.marshalCbor
  let payload ← b.payloadBlock.marshalCbor
  return primary.1 ++ payload.1

/-- Encode one block after the other. -/
def marshalBlocks : List CanonicalBlock → Go (List UInt8 × List CanonicalBlock)
  | [] => .ok ([], [])
  | cb :: rest => do
    let first ← Go.wrap "ExtensionBlock failed" cb.marshalCbor
    let later ← marshalBlocks rest
    return (first.1 ++ later.1, first.2 :: later.2)

variable [Ed25519]

/-- `SignatureBlock.Verify`. -/
def verify (b : Bundle) (publicKey proof : List UInt8) : Go Bool :=
  if (ExtensionBlock.signature publicKey proof).checkValid ≠ [] then return false
  else if b.isFragment then return false
  else do
    match ← Go.attempt b.signatureBundleData with
    | .error _ => return false
    | .ok data => return Ed25519.verify publicKey data proof

/-- `CheckContextValid` of an extension block of the bundle. If the block is
the only one of its type, the pointers compared by the source are the same. -/
def checkContextValid (b : Bundle) : ExtensionBlock → Go (Option GoError)
  | .previousNode _ => Go.errorOf (b.extensionBlockByType BlockType.previousNodeBlock)
  | .bundleAge _ => Go.errorOf (b.extensionBlockByType BlockType.bundleAgeBlock)
  | .hopCount _ _ => Go.errorOf (b.extensionBlockByType BlockType.hopCountBlock)
  | .signature publicKey proof =>
    if b.isFragment then return none
    else do
      if ← b.verify publicKey proof then return none
      else return some (.text "block verification failed")
  | _ => return none

/-- The loop over the extension blocks: block numbers seen so far, and the
context check of each block. -/
def checkExtensions (b : Bundle) : List UInt64 → List CanonicalBlock → Go (List GoError)
  | _, [] => .ok []
  | seen, cb :: rest => do
    let value ← Go.deref cb.value
    let context ← b.checkContextValid value
    let later ← b.checkExtensions (cb.blockNumber :: seen) rest
    return (if cb.blockNumber ∈ seen then
        [.text s!"bundle: block number {cb.blockNumber} occurred multiple times"] else []) ++
      context.toList ++ later

/-- `CheckValid` of each block in turn. -/
def checkBlocks : List CanonicalBlock → Go (List GoError)
  | [] => .ok []
  | cb :: rest => do
    let first ← cb.checkValid
    let later ← checkBlocks rest
    return first ++ later

def checkAge (b : Bundle) : Go (List GoError) :=
  if b.primaryBlock.creationTimestamp.isZeroTime then do
    if ← b.hasExtensionBlock BlockType.bundleAgeBlock then return []
    else return [.text "Bundle: Creation Timestamp is zero, but no Bundle Age block exists"]
  else return []

/-- `CheckValid`: all errors found, none of them meaning nil. -/
def checkValid (b : Bundle) (now : Time) : Go (List GoError) := do
  let blocks ← checkBlocks (b.extensionBlocks ++ [b.payloadBlock])
  let extensions ← b.checkExtensions [] b.extensionBlocks
  let age ← b.checkAge
  let exceeded ← b.isLifetimeExceeded now
  return b.primaryBlock.checkValid ++ blocks ++
    (if b.payloadBlock.blockControlFlags.has BlockControlFlags.statusReportBlock then
      [.text ("bundle: bundle processing control flags indicate that " ++
        "this bundle's payload is an administrative record or the source " ++
        "node is omitted, but the \"transmit status report if block " ++
        "cannot be processed\" block processing control flag was set in a canonical block")] else []) ++
    extensions ++ age ++
    (if exceeded then [.text "Bundle: Lifetime is exceeded"] else [])

/-- `MarshalCbor` and `WriteBundle`: the bytes written, and the bundle with the
CRCs of its blocks updated. -/
def marshalCbor (b : Bundle) : Go (List UInt8 × Bundle) := do
  let primary ← Go.wrap "PrimaryBlock failed" b.primaryBlock.marshalCbor
  let extensions ← marshalBlocks b.extensionBlocks
  let payload ← Go.wrap "PayloadBlock failed" b.payloadBlock.marshalCbor
  return (Cboring.indefiniteArray ::
    (primary.1 ++ (extensions.1 ++ (payload.1 ++ [Cboring.breakCode]))),
    ⟨primary.2, extensions.2, payload.2⟩)

/-- What `ParseBundle` hands back: the bundle as far as it was filled in, the
error if there is one, and the input that is left. -/
structure Parsed where
  bundle : Bundle
  err : Option (Fault GoError)
  rest : List UInt8

/-- A payload block takes the payload slot, any other block is appended. -/
def place (b : Bundle) (cb : CanonicalBlock) : Go Bundle := do
  let typeCode ← cb.typeCode
  return if typeCode = BlockType.payloadBlock then { b with payloadBlock := cb }
    else { b with extensionBlocks := b.extensionBlocks ++ [cb] }

/-- The loop over the canonical blocks. A break code ends it, wherever in a
block the CBOR package reports one. -/
def unmarshalBlocks : Nat → Bundle → List UInt8 → Parsed
  | 0, b, input => ⟨b, some .spin, input⟩
  | fuel + 1, b, input =>
    match CanonicalBlock.unmarshalCbor.run input with
    | .error (.error .flagBreakCode) rest => ⟨b, none, rest⟩
    | .error (.error cause) rest =>
      ⟨b, some (.error (.wrapped "CanonicalBlock failed" cause)), rest⟩
    | .error fault rest => ⟨b, some fault, rest⟩
    | .ok cb rest =>
      match b.place cb with
      | .ok placed => unmarshalBlocks fuel placed rest
      | .error fault => ⟨b, some fault, rest⟩

/-- The error value of a finished check. -/
def verdict : Go (List GoError) → Option (Fault GoError)
  | .ok [] => none
  | .ok causes => some (.error (.multi causes))
  | .error fault => some fault

/-- `ParseBundle`. Every round of the loop takes at least one byte, so the
input bounds the number of rounds. A primary block that fails stays in the
bundle as far as it was filled in. -/
def parseBundle (now : Time) (input : List UInt8) : Parsed :=
  match (Cboring.readExpect Cboring.indefiniteArray).run input with
  | .error fault rest => ⟨blank, some fault, rest⟩
  | .ok () afterMark =>
    match PrimaryBlock.unmarshalInto.run .blank afterMark with
    | (primary, some fault, rest) =>
      ⟨⟨primary, [], .blank⟩, some (fault.mapError (.wrapped "PrimaryBlock failed")), rest⟩
    | (primary, none, afterPrimary) =>
      let parsed := unmarshalBlocks (afterPrimary.length + 1) ⟨primary, [], .blank⟩ afterPrimary
      match parsed.err with
      | some _ => parsed
      | none => { parsed with err := verdict (parsed.bundle.checkValid now) }

end Bundle

def plainBundle : Bundle :=
  ⟨primaryTo (nodeEndpoint "executor") CRCType.crcNo, [],
    ⟨1, 0, CRCType.crcNo, [], some (.payload [42])⟩⟩

def clocklessBundle : Bundle :=
  { plainBundle with primaryBlock := { plainBundle.primaryBlock with creationTimestamp := ⟨0,
    0⟩ } }

end RecDtn.Bpv7

namespace RecDtn.Samples

open Bpv7

attribute [scoped instance] standardCbor x25 Ed25519.rejecting

end RecDtn.Samples
