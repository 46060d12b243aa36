import RecDtn.Bpv7.Endpoint
import RecDtn.Bpv7.Time

namespace RecDtn.Bpv7

open Wire Lang Cboring EndpointID Reader Go

namespace BlockType

def payloadBlock : UInt64 := 1
def previousNodeBlock : UInt64 := 6
def bundleAgeBlock : UInt64 := 7
def hopCountBlock : UInt64 := 10
def binarySprayBlock : UInt64 := 192
def dtlsrBlock : UInt64 := 193
def prophetBlock : UInt64 := 194
def signatureBlock : UInt64 := 195
def recBundleType : UInt64 := 1000

/-- The type codes registered by `GetExtensionBlockManager`. -/
def registered : List UInt64 :=
  [payloadBlock, previousNodeBlock, bundleAgeBlock, hopCountBlock, recBundleType]

end BlockType

/-- The implementers of the `ExtensionBlock` interface. A map is the list of
its entries in the order `range` yields them, a float is its 64 bits. -/
inductive ExtensionBlock where
  | payload (data : List UInt8)
  | previousNode (endpoint : EndpointID)
  | bundleAge (age : UInt64)
  | hopCount (limit count : UInt8)
  | recBundleType (btype : UInt64)
  | binarySpray (copies : UInt64)
  | dtlsr (id : EndpointID) (timestamp : DtnTime) (peers : List (EndpointID × DtnTime))
  | prophet (predictabilities : List (EndpointID × UInt64))
  | signature (publicKey proof : List UInt8)
  | generic (data : List UInt8) (typeCode : UInt64)
  deriving DecidableEq

namespace ExtensionBlock

def blockTypeCode : ExtensionBlock → UInt64
  | payload _ => BlockType.payloadBlock
  | previousNode _ => BlockType.previousNodeBlock
  | bundleAge _ => BlockType.bundleAgeBlock
  | hopCount _ _ => BlockType.hopCountBlock
  | recBundleType _ => BlockType.recBundleType
  | binarySpray _ => BlockType.binarySprayBlock
  | dtlsr _ _ _ => BlockType.dtlsrBlock
  | prophet _ => BlockType.prophetBlock
  | signature _ _ => BlockType.signatureBlock
  | generic _ typeCode => typeCode

/-- `ed25519.PublicKeySize` and `ed25519.SignatureSize`. -/
def publicKeySize : Nat := 32
def signatureSize : Nat := 64

def checkValid : ExtensionBlock → List GoError
  | previousNode endpoint => endpoint.checkValid.toList
  | hopCount limit count => if count > limit then [.text "HopCountBlock is exceeded"] else []
  | signature publicKey proof =>
    (if publicKey.length ≠ publicKeySize then
      [.text (s!"SignatureBlock: public key's length is {publicKey.length}, " ++
        s!"not required {publicKeySize}")] else []) ++
    (if proof.length ≠ signatureSize then
      [.text (s!"SignatureBlock: signature's length is {proof.length}, " ++
        s!"not required {signatureSize}")] else [])
  | _ => []

/-- The manager creates this kind of block for its type code. -/
def Managed : ExtensionBlock → Prop
  | payload _ | previousNode _ | bundleAge _ | hopCount _ _ | recBundleType _ => True
  | generic _ typeCode => typeCode ∉ BlockType.registered
  | _ => False

/-- The endpoint of a Previous Node Block survives its encoding. -/
def EndpointsWellFormed : ExtensionBlock → Prop
  | previousNode endpoint => endpoint.WellFormed
  | _ => True

instance : (block : ExtensionBlock) → Decidable block.Managed
  | payload _ | previousNode _ | bundleAge _ | hopCount _ _ | recBundleType _ =>
    inferInstanceAs (Decidable True)
  | generic _ typeCode => inferInstanceAs (Decidable (typeCode ∉ BlockType.registered))
  | binarySpray _ | dtlsr _ _ _ | prophet _ | signature _ _ => inferInstanceAs (Decidable False)

instance : (block : ExtensionBlock) → Decidable block.EndpointsWellFormed
  | previousNode endpoint => inferInstanceAs (Decidable endpoint.WellFormed)
  | payload _ | bundleAge _ | hopCount _ _ | recBundleType _ | binarySpray _ | dtlsr _ _ _
  | prophet _ | signature _ _ | generic _ _ => inferInstanceAs (Decidable True)

variable {block : ExtensionBlock}

theorem Managed.of_registered (managed : block.Managed)
    (registered : block.blockTypeCode ∈ BlockType.registered) :
    (∃ data, block = payload data) ∨ (∃ endpoint, block = previousNode endpoint) ∨
      (∃ age, block = bundleAge age) ∨ (∃ limit count, block = hopCount limit count) ∨
      ∃ btype, block = recBundleType btype := by
  cases block with
  | payload data => exact .inl ⟨data, rfl⟩
  | previousNode endpoint => exact .inr (.inl ⟨endpoint, rfl⟩)
  | bundleAge age => exact .inr (.inr (.inl ⟨age, rfl⟩))
  | hopCount limit count => exact .inr (.inr (.inr (.inl ⟨limit, count, rfl⟩)))
  | recBundleType btype => exact .inr (.inr (.inr (.inr ⟨btype, rfl⟩)))
  | generic data typeCode => exact absurd registered managed
  | _ => exact managed.elim

theorem Managed.bundleAge_of_code (managed : block.Managed)
    (code : block.blockTypeCode = BlockType.bundleAgeBlock) : ∃ age, block = bundleAge age := by
  have registered : block.blockTypeCode ∈ BlockType.registered := by
    rw [code]
    decide
  rcases managed.of_registered registered with
    ⟨_, rfl⟩ | ⟨_, rfl⟩ | found | ⟨_, _, rfl⟩ | ⟨_, rfl⟩
  · cases code
  · cases code
  · exact found
  · cases code
  · cases code

theorem Managed.previousNode_of_code (managed : block.Managed)
    (code : block.blockTypeCode = BlockType.previousNodeBlock) :
    ∃ endpoint, block = previousNode endpoint := by
  have registered : block.blockTypeCode ∈ BlockType.registered := by
    rw [code]
    decide
  rcases managed.of_registered registered with
    ⟨_, rfl⟩ | found | ⟨_, rfl⟩ | ⟨_, _, rfl⟩ | ⟨_, rfl⟩
  · cases code
  · exact found
  · cases code
  · cases code
  · cases code

variable [Cboring]

/-- The entries of a map: the endpoint, then its value. -/
def marshalEntries (write : UInt64 → List UInt8) : List (EndpointID × UInt64) → Go (List UInt8)
  | [] => .ok []
  | (peerID, value) :: rest => do
    let id ← peerID.marshalCbor
    let entries ← marshalEntries write rest
    return id ++ write value ++ entries

/-- `MarshalBinary` of payload and generic blocks, `MarshalCbor` of the others. -/
def marshalData : ExtensionBlock → Go (List UInt8)
  | payload data => .ok data
  | generic data _ => .ok data
  | previousNode endpoint => endpoint.marshalCbor
  | bundleAge age => .ok (writeUInt age)
  | hopCount limit count =>
    .ok (writeArrayLength 2 ++ writeUInt limit.toUInt64 ++
      writeUInt count.toUInt64)
  | recBundleType btype => .ok (writeArrayLength 1 ++ writeUInt btype)
  | binarySpray copies => .ok (writeUInt copies)
  | dtlsr id timestamp peers => do
    let own ← id.marshalCbor
    let entries ← marshalEntries writeUInt peers
    return writeArrayLength 3 ++ own ++ writeUInt timestamp ++
      writeMapPairLength peers.length.toUInt64 ++ entries
  | prophet predictabilities => do
    let entries ← marshalEntries writeFloat64 predictabilities
    return writeMapPairLength predictabilities.length.toUInt64 ++ entries
  | signature publicKey proof =>
    .ok (writeArrayLength 2 ++ writeByteString publicKey ++
      writeByteString proof)

/-- `ExtensionBlockManager.WriteBlock`. -/
def writeBlock (block : ExtensionBlock) : Go (List UInt8) := do
  let data ← Go.wrap "marshalling CBOR for Block erred" block.marshalData
  return writeByteString data

def unmarshalHopCount : ByteReader ExtensionBlock := do
  let l ← readArrayLength
  ensure (l = 2) (.text s!"expected array with length 2, got {l}")
  let limit ← readUInt
  ensure (limit ≤ 255) (.text s!"Hop Count fields must be within a range to 255, not {limit}")
  let count ← readUInt
  ensure (count ≤ 255) (.text s!"Hop Count fields must be within a range to 255, not {count}")
  return hopCount limit.toUInt8 count.toUInt8

def unmarshalRecBundleType : ByteReader ExtensionBlock := do
  let l ← readArrayLength
  ensure (l = 1) (.text s!"expected 1 field, got {l}")
  let btype ← readUInt
  return recBundleType btype

/-- `createBlock` and its `UnmarshalBinary` or `UnmarshalCbor`: types that are
not registered become generic blocks. -/
def unmarshalData (typeCode : UInt64) (data : List UInt8) : Go ExtensionBlock :=
  if typeCode = BlockType.payloadBlock then .ok (payload data)
  else if typeCode = BlockType.previousNodeBlock then
    (previousNode <$> unmarshalCbor : ByteReader ExtensionBlock).runOn data
  else if typeCode = BlockType.bundleAgeBlock then
    (bundleAge <$> readUInt : ByteReader ExtensionBlock).runOn data
  else if typeCode = BlockType.hopCountBlock then unmarshalHopCount.runOn data
  else if typeCode = BlockType.recBundleType then unmarshalRecBundleType.runOn data
  else .ok (generic data typeCode)

/-- `ExtensionBlockManager.ReadBlock`. -/
def readBlock (typeCode : UInt64) : ByteReader ExtensionBlock := do
  let data ← readByteString
  Reader.lift (unmarshalData typeCode data)

private theorem reads_hopCount (limit count : UInt8) :
    Reads [] unmarshalHopCount (writeArrayLength 2 ++ writeUInt limit.toUInt64 ++
      writeUInt count.toUInt64) (hopCount limit count) := by
  have small : ∀ byte : UInt8, byte.toUInt64 ≤ 255 := by
    intro byte
    rw [UInt64.le_iff_toNat_le, UInt8.toNat_toUInt64]
    exact Nat.le_of_lt_succ byte.toNat_lt
  rw [List.append_assoc]
  refine .bind (reads_arrayLength 2) (.after (.ensure rfl) ?_)
  refine .bind (reads_uint _) (.after (.ensure (small limit)) ?_)
  refine .before (reads_uint _) (.after (.ensure (small count)) ?_)
  simpa using Reads.pure (hopCount limit count)

private theorem reads_recBundleType (btype : UInt64) :
    Reads [] unmarshalRecBundleType (writeArrayLength 1 ++ writeUInt btype) (recBundleType btype) :=
  .bind (reads_arrayLength 1) (.after (.ensure rfl) (.before (reads_uint _) (.pure _)))

theorem unmarshalData_marshalData (managed : block.Managed) (formed : block.EndpointsWellFormed)
    (marshalled : block.marshalData = .ok data) :
    unmarshalData block.blockTypeCode data = .ok block := by
  cases block with
  | payload content =>
    cases marshalled
    rfl
  | previousNode endpoint =>
    exact ((reads_marshalCbor formed marshalled).map previousNode).runOn
  | bundleAge age =>
    cases marshalled
    exact ((reads_uint age).map bundleAge).runOn
  | hopCount limit count =>
    cases marshalled
    exact (reads_hopCount limit count).runOn
  | recBundleType btype =>
    cases marshalled
    exact (reads_recBundleType btype).runOn
  | generic content typeCode =>
    cases marshalled
    have others : typeCode ∉ BlockType.registered := managed
    simp only [BlockType.registered, List.mem_cons, List.not_mem_nil, or_false, not_or] at others
    simp [unmarshalData, blockTypeCode, others]
  | _ => exact managed.elim

theorem writeBlock_eq_ok {bytes : List UInt8} :
    block.writeBlock = .ok bytes ↔ ∃ data, block.marshalData = .ok data ∧
      bytes = writeByteString data := by
  unfold writeBlock
  constructor
  · intro written
    obtain ⟨data, marshalled, written⟩ := bind_eq_ok.mp written
    cases written
    exact ⟨data, wrap_eq_ok.mp marshalled, rfl⟩
  · rintro ⟨data, marshalled, rfl⟩
    exact bind_eq_ok.mpr ⟨data, wrap_eq_ok.mpr marshalled, rfl⟩

private theorem tracks_hopCount : Tracks unmarshalHopCount :=
  .bind (.primitive _) fun _ => .bind (.ensure _ _) fun _ => .bind (.primitive _) fun _ =>
    .bind (.ensure _ _) fun _ => .bind (.primitive _) fun _ => .bind (.ensure _ _) fun _ => .pure _

private theorem tracks_recBundleType : Tracks unmarshalRecBundleType :=
  .bind (.primitive _) fun _ => .bind (.ensure _ _) fun _ => .bind (.primitive _) fun _ => .pure _

theorem settled_unmarshalData (typeCode : UInt64) (data : List UInt8) :
    Settled (unmarshalData typeCode data) := by
  unfold unmarshalData
  split
  · exact Settled.ok _
  split
  · exact (tracks_unmarshalCbor.map previousNode).runOn data
  split
  · exact ((Tracks.primitive _).map bundleAge).runOn data
  split
  · exact tracks_hopCount.runOn data
  split
  · exact tracks_recBundleType.runOn data
  · exact Settled.ok _

theorem tracks_readBlock (typeCode : UInt64) : Tracks (readBlock typeCode) :=
  .bind (.primitive _) fun data => .lift (settled_unmarshalData typeCode data)

/-- The block is of the kind the manager creates for a type code, and its
endpoint is well formed. -/
def Created (typeCode : UInt64) (block : ExtensionBlock) : Prop :=
  block.blockTypeCode = typeCode ∧ block.Managed ∧ block.EndpointsWellFormed

private theorem unmarshalHopCount_created :
    Yields unmarshalHopCount (Created BlockType.hopCountBlock) :=
  .after fun _ => .after fun _ => .after fun _ => .after fun _ => .after fun _ => .after fun _ =>
    .pure ⟨rfl, trivial, trivial⟩

private theorem unmarshalRecBundleType_created :
    Yields unmarshalRecBundleType (Created BlockType.recBundleType) :=
  .after fun _ => .after fun _ => .after fun _ => .pure ⟨rfl, trivial, trivial⟩

theorem unmarshalData_created (read : unmarshalData typeCode data = .ok block) :
    Created typeCode block := by
  unfold unmarshalData at read
  split at read
  · rename_i same
    cases read
    exact ⟨same.symm, trivial, trivial⟩
  split at read
  · rename_i same
    subst same
    exact Yields.runOn (.map fun _ _ _ read => ⟨rfl, trivial, unmarshalCbor_wellFormed read⟩) read
  split at read
  · rename_i same
    subst same
    exact Yields.runOn (.map fun _ _ _ _ => ⟨rfl, trivial, trivial⟩) read
  split at read
  · rename_i same
    subst same
    exact unmarshalHopCount_created.runOn read
  split at read
  · rename_i same
    subst same
    exact unmarshalRecBundleType_created.runOn read
  · rename_i others
    cases read
    refine ⟨rfl, ?_, trivial⟩
    simp_all [Managed, BlockType.registered]

theorem readBlock_created (typeCode : UInt64) : Yields (readBlock typeCode) (Created typeCode) :=
  .after fun _ => .lift fun _ => unmarshalData_created

theorem writeBlock_of_managed (managed : block.Managed) (valid : block.checkValid = []) :
    ∃ bytes, block.writeBlock = .ok bytes := by
  have written : ∀ data, block.marshalData = .ok data →
      block.writeBlock = .ok (writeByteString data) := fun data marshalled =>
    bind_eq_ok.mpr ⟨data, wrap_eq_ok.mpr marshalled, rfl⟩
  cases block with
  | previousNode endpoint =>
    have passed : endpoint.checkValid = none := by simpa [checkValid] using valid
    obtain ⟨data, marshalled⟩ := marshalCbor_of_valid passed
    exact ⟨_, written data marshalled⟩
  | payload content | bundleAge age | hopCount limit count | recBundleType btype
  | generic content typeCode => exact ⟨_, written _ rfl⟩
  | _ => exact managed.elim

end ExtensionBlock

end RecDtn.Bpv7
