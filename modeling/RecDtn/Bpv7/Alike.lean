import RecDtn.Bpv7.Bundle

/-! Bundles that differ only in what the validity check does not look at. -/

namespace RecDtn.Lang.Go

variable {α β : Type}

theorem errorOf_map (call : Go α) (f : α → β) : errorOf (call.map f) = errorOf call := by
  cases call with
  | ok value => rfl
  | error fault => cases fault <;> rfl

/-- Calls with the same answer after `f` fail alike, or answer alike. -/
theorem map_eq_map {first second : Go α} {f : α → β} (same : first.map f = second.map f) :
    (∃ left right, first = .ok left ∧ second = .ok right ∧ f left = f right) ∨
      ∃ fault, first = .error fault ∧ second = .error fault := by
  cases first with
  | ok left =>
    cases second with
    | ok right => exact .inl ⟨left, right, rfl, rfl, by simpa [Except.map] using same⟩
    | error fault => cases same
  | error fault =>
    cases second with
    | ok right => cases same
    | error other =>
      cases same
      exact .inr ⟨fault, rfl, rfl⟩

end RecDtn.Lang.Go

namespace RecDtn.Bpv7

open Wire Lang

namespace CanonicalBlock

def stripCRC (cb : CanonicalBlock) : CanonicalBlock := { cb with crc := [] }

/-- The bytes written do not depend on the CRC value the block holds. -/
theorem written_stripCRC [Cboring] [Crc16] (cb : CanonicalBlock) :
    cb.stripCRC.marshalCbor.map Prod.fst = cb.marshalCbor.map Prod.fst := by
  have fields : cb.stripCRC.marshalFields = cb.marshalFields := rfl
  have crcType : cb.stripCRC.crcType = cb.crcType := rfl
  unfold marshalCbor
  rw [fields, crcType]
  cases cb.marshalFields with
  | error fault => rfl
  | ok written =>
    simp only [Go.ok_bind]
    cases appendCRC cb.crcType written <;> rfl

end CanonicalBlock

namespace PrimaryBlock

def stripCRC (pb : PrimaryBlock) : PrimaryBlock := { pb with crc := [] }

theorem FragmentFieldsFit.announced {pb : PrimaryBlock} (fit : pb.FragmentFieldsFit) :
    pb.announced = pb := by
  unfold PrimaryBlock.announced
  rcases fit with fragment | ⟨offset, total⟩
  · simp [fragment]
  · cases pb
    cases offset
    cases total
    simp

/-- What the block encodes, apart from the CRC. -/
def essence (pb : PrimaryBlock) : PrimaryBlock := pb.announced.stripCRC

/-- The bytes written depend on nothing else. -/
theorem written_essence [Cboring] [Crc16] (pb : PrimaryBlock) :
    pb.essence.marshalCbor.map Prod.fst = pb.marshalCbor.map Prod.fst := by
  have fragment : pb.essence.marshalFragment = pb.marshalFragment := by
    have flag : pb.essence.hasFragmentation = pb.hasFragmentation := rfl
    unfold marshalFragment
    rw [flag]
    by_cases fragment : pb.hasFragmentation = true
    · simp [fragment, essence, announced, stripCRC]
    · simp [fragment]
  have fields : pb.essence.marshalFields = pb.marshalFields := by
    unfold marshalFields
    rw [fragment]
    rfl
  have crcType : pb.essence.crcType = pb.crcType := rfl
  unfold marshalCbor
  rw [fields, crcType]
  cases pb.marshalFields with
  | error fault => rfl
  | ok written =>
    simp only [Go.ok_bind]
    cases appendCRC pb.crcType written <;> rfl

end PrimaryBlock

namespace Bundle

/-- The same encoding of primary and payload block, CRC values apart, and the
same extension values in the same order. -/
structure Alike (first second : Bundle) : Prop where
  primary : first.primaryBlock.essence = second.primaryBlock.essence
  values : first.extensionBlocks.map CanonicalBlock.value =
    second.extensionBlocks.map CanonicalBlock.value
  payload : first.payloadBlock.stripCRC = second.payloadBlock.stripCRC

theorem blocksOfType_values {first second : List CanonicalBlock}
    (same : first.map CanonicalBlock.value = second.map CanonicalBlock.value) (blockType : UInt64) :
    (blocksOfType blockType first).map (List.map CanonicalBlock.value) =
      (blocksOfType blockType second).map (List.map CanonicalBlock.value) := by
  induction first generalizing second with
  | nil =>
    cases second with
    | nil => rfl
    | cons cb rest => cases same
  | cons cb rest ih =>
    cases second with
    | nil => cases same
    | cons other others =>
      obtain ⟨head, tail⟩ := List.cons.inj same
      have code : cb.typeCode = other.typeCode := by
        unfold CanonicalBlock.typeCode
        rw [head]
      simp only [blocksOfType, code]
      cases other.typeCode with
      | error fault => rfl
      | ok typeCode =>
        rcases Go.map_eq_map (ih tail) with ⟨left, right, found, alike, equal⟩ | ⟨fault, found, alike⟩
        · simp only [found, alike, Go.ok_bind, pure, Except.pure, Except.map]
          by_cases matching : typeCode = blockType
          · simp [matching, equal, head]
          · simp [matching, equal]
        · simp [found, alike]

variable {first second : Bundle}

theorem extensionBlocksByType_values
    (same : first.extensionBlocks.map CanonicalBlock.value =
      second.extensionBlocks.map CanonicalBlock.value)
    (blockType : UInt64) :
    (first.extensionBlocksByType blockType).map (List.map CanonicalBlock.value) =
      (second.extensionBlocksByType blockType).map (List.map CanonicalBlock.value) := by
  unfold extensionBlocksByType
  rcases Go.map_eq_map (blocksOfType_values same blockType) with
    ⟨left, right, found, alike, equal⟩ | ⟨fault, found, alike⟩
  · have sizes : left.isEmpty = right.isEmpty := by
      simpa using congrArg List.isEmpty equal
    simp only [found, alike, Go.ok_bind, sizes]
    split
    · rfl
    · simpa [Except.map, pure, Except.pure] using equal
  · simp [found, alike]

theorem extensionBlockByType_values
    (same : first.extensionBlocks.map CanonicalBlock.value =
      second.extensionBlocks.map CanonicalBlock.value)
    (blockType : UInt64) : (first.extensionBlockByType blockType).map CanonicalBlock.value =
      (second.extensionBlockByType blockType).map CanonicalBlock.value := by
  unfold extensionBlockByType
  rcases Go.map_eq_map (extensionBlocksByType_values same blockType) with
    ⟨left, right, found, alike, equal⟩ | ⟨fault, found, alike⟩
  · have sizes : left.length = right.length := by simpa using congrArg List.length equal
    simp only [found, alike, Go.ok_bind]
    match left, right, sizes, equal with
    | [], [], _, _ => rfl
    | [cb], [other], _, equal => simpa [Except.map, pure, Except.pure] using equal
    | _ :: _ :: _, _ :: _ :: _, sizes, _ =>
      simp only [List.length_cons] at sizes
      simp [Except.map, sizes]
  · simp [found, alike]

section

variable {first second : Bundle}
  (timestamp : first.primaryBlock.creationTimestamp = second.primaryBlock.creationTimestamp)
  (values : first.extensionBlocks.map CanonicalBlock.value =
    second.extensionBlocks.map CanonicalBlock.value)

include timestamp values

theorem isLifetimeExceeded_congr
    (lifetime : first.primaryBlock.lifetime = second.primaryBlock.lifetime) (now : Time) :
    first.isLifetimeExceeded now = second.isLifetimeExceeded now := by
  unfold isLifetimeExceeded
  rw [timestamp, lifetime]
  rcases Go.map_eq_map (extensionBlockByType_values values BlockType.bundleAgeBlock) with
    ⟨left, right, found, answered, equal⟩ | ⟨fault, found, answered⟩
  · simp only [found, answered, Go.attempt, Go.ok_bind, equal]
  · simp only [found, answered]

theorem checkAge_congr : first.checkAge = second.checkAge := by
  have lookup := congrArg Go.errorOf (extensionBlocksByType_values values BlockType.bundleAgeBlock)
  rw [Go.errorOf_map, Go.errorOf_map] at lookup
  simp only [checkAge, hasExtensionBlock, timestamp, lookup]

end

theorem checkContextValid_values [Cboring] [Crc16] [Ed25519]
    (values : first.extensionBlocks.map CanonicalBlock.value =
      second.extensionBlocks.map CanonicalBlock.value)
    {value : ExtensionBlock} (unsigned : ∀ publicKey proof, value ≠ .signature publicKey proof) :
    first.checkContextValid value = second.checkContextValid value := by
  have lookup : ∀ code, Go.errorOf (first.extensionBlockByType code) =
      Go.errorOf (second.extensionBlockByType code) := by
    intro code
    have same := congrArg Go.errorOf (extensionBlockByType_values values code)
    rwa [Go.errorOf_map, Go.errorOf_map] at same
  cases value with
  | previousNode endpoint | bundleAge age | hopCount limit count => exact lookup _
  | signature publicKey proof => exact absurd rfl (unsigned publicKey proof)
  | _ => rfl

namespace Alike

variable {first second : Bundle} (alike : first.Alike second)

include alike

/-- Whatever can be read off the essence agrees. -/
theorem ofPrimary {α : Type} (read : PrimaryBlock → α)
    (kept : ∀ pb : PrimaryBlock, read pb.essence = read pb) :
    read first.primaryBlock = read second.primaryBlock := by
  rw [← kept, alike.primary, kept]

theorem timestamp : first.primaryBlock.creationTimestamp = second.primaryBlock.creationTimestamp :=
  alike.ofPrimary PrimaryBlock.creationTimestamp fun _ => rfl

theorem isLifetimeExceeded (now : Time) :
    first.isLifetimeExceeded now = second.isLifetimeExceeded now :=
  isLifetimeExceeded_congr alike.timestamp alike.values
    (alike.ofPrimary PrimaryBlock.lifetime fun _ => rfl) now

theorem checkAge : first.checkAge = second.checkAge := checkAge_congr alike.timestamp alike.values

theorem isFragment : first.isFragment = second.isFragment :=
  alike.ofPrimary PrimaryBlock.hasFragmentation fun _ => rfl

theorem checkPrimary : first.primaryBlock.checkValid = second.primaryBlock.checkValid :=
  alike.ofPrimary PrimaryBlock.checkValid fun _ => rfl

variable [Cboring] [Crc16]

theorem signatureBundleData : first.signatureBundleData = second.signatureBundleData := by
  have bytes : ∀ other : Bundle, other.signatureBundleData = (do
      let primary ← other.primaryBlock.marshalCbor.map Prod.fst
      let payload ← other.payloadBlock.marshalCbor.map Prod.fst
      return primary ++ payload) := by
    intro other
    unfold Bundle.signatureBundleData
    cases other.primaryBlock.marshalCbor with
    | error fault => rfl
    | ok first => cases other.payloadBlock.marshalCbor <;> rfl
  rw [bytes first, bytes second, ← first.primaryBlock.written_essence, ←
    second.primaryBlock.written_essence,
    ← first.payloadBlock.written_stripCRC, ← second.payloadBlock.written_stripCRC,
      alike.primary, alike.payload]

theorem checkContextValid [Ed25519] (value : ExtensionBlock) :
    first.checkContextValid value = second.checkContextValid value := by
  by_cases signed : ∃ publicKey proof, value = .signature publicKey proof
  · obtain ⟨publicKey, proof, rfl⟩ := signed
    simp only [Bundle.checkContextValid, verify, alike.signatureBundleData, alike.isFragment]
  · exact checkContextValid_values alike.values fun publicKey proof same =>
      signed ⟨publicKey, proof, same⟩

end Alike

/-- The bundle with the CRC values of all blocks removed. -/
def stripCRC (b : Bundle) : Bundle :=
  ⟨b.primaryBlock.stripCRC, b.extensionBlocks.map CanonicalBlock.stripCRC,
    b.payloadBlock.stripCRC⟩

theorem stripCRC_alike (b : Bundle) : b.stripCRC.Alike b where
  primary := rfl
  values := by simp [stripCRC, CanonicalBlock.stripCRC]
  payload := rfl

/-- What a check does not look at may be changed. -/
theorem checkBlocks_map (change : CanonicalBlock → CanonicalBlock)
    (kept : ∀ cb, (change cb).checkValid = cb.checkValid) (blocks : List CanonicalBlock) :
    checkBlocks (blocks.map change) = checkBlocks blocks := by
  induction blocks with
  | nil => rfl
  | cons cb rest ih => simp only [List.map_cons, checkBlocks, kept, ih]

variable [Cboring] [Crc16] [Ed25519]

theorem checkExtensions_map (change : CanonicalBlock → CanonicalBlock)
    (number : ∀ cb, (change cb).blockNumber = cb.blockNumber)
    (value : ∀ cb, (change cb).value = cb.value)
    {blocks : List CanonicalBlock} (context : ∀ cb ∈ blocks, ∀ value, cb.value = some value →
      first.checkContextValid value = second.checkContextValid value) (seen : List UInt64) :
    first.checkExtensions seen (blocks.map change) = second.checkExtensions seen blocks := by
  induction blocks generalizing seen with
  | nil => rfl
  | cons cb rest ih =>
    have later := ih (fun other member => context other (List.mem_cons_of_mem _ member))
      (cb.blockNumber :: seen)
    simp only [List.map_cons, checkExtensions, number, value, later]
    cases held : cb.value with
    | none => rfl
    | some found => rw [Go.deref, Go.ok_bind, Go.ok_bind, context cb List.mem_cons_self found held]

theorem checkValid_stripCRC (b : Bundle) (now : Time) :
    b.stripCRC.checkValid now = b.checkValid now := by
  have blocks : checkBlocks (b.stripCRC.extensionBlocks ++ [b.stripCRC.payloadBlock]) =
      checkBlocks (b.extensionBlocks ++ [b.payloadBlock]) := by
    rw [← checkBlocks_map CanonicalBlock.stripCRC (fun _ => rfl)
      (b.extensionBlocks ++ [b.payloadBlock]), List.map_append]
    rfl
  have extensions : b.stripCRC.checkExtensions [] b.stripCRC.extensionBlocks =
      b.checkExtensions [] b.extensionBlocks :=
    checkExtensions_map CanonicalBlock.stripCRC (fun _ => rfl) (fun _ => rfl)
      (fun _ _ value _ => b.stripCRC_alike.checkContextValid value) []
  unfold checkValid
  rw [blocks, extensions, b.stripCRC_alike.checkAge, b.stripCRC_alike.isLifetimeExceeded]
  rfl

theorem checkValid_congr (same : first.stripCRC = second.stripCRC) (now : Time) :
    first.checkValid now = second.checkValid now := by
  rw [← checkValid_stripCRC first, same, checkValid_stripCRC]

end Bundle

end RecDtn.Bpv7
