import RecDtn.Bpv7.CanonicalBlock
import RecDtn.Wire.Filling

namespace RecDtn.Bpv7

open Wire Lang Cboring EndpointID Reader Go List

def dtnVersion : UInt64 := 7

structure PrimaryBlock where
  version : UInt64
  bundleControlFlags : BundleControlFlags
  crcType : CRCType
  destination : EndpointID
  sourceNode : EndpointID
  reportTo : EndpointID
  creationTimestamp : CreationTimestamp
  lifetime : UInt64
  fragmentOffset : UInt64
  totalDataLength : UInt64
  crc : List UInt8
  deriving DecidableEq

namespace PrimaryBlock

/-- The zero value of the structure. -/
def blank : PrimaryBlock :=
  ⟨0, 0, CRCType.crcNo, ⟨none⟩, ⟨none⟩, ⟨none⟩, ⟨0, 0⟩, 0, 0, 0, []⟩

def hasFragmentation (pb : PrimaryBlock) : Bool :=
  pb.bundleControlFlags.has BundleControlFlags.isFragment

def hasCRC (pb : PrimaryBlock) : Bool := pb.crcType != CRCType.crcNo

def checkValid (pb : PrimaryBlock) : List GoError :=
  (if pb.version ≠ dtnVersion then
    [.text s!"PrimaryBlock: Wrong Version, {pb.version} instead of {dtnVersion}"] else []) ++
  pb.bundleControlFlags.checkValid ++ pb.destination.checkValid.toList ++
  pb.sourceNode.checkValid.toList ++ pb.reportTo.checkValid.toList ++
  (if pb.sourceNode ≠ dtnNone ∨
      (pb.bundleControlFlags.has BundleControlFlags.mustNotFragmented = true ∧
        pb.bundleControlFlags.requestsNoStatus = true) then []
   else [.text ("PrimaryBlock: Source Node is dtn:none, but Bundle could " ++
      "be fragmented or status report flags are not zero")])

theorem checkValid_eq_nil {pb : PrimaryBlock} : pb.checkValid = [] ↔ pb.version = dtnVersion ∧
    pb.bundleControlFlags.checkValid = [] ∧ pb.destination.checkValid = none ∧
    pb.sourceNode.checkValid = none ∧ pb.reportTo.checkValid = none ∧
    (pb.sourceNode ≠ dtnNone ∨
      (pb.bundleControlFlags.has BundleControlFlags.mustNotFragmented = true ∧
        pb.bundleControlFlags.requestsNoStatus = true)) := by
  simp only [checkValid, append_eq_nil_iff, Option.toList_eq_nil_iff, and_assoc,
    ite_eq_right_iff, ite_eq_left_iff, cons_ne_nil, imp_false, not_not]

/-- The array length the encoder announces. -/
def blockLen (pb : PrimaryBlock) : UInt64 :=
  match pb.hasFragmentation, pb.hasCRC with
  | false, false => 8
  | false, true => 9
  | true, false => 10
  | true, true => 11

private theorem blockLen_fits (pb : PrimaryBlock) : 8 ≤ pb.blockLen ∧ pb.blockLen ≤ 11 := by
  unfold blockLen
  split <;> decide

private theorem blockLen_crc (pb : PrimaryBlock) :
    (pb.blockLen = 9 ∨ pb.blockLen = 11) ↔ pb.hasCRC = true := by
  unfold blockLen
  cases pb.hasFragmentation <;> cases pb.hasCRC <;> decide

private theorem blockLen_fragment (pb : PrimaryBlock) :
    (pb.blockLen = 10 ∨ pb.blockLen = 11) ↔ pb.hasFragmentation = true := by
  unfold blockLen
  cases pb.hasFragmentation <;> cases pb.hasCRC <;> decide

/-- The block as it comes back from its encoding: a CRC that the type does not
announce is not written. -/
def fresh (pb : PrimaryBlock) : PrimaryBlock := { pb with crc := if pb.hasCRC then pb.crc else [] }

/-- The fragment fields are zero unless the flag is set. -/
def FragmentFieldsFit (pb : PrimaryBlock) : Prop :=
  pb.hasFragmentation = true ∨ (pb.fragmentOffset = 0 ∧ pb.totalDataLength = 0)

instance (pb : PrimaryBlock) : Decidable pb.FragmentFieldsFit :=
  inferInstanceAs (Decidable (_ ∨ _ ∧ _))

/-- The three endpoints survive their encoding. -/
def EndpointsWellFormed (pb : PrimaryBlock) : Prop :=
  pb.destination.WellFormed ∧ pb.sourceNode.WellFormed ∧ pb.reportTo.WellFormed

instance (pb : PrimaryBlock) : Decidable pb.EndpointsWellFormed :=
  inferInstanceAs (Decidable (_ ∧ _ ∧ _))

/-- The block without fragment fields that its flag does not announce. -/
def announced (pb : PrimaryBlock) : PrimaryBlock :=
  { pb with
    fragmentOffset := if pb.hasFragmentation then pb.fragmentOffset else 0
    totalDataLength := if pb.hasFragmentation then pb.totalDataLength else 0 }

variable [Cboring]

/-- The two fragment fields. -/
def marshalFragment (pb : PrimaryBlock) : List UInt8 :=
  if pb.hasFragmentation then
    writeUInt pb.fragmentOffset ++ writeUInt pb.totalDataLength
  else []

def marshalFields (pb : PrimaryBlock) : Go (List UInt8) := do
  let destination ← Go.wrap "EndpointID failed" pb.destination.marshalCbor
  let sourceNode ← Go.wrap "EndpointID failed" pb.sourceNode.marshalCbor
  let reportTo ← Go.wrap "EndpointID failed" pb.reportTo.marshalCbor
  return writeArrayLength pb.blockLen ++ writeUInt dtnVersion ++
    writeUInt pb.bundleControlFlags ++ writeUInt pb.crcType ++
    destination ++ sourceNode ++ reportTo ++ pb.creationTimestamp.marshalCbor ++
    writeUInt pb.lifetime ++ pb.marshalFragment

/-- The fragment fields are read if the array is long enough for them. -/
def unmarshalFragment (blockLen : UInt64) : ByteReader (UInt64 × UInt64) :=
  if blockLen = 10 ∨ blockLen = 11 then do
    let fragmentOffset ← readUInt
    let totalDataLength ← readUInt
    return (fragmentOffset, totalDataLength)
  else pure (0, 0)

/-- The array length and the block up to its CRC field. -/
def unmarshalFields : ByteReader (UInt64 × PrimaryBlock) := do
  let blockLen ← readArrayLength
  ensure (8 ≤ blockLen ∧ blockLen ≤ 11)
    (.text s!"expected array with 8 to 11 elements, got {blockLen}")
  let version ← readUInt
  ensure (version = dtnVersion) (.text s!"expected version {dtnVersion}, got {version}")
  let bundleControlFlags ← readUInt
  let crcType ← readUInt
  let destination ← mapError (.wrapped "EndpointID failed") EndpointID.unmarshalCbor
  let sourceNode ← mapError (.wrapped "EndpointID failed") EndpointID.unmarshalCbor
  let reportTo ← mapError (.wrapped "EndpointID failed") EndpointID.unmarshalCbor
  let creationTimestamp ← mapError (.wrapped "CreationTimestamp failed")
    CreationTimestamp.unmarshalCbor
  let lifetime ← readUInt
  let fragment ← unmarshalFragment blockLen
  return (blockLen, ⟨dtnVersion, bundleControlFlags, crcType, destination, sourceNode, reportTo,
    creationTimestamp, lifetime, fragment.1, fragment.2, []⟩)

/-- `MarshalCbor`: the bytes written, and the block with its CRC updated. -/
def marshalCbor [Crc16] (pb : PrimaryBlock) : Go (List UInt8 × PrimaryBlock) := do
  let fields ← pb.marshalFields
  let sealed ← appendCRC pb.crcType fields
  return (sealed.1, { pb with crc := sealed.2.getD pb.crc })

/-- The block with its CRC, if the array is long enough for one. -/
def unmarshalTeed [Crc16] : ByteReader PrimaryBlock := do
  let block ← unmarshalFields
  if block.1 = 9 ∨ block.1 = 11 then
    let crc ← checkCRC block.2.crcType
    return { block.2 with crc := crc }
  else return block.2

/-- `UnmarshalCbor`: everything that is read, the array head included, goes to
the CRC buffer. -/
def unmarshalCbor [Crc16] : ByteReader PrimaryBlock := withTee [] unmarshalTeed

/-- `UnmarshalCbor` as it runs, on a block whose fields it sets one by one. -/
def unmarshalInto [Crc16] : Filler UInt8 GoError PrimaryBlock Unit := do
  let blockLen ← .read readArrayLength
  .read (.ensure (8 ≤ blockLen ∧ blockLen ≤ 11)
    (.text s!"expected array with 8 to 11 elements, got {blockLen}"))
  let version ← .read readUInt
  .read (.ensure (version = dtnVersion) (.text s!"expected version {dtnVersion}, got {version}"))
  .set fun pb => { pb with version := dtnVersion }
  let bundleControlFlags ← .read readUInt
  .set fun pb => { pb with bundleControlFlags }
  let crcType ← .read readUInt
  .set fun pb => { pb with crcType }
  let destination ← .read (.mapError (.wrapped "EndpointID failed") EndpointID.unmarshalCbor)
  .set fun pb => { pb with destination }
  let sourceNode ← .read (.mapError (.wrapped "EndpointID failed") EndpointID.unmarshalCbor)
  .set fun pb => { pb with sourceNode }
  let reportTo ← .read (.mapError (.wrapped "EndpointID failed") EndpointID.unmarshalCbor)
  .set fun pb => { pb with reportTo }
  let dtnTime ← .read (.mapError (.wrapped "CreationTimestamp failed")
    (readFirst CreationTimestamp.lengthError))
  .set fun pb => { pb with creationTimestamp := { pb.creationTimestamp with dtnTime } }
  let sequenceNumber ← .read (.mapError (.wrapped "CreationTimestamp failed") readUInt)
  .set fun pb => { pb with creationTimestamp := { pb.creationTimestamp with sequenceNumber } }
  let lifetime ← .read readUInt
  .set fun pb => { pb with lifetime }
  if blockLen = 10 ∨ blockLen = 11 then
    let fragmentOffset ← .read readUInt
    .set fun pb => { pb with fragmentOffset }
    let totalDataLength ← .read readUInt
    .set fun pb => { pb with totalDataLength }
  if blockLen = 9 ∨ blockLen = 11 then
    let crc ← .read (checkCRC crcType)
    .set fun pb => { pb with crc }

/-- Setting the fields one by one comes to the block that is read as a whole. -/
private theorem mirrors_unmarshalInto [Crc16] : Filler.Mirrors unmarshalInto blank unmarshalTeed := by
  unfold unmarshalInto unmarshalTeed unmarshalFields unmarshalFragment
    CreationTimestamp.unmarshalCbor readPair
  simp only [bind_assoc, mapError_bind, pure_bind]
  refine .read fun blockLen => .read fun _ => .read fun _ => .read fun _ => .set ?_
  refine .read fun _ => .set (.read fun crcType => .set ?_)
  refine .read fun _ => .set (.read fun _ => .set (.read fun _ => .set ?_))
  refine .read fun _ => .set (.read fun _ => .set (.read fun _ => .set ?_))
  have sealed : ∀ pb : PrimaryBlock, Filler.Mirrors
      (if blockLen = 9 ∨ blockLen = 11 then do
        let crc ← .read (checkCRC crcType)
        .set fun pb => { pb with crc }
      else pure ()) pb
      (if blockLen = 9 ∨ blockLen = 11 then do
        let crc ← checkCRC crcType
        return { pb with crc }
      else return pb) := by
    intro pb
    split
    · exact .read fun _ => .last pb _
    · exact .pure pb
  by_cases fragment : blockLen = 10 ∨ blockLen = 11
  · simp only [if_pos fragment, bind_assoc, pure_bind]
    exact .read fun _ => .set (.read fun _ => .set (sealed _))
  · simp only [if_neg fragment, pure_bind]
    exact sealed _

variable {pb left : PrimaryBlock} {start rest : List UInt8}

theorem unmarshalInto_of_ok [Crc16] (read : unmarshalCbor.run start = .ok pb rest) :
    unmarshalInto.run blank start = (pb, none, rest) := by
  rw [unmarshalCbor, run_withTee] at read
  exact mirrors_unmarshalInto.run_of_ok read

theorem unmarshalInto_of_error [Crc16] {fault : Fault GoError}
    (failed : unmarshalCbor.run start = .error fault rest) :
    ∃ left, unmarshalInto.run blank start = (left, some fault, rest) := by
  rw [unmarshalCbor, run_withTee] at failed
  exact mirrors_unmarshalInto.run_of_error failed

theorem marshalFields_eq_ok {fields : List UInt8} :
    pb.marshalFields = .ok fields ↔ ∃ destination sourceNode reportTo,
      pb.destination.marshalCbor = .ok destination ∧
      pb.sourceNode.marshalCbor = .ok sourceNode ∧ pb.reportTo.marshalCbor = .ok reportTo ∧
      fields = writeArrayLength pb.blockLen ++ writeUInt dtnVersion ++
        writeUInt pb.bundleControlFlags ++ writeUInt pb.crcType ++
        destination ++ sourceNode ++ reportTo ++ pb.creationTimestamp.marshalCbor ++
        writeUInt pb.lifetime ++ pb.marshalFragment := by
  unfold marshalFields
  constructor
  · intro marshalled
    obtain ⟨destination, first, marshalled⟩ := bind_eq_ok.mp marshalled
    obtain ⟨sourceNode, second, marshalled⟩ := bind_eq_ok.mp marshalled
    obtain ⟨reportTo, third, marshalled⟩ := bind_eq_ok.mp marshalled
    cases marshalled
    exact ⟨_, _, _, wrap_eq_ok.mp first, wrap_eq_ok.mp second, wrap_eq_ok.mp third, rfl⟩
  · rintro ⟨destination, sourceNode, reportTo, first, second, third, rfl⟩
    exact bind_eq_ok.mpr ⟨_, wrap_eq_ok.mpr first, bind_eq_ok.mpr
      ⟨_, wrap_eq_ok.mpr second, bind_eq_ok.mpr ⟨_, wrap_eq_ok.mpr third, rfl⟩⟩⟩

theorem marshalCbor_eq_ok [Crc16] {written : List UInt8} :
    pb.marshalCbor = .ok (written, left) ↔ ∃ fields crc, pb.marshalFields = .ok fields ∧
      appendCRC pb.crcType fields = .ok (written, crc) ∧ left = { pb with crc := crc.getD pb.crc } :=
  sealed_eq_ok fun crc => { pb with crc := crc.getD pb.crc }

private theorem reads_fragment (pb : PrimaryBlock) :
    Reads buffer (unmarshalFragment pb.blockLen) pb.marshalFragment
      (pb.announced.fragmentOffset, pb.announced.totalDataLength) := by
  unfold unmarshalFragment marshalFragment announced
  by_cases fragment : pb.hasFragmentation = true
  · rw [if_pos ((blockLen_fragment pb).mpr fragment)]
    simp only [fragment, ↓reduceIte]
    exact .bind (reads_uint _) (.before (reads_uint _) (.pure _))
  · rw [if_neg (fun long => fragment ((blockLen_fragment pb).mp long))]
    simp only [fragment]
    exact .pure _

private theorem reads_fields (formed : pb.EndpointsWellFormed)
    (marshalled : pb.marshalFields = .ok fields) :
    Reads buffer unmarshalFields fields (pb.blockLen,
      { pb.announced with version := dtnVersion, crc := [] }) := by
  obtain ⟨destination, sourceNode, reportTo, first, second, third, rfl⟩ :=
    marshalFields_eq_ok.mp marshalled
  obtain ⟨formedFirst, formedSecond, formedThird⟩ := formed
  simp only [append_assoc]
  refine .bind (reads_arrayLength _) (.after (.ensure (blockLen_fits pb)) ?_)
  refine .bind (reads_uint _) (.after (.ensure rfl) ?_)
  refine .bind (reads_uint _) (.bind (reads_uint _) ?_)
  refine .bind (.mapError (EndpointID.reads_marshalCbor formedFirst first)) ?_
  refine .bind (.mapError (EndpointID.reads_marshalCbor formedSecond second)) ?_
  refine .bind (.mapError (EndpointID.reads_marshalCbor formedThird third)) ?_
  refine .bind (.mapError (CreationTimestamp.reads_marshalCbor _)) ?_
  exact .bind (reads_uint _) (.before (reads_fragment pb) (.pure _))

/-- Decoding what the encoder wrote gives the block back, with the CRC the
encoder computed and without fragment fields the flag does not announce. -/
theorem reads_marshalCbor [Crc16] (formed : pb.EndpointsWellFormed)
    (version : pb.version = dtnVersion) (marshalled : pb.marshalCbor = .ok (written, left)) :
    Reads buffer unmarshalCbor written left.announced.fresh := by
  obtain ⟨fields, crc, first, sealed, rfl⟩ := marshalCbor_eq_ok.mp marshalled
  have body : ∀ buffer, Reads buffer unmarshalFields _ _ := fun buffer => reads_fields formed first
  refine .withTee ?_
  unfold fresh
  rw [← version] at body
  rcases appendCRC_eq_ok.mp sealed with ⟨no, rfl, rfl⟩ | ⟨some, crcVal, calculated, rfl, rfl⟩
  · have plain : pb.hasCRC = false := by simp [hasCRC, no]
    have stale : ({ pb with crc := pb.crc } : PrimaryBlock).announced.hasCRC = false := plain
    refine .before (body []) ?_
    rw [if_neg (fun long => by simp [(blockLen_crc pb).mp long] at plain)]
    simp only [Option.getD_none, stale]
    exact .pure _
  · have checked : pb.hasCRC = true := by simpa [hasCRC] using some
    have kept : ({ pb with crc := crcVal } : PrimaryBlock).announced.hasCRC = true := checked
    refine .bind (body []) ?_
    rw [if_pos ((blockLen_crc pb).mpr checked)]
    simp only [Option.getD_some, kept]
    exact .before (reads_checkCRC calculated) (.pure _)

private theorem tracks_unmarshalFragment (blockLen : UInt64) :
    Tracks (unmarshalFragment blockLen) := by
  unfold unmarshalFragment
  split
  · exact .bind (.primitive _) fun _ => .bind (.primitive _) fun _ => .pure _
  · exact .pure _

theorem tracks_unmarshalFields : Tracks unmarshalFields :=
  have eid : Tracks (mapError (.wrapped "EndpointID failed") EndpointID.unmarshalCbor) :=
    .mapError EndpointID.tracks_unmarshalCbor _
  .bind (.primitive _) fun _ => .bind (.ensure _ _) fun _ => .bind (.primitive _) fun _ =>
    .bind (.ensure _ _) fun _ => .bind (.primitive _) fun _ => .bind (.primitive _) fun _ =>
    .bind eid fun _ => .bind eid fun _ => .bind eid fun _ =>
    .bind (.mapError CreationTimestamp.tracks_unmarshalCbor _) fun _ => .bind (.primitive _) fun _ =>
    .bind (tracks_unmarshalFragment _) fun _ => .pure _

theorem tracks_unmarshalCbor [Crc16] : Tracks unmarshalCbor := by
  refine .withTee (.bind tracks_unmarshalFields fun block => ?_) _
  split
  · exact .bind (tracks_checkCRC _) fun _ => .pure _
  · exact .pure _

private theorem unmarshalFields_formed {length : UInt64}
    (read : unmarshalFields stream = .ok (length, pb) final) :
    pb.version = dtnVersion ∧ pb.EndpointsWellFormed ∧ pb.crc = [] ∧
      ∃ afterHead, readArrayLength.run stream.pending = .ok length afterHead := by
  obtain ⟨blockLen, afterHead, head, read⟩ := bind_eq_ok.mp read
  suffices formed : Yields _ fun parsed : UInt64 × PrimaryBlock => parsed.1 = blockLen ∧
      parsed.2.version = dtnVersion ∧ parsed.2.EndpointsWellFormed ∧ parsed.2.crc = [] by
    obtain ⟨rfl, version, endpoints, crc⟩ := formed read
    exact ⟨version, endpoints, crc, afterHead.pending, primitive_run head⟩
  exact .after fun _ => .after fun _ => .after fun _ => .after fun _ => .after fun _ =>
    .bind (.mapError unmarshalCbor_wellFormed) fun _ destination =>
    .bind (.mapError unmarshalCbor_wellFormed) fun _ sourceNode =>
    .bind (.mapError unmarshalCbor_wellFormed) fun _ reportTo =>
    .after fun _ => .after fun _ => .after fun _ =>
      .pure ⟨rfl, rfl, ⟨destination, sourceNode, reportTo⟩, rfl⟩

/-- The block at the start of the input has a CRC field, which lies as the
segments say. The array head is one of the fields. -/
def HasSegments (start : List UInt8) (pb : PrimaryBlock) (segments : CRCSegments) : Prop :=
  segments.head = [] ∧ ∃ blockLen, (blockLen = 9 ∨ blockLen = 11) ∧
    segments.Lies [] unmarshalFields (blockLen, { pb with crc := [] }) pb.crc start

theorem HasSegments.unique {segments other : CRCSegments} (first : HasSegments start pb segments)
    (second : HasSegments start pb other) : segments = other := by
  obtain ⟨head, blockLen, -, lies⟩ := first
  obtain ⟨headAgain, _, -, liesAgain⟩ := second
  have lengths := lies
  obtain ⟨_, -, read, -⟩ := lies
  obtain ⟨_, -, readAgain, -⟩ := id liesAgain
  rw [read] at readAgain
  injection readAgain with values
  cases values
  obtain ⟨fields, field⟩ := lengths.unique liesAgain
  cases segments
  cases other
  cases head
  cases headAgain
  cases fields
  cases field
  rfl

/-- The steps of an accepted block: the array length decides whether a CRC
field follows the fields. -/
private theorem unmarshalCbor_steps [Crc16] (accepted : unmarshalCbor.run start = .ok pb rest) :
    ∃ blockLen plain middle, unmarshalFields ⟨start, []⟩ = .ok (blockLen, plain) middle ∧
      ((¬(blockLen = 9 ∨ blockLen = 11) ∧ pb = plain ∧ middle.pending = rest) ∨
        ((blockLen = 9 ∨ blockLen = 11) ∧ ∃ buffer, calculateCRCBuff middle.teed plain.crcType = .ok pb.crc ∧
          readByteString middle = .ok pb.crc ⟨rest, buffer⟩ ∧ pb = { plain with crc := pb.crc })) := by
  obtain ⟨buffer, read⟩ := run_eq_ok.mp accepted
  obtain ⟨⟨final, teed⟩, read, same⟩ := withTee_eq_ok.mp read
  obtain ⟨⟨blockLen, plain⟩, middle, fields, read⟩ := bind_eq_ok.mp read
  refine ⟨blockLen, plain, middle, fields, ?_⟩
  by_cases long : blockLen = 9 ∨ blockLen = 11
  · rw [if_pos long] at read
    obtain ⟨crc, _, compared, read⟩ := bind_eq_ok.mp read
    obtain ⟨calculated, field⟩ := checkCRC_eq_ok.mp compared
    obtain ⟨rfl, rfl⟩ := pure_eq_ok.mp read
    cases same
    exact .inr ⟨long, teed, calculated, field, rfl⟩
  · rw [if_neg long] at read
    obtain ⟨rfl, rfl⟩ := pure_eq_ok.mp read
    cases same
    exact .inl ⟨long, rfl, rfl⟩

theorem HasSegments.long {segments : CRCSegments} (placed : HasSegments start pb segments) :
    ∃ length rest, readArrayLength.run start = .ok length rest ∧
      (length = 9 ∨ length = 11) := by
  obtain ⟨-, blockLen, long, _, -, read, -⟩ := placed
  obtain ⟨-, -, -, afterHead, head⟩ := unmarshalFields_formed read
  exact ⟨blockLen, afterHead, head, long⟩

variable [Crc16]

section

variable (accepted : unmarshalCbor.run start = .ok pb rest)

include accepted

/-- The two ways a block is accepted: without a CRC field, or with one that is
the CRC over what the buffer held. -/
theorem unmarshalCbor_accepted :
    (pb.crc = [] ∧ ∃ length afterHead, readArrayLength.run start = .ok length afterHead ∧
      ¬(length = 9 ∨ length = 11)) ∨
    ∃ segments, HasSegments start pb segments ∧
      calculateCRCBuff segments.fields pb.crcType = .ok pb.crc := by
  obtain ⟨blockLen, plain, middle, fields, outcome⟩ := unmarshalCbor_steps accepted
  obtain ⟨-, -, empty, afterHead, head⟩ := unmarshalFields_formed fields
  rcases outcome with ⟨short, rfl, -⟩ | ⟨long, buffer, calculated, field, same⟩
  · exact .inl ⟨empty, blockLen, afterHead, head, short⟩
  · have bare : plain = { pb with crc := [] } := by
      rw [same, ← empty]
    have crcType : plain.crcType = pb.crcType := by rw [same]
    obtain ⟨body, bytes, teed, lies⟩ :=
      CRCSegments.lies_of_read tracks_unmarshalFields fields field
    rw [teed, crcType] at calculated
    rw [bare] at lies
    exact .inr ⟨_, ⟨rfl, blockLen, long, lies []⟩, calculated⟩

theorem exists_hasSegments {length : UInt64}
    {afterHead : List UInt8} (head : readArrayLength.run start = .ok length afterHead)
    (long : length = 9 ∨ length = 11) : ∃ segments, HasSegments start pb segments ∧
      calculateCRCBuff segments.fields pb.crcType = .ok pb.crc := by
  refine (unmarshalCbor_accepted accepted).resolve_left ?_
  rintro ⟨-, _, _, again, short⟩
  rw [head] at again
  cases again
  exact short long

theorem HasSegments.calculated {segments : CRCSegments} (placed : HasSegments start pb segments) :
    calculateCRCBuff segments.fields pb.crcType = .ok pb.crc := by
  obtain ⟨length, afterHead, head, long⟩ := placed.long
  obtain ⟨found, again, calculated⟩ := exists_hasSegments accepted head long
  rw [placed.unique again, calculated]

theorem unmarshalCbor_formed :
    pb.version = dtnVersion ∧ pb.EndpointsWellFormed := by
  obtain ⟨blockLen, plain, middle, fields, outcome⟩ := unmarshalCbor_steps accepted
  obtain ⟨version, formed, -, -⟩ := unmarshalFields_formed fields
  rcases outcome with ⟨-, rfl, -⟩ | ⟨-, _, -, -, same⟩
  · exact ⟨version, formed⟩
  · rw [same]
    exact ⟨version, formed⟩

end

/-- A block that passes its check can be encoded if its CRC type is known. -/
theorem marshalCbor_of_known (known : pb.crcType.Known) (valid : pb.checkValid = []) :
    ∃ written left, pb.marshalCbor = .ok (written, left) := by
  simp only [checkValid, append_eq_nil_iff, Option.toList_eq_nil_iff] at valid
  obtain ⟨⟨⟨⟨_, first⟩, second⟩, third⟩, _⟩ := valid
  obtain ⟨destination, first⟩ := marshalCbor_of_valid first
  obtain ⟨sourceNode, second⟩ := marshalCbor_of_valid second
  obtain ⟨reportTo, third⟩ := marshalCbor_of_valid third
  obtain ⟨written, crc, sealed⟩ := appendCRC_known known _
  exact ⟨written, _, marshalCbor_eq_ok.mpr
    ⟨_, crc, marshalFields_eq_ok.mpr ⟨_, _, _, first, second, third, rfl⟩, sealed, rfl⟩⟩

theorem known_of_marshalCbor (marshalled : pb.marshalCbor = .ok (written, left)) :
    pb.crcType.Known := by
  obtain ⟨fields, crc, -, sealed, -⟩ := marshalCbor_eq_ok.mp marshalled
  exact known_of_appendCRC sealed

end PrimaryBlock

/-- The endpoint `dtn://` node `/`. -/
def nodeEndpoint (node : String) : EndpointID := ⟨some (.dtn ⟨ascii node, [], false⟩)⟩

/-- A primary block between two nodes, valid at the Unix epoch. -/
def primaryTo (destination : EndpointID) (crcType : CRCType) : PrimaryBlock :=
  ⟨7, 0, crcType, destination, nodeEndpoint "broker", nodeEndpoint "broker", ⟨1, 0⟩,
    60000, 0, 0, []⟩

end RecDtn.Bpv7
