import RecDtn.Bpv7.BundleId
import RecDtn.Lang.Runtime
import RecDtn.Wire.Metered

namespace RecDtn.Bpv7

open Wire Lang Cboring CboringBooleans Reader Go List

namespace BundleID

/-- The number of fields that are written. -/
def len (bid : BundleID) : UInt64 := if bid.isFragment then 4 else 2

variable [Cboring]

def marshalCbor (bid : BundleID) : Go (List UInt8) := do
  let source ← Go.wrap "marshalling source node failed" bid.sourceNode.marshalCbor
  return source ++ (bid.timestamp.marshalCbor ++
    if bid.isFragment then
      writeUInt bid.fragmentOffset ++ writeUInt bid.totalDataLength
    else [])

/-- Into a fresh ID whose fragment flag is already set. -/
def unmarshalCbor (isFragment : Bool) : ByteReader BundleID := do
  let source ← mapError (.wrapped "unmarshalling source node failed") EndpointID.unmarshalCbor
  let timestamp ← mapError (.wrapped "unmarshalling timestamp failed")
    CreationTimestamp.unmarshalCbor
  if isFragment then do
    let offset ← readUInt
    let length ← readUInt
    return ⟨source, timestamp, true, offset, length⟩
  else return ⟨source, timestamp, false, 0, 0⟩

variable {bid : BundleID}

theorem reads_marshalCbor (formed : bid.WellFormed) (marshalled : bid.marshalCbor = .ok written) :
    Reads buffer (unmarshalCbor bid.isFragment) written bid := by
  obtain ⟨source, encoded, marshalled⟩ := Go.bind_eq_ok.mp marshalled
  cases marshalled
  have fields := formed.fields
  obtain ⟨node, timestamp, isFragment, offset, length⟩ := bid
  refine .bind (.mapError (EndpointID.reads_marshalCbor formed.source (wrap_eq_ok.mp encoded))) ?_
  refine .bind (.mapError timestamp.reads_marshalCbor) ?_
  cases isFragment with
  | true => exact .bind (reads_uint _) (.before (reads_uint _) (.pure _))
  | false =>
    obtain ⟨rfl, rfl⟩ : offset = 0 ∧ length = 0 := by simpa using fields
    exact .pure _

theorem tracks_unmarshalCbor (isFragment : Bool) : Tracks (unmarshalCbor isFragment) := by
  refine .bind (EndpointID.tracks_unmarshalCbor.mapError _) fun source => ?_
  refine .bind (CreationTimestamp.tracks_unmarshalCbor.mapError _) fun timestamp => ?_
  cases isFragment with
  | true => exact .bind (.primitive _) fun _ => .bind (.primitive _) fun _ => .pure _
  | false => exact .pure _

/-- The source of an ID that was read survives its encoding. -/
theorem source_wellFormed (isFragment : Bool) :
    Yields (unmarshalCbor isFragment) fun bid => bid.sourceNode.WellFormed := by
  refine .bind (.mapError EndpointID.unmarshalCbor_wellFormed) fun source formed =>
    .after fun timestamp => ?_
  cases isFragment with
  | true => exact .after fun _ => .after fun _ => .pure formed
  | false => exact .pure formed

theorem marshalCbor_of_valid (valid : bid.sourceNode.checkValid = none) :
    ∃ written, bid.marshalCbor = .ok written := by
  obtain ⟨source, encoded⟩ := EndpointID.marshalCbor_of_valid valid
  unfold marshalCbor
  rw [wrap_eq_ok.mpr encoded]
  exact ⟨_, rfl⟩

end BundleID

structure BundleStatusItem where
  asserted : Bool
  time : DtnTime
  statusRequested : Bool
  deriving DecidableEq

namespace BundleStatusItem

def newBundleStatusItem (asserted : Bool) : BundleStatusItem := ⟨asserted, 0, false⟩

def newTimeReportingBundleStatusItem (time : DtnTime) : BundleStatusItem := ⟨true, time, true⟩

/-- The bytes of an item in a slice: a word for the time and each of the flags. -/
def size : Nat := 24

/-- A time stands only in an item whose assertion asked for it. -/
def Plain (bsi : BundleStatusItem) : Prop :=
  (bsi.asserted = true ∧ bsi.statusRequested = true) ∨
    (bsi.time = 0 ∧ bsi.statusRequested = false)

variable [Cboring] [CboringBooleans]

def marshalCbor (bsi : BundleStatusItem) : List UInt8 :=
  let arrLen : UInt64 := if bsi.asserted && bsi.statusRequested then 2 else 1
  writeArrayLength arrLen ++ (writeBoolean bsi.asserted ++
    if arrLen = 2 then writeUInt bsi.time else [])

/-- Into a fresh item. -/
def unmarshalCbor : ByteReader BundleStatusItem := do
  let arrLen ← readArrayLength
  ensure (arrLen = 1 ∨ arrLen = 2)
    (.text s!"BundleStatusItem: Array's length is {arrLen}, not 1 or 2")
  let asserted ← readBoolean
  if arrLen = 2 then do
    let time ← readUInt
    return ⟨asserted, time, true⟩
  else return ⟨asserted, 0, false⟩

theorem reads_marshalCbor {bsi : BundleStatusItem} (plain : bsi.Plain) :
    Reads buffer unmarshalCbor bsi.marshalCbor bsi := by
  obtain ⟨asserted, time, statusRequested⟩ := bsi
  rcases plain with ⟨rfl, rfl⟩ | ⟨rfl, rfl⟩
  · exact .bind (reads_arrayLength 2) (.after (.ensure (.inr rfl))
      (.bind (reads_boolean true) (.before (reads_uint time) (.pure _))))
  · have short : marshalCbor ⟨asserted, 0, false⟩ =
        writeArrayLength 1 ++ writeBoolean asserted := by
      simp [marshalCbor]
    rw [short]
    exact .bind (reads_arrayLength 1) (.after (.ensure (.inl rfl))
      (.before (reads_boolean asserted) (.pure _)))

theorem tracks_unmarshalCbor : Tracks unmarshalCbor := by
  refine .bind (.primitive _) fun arrLen => .bind (.ensure _ _) fun _ =>
    .bind (.primitive _) fun _ => ?_
  split
  · exact .bind (.primitive _) fun _ => .pure _
  · exact .pure _

end BundleStatusItem

abbrev StatusReportReason := UInt64

/-- An `int`, of which `ReceivedBundle`, `ForwardedBundle`, `DeliveredBundle`
and `DeletedBundle` are the first four. -/
abbrev StatusInformationPos := Int

def maxStatusInformationPos : Nat := 4

structure StatusReport where
  statusInformation : List BundleStatusItem
  reportReason : StatusReportReason
  refBundle : BundleID
  deriving DecidableEq

namespace StatusReport

def newItem (bndl : Bundle) (statusItem : StatusInformationPos) (time : DtnTime)
    (sip : StatusInformationPos) : BundleStatusItem :=
  if sip = statusItem then
    if bndl.primaryBlock.bundleControlFlags.has BundleControlFlags.requestStatusTime then
      .newTimeReportingBundleStatusItem time
    else .newBundleStatusItem true
  else .newBundleStatusItem false

def newStatusReport (bndl : Bundle) (statusItem : StatusInformationPos)
    (reason : StatusReportReason) (time : DtnTime) : StatusReport where
  statusInformation := (List.range maxStatusInformationPos).map fun i =>
    newItem bndl statusItem time i
  reportReason := reason
  refBundle := bndl.id

theorem newItem_plain (bndl : Bundle) (statusItem sip : StatusInformationPos) (time : DtnTime) :
    (newItem bndl statusItem time sip).Plain := by
  unfold newItem
  split
  · split
    · exact .inl ⟨rfl, rfl⟩
    · exact .inr ⟨rfl, rfl⟩
  · exact .inr ⟨rfl, rfl⟩

variable [Cboring] [CboringBooleans]

def marshalCbor (sr : StatusReport) : Go (List UInt8) := do
  let refBundle ← Go.wrap "Marshalling BundleID failed" sr.refBundle.marshalCbor
  return writeArrayLength (2 + sr.refBundle.len) ++
    (writeArrayLength sr.statusInformation.length.toUInt64 ++
      (sr.statusInformation.flatMap BundleStatusItem.marshalCbor ++
        (writeUInt sr.reportReason ++ refBundle)))

/-- The two array lengths: whether the bundle is a fragment, and the number of
status items. -/
def unmarshalHead : ByteReader (Bool × UInt64) := do
  let n ← readArrayLength
  ensure (n = 4 ∨ n = 6) (.text s!"Expected array of length 4 or 6, got {n}")
  let items ← readArrayLength
  return (n = 6, items)

def unmarshalItem : ByteReader BundleStatusItem :=
  mapError (.wrapped "Unmarshalling BundleStatusItem failed") BundleStatusItem.unmarshalCbor

/-- What follows the two lengths. -/
def unmarshalBody (head : Bool × UInt64) : ByteReader StatusReport := do
  let statusInformation ← Reader.repeated (fun _ => unmarshalItem) 0 (intOf head.2).toNat
  let reportReason ← readUInt
  let refBundle ← mapError (.wrapped "Unmarshalling BundleID failed")
    (BundleID.unmarshalCbor head.1)
  return ⟨statusInformation, reportReason, refBundle⟩

/-- Into a fresh report. The slice of the items is made before any item is read. -/
def unmarshalCbor : Metered UInt8 GoError StatusReport :=
  .sized maxAlloc BundleStatusItem.size unmarshalHead (fun head => intOf head.2) unmarshalBody

omit [CboringBooleans] in
theorem tracks_unmarshalHead : Tracks unmarshalHead :=
  .bind (.primitive _) fun _ => .bind (.ensure _ _) fun _ => .bind (.primitive _) fun _ => .pure _

theorem tracks_unmarshalBody (head : Bool × UInt64) : Tracks (unmarshalBody head) :=
  .bind (.repeated (fun _ => BundleStatusItem.tracks_unmarshalCbor.mapError _) _ _) fun _ =>
    .bind (.primitive _) fun _ =>
      .bind ((BundleID.tracks_unmarshalCbor _).mapError _) fun _ => .pure _

/-- What reads back a report: plain items that fit into a slice, and an ID that
survives its encoding. -/
structure WellFormed (sr : StatusReport) : Prop where
  items : ∀ item ∈ sr.statusInformation, item.Plain
  fits : sr.statusInformation.length * BundleStatusItem.size ≤ maxAlloc
  refBundle : sr.refBundle.WellFormed

omit [CboringBooleans] in
private theorem reads_head (bid : BundleID) (items : UInt64) : Reads buffer unmarshalHead
      (writeArrayLength (2 + bid.len) ++ writeArrayLength items) (bid.isFragment, items) := by
  refine .bind (reads_arrayLength _) ?_
  unfold BundleID.len
  cases bid.isFragment with
  | true => exact .after (.ensure (.inr rfl)) (.before (reads_arrayLength items) (.pure _))
  | false => exact .after (.ensure (.inl rfl)) (.before (reads_arrayLength items) (.pure _))

variable {sr : StatusReport}

theorem reads_marshalCbor (formed : sr.WellFormed) (marshalled : sr.marshalCbor = .ok written) :
    Reads buffer unmarshalCbor.reader written sr := by
  obtain ⟨refBundle, encoded, marshalled⟩ := Go.bind_eq_ok.mp marshalled
  cases marshalled
  have bound : sr.statusInformation.length < 2 ^ 63 := by
    have fits := formed.fits
    have heap : maxAlloc = 281474976710656 := rfl
    unfold BundleStatusItem.size at fits
    omega
  have count : sr.statusInformation.length.toUInt64.toNat = sr.statusInformation.length :=
    toNat_toUInt64 (by omega)
  have length : intOf sr.statusInformation.length.toUInt64 = sr.statusInformation.length := by
    rw [intOf_eq (by omega), count]
  have fits : 0 ≤ intOf sr.statusInformation.length.toUInt64 ∧
      intOf sr.statusInformation.length.toUInt64 * BundleStatusItem.size ≤ maxAlloc := by
    rw [length]
    exact ⟨Int.natCast_nonneg _, by exact_mod_cast formed.fits⟩
  rw [← append_assoc]
  refine Metered.reads_sized (reads_head sr.refBundle _) fits ?_
  simp only [unmarshalBody, length, Int.toNat_natCast]
  have each : ∀ item ∈ sr.statusInformation, ∀ (position : Nat) (buffer : List UInt8),
      Reads buffer unmarshalItem item.marshalCbor item := by
    intro item member position buffer
    exact .mapError (BundleStatusItem.reads_marshalCbor (formed.items item member))
  refine .bind (Reads.repeated each 0 _) (.bind (reads_uint _) (.before (.mapError ?_) (.pure _)))
  exact BundleID.reads_marshalCbor formed.refBundle (wrap_eq_ok.mp encoded)

/-- The source that a report names survives its encoding, if the report was read. -/
theorem source_wellFormed : Yields unmarshalCbor.reader fun sr =>
    sr.refBundle.sourceNode.WellFormed :=
  .after fun _ => .after fun _ => .after fun _ => .after fun _ =>
    .bind (.mapError (BundleID.source_wellFormed _)) fun _ formed => .pure formed

theorem marshalCbor_of_valid (valid : sr.refBundle.sourceNode.checkValid = none) :
    ∃ written, sr.marshalCbor = .ok written := by
  obtain ⟨refBundle, encoded⟩ := BundleID.marshalCbor_of_valid valid
  unfold marshalCbor
  rw [wrap_eq_ok.mpr encoded]
  exact ⟨_, rfl⟩

end StatusReport

/-- The types that implement the interface. -/
inductive RecordType where
  | statusReport
  deriving DecidableEq

inductive AdministrativeRecord where
  | statusReport (report : StatusReport)
  deriving DecidableEq

def adminRecordTypeStatusReport : UInt64 := 1

def RecordType.recordTypeCode : RecordType → UInt64
  | statusReport => adminRecordTypeStatusReport

namespace AdministrativeRecord

def recordType : AdministrativeRecord → RecordType
  | statusReport _ => .statusReport

def marshalCbor [Cboring] [CboringBooleans] : AdministrativeRecord → Go (List UInt8)
  | statusReport report => report.marshalCbor

end AdministrativeRecord

/-- The types by their codes. -/
structure AdministrativeRecordManager where
  data : List (UInt64 × RecordType)

namespace AdministrativeRecordManager

def newAdministrativeRecordManager : AdministrativeRecordManager := ⟨[]⟩

/-- `Register`: a code keeps the type it was registered for first. -/
def register (arm : AdministrativeRecordManager) (arType : RecordType) :
    AdministrativeRecordManager × Option GoError :=
  match arm.data.lookup arType.recordTypeCode with
  | some .statusReport => (arm, some (.text
      s!"record type code {arType.recordTypeCode} is already registered for StatusReport"))
  | none => (⟨(arType.recordTypeCode, arType) :: arm.data⟩, none)

/-- The singleton with its defaults. -/
def getAdministrativeRecordManager : AdministrativeRecordManager :=
  (newAdministrativeRecordManager.register .statusReport).1

variable [Cboring] [CboringBooleans]

def writeAdministrativeRecord (ar : AdministrativeRecord) : Go (List UInt8) := do
  let written ← Go.wrap "marshalling AdministrativeRecord erred" ar.marshalCbor
  return writeArrayLength 2 ++ (writeUInt ar.recordType.recordTypeCode ++ written)

/-- The reads in front of the record: its type, if it is registered. -/
def readRecordType (arm : AdministrativeRecordManager) : ByteReader (UInt64 × RecordType) := do
  let n ← readArrayLength
  ensure (n = 2) (.text s!"expected CBOR array of length 2, got {n}")
  let typeCode ← readUInt
  match arm.data.lookup typeCode with
  | none => fail (.text s!"no AdministrativeRecord registered for record type code {typeCode}")
  | some arType => return (typeCode, arType)

def readAdministrativeRecord (arm : AdministrativeRecordManager) :
    Metered UInt8 GoError AdministrativeRecord := do
  let (typeCode, arType) ← .read arm.readRecordType
  match arType with
  | .statusReport => do
    let report ← .mapError
      (.wrapped s!"unmarshalling AdministrativeRecord with type code {typeCode} failed")
      StatusReport.unmarshalCbor
    return .statusReport report

end AdministrativeRecordManager

open AdministrativeRecordManager

section

theorem StatusReport.newStatusReport_wellFormed (source : b.primaryBlock.sourceNode.WellFormed)
    (fields : b.primaryBlock.FragmentFieldsFit) (position : StatusInformationPos)
    (reason : StatusReportReason)
    (time : DtnTime) : (newStatusReport b position reason time).WellFormed where
  items := by
    intro item member
    obtain ⟨i, -, rfl⟩ := mem_map.mp member
    exact newItem_plain b position i time
  fits := by
    simp only [newStatusReport, length_map]
    decide
  refBundle := ⟨source, fields⟩

variable [Cboring] [CboringBooleans]

omit [CboringBooleans] in
private theorem reads_recordType : Reads buffer (readRecordType getAdministrativeRecordManager)
      (writeArrayLength 2 ++ writeUInt adminRecordTypeStatusReport)
      (adminRecordTypeStatusReport, .statusReport) :=
  .bind (reads_arrayLength 2) (.after (.ensure rfl)
    (.before (reads_uint adminRecordTypeStatusReport) (.pure _)))

/-- The report is read back as it was, from exactly the bytes it was written to. -/
def StatusReport.Survives (report : StatusReport) : Prop :=
  ∃ written, writeAdministrativeRecord (.statusReport report) = .ok written ∧
    ∀ rest, (readAdministrativeRecord getAdministrativeRecordManager).reader.run
      (written ++ rest) = .ok (.statusReport report) rest

variable {report : StatusReport} {b : Bundle}

theorem StatusReport.WellFormed.survives (formed : report.WellFormed)
    (valid : report.refBundle.sourceNode.checkValid = none) : report.Survives := by
  obtain ⟨body, marshalled⟩ := StatusReport.marshalCbor_of_valid valid
  have written : writeAdministrativeRecord (.statusReport report) =
      .ok (writeArrayLength 2 ++ (writeUInt adminRecordTypeStatusReport ++ body)) := by
    unfold writeAdministrativeRecord
    rw [AdministrativeRecord.marshalCbor, marshalled]
    rfl
  have read : Reads [] (readAdministrativeRecord getAdministrativeRecordManager).reader
      (writeArrayLength 2 ++ writeUInt adminRecordTypeStatusReport ++ body)
      (.statusReport report) :=
    .bind reads_recordType
      (.before (.mapError (StatusReport.reads_marshalCbor formed marshalled)) (.pure _))
  refine ⟨_, written, ?_⟩
  intro rest
  rw [← append_assoc]
  exact read.run rest

theorem StatusReport.Survives.source (survives : report.Survives) :
    report.refBundle.sourceNode.WellFormed := by
  obtain ⟨written, -, read⟩ := survives
  obtain ⟨buffer, read⟩ := run_eq_ok.mp (read [])
  obtain ⟨known, _, -, read⟩ := Reader.bind_eq_ok.mp read
  obtain ⟨typeCode, arType⟩ := known
  cases arType with
  | statusReport =>
    obtain ⟨found, _, decoded, read⟩ := Reader.bind_eq_ok.mp read
    obtain ⟨same, -⟩ := pure_eq_ok.mp read
    cases same
    exact StatusReport.source_wellFormed (mapError_eq_ok.mp decoded)

/-- Every report on the bundle survives the wire and names the bundle. -/
def Bundle.Reportable (b : Bundle) : Prop :=
  ∀ position reason time, (StatusReport.newStatusReport b position reason time).Survives ∧
    (StatusReport.newStatusReport b position reason time).refBundle = b.id

omit [CboringBooleans] in
theorem Bundle.source_valid [Crc16] [Ed25519] {now : Time} (valid : b.checkValid now = .ok []) :
    b.primaryBlock.sourceNode.checkValid = none :=
  (PrimaryBlock.checkValid_eq_nil.mp (checkValid_eq_nil.mp valid).1).2.2.2.1

/-- A valid bundle can be reported on exactly if its source survives its
encoding. -/
theorem reportable_iff_source_wellFormed [Crc16] [Ed25519] {b : Bundle} {now : Time}
    (valid : b.checkValid now = .ok []) (fields : b.primaryBlock.FragmentFieldsFit) :
    b.Reportable ↔ b.primaryBlock.sourceNode.WellFormed := by
  constructor
  · intro reportable
    exact (reportable 0 0 0).1.source
  · intro source position reason time
    have formed := StatusReport.newStatusReport_wellFormed source fields position reason time
    exact ⟨formed.survives (Bundle.source_valid valid), rfl⟩

end

section

open scoped Samples

attribute [local instance] standardBooleans

/-- The second half of a bundle, from an endpoint of the other scheme. It asks
for times in its reports. -/
def trackedFragment : Bundle :=
  ⟨{ primaryTo (nodeEndpoint "executor") CRCType.crc32 with
      bundleControlFlags := BundleControlFlags.isFragment ||| BundleControlFlags.requestStatusTime
      sourceNode := ⟨some (.ipn ⟨23, 42⟩)⟩
      fragmentOffset := 1
      totalDataLength := 2 }, [],
    ⟨1, 0, CRCType.crc16, [], some (.payload [42])⟩⟩

theorem trackedFragment_reportable :
    trackedFragment.checkValid 0 = .ok [] ∧ trackedFragment.primaryBlock.FragmentFieldsFit ∧
      trackedFragment.Reportable := by
  have valid : trackedFragment.checkValid 0 = .ok [] := rfl
  have fields : trackedFragment.primaryBlock.FragmentFieldsFit := .inl rfl
  exact ⟨valid, fields, (reportable_iff_source_wellFormed valid fields).mpr (by decide)⟩

/-- A source whose node name holds a slash passes its check. -/
def slashedSource : Bundle :=
  ⟨{ primaryTo (nodeEndpoint "executor") CRCType.crcNo with sourceNode := nodeEndpoint "a/b" },
    [], ⟨1, 0, CRCType.crcNo, [], some (.payload [])⟩⟩

/-- The report that is read names another source. -/
theorem slashedSource_not_reportable :
    slashedSource.checkValid 0 = .ok [] ∧ slashedSource.primaryBlock.FragmentFieldsFit ∧
      ¬slashedSource.Reportable := by
  refine ⟨rfl, .inr ⟨rfl, rfl⟩, ?_⟩
  intro reportable
  exact absurd (reportable 0 0 0).1.source (by decide)

end

end RecDtn.Bpv7
