import RecDtn.Agent.RecAgent
import RecDtn.Bpv7.Builder
import RecDtn.Lang.MessagePack

namespace RecDtn.Agent

open Wire Lang Bpv7 Lang.MessagePack Go List PrimaryBlock

/-- A map as the agent sees it. -/
abbrev Fields := List (List UInt8 × Value (List UInt8))

/-- A field with the option `omitempty`. -/
def omitEmpty (empty : Prop) [Decidable empty] (value : Value (List UInt8)) :
    Option (Value (List UInt8)) :=
  if empty then none else some value

namespace BundleData

def fields (data : BundleData) : List (List UInt8 × Option (Value (List UInt8))) :=
  [(ascii "type", some (.int data.type.toNat)),
    (ascii "source", some (.str data.source)),
    (ascii "destination", some (.str data.destination)),
    (ascii "payload", omitEmpty (data.payload = []) (.bin data.payload)),
    (ascii "success", some (.bool data.success)),
    (ascii "error", some (.str data.error)),
    (ascii "node_type", omitEmpty (data.nodeType = 0) (.int data.nodeType.toNat)),
    (ascii "submitter", omitEmpty (data.submitter = []) (.str data.submitter)),
    (ascii "named_data", omitEmpty (data.namedData = []) (.str data.namedData))]

def value (data : BundleData) : Value (List UInt8) := .dict (record data.fields)

end BundleData

/-- The text of an error is known when there is one. -/
def Reply.text (errorText : GoError → List UInt8) (reply : Reply) : List UInt8 :=
  match reply.error with
  | none => []
  | some cause => errorText cause

def FetchReply.value (errorText : GoError → List UInt8) (reply : FetchReply) : Value (List UInt8) :=
  .dict [(ascii "type", .int 4), (ascii "success", .bool reply.success),
    (ascii "error", .str (reply.text errorText)),
      (ascii "bundles", .array (reply.bundles.map BundleData.value))]

def FetchReply.marshal [Libraries] (errorText : GoError → List UInt8)
    (reply : FetchReply) : List UInt8 :=
  Libraries.marshal (reply.value errorText)

/-- A field of a structure that starts as its zero value, and keeps it without
an entry. -/
def field {α : Type} (read : Value (List UInt8) → Except String α) (zero : α) (key : String)
    (fields : Fields) : Except String α :=
  match find (ascii key) fields with
  | none | some .nil => .ok zero
  | some value => read value

def readBool : Value (List UInt8) → Except String Bool
  | .bool value => .ok value
  | _ => .error "msgpack: invalid code decoding bool"

/-- Texts and byte strings are read into both. -/
def readBytes : Value (List UInt8) → Except String (List UInt8)
  | .str data | .bin data => .ok data
  | _ => .error "msgpack: invalid code decoding string/bytes length"

def readUint8 [Libraries] : Value (List UInt8) → Except String UInt8
  | .int number => Libraries.uint8 number
  | _ => .error "msgpack: invalid code decoding uint64"

/-- The map behind a structure. -/
def readFields : Value (List UInt8) → Except String Fields
  | .dict fields => .ok fields
  | .nil => .ok []
  | _ => .error "msgpack: invalid code decoding map length"

variable [Libraries]

def BundleData.ofValue (value : Value (List UInt8)) : Except String BundleData := do
  let fields ← readFields value
  return {
    type := ← field readUint8 0 "type" fields
    source := ← field readBytes [] "source" fields
    destination := ← field readBytes [] "destination" fields
    payload := ← field readBytes [] "payload" fields
    success := ← field readBool false "success" fields
    error := ← field readBytes [] "error" fields
    nodeType := ← field readUint8 0 "node_type" fields
    submitter := ← field readBytes [] "submitter" fields
    namedData := ← field readBytes [] "named_data" fields }

/-- `msgpack.Unmarshal` by the library. -/
@[reducible] def Msgpack.ofLibraries : Msgpack where
  unmarshalBundleData data :=
    (do BundleData.ofValue (← Libraries.unmarshal data) : Except _ _).mapError GoError.text

/-- What `handleConnection` makes of a message, and hands to one of the handlers. -/
inductive Request where
  | register (endpointID : List UInt8)
  | fetch (message : Fetch)
  | bundleCreate (bundle : BundleData)
  | other

/-- The type of the message says what the rest of it is. -/
def Request.ofFields (fields : Fields) : Except String Request := do
  let type ← field readUint8 0 "type" fields
  if type = 2 then return .register (← field readBytes [] "endpoint_id" fields)
  else if type = 3 then
    return .fetch ⟨← field readBytes []
      "endpoint_id" fields, ← field readUint8 0 "node_type" fields⟩
  else if type = 5 then
    return .bundleCreate (← BundleData.ofValue ((find (ascii "bundle") fields).getD .nil))
  else return .other

def Request.decode (msgBytes : List UInt8) : Except String Request := do
  Request.ofFields (← readFields (← Libraries.unmarshal msgBytes))

/-- Two readings of the clock, for the creation timestamp and for the check. -/
structure Clock where
  created : Time
  checked : Time

section

variable [Cboring] [Crc16] [Ed25519] [GoSort]

/-- The bundle of a request: one hour to live, and a block with its type. -/
def createBundle (clock : Clock) (message : BundleData) : Go Bundle := do
  let srcAddress ← newEndpointID message.source
  let dstAddress ← newEndpointID message.destination
  let payload := Libraries.marshal message.value
  let bldr := ((((BundleBuilder.new.source srcAddress).destination dstAddress).creationTimestamp
    (dtnTimeFromTime clock.created)).lifetime 3600000).payloadBlock payload
  (bldr.canonical (.recBundleType message.type.toUInt64) 0).build clock.checked

/-- The reply, and the bundle that is sent. -/
def handleCreate (clock : Clock) (message : BundleData) : Go (Reply × Option Bundle) := do
  match ← Go.attempt (createBundle clock message) with
  | .ok bndl => return (⟨true, none⟩, some bndl)
  | .error cause => return (⟨false, some cause⟩, none)

variable {clock : Clock} {message : BundleData} {bndl : Bundle} {srcAddress dstAddress : EndpointID}

theorem handleCreate_eq_ok {reply : Reply} : handleCreate clock message = .ok (reply, some bndl) ↔
      createBundle clock message = .ok bndl ∧ reply = ⟨true, none⟩ := by
  unfold handleCreate
  constructor
  · intro handled
    obtain ⟨outcome, attempted, handled⟩ := bind_eq_ok.mp handled
    cases outcome with
    | error cause => cases handled
    | ok made =>
      cases handled
      exact ⟨attempt_eq_ok.mp attempted, rfl⟩
  · rintro ⟨made, rfl⟩
    rw [attempt_eq_ok.mpr made]
    rfl

/-- The payload is the message in the form of the agent. -/
theorem payload_of_createBundle (made : createBundle clock message = .ok bndl) :
    bndl.payloadBlock.value = some (.payload (Libraries.marshal message.value)) := by
  obtain ⟨srcAddress, -, made⟩ := bind_eq_ok.mp made
  obtain ⟨dstAddress, -, made⟩ := bind_eq_ok.mp made
  rw [BundleBuilder.payload_of_build made]
  rfl

/-- The clock shows a time after the start of the year 2000, and the hour has
not passed when the bundle is checked. -/
def Clock.Running (clock : Clock) : Prop :=
  dtnTimeFromTime clock.created ≠ 0 ∧
    clock.checked ≤ (dtnTimeFromTime clock.created).time + lifetimeDuration 3600000

/-- The bundle before its CRCs are set. -/
def draft (clock : Clock) (srcAddress dstAddress : EndpointID) (message : BundleData) : Bundle where
  primaryBlock := ⟨dtnVersion, 0, CRCType.crcNo, dstAddress, srcAddress, srcAddress,
    ⟨dtnTimeFromTime clock.created, 0⟩, 3600000, 0, 0, []⟩
  extensionBlocks := [newCanonicalBlock 2 0 (.recBundleType message.type.toUInt64)]
  payloadBlock := newCanonicalBlock 1 0 (.payload (Libraries.marshal message.value))

omit [GoSort] in
theorem checkValid_draft (running : clock.Running) (source : srcAddress.checkValid = none)
    (destination : dstAddress.checkValid = none) (sender : srcAddress ≠ EndpointID.dtnNone)
    (message : BundleData) :
    (draft clock srcAddress dstAddress message).checkValid clock.checked = .ok [] := by
  refine Bundle.checkValid_eq_nil.mpr ⟨?_, ?_, ?_, rfl, ?_, ?_⟩
  · simp [draft, checkValid, source, destination, sender, BundleControlFlags.checkValid,
      BundleControlFlags.has]
  · intro cb member
    rcases mem_append.mp member with extension | last
    · cases mem_singleton.mp extension
      rfl
    · cases mem_singleton.mp last
      rfl
  · exact (by decide : BlockControlFlags.has 0 BlockControlFlags.statusReportBlock = false)
  · simp [draft, Bundle.checkAge, CreationTimestamp.isZeroTime, running.1, pure, Except.pure]
  · simp [draft, Bundle.isLifetimeExceeded, CreationTimestamp.isZeroTime, running.1, running.2,
      pure, Except.pure]

theorem createBundle_eq_ok (running : clock.Running)
    (source : newEndpointID message.source = .ok srcAddress)
    (destination : newEndpointID message.destination = .ok dstAddress)
    (sender : srcAddress ≠ EndpointID.dtnNone) :
    createBundle clock message =
      .ok ((draft clock srcAddress dstAddress message).setCRCType CRCType.crcNo) := by
  have present : ∀ {uri : List UInt8} {eid : EndpointID}, newEndpointID uri = .ok eid →
      eid ≠ ⟨none⟩ := by
    rintro uri eid read rfl
    cases checkValid_of_newEndpointID read
  let before := draft clock srcAddress dstAddress message
  have sorted : GoSort.sort canonicalBlockLess before.extensionBlocks = before.extensionBlocks :=
    perm_singleton.mp (GoSort.perm canonicalBlockLess _)
  have reporting : reporting { before.primaryBlock with reportTo := ⟨none⟩ } =
      before.primaryBlock :=
    if_pos rfl
  have set : ¬(before.primaryBlock.sourceNode = ⟨none⟩ ∨
      before.primaryBlock.destination = ⟨none⟩) :=
    not_or.mpr ⟨present source, present destination⟩
  have valid : before.checkValid clock.checked = .ok [] := checkValid_draft running
    (checkValid_of_newEndpointID source) (checkValid_of_newEndpointID destination) sender message
  have built : BundleBuilder.build ⟨none, { before.primaryBlock with reportTo := ⟨none⟩ },
      before.extensionBlocks, 3,
      before.payloadBlock, CRCType.crcNo⟩ clock.checked = .ok (before.setCRCType CRCType.crcNo) := by
    unfold BundleBuilder.build
    dsimp only [Go.check]
    rw [reporting, sorted, ok_bind, if_neg set, Bundle.ensureValid, valid]
    rfl
  rw [createBundle, source, ok_bind, destination, ok_bind]
  exact built

end

end RecDtn.Agent
