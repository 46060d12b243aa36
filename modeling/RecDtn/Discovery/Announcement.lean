import RecDtn.Bpv7.StatusReport

/-! Discovery packets, and what the decoders of the network ask the runtime for. -/

namespace RecDtn.Discovery

open Bpv7 Wire Lang

abbrev CLAType := UInt64

namespace CLAType

def tcpclv4 : CLAType := 0
def mtcp : CLAType := 10
def quicl : CLAType := 20

def unknownClaTypeString : String := "unknown CLA type"

def string (claType : CLAType) : String :=
  if claType = tcpclv4 then "TCPCLv4"
  else if claType = mtcp then "MTCP"
  else if claType = quicl then "QUICL"
  else unknownClaTypeString

def checkValid (claType : CLAType) : Option GoError :=
  if claType.string = unknownClaTypeString then some (.text unknownClaTypeString) else none

end CLAType

structure Announcement where
  type : CLAType
  endpoint : EndpointID
  port : UInt64

namespace Announcement

/-- The bytes of an announcement in a slice: two words and an interface. -/
def size : Nat := 32

variable [Cboring]

def unmarshalCbor : ByteReader Announcement := do
  let l ← Cboring.readArrayLength
  Reader.ensure (l = 3) (.text s!"wrong array length: {l} instead of 3")
  let n ← Cboring.readUInt
  Reader.lift (Go.check (CLAType.checkValid n))
  let endpoint ← Reader.mapError (.wrapped "unmarshalling endpoint failed") EndpointID.unmarshalCbor
  let port ← Cboring.readUInt
  return ⟨n, endpoint, port⟩

theorem tracks_unmarshalCbor : Tracks unmarshalCbor :=
  .bind (.primitive _) fun _ => .bind (.ensure _ _) fun _ => .bind (.primitive _) fun _ =>
    .bind (.lift (Go.settled_check _)) fun _ =>
      .bind (EndpointID.tracks_unmarshalCbor.mapError _) fun _ => .bind (.primitive _) fun _ => .pure _

end Announcement

section

variable [Cboring]

/-- The loop that fills the slice. -/
def unmarshalEach (l : UInt64) : ByteReader (List Announcement) :=
  Reader.repeated (fun i => Reader.mapError (.wrapped s!"unmarshalling Announcement {i} failed")
    Announcement.unmarshalCbor) 0 l.toNat

/-- The slice is made before any announcement is read. -/
def unmarshalAnnouncements : Metered UInt8 GoError (List Announcement) :=
  .sized maxAlloc Announcement.size Cboring.readArrayLength (fun l => l.toNat) unmarshalEach

theorem tracks_unmarshalEach (l : UInt64) : Tracks (unmarshalEach l) :=
  .repeated (fun _ => Announcement.tracks_unmarshalCbor.mapError _) _ _

/-- `notify`: the announcements that are handled. A packet that cannot be parsed
is logged. -/
def notify (payload : List UInt8) : Go (List Announcement) := do
  match ← Go.attempt (unmarshalAnnouncements.reader.runOn payload) with
  | .ok announcements => return announcements
  | .error _ => return []

variable [CboringBooleans]

/-- Neither decoder panics or asks for more elements than there are bytes. -/
def DecodersFrugal (input : List UInt8) : Prop :=
  unmarshalAnnouncements.Frugal input ∧ StatusReport.unmarshalCbor.Frugal input

/-- The lengths that the input declares are backed by its bytes: as a list of
announcements, and as the items of a status report. -/
def LengthsBacked (input : List UInt8) : Prop :=
  (∀ l rest, Cboring.readArrayLength.run input = .ok l rest →
    Metered.Backed maxAlloc Announcement.size input l.toNat) ∧
  ∀ head rest, StatusReport.unmarshalHead.run input = .ok head rest →
    Metered.Backed maxAlloc BundleStatusItem.size input (intOf head.2)

theorem decodersFrugal_iff_lengthsBacked (input : List UInt8) :
    DecodersFrugal input ↔ LengthsBacked input :=
  and_congr (Metered.frugal_sized_iff (.primitive _) tracks_unmarshalEach)
    (Metered.frugal_sized_iff StatusReport.tracks_unmarshalHead StatusReport.tracks_unmarshalBody)

end

section

attribute [local instance] standardCbor standardBooleans

/-- An array head that declares as many elements as a word can count. -/
def hugeHead : List UInt8 := [0x9b, 0xff, 0xff, 0xff, 0xff, 0xff, 0xff, 0xff, 0xff]

/-- Nine bytes of a packet, or ten of a report, end in a panic; five bytes make
the decoder ask for 65536 announcements. -/
theorem hugeHead_not_frugal :
    notify hugeHead = .error .panic ∧ ¬DecodersFrugal hugeHead ∧
      StatusReport.unmarshalCbor.reader.runOn (0x84 :: hugeHead) = .error .panic ∧
      ¬DecodersFrugal (0x84 :: hugeHead) ∧
      unmarshalAnnouncements.askedOn [0x9a, 0x00, 0x01, 0x00, 0x00] = [65536] ∧
      ¬DecodersFrugal [0x9a, 0x00, 0x01, 0x00, 0x00] := by
  have packet : unmarshalAnnouncements.reader.runOn hugeHead = .error .panic := rfl
  have report : StatusReport.unmarshalCbor.reader.runOn (0x84 :: hugeHead) = .error .panic := rfl
  have asked : unmarshalAnnouncements.askedOn [0x9a, 0x00, 0x01, 0x00, 0x00] = [65536] := rfl
  refine ⟨by rw [notify, packet]; rfl, ?_, report, ?_, asked, ?_⟩
  · intro frugal
    have settled := frugal.1.1
    rw [packet] at settled
    exact not_settled_panic settled
  · intro frugal
    have settled := frugal.2.1
    rw [report] at settled
    exact not_settled_panic settled
  · intro frugal
    have bounded := frugal.1.2 65536 (by rw [asked]; exact List.mem_singleton_self _)
    exact absurd bounded (by decide)

end

end RecDtn.Discovery
