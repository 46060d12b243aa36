import RecDtn.Bpv7.RoundTrip

namespace RecDtn.Bpv7

open Wire Lang

structure BundleID where
  sourceNode : EndpointID
  timestamp : CreationTimestamp
  isFragment : Bool
  fragmentOffset : UInt64
  totalDataLength : UInt64
  deriving DecidableEq

/-- The ID copies the fragment fields of every bundle, fragment or not. -/
def Bundle.id (b : Bundle) : BundleID where
  sourceNode := b.primaryBlock.sourceNode
  timestamp := b.primaryBlock.creationTimestamp
  isFragment := b.primaryBlock.bundleControlFlags.has BundleControlFlags.isFragment
  fragmentOffset := b.primaryBlock.fragmentOffset
  totalDataLength := b.primaryBlock.totalDataLength

namespace BundleID

def dash : UInt8 := 45

/-- A text followed by `-%d-%d`. -/
def withNumbers (text : List UInt8) (first second : UInt64) : List UInt8 :=
  field dash (field dash text first.toNat) second.toNat

/-- The part of the text every ID has. -/
def creationText (bid : BundleID) : List UInt8 :=
  withNumbers bid.sourceNode.string bid.timestamp.dtnTime bid.timestamp.sequenceNumber

def string (bid : BundleID) : List UInt8 :=
  if bid.isFragment then withNumbers bid.creationText bid.fragmentOffset bid.totalDataLength
  else bid.creationText

theorem withNumbers_inj {text other : List UInt8} :
    withNumbers text a b = withNumbers other c d ↔ text = other ∧ a = c ∧ b = d := by
  have mark : isDigit dash = false := by decide
  unfold withNumbers
  rw [field_inj mark, field_inj mark, and_assoc, UInt64.toNat_inj, UInt64.toNat_inj]

/-- The text of a whole bundle that reads like the text of a fragment: its
source ends in the fragment's timestamp, and its own timestamp is the
fragment's offset and total length. -/
def ReadsLike (whole fragment : BundleID) : Prop :=
  whole.isFragment = false ∧ fragment.isFragment = true ∧
    whole.sourceNode.string = fragment.creationText ∧
    whole.timestamp = ⟨fragment.fragmentOffset, fragment.totalDataLength⟩

instance (whole fragment : BundleID) : Decidable (whole.ReadsLike fragment) := by
  unfold ReadsLike
  infer_instance

/-- The fields that the text shows are the same. -/
def SameFields (bid other : BundleID) : Prop :=
  bid.isFragment = other.isFragment ∧ bid.sourceNode.string = other.sourceNode.string ∧
    bid.timestamp = other.timestamp ∧
    (bid.isFragment = true → bid.fragmentOffset = other.fragmentOffset ∧
      bid.totalDataLength = other.totalDataLength)

variable {bid other : BundleID}

theorem creationText_inj : bid.creationText = other.creationText ↔
      bid.sourceNode.string = other.sourceNode.string ∧ bid.timestamp = other.timestamp := by
  have times : bid.timestamp = other.timestamp ↔ bid.timestamp.dtnTime = other.timestamp.dtnTime ∧
      bid.timestamp.sequenceNumber = other.timestamp.sequenceNumber := by
    cases bid.timestamp
    cases other.timestamp
    simp
  unfold creationText
  rw [withNumbers_inj, times]

/-- The text of a fragment ends in a timestamp of its own if it is read as the
text of a whole bundle. -/
private theorem string_eq_fragment {whole fragment : BundleID} (isWhole : whole.isFragment = false)
    (isFragment : fragment.isFragment = true) :
    whole.string = fragment.string ↔ whole.ReadsLike fragment := by
  have times : whole.timestamp = ⟨fragment.fragmentOffset, fragment.totalDataLength⟩ ↔
      whole.timestamp.dtnTime = fragment.fragmentOffset ∧
        whole.timestamp.sequenceNumber = fragment.totalDataLength := by
    cases whole.timestamp
    simp
  unfold string ReadsLike
  rw [if_neg (by simp [isWhole]), if_pos isFragment, creationText, withNumbers_inj, times]
  simp [isWhole, isFragment]

/-- Two IDs share a text exactly if the text shows the same fields of both, or
one of them reads like the other. -/
theorem string_eq_iff : bid.string = other.string ↔
      bid.SameFields other ∨ bid.ReadsLike other ∨ other.ReadsLike bid := by
  cases first : bid.isFragment with
  | false =>
    cases second : other.isFragment with
    | false =>
      simp only [string, SameFields, ReadsLike, first, second, Bool.false_eq_true, ↓reduceIte]
      rw [creationText_inj]
      simp
    | true =>
      rw [string_eq_fragment first second]
      simp [SameFields, ReadsLike, first, second]
  | true =>
    cases second : other.isFragment with
    | false =>
      rw [eq_comm, string_eq_fragment second first]
      simp [SameFields, ReadsLike, first, second]
    | true =>
      simp only [string, SameFields, ReadsLike, first, second, ↓reduceIte]
      rw [withNumbers_inj, creationText_inj]
      simp [and_assoc]

/-- The endpoint can be told from its text, and a whole bundle has no fragment
fields. -/
structure WellFormed (bid : BundleID) : Prop where
  source : bid.sourceNode.WellFormed
  fields : bid.isFragment = true ∨ bid.fragmentOffset = 0 ∧ bid.totalDataLength = 0

theorem SameFields.eq (same : bid.SameFields other) (formed : bid.WellFormed)
    (otherFormed : other.WellFormed) : bid = other := by
  obtain ⟨flags, texts, times, fragments⟩ := same
  have sources := EndpointID.string_injective formed.source otherFormed.source texts
  obtain ⟨source, timestamp, isFragment, offset, length⟩ := bid
  obtain ⟨otherSource, otherTimestamp, otherIsFragment, otherOffset, otherLength⟩ := other
  obtain rfl : source = otherSource := sources
  obtain rfl : isFragment = otherIsFragment := flags
  obtain rfl : timestamp = otherTimestamp := times
  cases isFragment with
  | true =>
    obtain ⟨offsets, lengths⟩ := fragments rfl
    simp_all
  | false =>
    have zero := formed.fields
    have otherZero := otherFormed.fields
    simp_all

end BundleID

end RecDtn.Bpv7
