import RecDtn.Store.Lifecycle
import RecDtn.Store.Loading

/-! Two bundles with different IDs in one store. -/

namespace RecDtn.Store

open Lang Bpv7 CanonicalBlock

/-- Blocks as the decoder makes them have a sender that can be read. -/
theorem sender_of_faithful {bundle : Bundle}
    (faithful : ∀ cb ∈ bundle.extensionBlocks, cb.Faithful) :
    ∃ previousNode, sender bundle = .ok previousNode := by
  unfold sender
  rcases Bundle.extensionBlockByType_cases (fun cb member => (faithful cb member).present)
      BlockType.previousNodeBlock with ⟨cb, only, found⟩ | ⟨-, cause, failed⟩
  · have listed : cb ∈ bundle.extensionBlocks.filter
        (ofType BlockType.previousNodeBlock) := by simp [only]
    obtain ⟨member, code⟩ := List.mem_filter.mp listed
    obtain ⟨value, held, managed, -⟩ := faithful cb member
    have pointed : cb.value = some value := held
    obtain ⟨endpoint, rfl⟩ := managed.previousNode_of_code
      (by simpa [ofType, pointed] using code)
    refine ⟨some endpoint, ?_⟩
    simp only [found, Go.attempt, Go.ok_bind, pointed]
    rfl
  · refine ⟨none, ?_⟩
    rw [failed]
    rfl

end RecDtn.Store

namespace RecDtn.Bpv7.Bundle.Storable

open Lang Store

variable [Cboring] [Crc16] {bundle : Bundle}

omit [Cboring] [Crc16] in
theorem wellFormed_id (storable : bundle.Storable) : bundle.id.WellFormed :=
  ⟨storable.faithful.endpoints.2.1, storable.fragment⟩

theorem insertable [Ed25519] {now : Time} (storable : bundle.Storable)
    (valid : bundle.checkValid now = .ok []) :
    ∃ previousNode, sender bundle = .ok previousNode ∧
      ∃ written sent, bundle.marshalCbor = .ok (written, sent) := by
  have extensions : ∀ cb ∈ bundle.extensionBlocks, cb.Faithful :=
    fun cb member => (storable.faithful.extensions cb member).1
  obtain ⟨previousNode, sent⟩ := sender_of_faithful extensions
  exact ⟨previousNode, sent,
    marshalCbor_of_known (fun cb member => (extensions cb member).managed)
      storable.faithful.payload.1.managed storable.crcTypes valid⟩

end RecDtn.Bpv7.Bundle.Storable

namespace RecDtn.Store

open Lang Bpv7

section

variable [Sha256] [Badgerhold] [Cboring] [Crc16]

namespace BundleStore

variable {bst : BundleStore} {bundle : Bundle} {written : List UInt8} {now : Time}

/-- On a disk without faults a new bundle that can be encoded is stored. -/
theorem insertBundle_fresh {previousNode : Option EndpointID} {left : Bundle}
    (free : bst.bundles.lookup bundle.id = none) (fresh : ¬bst.Recorded bundle.id.string)
    (sent : sender bundle = .ok previousNode) (encoded : bundle.marshalCbor = .ok (written, left)) :
    (bst.insertBundle .none bundle).1 = .ok bst.descriptors.length := by
  obtain ⟨data, inserted, -⟩ := Badgerhold.insert_fresh (bst.newMetadata bundle previousNode)
    (Classical.not_not.mp fresh)
  have record : unlessFault Faults.none.insert (Badgerhold.insert bst.metadataStore
      (bst.newMetadata bundle previousNode).idString (bst.newMetadata bundle previousNode)) = .ok data :=
    inserted
  simp only [insertBundle, free, insertNewBundleUnsafe, sent, record]
  simp [storeFile, Faults.none, encoded]

/-- The store after two insertions on an empty disk without faults. -/
def withBoth (nodeID : EndpointID) (first second : Bundle) : BundleStore :=
  run step (empty nodeID) [.insert first .none, .insert second .none]

/-- Both insertions hand back a descriptor. -/
def BothAnswered (nodeID : EndpointID) (first second : Bundle) : Prop :=
  (∃ ref, ((empty nodeID).insertBundle .none first).1 = .ok ref) ∧
    ∃ ref, (((empty nodeID).insertBundle .none first).2.insertBundle .none second).1 = .ok ref

/-- The descriptor of the bundle's ID loads the bundle, at any time and up to
CRC values. -/
def Loads [Ed25519] (bst : BundleStore) (bundle : Bundle) : Prop :=
  ∃ ref, bst.getBundleDescriptor bundle.id = .ok ref ∧
    ∀ now, ∃ loaded, bst.load now ref = .ok loaded ∧ loaded.stripCRC = bundle.stripCRC

/-- Two insertions into an empty store succeed, and each bundle can be loaded. -/
def KeptApart [Ed25519] (nodeID : EndpointID) (first second : Bundle) : Prop :=
  BothAnswered nodeID first second ∧ (withBoth nodeID first second).Loads first ∧
    (withBoth nodeID first second).Loads second

variable {nodeID : EndpointID} {first second : Bundle}

omit [Crc16] [Cboring] in
private theorem recorded_empty (nodeID : EndpointID) (key : List UInt8) :
    ¬(empty nodeID).Recorded key :=
  fun recorded => recorded (Badgerhold.find_empty key)

section

variable (answered : BothAnswered nodeID first second) (differ : first.id ≠ second.id)

include answered differ

theorem BothAnswered.inserted :
    Inserted (empty nodeID) first ((empty nodeID).insertBundle .none first).2 ∧
      Inserted ((empty nodeID).insertBundle .none first).2 second (withBoth nodeID first second) := by
  obtain ⟨⟨one, firstAnswer⟩, two, secondAnswer⟩ := answered
  obtain ⟨-, insertion⟩ := inserted_of_answer (AList.lookup_empty first.id) firstAnswer
  have free : ((empty nodeID).insertBundle .none first).2.bundles.lookup second.id = none := by
    rw [insertion.bundles, AList.lookup_insert_ne (Ne.symm differ)]
    exact AList.lookup_empty second.id
  exact ⟨insertion, (inserted_of_answer free secondAnswer).2⟩

theorem BothAnswered.live : ∀ bundle ∈ ({first, second} : Set Bundle),
      ∃ ref, (withBoth nodeID first second).registry.Live ref bundle.id := by
  obtain ⟨one, two⟩ := answered.inserted differ
  have registry := two.registry
  rw [one.registry] at registry
  rw [registry]
  rintro bundle (rfl | rfl)
  · exact ⟨_, Registry.live_issued.issued⟩
  · exact ⟨_, Registry.live_issued⟩

theorem BothAnswered.serves [Ed25519] (free : CollisionFree {first, second}) :
    ∀ bundle ∈ ({first, second} : Set Bundle), ∃ ref written sent, bundle.marshalCbor =
        .ok (written, sent) ∧ (withBoth nodeID first second).Serves bundle.id ref written := by
  have admitted : Inserts {first, second} [.insert first .none, .insert second .none] := by
    rintro action member bundle faults rfl
    simp only [List.mem_cons, List.not_mem_nil, or_false, Action.insert.injEq] at member
    exact member.imp And.left And.left
  have good := (good_empty {first, second} nodeID).run free admitted
  intro bundle member
  obtain ⟨ref, live⟩ := answered.live differ bundle member
  obtain ⟨stored, listed, same, written, sent, encoded, file⟩ :=
    good.filed.content ref bundle.id live
  have own : stored = bundle := by
    rcases listed with rfl | rfl <;> rcases member with rfl | rfl
    · rfl
    · exact absurd same differ
    · exact absurd same.symm differ
    · rfl
  subst own
  exact ⟨ref, written, sent, encoded, serves_of_live good.sound live file⟩

end

/-- A descriptor that serves the encoding of a bundle loads it exactly if the
bundle is storable. -/
theorem loads_iff [Ed25519] {ref : Ref} {sent : Bundle} (valid : bundle.checkValid now = .ok [])
    (encoded : bundle.marshalCbor = .ok (written, sent))
    (serves : bst.Serves bundle.id ref written) : bst.Loads bundle ↔ bundle.Storable := by
  obtain ⟨found, reads⟩ := serves
  constructor
  · rintro ⟨other, described, loads⟩
    obtain rfl : ref = other := Except.ok.inj (found.symm.trans described)
    obtain ⟨loaded, read, same⟩ := loads now
    rw [reads] at read
    exact storable_of_parsedBundle valid encoded read same
  · intro storable
    refine ⟨ref, found, fun later => ?_⟩
    rw [reads]
    exact parsedBundle_of_storable storable encoded later

/-- Bundles with different texts as their IDs do not get in each other's way. -/
theorem bothAnswered_of_storable [Ed25519] (valid : first.checkValid now = .ok [])
    (alsoValid : second.checkValid now = .ok []) (storable : first.Storable)
    (alsoStorable : second.Storable)
    (differ : first.id ≠ second.id) (texts : first.id.string ≠ second.id.string) :
    BothAnswered nodeID first second := by
  obtain ⟨_, sent, _, _, encoded⟩ := storable.insertable valid
  obtain ⟨_, alsoSent, _, _, alsoEncoded⟩ := alsoStorable.insertable alsoValid
  have answer := insertBundle_fresh (AList.lookup_empty first.id)
    (recorded_empty nodeID _) sent encoded
  obtain ⟨-, insertion⟩ := inserted_of_answer (AList.lookup_empty first.id) answer
  refine ⟨⟨_, answer⟩, _, insertBundle_fresh ?_ ?_ alsoSent alsoEncoded⟩
  · rw [insertion.bundles, AList.lookup_insert_ne (Ne.symm differ)]
    exact AList.lookup_empty second.id
  · intro recorded
    rcases (insertion.recorded _).mp recorded with same | before
    · exact texts same.symm
    · exact recorded_empty nodeID _ before

end BundleStore

open BundleStore in
/-- Two valid bundles with different IDs are kept apart exactly if both come back
from their encodings and neither ID reads like the other. -/
theorem keptApart_iff [Ed25519] {nodeID : EndpointID} {first second : Bundle} {now : Time}
    (valid : first.checkValid now = .ok []) (alsoValid : second.checkValid now = .ok [])
    (differ : first.id ≠ second.id) (free : CollisionFree {first, second}) :
    KeptApart nodeID first second ↔ first.Storable ∧ second.Storable ∧
      ¬first.id.ReadsLike second.id ∧ ¬second.id.ReadsLike first.id := by
  have loads : BothAnswered nodeID first second →
      ((withBoth nodeID first second).Loads first ↔ first.Storable) ∧
      ((withBoth nodeID first second).Loads second ↔ second.Storable) := by
    intro answered
    obtain ⟨_, _, _, encoded, serves⟩ := answered.serves differ free first (.inl rfl)
    obtain ⟨_, _, _, alsoEncoded, alsoServes⟩ := answered.serves differ free second (.inr rfl)
    exact ⟨loads_iff valid encoded serves, loads_iff alsoValid alsoEncoded alsoServes⟩
  constructor
  · rintro ⟨answered, firstLoads, secondLoads⟩
    obtain ⟨one, two⟩ := answered.inserted differ
    have texts : first.id.string ≠ second.id.string := by
      intro same
      exact two.fresh ((one.recorded _).mpr (.inl same.symm))
    refine ⟨(loads answered).1.mp firstLoads, (loads answered).2.mp secondLoads, ?_, ?_⟩
    · intro reads
      exact texts (BundleID.string_eq_iff.mpr (.inr (.inl reads)))
    · intro reads
      exact texts (BundleID.string_eq_iff.mpr (.inr (.inr reads)))
  · rintro ⟨firstStorable, secondStorable, notFirst, notSecond⟩
    have texts : first.id.string ≠ second.id.string := by
      intro same
      rcases BundleID.string_eq_iff.mp same with fields | reads | reads
      · exact differ (fields.eq firstStorable.wellFormed_id secondStorable.wellFormed_id)
      · exact notFirst reads
      · exact notSecond reads
    have answered : BothAnswered nodeID first second :=
      bothAnswered_of_storable valid alsoValid firstStorable secondStorable differ texts
    exact ⟨answered, (loads answered).1.mpr firstStorable, (loads answered).2.mpr secondStorable⟩

end

open BundleStore

open scoped Samples

def october : Time := 1760000000000000000

/-- A fragment from `dtn://sensor/log`, with a lifetime of some 35 years. -/
def logFragment : Bundle where
  primaryBlock :=
    { primaryTo (nodeEndpoint "executor") CRCType.crc32 with
      bundleControlFlags := BundleControlFlags.isFragment
      sourceNode := ⟨some (.dtn ⟨ascii "sensor", ascii "log", false⟩)⟩
      creationTimestamp := ⟨5, 6⟩
      lifetime := 1099511627776
      fragmentOffset := 1
      totalDataLength := 2 }
  extensionBlocks := []
  payloadBlock := ⟨1, 0, CRCType.crc32, [], some (.payload [42])⟩

/-- A whole bundle from `dtn://sensor/log-5-6`. -/
def numberedLog : Bundle where
  primaryBlock :=
    { primaryTo (nodeEndpoint "executor") CRCType.crc32 with
      sourceNode := ⟨some (.dtn ⟨ascii "sensor", ascii "log-5-6", false⟩)⟩
      creationTimestamp := ⟨1, 2⟩
      lifetime := 1099511627776 }
  extensionBlocks := []
  payloadBlock := ⟨1, 0, CRCType.crc32, [], some (.payload [7])⟩

/-- The same source and time without the numbers in the name. -/
def plainLog : Bundle :=
  { numberedLog with
    primaryBlock :=
      { numberedLog.primaryBlock with
        sourceNode := ⟨some (.dtn ⟨ascii "sensor", ascii "log", false⟩)⟩ } }

theorem plainLog_keptApart_iff :
    KeptApart (nodeEndpoint "broker") logFragment plainLog ↔ logFragment.Storable ∧
      plainLog.Storable ∧
      ¬logFragment.id.ReadsLike plainLog.id ∧ ¬plainLog.id.ReadsLike logFragment.id :=
  keptApart_iff (rfl : logFragment.checkValid october = .ok []) rfl (by decide)
    (fun _ _ _ _ same => same)

/-- Both IDs have the text `dtn://sensor/log-5-6-1-2`, so the second record is
refused. -/
theorem numberedLog_not_keptApart :
    logFragment.checkValid october = .ok [] ∧ numberedLog.checkValid october = .ok [] ∧
      logFragment.id ≠ numberedLog.id ∧ ¬KeptApart (nodeEndpoint "broker") logFragment numberedLog := by
  refine ⟨rfl, rfl, by decide, ?_⟩
  rintro ⟨⟨-, ref, answered⟩, -⟩
  cases answered

end RecDtn.Store
