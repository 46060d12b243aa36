import RecDtn.Lang.Run
import RecDtn.Store.Effects

/-! Insertions and deletions in any order. -/

namespace RecDtn.Store

open Lang Bpv7

section

variable [Sha256] [Badgerhold]

/-- The calls on the store, each with what the disk does to it, and the
goroutines that finish deletions. A call runs under the locks it takes. -/
inductive Action where
  | insert (bundle : Bundle) (faults : Faults)
  | perform (ref : Ref) (operation : Operation)
  | addKnownHolder (ref : Ref) (peers : List EndpointID) (faults : Faults)
  | setMiscData (ref : Ref) (key : String) (value : UInt64) (faults : Faults)
  | garbageCollect (order : RangeOrder Ref) (now : Time)
  | deleteBundle (position : Nat) (faults : Faults)

/-- No two of the texts have the same hash. -/
def CollisionFree (inserted : Set Bundle) : Prop :=
  ∀ bundle ∈ inserted, ∀ other ∈ inserted,
    Sha256.sum256 bundle.id.string = Sha256.sum256 other.id.string →
      bundle.id.string = other.id.string

omit [Badgerhold] in
theorem fileName_ne {inserted : Set Bundle} {bundle other : Bundle} (free : CollisionFree inserted)
    (member : bundle ∈ inserted) (listed : other ∈ inserted)
    (different : bundle.id.string ≠ other.id.string) :
    fileName bundle.id.string ≠ fileName other.id.string := by
  intro same
  exact different (free bundle member other listed (hexBytes_injective same))

namespace BundleStore

def step [Cboring] [Crc16] (bst : BundleStore) : Action → BundleStore
  | .insert bundle faults => (bst.insertBundle faults bundle).2
  | .perform ref operation => (bst.perform ref operation).2
  | .addKnownHolder ref peers faults => (bst.addKnownHolder faults ref peers).2
  | .setMiscData ref key value faults => (bst.setMiscData faults ref key value).2
  | .garbageCollect order now => bst.garbageCollect order now
  | .deleteBundle position faults => bst.deleteBundle faults position

/-- No descriptor is added, and the disk keeps its files and the keys of its
records. -/
structure Narrows (bst left : BundleStore) : Prop where
  index : ∀ bid ref, left.registry.index bid = some ref → bst.registry.index bid = some ref
  live : ∀ ref bid, left.registry.Live ref bid → bst.registry.Live ref bid
  recorded : ∀ key, left.Recorded key ↔ bst.Recorded key
  files : left.bundleDirectory = bst.bundleDirectory

theorem Narrows.refl (bst : BundleStore) : Narrows bst bst :=
  ⟨fun _ _ => id, fun _ _ => id, fun _ => .rfl, rfl⟩

theorem Narrows.trans {bst middle left : BundleStore} (first : Narrows bst middle)
    (second : Narrows middle left) : Narrows bst left where
  index bid ref found := first.index bid ref (second.index bid ref found)
  live ref bid live := first.live ref bid (second.live ref bid live)
  recorded key := (second.recorded key).trans (first.recorded key)
  files := second.files.trans first.files

theorem narrows_perform (bst : BundleStore) (ref : Ref) (operation : Operation) :
    Narrows bst (bst.perform ref operation).2 := by
  cases pointed : bst.descriptors[ref]? with
  | none =>
    simp only [perform, pointed]
    exact .refl bst
  | some bd =>
    have disk : (bst.perform ref operation).2.metadataStore = bst.metadataStore ∧
        (bst.perform ref operation).2.bundleDirectory = bst.bundleDirectory := by
      simp [perform, pointed]
    have recorded : ∀ key, (bst.perform ref operation).2.Recorded key ↔ bst.Recorded key := by
      intro key
      rw [Recorded, disk.1, Recorded]
    rcases registry_perform pointed operation with same | ⟨live, revoked⟩
    · refine ⟨?_, ?_, recorded, disk.2⟩
      · intro bid found index
        rwa [same] at index
      · intro found bid alive
        rwa [same] at alive
    · have ticket : bst.registry.Live ref bd.metadata.id := live_iff.mpr ⟨bd, pointed, rfl, live⟩
      refine ⟨?_, ?_, recorded, disk.2⟩
      · intro bid found index
        rwa [revoked] at index
      · intro found bid alive
        rw [revoked] at alive
        exact (Registry.live_of_revoked ticket alive).2

theorem narrows_garbageCollect (bst : BundleStore) (order : RangeOrder Ref) (now : Time) :
    Narrows bst (bst.garbageCollect order now) := by
  apply garbageCollect_induction Narrows
  · exact .refl
  · exact .trans
  · exact fun state ref markIfConstraint => narrows_perform state ref (.delete markIfConstraint)

variable {faults : Faults} {ref : Ref} {bundle : Bundle} {action : Action} {bid : BundleID}
  {actions : List Action}

theorem narrows_withMetadata {bst : BundleStore} {bd : BundleDescriptor} {metadata : BundleMetadata}
    (pointed : bst.descriptors[ref]? = some bd) (same : metadata.id = bd.metadata.id) :
    Narrows bst (bst.withMetadata faults ref bd metadata) := by
  have registry : (bst.withMetadata faults ref bd metadata).registry = bst.registry :=
    registry_withMetadata pointed same
  refine ⟨fun _ _ => by rw [registry]; exact id, fun _ _ => by rw [registry]; exact id, ?_, rfl⟩
  intro key
  simp only [Recorded, withMetadata]
  cases updated : bst.updateBundleMetadata faults metadata with
  | error cause => rfl
  | ok next =>
    obtain ⟨known, records⟩ := Badgerhold.find_update (unlessFault_eq_ok updated)
    change Badgerhold.find next key ≠ none ↔ _
    rw [records]
    by_cases here : key = metadata.idString
    · rw [if_pos here, here]
      simp [known]
    · rw [if_neg here]

theorem narrows_addKnownHolder (bst : BundleStore) (faults : Faults) (ref : Ref)
    (peers : List EndpointID) : Narrows bst (bst.addKnownHolder faults ref peers).2 := by
  unfold addKnownHolder
  split
  · exact .refl bst
  · rename_i bd pointed
    split
    · exact .refl bst
    · exact narrows_withMetadata pointed rfl

theorem narrows_setMiscData (bst : BundleStore) (faults : Faults) (ref : Ref) (key : String)
    (value : UInt64) : Narrows bst (bst.setMiscData faults ref key value).2 := by
  unfold setMiscData
  split
  · exact .refl bst
  · rename_i bd pointed
    exact narrows_withMetadata pointed rfl

variable [Cboring] [Crc16]

/-- The file of an ID holds the encoding of this bundle. -/
def Files (bst : BundleStore) (bid : BundleID) (bundle : Bundle) : Prop :=
  ∃ written sent, bundle.marshalCbor = .ok (written, sent) ∧
    bst.bundleDirectory.lookup (fileName bid.string) = some written

/-- The IDs in the store have records of their own, and the file of a live
descriptor holds a bundle with its ID. All of them come from `inserted`. -/
structure Filed (inserted : Set Bundle) (bst : BundleStore) : Prop where
  recorded : ∀ bid ref, bst.registry.index bid = some ref → bst.Recorded bid.string
  apart : ∀ bid ref other found, bst.registry.index bid = some ref →
    bst.registry.index other = some found → bid.string = other.string → bid = other
  known : ∀ bid ref, bst.registry.index bid = some ref → ∃ bundle ∈ inserted, bundle.id = bid
  content : ∀ ref bid, bst.registry.Live ref bid → ∃ bundle ∈ inserted, bundle.id = bid ∧
    bst.Files bid bundle

/-- The next store keeps every bundle in its file, and does not touch the file
of a descriptor that stays alive. -/
structure Carries (inserted : Set Bundle) (bst left : BundleStore) : Prop where
  filed : Filed inserted left
  files : ∀ ref bid, bst.registry.Live ref bid → left.registry.Live ref bid →
    left.bundleDirectory.lookup (fileName bid.string) =
      bst.bundleDirectory.lookup (fileName bid.string)

variable {inserted : Set Bundle} {bst left : BundleStore}

section

variable (filed : Filed inserted bst)

include filed

theorem Filed.narrows (narrows : Narrows bst left) : Carries inserted bst left := by
  refine ⟨⟨?_, ?_, ?_, ?_⟩, fun _ _ _ _ => by rw [narrows.files]⟩
  · intro bid ref found
    exact (narrows.recorded _).mpr (filed.recorded bid ref (narrows.index bid ref found))
  · intro bid ref other found first second
    exact filed.apart bid ref other found (narrows.index bid ref first)
      (narrows.index other found second)
  · intro bid ref found
    exact filed.known bid ref (narrows.index bid ref found)
  · intro ref bid live
    obtain ⟨bundle, member, same, written, sent, encoded, file⟩ :=
      filed.content ref bid (narrows.live ref bid live)
    exact ⟨bundle, member, same, written, sent, encoded, by rw [narrows.files, file]⟩

/-- A call that works on the record and the file of one text only, while no ID
that stays in the store has this text. -/
theorem Filed.frame (sound : left.registry.Sound) (free : CollisionFree inserted)
    (member : bundle ∈ inserted)
    (disk : SameDiskBut bundle.id.string bst left)
    (index : ∀ bid ref, left.registry.index bid = some ref →
      bst.registry.index bid = some ref ∧ bid.string ≠ bundle.id.string)
    (live : ∀ ref bid, left.registry.Live ref bid → bst.registry.Live ref bid) :
    Carries inserted bst left := by
  have files : ∀ ref bid, left.registry.Live ref bid →
      left.bundleDirectory.lookup (fileName bid.string) = bst.bundleDirectory.lookup (fileName bid.string) := by
    intro ref bid alive
    obtain ⟨found, different⟩ := index bid ref (sound.live ref bid alive)
    obtain ⟨other, listed, rfl⟩ := filed.known bid ref found
    exact disk.files _ (fileName_ne free listed member different)
  refine ⟨⟨?_, ?_, ?_, ?_⟩, fun ref bid _ => files ref bid⟩
  · intro bid ref found
    obtain ⟨before, different⟩ := index bid ref found
    rw [Recorded, disk.records _ different]
    exact filed.recorded bid ref before
  · intro bid ref other found first second
    exact filed.apart bid ref other found (index bid ref first).1 (index other found second).1
  · intro bid ref found
    exact filed.known bid ref (index bid ref found).1
  · intro ref bid alive
    obtain ⟨stored, listed, same, written, sent, encoded, file⟩ :=
      filed.content ref bid (live ref bid alive)
    exact ⟨stored, listed, same, written, sent, encoded, (files ref bid alive).trans file⟩

theorem Filed.add (sound : bst.registry.Sound) (free : CollisionFree inserted)
    (member : bundle ∈ inserted)
    (insertion : Inserted bst bundle left) : Carries inserted bst left := by
  obtain ⟨written, sent, encoded, directory⟩ := insertion.written
  have other : ∀ bid ref, bst.registry.index bid = some ref →
      bid.string ≠ bundle.id.string := by
    intro bid ref found texts
    apply insertion.fresh
    rw [← texts]
    exact filed.recorded bid ref found
  have files : ∀ ref bid, bst.registry.Live ref bid →
      left.bundleDirectory.lookup (fileName bid.string) = bst.bundleDirectory.lookup (fileName bid.string) := by
    intro ref bid alive
    have found := sound.live ref bid alive
    obtain ⟨stored, listed, rfl⟩ := filed.known bid ref found
    rw [directory]
    exact AList.lookup_insert_ne (fileName_ne free listed member (other _ ref found))
  have index : ∀ bid ref, left.registry.index bid = some ref →
      bid = bundle.id ∨ bst.registry.index bid = some ref := by
    intro bid ref found
    rw [insertion.registry] at found
    by_cases same : bid = bundle.id
    · exact .inl same
    · exact .inr ((if_neg same).symm.trans found)
  refine ⟨⟨?_, ?_, ?_, ?_⟩, fun ref bid alive _ => files ref bid alive⟩
  · intro bid ref found
    rcases index bid ref found with rfl | before
    · exact (insertion.recorded _).mpr (.inl rfl)
    · exact (insertion.recorded _).mpr (.inr (filed.recorded bid ref before))
  · intro bid ref second found first next texts
    rcases index bid ref first with rfl | before
    · rcases index second found next with rfl | earlier
      · rfl
      · exact absurd texts.symm (other second found earlier)
    · rcases index second found next with rfl | earlier
      · exact absurd texts (other bid ref before)
      · exact filed.apart bid ref second found before earlier texts
  · intro bid ref found
    rcases index bid ref found with rfl | before
    · exact ⟨bundle, member, rfl⟩
    · exact filed.known bid ref before
  · intro ref bid alive
    rw [insertion.registry] at alive
    rcases Registry.live_of_issued alive with older | ⟨-, rfl⟩
    · obtain ⟨stored, listed, same, content, left, marshalled, file⟩ := filed.content ref bid older
      exact ⟨stored, listed, same, content, left, marshalled, (files ref bid older).trans file⟩
    · exact ⟨bundle, member, rfl, written, sent, encoded, by rw [directory, AList.lookup_insert]⟩

theorem Filed.deleteBundle (sound : bst.registry.Sound) (free : CollisionFree inserted)
    (faults : Faults)
    (position : Nat) : Carries inserted bst (bst.deleteBundle faults position) := by
  have after := sound.leads (bst.deleteBundle_leads faults position)
  cases waiting : bst.deletions[position]? with
  | none =>
    simp only [BundleStore.deleteBundle, waiting]
    exact filed.narrows (.refl bst)
  | some metadata =>
    obtain ⟨old, oldIndex, gone⟩ := sound.waiting metadata.id
      (List.mem_map_of_mem (List.mem_of_getElem? waiting))
    obtain ⟨bundle, member, same⟩ := filed.known metadata.id old oldIndex
    have cleared := registry_deleteBundle faults waiting
    have disk : SameDiskBut bundle.id.string bst (bst.deleteBundle faults position) := by
      rw [same, ← metadata.idString_eq]
      simp only [BundleStore.deleteBundle, waiting]
      obtain ⟨records, files⟩ := deleteFromDiskUnsafe_disk
        { bst with
          bundles := bst.bundles.erase metadata.id
          deletions := bst.deletions.eraseIdx position : BundleStore } faults metadata
      exact ⟨records, files⟩
    apply filed.frame after free member disk
    · intro bid ref found
      rw [cleared] at found
      by_cases here : bid = metadata.id
      · cases (if_pos here).symm.trans found
      · have before : bst.registry.index bid = some ref := (if_neg here).symm.trans found
        refine ⟨before, fun texts => here ?_⟩
        rw [same] at texts
        exact filed.apart bid ref metadata.id old before oldIndex texts
    · intro ref bid alive
      rw [cleared] at alive
      exact alive

theorem Filed.insert (sound : bst.registry.Sound) (free : CollisionFree inserted)
    (member : bundle ∈ inserted) : Carries inserted bst (bst.insertBundle faults bundle).2 := by
  have after := sound.leads (bst.insertBundle_leads faults bundle)
  have outcome := bst.insertBundle_cases faults bundle
  generalize bst.insertBundle faults bundle = result at outcome after
  -- An ID of the store has a record, so its text is not that of a new bundle.
  have other : ¬bst.Recorded bundle.id.string →
      ∀ bid ref, bst.registry.index bid = some ref → bid.string ≠ bundle.id.string := by
    intro fresh bid ref found texts
    rw [← texts] at fresh
    exact fresh (filed.recorded bid ref found)
  cases outcome with
  | failed fault left memory disk =>
    rcases disk with rfl | ⟨fresh, disk⟩
    · exact filed.narrows (.refl _)
    · apply filed.frame after free member disk
      · intro bid ref found
        rw [memory.registry] at found
        exact ⟨found, other fresh bid ref found⟩
      · intro ref bid alive
        rw [memory.registry] at alive
        exact alive
  | known ref found unsent => exact filed.narrows (.refl bst)
  | noted ref bd metadata found pointed live same destined =>
    exact filed.narrows (narrows_withMetadata pointed same)
  | new left insertion => exact filed.add sound free member insertion

end

theorem step_leads (bst : BundleStore) (action : Action) :
    bst.registry.Leads (bst.step action).registry := by
  cases action with
  | insert bundle faults => exact bst.insertBundle_leads faults bundle
  | perform ref operation => exact bst.perform_leads ref operation
  | addKnownHolder ref peers faults =>
    rw [step, registry_addKnownHolder]
    exact .refl
  | setMiscData ref key value faults =>
    rw [step, registry_setMiscData]
    exact .refl
  | garbageCollect order now => exact bst.garbageCollect_leads order now
  | deleteBundle position faults => exact bst.deleteBundle_leads faults position

/-- An action that inserts one of these bundles, or none at all. -/
def Admitted (inserted : Set Bundle) (action : Action) : Prop :=
  ∀ bundle faults, action = .insert bundle faults → bundle ∈ inserted

/-- A sound registry, with every bundle in its own file. -/
structure Good (inserted : Set Bundle) (bst : BundleStore) : Prop where
  sound : bst.registry.Sound
  filed : Filed inserted bst

theorem Good.carries (good : Good inserted bst) (free : CollisionFree inserted)
    (admitted : Admitted inserted action) : Carries inserted bst (bst.step action) := by
  cases action with
  | insert bundle faults => exact good.filed.insert good.sound free (admitted bundle faults rfl)
  | perform ref operation => exact good.filed.narrows (narrows_perform bst ref operation)
  | addKnownHolder ref peers faults =>
    exact good.filed.narrows (narrows_addKnownHolder bst faults ref peers)
  | setMiscData ref key value faults =>
    exact good.filed.narrows (narrows_setMiscData bst faults ref key value)
  | garbageCollect order now => exact good.filed.narrows (narrows_garbageCollect bst order now)
  | deleteBundle position faults => exact good.filed.deleteBundle good.sound free faults position

theorem Good.step (good : Good inserted bst) (free : CollisionFree inserted)
    (admitted : Admitted inserted action) : Good inserted (bst.step action) :=
  ⟨good.sound.leads (bst.step_leads action), (good.carries free admitted).filed⟩

theorem good_empty (inserted : Set Bundle) (nodeID : EndpointID) : Good inserted (empty nodeID) := by
  refine ⟨Registry.sound_empty, ?_, ?_, ?_, ?_⟩
  · intro bid ref found
    cases found
  · intro bid ref other found first
    cases first
  · intro bid ref found
    cases found
  · intro ref bid live
    cases live

/-- The descriptor has been deleted, or its file is still this one. -/
def Keeps (ref : Ref) (bid : BundleID) (content : Option (List UInt8)) (bst : BundleStore) : Prop :=
  bst.registry.Revoked ref bid ∨
    bst.registry.Live ref bid ∧ bst.bundleDirectory.lookup (fileName bid.string) = content

variable {content : Option (List UInt8)}

theorem Good.keeps (good : Good inserted bst) (free : CollisionFree inserted)
    (admitted : Admitted inserted action)
    (kept : Keeps ref bid content bst) : Keeps ref bid content (bst.step action) := by
  have leads := bst.step_leads action
  rcases kept with gone | ⟨alive, file⟩
  · exact .inl (gone.leads leads)
  · rcases alive.leads leads with still | gone
    · exact .inr ⟨still, ((good.carries free admitted).files ref bid alive still).trans file⟩
    · exact .inl gone

def Inserts (inserted : Set Bundle) (actions : List Action) : Prop :=
  ∀ action ∈ actions, Admitted inserted action

theorem Inserts.guarded (admitted : Inserts inserted actions) :
    Guarded step (fun _ action => Admitted inserted action) bst actions := by
  intro before action after same
  exact admitted action (by simp [same])

theorem Good.run (good : Good inserted bst) (free : CollisionFree inserted)
    (admitted : Inserts inserted actions) : Good inserted (Lang.run BundleStore.step bst actions) :=
  run_invariant (Good inserted) good (fun _ _ good admitted => good.step free admitted)
    admitted.guarded

theorem Good.run_keeps (good : Good inserted bst) (free : CollisionFree inserted)
    (admitted : Inserts inserted actions) (kept : Keeps ref bid content bst) :
    Keeps ref bid content (Lang.run BundleStore.step bst actions) := by
  have outcome := run_invariant (fun state => Good inserted state ∧ Keeps ref bid content state)
    ⟨good, kept⟩
    (fun _ _ reached admitted => ⟨reached.1.step free admitted,
      reached.1.keeps free admitted reached.2⟩)
    admitted.guarded
  exact outcome.2

def Deleted (bst : BundleStore) (ref : Ref) : Prop :=
  ∃ bd, bst.descriptors[ref]? = some bd ∧ bd.deleted = true

/-- `GetBundleDescriptor` finds the descriptor, and its `Load` reads these bytes. -/
def Serves [Ed25519] (bst : BundleStore) (bid : BundleID) (ref : Ref) (written : List UInt8) : Prop :=
  bst.getBundleDescriptor bid = .ok ref ∧ ∀ now, bst.load now ref = parsedBundle now written

theorem serves_of_live [Ed25519] {written : List UInt8} (sound : bst.registry.Sound)
    (live : bst.registry.Live ref bid)
    (file : bst.bundleDirectory.lookup (fileName bid.string) = some written) :
    bst.Serves bid ref written := by
  have index : bst.bundles.lookup bid = some ref := sound.live ref bid live
  obtain ⟨bd, pointed, rfl, alive⟩ := live_iff.mp live
  constructor
  · simp only [getBundleDescriptor, index, pointed, Go.deref, Go.ok_bind, alive]
    rfl
  · intro now
    rw [← bd.metadata.idString_eq, ← bd.metadata.serialisedFileName_eq] at file
    exact load_of_fileOf ⟨bd, pointed, alive, file⟩

/-- `ExtensionBlockByType` finds no Previous Node Block, or more than one. -/
def Anonymous (bundle : Bundle) : Prop :=
  ∃ cause, bundle.extensionBlockByType BlockType.previousNodeBlock = .error (.error cause)

omit [Sha256] [Badgerhold] [Cboring] [Crc16] in
theorem sender_eq_none : sender bundle = .ok none ↔ Anonymous bundle := by
  unfold sender Anonymous
  cases found : bundle.extensionBlockByType BlockType.previousNodeBlock with
  | ok cb =>
    simp only [Go.attempt, Go.ok_bind]
    split <;> simp [pure, Except.pure]
  | error fault =>
    cases fault with
    | error cause => simp [Go.attempt, pure, Except.pure]
    | panic => simp [Go.attempt]
    | spin => simp [Go.attempt]

/-- Between the two phases of a deletion, bundles that are inserted again say
where they come from. -/
def WindowGuard (bst : BundleStore) : Action → Prop
  | .insert bundle _ =>
    ∀ ref, bst.bundles.lookup bundle.id = some ref → bst.Deleted ref → ¬Anonymous bundle
  | _ => True

theorem live_of_insert (sound : bst.registry.Sound)
    (guarded : bst.WindowGuard (.insert bundle faults))
    (answered : (bst.insertBundle faults bundle).1 = .ok ref) :
    (bst.insertBundle faults bundle).2.registry.Live ref bundle.id := by
  have outcome := bst.insertBundle_cases faults bundle
  generalize bst.insertBundle faults bundle = result at outcome answered
  cases outcome with
  | failed fault left memory disk => cases answered
  | known found index unsent =>
    cases answered
    rcases sound.own bundle.id ref index with live | gone
    · exact live
    · obtain ⟨bd, pointed, -, deleted⟩ := revoked_iff.mp gone
      exact absurd (sender_eq_none.mp unsent) (guarded ref index ⟨bd, pointed, deleted⟩)
  | noted found bd metadata index pointed alive same destined =>
    cases answered
    have live : bst.registry.Live ref bd.metadata.id := live_iff.mpr ⟨bd, pointed, rfl, alive⟩
    rw [registry_withMetadata pointed same]
    rcases sound.own bundle.id ref index with live | gone
    · exact live
    · exact absurd gone live.not_revoked
  | new left insertion =>
    cases answered
    rw [insertion.registry, ← List.length_map]
    exact Registry.live_issued

/-- The content of a new descriptor is the bundle it was made for. -/
theorem files_of_insert (free : bst.bundles.lookup bundle.id = none)
    (answered : (bst.insertBundle faults bundle).1 = .ok ref) :
    (bst.insertBundle faults bundle).2.Files bundle.id bundle := by
  obtain ⟨written, sent, encoded, directory⟩ := (inserted_of_answer free answered).2.written
  exact ⟨written, sent, encoded, by rw [directory, AList.lookup_insert]⟩

/-- What the descriptor that is handed back stands for. -/
theorem exists_stored (good : Good inserted (bst.insertBundle faults bundle).2)
    (listed : bundle ∈ inserted)
    (live : (bst.insertBundle faults bundle).2.registry.Live ref bundle.id)
    (answered : (bst.insertBundle faults bundle).1 = .ok ref) :
    ∃ stored ∈ inserted, ∃ written sent, stored.marshalCbor = .ok (written, sent) ∧
      (bst.insertBundle faults bundle).2.bundleDirectory.lookup (fileName bundle.id.string) = some written ∧
      stored.id = bundle.id ∧ (bst.bundles.lookup bundle.id = none → stored = bundle) := by
  by_cases free : bst.bundles.lookup bundle.id = none
  · obtain ⟨written, sent, encoded, file⟩ := files_of_insert free answered
    exact ⟨bundle, listed, written, sent, encoded, file, rfl, fun _ => rfl⟩
  · obtain ⟨stored, member, bid, written, sent, encoded, file⟩ :=
      good.filed.content ref bundle.id live
    exact ⟨stored, member, written, sent, encoded, file, bid, fun absent => absurd absent free⟩

def insertedBy (actions : List Action) : Set Bundle :=
  {bundle | ∃ faults, .insert bundle faults ∈ actions}

/-- Whenever an insertion hands back a descriptor, this descriptor is not
deleted, and until it is, it can be found and serves the same bytes: the
encoding of an inserted bundle with that ID, and of the bundle itself if the ID
was not in the store. -/
def Lossless [Ed25519] (nodeID : EndpointID) (actions : List Action) : Prop :=
  ∀ before bundle faults after ref, actions = before ++ .insert bundle faults :: after →
    ((run step (empty nodeID) before).insertBundle faults bundle).1 = .ok ref →
    ¬(run step (empty nodeID) (before ++ [.insert bundle faults])).Deleted ref ∧
    ∃ stored ∈ insertedBy actions, ∃ written sent, stored.marshalCbor =
      .ok (written, sent) ∧ stored.id = bundle.id ∧
      ((run step (empty nodeID) before).bundles.lookup bundle.id = none → stored = bundle) ∧
      ∀ more rest, after = more ++ rest →
        (run step (empty nodeID) (before ++ .insert bundle faults :: more)).Deleted ref ∨
        (run step (empty nodeID) (before ++ .insert bundle faults :: more)).Serves bundle.id ref written

end BundleStore

open BundleStore in
/-- No bundle is lost in a run exactly if no bundle that names no sender is
inserted while the last descriptor of its ID is being deleted. -/
theorem lossless_iff [Cboring] [Crc16] [Ed25519] {nodeID : EndpointID} {actions : List Action}
    (free : CollisionFree (insertedBy actions)) :
    Lossless nodeID actions ↔ Guarded step WindowGuard (empty nodeID) actions := by
  constructor
  · intro lossless before action after same
    cases action with
    | insert bundle faults =>
      intro ref index deleted anonymous
      -- The deleted descriptor is handed back as it is.
      have handed : (run step (empty nodeID) before).insertBundle faults bundle =
          (.ok ref, run step (empty nodeID) before) := by
        simp only [insertBundle, index, sender_eq_none.mpr anonymous]
      obtain ⟨alive, -⟩ := lossless before bundle faults after ref same (by rw [handed])
      apply alive
      rw [run_append]
      change (((run step (empty nodeID) before).insertBundle faults bundle).2).Deleted ref
      rw [handed]
      exact deleted
    | _ => trivial
  · intro guarded before bundle faults after ref same answered
    have admitted : Inserts (insertedBy actions) actions := by
      rintro action member inserted withFaults rfl
      exact ⟨withFaults, member⟩
    have listed : bundle ∈ insertedBy actions := ⟨faults, by simp [same]⟩
    have reached : Good (insertedBy actions) (run step (empty nodeID) before) :=
      (good_empty _ nodeID).run free fun action member => admitted action (by simp [same, member])
    have allowed : Admitted (insertedBy actions) (.insert bundle faults) :=
      admitted _ (by simp [same])
    have next := reached.step free allowed
    have live := live_of_insert reached.sound (guarded before _ after same) answered
    obtain ⟨stored, member, written, sent, encoded, file, bid, new⟩ :=
      exists_stored next listed live answered
    refine ⟨?_, stored, member, written, sent, encoded, bid, new, ?_⟩
    · rintro ⟨bd, pointed, deleted⟩
      rw [run_append] at pointed
      exact live.not_revoked (revoked_iff.mpr ⟨bd, pointed, rfl, deleted⟩)
    · intro more rest split
      have others : Inserts (insertedBy actions) more :=
        fun action member => admitted action (by simp [same, split, member])
      rw [run_append, run_cons]
      rcases next.run_keeps free others (.inr ⟨live, file⟩) with gone | ⟨still, kept⟩
      · obtain ⟨bd, pointed, -, deleted⟩ := revoked_iff.mp gone
        exact .inl ⟨bd, pointed, deleted⟩
      · exact .inr (serves_of_live (next.run free others).sound still kept)

end

open BundleStore

open scoped Samples

/-- A bundle without a Previous Node Block. -/
def localBundle : Bundle :=
  ⟨primaryTo (nodeEndpoint "executor") CRCType.crc32, [],
    ⟨1, 0, CRCType.crc16, [], some (.payload [42])⟩⟩

/-- The bundle is inserted, deleted and inserted again. -/
def reinsertion : List Action :=
  [.insert localBundle .none, .perform 0 .resetConstraints, .perform 0 (.delete false),
    .deleteBundle 0 .none, .insert localBundle .none]

theorem reinsertion_lossless : Lossless (nodeEndpoint "broker") reinsertion := by
  apply (lossless_iff (fun _ _ _ _ same => same)).mpr
  simp only [reinsertion, guarded_cons, guarded_nil, and_true]
  refine ⟨?_, trivial, trivial, trivial, ?_⟩
  · intro ref found
    cases found
  · intro ref found
    cases found

/-- The second insertion comes before the goroutine of the deletion runs. -/
def deletionWindow : List Action :=
  [.insert localBundle .none, .perform 0 .resetConstraints, .perform 0 (.delete false),
    .insert localBundle .none, .deleteBundle 0 .none]

theorem deletionWindow_not_lossless : ¬Lossless (nodeEndpoint "broker") deletionWindow := by
  intro lossless
  obtain ⟨alive, -⟩ := lossless
    [.insert localBundle .none, .perform 0 .resetConstraints, .perform 0 (.delete false)]
    localBundle .none [.deleteBundle 0 .none] 0 rfl rfl
  exact alive ⟨_, rfl, rfl⟩

end RecDtn.Store
