import RecDtn.Store.FailedInsert
import RecDtn.Store.Lifecycle

/-! Whether the database mirrors the descriptors in memory. -/

namespace RecDtn.Store

open Lang Bpv7 List

section

/-- The database does what it is asked for; files may fail. -/
def Faults.DatabaseWorks (faults : Faults) : Prop :=
  faults.insert = .none ∧ faults.update = .none ∧ faults.delete = .none

variable [Sha256] [Badgerhold]

def Action.DatabaseWorks : Action → Prop
  | .insert _ faults | .addKnownHolder _ _ faults | .setMiscData _ _ _ faults
  | .deleteBundle _ faults => faults.DatabaseWorks
  | .perform _ _ | .garbageCollect _ _ => True

/-- The metadata with a value that `SetMiscData` sets. -/
def BundleMetadata.withMiscData (metadata : BundleMetadata) (key : String) (value : UInt64) :
    BundleMetadata :=
  { metadata with miscellaneousData := metadata.miscellaneousData.insert key value }

namespace BundleStore

/-- The map of the store has this descriptor for the ID. -/
def Maps (bst : BundleStore) (bid : BundleID) (ref : Ref) (bd : BundleDescriptor) : Prop :=
  bst.bundles.lookup bid = some ref ∧ bst.descriptors[ref]? = some bd

/-- The record under the text of its ID is the metadata of a descriptor in the
map. -/
def Mirrors (bst : BundleStore) : Prop :=
  ∀ bid ref bd, bst.Maps bid ref bd →
    Badgerhold.find bst.metadataStore bd.metadata.idString = some bd.metadata

variable {bst left : BundleStore} {bid : BundleID} {ref : Ref} {bd : BundleDescriptor}

theorem mirrors_empty (nodeID : EndpointID) : (empty nodeID).Mirrors := by
  intro bid ref bd mapped
  cases mapped.1

theorem Maps.id_eq (sound : bst.registry.Sound) (mapped : bst.Maps bid ref bd) :
    bd.metadata.id = bid := by
  have ticket := sound.own bid ref mapped.1
  rw [live_iff, revoked_iff] at ticket
  rcases ticket with ⟨held, pointed, same, -⟩ | ⟨held, pointed, same, -⟩
  · cases mapped.2.symm.trans pointed
    exact same
  · cases mapped.2.symm.trans pointed
    exact same

theorem maps_of_live (sound : bst.registry.Sound) (pointed : bst.descriptors[ref]? = some bd)
    (live : bd.deleted = false) : bst.Maps bd.metadata.id ref bd :=
  ⟨sound.live ref _ (live_iff.mpr ⟨bd, pointed, rfl, live⟩), pointed⟩

section

variable (mirrors : bst.Mirrors)

include mirrors

/-- One record cannot mirror two descriptors. -/
theorem Mirrors.ref_eq {other : BundleID} {found : Ref} {held : BundleDescriptor}
    (sound : bst.registry.Sound) (mapped : bst.Maps bid ref bd) (also : bst.Maps other found held)
    (texts : held.metadata.idString = bd.metadata.idString) : found = ref := by
  have record := mirrors other found held also
  rw [texts, mirrors bid ref bd mapped] at record
  have ids : bid = other := by
    rw [← mapped.id_eq sound, ← also.id_eq sound, Option.some.inj record]
  subst ids
  exact Option.some.inj (also.1.symm.trans mapped.1)

/-- Descriptors that were in the map before, with records that were not
touched. -/
theorem Mirrors.frame (same : ∀ bid ref bd, left.Maps bid ref bd →
    ∃ held, bst.Maps bid ref held ∧
      held.metadata = bd.metadata ∧ Badgerhold.find left.metadataStore bd.metadata.idString =
        Badgerhold.find bst.metadataStore bd.metadata.idString) : left.Mirrors := by
  intro bid ref bd mapped
  obtain ⟨held, before, metadata, record⟩ := same bid ref bd mapped
  rw [record, ← metadata]
  exact mirrors bid ref held before

theorem mirrors_perform (ref : Ref) (operation : Operation) :
    (bst.perform ref operation).2.Mirrors := by
  cases pointed : bst.descriptors[ref]? with
  | none =>
    simp only [perform, pointed]
    exact mirrors
  | some bd =>
    refine mirrors.frame ?_
    intro bid found held mapped
    simp only [perform, pointed, Maps] at mapped ⊢
    by_cases here : found = ref
    · subst here
      obtain ⟨bound, -⟩ := List.getElem?_eq_some_iff.mp pointed
      obtain ⟨index, entry⟩ := mapped
      rw [List.getElem?_set_self bound] at entry
      cases entry
      exact ⟨bd, ⟨index, pointed⟩, (bd.perform_of operation).metadata.symm, trivial⟩
    · rw [getElem?_set_ne (Ne.symm here)] at mapped
      exact ⟨held, mapped, rfl, trivial⟩

theorem mirrors_garbageCollect (order : RangeOrder Ref) (now : Time) :
    (bst.garbageCollect order now).Mirrors := by
  refine garbageCollect_induction (fun state left => state.Mirrors → left.Mirrors) ?_ ?_ ?_
    bst order now mirrors
  · exact fun state kept => kept
  · exact fun first second kept => second (first kept)
  · exact fun state ref markIfConstraint kept => mirrors_perform kept ref _

variable {metadata : BundleMetadata}

/-- A record is written for a descriptor. Another one in the map whose ID reads
the same has to hold just what is written. -/
theorem mirrors_withMetadata_iff {faults : Faults} (works : faults.update = .none)
    (pointed : bst.descriptors[ref]? = some bd) (text : metadata.idString = bd.metadata.idString) :
    (bst.withMetadata faults ref bd metadata).Mirrors ↔
      ∀ other found held, bst.Maps other found held → held.metadata.idString =
        bd.metadata.idString → found = ref ∨ held.metadata = metadata := by
  obtain ⟨bound, -⟩ := List.getElem?_eq_some_iff.mp pointed
  have written : bst.updateBundleMetadata faults metadata =
      Badgerhold.update bst.metadataStore metadata.idString metadata := by
    rw [updateBundleMetadata, works, unlessFault]
  have others : ∀ {found}, found ≠ ref →
      (bst.withMetadata faults ref bd metadata).descriptors[found]? = bst.descriptors[found]? :=
    fun different => getElem?_set_ne (Ne.symm different)
  have own : (bst.withMetadata faults ref bd metadata).descriptors[ref]? =
      some { bd with metadata := metadata } := List.getElem?_set_self bound
  by_cases known : Badgerhold.find bst.metadataStore metadata.idString = none
  · -- There is no record to update, so no descriptor in the map has this key.
    obtain ⟨cause, refused⟩ := Badgerhold.update_unknown metadata known
    have absent : ∀ other found held, bst.Maps other found held → held.metadata.idString ≠ bd.metadata.idString := by
      intro other found held mapped texts
      have record := mirrors other found held mapped
      rw [texts, ← text, known] at record
      cases record
    refine iff_of_true (mirrors.frame ?_) ?_
    · intro other found held mapped
      by_cases here : found = ref
      · subst here
        exact absurd rfl (absent other found bd ⟨mapped.1, pointed⟩)
      · refine ⟨held, ⟨mapped.1, (others here).symm.trans mapped.2⟩, rfl, ?_⟩
        simp only [withMetadata, written, refused]
        rfl
    · intro other found held mapped texts
      exact absurd texts (absent other found held mapped)
  · obtain ⟨next, updated, records⟩ := Badgerhold.update_known metadata known
    have stored : (bst.withMetadata faults ref bd metadata).metadataStore = next := by
      simp only [withMetadata, written, updated]
      rfl
    constructor
    · intro kept other found held mapped texts
      by_cases here : found = ref
      · exact .inl here
      · have record := kept other found held ⟨mapped.1, (others here).trans mapped.2⟩
        rw [stored, records, if_pos (texts.trans text.symm)] at record
        exact .inr (Option.some.inj record).symm
    · intro agree other found held mapped
      rw [stored, records]
      by_cases here : found = ref
      · subst here
        cases mapped.2.symm.trans own
        exact if_pos rfl
      · have before : bst.Maps other found held := ⟨mapped.1, (others here).symm.trans mapped.2⟩
        by_cases texts : held.metadata.idString = metadata.idString
        · rcases agree other found held before (texts.trans text) with equal | equal
          · exact absurd equal here
          · rw [if_pos texts, equal]
        · rw [if_neg texts]
          exact mirrors other found held before

/-- A descriptor in the map may write its own record. -/
theorem mirrors_withMetadata_of_maps {faults : Faults} (sound : bst.registry.Sound)
    (works : faults.update = .none)
    (mapped : bst.Maps bid ref bd) (text : metadata.idString = bd.metadata.idString) :
    (bst.withMetadata faults ref bd metadata).Mirrors := by
  refine (mirrors_withMetadata_iff mirrors works mapped.2 text).mpr ?_
  intro other found held also texts
  exact .inl (mirrors.ref_eq sound mapped also texts)

theorem mirrors_addKnownHolder {faults : Faults} (sound : bst.registry.Sound)
    (works : faults.update = .none)
    (ref : Ref) (peers : List EndpointID) : (bst.addKnownHolder faults ref peers).2.Mirrors := by
  unfold addKnownHolder
  split
  · exact mirrors
  · rename_i bd pointed
    split
    · exact mirrors
    · rename_i live
      exact mirrors_withMetadata_of_maps mirrors sound works
        (maps_of_live sound pointed (by simpa using live)) rfl

end

theorem setMiscData_of_pointed {faults : Faults} {key : String} {value : UInt64}
    (pointed : bst.descriptors[ref]? = some bd) : (bst.setMiscData faults ref key value).2 =
      bst.withMetadata faults ref bd (bd.metadata.withMiscData key value) := by
  simp only [setMiscData, pointed]
  rfl

theorem mirrors_deleteBundle {faults : Faults} (mirrors : bst.Mirrors) (sound : bst.registry.Sound)
    (position : Nat) : (bst.deleteBundle faults position).Mirrors := by
  cases waiting : bst.deletions[position]? with
  | none =>
    simp only [deleteBundle, waiting]
    exact mirrors
  | some metadata =>
    obtain ⟨old, index, gone⟩ := sound.waiting metadata.id
      (mem_map_of_mem (mem_of_getElem? waiting))
    obtain ⟨deleted, pointed, same, -⟩ := revoked_iff.mp gone
    have disk := deleteFromDiskUnsafe_disk
      { bst with
        bundles := bst.bundles.erase metadata.id
        deletions := bst.deletions.eraseIdx position : BundleStore } faults metadata
    refine mirrors.frame ?_
    intro bid ref bd mapped
    simp only [deleteBundle, waiting, Maps] at mapped ⊢
    obtain ⟨kept, entry⟩ := mapped
    have different : bid ≠ metadata.id := by
      rintro rfl
      rw [deleteFromDiskUnsafe, AList.lookup_erase] at kept
      cases kept
    have before : bst.Maps bid ref bd :=
      ⟨(AList.lookup_erase_ne different).symm.trans kept, entry⟩
    refine ⟨bd, before, rfl, disk.records _ ?_⟩
    intro texts
    -- The two would share a record, and then they would be one.
    have shared : bd.metadata.idString = deleted.metadata.idString := by
      rw [texts, metadata.idString_eq, deleted.metadata.idString_eq, same]
    have equal : ref = old := mirrors.ref_eq sound ⟨index, pointed⟩ before shared
    subst equal
    cases pointed.symm.trans entry
    exact different ((before.id_eq sound).symm.trans same)

variable [Cboring] [Crc16] {bundle : Bundle} {faults : Faults}

theorem record_of_answer (free : bst.bundles.lookup bundle.id = none)
    (answered : (bst.insertBundle faults bundle).1 = .ok ref) : ∃ metadata : BundleMetadata,
      metadata.idString = bundle.id.string ∧
      (bst.insertBundle faults bundle).2.descriptors = bst.descriptors ++ [.new metadata] ∧
      ∀ other, Badgerhold.find (bst.insertBundle faults bundle).2.metadataStore other =
        if other = metadata.idString then some metadata else Badgerhold.find bst.metadataStore other := by
  rcases insertBundle_of_new free faults with ⟨-, fault, refused⟩ | ⟨-, previousNode, data,
    records, next⟩
  · rw [refused] at answered
    cases answered
  · rw [next] at answered ⊢
    refine ⟨bst.newMetadata bundle previousNode, rfl, ?_⟩
    unfold storeFile at answered ⊢
    split at answered
    · cases answered
    split at answered
    · cases answered
    split at answered
    · cases answered
    · exact ⟨rfl, records⟩

theorem mirrors_insertBundle (mirrors : bst.Mirrors) (sound : bst.registry.Sound)
    (works : faults.update = .none) : (bst.insertBundle faults bundle).2.Mirrors := by
  have outcome := bst.insertBundle_cases faults bundle
  have recorded := @record_of_answer _ _ bst bst.descriptors.length _ _ bundle faults
  generalize bst.insertBundle faults bundle = result at outcome recorded
  cases outcome with
  | failed fault left memory disk =>
    rcases disk with rfl | ⟨fresh, disk⟩
    · exact mirrors
    · refine mirrors.frame ?_
      intro bid ref bd mapped
      have before : bst.Maps bid ref bd := by
        rw [Maps, memory.bundles, memory.descriptors] at mapped
        exact mapped
      refine ⟨bd, before, rfl, disk.records _ ?_⟩
      intro texts
      apply fresh
      rw [← texts, Recorded, mirrors bid ref bd before]
      exact Option.some_ne_none _
  | known ref found unsent => exact mirrors
  | noted ref bd metadata found pointed live same destined =>
    have texts : metadata.idString = bd.metadata.idString := by
      rw [metadata.idString_eq, bd.metadata.idString_eq, same]
    exact mirrors_withMetadata_of_maps mirrors sound works ⟨found, pointed⟩ texts
  | new left inserted =>
    obtain ⟨metadata, text, descriptors, records⟩ := recorded inserted.free rfl
    intro bid ref bd mapped
    obtain ⟨index, entry⟩ := mapped
    rw [inserted.bundles] at index
    rw [descriptors] at entry
    rw [records]
    by_cases own : bid = bundle.id
    · subst own
      rw [AList.lookup_insert] at index
      cases index
      rw [getElem?_concat_length] at entry
      cases entry
      exact if_pos rfl
    · rw [AList.lookup_insert_ne own] at index
      have bound : ref < bst.descriptors.length := by
        simpa [registry] using sound.index_lt index
      have there : bst.Maps bid ref bd := ⟨index, (getElem?_append_left bound).symm.trans entry⟩
      have record := mirrors bid ref bd there
      have different : bd.metadata.idString ≠ metadata.idString := by
        intro texts
        apply inserted.fresh
        rw [Recorded, ← text, ← texts, record]
        exact Option.some_ne_none _
      rw [if_neg different]
      exact record

/-- Data is set through the descriptor that the map has for this text, or it
makes the metadata what that descriptor holds. -/
def MirrorGuard (bst : BundleStore) : Action → Prop
  | .setMiscData ref key value _ => ∀ bd, bst.descriptors[ref]? = some bd →
      ∀ bid found held, bst.Maps bid found held → held.metadata.idString =
        bd.metadata.idString → found = ref ∨ held.metadata = bd.metadata.withMiscData key value
  | _ => True

theorem mirrors_step_iff {action : Action} (sound : bst.registry.Sound) (mirrors : bst.Mirrors)
    (works : action.DatabaseWorks) : (bst.step action).Mirrors ↔ bst.MirrorGuard action := by
  cases action with
  | insert bundle faults => exact iff_of_true (mirrors_insertBundle mirrors sound works.2.1) trivial
  | perform ref operation => exact iff_of_true (mirrors_perform mirrors ref operation) trivial
  | addKnownHolder ref peers faults =>
    exact iff_of_true (mirrors_addKnownHolder mirrors sound works.2.1 ref peers) trivial
  | setMiscData ref key value faults =>
    cases pointed : bst.descriptors[ref]? with
    | none =>
      simp only [step, setMiscData, MirrorGuard, pointed]
      exact iff_of_true mirrors (by simp)
    | some bd =>
      have text : (bd.metadata.withMiscData key value).idString = bd.metadata.idString := rfl
      rw [step, setMiscData_of_pointed pointed, mirrors_withMetadata_iff mirrors works.2.1 pointed text]
      simp [MirrorGuard, pointed]
  | garbageCollect order now => exact iff_of_true (mirrors_garbageCollect mirrors order now) trivial
  | deleteBundle position faults =>
    exact iff_of_true (mirrors_deleteBundle mirrors sound position) trivial

end BundleStore

open BundleStore in
/-- From any store whose records mirror its descriptors, they do so throughout a
run without database errors exactly if no data is set through a descriptor that
the map has replaced. -/
theorem mirrors_throughout_iff [Cboring] [Crc16] {start : BundleStore} {actions : List Action}
    (sound : start.registry.Sound) (mirrors : start.Mirrors)
    (works : ∀ action ∈ actions, action.DatabaseWorks) :
    Throughout step Mirrors start actions ↔ Guarded step MirrorGuard start actions := by
  have among : Guarded step (fun _ action => action.DatabaseWorks) start actions := by
    intro before action after same
    exact works action (by simp [same])
  refine throughout_iff_guarded_among (fun state => state.registry.Sound) ?_ ?_ among sound mirrors
  · intro state action _ kept _
    exact kept.leads (state.step_leads action)
  · intro state action answers kept mirrored
    exact mirrors_step_iff kept mirrored answers

end

open BundleStore

open scoped Samples

/-- After the bundle was inserted again, the new descriptor gets a value. -/
theorem mirrors_reinsertion : Throughout step Mirrors (empty (nodeEndpoint "broker"))
    (reinsertion ++ [.setMiscData 1 "copies" 4 .none]) := by
  have sound : (empty (nodeEndpoint "broker")).registry.Sound := Registry.sound_empty
  refine (mirrors_throughout_iff sound (mirrors_empty _) ?_).mpr ?_
  · intro action member
    simp only [reinsertion, cons_append, nil_append, mem_cons, not_mem_nil,
      or_false] at member
    rcases member with rfl | rfl | rfl | rfl | rfl | rfl <;>
      simp [Action.DatabaseWorks, Faults.DatabaseWorks, Faults.none]
  · simp only [reinsertion, cons_append, nil_append, guarded_cons, guarded_nil, and_true]
    refine ⟨trivial, trivial, trivial, trivial, trivial, ?_⟩
    intro bd pointed bid found held mapped texts
    have listed := AList.mem_lookup_iff.mp mapped.1
    cases mem_singleton.mp listed
    exact .inl rfl

/-- The old descriptor gets the value, and its record takes the place of the new
one's. -/
theorem not_mirrors_reinsertion : ¬Throughout step Mirrors (empty (nodeEndpoint "broker"))
    (reinsertion ++ [.setMiscData 0 "copies" 4 .none]) := by
  intro mirrors
  have record := mirrors _ [] (append_nil _).symm localBundle.id 1 _ ⟨rfl, rfl⟩
  have values := congrArg (fun found => found.map fun metadata =>
    metadata.miscellaneousData.entries.length) record
  cases values

end RecDtn.Store
