import Mathlib.Data.List.InsertIdx
import RecDtn.Store.BundleStore

/-! What each call can do to the store. -/

namespace RecDtn.Store

open Lang Bpv7 Go List

theorem unlessFault_eq_ok {α : Type} {call : Except GoError α} {value : α}
    (finished : unlessFault fault call = .ok value) : call = .ok value := by
  cases fault with
  | none => exact finished
  | some cause => cases finished

variable [Sha256] [Badgerhold]

namespace Badgerhold

variable {data next : Data} {key : List UInt8} {metadata : BundleMetadata}

theorem find_insert (inserted : insert data key metadata = .ok next) : find data key = none ∧
    ∀ other, find next other = if other = key then some metadata else find data other := by
  by_cases fresh : find data key = none
  · obtain ⟨result, same, records⟩ := insert_fresh metadata fresh
    rw [inserted] at same
    cases same
    exact ⟨fresh, records⟩
  · obtain ⟨cause, failed⟩ := insert_taken metadata fresh
    rw [inserted] at failed
    cases failed

theorem find_update (updated : update data key metadata = .ok next) : find data key ≠ none ∧
    ∀ other, find next other = if other = key then some metadata else find data other := by
  by_cases unknown : find data key = none
  · obtain ⟨cause, failed⟩ := update_unknown metadata unknown
    rw [updated] at failed
    cases failed
  · obtain ⟨result, same, records⟩ := update_known metadata unknown
    rw [updated] at same
    cases same
    exact ⟨unknown, records⟩

theorem find_delete (deleted : delete data key = .ok next) :
    ∀ other, find next other = if other = key then none else find data other := by
  by_cases unknown : find data key = none
  · obtain ⟨cause, failed⟩ := delete_unknown unknown
    rw [deleted] at failed
    cases failed
  · obtain ⟨result, same, records⟩ := delete_known unknown
    rw [deleted] at same
    cases same
    exact records

end Badgerhold

variable {fault : Option GoError}

namespace BundleStore

def Recorded (bst : BundleStore) (key : List UInt8) : Prop :=
  Badgerhold.find bst.metadataStore key ≠ none

/-- The calls work on the disk only. -/
structure SameMemory (bst left : BundleStore) : Prop where
  bundles : left.bundles = bst.bundles
  descriptors : left.descriptors = bst.descriptors
  deletions : left.deletions = bst.deletions

/-- Records and files that belong to other texts are as before. -/
structure SameDiskBut (key : List UInt8) (bst left : BundleStore) : Prop where
  records : ∀ other, other ≠ key →
    Badgerhold.find left.metadataStore other = Badgerhold.find bst.metadataStore other
  files : ∀ name, name ≠ fileName key →
    left.bundleDirectory.lookup name = bst.bundleDirectory.lookup name

omit [Sha256] [Badgerhold] in
private theorem lookup_remove {directory : Directory} {name other : String}
    (different : other ≠ name) :
    ((directory.remove fault name).toOption.getD directory).lookup other =
      directory.lookup other := by
  cases removed : directory.remove fault name with
  | error cause => rfl
  | ok left =>
    have erased := unlessFault_eq_ok removed
    split at erased
    · cases erased
      exact AList.lookup_erase_ne different
    · cases erased

theorem deleteFromDiskUnsafe_disk (bst : BundleStore) (faults : Faults) (metadata : BundleMetadata) :
    SameDiskBut metadata.idString bst (bst.deleteFromDiskUnsafe faults metadata).2 := by
  constructor
  · intro other different
    unfold deleteFromDiskUnsafe
    cases removed : unlessFault faults.delete
        (Badgerhold.delete bst.metadataStore metadata.idString) with
    | error cause => rfl
    | ok left =>
      have records := Badgerhold.find_delete (unlessFault_eq_ok removed) other
      rw [if_neg different] at records
      exact records
  · intro name different
    apply lookup_remove
    rw [metadata.serialisedFileName_eq]
    exact different

/-- A new descriptor for a bundle, with a record and a file of its own. -/
structure Inserted [Cboring] [Crc16] (bst : BundleStore) (bundle : Bundle)
    (left : BundleStore) : Prop where
  free : bst.bundles.lookup bundle.id = none
  fresh : ¬bst.Recorded bundle.id.string
  written : ∃ written sent, bundle.marshalCbor = .ok (written, sent) ∧
    left.bundleDirectory = bst.bundleDirectory.insert (fileName bundle.id.string) written
  described : ∃ previousNode, sender bundle = .ok previousNode ∧
    left.descriptors = bst.descriptors ++ [.new (bst.newMetadata bundle previousNode)]
  recorded : ∀ other, left.Recorded other ↔ other = bundle.id.string ∨ bst.Recorded other
  bundles : left.bundles = bst.bundles.insert bundle.id bst.descriptors.length
  deletions : left.deletions = bst.deletions

/-- What an insertion can come to. -/
inductive Insertion [Cboring] [Crc16] (bst : BundleStore) (faults : Faults) (bundle : Bundle) :
    Go Ref × BundleStore → Prop where
  /-- Traces on the disk are possible only where nothing was before. -/
  | failed (fault : Wire.Fault GoError) (left : BundleStore) (memory : SameMemory bst left)
      (disk : left = bst ∨ ¬bst.Recorded bundle.id.string ∧ SameDiskBut bundle.id.string bst left) :
      Insertion bst faults bundle (.error fault, left)
  | known (ref : Ref) (found : bst.bundles.lookup bundle.id = some ref)
      (unsent : sender bundle = .ok none) : Insertion bst faults bundle (.ok ref, bst)
  | noted (ref : Ref) (bd : BundleDescriptor) (metadata : BundleMetadata)
      (found : bst.bundles.lookup bundle.id = some ref) (pointed : bst.descriptors[ref]? = some bd)
      (live : bd.deleted = false) (same : metadata.id = bd.metadata.id)
      (destined : metadata.destination = bd.metadata.destination) :
      Insertion bst faults bundle (.ok ref, bst.withMetadata faults ref bd metadata)
  | new (left : BundleStore) (inserted : Inserted bst bundle left) :
      Insertion bst faults bundle (.ok bst.descriptors.length, left)

variable {faults : Faults} {bid : BundleID} {bundle : Bundle}

section

variable [Cboring] [Crc16] {bst : BundleStore} {bundle : Bundle}

/-- The record of a text is inserted. -/
private theorem storeFile_insertion {previousNode : Option EndpointID} {data : Badgerhold.Data}
    (free : bst.bundles.lookup bundle.id = none) (sent : sender bundle = .ok previousNode)
    (inserted : Badgerhold.insert bst.metadataStore bundle.id.string
      (bst.newMetadata bundle previousNode) = .ok data) :
    Insertion bst faults bundle
      ({ bst with metadataStore := data : BundleStore }.storeFile faults bundle
      (bst.newMetadata bundle previousNode)) := by
  obtain ⟨fresh, records⟩ := Badgerhold.find_insert inserted
  have new : ¬bst.Recorded bundle.id.string := by
    intro recorded
    exact recorded fresh
  have others : ∀ other, other ≠ bundle.id.string →
      Badgerhold.find data other = Badgerhold.find bst.metadataStore other := by
    intro other different
    rw [records, if_neg different]
  have torn : ∀ content, SameDiskBut bundle.id.string bst
      ({ bst with metadataStore := data : BundleStore }.writeFile (fileName bundle.id.string) content) := by
    intro content
    exact ⟨others, fun name different => AList.lookup_insert_ne different⟩
  unfold storeFile
  split
  · rename_i cause _
    have removed := deleteFromDiskUnsafe_disk
      { bst with metadataStore := data : BundleStore } faults (bst.newMetadata bundle previousNode)
    refine .failed _ _ ⟨rfl, rfl, rfl⟩ (.inr ⟨new, ?_, removed.files⟩)
    intro other different
    exact (removed.records other different).trans (others other different)
  split
  · exact .failed _ _ ⟨rfl, rfl, rfl⟩ (.inr ⟨new, torn _⟩)
  · rename_i written left encoded
    split
    · exact .failed _ _ ⟨rfl, rfl, rfl⟩ (.inr ⟨new, torn _⟩)
    · refine .new _ ⟨free, new, ⟨written, left, encoded, rfl⟩, ⟨previousNode, sent, rfl⟩, ?_, rfl, rfl⟩
      intro other
      change Badgerhold.find data other ≠ none ↔ _
      rw [records]
      by_cases same : other = bundle.id.string
      · simp [same]
      · simp [same, Recorded]

theorem insertBundle_cases (bst : BundleStore) (faults : Faults) (bundle : Bundle) :
    Insertion bst faults bundle (bst.insertBundle faults bundle) := by
  have untouched : ∀ fault, Insertion bst faults bundle (.error fault, bst) :=
    fun fault => .failed fault bst ⟨rfl, rfl, rfl⟩ (.inl rfl)
  unfold insertBundle
  split
  · rename_i free
    unfold insertNewBundleUnsafe
    split
    · exact untouched _
    · rename_i previousNode sent
      simp only
      split
      · exact untouched _
      · rename_i data inserted
        exact storeFile_insertion free sent (unlessFault_eq_ok inserted)
  · rename_i ref found
    split
    · exact untouched _
    · rename_i unsent
      exact .known ref found unsent
    · rename_i previousNode sent
      unfold addKnownHolder
      cases pointed : bst.descriptors[ref]? with
      | none => exact untouched _
      | some bd =>
        cases deleted : bd.deleted with
        | true =>
          simp only [deleted, ↓reduceIte]
          exact untouched _
        | false =>
          simp only [deleted, Bool.false_eq_true, ↓reduceIte]
          exact .noted ref bd _ found pointed deleted rfl rfl

/-- A descriptor for an ID that was not in the store is a new one. -/
theorem inserted_of_answer {ref : Ref} (free : bst.bundles.lookup bundle.id = none)
    (answered : (bst.insertBundle faults bundle).1 = .ok ref) :
    ref = bst.descriptors.length ∧ Inserted bst bundle (bst.insertBundle faults bundle).2 := by
  have outcome := bst.insertBundle_cases faults bundle
  generalize bst.insertBundle faults bundle = result at outcome answered
  cases outcome with
  | failed fault left memory disk => cases answered
  | known found index unsent => cases free.symm.trans index
  | noted found bd metadata index pointed alive same destined => cases free.symm.trans index
  | new left insertion =>
    cases answered
    exact ⟨rfl, insertion⟩

end

/-- Descriptors are tickets for bundle IDs; the goroutines that wait are those
whose IDs have to be freed. -/
def registry (bst : BundleStore) : Registry BundleID where
  index bid := bst.bundles.lookup bid
  tickets := bst.descriptors.map fun bd => (bd.metadata.id, bd.deleted)
  dying := bst.deletions.map BundleMetadata.id

variable {bst left : BundleStore} {ref : Ref} {bd : BundleDescriptor}

theorem lookup_of_getBundleDescriptor (found : bst.getBundleDescriptor bid = .ok ref) :
    bst.bundles.lookup bid = some ref := by
  unfold getBundleDescriptor at found
  split at found
  · cases found
  · rename_i pointer index
    obtain ⟨descriptor, -, checked⟩ := bind_eq_ok.mp found
    split at checked
    · cases checked
    · cases checked
      exact index

theorem live_iff : bst.registry.Live ref bid ↔
    ∃ bd, bst.descriptors[ref]? = some bd ∧ bd.metadata.id = bid ∧ bd.deleted = false := by
  simp [registry, Registry.Live]

theorem revoked_iff : bst.registry.Revoked ref bid ↔
    ∃ bd, bst.descriptors[ref]? = some bd ∧ bd.metadata.id = bid ∧ bd.deleted = true := by
  simp [registry, Registry.Revoked]

theorem SameMemory.registry (memory : SameMemory bst left) : left.registry = bst.registry := by
  simp [BundleStore.registry, memory.bundles, memory.descriptors, memory.deletions]

/-- A descriptor that keeps its ID and its state does not change the registry. -/
private theorem tickets_set {changed : BundleDescriptor} (pointed : bst.descriptors[ref]? = some bd)
    (same : changed.metadata.id = bd.metadata.id) (deleted : changed.deleted = bd.deleted) :
    (bst.descriptors.set ref changed).map (fun bd => (bd.metadata.id, bd.deleted)) =
      bst.descriptors.map fun bd => (bd.metadata.id, bd.deleted) := by
  obtain ⟨bound, rfl⟩ := List.getElem?_eq_some_iff.mp pointed
  rw [List.map_set, same, deleted]
  apply List.ext_getElem
  · simp
  · intro position _ _
    by_cases here : ref = position
    · subst here
      simp
    · simp [here]

variable {metadata : BundleMetadata}

theorem registry_withMetadata (pointed : bst.descriptors[ref]? = some bd)
    (same : metadata.id = bd.metadata.id) :
    (bst.withMetadata faults ref bd metadata).registry = bst.registry := by
  simp only [BundleStore.registry, withMetadata]
  congr 1
  exact tickets_set pointed same rfl

theorem registry_addKnownHolder (bst : BundleStore) (faults : Faults) (ref : Ref)
    (peers : List EndpointID) : (bst.addKnownHolder faults ref peers).2.registry = bst.registry := by
  unfold addKnownHolder
  split
  · rfl
  · rename_i bd pointed
    split
    · rfl
    · exact registry_withMetadata pointed rfl

theorem registry_setMiscData (bst : BundleStore) (faults : Faults) (ref : Ref) (key : String)
    (value : UInt64) : (bst.setMiscData faults ref key value).2.registry = bst.registry := by
  unfold setMiscData
  split
  · rfl
  · rename_i bd pointed
    exact registry_withMetadata pointed rfl

/-- A call on a descriptor does nothing to the registry or revokes it. -/
theorem registry_perform (pointed : bst.descriptors[ref]? = some bd) (operation : Operation) :
    (bst.perform ref operation).2.registry = bst.registry ∨ bd.deleted = false ∧
        (bst.perform ref operation).2.registry = bst.registry.revoked ref bd.metadata.id := by
  have kept := bd.perform_of operation
  simp only [perform, pointed, BundleStore.registry]
  rcases kept.deletion with ⟨deleted, spawned⟩ | ⟨live, deleted, spawned⟩
  · left
    rw [tickets_set pointed (congrArg BundleMetadata.id kept.metadata) deleted, spawned]
    simp
  · right
    refine ⟨live, ?_⟩
    rw [List.map_set, kept.metadata, deleted, spawned]
    simp [Registry.revoked]

theorem perform_leads (bst : BundleStore) (ref : Ref) (operation : Operation) :
    bst.registry.Leads (bst.perform ref operation).2.registry := by
  cases pointed : bst.descriptors[ref]? with
  | none =>
    simp only [perform, pointed]
    exact .refl
  | some bd =>
    rcases registry_perform pointed operation with same | ⟨live, revoked⟩
    · rw [same]
      exact .refl
    · rw [revoked]
      exact .single (.revoke ref bd.metadata.id (live_iff.mpr ⟨bd, pointed, rfl, live⟩))

/-- A garbage collection is a sequence of calls on descriptors. -/
theorem garbageCollect_induction (relation : BundleStore → BundleStore → Prop)
    (refl : ∀ state, relation state state)
    (trans : ∀ {first second third}, relation first second → relation second third →
    relation first third) (delete : ∀ (state : BundleStore) ref markIfConstraint,
      relation state (state.perform ref (.delete markIfConstraint)).2)
    (bst : BundleStore) (order : RangeOrder Ref) (now : Time) :
    relation bst (bst.garbageCollect order now) := by
  have loop : ∀ (refs : List Ref) (state : BundleStore), relation state
      (refs.foldl (fun state ref => state.collect now ref) state) := by
    intro refs
    induction refs with
    | nil => exact refl
    | cons ref rest ih =>
      intro state
      have round : relation state (state.collect now ref) := by
        unfold collect
        split
        · exact refl state
        split
        · exact delete state ref false
        · exact refl state
      exact trans round (ih (state.collect now ref))
  exact loop _ bst

theorem garbageCollect_leads (bst : BundleStore) (order : RangeOrder Ref) (now : Time) :
    bst.registry.Leads (bst.garbageCollect order now).registry := by
  apply garbageCollect_induction fun bst left => bst.registry.Leads left.registry
  · exact fun state => .refl
  · exact Relation.ReflTransGen.trans
  · exact fun state ref markIfConstraint => state.perform_leads ref (.delete markIfConstraint)

theorem registry_deleteBundle {position : Nat} (faults : Faults)
    (waiting : bst.deletions[position]? = some metadata) :
    (bst.deleteBundle faults position).registry = bst.registry.cleared position metadata.id := by
  simp only [deleteBundle, waiting, BundleStore.registry, deleteFromDiskUnsafe,
    Registry.cleared, eraseIdx_map]
  congr 1
  funext bid
  split
  · rename_i same
    rw [same, AList.lookup_erase]
  · rename_i different
    exact AList.lookup_erase_ne different

theorem deleteBundle_leads (bst : BundleStore) (faults : Faults) (position : Nat) :
    bst.registry.Leads (bst.deleteBundle faults position).registry := by
  cases waiting : bst.deletions[position]? with
  | none =>
    simp only [deleteBundle, waiting]
    exact .refl
  | some metadata =>
    rw [registry_deleteBundle faults waiting]
    exact .single (.clear position metadata.id (by simp [BundleStore.registry, waiting]))

theorem Inserted.registry [Cboring] [Crc16] (inserted : Inserted bst bundle left) :
    left.registry = bst.registry.issued bundle.id := by
  obtain ⟨previousNode, -, descriptors⟩ := inserted.described
  simp only [BundleStore.registry, Registry.issued, inserted.bundles,
    inserted.deletions, descriptors, map_append, map_cons, map_nil, length_map]
  congr 1
  funext bid
  split
  · rename_i same
    rw [same, AList.lookup_insert]
  · rename_i different
    exact AList.lookup_insert_ne different

theorem insertBundle_leads [Cboring] [Crc16] (bst : BundleStore) (faults : Faults)
    (bundle : Bundle) : bst.registry.Leads (bst.insertBundle faults bundle).2.registry := by
  have outcome := bst.insertBundle_cases faults bundle
  generalize bst.insertBundle faults bundle = result at outcome
  cases outcome with
  | failed fault left memory disk =>
    rw [memory.registry]
    exact .refl
  | known ref found unsent => exact .refl
  | noted ref bd metadata found pointed live same destined =>
    rw [registry_withMetadata pointed same]
    exact .refl
  | new left inserted =>
    rw [inserted.registry]
    exact .single (.issue bundle.id inserted.free)

section Loading

variable [Cboring] [Crc16] [Ed25519] {content : List UInt8}

omit [Sha256] [Badgerhold] in
theorem parsedBundle_eq_ok {now : Time} :
    parsedBundle now content = .ok bundle ↔ (Bundle.parseBundle now content).bundle = bundle ∧
      ((Bundle.parseBundle now content).err = none ∨
        ∃ cause, (Bundle.parseBundle now content).err = some (.error cause)) := by
  unfold parsedBundle
  split
  · rename_i none
    simp [none]
  · rename_i cause dropped
    simp [dropped]
  · rename_i fault other stopped
    refine iff_of_false (fun done => nomatch done) ?_
    rintro ⟨-, none | ⟨cause, same⟩⟩
    · cases stopped.symm.trans none
    · cases stopped.symm.trans same
      exact other cause rfl

omit [Sha256] [Badgerhold] in
/-- A failure of the parser is never returned. It is dropped, or it is a panic. -/
theorem parsedBundle_ne_error {now : Time} {cause : GoError} :
    parsedBundle now content ≠ .error (.error cause) := by
  intro failed
  unfold parsedBundle at failed
  split at failed
  · cases failed
  · cases failed
  · rename_i other _
    cases failed
    exact other cause rfl

variable {bst : BundleStore} {now : Time} {ref : Ref}

/-- The content of the file of a bundle that is still there. -/
def FileOf (bst : BundleStore) (ref : Ref) (content : List UInt8) : Prop :=
  ∃ bd, bst.descriptors[ref]? = some bd ∧ bd.deleted = false ∧
    bst.bundleDirectory.lookup bd.metadata.serialisedFileName = some content

theorem load_of_fileOf (file : bst.FileOf ref content) :
    bst.load now ref = parsedBundle now content := by
  obtain ⟨bd, held, live, there⟩ := file
  rw [load, deref_eq_ok.mpr held, ok_bind, if_neg (by simp [live]), loadEntireBundle, there]

theorem load_eq_ok : bst.load now ref = .ok bundle ↔
    ∃ content, bst.FileOf ref content ∧ parsedBundle now content = .ok bundle := by
  constructor
  · intro loading
    obtain ⟨bd, held, loading⟩ := bind_eq_ok.mp loading
    split at loading
    · cases loading
    · rename_i live
      unfold loadEntireBundle at loading
      split at loading
      · cases loading
      · rename_i content file
        exact ⟨content, ⟨bd, deref_eq_ok.mp held, by simpa using live, file⟩, loading⟩
  · rintro ⟨content, file, parsed⟩
    rw [load_of_fileOf file, parsed]

omit [Cboring] [Crc16] [Ed25519] in
theorem FileOf.unique {other : List UInt8} (file : bst.FileOf ref content)
    (again : bst.FileOf ref other) : content = other := by
  obtain ⟨bd, held, -, there⟩ := file
  obtain ⟨same, known, -, found⟩ := again
  cases held.symm.trans known
  exact Option.some.inj (there.symm.trans found)

end Loading

end BundleStore

end RecDtn.Store
