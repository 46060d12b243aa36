import RecDtn.Store.Effects

/-! What an insertion that fails leaves behind. -/

namespace RecDtn.Store

open Lang Bpv7 Option

section

variable [Sha256] [Badgerhold]

namespace BundleStore

/-- Nothing is left of the call, in memory or on the disk. -/
structure Traceless (bst left : BundleStore) : Prop where
  bundles : left.bundles = bst.bundles
  descriptors : left.descriptors = bst.descriptors
  records : ∀ key, Badgerhold.find left.metadataStore key = Badgerhold.find bst.metadataStore key
  files : ∀ name, left.bundleDirectory.lookup name = bst.bundleDirectory.lookup name

theorem Traceless.refl (bst : BundleStore) : Traceless bst bst :=
  ⟨rfl, rfl, fun _ => rfl, fun _ => rfl⟩

/-- `loadAll` at the next start: a descriptor for every record, in the order in
which the query finds them. -/
def LoadsAll (bst : BundleStore) (descriptors : List BundleDescriptor) : Prop :=
  ∃ records : List BundleMetadata, descriptors = records.map .new ∧
    ∀ metadata, metadata ∈ records ↔
      ∃ key, Badgerhold.find bst.metadataStore key = some metadata

variable {bst left : BundleStore} {bundle : Bundle} {faults : Faults}

/-- A restart does not see the difference. -/
theorem Traceless.loadsAll_iff (traceless : Traceless bst left)
    (descriptors : List BundleDescriptor) :
    left.LoadsAll descriptors ↔ bst.LoadsAll descriptors := by
  simp only [LoadsAll, traceless.records]

def Admits (bst : BundleStore) (faults : Faults) (bundle : Bundle) : Prop :=
  (∃ previousNode, sender bundle = .ok previousNode) ∧ faults.insert = none ∧
    ¬bst.Recorded bundle.id.string

theorem Traceless.admits (traceless : Traceless bst left) (admits : bst.Admits faults bundle) :
    left.Admits .none bundle := by
  obtain ⟨sent, -, fresh⟩ := admits
  refine ⟨sent, rfl, ?_⟩
  rwa [Recorded, traceless.records]

variable [Cboring] [Crc16]

/-- A new bundle is refused before anything has changed; or its record is
inserted, and its file is next. -/
theorem insertBundle_of_new (new : bst.bundles.lookup bundle.id = none) (faults : Faults) :
    (¬bst.Admits faults bundle ∧ ∃ fault, bst.insertBundle faults bundle =
      (.error fault, bst)) ∨
      bst.Admits faults bundle ∧ ∃ previousNode data, (∀ other, Badgerhold.find data other =
          if other = (bst.newMetadata bundle previousNode).idString then some (bst.newMetadata bundle previousNode)
          else Badgerhold.find bst.metadataStore other) ∧ bst.insertBundle faults bundle =
          { bst with metadataStore := data : BundleStore }.storeFile faults bundle
            (bst.newMetadata bundle previousNode) := by
  have start : bst.insertBundle faults bundle = bst.insertNewBundleUnsafe faults bundle := by
    unfold insertBundle
    rw [new]
  rw [start]
  unfold insertNewBundleUnsafe
  cases sent : sender bundle with
  | error fault =>
    refine .inl ⟨?_, fault, rfl⟩
    intro ⟨⟨previousNode, answered⟩, _⟩
    cases sent.symm.trans answered
  | ok previousNode =>
    dsimp only
    cases inserted : unlessFault faults.insert (Badgerhold.insert bst.metadataStore
        (bst.newMetadata bundle previousNode).idString (bst.newMetadata bundle previousNode)) with
    | error cause =>
      refine .inl ⟨?_, _, rfl⟩
      intro ⟨_, unfaulted, fresh⟩
      obtain ⟨data, done, -⟩ := Badgerhold.insert_fresh (bst.newMetadata bundle previousNode) (not_not.mp fresh)
      rw [unfaulted] at inserted
      cases done.symm.trans inserted
    | ok data =>
      have unfaulted : faults.insert = none := by
        cases fault : faults.insert with
        | none => rfl
        | some cause =>
          rw [fault] at inserted
          cases inserted
      obtain ⟨fresh, records⟩ := Badgerhold.find_insert (unlessFault_eq_ok inserted)
      exact .inr ⟨⟨⟨previousNode, sent⟩, unfaulted, not_not.mpr fresh⟩, previousNode, data, records, rfl⟩

section AfterRecord

variable {metadata : BundleMetadata} {data : Badgerhold.Data}
  (fresh : ¬bst.Recorded metadata.idString) (records : ∀ other, Badgerhold.find data other =
    if other = metadata.idString then some metadata else Badgerhold.find bst.metadataStore other)
include fresh records

omit [Cboring] [Crc16] in
/-- The record is enough of a trace. -/
theorem not_traceless_writeFile (name : String) (content : List UInt8) :
    ¬Traceless bst ({ bst with metadataStore := data : BundleStore }.writeFile name content) := by
  intro traceless
  have kept := traceless.records metadata.idString
  change Badgerhold.find data metadata.idString = _ at kept
  rw [records, if_pos rfl] at kept
  exact fresh (by rw [Recorded, ← kept]; exact some_ne_none _)

omit [Cboring] [Crc16] in
theorem records_deleted_iff (fault : Option GoError) :
    (∀ key, Badgerhold.find
      ((unlessFault fault (Badgerhold.delete data metadata.idString)).toOption.getD data) key =
      Badgerhold.find bst.metadataStore key) ↔ fault = none := by
  have there : Badgerhold.find data metadata.idString = some metadata := by rw [records, if_pos rfl]
  cases fault with
  | some cause =>
    refine iff_of_false ?_ (some_ne_none cause)
    intro same
    have kept := same metadata.idString
    change Badgerhold.find data metadata.idString = _ at kept
    exact fresh (by rw [Recorded, ← kept, there]; exact some_ne_none _)
  | none =>
    refine iff_of_true ?_ rfl
    intro key
    obtain ⟨next, deleted, rest⟩ := Badgerhold.delete_known (by rw [there]; exact some_ne_none _)
    rw [unlessFault, deleted]
    change Badgerhold.find next key = _
    rw [rest, records]
    split
    · rename_i own
      rw [own]
      exact (not_not.mp fresh).symm
    · rfl

omit [Sha256] [Badgerhold] [Cboring] [Crc16] fresh records in
theorem files_removed_iff (directory : Directory) (fault : Option GoError) (name : String) :
    (∀ other, ((directory.remove fault name).toOption.getD directory).lookup other =
      directory.lookup other) ↔ name ∉ directory ∨ fault ≠ none := by
  cases fault with
  | some cause => exact iff_of_true (fun _ => rfl) (.inr (some_ne_none cause))
  | none =>
    by_cases there : name ∈ directory
    · refine iff_of_false ?_ (by simp [there])
      intro same
      have gone := same name
      rw [Directory.remove, unlessFault, if_pos there] at gone
      change (directory.erase name).lookup name = _ at gone
      rw [AList.lookup_erase] at gone
      exact AList.lookup_eq_none.mp gone.symm there
    · refine iff_of_true ?_ (.inl there)
      intro other
      rw [Directory.remove, unlessFault, if_neg there]
      rfl

omit [Cboring] [Crc16] in
/-- The cleanup takes back the record, and may take more than there was of the
file. -/
theorem traceless_deleteFromDiskUnsafe_iff (faults : Faults) :
    Traceless bst ({ bst with metadataStore := data : BundleStore }.deleteFromDiskUnsafe
      faults metadata).2 ↔
      faults.delete = none ∧ (metadata.serialisedFileName ∉ bst.bundleDirectory ∨ faults.remove ≠ none) := by
  have record := records_deleted_iff fresh records faults.delete
  have file := files_removed_iff bst.bundleDirectory faults.remove metadata.serialisedFileName
  constructor
  · intro traceless
    exact ⟨record.mp traceless.records, file.mp traceless.files⟩
  · intro ⟨deleted, removed⟩
    exact ⟨rfl, rfl, record.mpr deleted, file.mpr removed⟩

end AfterRecord

/-- An error that is returned for a new bundle has left no trace. -/
def FailsTraceless (bst : BundleStore) (faults : Faults) (bundle : Bundle) : Prop :=
  ∀ cause left, bst.insertBundle faults bundle = (.error (.error cause), left) →
    Traceless bst left

/-- If the record goes in, then either the file cannot be created, the record
can be deleted again and there is no file to delete with it; or the file is
created, and the bundle is encoded and written without an error. -/
def Recoverable (bst : BundleStore) (faults : Faults) (bundle : Bundle) : Prop :=
  bst.Admits faults bundle →
    if faults.create = none then
      (∀ cause, bundle.marshalCbor ≠ .error (.error cause)) ∧
        ((∃ encoded, bundle.marshalCbor = .ok encoded) → faults.write = none)
    else
      faults.delete = none ∧ (fileName bundle.id.string ∉ bst.bundleDirectory ∨ faults.remove ≠ none)

/-- A failed insertion is traceless if it fails at the record, or at the file
with a cleanup that works. -/
theorem failsTraceless_iff_recoverable (new : bst.bundles.lookup bundle.id = none) :
    bst.FailsTraceless faults bundle ↔ bst.Recoverable faults bundle := by
  unfold FailsTraceless Recoverable
  rcases insertBundle_of_new new faults with ⟨refused, fault, same⟩ | ⟨admits, previousNode,
    data, records, same⟩
  · refine iff_of_true ?_ (fun admits => absurd admits refused)
    intro cause left failed
    cases same.symm.trans failed
    exact .refl bst
  · have fresh : ¬bst.Recorded (bst.newMetadata bundle previousNode).idString := admits.2.2
    rw [same]
    unfold storeFile
    cases created : faults.create with
    | some cause =>
      have cleaned := traceless_deleteFromDiskUnsafe_iff fresh records faults
      rw [if_neg (some_ne_none cause)]
      constructor
      · intro traceless _
        exact cleaned.mp (traceless _ _ rfl)
      · intro recoverable other left failed
        cases failed
        exact cleaned.mpr (recoverable admits)
    | none =>
      have traced := fun content =>
        not_traceless_writeFile fresh records (fileName bundle.id.string) content
      rw [if_pos rfl]
      cases encoding : bundle.marshalCbor with
      | error fault =>
        constructor
        · intro traceless _
          refine ⟨?_, fun ⟨encoded, done⟩ => nomatch done⟩
          intro cause failed
          cases failed
          exact traced _ (traceless cause _ rfl)
        · intro recoverable cause left failed
          cases failed
          exact absurd rfl ((recoverable admits).1 cause)
      | ok encoded =>
        cases writing : faults.write with
        | some cause =>
          refine iff_of_false ?_ ?_
          · intro traceless
            exact traced _ (traceless cause _ rfl)
          · intro recoverable
            cases (recoverable admits).2 ⟨encoded, rfl⟩
        | none =>
          refine iff_of_true ?_ (fun _ => ⟨fun cause failed => (nomatch failed), fun _ => rfl⟩)
          intro cause left failed
          cases failed

/-- Without a trace the same bundle can be inserted later. -/
theorem Traceless.insertBundle_ok (traceless : Traceless bst left)
    (new : bst.bundles.lookup bundle.id = none)
    (admits : bst.Admits faults bundle) {encoded : List UInt8 × Bundle}
    (encodes : bundle.marshalCbor = .ok encoded) :
    ∃ ref, (left.insertBundle .none bundle).1 = .ok ref := by
  have free : left.bundles.lookup bundle.id = none := by rw [traceless.bundles, new]
  rcases insertBundle_of_new free .none with ⟨refused, -⟩ | ⟨-, previousNode, data, -, same⟩
  · exact absurd (traceless.admits admits) refused
  · rw [same, storeFile, encodes]
    exact ⟨_, rfl⟩

end BundleStore

end

open BundleStore

open scoped Samples

/-- A bundle whose payload block has a CRC type that does not exist, and no CRC. -/
def oddBundle : Bundle :=
  { plainBundle with payloadBlock := { plainBundle.payloadBlock with crcType := 3 } }

/-- An encoding of the bundle. -/
def oddInput : List UInt8 :=
  [159, 136, 7, 0, 0, 130, 1, 107] ++ ascii "//executor/" ++ [130, 1, 105] ++ ascii "//broker/" ++
    [130, 1, 105] ++ ascii "//broker/" ++ [130, 1, 0, 25, 234, 96, 133, 1, 1, 0, 3, 65, 42, 255]

def emptyDisk : BundleStore := .empty (nodeEndpoint "broker")

/-- The disk does not let files be created. -/
def readOnly : Faults := { Faults.none with create := some (.text "permission denied") }

theorem readOnly_failsTraceless : emptyDisk.bundles.lookup oddBundle.id = none ∧
    (∃ cause left, emptyDisk.insertBundle readOnly oddBundle = (.error (.error cause), left)) ∧
    emptyDisk.FailsTraceless readOnly oddBundle := by
  have new : emptyDisk.bundles.lookup oddBundle.id = none := rfl
  refine ⟨new, ⟨_, _, rfl⟩, (failsTraceless_iff_recoverable new).mpr ?_⟩
  intro admits
  have failing : ¬readOnly.create = none := some_ne_none _
  rw [if_neg failing]
  exact ⟨rfl, .inl (AList.notMem_empty _)⟩

/-- The parser accepts the bundle, and the encoder does not. What the first
insertion leaves makes the second one fail at the record, and a restart loads a
descriptor for it. -/
theorem oddBundle_not_failsTraceless :
    ((Bundle.parseBundle 0 oddInput).err = none ∧ (Bundle.parseBundle 0 oddInput).bundle =
    oddBundle) ∧ ¬emptyDisk.FailsTraceless .none oddBundle ∧
    (∃ cause left, emptyDisk.insertBundle .none oddBundle = (.error (.error cause), left) ∧
      (left.insertBundle .none oddBundle).1 =
        .error (.error (.text "This Key already exists in badgerhold for this type")) ∧
      ∀ descriptors, left.LoadsAll descriptors → ∃ bd ∈ descriptors, bd.metadata.id = oddBundle.id) := by
  refine ⟨⟨by decide +kernel, by decide +kernel⟩, ?_, _, _, rfl, rfl, ?_⟩
  · intro traceless
    have records := (traceless _ _ rfl).records oddBundle.id.string
    cases records
  · rintro descriptors ⟨records, rfl, listed⟩
    have member := (listed _).mpr ⟨oddBundle.id.string, rfl⟩
    exact ⟨_, List.mem_map_of_mem member, rfl⟩

end RecDtn.Store
