import RecDtn.Lang.Registry
import RecDtn.Store.Descriptor

/-! Descriptors in memory, their metadata in a database, the bundles in files. -/

namespace RecDtn.Store

open Lang Bpv7 Option

/-- The metadata database, as the documentation of badgerhold has it: records
with a key, where `Insert` refuses a key that is taken, and `Update` and
`Delete` refuse one that is not. -/
class Badgerhold [Sha256] where
  Data : Type
  empty : Data
  find : Data → List UInt8 → Option BundleMetadata
  insert : Data → List UInt8 → BundleMetadata → Except GoError Data
  update : Data → List UInt8 → BundleMetadata → Except GoError Data
  delete : Data → List UInt8 → Except GoError Data
  find_empty : ∀ key, find empty key = none
  insert_fresh : ∀ {data key} metadata, find data key = none → ∃ next,
    insert data key metadata = .ok next ∧
      ∀ other, find next other = if other = key then some metadata else find data other
  insert_taken : ∀ {data key} metadata, find data key ≠ none →
    ∃ cause, insert data key metadata = .error cause
  update_known : ∀ {data key} metadata, find data key ≠ none → ∃ next,
    update data key metadata = .ok next ∧
      ∀ other, find next other = if other = key then some metadata else find data other
  update_unknown : ∀ {data key} metadata, find data key = none →
    ∃ cause, update data key metadata = .error cause
  delete_known : ∀ {data key}, find data key ≠ none → ∃ next, delete data key = .ok next ∧
    ∀ other, find next other = if other = key then none else find data other
  delete_unknown : ∀ {data key}, find data key = none → ∃ cause, delete data key = .error cause

/-- A database that is a table of its records. -/
@[reducible] def Badgerhold.table [Sha256] : Badgerhold where
  Data := List UInt8 → Option BundleMetadata
  empty _ := none
  find data key := data key
  insert data key metadata :=
    if (data key).isSome then .error (.text "This Key already exists in badgerhold for this type")
    else .ok fun other => if other = key then some metadata else data other
  update data key metadata :=
    if (data key).isSome then .ok fun other => if other = key then some metadata else data other
    else .error (.text "No data found for this key")
  delete data key :=
    if (data key).isSome then .ok fun other => if other = key then none else data other
    else .error (.text "No data found for this key")
  find_empty _ := rfl
  insert_fresh metadata fresh := ⟨_, if_neg (by simp [fresh]), fun _ => rfl⟩
  insert_taken metadata taken := ⟨_, if_pos (isSome_iff_ne_none.mpr taken)⟩
  update_known metadata known := ⟨_, if_pos (isSome_iff_ne_none.mpr known), fun _ => rfl⟩
  update_unknown metadata unknown := ⟨_, if_neg (by simp [unknown])⟩
  delete_known known := ⟨_, if_pos (isSome_iff_ne_none.mpr known), fun _ => rfl⟩
  delete_unknown unknown := ⟨_, if_neg (by simp [unknown])⟩

/-- What goes wrong on the disk during a call. A database call that fails
changes nothing; a file whose writing fails is left with other bytes in it. -/
structure Faults where
  insert : Option GoError
  update : Option GoError
  delete : Option GoError
  create : Option GoError
  write : Option GoError
  remove : Option GoError
  torn : List UInt8

def Faults.none : Faults := ⟨.none, .none, .none, .none, .none, .none, []⟩

/-- A call that the disk may fail. -/
def unlessFault {α : Type} (fault : Option GoError) (call : Except GoError α) : Except GoError α :=
  match fault with
  | some cause => .error cause
  | none => call

abbrev Directory := AList fun _ : String => List UInt8

def Directory.remove (directory : Directory) (fault : Option GoError) (name : String) :
    Except GoError Directory :=
  unlessFault fault <|
    if name ∈ directory then .ok (directory.erase name)
    else .error (.text s!"remove {name}: no such file or directory")

/-- A pointer to a descriptor: its position in the order of creation. -/
abbrev Ref := Nat

structure BundleStore [Sha256] [Badgerhold] where
  nodeID : EndpointID
  metadataStore : Badgerhold.Data
  bundleDirectory : Directory
  bundles : AList fun _ : BundleID => Ref
  descriptors : List BundleDescriptor
  /-- The arguments of the `deleteBundle` goroutines that have not run yet. -/
  deletions : List BundleMetadata

/-- The node a bundle came from, if it has one block that says so. A type
assertion panics on a value of another type. -/
def sender (bundle : Bundle) : Go (Option EndpointID) := do
  match ← Go.attempt (bundle.extensionBlockByType BlockType.previousNodeBlock) with
  | .error _ => return none
  | .ok previousNodeBlock =>
    match previousNodeBlock.value with
    | some (.previousNode endpoint) => return some endpoint
    | _ => .error .panic

namespace BundleStore

variable [Sha256] [Badgerhold]

/-- A store on an empty disk. -/
def empty (nodeID : EndpointID) : BundleStore := ⟨nodeID, Badgerhold.empty, ∅, ∅, [], []⟩

variable (bst : BundleStore)

def getBundleDescriptor (bundleId : BundleID) : Go Ref :=
  match bst.bundles.lookup bundleId with
  | none => .error (.error (noSuchBundleError bundleId))
  | some ref => do
    let descriptor ← Go.deref bst.descriptors[ref]?
    if descriptor.deleted then .error (.error (noSuchBundleError bundleId)) else return ref

/-- The bundle that a call to `ParseBundle` fills in. Its error is dropped. -/
def parsedBundle [Cboring] [Crc16] [Ed25519] (now : Time) (content : List UInt8) : Go Bundle :=
  match (Bundle.parseBundle now content).err with
  | none => .ok (Bundle.parseBundle now content).bundle
  | some (.error _) => .ok (Bundle.parseBundle now content).bundle
  | some fault => .error fault

def loadEntireBundle [Cboring] [Crc16] [Ed25519] (now : Time) (filename : String) : Go Bundle :=
  match bst.bundleDirectory.lookup filename with
  | none => .error (.error (.text s!"open {filename}: no such file or directory"))
  | some content => parsedBundle now content

/-- `Load` of a descriptor. -/
def load [Cboring] [Crc16] [Ed25519] (now : Time) (ref : Ref) : Go Bundle := do
  let bd ← Go.deref bst.descriptors[ref]?
  if bd.deleted then .error (.error (bundleDeletedError bd.metadata.id))
  else bst.loadEntireBundle now bd.metadata.serialisedFileName

/-- Delete the record and the file. The errors are collected; each of the two
is tried whatever happens to the other. -/
def deleteFromDiskUnsafe (faults : Faults) (metadata : BundleMetadata) :
    List GoError × BundleStore :=
  let record := unlessFault faults.delete (Badgerhold.delete bst.metadataStore metadata.idString)
  let file := bst.bundleDirectory.remove faults.remove metadata.serialisedFileName
  ((match record with | .error cause => [cause] | .ok _ => []) ++
      (match file with | .error cause => [cause] | .ok _ => []),
    { bst with
      metadataStore := record.toOption.getD bst.metadataStore
      bundleDirectory := file.toOption.getD bst.bundleDirectory })

/-- One of the waiting `deleteBundle` goroutines runs. Its errors are logged. -/
def deleteBundle (faults : Faults) (position : Nat) : BundleStore :=
  match bst.deletions[position]? with
  | none => bst
  | some metadata =>
    ({ bst with
        bundles := bst.bundles.erase metadata.id
        deletions := bst.deletions.eraseIdx position : BundleStore
      }.deleteFromDiskUnsafe faults metadata).2

def perform (ref : Ref) (operation : Operation) : Go Unit × BundleStore :=
  match bst.descriptors[ref]? with
  | none => (.error .panic, bst)
  | some bd =>
    let answer := bd.perform operation
    (Go.check answer.err, { bst with
      descriptors := bst.descriptors.set ref answer.descriptor
      deletions := bst.deletions ++ answer.spawned.toList })

/-- The error is only logged by `AddKnownHolder`, but returned by `SetMiscData`. -/
def updateBundleMetadata (faults : Faults) (metadata : BundleMetadata) :
    Except GoError Badgerhold.Data :=
  unlessFault faults.update (Badgerhold.update bst.metadataStore metadata.idString metadata)

/-- Change the metadata of a descriptor, in memory and in the database. -/
def withMetadata (faults : Faults) (ref : Ref) (bd : BundleDescriptor) (metadata : BundleMetadata) :
    BundleStore :=
  { bst with
    descriptors := bst.descriptors.set ref { bd with metadata := metadata }
    metadataStore := (bst.updateBundleMetadata faults metadata).toOption.getD bst.metadataStore }

def addKnownHolder (faults : Faults) (ref : Ref) (peers : List EndpointID) : Go Unit × BundleStore :=
  match bst.descriptors[ref]? with
  | none => (.error .panic, bst)
  | some bd =>
    if bd.deleted then (.error (.error (bundleDeletedError bd.metadata.id)), bst)
    else (.ok (), bst.withMetadata faults ref bd
      { bd.metadata with knownHolders := bd.metadata.knownHolders ++ peers })

/-- `SetMiscData` does not ask whether the bundle has been deleted. -/
def setMiscData (faults : Faults) (ref : Ref) (key : String) (value : UInt64) :
    Go Unit × BundleStore :=
  match bst.descriptors[ref]? with
  | none => (.error .panic, bst)
  | some bd =>
    let metadata : BundleMetadata :=
      { bd.metadata with miscellaneousData := bd.metadata.miscellaneousData.insert key value }
    ((Go.ofExcept (bst.updateBundleMetadata faults metadata)).map fun _ => (),
      bst.withMetadata faults ref bd metadata)

/-- One round of the loop of `GarbageCollect`. -/
def collect (now : Time) (ref : Ref) : BundleStore :=
  match bst.descriptors[ref]? with
  | none => bst
  | some bd => if bd.expired now && !bd.retained then (bst.perform ref (.delete false)).2 else bst

def garbageCollect (order : RangeOrder Ref) (now : Time) : BundleStore :=
  (order.visit (bst.bundles.entries.map Sigma.snd)).foldl (fun state ref => state.collect now ref) bst

def newMetadata (bundle : Bundle) (previousNode : Option EndpointID) : BundleMetadata where
  id := bundle.id
  source := bundle.primaryBlock.sourceNode
  destination := bundle.primaryBlock.destination
  reportTo := bundle.primaryBlock.reportTo
  isAdministrativeRecord :=
    bundle.primaryBlock.bundleControlFlags.has BundleControlFlags.administrativeRecordPayload
  miscellaneousData := ∅
  idString := bundle.id.string
  knownHolders := bst.nodeID :: previousNode.toList
  expires := bundle.primaryBlock.creationTimestamp.dtnTime.time +
    lifetimeDuration bundle.primaryBlock.lifetime
  serialisedFileName := fileName bundle.id.string
  idString_eq := rfl
  serialisedFileName_eq := rfl

def writeFile (name : String) (content : List UInt8) : BundleStore :=
  { bst with bundleDirectory := bst.bundleDirectory.insert name content }

def withDescriptor (metadata : BundleMetadata) : BundleStore :=
  { bst with
    bundles := bst.bundles.insert metadata.id bst.descriptors.length
    descriptors := bst.descriptors ++ [.new metadata] }

variable [Cboring] [Crc16]

/-- The part of `insertNewBundleUnsafe` after the record has been inserted. A
file that cannot be created takes the record with it; a bundle that cannot be
encoded or written leaves the record and the file behind. -/
def storeFile (faults : Faults) (bundle : Bundle) (metadata : BundleMetadata) :
    Go Ref × BundleStore :=
  match faults.create with
  | some cause =>
    let left := bst.deleteFromDiskUnsafe faults metadata
    (.error (.error (match left.1 with | [] => cause | causes => .multi (cause :: causes))), left.2)
  | none =>
    match bundle.marshalCbor with
    | .error fault => (.error fault, bst.writeFile metadata.serialisedFileName faults.torn)
    | .ok (written, _) =>
      match faults.write with
      | some cause => (.error (.error cause), bst.writeFile metadata.serialisedFileName faults.torn)
      | none => (.ok bst.descriptors.length,
          (bst.writeFile metadata.serialisedFileName written).withDescriptor metadata)

def insertNewBundleUnsafe (faults : Faults) (bundle : Bundle) : Go Ref × BundleStore :=
  match sender bundle with
  | .error fault => (.error fault, bst)
  | .ok previousNode =>
    let metadata := bst.newMetadata bundle previousNode
    match unlessFault faults.insert
        (Badgerhold.insert bst.metadataStore metadata.idString metadata) with
    | .error cause => (.error (.error cause), bst)
    | .ok data => { bst with metadataStore := data : BundleStore }.storeFile faults bundle metadata

/-- A bundle that is known already only adds its sender to the known holders.
Without a sender the descriptor is handed back as it is. -/
def insertBundle (faults : Faults) (bundle : Bundle) : Go Ref × BundleStore :=
  match bst.bundles.lookup bundle.id with
  | none => bst.insertNewBundleUnsafe faults bundle
  | some ref =>
    match sender bundle with
    | .error fault => (.error fault, bst)
    | .ok none => (.ok ref, bst)
    | .ok (some previousNode) =>
      let added := bst.addKnownHolder faults ref [previousNode]
      (added.1.map fun _ => ref, added.2)

end BundleStore

end RecDtn.Store

namespace RecDtn.Samples

attribute [scoped instance] Store.Badgerhold.table

end RecDtn.Samples
