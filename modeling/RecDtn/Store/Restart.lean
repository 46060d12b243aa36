import RecDtn.Store.Mirroring

/-! A store that is opened again. -/

namespace RecDtn.Store

open Lang Bpv7 List

section

variable [Sha256] [Badgerhold]

/-- What `Find` lists for the empty query: every record once, in some order. The
text of the ID is its key. -/
def Badgerhold.Lists (data : Data) (records : List BundleMetadata) : Prop :=
  records.Nodup ∧ ∀ metadata, metadata ∈ records ↔ find data metadata.idString = some metadata

open Badgerhold

theorem Badgerhold.Lists.distinct {data : Data} {records : List BundleMetadata}
    (listed : Lists data records) : (records.map BundleMetadata.id).Nodup := by
  refine List.Nodup.map_on ?_ listed.1
  intro first member second other same
  have found := (listed.2 first).mp member
  rw [first.idString_eq, same, ← second.idString_eq, (listed.2 second).mp other] at found
  exact (Option.some.inj found).symm

namespace BundleStore

/-- `InitialiseStore` on what is left on the disk. `loadAll` makes a descriptor
of every record, and the map gets them in the same order. -/
def initialiseStore (nodeID : EndpointID) (data : Data) (directory : Directory)
    (records : List BundleMetadata) : BundleStore :=
  records.foldl withDescriptor ⟨nodeID, data, directory, ∅, [], []⟩

variable {bst : BundleStore} {nodeID : EndpointID} {bid : BundleID} {ref : Ref}
  {bd : BundleDescriptor} {records : List BundleMetadata}

/-- With distinct IDs, no record takes the place of another one. -/
theorem initialiseStore_eq (nodeID : EndpointID) (data : Data) (directory : Directory)
    (distinct : (records.map BundleMetadata.id).Nodup) : ∃ bundles,
      initialiseStore nodeID data directory records = ⟨nodeID, data, directory, bundles, records.map .new, []⟩ ∧
      ∀ bid ref, bundles.lookup bid = some ref ↔ ∃ metadata, records[ref]? = some metadata ∧ metadata.id = bid := by
  induction records using List.reverseRecOn with
  | nil => exact ⟨∅, rfl, by simp⟩
  | append_singleton records metadata ih =>
    rw [map_append, nodup_append] at distinct
    obtain ⟨earlier, -, apart⟩ := distinct
    obtain ⟨bundles, opened, answers⟩ := ih earlier
    have places (ref : Ref) (record : BundleMetadata) : (records ++ [metadata])[ref]? = some record ↔
        records[ref]? = some record ∨ ref = records.length ∧ metadata = record := by
      grind
    refine ⟨bundles.insert metadata.id records.length, ?_, ?_⟩
    · rw [initialiseStore, foldl_append, ← initialiseStore, opened]
      simp [withDescriptor]
    · intro bid ref
      by_cases same : bid = metadata.id
      · rw [same, AList.lookup_insert, Option.some.injEq]
        constructor
        · intro last
          exact ⟨metadata, (places ref metadata).mpr (.inr ⟨last.symm, rfl⟩), rfl⟩
        · rintro ⟨record, there, equal⟩
          rcases (places ref record).mp there with old | ⟨last, -⟩
          · exact absurd equal (apart _ (mem_map_of_mem (mem_of_getElem? old)) _ (by simp))
          · exact last.symm
      · rw [AList.lookup_insert_ne same, answers]
        refine exists_congr fun record => and_congr_left fun equal => ?_
        rw [places]
        refine ⟨.inl, fun there => there.resolve_right ?_⟩
        rintro ⟨-, rfl⟩
        exact same equal.symm

theorem opened_initialiseStore (directory : Directory) {data : Data} (listed : Lists data records) :
    (initialiseStore nodeID data directory records).registry.Sound ∧
      (initialiseStore nodeID data directory records).Mirrors := by
  obtain ⟨bundles, opened, answers⟩ := initialiseStore_eq nodeID data directory listed.distinct
  rw [opened]
  refine ⟨⟨?_, ?_, by simp [registry], nodup_nil⟩, ?_⟩
  · intro bid ref found
    obtain ⟨metadata, there, same⟩ := (answers bid ref).mp found
    exact .inl (live_iff.mpr ⟨.new metadata, by rw [getElem?_map, there]; rfl, same, rfl⟩)
  · intro ref bid live
    obtain ⟨bd, pointed, rfl, -⟩ := live_iff.mp live
    obtain ⟨metadata, there, rfl⟩ := Option.map_eq_some_iff.mp (getElem?_map.symm.trans pointed)
    exact (answers _ ref).mpr ⟨metadata, there, rfl⟩
  · rintro bid ref bd ⟨-, pointed⟩
    obtain ⟨metadata, there, rfl⟩ := Option.map_eq_some_iff.mp (getElem?_map.symm.trans pointed)
    exact (listed.2 metadata).mp (mem_of_getElem? there)

/-- Runs without database errors, between which the store may be opened again. -/
inductive History [Cboring] [Crc16] (nodeID : EndpointID) : BundleStore → Prop where
  | start : History nodeID (empty nodeID)
  | act {bst : BundleStore} (action : Action) : History nodeID bst → action.DatabaseWorks →
      bst.MirrorGuard action → History nodeID (bst.step action)
  | restart {bst : BundleStore} (records : List BundleMetadata) : History nodeID bst →
      Lists bst.metadataStore records →
      History nodeID (initialiseStore nodeID bst.metadataStore bst.bundleDirectory records)

theorem History.mirrors [Cboring] [Crc16] (history : History nodeID bst) :
    bst.registry.Sound ∧ bst.Mirrors := by
  induction history with
  | start => exact ⟨Registry.sound_empty, mirrors_empty nodeID⟩
  | act action _ works guard ih =>
    exact ⟨ih.1.leads (step_leads _ action), (mirrors_step_iff ih.1 ih.2 works).mpr guard⟩
  | restart records _ listed _ => exact opened_initialiseStore _ listed

/-- After a restart the map has every bundle that it had before, with the same
metadata and the same file, and as one to be dispatched. It has those back, too,
whose deletion has not reached the disk. -/
theorem History.maps_restarted [Cboring] [Crc16] [Ed25519] (history : History nodeID bst)
    (listed : Lists bst.metadataStore records) (mapped : bst.Maps bid ref bd) :
    ∃ found, (initialiseStore nodeID bst.metadataStore bst.bundleDirectory records).Maps bid found
      (.new bd.metadata) ∧ (bd.deleted = false → ∀ now,
        (initialiseStore nodeID bst.metadataStore bst.bundleDirectory records).load now found = bst.load now ref) := by
  obtain ⟨sound, mirrors⟩ := history.mirrors
  obtain ⟨bundles, opened, answers⟩ :=
    initialiseStore_eq nodeID bst.metadataStore bst.bundleDirectory listed.distinct
  have member := (listed.2 bd.metadata).mpr (mirrors bid ref bd mapped)
  obtain ⟨found, there⟩ := getElem?_of_mem member
  have pointed : (records.map BundleDescriptor.new)[found]? = some (.new bd.metadata) := by
    rw [getElem?_map, there]
    rfl
  rw [opened]
  refine ⟨found, ⟨(answers bid found).mpr ⟨_, there, mapped.id_eq sound⟩, pointed⟩, ?_⟩
  intro live now
  simp only [load, loadEntireBundle, mapped.2, pointed, Go.deref, Go.ok_bind, live]
  rfl

end BundleStore

end

open BundleStore

open scoped Samples

/-- The node stops right after it has got a bundle. -/
theorem maps_restarted_localBundle : ∃ bst record found, History (nodeEndpoint "broker") bst ∧
    (initialiseStore (nodeEndpoint "broker") bst.metadataStore bst.bundleDirectory [record]).Maps
      localBundle.id found (.new record) := by
  have history : History (nodeEndpoint "broker") _ :=
    History.start.act (.insert localBundle .none) ⟨rfl, rfl, rfl⟩ trivial
  let record := (empty (nodeEndpoint "broker")).newMetadata localBundle none
  have listed : Badgerhold.Lists
      ((empty (nodeEndpoint "broker")).step (.insert localBundle .none)).metadataStore
      [record] := by
    refine ⟨nodup_singleton _, fun metadata => ?_⟩
    change _ ↔ (if metadata.idString = record.idString then some record else none) = some metadata
    grind
  obtain ⟨found, mapped, -⟩ :=
    history.maps_restarted listed (⟨rfl, rfl⟩ : Maps _ localBundle.id 0 _)
  exact ⟨_, record, found, history, mapped⟩

end RecDtn.Store
