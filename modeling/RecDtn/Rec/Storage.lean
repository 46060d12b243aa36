import Mathlib.Data.Finset.Card
import Mathlib.Data.List.Induction
import RecDtn.Lang.Dict
import RecDtn.Lang.Python
import RecDtn.Lang.Sha1

namespace RecDtn.Rec

open Python Lang Sha1 List Option

structure Entry where
  name : Str
  filename : Str
  deriving DecidableEq

/-- The database, as the documentation of TinyDB has it: documents in the order
of their insertion. -/
class TinyDb where
  Data : Type
  empty : Data
  insert : Data → Entry → Data
  search : Data → (Entry → Bool) → List Entry
  remove : Data → (Entry → Bool) → Data
  search_empty : ∀ query, search empty query = []
  search_insert : ∀ data entry query, search (insert data entry) query =
    search data query ++ if query entry then [entry] else []
  search_remove : ∀ data condition query, search (remove data condition) query =
    (search data query).filter fun entry => !condition entry

/-- A database that is a list of its documents. -/
@[reducible] def TinyDb.table : TinyDb where
  Data := List Entry
  empty := []
  insert data entry := data ++ [entry]
  search data query := data.filter query
  remove data condition := data.filter fun entry => !condition entry
  search_empty _ := rfl
  search_insert data entry query := by
    rw [filter_append]
    by_cases found : query entry = true
    · simp [found]
    · simp [found]
  search_remove data condition query := by
    rw [List.filter_filter, List.filter_filter]
    apply List.filter_congr
    intro entry _
    exact Bool.and_comm _ _

variable [TinyDb] [Sha1]

structure Storage where
  db : TinyDb.Data
  blobs : Dict Str (List UInt8)

namespace Storage

def new : Storage := ⟨TinyDb.empty, .empty⟩

/-- The documents of a name. -/
def named (storage : Storage) (name : Str) : List Entry :=
  TinyDb.search storage.db fun entry => entry.name = name

def storeData (storage : Storage) (name : Str) (data : List UInt8) : Storage × Py Unit :=
  if storage.named name ≠ [] then
    (storage, raise .nameTakenError s!"name {String.ofList name} already taken")
  else
    let filename := hexdigest data
    let db := TinyDb.insert storage.db ⟨name, filename⟩
    if filename ∈ storage.blobs.keys then ({ storage with db }, .ok ())
    else (⟨db, storage.blobs.set filename data⟩, .ok ())

/-- Storing one after the other. A name that is taken is passed over. -/
def storeEach (storage : Storage) (items : List (Str × List UInt8)) : Storage :=
  items.foldl (fun storage item => (storage.storeData item.1 item.2).1) storage

/-- `_cleanup`. It removes the documents of a name, and is called with the names
of files. -/
def cleanup (storage : Storage) (names : List Str) : Storage :=
  { storage with
    db := names.foldl (fun db name => TinyDb.remove db fun entry => entry.name = name) storage.db }

def loadData (storage : Storage) (name : Str) : Storage × List (Str × List UInt8) :=
  let entries := TinyDb.search storage.db fun entry => name.isPrefixOf entry.name
  let allData := entries.filterMap fun entry =>
    (storage.blobs.get? entry.filename).map fun data => (entry.name, data)
  let disappeared := (entries.filter fun entry =>
    (storage.blobs.get? entry.filename).isNone).map Entry.filename
  (if disappeared = [] then storage else storage.cleanup disappeared, allData)

def findMissing (storage : Storage) (names : List Str) : List Str :=
  names.filter fun name => (storage.named name).isEmpty

/-- The bytes that `copy_to_file` writes to its destination. -/
def copyToFile (storage : Storage) (name : Str) : Storage × Py (List UInt8) :=
  match storage.named name with
  | [] => (storage, raise .noSuchNameError s!"no such name: {String.ofList name}")
  | entry :: _ =>
    match storage.blobs.get? entry.filename with
    | some data => (storage, .ok data)
    | none =>
      (storage.cleanup [entry.filename], raise .noSuchNameError s!"no such name: {String.ofList name}")

/-- A document that is found matches the query and has its file, and every file
holds data of the right hash. -/
structure Sound (storage : Storage) : Prop where
  found : ∀ query, ∀ entry ∈ TinyDb.search storage.db query, query entry = true
  filed : ∀ query, ∀ entry ∈ TinyDb.search storage.db query, entry.filename ∈
    storage.blobs.keys
  hashed : ∀ filename content, storage.blobs.get? filename = some content →
    hexdigest content = filename

theorem sound_new : (new : Storage).Sound where
  found query entry member := by
    rw [new, TinyDb.search_empty] at member
    cases member
  filed query entry member := by
    rw [new, TinyDb.search_empty] at member
    cases member
  hashed filename content present := by
    rw [new, Dict.get?_eq_some] at present
    cases present

variable {storage : Storage} {name : Str} {data : List UInt8}

theorem storeData_of_taken (taken : storage.named name ≠ []) : storage.storeData name data =
    (storage, raise .nameTakenError s!"name {String.ofList name} already taken") := by
  rw [storeData, if_pos taken]

theorem storeData_of_free (free : storage.named name = []) : storage.storeData name data =
    (⟨TinyDb.insert storage.db ⟨name, hexdigest data⟩,
      if hexdigest data ∈ storage.blobs.keys then storage.blobs
      else storage.blobs.set (hexdigest data) data⟩, .ok ()) := by
  rw [storeData, if_neg (by simpa using free)]
  simp only
  split
  · rfl
  · rfl

theorem search_storeData (free : storage.named name = []) (query : Entry → Bool) :
    TinyDb.search (storage.storeData name data).1.db query = TinyDb.search storage.db query ++
      if query ⟨name, hexdigest data⟩ then [⟨name, hexdigest data⟩] else [] := by
  rw [storeData_of_free free]
  exact TinyDb.search_insert ..

variable {filename : Str} {content : List UInt8}

theorem blobs_storeData_of_some (data : List UInt8) (free : storage.named name = [])
    (present : storage.blobs.get? filename = some content) :
    (storage.storeData name data).1.blobs.get? filename = some content := by
  rw [storeData_of_free free]
  simp only
  split
  · exact present
  · rename_i absent
    have other : filename ≠ hexdigest data := by
      rintro rfl
      rw [Dict.get?_eq_none.mpr absent] at present
      cases present
    rw [Dict.get?_set, if_neg other, present]

theorem blobs_of_storeData (free : storage.named name = [])
    (present : (storage.storeData name data).1.blobs.get? filename = some content) :
    storage.blobs.get? filename = some content ∨
      (filename = hexdigest data ∧ content = data) := by
  rw [storeData_of_free free] at present
  simp only at present
  split at present
  · exact .inl present
  · rw [Dict.get?_set] at present
    split at present
    · rename_i same
      cases present
      exact .inr ⟨same, rfl⟩
    · exact .inl present

theorem blob_storeData (data : List UInt8) (free : storage.named name = []) :
    hexdigest data ∈ (storage.storeData name data).1.blobs.keys := by
  rw [storeData_of_free free]
  simp only
  split
  · rename_i present
    exact present
  · apply Dict.mem_keys.mpr
    exact ⟨data, Dict.mem_items_set.mpr (.inl ⟨rfl, rfl⟩)⟩

theorem mem_keys_storeData (free : storage.named name = [])
    (present : filename ∈ storage.blobs.keys) :
    filename ∈ (storage.storeData name data).1.blobs.keys := by
  obtain ⟨content, present⟩ := Dict.mem_keys.mp present
  have kept := blobs_storeData_of_some data free (Dict.get?_eq_some.mpr present)
  exact Dict.mem_keys.mpr ⟨content, Dict.get?_eq_some.mp kept⟩

theorem Sound.storeData (sound : storage.Sound) (name : Str) (data : List UInt8) :
    (storage.storeData name data).1.Sound := by
  by_cases free : storage.named name = []
  · have split {query : Entry → Bool} {entry : Entry}
        (member : entry ∈ TinyDb.search (storage.storeData name data).1.db query) :
        entry ∈ TinyDb.search storage.db query ∨ (query entry = true ∧ entry = ⟨name, hexdigest data⟩) := by
      rw [search_storeData free, mem_append] at member
      rcases member with old | added
      · exact .inl old
      · split at added
        · rename_i matched
          cases mem_singleton.mp added
          exact .inr ⟨matched, rfl⟩
        · cases added
    constructor
    · intro query entry member
      rcases split member with old | ⟨matched, -⟩
      · exact sound.found query entry old
      · exact matched
    · intro query entry member
      rcases split member with old | ⟨-, rfl⟩
      · exact mem_keys_storeData free (sound.filed query entry old)
      · exact blob_storeData data free
    · intro filename content present
      rcases blobs_of_storeData free present with old | ⟨rfl, rfl⟩
      · exact sound.hashed filename content old
      · rfl
  · rw [storeData_of_taken free]
    exact sound

/-- A sound storage has nothing to clean up. -/
theorem Sound.loadData_fst (sound : storage.Sound) (name : Str) :
    (storage.loadData name).1 = storage := by
  have present : ∀ entry ∈ TinyDb.search storage.db fun entry => name.isPrefixOf entry.name,
      ¬(storage.blobs.get? entry.filename).isNone = true := by
    intro entry member missing
    have filed := sound.filed _ entry member
    rw [isNone_iff_eq_none, Dict.get?_eq_none] at missing
    exact missing filed
  simp only [loadData, List.filter_eq_nil_iff.mpr present, map_nil, if_true]

/-- New data comes last in the answers to the prefixes of its name. -/
theorem Sound.loadData_storeData (sound : storage.Sound) (data : List UInt8)
    (free : storage.named name = []) :
    ∃ content, ∀ key, ((storage.storeData name data).1.loadData key).2 =
      (storage.loadData key).2 ++ if key <+: name then [(name, content)] else [] := by
  obtain ⟨content, present⟩ := Dict.mem_keys.mp (blob_storeData data free)
  refine ⟨content, ?_⟩
  intro key
  simp only [loadData, search_storeData free, filterMap_append]
  congr 1
  · apply filterMap_congr
    intro entry member
    obtain ⟨old, filed⟩ := Dict.mem_keys.mp (sound.filed _ entry member)
    have kept := blobs_storeData_of_some data free (Dict.get?_eq_some.mpr filed)
    rw [kept, Dict.get?_eq_some.mpr filed]
  · by_cases starts : key <+: name
    · simp [starts, Dict.get?_eq_some.mpr present]
    · simp [starts]

/-- The hashes tell all the data apart. -/
def CollisionFree (items : List (Str × List UInt8)) : Prop :=
  ∀ first ∈ items, ∀ second ∈ items, hexdigest first.2 = hexdigest second.2 →
    first.2 = second.2

omit [TinyDb] in
theorem CollisionFree.of_append {first second : List (Str × List UInt8)}
    (free : CollisionFree (first ++ second)) :
    CollisionFree first := fun one oneMember other otherMember =>
  free one (mem_append_left _ oneMember) other (mem_append_left _ otherMember)

/-- The data that was offered first under a name. -/
def firstOf (items : List (Str × List UInt8)) (name : Str) : Option (List UInt8) :=
  (items.find? fun item => item.1 = name).map Prod.snd

/-- The storage after some data has been offered to it. -/
structure Records (storage : Storage) (items : List (Str × List UInt8)) : Prop where
  sound : storage.Sound
  files : ∀ filename content, storage.blobs.get? filename = some content →
    ∃ item ∈ items, item.2 = content
  heads : ∀ name, (storage.named name).head? =
    (firstOf items name).map fun data => ⟨name, hexdigest data⟩

omit [TinyDb] [Sha1] in
theorem firstOf_append (first second : List (Str × List UInt8)) (name : Str) :
    firstOf (first ++ second) name = (firstOf first name).or (firstOf second name) := by
  rw [firstOf, find?_append, map_or]
  rfl

omit [TinyDb] [Sha1] in
theorem firstOf_singleton (name other : Str) (data : List UInt8) :
    firstOf [(name, data)] other = if name = other then some data else none := by
  by_cases same : name = other
  · simp [firstOf, same]
  · simp [firstOf, same]

variable {items : List (Str × List UInt8)}

theorem Records.named_eq_nil (records : storage.Records items) (name : Str) :
    storage.named name = [] ↔ firstOf items name = none := by
  rw [← head?_eq_none_iff, records.heads, map_eq_none_iff]

theorem Records.storeData (records : storage.Records items) (name : Str) (data : List UInt8) :
    (storage.storeData name data).1.Records (items ++ [(name, data)]) := by
  by_cases free : storage.named name = []
  · refine ⟨records.sound.storeData name data, ?_, ?_⟩
    · intro filename content present
      rcases blobs_of_storeData free present with old | ⟨-, rfl⟩
      · obtain ⟨item, member, same⟩ := records.files filename content old
        exact ⟨item, mem_append_left _ member, same⟩
      · exact ⟨(name, content), mem_append_right _ (mem_singleton_self _), rfl⟩
    · intro other
      rw [named, search_storeData free, head?_append, ← named, records.heads, firstOf_append,
        map_or, firstOf_singleton]
      congr 1
      by_cases same : name = other
      · simp [same]
      · simp [same]
  · -- The name has data already, and keeps it.
    rw [storeData_of_taken free]
    refine ⟨records.sound, ?_, ?_⟩
    · intro filename content present
      obtain ⟨item, member, same⟩ := records.files filename content present
      exact ⟨item, mem_append_left _ member, same⟩
    · intro other
      rw [records.heads, firstOf_append, firstOf_singleton]
      split
      · rename_i same
        rw [records.named_eq_nil, same] at free
        obtain ⟨old, present⟩ := ne_none_iff_exists'.mp free
        rw [present]
        rfl
      · rw [or_none]

/-- The calls that return, among calls that are made one after the other. -/
def stored : Storage → List (Str × List UInt8) → List (Str × List UInt8)
  | _, [] => []
  | storage, item :: rest =>
    match storage.storeData item.1 item.2 with
    | (next, .ok _) => item :: stored next rest
    | (next, .error _) => stored next rest

/-- The document of a name and its data. -/
def entryOf (item : Str × List UInt8) : Entry := ⟨item.1, hexdigest item.2⟩

/-- The storage as the map that it stands for: a document for each pair, and a
file for each data. -/
structure Keeps (storage : Storage) (kept : List (Str × List UInt8)) : Prop where
  sound : storage.Sound
  entries : ∀ query, TinyDb.search storage.db query = (kept.map entryOf).filter query
  contents : ∀ content, content ∈ storage.blobs.values ↔ content ∈ kept.map Prod.snd

theorem keeps_new : (new : Storage).Keeps [] where
  sound := sound_new
  entries := TinyDb.search_empty
  contents _ := Iff.rfl

omit [Sha1] in
theorem mem_values : content ∈ storage.blobs.values ↔
    ∃ filename, storage.blobs.get? filename = some content := by
  simp [Dict.values, Dict.get?_eq_some]

variable {kept : List (Str × List UInt8)}

section

variable (keeps : storage.Keeps kept)

include keeps

theorem Keeps.named_eq_nil : storage.named name = [] ↔ name ∉ kept.map Prod.fst := by
  rw [named, keeps.entries, List.filter_map, List.map_eq_nil_iff, List.filter_eq_nil_iff]
  constructor
  · intro unmatched taken
    obtain ⟨item, member, rfl⟩ := mem_map.mp taken
    exact unmatched item member (decide_eq_true rfl)
  · intro absent item member matched
    exact absent (mem_map.mpr ⟨item, member, of_decide_eq_true matched⟩)

/-- The file of a pair holds its data, and not other data of the same hash. -/
theorem Keeps.get?_blobs (free : CollisionFree kept) {item : Str × List UInt8}
    (member : item ∈ kept) : storage.blobs.get? (hexdigest item.2) = some item.2 := by
  have listed : entryOf item ∈ TinyDb.search storage.db fun _ => true := by
    rw [keeps.entries, filter_true]
    exact mem_map_of_mem member
  obtain ⟨content, present⟩ := Dict.mem_keys.mp (keeps.sound.filed _ _ listed)
  have present := Dict.get?_eq_some.mpr present
  obtain ⟨origin, originMember, rfl⟩ :=
    mem_map.mp ((keeps.contents content).mp (mem_values.mpr ⟨_, present⟩))
  have same := free origin originMember item member (keeps.sound.hashed _ _ present)
  rw [same] at present
  exact present

theorem Keeps.storeData (fresh : storage.named name = [])
    (free : CollisionFree (kept ++ [(name, data)])) :
    (storage.storeData name data).1.Keeps (kept ++ [(name, data)]) := by
  refine ⟨keeps.sound.storeData name data, ?_, ?_⟩
  · intro query
    rw [search_storeData fresh, keeps.entries, map_append, filter_append]
    simp [entryOf, filter_singleton]
  · intro content
    rw [mem_values, map_append, mem_append]
    constructor
    · rintro ⟨filename, present⟩
      rcases blobs_of_storeData fresh present with old | ⟨-, rfl⟩
      · exact .inl ((keeps.contents content).mp (mem_values.mpr ⟨filename, old⟩))
      · exact .inr (mem_singleton_self _)
    · rintro (old | added)
      · obtain ⟨filename, present⟩ := mem_values.mp ((keeps.contents content).mpr old)
        exact ⟨filename, blobs_storeData_of_some data fresh present⟩
      · cases mem_singleton.mp added
        -- A file of that name may be there already, and then it is the file of equal data.
        obtain ⟨found, present⟩ := Dict.mem_keys.mp (blob_storeData data fresh)
        have present := Dict.get?_eq_some.mpr present
        rcases blobs_of_storeData fresh present with old | ⟨-, rfl⟩
        · obtain ⟨origin, member, rfl⟩ := mem_map.mp ((keeps.contents found).mp (mem_values.mpr ⟨_, old⟩))
          have same := free origin (mem_append_left _ member) (name, data)
            (mem_append_right _ (mem_singleton_self _)) (keeps.sound.hashed _ _ old)
          exact ⟨_, same ▸ present⟩
        · exact ⟨_, present⟩

theorem Keeps.storeEach (items : List (Str × List UInt8))
    (free : CollisionFree (kept ++ storage.stored items)) :
    (storage.storeEach items).Keeps (kept ++ storage.stored items) := by
  induction items generalizing storage kept with
  | nil =>
    rw [stored, append_nil]
    exact keeps
  | cons item rest ih =>
    change ((storage.storeData item.1 item.2).1.storeEach rest).Keeps _
    rw [stored] at free ⊢
    by_cases fresh : storage.named item.1 = []
    · have next : storage.storeData item.1 item.2 = _ := storeData_of_free fresh
      rw [next] at free ⊢
      rw [append_cons] at free ⊢
      refine ih ?_ free
      have grown := keeps.storeData fresh free.of_append
      rw [next] at grown
      exact grown
    · rw [storeData_of_taken fresh] at free ⊢
      exact ih keeps free

theorem Keeps.loadData (free : CollisionFree kept) (key : Str) :
    storage.loadData key = (storage, kept.filter fun item => key.isPrefixOf item.1) := by
  refine Prod.ext (keeps.sound.loadData_fst key) ?_
  change (TinyDb.search storage.db _).filterMap _ = _
  rw [keeps.entries, List.filter_map, List.filterMap_map]
  have loaded : ∀ item ∈ kept.filter fun item => key.isPrefixOf item.1,
      (storage.blobs.get? (hexdigest item.2)).map (fun data => (item.1, data)) = some item := by
    intro item member
    rw [keeps.get?_blobs free (mem_of_mem_filter member)]
    rfl
  exact (filterMap_congr loaded).trans filterMap_some

/-- Equal data shares its file. -/
theorem Keeps.length_blobs : storage.blobs.items.length = (kept.map Prod.snd).toFinset.card := by
  have keys : storage.blobs.keys = storage.blobs.values.map hexdigest := by
    rw [Dict.keys, Dict.values, List.map_map]
    apply List.map_congr_left
    intro item member
    exact (keeps.sound.hashed item.1 item.2 (Dict.get?_eq_some.mpr member)).symm
  have nodup : storage.blobs.values.Nodup := by
    have nodup : storage.blobs.keys.Nodup := storage.blobs.nodup
    rw [keys] at nodup
    exact nodup.of_map _
  have same : (kept.map Prod.snd).toFinset = storage.blobs.values.toFinset := by
    ext content
    rw [List.mem_toFinset, List.mem_toFinset, keeps.contents]
  rw [same, toFinset_card_of_nodup nodup, Dict.values, length_map]

end

/-- A storage is a map from names to data to which pairs are only ever added. -/
theorem storeEach_appendOnly (items : List (Str × List UInt8))
    (free : CollisionFree ((new : Storage).stored items)) :
    let storage := (new : Storage).storeEach items
    let kept := (new : Storage).stored items
    (∀ name data, if name ∈ kept.map Prod.fst
        then storage.storeData name data = (storage, raise .nameTakenError s!"name {String.ofList name} already taken")
        else (storage.storeData name data).2 = .ok ()) ∧
      (∀ key, storage.loadData key = (storage, kept.filter fun item => key.isPrefixOf item.1)) ∧
      (∀ names name, name ∈ storage.findMissing names ↔ name ∈ names ∧ name ∉
      kept.map Prod.fst) ∧ storage.blobs.items.length = (kept.map Prod.snd).toFinset.card := by
  intro storage kept
  have keeps : storage.Keeps kept := keeps_new.storeEach items free
  refine ⟨?_, keeps.loadData free, ?_, keeps.length_blobs⟩
  · intro name data
    split
    · rename_i taken
      exact storeData_of_taken fun fresh => keeps.named_eq_nil.mp fresh taken
    · rename_i fresh
      rw [storeData_of_free (keeps.named_eq_nil.mpr fresh)]
  · intro names name
    simp only [findMissing, List.mem_filter, List.isEmpty_iff, keeps.named_eq_nil]

end Storage

end RecDtn.Rec

namespace RecDtn.Samples

attribute [scoped instance] Rec.TinyDb.table

end RecDtn.Samples

/-! Two names of equal data, and a name that is offered twice. -/

namespace RecDtn.Rec

open Python Lang

open scoped Samples

def sampleItems : List (Str × List UInt8) :=
  [(str "job/a", [1]), (str "job/b", [1]), (str "job/a", [2])]

theorem sampleItems_stored :
    (Storage.new : Storage).stored sampleItems = [(str "job/a", [1]), (str "job/b", [1])] := by
  decide +kernel

theorem sampleItems_appendOnly :
    ((Storage.new : Storage).storeEach sampleItems).blobs.items.length = 1 := by
  have free : Storage.CollisionFree ((Storage.new : Storage).stored sampleItems) := by
    rw [sampleItems_stored]
    unfold Storage.CollisionFree
    decide +kernel
  refine (Storage.storeEach_appendOnly sampleItems free).2.2.2.trans ?_
  rw [sampleItems_stored]
  decide +kernel

end RecDtn.Rec
