import RecDtn.Lang.Run
import RecDtn.Rec.Storage

/-! A storage whose files disappear, or whose calls fail half-way. -/

namespace RecDtn.Rec

open Python Lang Sha1 List

section

variable [TinyDb]

namespace Storage

def documents (storage : Storage) : List Entry := TinyDb.search storage.db fun _ => true

/-- Queries are answered from the documents, and a name has one document at
most. -/
structure Tidy (storage : Storage) : Prop where
  search : ∀ query, TinyDb.search storage.db query = storage.documents.filter query
  names : (storage.documents.map Entry.name).Nodup

theorem tidy_new : (new : Storage).Tidy := by
  constructor
  · intro query
    simp [documents, new, TinyDb.search_empty]
  · simp [documents, new, TinyDb.search_empty]

variable {storage left : Storage} {name : Str} {data : List UInt8}

/-- Files do not matter to the documents. -/
theorem Tidy.of_db (tidy : storage.Tidy) (same : left.db = storage.db) : left.Tidy := by
  obtain ⟨search, names⟩ := tidy
  constructor
  · intro query
    rw [documents, same]
    exact search query
  · rw [documents, same]
    exact names

theorem Tidy.named_eq_nil (tidy : storage.Tidy) :
    storage.named name = [] ↔ ∀ entry ∈ storage.documents, entry.name ≠ name := by
  rw [named, tidy.search, filter_eq_nil_iff]
  simp

theorem documents_storeData [Sha1] (free : storage.named name = []) :
    (storage.storeData name data).1.documents =
      storage.documents ++ [⟨name, hexdigest data⟩] := by
  rw [documents, search_storeData free]
  rfl

theorem Tidy.storeData [Sha1] (tidy : storage.Tidy) (name : Str) (data : List UInt8) :
    (storage.storeData name data).1.Tidy := by
  by_cases free : storage.named name = []
  · constructor
    · intro query
      rw [documents_storeData free, search_storeData free, tidy.search, filter_append]
      simp [filter_singleton]
    · rw [documents_storeData free, map_append]
      apply List.Nodup.append tidy.names (nodup_singleton _)
      simpa using tidy.named_eq_nil.mp free
  · rw [storeData_of_taken free]
    exact tidy

omit [TinyDb] in
private theorem not_contains_iff {α : Type} [BEq α] [LawfulBEq α] {items : List α} {item : α} :
    (!items.contains item) = true ↔ item ∉ items := by
  simp

theorem search_cleanup (storage : Storage) (names : List Str) (query : Entry → Bool) :
    TinyDb.search (storage.cleanup names).db query =
      (TinyDb.search storage.db query).filter fun entry => !names.contains entry.name := by
  unfold cleanup
  induction names generalizing storage with
  | nil => simp
  | cons name rest ih =>
    have later := ih { storage with db := TinyDb.remove storage.db fun entry => entry.name = name }
    simp only [foldl_cons]
    rw [later, TinyDb.search_remove, filter_filter]
    apply filter_congr
    intro entry _
    by_cases here : entry.name = name
    · simp [here]
    · simp [here]

theorem Tidy.cleanup (tidy : storage.Tidy) (names : List Str) : (storage.cleanup names).Tidy := by
  have remaining : (storage.cleanup names).documents =
      storage.documents.filter fun entry => !names.contains entry.name := storage.search_cleanup names _
  constructor
  · intro query
    rw [remaining, search_cleanup, tidy.search, filter_filter, filter_filter]
    apply filter_congr
    intro entry _
    exact Bool.and_comm _ _
  · rw [remaining]
    exact tidy.names.sublist (filter_sublist.map _)

/-- The calls that read files. -/
inductive Request where
  | load (name : Str)
  | copy (name : Str)

/-- The documents that a request looks up. A copy is made of the first one. -/
def found (storage : Storage) : Request → List Entry
  | .load name => TinyDb.search storage.db fun entry => name.isPrefixOf entry.name
  | .copy name => (storage.named name).take 1

/-- Those of them that point at a missing file. -/
def lost (storage : Storage) (request : Request) : List Entry :=
  (storage.found request).filter fun entry => (storage.blobs.get? entry.filename).isNone

def serve (storage : Storage) : Request → Storage
  | .load name => (storage.loadData name).1
  | .copy name => (storage.copyToFile name).1

/-- Some files disappear. -/
def lose (storage : Storage) (filenames : List Str) : Storage :=
  { storage with blobs := filenames.foldl Dict.del storage.blobs }

/-- What can happen to a storage. -/
inductive Event where
  | store (name : Str) (data : List UInt8)
  | serve (request : Request)
  | lose (filenames : List Str)

def step [Sha1] (storage : Storage) : Event → Storage
  | .store name data => (storage.storeData name data).1
  | .serve request => storage.serve request
  | .lose filenames => storage.lose filenames

/-- A request cleans up the names of the files it has missed. -/
theorem serve_eq (storage : Storage) (request : Request) :
    storage.serve request = storage.cleanup ((storage.lost request).map Entry.filename) := by
  cases request with
  | load name =>
    simp only [serve, loadData]
    split
    · rename_i none
      simp only [lost, found, none]
      rfl
    · rfl
  | copy name =>
    simp only [serve, copyToFile, lost, found]
    cases storage.named name with
    | nil => rfl
    | cons entry rest =>
      cases present : storage.blobs.get? entry.filename with
      | none => simp [present]
      | some content =>
        simp [present]
        rfl

theorem tidy_run [Sha1] (events : List Event) : (run step new events).Tidy := by
  have keeps : ∀ (storage : Storage) event, storage.Tidy → True →
      (storage.step event).Tidy := by
    intro storage event tidy _
    cases event with
    | store name data => exact tidy.storeData name data
    | serve request =>
      rw [step, serve_eq]
      exact tidy.cleanup _
    | lose filenames => exact tidy.of_db rfl
  exact run_invariant Tidy tidy_new keeps fun _ _ _ _ => trivial

/-- A request removes just the documents it found without their files; their
names are missing then, and can be stored again. -/
structure CleansUp [Sha1] (storage : Storage) (request : Request) : Prop where
  removed : ∀ query, TinyDb.search (storage.serve request).db query =
    (TinyDb.search storage.db query).filter fun entry => !(storage.lost request).contains entry
  missing : ∀ entry ∈ storage.lost request, ∀ names, entry.name ∈ names →
    entry.name ∈ (storage.serve request).findMissing names
  storable : ∀ entry ∈ storage.lost request, ∀ data,
    ((storage.serve request).storeData entry.name data).2 = .ok ()

/-- The documents that are named like a missed file are those that were found
without their files. -/
def NamedByFile (storage : Storage) (request : Request) : Prop :=
  ∀ entry ∈ storage.documents,
    entry.name ∈ (storage.lost request).map Entry.filename ↔ entry ∈ storage.lost request

variable {request : Request} {entry : Entry}

theorem Tidy.mem_documents_of_lost (tidy : storage.Tidy) (missed : entry ∈ storage.lost request) :
    entry ∈ storage.documents := by
  have listed := mem_of_mem_filter missed
  cases request with
  | load name =>
    rw [found, tidy.search] at listed
    exact mem_of_mem_filter listed
  | copy name =>
    have member := mem_of_mem_take listed
    rw [named, tidy.search] at member
    exact mem_of_mem_filter member

/-- Nobody else has the name of a document that is gone. -/
theorem Tidy.named_serve (tidy : storage.Tidy) (named : storage.NamedByFile request)
    (missed : entry ∈ storage.lost request) : (storage.serve request).named entry.name = [] := by
  have listed := tidy.mem_documents_of_lost missed
  rw [Storage.named, serve_eq, search_cleanup, tidy.search, filter_eq_nil_iff]
  intro other member kept
  obtain ⟨present, same⟩ := mem_filter.mp member
  have equal : other = entry := inj_on_of_nodup_map tidy.names present listed (of_decide_eq_true same)
  subst equal
  exact not_contains_iff.mp kept ((named other present).mpr missed)

theorem Tidy.removed_iff (tidy : storage.Tidy) (request : Request) :
    (∀ query, TinyDb.search (storage.serve request).db query =
      (TinyDb.search storage.db query).filter fun entry =>
      !(storage.lost request).contains entry) ↔ storage.NamedByFile request := by
  constructor
  · intro removed entry member
    have kept := removed fun _ => true
    rw [serve_eq, search_cleanup] at kept
    have same := congrArg (entry ∈ ·) kept
    change entry ∈ TinyDb.search storage.db (fun _ => true) at member
    simp only [mem_filter, eq_iff_iff, member, true_and, not_contains_iff] at same
    exact not_iff_not.mp same
  · intro named query
    rw [serve_eq, search_cleanup]
    apply filter_congr
    intro entry member
    rw [tidy.search] at member
    have same := named entry (mem_of_mem_filter member)
    rw [Bool.eq_iff_iff, not_contains_iff, not_contains_iff, same]

end Storage

variable [Sha1]

open Storage in
/-- Whatever files have disappeared from a storage, a request cleans up after
them exactly if names and file names coincide. -/
theorem cleansUp_iff_namedByFile (events : List Event) (filenames : List Str) (request : Request) :
    ((run step new events).lose filenames).CleansUp request ↔
      ((run step new events).lose filenames).NamedByFile request := by
  have tidy : ((run step new events).lose filenames).Tidy := (tidy_run events).of_db rfl
  constructor
  · intro cleans
    exact (tidy.removed_iff request).mp cleans.removed
  · intro named
    refine ⟨(tidy.removed_iff request).mpr named, ?_, ?_⟩
    · intro entry missed names asked
      rw [findMissing, mem_filter, tidy.named_serve named missed]
      exact ⟨asked, rfl⟩
    · intro entry missed data
      rw [storeData_of_free (tidy.named_serve named missed)]

namespace Storage

/-- The writing of the file fails after some bytes, or the database does not
insert the document. -/
inductive StoreFault where
  | write (written : Nat) (cause : PyError)
  | insert (cause : PyError)

/-- A call of `store_data`, with what goes wrong if it gets that far. -/
structure StoreCall where
  name : Str
  data : List UInt8
  fault : Option StoreFault

/-- `store_data` on a disk that may fail. A file that is there is not written
again. -/
def attemptStore (storage : Storage) (call : StoreCall) : Storage × Py Unit :=
  if storage.named call.name ≠ [] then
    (storage, raise .nameTakenError s!"name {String.ofList call.name} already taken")
  else
    let filename := hexdigest call.data
    let db := TinyDb.insert storage.db ⟨call.name, filename⟩
    if storage.blobs.keys.contains filename then
      match call.fault with
      | some (.insert cause) => (storage, .error cause)
      | _ => ({ storage with db }, .ok ())
    else
      match call.fault with
      | some (.write written cause) =>
        ({ storage with blobs := storage.blobs.set filename (call.data.take written) }, .error cause)
      | some (.insert cause) => ({ storage with blobs := storage.blobs.set filename call.data }, .error cause)
      | none => (⟨db, storage.blobs.set filename call.data⟩, .ok ())

/-- The state after a call that may fail. -/
def stepCall (storage : Storage) (call : StoreCall) : Storage := (storage.attemptStore call).1

variable {call : StoreCall} {storage : Storage}

/-- The name is free, and nothing goes wrong that the call gets to. -/
def Returns (storage : Storage) (call : StoreCall) : Prop :=
  storage.named call.name = [] ∧
    match call.fault with
    | none => True
    | some (.write _ _) => hexdigest call.data ∈ storage.blobs.keys
    | some (.insert _) => False

theorem attemptStore_eq_ok : (storage.attemptStore call).2 = .ok () ↔ storage.Returns call := by
  unfold attemptStore Returns
  by_cases free : storage.named call.name = []
  · rw [if_neg (by simpa using free)]
    cases call.fault with
    | none => by_cases filed : hexdigest call.data ∈ storage.blobs.keys <;> simp [free, filed]
    | some fault =>
      cases fault <;> by_cases filed : hexdigest call.data ∈ storage.blobs.keys <;> simp [free, filed]
  · simp [free, raise]

/-- A call that returns has stored the document like one on a good disk. -/
theorem stepCall_of_returns (returns : storage.Returns call) :
    storage.stepCall call = (storage.storeData call.name call.data).1 := by
  obtain ⟨free, fine⟩ := returns
  rw [storeData_of_free free, stepCall, attemptStore, if_neg (by simpa using free)]
  by_cases filed : hexdigest call.data ∈ storage.blobs.keys
  · cases fault : call.fault with
    | none => simp [filed]
    | some failure =>
      cases failure with
      | write written cause => simp [filed]
      | insert cause =>
        rw [fault] at fine
        exact fine.elim
  · cases fault : call.fault with
    | none => simp [filed]
    | some failure =>
      rw [fault] at fine
      cases failure with
      | write written cause => exact absurd fine filed
      | insert cause => exact fine.elim

/-- A call that fails leaves the database as it is, and the files that are
there. -/
theorem stepCall_of_not_returns (fails : ¬storage.Returns call) :
    (storage.stepCall call).db = storage.db ∧ ∀ filename content, storage.blobs.get? filename =
        some content → (storage.stepCall call).blobs.get? filename = some content := by
  have added : ∀ written, hexdigest call.data ∉ storage.blobs.keys → ∀ filename content,
      storage.blobs.get? filename = some content →
        (storage.blobs.set (hexdigest call.data) written).get? filename = some content := by
    intro written absent filename content present
    have other : filename ≠ hexdigest call.data := by
      rintro rfl
      rw [Dict.get?_eq_none.mpr absent] at present
      cases present
    rw [Dict.get?_set, if_neg other, present]
  rw [← attemptStore_eq_ok] at fails
  unfold stepCall
  unfold attemptStore at fails ⊢
  by_cases free : storage.named call.name = []
  · rw [if_neg (by simpa using free)] at fails ⊢
    by_cases filed : hexdigest call.data ∈ storage.blobs.keys
    · cases fault : call.fault with
      | none => simp [filed, fault] at fails
      | some failure =>
        cases failure with
        | write written cause => simp [filed, fault] at fails
        | insert cause => simp [filed]
    · cases fault : call.fault with
      | none => simp [filed, fault] at fails
      | some failure =>
        cases failure with
        | write written cause | insert cause =>
          simp only [contains_iff_mem, filed, if_false]
          exact ⟨trivial, added _ filed⟩
  · simp [free]

theorem tidy_stepCall (tidy : storage.Tidy) (call : StoreCall) : (storage.stepCall call).Tidy := by
  by_cases returns : storage.Returns call
  · rw [stepCall_of_returns returns]
    exact tidy.storeData _ _
  · exact tidy.of_db (stepCall_of_not_returns returns).1

/-- The document is there, and its file holds the data. -/
def Holds (storage : Storage) (name : Str) (data : List UInt8) : Prop :=
  ⟨name, hexdigest data⟩ ∈ storage.documents ∧ storage.blobs.get? (hexdigest data) = some data

theorem Holds.stepCall (holds : storage.Holds name data) (call : StoreCall) :
    (storage.stepCall call).Holds name data := by
  obtain ⟨listed, filed⟩ := holds
  by_cases returns : storage.Returns call
  · rw [stepCall_of_returns returns]
    refine ⟨?_, blobs_storeData_of_some call.data returns.1 filed⟩
    rw [documents_storeData returns.1]
    exact mem_append_left _ listed
  · obtain ⟨same, kept⟩ := stepCall_of_not_returns returns
    refine ⟨?_, kept _ _ filed⟩
    rw [documents, same]
    exact listed

theorem Holds.run (holds : storage.Holds name data) (calls : List StoreCall) :
    (Lang.run Storage.stepCall storage calls).Holds name data := by
  induction calls generalizing storage with
  | nil => exact holds
  | cons call rest ih => exact ih (holds.stepCall call)

theorem Holds.mem_loadData (holds : storage.Holds name data) (tidy : storage.Tidy) :
    (name, data) ∈ (storage.loadData name).2 := by
  obtain ⟨listed, filed⟩ := holds
  simp only [loadData, mem_filterMap, tidy.search]
  refine ⟨⟨name, hexdigest data⟩, mem_filter.mpr ⟨listed, by simp⟩, ?_⟩
  rw [filed]
  rfl

/-- Right after a call that returns, its data is what the file holds. -/
theorem Tidy.mem_loadData_stepCall (tidy : storage.Tidy) (returns : storage.Returns call)
    (loaded : (call.name, call.data) ∈ ((storage.stepCall call).loadData call.name).2) :
    (storage.stepCall call).blobs.get? (hexdigest call.data) = some call.data := by
  have next := stepCall_of_returns returns
  simp only [loadData, mem_filterMap, (tidy_stepCall tidy call).search] at loaded
  obtain ⟨entry, member, read⟩ := loaded
  obtain ⟨content, filed, pair⟩ := Option.map_eq_some_iff.mp read
  obtain ⟨names, rfl⟩ := Prod.mk.inj pair
  have listed := mem_of_mem_filter member
  rw [next, documents_storeData returns.1, mem_append, mem_singleton] at listed
  rcases listed with old | rfl
  · exact absurd names (tidy.named_eq_nil.mp returns.1 entry old)
  · exact filed

/-- A file with the hash of the data holds just the data, if there is one when a
call returns. -/
def Unspoilt (storage : Storage) (call : StoreCall) : Prop :=
  storage.Returns call → ∀ content, storage.blobs.get? (hexdigest call.data) = some content →
    content = call.data

theorem holds_stepCall (returns : storage.Returns call) (unspoilt : storage.Unspoilt call) :
    (storage.stepCall call).Holds call.name call.data := by
  rw [stepCall_of_returns returns]
  refine ⟨?_, ?_⟩
  · rw [documents_storeData returns.1]
    exact mem_append_right _ (mem_singleton_self _)
  · obtain ⟨content, present⟩ := Dict.mem_keys.mp (blob_storeData call.data returns.1)
    have present := Dict.get?_eq_some.mpr present
    rcases blobs_of_storeData returns.1 present with old | ⟨-, same⟩
    · rw [present, unspoilt returns content old]
    · rw [present, same]

/-- From the moment a call has returned, loading its name gives its data. -/
def Truthful (calls : List StoreCall) : Prop :=
  ∀ before call after, calls = before ++ call :: after →
    ((run stepCall new before).attemptStore call).2 = .ok () →
    ∀ more rest, after = more ++ rest →
      (call.name, call.data) ∈ ((run stepCall new (before ++ call :: more)).loadData call.name).2

theorem tidy_run_calls (calls : List StoreCall) : (run stepCall new calls).Tidy := by
  have keeps : ∀ (storage : Storage) call, storage.Tidy → True → (storage.stepCall call).Tidy :=
    fun _ call tidy _ => tidy_stepCall tidy call
  exact run_invariant Tidy tidy_new keeps fun _ _ _ _ => trivial

end Storage

open Storage in
/-- Failed calls do not spoil the later ones exactly if, whenever a call returns,
no file of its hash is there with other bytes in it. -/
theorem truthful_iff_unspoilt (calls : List StoreCall) :
    Truthful calls ↔ Guarded stepCall Unspoilt new calls := by
  constructor
  · intro truthful before call after same returns content present
    have loaded := truthful before call after same (attemptStore_eq_ok.mpr returns) [] after rfl
    rw [run_append, run_cons, run_nil] at loaded
    have filed := (tidy_run_calls before).mem_loadData_stepCall returns loaded
    rw [stepCall_of_returns returns, blobs_storeData_of_some call.data returns.1 present] at filed
    exact Option.some.inj filed
  · intro guarded before call after same returned more rest split
    have returns := attemptStore_eq_ok.mp returned
    have holds := Holds.run (holds_stepCall returns (guarded before call after same)) more
    have tidy := tidy_run_calls (before ++ call :: more)
    rw [run_append, run_cons] at tidy ⊢
    exact holds.mem_loadData tidy

end

open Storage

open scoped Samples

/-- The file of a name is lost: the name stays taken. -/
theorem lostFile_not_cleansUp :
    ¬((run step new [.store (str "result") [1]]).lose [hexdigest [1]]).CleansUp
      (.load (str "result")) := by
  intro cleans
  have missing := cleans.missing ⟨str "result", hexdigest [1]⟩ (by decide +kernel)
    [str "result"] (by simp)
  exact absurd missing (by decide +kernel)

/-- The disk is full after the first byte; the second call finds a file. -/
def fullDisk : List StoreCall :=
  [⟨str "result", [1, 2], some (.write 1 ⟨.osError, "No space left on device"⟩)⟩,
    ⟨str "result", [1, 2], none⟩]

theorem fullDisk_not_truthful : ¬Truthful fullDisk := by
  intro truthful
  have loaded :=
    truthful [⟨str "result", [1, 2], some (.write 1 ⟨.osError, "No space left on device"⟩)⟩]
    ⟨str "result", [1, 2], none⟩ [] rfl
      (attemptStore_eq_ok.mpr ⟨by decide +kernel, trivial⟩) [] [] rfl
  exact absurd loaded (by decide +kernel)

end RecDtn.Rec
