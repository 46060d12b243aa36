import RecDtn.Rec.Datastore
import RecDtn.Rec.JobRun

/-! How an executor comes by the data that its jobs wait for. -/

namespace RecDtn.Rec

open Python Lang BundleType List

section

variable [TinyDb] [Sha1]

namespace Storage

variable {storage : Storage} {name : Str}

theorem named_storeData (other : Str) (data : List UInt8)
    (there : storage.named name ≠ [] ∨ other = name) :
    (storage.storeData other data).1.named name ≠ [] := by
  by_cases free : storage.named other = []
  · rw [named, search_storeData free]
    rcases there with old | rfl
    · exact fun none => old (append_eq_nil_iff.mp none).1
    · simp
  · rw [storeData_of_taken free]
    rcases there with old | rfl
    · exact old
    · exact free

theorem named_storeEach (there : storage.named name ≠ []) (items : List (Str × List UInt8)) :
    (storage.storeEach items).named name ≠ [] := by
  induction items generalizing storage with
  | nil => exact there
  | cons item items ih => exact ih (named_storeData item.1 item.2 (.inl there))

end Storage

variable [Unicode]

namespace Datastore

variable {datastore : Datastore} {name : Str} {content : List UInt8}

/-- A cached answer may lack data that has come since, but not under the very name
that it is cached for. -/
def Exact (datastore : Datastore) : Prop :=
  ∀ key value, datastore.cache.get key = some value →
    value ⊆ (datastore.storage.loadData key).2 ∧
      ∀ content, (key, content) ∈ (datastore.storage.loadData key).2 → (key, content) ∈ value

/-- What holds of a datastore whatever it is asked for. -/
structure Serving (datastore : Datastore) : Prop where
  intact : datastore.Intact
  exact : datastore.Exact

theorem serving_new {nodeId : Eid} (identified : nodeId.isSome = true) : (new nodeId).Serving :=
  ⟨intact_new identified, fun _ _ present => (nomatch present)⟩

/-- Data that is there stays there. -/
def Grows (datastore later : Datastore) : Prop :=
  ∀ key, (datastore.storage.loadData key).2 ⊆ (later.storage.loadData key).2

omit [Sha1] in
theorem Grows.refl (datastore : Datastore) : datastore.Grows datastore := fun _ => List.Subset.refl _

/-- A cached answer stays good enough. -/
theorem Serving.step (serving : datastore.Serving) (bundle : BundleData) :
    (datastore.step bundle).Serving ∧ datastore.Grows (datastore.step bundle) := by
  suffices (datastore.step bundle).Exact ∧ datastore.Grows (datastore.step bundle) from
    ⟨⟨serving.intact.step bundle, this.1⟩, this.2⟩
  have turn := turn_step serving.intact.sound bundle
  generalize datastore.step bundle = next at turn
  cases turn with
  | unchanged => exact ⟨serving.exact, .refl _⟩
  | stored put named free =>
    obtain ⟨data, appended⟩ := serving.intact.sound.loadData_storeData bundle.payload free
    have grows (key : Str) : (datastore.storage.loadData key).2 ⊆
        ((datastore.storage.storeData bundle.namedData bundle.payload).1.loadData key).2 := by
      rw [appended]
      exact subset_append_left _ _
    refine ⟨?_, grows⟩
    intro key value present
    rw [DataCache.get_invalidate] at present
    split at present
    · cases present
    · rename_i other
      obtain ⟨among, complete⟩ := serving.exact key value present
      refine ⟨fun _ member => grows key (among member), fun content listed => ?_⟩
      rw [appended, mem_append] at listed
      refine complete content (listed.resolve_right ?_)
      split
      · intro added
        exact other (Prod.mk.inj (mem_singleton.mp added)).1
      · exact not_mem_nil
  | loaded =>
    refine ⟨?_, .refl _⟩
    intro key value present
    rcases DataCache.get_put present with ⟨rfl, rfl⟩ | old
    · exact ⟨List.Subset.refl _, fun _ listed => listed⟩
    · exact serving.exact key value old

theorem Serving.handled (serving : datastore.Serving) (bundle : BundleData) :
    (datastore.handleBundle bundle).1.Serving ∧
      datastore.Grows (datastore.handleBundle bundle).1 := by
  unfold handleBundle
  split
  · exact serving.step bundle
  split
  · have named := datastore.toNode.nodeId_handleDiscovery bundle
    refine ⟨⟨⟨?_, serving.intact.sound, serving.intact.loads, serving.intact.caches⟩,
      serving.exact⟩, .refl _⟩
    simp only [named]
    exact serving.intact.identified
  · exact ⟨serving, .refl _⟩

def next (datastore : Datastore) (bundle : BundleData) : Datastore :=
  (datastore.handleBundle bundle).1

theorem Serving.run (serving : datastore.Serving) (bundles : List BundleData) :
    (Lang.run next datastore bundles).Serving ∧
      datastore.Grows (Lang.run next datastore bundles) := by
  induction bundles generalizing datastore with
  | nil => exact ⟨serving, .refl _⟩
  | cons bundle bundles ih =>
    obtain ⟨later, grows⟩ := serving.handled bundle
    exact (ih later).imp_right fun kept key => List.Subset.trans (grows key) (kept key)

/-- A request for a name that is there gets its data, also from a stale cache. -/
theorem Serving.replies (serving : datastore.Serving) {bundle : BundleData}
    (get : bundle.type = ndataGet)
    (held : (bundle.namedData, content) ∈ (datastore.storage.loadData bundle.namedData).2) :
    ∃ replies, (datastore.handleBundle bundle).2 = .ok replies ∧
      ∃ reply ∈ replies, reply.type = ndataGet ∧
      reply.destination = bundle.source ∧ reply.namedData = bundle.namedData ∧ reply.payload = content := by
  have data : bundle.type.isNamedData = true := by rw [get]; rfl
  have found : (datastore.lookUp bundle.namedData).2 ⊆
      (datastore.storage.loadData bundle.namedData).2 ∧
      (bundle.namedData, content) ∈ (datastore.lookUp bundle.namedData).2 := by
    unfold lookUp
    split
    · rename_i value present
      exact (serving.exact _ value present).imp_right fun complete => complete content held
    · exact ⟨List.Subset.refl _, held⟩
  have each : ∀ loaded ∈ (datastore.lookUp bundle.namedData).2,
      ∃ reply, datastore.getReply bundle loaded = .ok reply := fun loaded member =>
    ndataGet_returns serving.intact.identified bundle.source_isSome loaded.2
      (serving.intact.loads _ loaded (found.1 member))
  obtain ⟨replies, made⟩ := mapM_returns each
  rw [handleBundle, if_pos data, handleData_of_get get]
  have answer : datastore.getReply bundle (bundle.namedData, content) ∈ replies.map .ok := by
    rw [← map_of_mapM made]
    exact mem_map_of_mem found.2
  obtain ⟨reply, member, answer⟩ := mem_map.mp answer
  have fields := BundleData.new_eq_ok.mp answer.symm
  exact ⟨replies, made, reply,
    member, by rw [fields], by rw [fields], by rw [fields], by rw [fields]⟩

end Datastore

section

variable {α : Type} {make : α → Py BundleData} {items : List α}

omit [TinyDb] [Sha1] in
theorem Broker.sendEach_returns_iff :
    (sendEach make items).2 = .ok () ↔ ∀ item ∈ items, ∃ bundle, make item = .ok bundle := by
  induction items with
  | nil => simp [sendEach]
  | cons item items ih =>
    cases made : make item with
    | error err => simp [sendEach, made]
    | ok bundle => simp [sendEach, made, ih]

omit [TinyDb] [Sha1] in
theorem Broker.exists_mem_sendEach (returns : (sendEach make items).2 = .ok ()) {item : α}
    (member : item ∈ items) : ∃ bundle ∈ (sendEach make items).1, make item = .ok bundle := by
  induction items with
  | nil => cases member
  | cons first items ih =>
    obtain ⟨bundle, made⟩ := sendEach_returns_iff.mp returns first mem_cons_self
    simp only [sendEach, made] at returns ⊢
    rcases mem_cons.mp member with rfl | later
    · exact ⟨bundle, mem_cons_self, made⟩
    · obtain ⟨other, sent, same⟩ := ih returns later
      exact ⟨other, mem_cons_of_mem _ sent, same⟩

end

namespace Executor

/-- The names that `_fetch_missing_data` collects. -/
def missing (executor : Executor) : List Str :=
  (executor.pendingJobs.flatMap fun job => executor.storage.findMissing job.2.requiredNamedData).dedup

def dataRequest (executor : Executor) (name : Str) : Py BundleData :=
  BundleData.new {
    type := ndataGet
    source := executor.nodeId
    destination := Eid.datastoreMulticastAddress
    namedData := name }

/-- One turn of `_fetch_missing_data`. A request is made outside of its `try`. -/
def fetchMissingData (executor : Executor) (order : SetOrder Str) : List BundleData × Py Unit :=
  Broker.sendEach executor.dataRequest (order.visit executor.missing)

omit [Sha1] in
theorem dataRequest_returns_iff {executor : Executor} (identified : executor.nodeId.isSome = true)
    {name : Str} : (∃ request, executor.dataRequest name = .ok request) ↔ name ≠ [] := by
  constructor
  · rintro ⟨request, made⟩
    have fields := BundleData.new_eq_ok.mp made
    have named := request.namedData_ne_nil (by rw [fields]; rfl)
    rwa [fields] at named
  · exact Datastore.ndataGet_returns identified rfl []

omit [Sha1] in
/-- One name that is empty ends the task, whatever else is missing. -/
theorem fetchMissingData_returns_iff {executor : Executor}
    (identified : executor.nodeId.isSome = true)
    (order : SetOrder Str) : (executor.fetchMissingData order).2 = .ok () ↔
      [] ∉ executor.missing := by
  rw [fetchMissingData, Broker.sendEach_returns_iff]
  simp only [dataRequest_returns_iff identified, SetOrder.mem_visit]
  exact ⟨fun named none => named [] none rfl, fun none name member same => none (same ▸ member)⟩

end Executor

namespace Docket

variable [JobCodec] {docket : Docket} {name : Str}

theorem named_step (there : docket.executor.storage.named name ≠ []) (event : ExecutorEvent) :
    (docket.step event).executor.storage.named name ≠ [] := by
  cases event with
  | receive bundle =>
    have turn := docket.executor.turn_handleBundle bundle
    rw [step]
    generalize (docket.executor.handleBundle bundle).1 = next at turn
    cases turn with
    | job => exact Storage.named_storeEach there _
    | data => exact Storage.named_storeEach there _
    | other => exact there
  | storeNamedResults results => exact Storage.named_storeEach there _
  | pop system => exact there

theorem named_receive {reply : BundleData} (get : reply.type = ndataGet) :
    (docket.step (.receive reply)).executor.storage.named reply.namedData ≠ [] := by
  have named := reply.namedData_ne_nil (by rw [get]; rfl)
  have other : reply.type ≠ jobSubmit := by rw [get]; decide
  simp only [step, Executor.handleBundle, if_neg other, if_pos get, Executor.handleData, if_neg named]
  exact Storage.named_storeData _ _ (.inr rfl)

theorem named_run (there : docket.executor.storage.named name ≠ []) (events : List ExecutorEvent) :
    (run step docket events).executor.storage.named name ≠ [] := by
  induction events generalizing docket with
  | nil => exact there
  | cons event events ih => exact ih (named_step there event)

theorem sourced_run (executor : Eid) (events : List ExecutorEvent) :
    (run step (new executor) events).Sourced executor := by
  induction events using List.reverseRecOn with
  | nil => exact ⟨rfl, fun _ member => (nomatch member)⟩
  | append_singleton events event ih =>
    rw [run_append]
    exact sourced_step ih event

end Docket

/-- An executor asks for the names that are missing. Whatever a datastore with one of
them has handled when it gets the request, it replies; and whatever the executor has
done when it gets the reply, the name is not missing any more. -/
theorem supplied [JobCodec] {executor store : Eid} (sender : executor.isSome = true)
    (identified : store.isSome = true) {history : List ExecutorEvent} {name : Str}
    (named : [] ∉ (run Docket.step (.new executor) history).executor.missing)
    (due : name ∈ (run Docket.step (.new executor) history).executor.missing)
    {first : List BundleData} {content : List UInt8}
    (held : (name, content) ∈ ((run Datastore.next (.new store) first).storage.loadData name).2)
    (order : SetOrder Str) (second : List BundleData) :
    ∃ request ∈ ((run Docket.step (.new executor) history).executor.fetchMissingData order).1,
      ∃ replies, ((run Datastore.next (.new store) (first ++ second)).handleBundle request).2 = .ok replies ∧
        ∃ reply ∈ replies, reply.destination = executor ∧ reply.payload = content ∧ ∀ later rest,
          (run Docket.step (.new executor) (history ++ later ++ .receive reply :: rest)).executor.storage.named name ≠ [] := by
  have asked : (run Docket.step (.new executor) history).executor.nodeId = executor :=
    (Docket.sourced_run executor history).1
  have returns : ((run Docket.step (.new executor) history).executor.fetchMissingData order).2 =
      .ok () := by
    refine Broker.sendEach_returns_iff.mpr fun other member => ?_
    refine (Executor.dataRequest_returns_iff (by rw [asked]; exact sender)).mpr ?_
    rintro rfl
    exact named ((SetOrder.mem_visit order _ _).mp member)
  obtain ⟨request, requested, made⟩ :=
    Broker.exists_mem_sendEach returns ((SetOrder.mem_visit order _ name).mpr due)
  have fields := BundleData.new_eq_ok.mp made
  obtain ⟨serving, -⟩ := (Datastore.serving_new identified).run first
  obtain ⟨later, grows⟩ := serving.run second
  have kept := grows name held
  rw [← run_append] at later kept
  obtain ⟨replies, answered, reply, member, get, destination, same, payload⟩ :=
    later.replies (by rw [fields] : request.type = _) (by rw [fields]; exact kept)
  refine ⟨request, requested, replies, answered, reply, member, ?_, payload, ?_⟩
  · rw [destination, fields, asked]
  · intro later rest
    rw [run_append, run_cons]
    refine Docket.named_run ?_ rest
    have there : reply.namedData = name := by rw [same, fields]
    rw [← there]
    exact Docket.named_receive get

end

open scoped Samples

@[reducible] def barrenCodec : JobCodec := .numbered [⟨sampleJobInfo, .empty⟩]

attribute [local instance] barrenCodec

/-- A job has come without its module, which is put into a datastore. -/
def modulePut : BundleData := { putFirst with namedData := str "module", valid := rfl }

theorem module_supplied : ∃ reply :
    BundleData, reply.payload = [1] ∧ (run Docket.step (.new sampleExecutor)
    [.receive (submission 0), .receive reply]).executor.storage.named (str "module") ≠ [] := by
  have named : [] ∉ (run Docket.step (.new sampleExecutor)
      [.receive (submission 0)]).executor.missing := by
    decide +kernel
  have due : str "module" ∈
      (run Docket.step (.new sampleExecutor) [.receive (submission 0)]).executor.missing := by
    decide +kernel
  have held : (str "module", [1]) ∈
      ((run Datastore.next (.new sampleDatastore) [modulePut]).storage.loadData (str "module")).2 := by
    decide +kernel
  obtain ⟨request, -, replies, -, reply, -, -, payload, there⟩ :=
    supplied rfl rfl named due held .asStored []
  exact ⟨reply, payload, there [] []⟩

def namelessInput : Executor :=
  { Executor.new sampleExecutor with
    pendingJobs := [(sampleBroker, { sampleJobInfo with data := Dict.empty.set (str "/in") [] })] }

theorem namelessInput_raises : (namelessInput.fetchMissingData .asStored).2 ≠ .ok () := by
  rw [Ne, Executor.fetchMissingData_returns_iff rfl]
  decide +kernel

end RecDtn.Rec
