import RecDtn.Lang.Run
import RecDtn.Rec.Node
import RecDtn.Rec.Storage

namespace RecDtn.Rec

open Python Lang BundleType List

structure DataCache where
  cache : Dict Str (List (Str × List UInt8)) := .empty
  sizeLimit : Nat := 1000

namespace DataCache

def get (cache : DataCache) (key : Str) : Option (List (Str × List UInt8)) := cache.cache.get? key

/-- A full cache gives up its oldest item for a new key. -/
def put (cache : DataCache) (key : Str) (value : List (Str × List UInt8)) : DataCache :=
  let room :=
    if (cache.get key).isNone = true ∧
      cache.sizeLimit ≤ cache.cache.items.length then cache.cache.dropOldest
    else cache.cache
  { cache with cache := room.set key value }

def invalidate (cache : DataCache) (key : Str) : DataCache :=
  { cache with cache := cache.cache.del key }

theorem get_put {cache : DataCache} {key other : Str} {value found : List (Str × List UInt8)}
    (present : (cache.put key value).get other = some found) :
    (other = key ∧ found = value) ∨ cache.get other = some found := by
  rw [get, put, Dict.get?_set] at present
  split at present
  · rename_i same
    cases present
    exact .inl ⟨same, rfl⟩
  · right
    split at present
    · exact Dict.get?_of_dropOldest present
    · exact present

@[simp] theorem get_invalidate (cache : DataCache) (key other : Str) :
    (cache.invalidate key).get other = if other = key then none else cache.get other :=
  Dict.get?_del cache.cache key other

end DataCache

section

variable [Unicode] [TinyDb] [Sha1]

structure Datastore extends Node where
  storage : Storage
  cache : DataCache

namespace Datastore

def cacheSizeLimit : Nat := 1000

def new (nodeId : Eid) : Datastore where
  nodeId
  nodeType := NodeType.datastore
  storage := .new
  cache := { sizeLimit := cacheSizeLimit }

def putReply (datastore : Datastore) (bundle : BundleData) (success : Bool) (error : Str) :
    Py BundleData :=
  BundleData.new {
    type := ndataPut
    source := datastore.nodeId
    destination := bundle.source
    namedData := bundle.namedData
    success, error }

def getReply (datastore : Datastore) (bundle : BundleData) (loaded : Str × List UInt8) :
    Py BundleData :=
  BundleData.new {
    type := ndataGet
    source := datastore.nodeId
    destination := bundle.source
    payload := loaded.2
    namedData := loaded.1 }

/-- What the cache has for a name, or else the storage. Only an answer with
something in it is kept. -/
def lookUp (datastore : Datastore) (name : Str) : Datastore × List (Str × List UInt8) :=
  match datastore.cache.get name with
  | some loaded => (datastore, loaded)
  | none =>
    let (storage, loaded) := datastore.storage.loadData name
    let cache := if loaded = [] then datastore.cache else datastore.cache.put name loaded
    ({ datastore with storage, cache }, loaded)

def handleData : Handler Datastore := fun datastore bundle =>
  if bundle.namedData = [] then (datastore, .ok [])
  else if bundle.type = ndataPut then
    match datastore.storage.storeData bundle.namedData bundle.payload with
    | (storage, .ok ()) =>
      ({ datastore with storage, cache := datastore.cache.invalidate bundle.namedData },
        (fun reply => [reply]) <$> datastore.putReply bundle true [])
    | (storage, .error err) =>
      if err.type = .nameTakenError then
        ({ datastore with storage }, (fun reply => [reply]) <$> datastore.putReply bundle false (str err.text))
      else ({ datastore with storage }, .error err)
  else if bundle.type = ndataGet then
    let (next, loaded) := datastore.lookUp bundle.namedData
    (next, loaded.mapM (datastore.getReply bundle))
  else (datastore, .ok [])

def handleBundle : Handler Datastore := fun datastore bundle =>
  if bundle.type.isNamedData = true then datastore.handleData bundle
  else if bundle.type.isDiscovery = true then
    let (node, replies) := datastore.toNode.handleDiscovery bundle
    ({ datastore with toNode := node }, replies)
  else (datastore, .ok [])

def step (datastore : Datastore) (bundle : BundleData) : Datastore := (datastore.handleData bundle).1

/-- The replies to a request carry what the storage would load at this point. -/
def Transparent (datastore : Datastore) (bundle : BundleData) : Prop :=
  bundle.type = ndataGet →
    ∃ replies, (datastore.handleData bundle).2 = .ok replies ∧
      replies.map (fun reply => (reply.namedData, reply.payload)) =
        (datastore.storage.loadData bundle.namedData).2

/-- Whatever is requested now, the cache makes no difference. -/
def Coherent (datastore : Datastore) : Prop := ∀ bundle, datastore.Transparent bundle

/-- Data under a new name may come only while nothing is cached for a proper
prefix of that name. -/
def Admissible (datastore : Datastore) (bundle : BundleData) : Prop :=
  bundle.type = ndataPut → datastore.storage.named bundle.namedData = [] →
    ∀ key ∈ datastore.cache.cache.keys, key <+: bundle.namedData → key = bundle.namedData

inductive Turn (datastore : Datastore) (bundle : BundleData) : Datastore → Prop where
  | unchanged (taken : bundle.type = ndataPut → datastore.storage.named bundle.namedData ≠ []) :
      Turn datastore bundle datastore
  | stored (put : bundle.type = ndataPut) (named : bundle.namedData ≠ [])
      (free : datastore.storage.named bundle.namedData = []) :
      Turn datastore bundle { datastore with
        storage := (datastore.storage.storeData bundle.namedData bundle.payload).1
        cache := datastore.cache.invalidate bundle.namedData }
  | loaded (get : bundle.type = ndataGet) (named : bundle.namedData ≠ []) :
      Turn datastore bundle { datastore with
        cache := datastore.cache.put bundle.namedData (datastore.storage.loadData bundle.namedData).2 }

variable {datastore : Datastore} {bundle : BundleData}

theorem handleData_of_put (put : bundle.type = ndataPut) : datastore.handleData bundle =
      if datastore.storage.named bundle.namedData = [] then ({ datastore with
            storage := (datastore.storage.storeData bundle.namedData bundle.payload).1
            cache := datastore.cache.invalidate bundle.namedData },
          (fun reply => [reply]) <$> datastore.putReply bundle true [])
      else (datastore, (fun reply => [reply]) <$>
        datastore.putReply bundle false (str s!"name {String.ofList bundle.namedData} already taken")) := by
  have named := bundle.namedData_ne_nil (by rw [put]; rfl)
  rw [handleData, if_neg named, if_pos put]
  by_cases free : datastore.storage.named bundle.namedData = []
  · rw [if_pos free, Storage.storeData_of_free free]
  · rw [if_neg free, Storage.storeData_of_taken free]
    rfl

theorem handleData_of_get (get : bundle.type = ndataGet) :
    datastore.handleData bundle = ((datastore.lookUp bundle.namedData).1,
      (datastore.lookUp bundle.namedData).2.mapM (datastore.getReply bundle)) := by
  have named := bundle.namedData_ne_nil (by rw [get]; rfl)
  rw [handleData, if_neg named, if_neg (by rw [get]; decide), if_pos get]

theorem turn_step (sound : datastore.storage.Sound) (bundle : BundleData) :
    Turn datastore bundle (datastore.step bundle) := by
  unfold step
  by_cases put : bundle.type = ndataPut
  · rw [handleData_of_put put]
    split
    · rename_i free
      exact .stored put (bundle.namedData_ne_nil (by rw [put]; rfl)) free
    · rename_i taken
      exact .unchanged fun _ => taken
  · by_cases get : bundle.type = ndataGet
    · rw [handleData_of_get get]
      simp only [lookUp, sound.loadData_fst]
      split
      · exact .unchanged fun type => absurd type put
      · split
        · exact .unchanged fun type => absurd type put
        · exact .loaded get (bundle.namedData_ne_nil (by rw [get]; rfl))
    · have ignored : datastore.handleData bundle = (datastore, .ok []) := by
        simp only [handleData, if_neg put, if_neg get, ite_self]
      rw [ignored]
      exact .unchanged fun type => absurd type put

/-- What holds of a datastore whatever it handles: its storage is sound, it loads
and caches nothing without a name, and it may send bundles. -/
structure Intact (datastore : Datastore) : Prop where
  identified : datastore.nodeId.isSome = true
  sound : datastore.storage.Sound
  loads : ∀ key, ∀ loaded ∈ (datastore.storage.loadData key).2, loaded.1 ≠ []
  caches : ∀ key value, datastore.cache.get key = some value → key ≠ []

theorem intact_new {nodeId : Eid} (identified : nodeId.isSome = true) : (new nodeId).Intact where
  identified
  sound := Storage.sound_new
  loads key loaded member := by
    simp only [new, Storage.new, Storage.loadData, TinyDb.search_empty] at member
    cases member
  caches key value present := by
    cases present

theorem Intact.step (intact : datastore.Intact) (bundle : BundleData) :
    (datastore.step bundle).Intact := by
  have turn := turn_step intact.sound bundle
  generalize datastore.step bundle = next at turn
  cases turn with
  | unchanged => exact intact
  | stored put named free =>
    refine ⟨intact.identified, intact.sound.storeData _ _, ?_, ?_⟩
    · obtain ⟨content, appended⟩ := intact.sound.loadData_storeData bundle.payload free
      intro key loaded member
      rw [appended key, mem_append] at member
      rcases member with old | added
      · exact intact.loads key loaded old
      · split at added
        · cases mem_singleton.mp added
          exact named
        · cases added
    · intro key value present
      rw [DataCache.get_invalidate] at present
      split at present
      · cases present
      · exact intact.caches key value present
  | loaded get named =>
    refine ⟨intact.identified, intact.sound, intact.loads, ?_⟩
    intro key value present
    rcases DataCache.get_put present with ⟨rfl, -⟩ | old
    · exact named
    · exact intact.caches key value old

omit [Sha1] in
theorem read_getReply {loaded : Str × List UInt8} {reply : BundleData}
    (made : datastore.getReply bundle loaded = .ok reply) :
    (reply.namedData, reply.payload) = loaded := by
  have fields := BundleData.new_eq_ok.mp made
  rw [fields]

omit [TinyDb] [Sha1] in
/-- Between nodes that may send, data with a name fits into a bundle. -/
theorem ndataGet_returns {source destination : Eid} (sent : source.isSome = true)
    (addressed : destination.isSome = true) (payload : List UInt8) {namedData : Str}
    (named : namedData ≠ []) :
    ∃ bundle, BundleData.new { type := ndataGet, source, destination, payload, namedData } =
      .ok bundle := by
  refine ⟨⟨_, ?_⟩, BundleData.new_eq_ok.mpr rfl⟩
  have data : isDiscovery ndataGet = false := rfl
  have query : ndataGet ≠ jobQuery := by decide
  have list : ndataGet ≠ jobList := by decide
  simp [BundleFields.postInit, sent, addressed, named, data, query, list]

theorem Intact.coherent_iff (intact : datastore.Intact) : datastore.Coherent ↔
    ∀ key value, datastore.cache.get key = some value →
      value = (datastore.storage.loadData key).2 := by
  constructor
  · intro coherent key value present
    have named := intact.caches key value present
    obtain ⟨request, made⟩ := ndataGet_returns intact.identified intact.identified [] named
    have fields := BundleData.new_eq_ok.mp made
    have get : request.type = ndataGet := by rw [fields]
    have key_eq : request.namedData = key := by rw [fields]
    obtain ⟨replies, replied, same⟩ := coherent request get
    rw [handleData_of_get get, key_eq, lookUp, present] at replied
    rw [key_eq] at same
    rw [← same]
    exact (map_back_of_mapM (fun _ _ => read_getReply) replied).symm
  · intro fresh bundle get
    have looked : (datastore.lookUp bundle.namedData).2 = (datastore.storage.loadData bundle.namedData).2 := by
      unfold lookUp
      split
      · rename_i value present
        exact fresh _ value present
      · rfl
    rw [handleData_of_get get, looked]
    have each : ∀ loaded ∈ (datastore.storage.loadData bundle.namedData).2,
        ∃ reply, datastore.getReply bundle loaded = .ok reply := fun loaded member =>
      ndataGet_returns intact.identified bundle.source_isSome loaded.2 (intact.loads _ loaded member)
    obtain ⟨replies, made⟩ := mapM_returns each
    exact ⟨replies, made, map_back_of_mapM (fun _ _ => read_getReply) made⟩

/-- Only data under a new name can make a cached answer stale. -/
theorem Intact.coherent_step_iff (intact : datastore.Intact) (coherent : datastore.Coherent)
    (bundle : BundleData) : (datastore.step bundle).Coherent ↔ datastore.Admissible bundle := by
  rw [(intact.step bundle).coherent_iff]
  rw [intact.coherent_iff] at coherent
  have turn := turn_step intact.sound bundle
  generalize datastore.step bundle = next at turn
  cases turn with
  | unchanged taken => exact iff_of_true coherent fun put free => absurd free (taken put)
  | stored put named free =>
    obtain ⟨content, appended⟩ := intact.sound.loadData_storeData bundle.payload free
    constructor
    · intro fresh _ _ key cached starts
      by_contra different
      obtain ⟨value, present⟩ := Dict.mem_keys.mp cached
      have present : datastore.cache.get key = some value := Dict.get?_eq_some.mpr present
      have kept := fresh key value (by rw [DataCache.get_invalidate, if_neg different, present])
      rw [appended key, if_pos starts, ← coherent key value present] at kept
      simp at kept
    · intro admissible key value present
      rw [DataCache.get_invalidate] at present
      split at present
      · cases present
      · rename_i different
        have cached := Dict.mem_keys.mpr ⟨value, Dict.get?_eq_some.mp present⟩
        have apart : ¬key <+: bundle.namedData := fun starts =>
          different (admissible put free key cached starts)
        rw [appended key, if_neg apart, append_nil]
        exact coherent key value present
  | loaded get named =>
    refine iff_of_true ?_ ?_
    · intro key value present
      rcases DataCache.get_put present with ⟨rfl, rfl⟩ | old
      · rfl
      · exact coherent key value old
    · intro put
      rw [get] at put
      cases put

theorem coherent_iff_admissible {nodeId : Eid} (identified : nodeId.isSome = true)
    (bundles : List BundleData) :
    Throughout step Coherent (new nodeId) bundles ↔
      Guarded step Admissible (new nodeId) bundles := by
  have initial := intact_new identified
  apply throughout_iff_guarded Intact
  · intro datastore bundle intact
    exact intact.step bundle
  · intro datastore bundle intact coherent
    exact intact.coherent_step_iff coherent bundle
  · exact initial
  · rw [initial.coherent_iff]
    intro key value present
    cases present

end Datastore

end

open scoped Samples

def sampleDatastore : Eid := ⟨str "dtn://datastore/", str "dtn://datastore/", rfl⟩

def putFirst : BundleData where
  type := ndataPut
  source := sampleClient
  destination := sampleDatastore
  payload := [1]
  namedData := str "log/1"
  valid := rfl

def putSecond : BundleData where
  type := ndataPut
  source := sampleClient
  destination := sampleDatastore
  payload := [2]
  namedData := str "log/2"
  valid := rfl

def getBoth : BundleData where
  type := ndataGet
  source := sampleClient
  destination := sampleDatastore
  namedData := str "log"
  valid := rfl

/-- All data comes before the first request. -/
theorem putsThenGet_coherent : sampleDatastore.isSome = true ∧
    Throughout Datastore.step Datastore.Coherent (Datastore.new sampleDatastore) [putFirst,
      putSecond, getBoth] := by
  refine ⟨rfl, (Datastore.coherent_iff_admissible rfl _).mpr ?_⟩
  rw [guarded_cons, guarded_cons, guarded_cons]
  refine ⟨?_, ?_, ?_, guarded_nil⟩
  · intro _ _ key cached
    cases cached
  · intro _ _ key cached
    cases cached
  · intro put
    exact absurd put (by decide)

/-- The second request gets what the first one got, without what has come in
between. -/
theorem putBetweenGets_not_transparent :
    ¬Guarded Datastore.step Datastore.Transparent (Datastore.new sampleDatastore)
      [putFirst, getBoth, putSecond, getBoth] := by
  intro guarded
  obtain ⟨replies, replied, same⟩ := guarded [putFirst, getBoth, putSecond] getBoth [] rfl rfl
  have stale : ((Datastore.handleData
      (run Datastore.step (Datastore.new sampleDatastore) [putFirst, getBoth, putSecond])
      getBoth).2.toOption.map List.length) = some 1 := by decide +kernel
  have stored : ((run Datastore.step (Datastore.new sampleDatastore)
      [putFirst, getBoth, putSecond]).storage.loadData getBoth.namedData).2.length = 2 := by decide +kernel
  rw [replied] at stale
  have short : replies.length = 1 := Option.some.inj stale
  rw [← same, length_map, short] at stored
  cases stored

end RecDtn.Rec
