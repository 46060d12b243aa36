import RecDtn.Rec.Serialization

namespace RecDtn.Rec

open Python Lang.MessagePack BundleData List

variable {α : Type} {key : String} {data : Entries} {value : Value Str} {condition : Prop}

theorem entry_of_some (read : Value Str → Option α) {result : α}
    (looked : find (str key) data = some value)
    (reads : read value = some result) : entry read key data = some (some result) := by
  rw [entry, looked]
  exact congrArg (Option.map some) reads

theorem entry_of_given (read : Value Str → Option α) {result : α} [Decidable condition]
    (looked : find (str key) data = given condition value) (reads : read value = some result) :
    entry read key data = some (if condition then some result else none) := by
  unfold given at looked
  split at looked
  · rename_i holds
    rw [entry_of_some read looked reads, if_pos holds]
  · rename_i fails
    rw [entry, looked, if_neg fails]

/-- A field that is left out comes back if its default is what it was. -/
theorem getD_given [Decidable condition] {value zero : α} (default : ¬condition → zero = value) :
    (if condition then some value else none).getD zero = value := by
  split
  · rfl
  · rename_i fails
    exact default fails

theorem unknown_eq_nil {keys known : List Str} (all : ∀ key ∈ keys, key ∈ known) :
    keys.filter (fun key => !known.contains key) = [] := by
  rw [filter_eq_nil_iff]
  intro key member
  have inside := all key member
  simp [inside]

section

variable [Unicode]

theorem Eid.text_ne_nil (eid : Eid) : eid.text ≠ [] := by
  obtain ⟨value, normal⟩ := eid.normal
  have shape := Eid.normal_normalize normal
  generalize eid.text = text at shape
  cases shape with
  | null | dtn | ipn => exact cons_ne_nil _ _

theorem Eid.eq_none_of_isSome {eid : Eid} (unnamed : ¬eid.isSome = true) : eid = Eid.none := by
  apply Eid.ext
  have same : eid.text = Eid.dtnNone := by simpa [Eid.isSome] using unnamed
  exact same

/-- An endpoint ID that stands in a dictionary, or is the default. -/
def Eid.Told (eid : Eid) (text : Option Str) : Prop :=
  text = .none ∧ eid = Eid.none ∨ text = some eid.text

theorem Eid.told_given (eid : Eid) :
    eid.Told (if eid.isSome then some eid.text else Option.none) := by
  by_cases named : eid.isSome = true
  · exact .inr (if_pos named)
  · exact .inl ⟨if_neg named, Eid.eq_none_of_isSome named⟩

/-- The dictionary has what the constructor needs to make the bundle. -/
structure BundleDict.Tells (data : BundleDict) (bundle : BundleData) : Prop where
  type : data.type = some bundle.type
  source : data.source = some bundle.source.text
  destination : data.destination = some bundle.destination.text
  payload : data.payload.getD [] = bundle.payload
  success : data.success.getD true = bundle.success
  error : data.error.getD [] = bundle.error
  nodeType : data.nodeType.getD NodeType.none = bundle.nodeType
  submitter : bundle.submitter.Told data.submitter
  namedData : data.namedData.getD [] = bundle.namedData
  others : data.others = []

theorem BundleData.distinct_trueFields (bundle : BundleData) :
    (bundle.trueFields.map Prod.fst).Nodup := by
  change [str "type", str "source", str "destination", str "payload", str "success", str "error",
    str "node_type", str "submitter", str "named_data"].Nodup
  decide

section

variable [DecimalDigits] {bundle : BundleData}

theorem BundleDict.Tells.fromDict {data : BundleDict} (tells : data.Tells bundle) :
    BundleData.fromDict data = .ok bundle := by
  have made : BundleData.new bundle.toBundleFields = .ok bundle := new_eq_ok.mpr rfl
  unfold BundleData.fromDict
  rw [tells.source, tells.destination, tells.type, tells.others, tells.payload,
    tells.success, tells.error, tells.nodeType, tells.namedData]
  simp only [BundleDict.item, bind, Except.bind, Eid.new_text]
  rcases tells.submitter with ⟨absent, default⟩ | present
  · rw [absent, ← default]
    exact made
  · rw [present]
    dsimp only
    rw [Eid.new_text]
    exact made

/-- The dictionary that is read from a bundle's own. -/
def BundleData.written (bundle : BundleData) : BundleDict where
  type := if bundle.type ≠ 0 then some bundle.type else none
  source := if bundle.source.isSome then some bundle.source.text else none
  destination := if bundle.destination.isSome then some bundle.destination.text else none
  payload := if bundle.payload ≠ [] then some bundle.payload else none
  success := some bundle.success
  error := if bundle.error ≠ [] then some bundle.error else none
  nodeType := if bundle.nodeType ≠ 0 then some bundle.nodeType else none
  submitter := if bundle.submitter.isSome then some bundle.submitter.text else none
  namedData := if bundle.namedData ≠ [] then some bundle.namedData else none
  others := []

omit [DecimalDigits] in
theorem BundleDict.ofEntries_dictify (bundle : BundleData) :
    BundleDict.ofEntries bundle.dictify = some bundle.written := by
  have distinct := nodup_record bundle.distinct_trueFields
  have each : ∀ entry ∈ bundle.trueFields, find entry.1 bundle.dictify =
      if str "success" = entry.1 then some (.bool bundle.success) else entry.2 := by
    intro entry member
    rw [BundleData.dictify, find_setItem distinct, find_record bundle.distinct_trueFields member]
  have others : (bundle.dictify.map Prod.fst).filter (fun key => !bundleKeys.contains key) = [] := by
    apply unknown_eq_nil
    intro key member
    rcases key_of_setItem member with rfl | field
    · decide
    · exact key_of_record field
  generalize bundle.dictify = data at each others
  simp only [trueFields, forall_mem_cons] at each
  obtain ⟨type, source, destination, payload, success, error, nodeType, submitter,
    namedData, -⟩ := each
  have done : find (str "success") data = some (.bool bundle.success) := success
  rw [BundleDict.ofEntries, others, entry_of_given asInt type rfl, entry_of_given asStr source rfl,
    entry_of_given asStr destination rfl, entry_of_given asBytes payload rfl,
    entry_of_some asBool done rfl, entry_of_given asStr error rfl, entry_of_given asInt nodeType rfl,
    entry_of_given asStr submitter rfl, entry_of_given asStr namedData rfl]
  rfl

omit [DecimalDigits] in
/-- The type is the one field that has no default. -/
theorem BundleData.tells_written (typed : bundle.type ≠ 0) : bundle.written.Tells bundle where
  type := if_pos typed
  source := if_pos bundle.source_isSome
  destination := if_pos bundle.destination_isSome
  payload := getD_given fun empty => (not_not.mp empty).symm
  success := rfl
  error := getD_given fun empty => (not_not.mp empty).symm
  nodeType := getD_given fun zero => (not_not.mp zero).symm
  submitter := bundle.submitter.told_given
  namedData := getD_given fun empty => (not_not.mp empty).symm
  others := rfl

theorem BundleData.fromDict_written (typed : bundle.type ≠ 0) :
    BundleData.fromDict bundle.written = .ok bundle :=
  (tells_written typed).fromDict

/-- What `__post_init__` accepts. An endpoint ID is an `EID` other than
`dtn:none`, or a text that came in a message; neither is empty. -/
def Message.Accepted : Message → Prop
  | .reply success error => success = true ↔ error = []
  | .register endpointId => endpointId ≠ []
  | .fetch endpointId _ => endpointId ≠ []
  | .fetchReply _ => True
  | .bundleCreate _ => True

/-- The bundles inside a message. -/
def Message.bundles : Message → List BundleData
  | .reply _ _ | .register _ | .fetch _ _ => []
  | .fetchReply answer => answer.bundles
  | .bundleCreate bundle => [bundle]

namespace Message

section

omit [DecimalDigits]

theorem replyFromDict_dictify {success : Bool} {error : Str}
    (accepted : success = true ↔ error = []) :
    replyFromDict (dictify (.reply success error)) = .ok (.reply success error) := by
  change (if success = false ∧ error = [] then
      raise .invalidMessageError "If operation was unsuccessful, there should be an error"
    else if success = true ∧ error ≠ [] then
      raise .invalidMessageError "If operation was successful, there should be no error"
    else Except.ok (Message.reply success error)) = _
  have unsuccessful : ¬(success = false ∧ error = []) := by
    rintro ⟨failed, silent⟩
    rw [accepted.mpr silent] at failed
    cases failed
  rw [if_neg unsuccessful, if_neg fun both => both.2 (accepted.mp both.1)]

variable {endpointId : Str}

theorem registerFromDict_dictify (some : endpointId ≠ []) :
    registerFromDict (dictify (.register endpointId)) = .ok (.register endpointId) := by
  change (if endpointId = [] then raise .invalidMessageError "EndpointID must not be dtn:none"
    else Except.ok (Message.register endpointId)) = _
  rw [if_neg some]

theorem fetchFromDict_dictify (some : endpointId ≠ []) (nodeType : NodeType) :
    fetchFromDict (dictify (.fetch endpointId nodeType)) = .ok (.fetch endpointId nodeType) := by
  change (if endpointId = [] then raise .invalidMessageError "EndpointID must not be dtn:none"
    else Except.ok (Message.fetch endpointId nodeType)) = _
  rw [if_neg some]

theorem asBundles_of_each {data : BundleData → Entries} {read : BundleData → BundleDict}
    (each : ∀ bundle, BundleDict.ofEntries (data bundle) = some (read bundle))
    (bundles : List BundleData) :
    asBundles (.array (bundles.map fun bundle => .dict (data bundle))) = some (bundles.map read) := by
  change (bundles.map fun bundle => Value.dict (data bundle)).mapM asBundle = _
  induction bundles with
  | nil => rfl
  | cons bundle rest ih =>
    rw [map_cons, mapM_cons, ih, asBundle, each]
    rfl

theorem mapM_fromDict {read : BundleData → BundleDict} {bundles : List BundleData}
    (each : ∀ bundle ∈ bundles, BundleData.fromDict (read bundle) = .ok bundle) :
    (bundles.map read).mapM BundleData.fromDict = .ok bundles := by
  induction bundles with
  | nil => rfl
  | cons bundle rest ih =>
    rw [map_cons, mapM_cons, ih fun other member => each other (mem_cons_of_mem _ member),
      each bundle mem_cons_self]
    rfl

end

theorem fetchReplyFromDict_dictify {answer : FetchReply}
    (typed : ∀ bundle ∈ answer.bundles, bundle.type ≠ 0) :
    fetchReplyFromDict (dictify (.fetchReply answer)) = .ok (.fetchReply answer) := by
  have held : argument asBundles "bundles" (dictify (.fetchReply answer)) =
      .ok (answer.bundles.map written) := by
    have looked : find (str "bundles") (dictify (.fetchReply answer)) =
        some (.array (answer.bundles.map fun bundle => .dict bundle.dictify)) := rfl
    rw [argument, entry_of_some asBundles looked (asBundles_of_each BundleDict.ofEntries_dictify _)]
  rw [fetchReplyFromDict, held]
  change (do
    let bundles ← (answer.bundles.map written).mapM BundleData.fromDict
    _) = _
  rw [mapM_fromDict fun bundle member => fromDict_written (typed bundle member)]
  rfl

theorem bundleCreateFromDict_dictify (typed : bundle.type ≠ 0) :
    bundleCreateFromDict (dictify (.bundleCreate bundle)) = .ok (.bundleCreate bundle) := by
  have held : argument asBundle "bundle" (dictify (.bundleCreate bundle)) = .ok bundle.written := by
    have looked : find (str "bundle") (dictify (.bundleCreate bundle)) = some (.dict bundle.dictify) := rfl
    rw [argument, entry_of_some asBundle looked (BundleDict.ofEntries_dictify bundle)]
  rw [bundleCreateFromDict, held]
  change (do
    let made ← BundleData.fromDict bundle.written
    _) = _
  rw [fromDict_written typed]
  rfl

/-- The type of a message selects the constructor of its own class. -/
theorem fromDict_dictify {message : Message} (accepted : message.Accepted)
    (typed : ∀ bundle ∈ message.bundles, bundle.type ≠ 0) :
    fromDict message.dictify = .ok message := by
  cases message with
  | reply success error => exact replyFromDict_dictify accepted
  | register endpointId => exact registerFromDict_dictify accepted
  | fetch endpointId nodeType => exact fetchFromDict_dictify accepted nodeType
  | fetchReply answer => exact fetchReplyFromDict_dictify typed
  | bundleCreate bundle => exact bundleCreateFromDict_dictify (typed bundle mem_cons_self)

end Message

theorem deserialize_serialize [Libraries] [Ormsgpack] (message : Message)
    (accepted : message.Accepted)
    (typed : ∀ bundle ∈ message.bundles, bundle.type ≠ 0) (dump : String) :
    deserialize dump (serialize message) = .ok message := by
  unfold deserialize serialize
  rw [Ormsgpack.unpackb_packb]
  dsimp only
  rw [Message.fromDict_dictify accepted typed]

end

end

open scoped Samples

/-- One message of each class. The reply to the fetch holds a request twice. -/
theorem messages_deserialized :
    deserialize "" (serialize (.reply false (str "no"))) = .ok (.reply false (str "no")) ∧
      deserialize "" (serialize (.register sampleBroker.text)) = .ok (.register sampleBroker.text) ∧
      deserialize "" (serialize (.fetch sampleBroker.text NodeType.none)) =
        .ok (.fetch sampleBroker.text NodeType.none) ∧
      deserialize "" (serialize (.fetchReply ⟨false, [], [executorRequest, executorRequest]⟩)) =
        .ok (.fetchReply ⟨false, [], [executorRequest, executorRequest]⟩) ∧
      deserialize "" (serialize (.bundleCreate executorRequest)) = .ok (.bundleCreate executorRequest) := by
  have typed : executorRequest.type ≠ 0 := by decide
  refine ⟨?_, ?_, ?_, ?_, ?_⟩
  · exact deserialize_serialize (.reply false (str "no")) (by simp [Message.Accepted, str])
      (by simp [Message.bundles]) ""
  · exact deserialize_serialize (.register sampleBroker.text) sampleBroker.text_ne_nil
      (by simp [Message.bundles]) ""
  · exact deserialize_serialize (.fetch sampleBroker.text NodeType.none) sampleBroker.text_ne_nil
      (by simp [Message.bundles]) ""
  · exact deserialize_serialize
      (.fetchReply ⟨false, [], [executorRequest, executorRequest]⟩) trivial
      (by simp [Message.bundles, typed]) ""
  · exact deserialize_serialize (.bundleCreate executorRequest) trivial
      (by simp [Message.bundles, typed]) ""

end RecDtn.Rec
