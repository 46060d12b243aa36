import RecDtn.Agent.Creating
import RecDtn.Rec.EidAgreement
import RecDtn.Rec.MessageRoundTrip

/-! A bundle on its way from one node to another, through two agents. -/

namespace RecDtn.Agent

open Wire Lang Bpv7 Python Lang.MessagePack BundleData Libraries Rec List

section

variable {α : Type} {key : String} {fields : Fields} {value : Value (List UInt8)} {data : BundleData}
  {read : Value (List UInt8) → Except String α} {zero result : α}
    {empty condition : Prop} {number : Int}
  {clock : Clock}

theorem field_of_some (looked : find (ascii key) fields = some value) (shown : value ≠ .nil) :
    field read zero key fields = read value := by
  unfold field
  rw [looked]
  cases value with
  | nil => exact absurd rfl shown
  | _ => rfl

theorem field_of_none (looked : find (ascii key) fields = none) :
    field read zero key fields = .ok zero := by
  unfold field
  rw [looked]

theorem field_of_omitEmpty [Decidable empty]
    (looked : find (ascii key) fields = omitEmpty empty value)
    (shown : value ≠ .nil) (reads : ¬empty → read value = .ok result)
    (default : empty → zero = result) : field read zero key fields = .ok result := by
  unfold omitEmpty at looked
  split at looked
  · rename_i absent
    rw [field_of_none looked, default absent]
  · rename_i present
    rw [field_of_some looked shown, reads present]

theorem distinct_fields (data : BundleData) : (data.fields.map Prod.fst).Nodup := by
  change [ascii "type", ascii "source", ascii "destination", ascii "payload",
    ascii "success", ascii "error", ascii "node_type", ascii "submitter", ascii "named_data"].Nodup
  decide

theorem field_of_given [Decidable condition] {value : Value Str}
    (looked : find (ascii key) fields = (given condition value).map (Value.mapText utf8))
    (shown : value.mapText utf8 ≠ .nil)
    (reads : condition → read (value.mapText utf8) = .ok result)
    (default : ¬condition → zero = result) : field read zero key fields = .ok result := by
  unfold given at looked
  split at looked
  · rename_i present
    rw [field_of_some looked shown, reads present]
  · rename_i absent
    rw [field_of_none looked, default absent]

def FitsByte (number : Int) : Prop := 0 ≤ number ∧ number < 256

instance (number : Int) : Decidable (FitsByte number) := inferInstanceAs (Decidable (_ ∧ _))

theorem toNat_of_fitsByte (fits : FitsByte number) :
    ((UInt8.ofNat number.toNat).toNat : Int) = number := by
  have small : number.toNat < 2 ^ 8 := by
    have bound := fits.2
    omega
  rw [UInt8.toNat_ofNat_of_lt' small]
  exact Int.toNat_of_nonneg fits.1

theorem omitEmpty_eq_given [Decidable empty] [Decidable condition] {written : Value (List UInt8)}
    {value : Value Str}
    (opposite : empty ↔ ¬condition) (same : condition → written = value.mapText utf8) :
    omitEmpty empty written = (given condition value).map (Value.mapText utf8) := by
  unfold omitEmpty given
  by_cases holds : condition
  · rw [if_neg (fun absent => opposite.mp absent holds), if_pos holds, same holds]
    rfl
  · rw [if_pos (opposite.mpr holds), if_neg holds]
    rfl

theorem utf8_eq_nil {text : Str} : utf8 text = [] ↔ text = [] := by
  constructor
  · intro empty
    exact utf8_injective empty
  · rintro rfl
    rfl

section

variable [Libraries]

theorem ofValue_dict (type : field readUint8 0 "type" fields = .ok data.type)
    (source : field readBytes [] "source" fields = .ok data.source)
    (destination : field readBytes [] "destination" fields = .ok data.destination)
    (payload : field readBytes [] "payload" fields = .ok data.payload)
    (success : field readBool false "success" fields = .ok data.success)
    (error : field readBytes [] "error" fields = .ok data.error)
    (nodeType : field readUint8 0 "node_type" fields = .ok data.nodeType)
    (submitter : field readBytes [] "submitter" fields = .ok data.submitter)
    (namedData : field readBytes [] "named_data" fields = .ok data.namedData) :
    ofValue (.dict fields) = .ok data := by
  simp only [ofValue, readFields, type, source, destination, payload, success, error,
    nodeType, submitter, namedData, bind, Except.bind]
  rfl

theorem ofValue_value (data : BundleData) : ofValue data.value = .ok data := by
  have each : ∀ entry ∈ data.fields, find entry.1 (record data.fields) = entry.2 :=
    fun _ member =>
    find_record (distinct_fields data) member
  unfold BundleData.value
  generalize record data.fields = fields at each
  simp only [BundleData.fields, forall_mem_cons] at each
  obtain ⟨type, source, destination, payload, success, error, nodeType, submitter,
    namedData, -⟩ := each
  refine ofValue_dict ?_ ?_ ?_ ?_ ?_ ?_ ?_ ?_ ?_
  · rw [field_of_some type nofun]
    exact uint8_toNat data.type
  · rw [field_of_some source nofun]
    rfl
  · rw [field_of_some destination nofun]
    rfl
  · exact field_of_omitEmpty payload nofun (fun _ => rfl) Eq.symm
  · rw [field_of_some success nofun]
    rfl
  · rw [field_of_some error nofun]
    rfl
  · exact field_of_omitEmpty nodeType nofun (fun _ => uint8_toNat data.nodeType) Eq.symm
  · exact field_of_omitEmpty submitter nofun (fun _ => rfl) Eq.symm
  · exact field_of_omitEmpty namedData nofun (fun _ => rfl) Eq.symm

theorem uint8_of_fitsByte (fits : FitsByte number) :
    uint8 number = .ok (UInt8.ofNat number.toNat) := by
  have read := uint8_toNat (UInt8.ofNat number.toNat)
  rwa [toNat_of_fitsByte fits] at read

theorem ofFields_bundleCreate (read : ofValue value = .ok data) :
    Request.ofFields [(ascii "type", .int 5), (ascii "bundle", value)] =
      .ok (.bundleCreate data) := by
  have type : find (ascii "type") [(ascii "type", .int 5), (ascii "bundle", value)] =
      some (.int 5) := rfl
  have bundle : find (ascii "bundle") [(ascii "type", .int 5), (ascii "bundle", value)] =
      some value := rfl
  have create : uint8 5 = .ok 5 := uint8_toNat 5
  rw [Request.ofFields, field_of_some type nofun, bundle, Option.getD_some, read, readUint8, create]
  rfl

attribute [local instance] Msgpack.ofLibraries

theorem decodePayload_of_marshal {bundle : Bundle}
    (payload : bundle.payloadBlock.value = some (.payload (Libraries.marshal data.value))) :
    decodePayload bundle = .ok (some data) := by
  rw [decodePayload, payload]
  dsimp only [Msgpack.unmarshalBundleData]
  rw [unmarshal_marshal]
  change Except.ok ((ofValue data.value).mapError GoError.text).toOption = _
  rw [ofValue_value]
  rfl

end

variable [Unicode] {bundle : Rec.BundleData}

/-- Bundle data of a node as the agent holds it. -/
def ofNode (bundle : Rec.BundleData) : BundleData where
  type := UInt8.ofNat bundle.type.toNat
  source := utf8 bundle.source.text
  destination := utf8 bundle.destination.text
  payload := bundle.payload
  success := bundle.success
  error := utf8 bundle.error
  nodeType := UInt8.ofNat bundle.nodeType.toNat
  submitter := if bundle.submitter.isSome then utf8 bundle.submitter.text else []
  namedData := utf8 bundle.namedData

/-- The fields of a bundle in a reply. -/
def sentFields (bundle : Rec.BundleData) : List (Str × Option (Value Str)) :=
  [(str "type", some (.int bundle.type)),
    (str "source", some (.str bundle.source.text)),
    (str "destination", some (.str bundle.destination.text)),
    (str "payload", given (bundle.payload ≠ []) (.bin bundle.payload)),
    (str "success", some (.bool bundle.success)),
    (str "error", some (.str bundle.error)),
    (str "node_type", given (bundle.nodeType ≠ 0) (.int bundle.nodeType)),
    (str "submitter", given bundle.submitter.isSome (.str bundle.submitter.text)),
    (str "named_data", given (bundle.namedData ≠ []) (.str bundle.namedData))]

theorem fields_ofNode (type : FitsByte bundle.type) (nodeType : FitsByte bundle.nodeType) :
    (ofNode bundle).fields =
      (sentFields bundle).map fun entry => (utf8 entry.1, entry.2.map (Value.mapText utf8)) := by
  have zero : UInt8.ofNat bundle.nodeType.toNat = 0 ↔ ¬bundle.nodeType ≠ 0 := by
    rw [not_not]
    constructor
    · intro nothing
      rw [← toNat_of_fitsByte nodeType, nothing]
      rfl
    · intro nothing
      rw [nothing]
      rfl
  have unnamed : (if bundle.submitter.isSome then utf8 bundle.submitter.text else []) = [] ↔
      ¬bundle.submitter.isSome = true := by
    by_cases named : bundle.submitter.isSome = true
    · rw [if_pos named]
      exact iff_of_false (fun empty => bundle.submitter.text_ne_nil (utf8_eq_nil.mp empty)) (absurd named)
    · rw [if_neg named]
      exact iff_of_true rfl named
  have unset : utf8 bundle.namedData = [] ↔ ¬bundle.namedData ≠ [] :=
    utf8_eq_nil.trans not_not.symm
  have payload : omitEmpty (bundle.payload = []) (.bin bundle.payload) =
      (given (bundle.payload ≠ []) (.bin bundle.payload)).map (Value.mapText utf8) :=
    omitEmpty_eq_given not_not.symm fun _ => rfl
  have nodeType' : omitEmpty (UInt8.ofNat bundle.nodeType.toNat = 0) (.int bundle.nodeType) =
      (given (bundle.nodeType ≠ 0) (.int bundle.nodeType)).map (Value.mapText utf8) :=
    omitEmpty_eq_given zero fun _ => rfl
  have submitter :
      omitEmpty ((if bundle.submitter.isSome then utf8 bundle.submitter.text else []) = [])
        (.str (if bundle.submitter.isSome then utf8 bundle.submitter.text else [])) =
      (given bundle.submitter.isSome (.str bundle.submitter.text)).map (Value.mapText utf8) :=
    omitEmpty_eq_given unnamed fun named => congrArg Value.str (if_pos named)
  have namedData : omitEmpty (utf8 bundle.namedData = []) (.str (utf8 bundle.namedData)) =
      (given (bundle.namedData ≠ []) (.str bundle.namedData)).map (Value.mapText utf8) :=
    omitEmpty_eq_given unset fun _ => rfl
  unfold BundleData.fields ofNode
  dsimp only
  rw [toNat_of_fitsByte type, toNat_of_fitsByte nodeType, payload, nodeType', submitter, namedData]
  rfl

theorem value_ofNode (type : FitsByte bundle.type) (nodeType : FitsByte bundle.nodeType) :
    (ofNode bundle).value = Value.mapText utf8 (.dict (record (sentFields bundle))) := by
  rw [BundleData.value, fields_ofNode type nodeType, Value.mapText, mapEntries_record]

/-- The dictionary that a node makes of a bundle in a reply. -/
def sentDict (bundle : Rec.BundleData) : Rec.BundleDict where
  type := some bundle.type
  source := some bundle.source.text
  destination := some bundle.destination.text
  payload := if bundle.payload ≠ [] then some bundle.payload else none
  success := some bundle.success
  error := some bundle.error
  nodeType := if bundle.nodeType ≠ 0 then some bundle.nodeType else none
  submitter := if bundle.submitter.isSome then some bundle.submitter.text else none
  namedData := if bundle.namedData ≠ [] then some bundle.namedData else none
  others := []

theorem ofEntries_sentFields (bundle : Rec.BundleData) :
    Rec.BundleDict.ofEntries (record (sentFields bundle)) = some (sentDict bundle) := by
  have distinct : ((sentFields bundle).map Prod.fst).Nodup := bundle.distinct_trueFields
  have each : ∀ entry ∈ sentFields bundle, find entry.1 (record (sentFields bundle)) =
      entry.2 := fun _ member =>
    find_record distinct member
  have others : ((record (sentFields bundle)).map Prod.fst).filter
      (fun key => !bundleKeys.contains key) = [] := by
    exact unknown_eq_nil fun key member => key_of_record member
  generalize record (sentFields bundle) = data at each others
  simp only [sentFields, forall_mem_cons] at each
  obtain ⟨type, source, destination, payload, success, error, nodeType, submitter,
    namedData, -⟩ := each
  rw [Rec.BundleDict.ofEntries, others, entry_of_some asInt type rfl, entry_of_some asStr source rfl,
    entry_of_some asStr destination rfl, entry_of_given asBytes payload rfl,
    entry_of_some asBool success rfl, entry_of_some asStr error rfl,
      entry_of_given asInt nodeType rfl,
    entry_of_given asStr submitter rfl, entry_of_given asStr namedData rfl]
  rfl

theorem fromDict_sentDict [DecimalDigits] (bundle : Rec.BundleData) :
    Rec.BundleData.fromDict (sentDict bundle) = .ok bundle := by
  apply Rec.BundleDict.Tells.fromDict
  exact {
    type := rfl
    source := rfl
    destination := rfl
    payload := getD_given fun empty => (not_not.mp empty).symm
    success := rfl
    error := rfl
    nodeType := getD_given fun zero => (not_not.mp zero).symm
    submitter := bundle.submitter.told_given
    namedData := getD_given fun empty => (not_not.mp empty).symm
    others := rfl }

/-- The value that a node finds in a reply with these bundles. -/
def sentReply (bundles : List Rec.BundleData) : Rec.Entries :=
  [(str "type", .int 4), (str "success", .bool true), (str "error", .str []),
    (str "bundles", .array (bundles.map fun bundle => .dict (record (sentFields bundle))))]

theorem value_sentReply {bundles : List Rec.BundleData}
    (fits : ∀ bundle ∈ bundles, FitsByte bundle.type ∧ FitsByte bundle.nodeType)
    (errorText : GoError → List UInt8) :
    FetchReply.value errorText ⟨⟨true, none⟩, bundles.map ofNode⟩ =
      Value.mapText utf8 (.dict (sentReply bundles)) := by
  have values : (bundles.map ofNode).map BundleData.value =
      mapItems utf8 (bundles.map fun bundle => .dict (record (sentFields bundle))) := by
    rw [mapItems_eq, map_map, map_map]
    apply map_congr_left
    intro bundle member
    exact value_ofNode (fits bundle member).1 (fits bundle member).2
  rw [FetchReply.value, values]
  rfl

theorem fromDict_sentReply [DecimalDigits] (bundles : List Rec.BundleData) :
    Rec.Message.fromDict (sentReply bundles) = .ok (.fetchReply ⟨true, [], bundles⟩) := by
  have held : argument asBundles "bundles" (sentReply bundles) = .ok (bundles.map sentDict) := by
    have looked : find (str "bundles") (sentReply bundles) =
        some (.array (bundles.map fun bundle => .dict (record (sentFields bundle)))) := rfl
    rw [argument, entry_of_some asBundles looked (Message.asBundles_of_each ofEntries_sentFields _)]
  change Rec.Message.fetchReplyFromDict (sentReply bundles) = _
  rw [Rec.Message.fetchReplyFromDict, held]
  change (do
    let bundles ← (bundles.map sentDict).mapM Rec.BundleData.fromDict
    keywords "FetchReply" ["type", "success", "error", "bundles"] _
    _) = _
  rw [Message.mapM_fromDict fun bundle _ => fromDict_sentDict bundle]
  rfl

variable [Libraries]

theorem ofValue_dictify (type : FitsByte bundle.type) (nodeType : FitsByte bundle.nodeType) :
    ofValue (.dict (mapEntries utf8 bundle.dictify)) = .ok (ofNode bundle) := by
  have distinct := nodup_record (bundle.distinct_trueFields)
  have each : ∀ entry ∈ bundle.trueFields, find (utf8 entry.1) (mapEntries utf8 bundle.dictify) =
      (if str "success" = entry.1 then some (.bool bundle.success) else entry.2).map (Value.mapText utf8) := by
    intro entry member
    rw [find_mapEntries utf8_injective, Rec.BundleData.dictify, find_setItem distinct,
      find_record (bundle.distinct_trueFields) member]
  generalize mapEntries utf8 bundle.dictify = fields at each
  simp only [Rec.BundleData.trueFields, forall_mem_cons] at each
  obtain ⟨foundType, source, destination, payload, success, error, foundNodeType, submitter,
    namedData, -⟩ := each
  have unset : ∀ {text : Str}, ¬text ≠ [] → [] = utf8 text := by
    intro text empty
    rw [not_not.mp empty]
    rfl
  have zero : ∀ {number : Int}, ¬number ≠ 0 → 0 = UInt8.ofNat number.toNat := by
    intro number nothing
    rw [not_not.mp nothing]
    rfl
  have done : find (ascii "success") fields = some (.bool bundle.success) := success
  refine ofValue_dict ?_ ?_ ?_ ?_ ?_ ?_ ?_ ?_ ?_
  · exact field_of_given foundType (by rintro ⟨⟩) (fun _ => uint8_of_fitsByte type) zero
  · exact field_of_given source (by rintro ⟨⟩) (fun _ => rfl) (absurd bundle.source_isSome)
  · exact field_of_given destination (by rintro ⟨⟩) (fun _ => rfl)
      (absurd bundle.destination_isSome)
  · exact field_of_given payload (by rintro ⟨⟩) (fun _ => rfl)
      (fun empty => (not_not.mp empty).symm)
  · rw [field_of_some done (by rintro ⟨⟩)]
    rfl
  · exact field_of_given error (by rintro ⟨⟩) (fun _ => rfl) unset
  · exact field_of_given foundNodeType (by rintro ⟨⟩) (fun _ => uint8_of_fitsByte nodeType) zero
  · refine field_of_given submitter (by rintro ⟨⟩) ?_ (fun unnamed => (if_neg unnamed).symm)
    intro named
    exact congrArg Except.ok (if_pos named).symm
  · exact field_of_given namedData (by rintro ⟨⟩) (fun _ => rfl) unset

/-- The agent understands what a node asks it to create. -/
theorem decode_bundleCreate (type : FitsByte bundle.type) (nodeType : FitsByte bundle.nodeType) :
    Request.decode (serialize (.bundleCreate bundle)) = .ok (.bundleCreate (ofNode bundle)) := by
  rw [Request.decode, serialize, unmarshal_packb]
  exact ofFields_bundleCreate (ofValue_dictify type nodeType)

variable [Cboring] [Crc16] [Ed25519] [GoSort]

attribute [local instance] Msgpack.ofLibraries

/-- The node asks for the bundle, and the agent creates it. -/
def Creates (clock : Clock) (bundle : Rec.BundleData) (created : Bundle) : Prop :=
  ∃ message reply, Request.decode (serialize (.bundleCreate bundle)) =
    .ok (.bundleCreate message) ∧ handleCreate clock message = .ok (reply, some created)

theorem payload_of_creates {created : Bundle} (type : FitsByte bundle.type)
    (nodeType : FitsByte bundle.nodeType) (creates : Creates clock bundle created) :
    created.payloadBlock.value = some (.payload (Libraries.marshal (ofNode bundle).value)) := by
  obtain ⟨message, reply, decoded, handled⟩ := creates
  rw [decode_bundleCreate type nodeType] at decoded
  cases decoded
  exact payload_of_createBundle (handleCreate_eq_ok.mp handled).1

theorem creates_of_running (running : clock.Running) (type : FitsByte bundle.type)
    (nodeType : FitsByte bundle.nodeType)
    (source : ∃ eid, newEndpointID (utf8 bundle.source.text) = .ok eid)
    (destination : ∃ eid, newEndpointID (utf8 bundle.destination.text) = .ok eid) :
    ∃ created, Creates clock bundle created := by
  obtain ⟨srcAddress, source⟩ := source
  obtain ⟨dstAddress, destination⟩ := destination
  have sender := Rec.Eid.ne_dtnNone_of_newEndpointID bundle.source_isSome source
  exact ⟨_, ofNode bundle, _, decode_bundleCreate type nodeType,
    handleCreate_eq_ok.mpr ⟨createBundle_eq_ok running source destination sender, rfl⟩⟩

theorem decodeAll_of_creates {sent : List Rec.BundleData} {retrieved : List Retrieved}
    (fits : ∀ bundle ∈ sent, FitsByte bundle.type ∧ FitsByte bundle.nodeType)
    (arrived : List.Forall₂ (fun bundle arrival =>
      ∃ clock created, Creates clock bundle created ∧
      arrival.bundle.payloadBlock.value = created.payloadBlock.value) sent retrieved) :
    decodeAll retrieved = .ok (sent.map ofNode) := by
  induction arrived with
  | nil => rfl
  | cons first later ih =>
    obtain ⟨clock, created, creates, same⟩ := first
    obtain ⟨type, nodeType⟩ := fits _ mem_cons_self
    have payload := same.trans (payload_of_creates type nodeType creates)
    rw [decodeAll, decodePayload_of_marshal payload, Go.ok_bind,
      ih fun other member => fits other (mem_cons_of_mem _ member)]
    rfl

variable [DecimalDigits]

/-- Bundles that are created for nodes are fetched by nodes as they were sent. -/
theorem fetched_eq_sent (sent : List Rec.BundleData)
    (declared : ∀ bundle ∈ sent, bundle.type ∈ Rec.BundleType.members ∧
      bundle.nodeType ∈ Rec.NodeType.members)
    (accepted : ∀ bundle ∈ sent, (∃ eid, newEndpointID (utf8 bundle.source.text) = .ok eid) ∧
      ∃ eid, newEndpointID (utf8 bundle.destination.text) = .ok eid) :
    (∀ bundle ∈ sent, ∀ clock : Clock, clock.Running →
      ∃ created, Creates clock bundle created) ∧
      ∀ retrieved : List Retrieved, List.Forall₂ (fun bundle arrival => ∃ clock created,
          Creates clock bundle created ∧ arrival.bundle.payloadBlock.value = created.payloadBlock.value) sent retrieved →
        ∀ errorText dump, ∃ reply, Fetching.reply ⟨retrieved, none⟩ = .ok reply ∧
          deserialize dump (reply.marshal errorText) = .ok (.fetchReply ⟨true, [], sent⟩) := by
  have types : ∀ type ∈ Rec.BundleType.members, FitsByte type := by decide
  have nodeTypes : ∀ nodeType ∈ Rec.NodeType.members, FitsByte nodeType := by decide
  have fits : ∀ bundle ∈ sent, FitsByte bundle.type ∧ FitsByte bundle.nodeType := by
    intro bundle member
    exact ⟨types _ (declared bundle member).1, nodeTypes _ (declared bundle member).2⟩
  constructor
  · intro bundle member clock running
    exact creates_of_running running (fits bundle member).1 (fits bundle member).2
      (accepted bundle member).1 (accepted bundle member).2
  · intro retrieved arrived errorText dump
    refine ⟨⟨⟨true, none⟩, sent.map ofNode⟩, ?_, ?_⟩
    · rw [Fetching.reply, decodeAll_of_creates fits arrived]
      rfl
    · rw [deserialize, FetchReply.marshal, value_sentReply fits, unpackb_marshal]
      dsimp only
      rw [fromDict_sentReply]

end

open scoped Samples

attribute [local instance] Msgpack.ofLibraries

/-- Some time in the year 2023. -/
def sampleClock : Clock := ⟨1700000000000000000, 1700000000000000000⟩

/-- The request of an executor reaches the broker as it was sent. -/
theorem executorRequest_fetched : ∃ created reply, Creates sampleClock executorRequest created ∧
    Fetching.reply ⟨[⟨created.id, 0, created⟩], none⟩ = .ok reply ∧
    deserialize "" (reply.marshal fun _ => []) =
      .ok (.fetchReply ⟨true, [], [executorRequest]⟩) := by
  obtain ⟨creates, fetched⟩ :=
    fetched_eq_sent [executorRequest] (forall_mem_singleton.mpr (by decide))
    (forall_mem_singleton.mpr ⟨⟨_, rfl⟩, _, rfl⟩)
  obtain ⟨created, made⟩ :=
    creates executorRequest mem_cons_self sampleClock ⟨by decide, by decide⟩
  obtain ⟨reply, replied, read⟩ :=
    fetched [⟨created.id, 0, created⟩] (.cons ⟨sampleClock, created, made, rfl⟩ .nil)
    (fun _ => []) ""
  exact ⟨created, reply, made, replied, read⟩

end RecDtn.Agent
