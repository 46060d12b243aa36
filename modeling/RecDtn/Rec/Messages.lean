import RecDtn.Rec.Eid

namespace RecDtn.Rec

open Python

/-- The members of an `IntEnum` compare like numbers, and a number that comes in
a message is not turned into a member. -/
abbrev NodeType := Int

namespace NodeType

def none : NodeType := 0
def broker : NodeType := 1
def executor : NodeType := 2
def datastore : NodeType := 3
def client : NodeType := 4

def members : List NodeType := [none, broker, executor, datastore, client]

end NodeType

abbrev BundleType := Int

namespace BundleType

def brokerAnnounce : BundleType := 1
def brokerRequest : BundleType := 2
def brokerAck : BundleType := 3
def jobSubmit : BundleType := 11
def jobResult : BundleType := 12
def jobQuery : BundleType := 13
def jobList : BundleType := 14
def ndataPut : BundleType := 21
def ndataGet : BundleType := 22
def ndataDel : BundleType := 23

def members : List BundleType :=
  [brokerAnnounce, brokerRequest, brokerAck, jobSubmit, jobResult, jobQuery, jobList, ndataPut,
    ndataGet, ndataDel]

def isDiscovery (type : BundleType) : Bool := brokerAnnounce ≤ type && type ≤ brokerAck

def isNamedData (type : BundleType) : Bool := ndataPut ≤ type && type ≤ ndataDel

end BundleType

/-- The fields of a `BundleData` before `__post_init__` has looked at them. -/
structure BundleFields [Unicode] where
  type : BundleType
  source : Eid
  destination : Eid
  payload : List UInt8 := []
  success : Bool := true
  error : Str := []
  nodeType : NodeType := NodeType.none
  submitter : Eid := Eid.none
  namedData : Str := []
  deriving DecidableEq

section

variable [Unicode]

def BundleFields.postInit (fields : BundleFields) : Py Unit :=
  if fields.source.isSome = false then
    raise .invalidBundleError "Bundles must be sent by someone"
  else if fields.destination.isSome = false then
    raise .invalidBundleError "Bundles must be addressed to someone"
  else if fields.success = false ∧ fields.error = [] then
    raise .invalidBundleError "If operation was unsuccessful, there should be an error"
  else if fields.success = true ∧ fields.error ≠ [] then
    raise .invalidBundleError "If operation was successful, there should be no error"
  else if fields.type.isDiscovery = true ∧
      (fields.nodeType < NodeType.broker ∨ NodeType.client < fields.nodeType) then
    raise .invalidBundleError s!"Invalid node type: {fields.nodeType}"
  else if (fields.type = BundleType.jobQuery ∨ fields.type = BundleType.jobList) ∧
      fields.submitter.isSome = false then
    raise .invalidBundleError "Job query/list bundles must have a submitter set"
  else if fields.type.isNamedData = true ∧ fields.namedData = [] then
    raise .invalidBundleError "Named data bundles need to have a data name set"
  else .ok ()

/-- A `BundleData` is frozen, and its fields have passed the checks. -/
structure BundleData extends BundleFields where
  valid : toBundleFields.postInit = .ok ()

namespace BundleData

@[ext] theorem ext {first second : BundleData}
    (same : first.toBundleFields = second.toBundleFields) : first = second := by
  cases first
  cases second
  cases same
  rfl

instance : DecidableEq BundleData := fun first second =>
  decidable_of_iff (first.toBundleFields = second.toBundleFields) ⟨ext, congrArg toBundleFields⟩

def new (fields : BundleFields) : Py BundleData :=
  match valid : fields.postInit with
  | .ok () => .ok ⟨fields, valid⟩
  | .error err => .error err

theorem new_eq_ok {fields : BundleFields} {bundle : BundleData} :
    new fields = .ok bundle ↔ bundle.toBundleFields = fields := by
  unfold new
  constructor
  · intro made
    split at made
    · cases made
      rfl
    · cases made
  · rintro rfl
    split
    · rfl
    · rename_i err failed
      rw [bundle.valid] at failed
      cases failed

theorem source_isSome (bundle : BundleData) : bundle.source.isSome = true := by
  have valid := bundle.valid
  unfold BundleFields.postInit at valid
  split at valid
  · cases valid
  · rename_i some
    simpa using some

theorem destination_isSome (bundle : BundleData) : bundle.destination.isSome = true := by
  have valid := bundle.valid
  unfold BundleFields.postInit at valid
  split at valid
  · cases valid
  split at valid
  · cases valid
  · rename_i some
    simpa using some

theorem namedData_ne_nil (bundle : BundleData) (type : bundle.type.isNamedData = true) :
    bundle.namedData ≠ [] := by
  intro nameless
  have valid := bundle.valid
  unfold BundleFields.postInit at valid
  simp only [type, nameless, and_self, if_true] at valid
  repeat' split at valid
  all_goals cases valid

end BundleData

/-- The entries of a dictionary that name fields of a bundle, each of the type
that the daemon gives it, and the keys of all the other entries. -/
structure BundleDict where
  type : Option BundleType := none
  source : Option Str := none
  destination : Option Str := none
  payload : Option (List UInt8) := none
  success : Option Bool := none
  error : Option Str := none
  nodeType : Option NodeType := none
  submitter : Option Str := none
  namedData : Option Str := none
  others : List Str := []
  deriving DecidableEq

/-- `data[key]`. -/
def BundleDict.item {α : Type} (key : String) : Option α → Py α
  | some value => .ok value
  | none => raise .keyError s!"'{key}'"

/-- `BundleData.from_dict`: the endpoint IDs first, then `cls(**data)`. -/
def BundleData.fromDict (data : BundleDict) : Py BundleData := do
  let source ← Eid.new (← BundleDict.item "source" data.source)
  let destination ← Eid.new (← BundleDict.item "destination" data.destination)
  let submitter ← match data.submitter with
    | some submitter => Eid.new submitter
    | none => .ok Eid.none
  match data.others, data.type with
  | key :: _, _ =>
    raise .typeError
      s!"BundleData.__init__() got an unexpected keyword argument '{String.ofList key}'"
  | [], none =>
    raise .typeError "BundleData.__init__() missing 1 required positional argument: 'type'"
  | [], some type =>
    BundleData.new {
      type, source, destination, submitter
      payload := data.payload.getD []
      success := data.success.getD true
      error := data.error.getD []
      nodeType := data.nodeType.getD NodeType.none
      namedData := data.namedData.getD [] }

/-- A reply to a fetch, as it comes from the daemon. -/
structure FetchReplyDict where
  success : Bool
  error : Str
  bundles : List BundleDict

structure FetchReply where
  success : Bool
  error : Str
  bundles : List BundleData

/-- `FetchReply.from_dict` makes all bundles before it makes the reply. -/
def FetchReply.fromDict (data : FetchReplyDict) : Py FetchReply := do
  let bundles ← data.bundles.mapM BundleData.fromDict
  return ⟨data.success, data.error, bundles⟩

end

open scoped Samples

def sampleBroker : Eid := ⟨str "dtn://broker/", str "dtn://broker/", rfl⟩

def sampleExecutor : Eid := ⟨str "dtn://executor/", str "dtn://executor/", rfl⟩

def sampleClient : Eid := ⟨str "dtn://client/", str "dtn://client/", rfl⟩

def executorRequest : BundleData where
  type := BundleType.brokerRequest
  source := sampleExecutor
  destination := sampleBroker
  nodeType := NodeType.executor
  valid := rfl

end RecDtn.Rec
