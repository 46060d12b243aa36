import RecDtn.Lang.MessagePack
import RecDtn.Rec.Messages

namespace RecDtn.Rec

open Python Lang.MessagePack

/-- A dictionary with texts as keys. -/
abbrev Entries := List (Str × Value Str)

/-- A field that is only there under a condition. -/
def given (condition : Prop) [Decidable condition] (value : Value Str) : Option (Value Str) :=
  if condition then some value else none

section BundleData

variable [Unicode]

def BundleData.trueFields (bundle : BundleData) : List (Str × Option (Value Str)) :=
  [(str "type", given (bundle.type ≠ 0) (.int bundle.type)),
    (str "source", given bundle.source.isSome (.str bundle.source.text)),
    (str "destination", given bundle.destination.isSome (.str bundle.destination.text)),
    (str "payload", given (bundle.payload ≠ []) (.bin bundle.payload)),
    (str "success", given bundle.success (.bool bundle.success)),
    (str "error", given (bundle.error ≠ []) (.str bundle.error)),
    (str "node_type", given (bundle.nodeType ≠ 0) (.int bundle.nodeType)),
    (str "submitter", given bundle.submitter.isSome (.str bundle.submitter.text)),
    (str "named_data", given (bundle.namedData ≠ []) (.str bundle.namedData))]

def BundleData.dictify (bundle : BundleData) : Entries :=
  setItem (str "success") (.bool bundle.success) (record bundle.trueFields)

end BundleData

def asBool : Value Str → Option Bool
  | .bool value => some value
  | _ => none

def asInt : Value Str → Option Int
  | .int number => some number
  | _ => none

def asStr : Value Str → Option Str
  | .str text => some text
  | _ => none

def asBytes : Value Str → Option (List UInt8)
  | .bin data => some data
  | _ => none

/-- The entry of a key, if there is one. It has the type that the daemon gives it. -/
def entry {α : Type} (read : Value Str → Option α) (key : String) (data : Entries) :
    Option (Option α) :=
  match find (str key) data with
  | none => some none
  | some value => (read value).map some

def bundleKeys : List Str :=
  [str "type", str "source", str "destination", str "payload", str "success", str "error",
    str "node_type", str "submitter", str "named_data"]

/-- A dictionary of which every field has the type that the daemon gives it. -/
def BundleDict.ofEntries (data : Entries) : Option BundleDict := do
  let type ← entry asInt "type" data
  let source ← entry asStr "source" data
  let destination ← entry asStr "destination" data
  let payload ← entry asBytes "payload" data
  let success ← entry asBool "success" data
  let error ← entry asStr "error" data
  let nodeType ← entry asInt "node_type" data
  let submitter ← entry asStr "submitter" data
  let namedData ← entry asStr "named_data" data
  let others := (data.map Prod.fst).filter fun key => !bundleKeys.contains key
  return ⟨type, source, destination, payload, success, error, nodeType, submitter,
    namedData, others⟩

def asBundle : Value Str → Option BundleDict
  | .dict data => BundleDict.ofEntries data
  | _ => none

def asBundles : Value Str → Option (List BundleDict)
  | .array items => items.mapM asBundle
  | _ => none

namespace MessageType

def reply : Int := 1
def register : Int := 2
def fetch : Int := 3
def fetchReply : Int := 4
def create : Int := 5

end MessageType

variable [Unicode]

/-- A message, without its type. Endpoint IDs are texts. -/
inductive Message where
  | reply (success : Bool) (error : Str)
  | register (endpointId : Str)
  | fetch (endpointId : Str) (nodeType : NodeType)
  | fetchReply (answer : FetchReply)
  | bundleCreate (bundle : BundleData)

def Message.dictify : Message → Entries
  | .reply success error =>
    [(str "type", .int MessageType.reply), (str "success", .bool success), (str "error", .str error)]
  | .register endpointId =>
    [(str "type", .int MessageType.register), (str "endpoint_id", .str endpointId)]
  | .fetch endpointId nodeType =>
    [(str "type", .int MessageType.fetch), (str "endpoint_id", .str endpointId),
      (str "node_type", .int nodeType)]
  | .fetchReply answer =>
    [(str "type", .int MessageType.fetchReply), (str "success", .bool answer.success),
      (str "error", .str answer.error),
      (str "bundles", .array (answer.bundles.map fun bundle => .dict bundle.dictify))]
  | .bundleCreate bundle =>
    [(str "type", .int MessageType.create), (str "bundle", .dict bundle.dictify)]

def serialize [Libraries] (message : Message) : List UInt8 := Libraries.packb (.dict message.dictify)

section

omit [Unicode]

/-- `cls(**data)`, for a class all of whose parameters are required. -/
def keywords (cls : String) (parameters : List String) (data : Entries) : Py Unit :=
  Signature.check ⟨s!"{cls}.__init__", parameters.map fun name => (name, false)⟩
    (data.map Prod.fst)

/-- An argument of the type that the daemon gives it. -/
def argument {α : Type} (read : Value Str → Option α) (key : String) (data : Entries) : Py α :=
  match entry read key data with
  | some (some value) => .ok value
  | some none => raise .keyError s!"'{key}'"
  | none => raise .typeError s!"'{key}' is of another type"

end

namespace Message

def replyFromDict (data : Entries) : Py Message := do
  keywords "Reply" ["type", "success", "error"] data
  let success ← argument asBool "success" data
  let error ← argument asStr "error" data
  if success = false ∧ error = [] then
    raise .invalidMessageError "If operation was unsuccessful, there should be an error"
  else if success = true ∧ error ≠ [] then
    raise .invalidMessageError "If operation was successful, there should be no error"
  else return .reply success error

def registerFromDict (data : Entries) : Py Message := do
  keywords "Register" ["type", "endpoint_id"] data
  let endpointId ← argument asStr "endpoint_id" data
  if endpointId = [] then raise .invalidMessageError "EndpointID must not be dtn:none"
  else return .register endpointId

def fetchFromDict (data : Entries) : Py Message := do
  keywords "Fetch" ["type", "endpoint_id", "node_type"] data
  let endpointId ← argument asStr "endpoint_id" data
  let nodeType ← argument asInt "node_type" data
  if endpointId = [] then raise .invalidMessageError "EndpointID must not be dtn:none"
  else return .fetch endpointId nodeType

/-- The bundles are made first. -/
def fetchReplyFromDict (data : Entries) : Py Message := do
  let bundles ← (← argument asBundles "bundles" data).mapM BundleData.fromDict
  keywords "FetchReply" ["type", "success", "error", "bundles"] data
  let success ← argument asBool "success" data
  let error ← argument asStr "error" data
  return .fetchReply ⟨success, error, bundles⟩

def bundleCreateFromDict (data : Entries) : Py Message := do
  let bundle ← BundleData.fromDict (← argument asBundle "bundle" data)
  keywords "BundleCreate" ["type", "bundle"] data
  return .bundleCreate bundle

/-- `MESSAGE_CONSTRUCTORS`. -/
def fromDict (data : Entries) : Py Message :=
  match entry asInt "type" data with
  | some none => raise .invalidMessageError "Message missing 'type' field"
  | none => raise .invalidMessageError "Unknown MessageType ID"
  | some (some code) =>
    if code = MessageType.reply then replyFromDict data
    else if code = MessageType.register then registerFromDict data
    else if code = MessageType.fetch then fetchFromDict data
    else if code = MessageType.fetchReply then fetchReplyFromDict data
    else if code = MessageType.create then bundleCreateFromDict data
    else raise .invalidMessageError s!"Unknown MessageType ID: {code}"

end Message

/-- What cannot be read is dumped to a file. -/
def deserialize [Libraries] (dump : String) (serialized : List UInt8) : Py Message :=
  let made : Py Message :=
    match Libraries.unpackb serialized with
    | .ok (.dict data) => Message.fromDict data
    | .ok _ => raise .typeError "the message is no dictionary"
    | .error text => raise .valueError text
  match made with
  | .ok message => .ok message
  | .error err =>
    raise .invalidMessageError s!"Deserialization failed: {err.text}. Raw data dumped to {dump}"

end RecDtn.Rec
