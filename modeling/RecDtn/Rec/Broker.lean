import RecDtn.Rec.Hrw
import RecDtn.Rec.Job
import RecDtn.Rec.Node

namespace RecDtn.Rec

open Python Lang BundleType

variable [Unicode]

structure Broker extends Node where
  completedJobs : List JobInfo
  queuedJobs : List Job
  queuedNdata : List BundleData
  discoveredNodes : Dict NodeType (List Eid)

/-- What a task of the broker has done: the broker, the bundles that it has
given to `_send_and_check`, and the replies that it returns or its exception. -/
structure Acted where
  broker : Broker
  sent : List BundleData
  outcome : Py (List BundleData)

/-- A call of `hrw_select` for a key and some nodes. -/
abbrev Selection := Str → List Str → Py (List Str)

section Selections

variable [Sha256]

/-- `hrw_select(key=key, nodes=nodes, k=1)`, as the broker has it. -/
def hrwSelectCall : Selection := fun key nodes => do
  hrwSelect.signature.check [str "key", str "nodes", str "k"]
  return hrwSelect key nodes 1

/-- `hrw_select(key=key, nodes=nodes, replicas=1)`. -/
def hrwSelectReplicas : Selection := fun key nodes => do
  hrwSelect.signature.check [str "key", str "nodes", str "replicas"]
  return hrwSelect key nodes 1

end Selections

/-- The node of the first name that is selected. -/
def pick (select : Selection) (order : SetOrder Eid) (key : Str) (nodes : List Eid) : Py Eid := do
  let visited := order.visit nodes
  let selected ← select key (visited.map Eid.text)
  match selected with
  | [] => raise .indexError "list index out of range"
  | first :: _ =>
    match visited.find? fun eid => eid.text = first with
    | some eid => .ok eid
    | none => raise .runtimeError "coroutine raised StopIteration"

namespace Broker

def new (nodeId : Eid) : Broker where
  nodeId
  nodeType := NodeType.broker
  broker := some nodeId
  completedJobs := []
  queuedJobs := []
  queuedNdata := []
  discoveredNodes := ⟨[(NodeType.broker, []), (NodeType.client, []), (NodeType.executor, []),
    (NodeType.datastore, [])], show ([1, 4, 2, 3] : List Int).Nodup by decide⟩

/-- `_discovered_nodes.get(node_type, set())`. -/
def known (broker : Broker) (nodeType : NodeType) : List Eid :=
  (broker.discoveredNodes.get? nodeType).getD []

/-- `_discovered_nodes[node_type].add(eid)`, for a type that has a set. -/
def discover (broker : Broker) (nodeType : NodeType) (eid : Eid) (nodes : List Eid) : Broker :=
  { broker with discoveredNodes := broker.discoveredNodes.set nodeType (nodes.insert eid) }

def announcement (broker : Broker) : Py BundleData :=
  BundleData.new {
    type := brokerAnnounce
    source := broker.nodeId
    destination := Eid.broadcastAddress
    nodeType := NodeType.broker }

def ack (broker : Broker) (bundle : BundleData) : Py BundleData :=
  BundleData.new {
    type := brokerAck
    source := broker.nodeId
    destination := bundle.source
    nodeType := broker.nodeType }

/-- The broker's own `_handle_discovery`. -/
def handleDiscovery (broker : Broker) (bundle : BundleData) : Acted :=
  if bundle.type = brokerAnnounce then
    if bundle.source ≠ broker.nodeId then
      match broker.discoveredNodes.get? NodeType.broker with
      | some brokers => ⟨broker.discover NodeType.broker bundle.source brokers, [], .ok []⟩
      | none => ⟨broker, [], raise .keyError "1"⟩
    else ⟨broker, [], .ok []⟩
  else if bundle.type = brokerRequest then
    if bundle.nodeType = NodeType.none then ⟨broker, [], .ok []⟩
    else
      match broker.discoveredNodes.get? bundle.nodeType with
      | some nodes =>
        ⟨broker.discover bundle.nodeType bundle.source nodes, [], (fun ack => [ack]) <$> broker.ack bundle⟩
      | none => ⟨broker, [], raise .keyError s!"{bundle.nodeType}"⟩
  else ⟨broker, [], .ok []⟩

section Jobs

variable [JobCodec] (select : Selection) (order : SetOrder Eid) (broker : Broker)

def jobSubmission (job : Job) (executor : Eid) : Py BundleData :=
  BundleData.new {
    type := jobSubmit
    source := broker.nodeId
    destination := executor
    payload := JobCodec.serialize job }

/-- Choose an executor for a job, and make the bundle of `_schedule_job`. -/
def scheduleJob (executors : List Eid) (job : Job) : Py BundleData := do
  let executor ← pick select order job.metadata.jobId.text executors
  broker.jobSubmission job executor

def handleJobSubmit (bundle : BundleData) : Acted :=
  match JobCodec.deserialize bundle.payload with
  | .error err => ⟨broker, [], .error err⟩
  | .ok job =>
    let executors := broker.known NodeType.executor
    if executors = [] then ⟨{ broker with queuedJobs := broker.queuedJobs ++ [job] }, [], .ok []⟩
    else
      match broker.scheduleJob select order executors job with
      | .error err => ⟨broker, [], .error err⟩
      | .ok submission => ⟨broker, [submission], .ok []⟩

/-- A set of jobs has one of each ID, the one that came first. -/
def handleJobResult (bundle : BundleData) : Acted :=
  match JobCodec.deserializeResult bundle.payload with
  | .error err => ⟨broker, [], .error err⟩
  | .ok result =>
    if broker.completedJobs.any fun info =>
      info.jobId = result.metadata.jobId then ⟨broker, [], .ok []⟩
    else ⟨{ broker with completedJobs := broker.completedJobs ++ [result.metadata] }, [], .ok []⟩

def handleJobQuery (bundle : BundleData) : Acted :=
  ⟨broker, [], (fun response => [response]) <$> BundleData.new {
    type := jobList
    source := broker.nodeId
    destination := bundle.source
    submitter := bundle.submitter
    payload := JobCodec.serializeList broker.completedJobs (broker.queuedJobs.map Job.metadata) }⟩

end Jobs

section NamedData

variable (select : Selection) (order : SetOrder Eid) (broker : Broker)

def forwardNdata (bundle : BundleData) (datastore : Eid) : Py BundleData :=
  BundleData.new {
    type := ndataPut
    source := bundle.source
    destination := datastore
    payload := bundle.payload
    submitter := bundle.source
    namedData := bundle.namedData }

/-- The datastore of a bundle that is forwarded at once. Its payload is the key. -/
def putDatastore (bundle : BundleData) : Py Eid :=
  pick select order (bytesStr bundle.payload) (broker.known NodeType.datastore)

/-- The datastore of a bundle that has been queued. Its name is the key. -/
def queuedDatastore (bundle : BundleData) : Py Eid :=
  pick select order bundle.namedData (broker.known NodeType.datastore)

def handleNdataPut (bundle : BundleData) : Acted :=
  if broker.known NodeType.datastore = [] then
    ⟨{ broker with queuedNdata := broker.queuedNdata ++ [bundle] }, [], .ok []⟩
  else
    match (do forwardNdata bundle (← broker.putDatastore select order bundle)) with
    | .error err => ⟨broker, [], .error err⟩
    | .ok forwarded => ⟨broker, [forwarded], .ok []⟩

end NamedData

section Tasks

variable [JobCodec] (select : Selection) (order : SetOrder Eid) (broker : Broker)

def handleBundle (bundle : BundleData) : Acted :=
  if bundle.type = jobSubmit then broker.handleJobSubmit select order bundle
  else if bundle.type = jobResult then broker.handleJobResult bundle
  else if bundle.type = jobQuery then broker.handleJobQuery bundle
  else if bundle.type = ndataPut then broker.handleNdataPut select order bundle
  else if bundle.type.isDiscovery = true then broker.handleDiscovery bundle
  else ⟨broker, [], .ok []⟩

/-- Make and send one bundle after the other, up to the first exception. -/
def sendEach {α : Type} (make : α → Py BundleData) : List α → List BundleData × Py Unit
  | [] => ([], .ok ())
  | item :: rest =>
    match make item with
    | .error err => ([], .error err)
    | .ok bundle =>
      let later := sendEach make rest
      (bundle :: later.1, later.2)

/-- One turn of `_queue_worker`, after it has been woken up. What there are
nodes for leaves its queue before it is sent. -/
def queueWorker : Acted :=
  let executors := broker.known NodeType.executor
  let datastores := broker.known NodeType.datastore
  let jobs := if executors = [] then [] else broker.queuedJobs
  let ndata := if datastores = [] then [] else broker.queuedNdata
  let left := { broker with
    queuedJobs := if executors = [] then broker.queuedJobs else []
    queuedNdata := if datastores = [] then broker.queuedNdata else [] }
  let scheduled := sendEach (broker.scheduleJob select order executors) jobs
  match scheduled.2 with
  | .error err => ⟨left, scheduled.1, .error err⟩
  | .ok () =>
    let forwarded := sendEach (fun bundle => do
      forwardNdata bundle (← broker.queuedDatastore select order bundle)) ndata
    ⟨left, scheduled.1 ++ forwarded.1, (fun _ => []) <$> forwarded.2⟩

end Tasks

end Broker

end RecDtn.Rec
