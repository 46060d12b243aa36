import RecDtn.Rec.Messages

namespace RecDtn.Rec

open Python

variable [Unicode]

/-- A handler changes its node, and returns replies or raises. What it has
changed before it raises stays changed. -/
abbrev Handler (σ : Type) := σ → BundleData → σ × Py (List BundleData)

/-- A node of a given type, and its way to a broker. -/
structure Node where
  nodeId : Eid
  nodeType : NodeType
  brokerPending : Option Eid := none
  broker : Option Eid := none
  deriving DecidableEq

namespace Node

def brokerRequest (node : Node) (broker : Eid) : Py BundleData :=
  BundleData.new {
    type := BundleType.brokerRequest
    source := node.nodeId
    destination := broker
    nodeType := node.nodeType }

/-- `_handle_discovery`. A node asks the first broker that it hears of, and only
that one. -/
def handleDiscovery : Handler Node := fun node bundle =>
  if bundle.type = BundleType.brokerAnnounce then
    if node.brokerPending = none ∧ node.broker = none then
      ({ node with brokerPending := some bundle.source },
        (fun request => [request]) <$> node.brokerRequest bundle.source)
    else (node, .ok [])
  else if bundle.type = BundleType.brokerAck then
    if node.brokerPending = some bundle.source then
      ({ node with broker := some bundle.source, brokerPending := none }, .ok [])
    else (node, .ok [])
  else (node, .ok [])

/-- One turn of `_send_periodic_heartbeat`, for the nodes that have one. -/
def heartbeat (node : Node) : Py (List BundleData) :=
  match node.broker with
  | some broker =>
    if broker.isSome = true then (fun request => [request]) <$> node.brokerRequest broker else .ok []
  | none => .ok []

end Node

/-- What handling a list of bundles has come to: the node, the positions of the
bundles whose handler was called, and the replies or the exception. -/
structure Handling (σ : Type) where
  state : σ
  handled : List Nat
  replies : Py (List BundleData)

/-- `_handle_bundles`, for bundles that start at a position of the reply. -/
def handleBundles {σ : Type} (handler : Handler σ) (position : Nat) :
    σ → List BundleData → Handling σ
  | state, [] => ⟨state, [], .ok []⟩
  | state, bundle :: rest =>
    match handler state bundle with
    | (next, .error err) => ⟨next, [position], .error err⟩
    | (next, .ok replies) =>
      let later := handleBundles handler (position + 1) next rest
      ⟨later.state, position :: later.handled, (replies ++ ·) <$> later.replies⟩

/-- What one round of receiving has come to: the node, the bundles of the reply
that were handled, and the replies given to `_send_and_check`. -/
structure Receiving (σ : Type) where
  state : σ
  handled : List Nat
  sent : List BundleData

/-- `_receive_once`, for the reply that the daemon has sent. One `try` is around
all of it. -/
def receiveOnce {σ : Type} (handler : Handler σ) (state : σ) (data : FetchReplyDict) :
    Receiving σ :=
  match FetchReply.fromDict data with
  | .error _ => ⟨state, [], []⟩
  | .ok reply =>
    if reply.success = true then
      let handling := handleBundles handler 0 state reply.bundles
      match handling.replies with
      | .error _ => ⟨handling.state, handling.handled, []⟩
      | .ok replies => ⟨handling.state, handling.handled, replies⟩
    else ⟨state, [], []⟩

end RecDtn.Rec
