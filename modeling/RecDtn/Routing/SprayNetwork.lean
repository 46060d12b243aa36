import RecDtn.Bpv7.BlockNumbers
import RecDtn.Lang.Run
import RecDtn.Lang.Tally
import RecDtn.Routing.SprayAndWait
import RecDtn.Store.Effects

/-! Spray and Wait in a network of nodes. -/

namespace RecDtn.Routing

open Wire Lang Bpv7 Store

/-- A call to `receiveAsync` that has inserted its bundle. It goes on to notify
the router, and then to ask whether the bundle is to be forwarded. -/
structure Arrival where
  ref : Ref
  bundle : Bundle
  new : Bool
  notified : Bool

/-- How far `forwardingAsync` has come. After the constraints it asks for the
counter, sets it if there is none, and selects the peers. -/
inductive RunStage where
  | spawned
  | marked
  | released
  | uncounted
  | counted (copies : UInt64)
  | contraindicated
  | sending

structure SprayRun where
  ref : Ref
  stage : RunStage

/-- A bundle on its way to another node, and the ID under which it is stored
where it comes from. -/
structure Transmission where
  bid : BundleID
  bundle : Bundle

variable [Sha256] [Badgerhold]

structure Node where
  router : SprayAndWait
  store : BundleStore
  arrivals : List Arrival
  runs : List SprayRun
  /-- A goroutine has panicked, and the daemon with it. -/
  crashed : Bool

/-- The steps of a node, and what they depend on besides its state. -/
inductive NodeEvent where
  | notify (position : Nat) (faults : Faults)
  | checkArrival (position : Nat)
  | dispatch (ref : Ref)
  | addForwardPending (position : Nat)
  | removeDispatchPending (position : Nat)
  | readCopies (position : Nat)
  | setDefault (position : Nat) (faults : Faults)
  | select (position : Nat) (peers : List EndpointID) (now : Time) (intn : Nat) (faults : Faults)
  | addKnownHolder (ref : Ref) (peer : EndpointID) (faults : Faults)
  | finish (position : Nat)

section

omit [Sha256] [Badgerhold]

def clearPreviousNode (bundle : Bundle) : Go Bundle := do
  match ← Go.attempt (bundle.extensionBlockByType BlockType.previousNodeBlock) with
  | .error _ => return bundle
  | .ok prevNodeBlock => return bundle.removeExtensionBlockByBlockNumber prevNodeBlock.blockNumber

/-- Steps 4.1 and 4.2 of `forwardingAsync`. There is no error when a block is added. -/
def replacePreviousNode [GoSort] (ownNodeID : EndpointID) (bundle : Bundle) : Go Bundle := do
  let cleared ← clearPreviousNode bundle
  cleared.addExtensionBlock ⟨0, 0, CRCType.crcNo, [], some (.previousNode ownNodeID)⟩

end

namespace Node

def start (router : SprayAndWait) (nodeID : EndpointID) : Node :=
  ⟨router, .empty nodeID, [], [], false⟩

variable (node : Node)

/-- A run goes on at another stage, or it ends. -/
def withRun (position : Nat) (ref : Ref) : Option RunStage → Node
  | none => { node with runs := node.runs.eraseIdx position }
  | some stage => { node with runs := node.runs.set position ⟨ref, stage⟩ }

/-- A step of a run on the constraints; an error ends the run. -/
def constrain (position : Nat) (ref : Ref) (operation : Operation) (next : Option RunStage) : Node :=
  let performed := node.store.perform ref operation
  { node with store := performed.2 }.withRun position ref (next.filter fun _ => performed.1.toBool)

/-- The router has recorded the copies of a bundle that has arrived. -/
def record (position : Nat) (arrival : Arrival) (store : BundleStore) : Node :=
  { node with store := store, arrivals := node.arrivals.set position { arrival with notified := true } }

def spawn (ref : Ref) : Node := { node with runs := node.runs ++ [⟨ref, .spawned⟩] }

def dispatchPending (ref : Ref) : Bool :=
  match node.store.descriptors[ref]? with
  | none => false
  | some bd => (bd.hasConstraint Constraint.dispatchPending).toOption.getD false

def dispatchable (ref : Ref) : Bool :=
  match node.store.descriptors[ref]? with
  | none => false
  | some bd => bd.dispatchable

/-- The bundle of a descriptor is given to a sender for each of the peers. -/
def transmissions (ref : Ref) (peers : List EndpointID) (bundle : Bundle) : List Transmission :=
  match node.store.descriptors[ref]? with
  | none => []
  | some bd => peers.map fun _ => ⟨bd.metadata.id, bundle⟩

variable [Cboring] [Crc16] [Ed25519] [GoSort]

omit [Ed25519] [GoSort] in
/-- The first step of `receiveAsync`. -/
def insert (faults : Faults) (bundle : Bundle) (new : Bool) : Node :=
  match node.store.insertBundle faults bundle with
  | (.ok ref, store) =>
    { node with store := store, arrivals := node.arrivals ++ [⟨ref, bundle, new, false⟩] }
  | (.error (.error _), store) => { node with store := store }
  | (.error _, store) => { node with store := store, crashed := true }

/-- The bundle that is sent to the peers that were selected. -/
def outgoing (ref : Ref) (now : Time) (selection : Selection) : Go Bundle := do
  let bundle ← match selection.bundle with
    | some bundle => pure bundle
    | none => selection.store.load now ref
  replacePreviousNode node.store.nodeID bundle

/-- The part of `forwardingAsync` after the peers have been selected. -/
def forward (position : Nat) (ref : Ref) (now : Time) (selection : Selection) :
    Node × List Transmission :=
  let left : Node := { node with store := selection.store }
  if selection.peers = [] then (left.withRun position ref (some .contraindicated), [])
  else
    match node.outgoing ref now selection with
    | .ok bundle =>
      (left.withRun position ref (some .sending), node.transmissions ref selection.peers bundle)
    | .error (.error _) => (left.withRun position ref none, [])
    | .error _ => ({ left with crashed := true }, [])

/-- The node after a step, and what it has given to its senders. A step that
does not fit the state does nothing. -/
def step (node : Node) : NodeEvent → Node × List Transmission
  | .notify position faults =>
    match node.arrivals[position]? with
    | some ⟨ref, bundle, new, false⟩ =>
      if new then (node.record position ⟨ref, bundle, new, false⟩ (node.router.notifyNewBundle faults node.store ref), [])
      else
        match SprayAndWait.notifyReceivedBundle faults node.store ref bundle with
        | .ok store => (node.record position ⟨ref, bundle, new, false⟩ store, [])
        | .error _ => ({ node with crashed := true }, [])
    | _ => (node, [])
  | .checkArrival position =>
    match node.arrivals[position]? with
    | some ⟨ref, _, _, true⟩ =>
      let left : Node := { node with arrivals := node.arrivals.eraseIdx position }
      (if node.dispatchPending ref then left.spawn ref else left, [])
    | _ => (node, [])
  | .dispatch ref => (if node.dispatchable ref then node.spawn ref else node, [])
  | .addForwardPending position =>
    match node.runs[position]? with
    | some ⟨ref, .spawned⟩ =>
      (node.constrain position ref (.addConstraint Constraint.forwardPending) (some .marked), [])
    | _ => (node, [])
  | .removeDispatchPending position =>
    match node.runs[position]? with
    | some ⟨ref, .marked⟩ =>
      (node.constrain position ref (.removeConstraint Constraint.dispatchPending) (some .released), [])
    | _ => (node, [])
  | .readCopies position =>
    match node.runs[position]? with
    | some ⟨ref, .released⟩ =>
      match getSprayCopies node.store ref with
      | some copies => (node.withRun position ref (some (.counted copies)), [])
      | none => (node.withRun position ref (some .uncounted), [])
    | _ => (node, [])
  | .setDefault position faults =>
    match node.runs[position]? with
    | some ⟨ref, .uncounted⟩ =>
      ({ node with store := setSprayCopies faults node.store ref node.router.copies }.withRun
        position ref (some (.counted node.router.copies)), [])
    | _ => (node, [])
  | .select position peers now intn faults =>
    match node.runs[position]? with
    | some ⟨ref, .counted copies⟩ =>
      match node.router.selectPeers faults now intn node.store ref copies peers with
      | .ok selection => node.forward position ref now selection
      | .error _ => ({ node with crashed := true }, [])
    | _ => (node, [])
  | .addKnownHolder ref peer faults =>
    ({ node with store := (node.store.addKnownHolder faults ref [peer]).2 }, [])
  | .finish position =>
    match node.runs[position]? with
    | some ⟨ref, .contraindicated⟩ => (node.constrain position ref .resetConstraints none, [])
    | some ⟨ref, .sending⟩ =>
      (node.constrain position ref (.removeConstraint Constraint.forwardPending) none, [])
    | _ => (node, [])

end Node

/-- The nodes, what is in flight between them, and the copies with which each
bundle was created. -/
structure Network where
  nodes : List Node
  wire : List Transmission
  created : BundleID → Option UInt64

/-- A bundle is created by an application, a transmission arrives or is lost,
or a node takes a step. -/
inductive NetworkEvent where
  | create (node : Nat) (bundle : Bundle) (faults : Faults)
  | deliver (position node : Nat) (now : Time) (faults : Faults)
  | lose (position : Nat)
  | step (node : Nat) (event : NodeEvent)

namespace Network

def start (nodes : List (SprayAndWait × EndpointID)) : Network :=
  ⟨nodes.map fun node => .start node.1 node.2, [], fun _ => none⟩

variable [Cboring] [Crc16] [Ed25519] [GoSort] (network : Network)

omit [GoSort] in
/-- What a receiver makes of a bundle that was sent. -/
def received (now : Time) (bundle : Bundle) : Option Bundle :=
  match bundle.marshalCbor with
  | .error _ => none
  | .ok (written, _) =>
    match (Bundle.parseBundle now written).err with
    | none => some (Bundle.parseBundle now written).bundle
    | some _ => none

/-- No bundle is created twice. A daemon that has crashed takes no steps. -/
def step (network : Network) : NetworkEvent → Network
  | .create position bundle faults =>
    match network.nodes[position]?, network.created bundle.id with
    | some node, none =>
      if node.crashed then network
      else
        { network with
          nodes := network.nodes.set position (node.insert faults bundle true)
          created := Function.update network.created bundle.id (some node.router.copies) }
    | _, _ => network
  | .deliver position target now faults =>
    match network.wire[position]?, network.nodes[target]? with
    | some transmission, some node =>
      let left := { network with wire := network.wire.eraseIdx position }
      match received now transmission.bundle with
      | none => left
      | some bundle =>
        if node.crashed then left
        else { left with nodes := network.nodes.set target (node.insert faults bundle false) }
    | _, _ => network
  | .lose position => { network with wire := network.wire.eraseIdx position }
  | .step position event =>
    match network.nodes[position]? with
    | none => network
    | some node =>
      if node.crashed then network
      else
        let (left, sent) := node.step event
        { network with
          nodes := network.nodes.set position left
          wire := network.wire ++ sent }

end Network

section

omit [Sha256] [Badgerhold]

def sprayCopies (cb : CanonicalBlock) : Nat :=
  match cb.value with
  | some (.binarySpray copies) => copies.toNat
  | _ => 0

def carried (b : Bundle) : Nat := tally sprayCopies b.extensionBlocks

/-- The copies of a bundle that are on their way in a transmission. -/
def owed (bid : BundleID) (transmission : Transmission) : Nat :=
  if transmission.bid = bid then carried transmission.bundle else 0

end

/-- The counter of a descriptor. -/
def copiesAt (bst : BundleStore) (ref : Ref) : Nat := ((getSprayCopies bst ref).getD 0).toNat

def Node.held (node : Node) (bid : BundleID) : Nat :=
  match node.store.bundles.lookup bid with
  | none => 0
  | some ref => copiesAt node.store ref

namespace Network

/-- The copies of a bundle that are stored or in flight. -/
def total (network : Network) (bid : BundleID) : Nat :=
  tally (fun node => node.held bid) network.nodes + tally (owed bid) network.wire

/-- The copies with which a bundle was created. -/
def budget (network : Network) (bid : BundleID) : Nat := ((network.created bid).getD 0).toNat

/-- A run reads a counter that has been recorded, and no other run of the bundle
is between its reading of the counter and its writing. -/
def CounterGuard (network : Network) : NetworkEvent → Prop
  | .step position (.readCopies place) => ∀ node ref, network.nodes[position]? = some node →
      node.runs[place]? = some ⟨ref, .released⟩ →
      getSprayCopies node.store ref ≠ none ∧
        ∀ run ∈ node.runs, run.ref = ref → ∀ copies, run.stage ≠ .counted copies
  | _ => True

end Network

end RecDtn.Routing
