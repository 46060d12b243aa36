import RecDtn.Agent.Mailbox
import RecDtn.Bpv7.EndpointText

namespace RecDtn.Agent

open Lang Bpv7 Store Go

abbrev RECNodeType := UInt8

namespace RECNodeType

def broker : RECNodeType := 1
def executor : RECNodeType := 2
def dataStore : RECNodeType := 3
def client : RECNodeType := 4

end RECNodeType

structure BundleData where
  type : UInt8
  source : List UInt8
  destination : List UInt8
  payload : List UInt8
  success : Bool
  error : List UInt8
  nodeType : RECNodeType
  submitter : List UInt8
  namedData : List UInt8
  deriving DecidableEq

structure Fetch where
  endpointID : List UInt8
  nodeType : RECNodeType

/-- The text of the error is taken when the reply is encoded. -/
structure Reply where
  success : Bool
  error : Option GoError

structure FetchReply extends Reply where
  bundles : List BundleData

/-- `msgpack.Unmarshal` into a `BundleData`. -/
class Msgpack where
  unmarshalBundleData : List UInt8 → Except GoError BundleData

structure RECAgent where
  mailboxes : MailboxBank
  broadcastAddress : EndpointID
  multicastAddresses : AList fun _ : RECNodeType => EndpointID

def mustNewEndpointID (uri : String) : Go EndpointID :=
  match newEndpointID (ascii uri) with
  | .ok eid => .ok eid
  | .error _ => .error .panic

/-- What a call to `handleFetch` has come to: the bundles so far, or the reason
why there will be none. -/
structure Fetching where
  allBundles : List Retrieved
  err : Option (Wire.Fault GoError)

def Fetching.fresh : Fetching := ⟨[], none⟩

namespace RECAgent

def new : Go RECAgent := do
  let broadcastAddr ← mustNewEndpointID "dtn://rec.all/~"
  let brokerAddr ← mustNewEndpointID "dtn://rec.broker/~"
  let storeAddr ← mustNewEndpointID "dtn://rec.store/~"
  let executorAddress ← mustNewEndpointID "dtn://rec.executor/~"
  let clientAddress ← mustNewEndpointID "dtn://rec.client/~"
  let registered := [broadcastAddr, brokerAddr, storeAddr, executorAddress, clientAddress].foldl
    (fun bank eid => (bank.register eid).2) MailboxBank.new
  return {
    mailboxes := registered
    broadcastAddress := broadcastAddr
    multicastAddresses := ((((∅ : AList fun _ : RECNodeType => EndpointID).insert
      RECNodeType.broker brokerAddr).insert RECNodeType.executor executorAddress).insert
      RECNodeType.dataStore storeAddr).insert RECNodeType.client clientAddress }

theorem idle_of_new {agent : RECAgent} (made : new = .ok agent) (eid : EndpointID)
    (bid : BundleID) : ¬agent.mailboxes.Holds eid bid := by
  obtain ⟨broadcastAddr, -, made⟩ := bind_eq_ok.mp made
  obtain ⟨brokerAddr, -, made⟩ := bind_eq_ok.mp made
  obtain ⟨storeAddr, -, made⟩ := bind_eq_ok.mp made
  obtain ⟨executorAddress, -, made⟩ := bind_eq_ok.mp made
  obtain ⟨clientAddress, -, made⟩ := bind_eq_ok.mp made
  obtain rfl := Except.ok.inj made
  simp only [List.foldl_cons, List.foldl_nil, MailboxBank.holds_register]
  rintro ⟨mailbox, found, -⟩
  cases found

variable (agent : RECAgent)

/-- A map gives the zero value for a key that it does not have. -/
def multicastAddress (nodeType : RECNodeType) : EndpointID :=
  (agent.multicastAddresses.lookup nodeType).getD ⟨none⟩

def handleRegister (endpointID : List UInt8) : Go Reply × RECAgent :=
  match newEndpointID endpointID with
  | .error (.error cause) => (.ok ⟨false, some cause⟩, agent)
  | .error fault => (.error fault, agent)
  | .ok eid =>
    let registered := agent.mailboxes.register eid
    (match registered.1 with
      | .ok () => .ok ⟨true, none⟩
      | .error cause => .ok ⟨false, some cause⟩,
      { agent with mailboxes := registered.2 })

variable {agent} in
theorem holds_handleRegister {endpointID : List UInt8} {eid : EndpointID} {bid : BundleID} :
    (agent.handleRegister endpointID).2.mailboxes.Holds eid bid ↔
      agent.mailboxes.Holds eid bid := by
  unfold handleRegister
  split
  · rfl
  · rfl
  · exact MailboxBank.holds_register

variable [Sha256] [Badgerhold] [Cboring] [Crc16] [Ed25519]

/-- One of the three blocks of `handleFetch`: empty the mailbox of an address,
unless an earlier block has failed. -/
def fetchFrom (bst : BundleStore) (now : Time) (fetching : Fetching) (address : EndpointID)
    (order : RangeOrder BundleID) : Fetching × RECAgent :=
  match fetching.err with
  | some _ => (fetching, agent)
  | none =>
    match agent.mailboxes.getMailbox address with
    | .error cause => ({ fetching with err := some (.error cause) }, agent)
    | .ok mailbox =>
      let retrieval := mailbox.getAll bst now order true
      (match retrieval.err with
        | some fault => { fetching with err := some fault }
        | none => { fetching with allBundles := fetching.allBundles ++ retrieval.bundles },
        { agent with mailboxes := agent.mailboxes.put address retrieval.mailbox })

/-- The blocks run one after the other. -/
def fetchAll (bst : BundleStore) (now : Time) (agent : RECAgent) (fetching : Fetching) :
    List (EndpointID × RangeOrder BundleID) → Fetching × RECAgent
  | [] => (fetching, agent)
  | (address, order) :: rest =>
    let next := agent.fetchFrom bst now fetching address order
    fetchAll bst now next.2 next.1 rest

end RECAgent

section

variable [Msgpack]

/-- The payload of a bundle as the client will see it. What cannot be decoded
is logged and left out; a type assertion panics on another kind of payload. -/
def decodePayload (bundle : Bundle) : Go (Option BundleData) :=
  match bundle.payloadBlock.value with
  | some (.payload data) => .ok (Msgpack.unmarshalBundleData data).toOption
  | _ => .error .panic

def decodeAll : List Retrieved → Go (List BundleData)
  | [] => .ok []
  | retrieved :: rest => do
    let bundleData ← decodePayload retrieved.bundle
    let allBundleData ← decodeAll rest
    return bundleData.toList ++ allBundleData

/-- The end of `handleFetch`. -/
def Fetching.reply (fetching : Fetching) : Go FetchReply :=
  match fetching.err with
  | none => (fun bundles => ⟨⟨true, none⟩, bundles⟩) <$> decodeAll fetching.allBundles
  | some (.error cause) => .ok ⟨⟨false, some cause⟩, []⟩
  | some fault => .error fault

/-- The start of `handleFetch`: the address of the client, or an error. -/
def Fetch.begin (message : Fetch) : Fetching × EndpointID :=
  match newEndpointID message.endpointID with
  | .ok address => (.fresh, address)
  | .error fault => (⟨[], some fault⟩, ⟨none⟩)

omit [Msgpack] in
theorem Fetch.begin_allBundles (message : Fetch) : message.begin.1.allBundles = [] := by
  unfold Fetch.begin
  split <;> rfl

/-- Each of the three mailboxes is visited in an order of its own. -/
def RECAgent.handleFetch [Sha256] [Badgerhold] [Cboring] [Crc16] [Ed25519] (agent : RECAgent)
    (bst : BundleStore) (now : Time) (unicast multicast broadcast : RangeOrder BundleID)
    (message : Fetch) : Go FetchReply × RECAgent :=
  let start := message.begin
  let fetched := agent.fetchAll bst now start.1
    [(start.2, unicast), (agent.multicastAddress message.nodeType, multicast),
      (agent.broadcastAddress, broadcast)]
  (fetched.1.reply, fetched.2)

end

/-- Every payload counts as some data. -/
@[reducible] def Msgpack.accepting : Msgpack where
  unmarshalBundleData payload := .ok ⟨0, [], [], payload, true, [], 0, [], []⟩

/-- An agent with one client of its own, `dtn://executor/`. -/
def executorAgent : RECAgent :=
  ((RECAgent.new.toOption.getD ⟨.new, ⟨none⟩, ∅⟩).handleRegister
    (ascii "dtn://executor/")).2

theorem executorAgent_idle (eid : EndpointID) (bid : BundleID) :
    ¬executorAgent.mailboxes.Holds eid bid := by
  have made : RECAgent.new = .ok (RECAgent.new.toOption.getD ⟨.new, ⟨none⟩, ∅⟩) := by rfl
  intro held
  exact RECAgent.idle_of_new made eid bid (RECAgent.holds_handleRegister.mp held)

end RecDtn.Agent
