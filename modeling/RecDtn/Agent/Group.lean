import RecDtn.Agent.Delivery

/-! Bundles for a group of nodes, whose endpoints share one mailbox. -/

namespace RecDtn.Agent

open Lang Bpv7 Store List Go

/-- The nodes that a bundle can be sent to together. -/
inductive Group where
  | everyone
  | nodes (nodeType : RECNodeType)

def Group.Includes : Group → RECNodeType → Prop
  | .everyone, _ => True
  | .nodes nodeType, other => other = nodeType

def RECAgent.groupAddress (agent : RECAgent) : Group → EndpointID
  | .everyone => agent.broadcastAddress
  | .nodes nodeType => agent.multicastAddress nodeType

variable {reply : FetchReply}

section

variable [Sha256] [Badgerhold] [Cboring] [Crc16] [Ed25519] {bst : BundleStore} {now : Time}

namespace RECAgent

/-- A fetch that looks into these mailboxes one after the other gets as far as
this one: it can be read, and so can those before it. -/
def Opens (agent : RECAgent) (bst : BundleStore) (now : Time) (mailbox : EndpointID) :
    List EndpointID → Prop
  | [] => False
  | address :: rest =>
    agent.Readable bst now address ∧ (mailbox = address ∨ agent.Opens bst now mailbox rest)

variable {agent other : RECAgent} {fetching : Fetching} {mailbox : EndpointID}
  {addresses : List EndpointID}

theorem opens_congr (same : ∀ address, other.Readable bst now address ↔
    agent.Readable bst now address) :
    other.Opens bst now mailbox addresses ↔ agent.Opens bst now mailbox addresses := by
  induction addresses with
  | nil => rfl
  | cons address rest ih => rw [Opens, Opens, same, ih]

theorem Opens.mem (opens : agent.Opens bst now mailbox addresses) : mailbox ∈ addresses := by
  induction addresses with
  | nil => exact opens.elim
  | cons address rest ih =>
    rcases opens.2 with rfl | later
    · exact mem_cons_self
    · exact mem_cons_of_mem _ (ih later)

theorem opens_of_readable (readable : ∀ address ∈ addresses, agent.Readable bst now address)
    (member : mailbox ∈ addresses) : agent.Opens bst now mailbox addresses := by
  induction addresses with
  | nil => cases member
  | cons address rest ih =>
    refine ⟨readable address mem_cons_self, ?_⟩
    rcases mem_cons.mp member with same | later
    · exact .inl same
    · exact .inr (ih (fun next listed => readable next (mem_cons_of_mem _ listed)) later)

/-- A fetch empties the mailboxes that it gets to. -/
theorem holds_fetchAll {stages : List (EndpointID × RangeOrder BundleID)}
    (fine : fetching.err = none)
    (eid : EndpointID) (bid : BundleID) :
    (fetchAll bst now agent fetching stages).2.mailboxes.Holds eid bid ↔
      ¬agent.Opens bst now eid (stages.map Prod.fst) ∧ agent.mailboxes.Holds eid bid := by
  induction stages generalizing agent fetching with
  | nil => simp [fetchAll, Opens]
  | cons stage rest ih =>
    by_cases readable : agent.Readable bst now stage.1
    · have first := fetchFrom_of_readable fine readable stage.2
      have later : (agent.fetchFrom bst now fetching stage.1 stage.2).2.Opens bst now eid (rest.map Prod.fst) ↔
          agent.Opens bst now eid (rest.map Prod.fst) := opens_congr first.readable
      rw [fetchAll, ih first.err, later, first.holds, map_cons, Opens]
      tauto
    · obtain ⟨⟨fault, failed⟩, -, holds⟩ := fetchFrom_of_not_readable fine readable stage.2
      rw [fetchAll, fetchAll_of_err failed, holds, map_cons, Opens]
      tauto

end RECAgent

variable [Msgpack]

/-- The bundle with this ID can be loaded, and its payload is one to decode,
whether that succeeds or not. -/
def Carried (bst : BundleStore) (now : Time) (bid : BundleID) : Prop :=
  ∃ bd bndl data, bst.getBundleDescriptor bid = .ok bd ∧ bst.load now bd = .ok bndl ∧
    decodePayload bndl = .ok data

variable {retrieved : Retrieved} {bundles : List Retrieved}

theorem Retrieved.From.carried_iff (origin : retrieved.From bst now) :
    Carried bst now retrieved.bid ↔ ∃ data, decodePayload retrieved.bundle = .ok data := by
  rw [← origin.exists_iff fun bndl => ∃ data, decodePayload bndl = .ok data]
  simp only [Carried, exists_and_left]

omit [Sha256] [Badgerhold] [Cboring] [Crc16] [Ed25519] in
theorem exists_decodeAll_iff : (∃ allBundleData, decodeAll bundles = .ok allBundleData) ↔
    ∀ retrieved ∈ bundles, ∃ data, decodePayload retrieved.bundle = .ok data := by
  induction bundles with
  | nil => simp [decodeAll]
  | cons head rest ih =>
    rw [forall_mem_cons, ← ih]
    constructor
    · rintro ⟨allBundleData, decoded⟩
      obtain ⟨data, first, decoded⟩ := bind_eq_ok.mp decoded
      obtain ⟨others, later, -⟩ := bind_eq_ok.mp decoded
      exact ⟨⟨data, first⟩, ⟨others, later⟩⟩
    · rintro ⟨⟨data, first⟩, ⟨others, later⟩⟩
      refine ⟨data.toList ++ others, ?_⟩
      rw [decodeAll, first, later]
      rfl

namespace Fetching

omit [Sha256] [Badgerhold] [Cboring] [Crc16] [Ed25519]

variable {fetching : Fetching}

theorem handed_of_err {fault : Wire.Fault GoError} (failed : fetching.err = some fault) :
    fetching.handed = [] := by
  unfold handed
  split
  · rfl
  · rename_i reply answered
    rw [reply_of_err failed answered]
    rfl

theorem mem_handed (fine : fetching.err = none) :
    retrieved ∈ fetching.handed ↔ retrieved ∈ fetching.allBundles ∧
      (∀ other ∈ fetching.allBundles, ∃ data, decodePayload other.bundle = .ok data) ∧
      ∃ data, decodePayload retrieved.bundle = .ok (some data) := by
  have decoded : (decodePayload retrieved.bundle).toOption.join.isSome ↔
      ∃ data, decodePayload retrieved.bundle = .ok (some data) := by
    rcases decodePayload retrieved.bundle with fault | none | data <;> simp [Except.toOption]
  rw [← exists_decodeAll_iff, ← decoded]
  cases all : decodeAll fetching.allBundles with
  | error fault => simp [handed, reply, fine, all]
  | ok allBundleData => simp [handed, reply, fine, all]

/-- What the client will see of a bundle, if anything. -/
def seen (retrieved : Retrieved) : Option BundleData := (decodePayload retrieved.bundle).toOption.join

theorem decodeAll_eq {allBundleData : List BundleData}
    (decoded : decodeAll bundles = .ok allBundleData) : allBundleData = bundles.filterMap seen := by
  induction bundles generalizing allBundleData with
  | nil => exact (Except.ok.inj decoded).symm
  | cons head rest ih =>
    obtain ⟨data, first, decoded⟩ := bind_eq_ok.mp decoded
    obtain ⟨others, later, decoded⟩ := bind_eq_ok.mp decoded
    obtain rfl := Except.ok.inj decoded
    have own : seen head = data := by
      unfold seen
      rw [first]
      rfl
    rw [ih later]
    cases data with
    | none => rw [filterMap_cons_none own, Option.toList_none, nil_append]
    | some data => rw [filterMap_cons_some own, Option.toList_some, singleton_append]

/-- The reply has the data of the bundles that are handed over, and no more. -/
theorem reply_bundles (answered : fetching.reply = .ok reply) :
    reply.bundles = fetching.handed.filterMap seen := by
  cases state : fetching.err with
  | none =>
    cases all : decodeAll fetching.allBundles with
    | error fault => simp [Fetching.reply, state, all] at answered
    | ok allBundleData =>
      have made : FetchReply.mk ⟨true, none⟩ allBundleData = reply := by
        simpa [Fetching.reply, state, all] using answered
      subst made
      rw [handed, answered, decodeAll_eq all]
      simp only [↓reduceIte, filterMap_filter]
      apply filterMap_congr
      intro retrieved _
      cases shown : seen retrieved with
      | none => simp
      | some data => simp [show (decodePayload retrieved.bundle).toOption.join = some data from shown]
  | some fault =>
    rw [handed_of_err state, filterMap_nil]
    cases fault with
    | error cause =>
      obtain rfl : FetchReply.mk ⟨false, some cause⟩ [] = reply := by
        simpa [Fetching.reply, state] using answered
      rfl
    | panic => simp [Fetching.reply, state] at answered
    | spin => simp [Fetching.reply, state] at answered

end Fetching

end

section

variable [Sha256] [Badgerhold]

/-- `Deliver`. -/
def RECAgent.deliver (agent : RECAgent) (bst : BundleStore) (ref : Ref) : Go Unit × RECAgent :=
  let delivered := agent.mailboxes.deliver bst ref
  (delivered.1, { agent with mailboxes := delivered.2 })

/-- A message that asks for bundles, the store and the time at which it is
handled, and the orders in which the mailboxes are visited. -/
structure Poll where
  message : Fetch
  store : BundleStore
  now : Time
  unicast : RangeOrder BundleID
  multicast : RangeOrder BundleID
  broadcast : RangeOrder BundleID

/-- The messages that change the agent. -/
inductive ClientCall where
  | register (endpointID : List UInt8)
  | fetch (poll : Poll)

variable [Cboring] [Crc16] [Ed25519] [Msgpack]

namespace Poll

variable (poll : Poll) (agent : RECAgent)

def client : Option EndpointID := (newEndpointID poll.message.endpointID).toOption

def fetched : Fetching × RECAgent :=
  agent.fetchAll poll.store poll.now poll.message.begin.1
    [(poll.message.begin.2, poll.unicast),
      (agent.multicastAddress poll.message.nodeType, poll.multicast),
      (agent.broadcastAddress, poll.broadcast)]

/-- The bundles whose data are in the reply. -/
def handed : List Retrieved := (poll.fetched agent).1.handed

/-- The fetch gets as far as this mailbox. -/
def Opens (mailbox : EndpointID) : Prop :=
  ∃ client, poll.client = some client ∧
    agent.Opens poll.store poll.now mailbox (agent.addresses client poll.message.nodeType)

/-- The fetch can read all its mailboxes, no payload makes it panic, and the
one of this bundle can be decoded. -/
structure Answers (bid : BundleID) : Prop where
  readable : ∀ client, poll.client = some client →
    ∀ address ∈ agent.addresses client poll.message.nodeType,
      agent.Readable poll.store poll.now address
  carried : ∀ client, poll.client = some client →
    ∀ address ∈ agent.addresses client poll.message.nodeType,
    ∀ other, agent.mailboxes.Holds address other → Carried poll.store poll.now other
  decodes : ∃ data, Decodes poll.store poll.now bid data

end Poll

namespace RECAgent

def step (agent : RECAgent) : ClientCall → RECAgent
  | .register endpointID => (agent.handleRegister endpointID).2
  | .fetch poll =>
    (agent.handleFetch poll.store poll.now poll.unicast poll.multicast poll.broadcast poll.message).2

end RECAgent

/-- The reply to the client, if the call is a fetch of its own. -/
def ClientCall.replies (agent : RECAgent) (client : EndpointID) : ClientCall → List (List Retrieved)
  | .register _ => []
  | .fetch poll => if poll.client = some client then [poll.handed agent] else []

namespace RECAgent

def replies (agent : RECAgent) (client : EndpointID) : List ClientCall → List (List Retrieved)
  | [] => []
  | call :: rest => call.replies agent client ++ (agent.step call).replies client rest

/-- How many of its replies have the bundle. -/
def copies (agent : RECAgent) (client : EndpointID) (bid : BundleID)
    (calls : List ClientCall) : Nat :=
  (agent.replies client calls).countP fun reply => bid ∈ reply.map Retrieved.bid

end RECAgent

/-- The endpoint fetches as a member of the group while the bundle is in the
store. -/
def Attends (calls : List ClientCall) (group : Group) (bid : BundleID) (client : EndpointID) : Prop :=
  ∃ poll, .fetch poll ∈ calls ∧ poll.client = some client ∧
    group.Includes poll.message.nodeType ∧ Loadable poll.store poll.now bid

/-- Each registered endpoint that attends gets the bundle in one of its
replies, and only in one. -/
def ReachesMembers (agent : RECAgent) (group : Group) (bid : BundleID)
    (calls : List ClientCall) : Prop :=
  ∀ client ∈ agent.mailboxes.mailboxes, Attends calls group bid client →
    agent.copies client bid calls = 1

/-- The fetch does not get to the mailbox. -/
def LeavesShut (mailbox : EndpointID) (agent : RECAgent) : ClientCall → Prop
  | .register _ => True
  | .fetch poll => ¬poll.Opens agent mailbox

/-- The first fetch that gets to the mailbox of the group gives the bundle to
its client, and no other registered endpoint attends. -/
def OneMember (agent : RECAgent) (group : Group) (bid : BundleID) (calls : List ClientCall) : Prop :=
  ∃ before poll after, calls = before ++ .fetch poll :: after ∧
    Guarded RECAgent.step (LeavesShut (agent.groupAddress group)) agent before ∧
    poll.Opens (run RECAgent.step agent before) (agent.groupAddress group) ∧
    poll.Answers (run RECAgent.step agent before) bid ∧
    ∀ client ∈ agent.mailboxes.mailboxes, Attends calls group bid client →
      poll.client = some client

/-- After these calls, the fetch is the first that gets to one of the mailboxes in which the
bundle has waited from the start, and it is answered. -/
def Collects (agent : RECAgent) (bid : BundleID) (before : List ClientCall) (poll : Poll) : Prop :=
  (∃ mailbox, agent.mailboxes.Holds mailbox bid ∧
    Guarded RECAgent.step (LeavesShut mailbox) agent before ∧
    poll.Opens (run RECAgent.step agent before) mailbox) ∧
  poll.Answers (run RECAgent.step agent before) bid

def CollectsOnce (agent : RECAgent) (bid : BundleID) (calls : List ClientCall)
    (client : EndpointID) : Prop :=
  ∃! position, ∃ poll, calls[position]? = some (.fetch poll) ∧ poll.client = some client ∧
    Collects agent bid (calls.take position) poll

section

variable {poll : Poll} {agent : RECAgent} {client : EndpointID} {bid : BundleID}

namespace Poll

omit [Msgpack] in
theorem fetched_of_client (agent : RECAgent) (parsed : poll.client = some client) :
    ∃ stages, stages.map Prod.fst = agent.addresses client poll.message.nodeType ∧
      poll.fetched agent = agent.fetchAll poll.store poll.now Fetching.fresh stages := by
  have address : newEndpointID poll.message.endpointID = .ok client := by
    unfold Poll.client at parsed
    cases made : newEndpointID poll.message.endpointID with
    | error fault => simp [made, Except.toOption] at parsed
    | ok eid => simpa [made, Except.toOption] using parsed
  refine ⟨[(client, poll.unicast), (agent.multicastAddress poll.message.nodeType, poll.multicast),
    (agent.broadcastAddress, poll.broadcast)], rfl, ?_⟩
  simp only [fetched, Fetch.begin, address]

omit [Msgpack] in
theorem fetched_of_no_client (agent : RECAgent) (failed : poll.client = none) :
    ∃ fault, poll.fetched agent = (⟨[], some fault⟩, agent) := by
  cases made : newEndpointID poll.message.endpointID with
  | ok eid => simp [Poll.client, made, Except.toOption] at failed
  | error fault =>
    refine ⟨fault, ?_⟩
    simp only [fetched, Fetch.begin, made]
    exact RECAgent.fetchAll_of_err rfl _

theorem handleFetch_bundles (answered : (agent.handleFetch poll.store poll.now
    poll.unicast poll.multicast poll.broadcast poll.message).1 = .ok reply) :
    reply.bundles = (poll.handed agent).filterMap Fetching.seen := by
  exact Fetching.reply_bundles answered

/-- A fetch empties the mailboxes that it gets to. -/
theorem holds_step (eid : EndpointID) : (agent.step (.fetch poll)).mailboxes.Holds eid bid ↔
    ¬poll.Opens agent eid ∧ agent.mailboxes.Holds eid bid := by
  change (poll.fetched agent).2.mailboxes.Holds eid bid ↔ _
  cases parsed : poll.client with
  | none =>
    obtain ⟨fault, result⟩ := fetched_of_no_client agent parsed
    simp [Opens, parsed, result]
  | some client =>
    obtain ⟨stages, listed, result⟩ := fetched_of_client agent parsed
    rw [result, RECAgent.holds_fetchAll rfl, listed]
    simp [Opens, parsed]

/-- The bundle is in the reply if it waits in one of the mailboxes and nothing
fails. -/
theorem mem_handed_iff (parsed : poll.client = some client) :
    bid ∈ (poll.handed agent).map Retrieved.bid ↔ poll.Answers agent bid ∧
      ∃ address ∈ agent.addresses client poll.message.nodeType, agent.mailboxes.Holds address bid := by
  obtain ⟨stages, listed, result⟩ := fetched_of_client agent parsed
  have own : ∀ other, poll.client = some other →
      agent.addresses other poll.message.nodeType = stages.map Prod.fst := by
    intro other same
    obtain rfl := Option.some.inj (parsed.symm.trans same)
    exact listed.symm
  unfold handed
  rw [result, ← listed]
  by_cases readable : ∀ address ∈ stages.map Prod.fst, agent.Readable poll.store poll.now address
  · have cleared := RECAgent.fetchAll_of_readable Fetching.fresh_err readable
    obtain ⟨added, bundles, each, bids⟩ := cleared.bundles
    rw [Fetching.fresh, nil_append] at bundles
    constructor
    · intro member
      obtain ⟨retrieved, taken, rfl⟩ := mem_map.mp member
      obtain ⟨taken, payloads, data, decoded⟩ := (Fetching.mem_handed cleared.err).mp taken
      rw [Fetching.fresh, bundles] at taken payloads
      refine ⟨⟨?_, ?_, data, (each retrieved taken).decodes_iff.mpr decoded⟩,
        (bids retrieved.bid).mp (mem_map_of_mem taken)⟩
      · intro other same
        rwa [own other same]
      · intro other same address visited waiting held
        rw [own other same] at visited
        obtain ⟨second, also, rfl⟩ := mem_map.mp ((bids waiting).mpr ⟨address, visited, held⟩)
        exact (each second also).carried_iff.mpr (payloads second also)
    · rintro ⟨⟨-, carried, data, decodes⟩, waiting⟩
      obtain ⟨retrieved, taken, rfl⟩ := mem_map.mp ((bids bid).mpr waiting)
      apply mem_map_of_mem
      rw [Fetching.mem_handed cleared.err, Fetching.fresh, bundles]
      refine ⟨taken, ?_, data, (each retrieved taken).decodes_iff.mp decodes⟩
      intro other also
      obtain ⟨address, visited, held⟩ := (bids other.bid).mp (mem_map_of_mem also)
      rw [← own client parsed] at visited
      exact (each other also).carried_iff.mp (carried client parsed address visited other.bid held)
  · obtain ⟨fault, failed⟩ := RECAgent.fetchAll_fails Fetching.fresh_err readable
    rw [Fetching.handed_of_err failed]
    refine iff_of_false (not_mem_nil) ?_
    rintro ⟨answers, -⟩
    apply readable
    rw [← own client parsed]
    exact answers.readable client parsed

end Poll

namespace RECAgent

/-- The bundle waits in this mailbox and in no other one. -/
def OnlyIn (agent : RECAgent) (mailbox : EndpointID) (bid : BundleID) : Prop :=
  ∀ eid, agent.mailboxes.Holds eid bid ↔ eid = mailbox

/-- The bundle does not wait any more. -/
def Taken (agent : RECAgent) (bid : BundleID) : Prop := ∀ eid, ¬agent.mailboxes.Holds eid bid

variable {mailbox : EndpointID} {call : ClientCall} {calls rest : List ClientCall}

/-- The bundle waits as long as nobody gets to the mailbox. -/
theorem holds_run : (run step agent calls).mailboxes.Holds mailbox bid ↔
    agent.mailboxes.Holds mailbox bid ∧ Guarded step (LeavesShut mailbox) agent calls := by
  induction calls generalizing agent with
  | nil => exact (and_iff_left guarded_nil).symm
  | cons call rest ih =>
    rw [run_cons, ih, guarded_cons]
    cases call with
    | register endpointID =>
      have same : (agent.step (.register endpointID)).mailboxes.Holds mailbox bid ↔
          agent.mailboxes.Holds mailbox bid := holds_handleRegister
      rw [same, LeavesShut, true_and]
    | fetch poll => rw [Poll.holds_step, LeavesShut, and_assoc, and_left_comm]

theorem collects_iff (parsed : poll.client = some client) : Collects agent bid calls poll ↔
    bid ∈ (poll.handed (run step agent calls)).map Retrieved.bid := by
  rw [Poll.mem_handed_iff parsed, Collects, and_comm, and_congr_right_iff]
  intro answers
  constructor
  · rintro ⟨address, held, shut, other, same, opens⟩
    cases parsed.symm.trans same
    exact ⟨address, opens.mem, holds_run.mpr ⟨held, shut⟩⟩
  · rintro ⟨address, visited, held⟩
    obtain ⟨before, shut⟩ := holds_run.mp held
    exact ⟨address, before, shut, client, parsed,
      opens_of_readable (answers.readable client parsed) visited⟩

/-- The call at this place hands the bundle to the client. -/
def Hands (agent : RECAgent) (client : EndpointID) (bid : BundleID) (calls : List ClientCall)
    (position : Nat) : Prop :=
  ∃ poll, calls[position]? = some (.fetch poll) ∧ poll.client = some client ∧
    bid ∈ (poll.handed (run step agent (calls.take position))).map Retrieved.bid

theorem copies_cons (agent : RECAgent) (client : EndpointID) (bid : BundleID) (call : ClientCall)
    (rest : List ClientCall) : agent.copies client bid (call :: rest) =
      agent.copies client bid [call] + (agent.step call).copies client bid rest := by
  simp [copies, replies]

theorem copies_call (agent : RECAgent) (client : EndpointID) (bid : BundleID) (call : ClientCall)
    (rest : List ClientCall) : agent.Hands client bid (call :: rest) 0 ∧
        agent.copies client bid [call] = 1 ∨
      ¬agent.Hands client bid (call :: rest) 0 ∧ agent.copies client bid [call] = 0 := by
  cases call with
  | register endpointID =>
    refine .inr ⟨?_, rfl⟩
    rintro ⟨poll, same, -⟩
    cases same
  | fetch poll =>
    have first : agent.Hands client bid (.fetch poll :: rest) 0 ↔
        poll.client = some client ∧ bid ∈ (poll.handed agent).map Retrieved.bid := by
      simp [Hands]
    rw [first]
    by_cases own : poll.client = some client <;>
      by_cases handed : bid ∈ (poll.handed agent).map Retrieved.bid <;>
        simp [copies, replies, ClientCall.replies, own, handed, -mem_map]

theorem copies_eq_zero_iff : agent.copies client bid calls = 0 ↔
    ∀ position, ¬agent.Hands client bid calls position := by
  induction calls generalizing agent with
  | nil => simp [copies, replies, Hands]
  | cons call rest ih =>
    rw [copies_cons, Nat.add_eq_zero_iff, ih]
    constructor
    · rintro ⟨none, later⟩ position hands
      cases position with
      | zero =>
        obtain ⟨-, one⟩ | ⟨missing, -⟩ := copies_call agent client bid call rest
        · rw [one] at none
          cases none
        · exact missing hands
      | succ position => exact later position hands
    · intro never
      obtain ⟨hands, -⟩ | ⟨-, none⟩ := copies_call agent client bid call rest
      · exact absurd hands (never 0)
      · exact ⟨none, fun position => never (position + 1)⟩

theorem copies_eq_one_iff : agent.copies client bid calls = 1 ↔
    ∃! position, agent.Hands client bid calls position := by
  induction calls generalizing agent with
  | nil => simp [copies, replies, Hands, ExistsUnique]
  | cons call rest ih =>
    rw [copies_cons]
    obtain ⟨hands, one⟩ | ⟨missing, none⟩ := copies_call agent client bid call rest
    · rw [one, Nat.add_eq_left, copies_eq_zero_iff]
      constructor
      · intro never
        refine ⟨0, hands, fun position again => ?_⟩
        cases position with
        | zero => rfl
        | succ position => exact absurd again (never position)
      · rintro ⟨first, -, only⟩ position again
        cases (only 0 hands).trans (only (position + 1) again).symm
    · rw [none, Nat.zero_add, ih]
      constructor
      · rintro ⟨position, later, only⟩
        refine ⟨position + 1, later, fun other again => ?_⟩
        cases other with
        | zero => exact absurd again missing
        | succ other => rw [only other again]
      · rintro ⟨position, later, only⟩
        cases position with
        | zero => exact absurd later missing
        | succ position =>
          exact ⟨position, later, fun other again => Nat.succ_injective (only (other + 1) again)⟩

theorem copies_iff_collectsOnce :
    agent.copies client bid calls = 1 ↔ CollectsOnce agent bid calls client := by
  rw [copies_eq_one_iff, CollectsOnce]
  refine existsUnique_congr fun position => exists_congr fun poll => and_congr_right fun _ => ?_
  exact and_congr_right fun parsed => (collects_iff parsed).symm

/-- Nobody was at the mailbox before the first who gets there. -/
theorem shut_of_lt {first second : Nat} (earlier : first < second)
    (there : calls[first]? = some (.fetch poll))
    (shut : Guarded step (LeavesShut mailbox) agent (calls.take second)) :
    ¬poll.Opens (run step agent (calls.take first)) mailbox := by
  refine shut (calls.take first) (.fetch poll) ((calls.take second).drop (first + 1)) ?_
  obtain ⟨bound, same⟩ := List.getElem?_eq_some_iff.mp there
  have inside : first < (calls.take second).length := by
    rw [length_take]
    omega
  calc calls.take second = (calls.take second).take first ++ (calls.take second).drop first :=
        (take_append_drop _ _).symm
    _ = calls.take first ++ .fetch poll :: (calls.take second).drop (first + 1) := by
        rw [take_take, Nat.min_eq_left earlier.le, drop_eq_getElem_cons inside,
          getElem_take, same]

/-- In a mailbox alone, the bundle goes to the first who gets there. -/
theorem OnlyIn.collects_iff (only : agent.OnlyIn mailbox bid) : Collects agent bid calls poll ↔
    Guarded step (LeavesShut mailbox) agent calls ∧
      poll.Opens (run step agent calls) mailbox ∧ poll.Answers (run step agent calls) bid := by
  rw [Collects]
  constructor
  · rintro ⟨⟨address, held, shut, opens⟩, answers⟩
    cases (only address).mp held
    exact ⟨shut, opens, answers⟩
  · rintro ⟨shut, opens, answers⟩
    exact ⟨⟨mailbox, (only mailbox).mpr rfl, shut, opens⟩, answers⟩

/-- Two who are the first at the mailbox are the same. -/
theorem OnlyIn.position_unique (only : agent.OnlyIn mailbox bid) {first second : Nat} {other : Poll}
    (there : calls[first]? = some (.fetch poll)) (also : calls[second]? = some (.fetch other))
    (collects : Collects agent bid (calls.take first) poll)
    (again : Collects agent bid (calls.take second) other) : first = second := by
  obtain ⟨shut, opens, -⟩ := only.collects_iff.mp collects
  obtain ⟨otherShut, otherOpens, -⟩ := only.collects_iff.mp again
  rcases Nat.lt_trichotomy first second with before | same | after
  · exact absurd opens (shut_of_lt before there otherShut)
  · exact same
  · exact absurd otherOpens (shut_of_lt after also shut)

theorem OnlyIn.collectsOnce_iff (only : agent.OnlyIn mailbox bid) :
    CollectsOnce agent bid calls client ↔
      ∃ position poll, calls[position]? = some (.fetch poll) ∧
      poll.client = some client ∧ Collects agent bid (calls.take position) poll := by
  constructor
  · rintro ⟨position, ⟨poll, there, parsed, collects⟩, -⟩
    exact ⟨position, poll, there, parsed, collects⟩
  · rintro ⟨position, poll, there, parsed, collects⟩
    refine ⟨position, ⟨poll, there, parsed, collects⟩, ?_⟩
    rintro other ⟨second, also, -, again⟩
    exact only.position_unique also there again collects

section

omit [Cboring] [Crc16] [Ed25519] [Msgpack]

variable {bst : BundleStore} {ref : Ref}

theorem groupAddress_deliver (group : Group) :
    (agent.deliver bst ref).2.groupAddress group = agent.groupAddress group := by
  cases group <;> rfl

/-- A bundle that is new to the agent waits for its addressee after it has been
delivered. -/
theorem onlyIn_of_delivered (addressed : agent.mailboxes.addressee bst ref = .ok (mailbox, bid))
    (delivered : (agent.deliver bst ref).1 = .ok ()) (unknown : agent.Taken bid) :
    (agent.deliver bst ref).2.OnlyIn mailbox bid := by
  have result : (agent.mailboxes.deliver bst ref) = agent.mailboxes.deliverTo bst mailbox bid := by
    rw [MailboxBank.deliver, addressed]
  have answered : (agent.mailboxes.deliverTo bst mailbox bid).1 = .ok () := by
    rw [← result]
    exact delivered
  change ∀ eid, (agent.mailboxes.deliver bst ref).2.Holds eid bid ↔ eid = mailbox
  intro eid
  rw [result]
  constructor
  · intro held
    rcases MailboxBank.holds_deliverTo held with before | ⟨same, -⟩
    · exact absurd before (unknown eid)
    · exact same
  · rintro rfl
    exact MailboxBank.holds_of_deliverTo answered

end

end RECAgent

namespace RECAgent

/-- If the bundle waits for the group alone, there can be only one who gets it. -/
theorem OnlyIn.reaches_iff {group : Group} {calls : List ClientCall}
    (only : agent.OnlyIn (agent.groupAddress group) bid) :
    ReachesMembers agent group bid calls ↔
      (∀ client ∈ agent.mailboxes.mailboxes, ¬Attends calls group bid client) ∨
        OneMember agent group bid calls := by
  simp only [ReachesMembers, copies_iff_collectsOnce, only.collectsOnce_iff]
  constructor
  · intro reaches
    by_cases nobody : ∀ client ∈ agent.mailboxes.mailboxes, ¬Attends calls group bid client
    · exact .inl nobody
    · push Not at nobody
      obtain ⟨client, registered, attends⟩ := nobody
      obtain ⟨position, poll, there, parsed, collects⟩ := reaches client registered attends
      obtain ⟨bound, same⟩ := List.getElem?_eq_some_iff.mp there
      obtain ⟨shut, opens, answers⟩ := only.collects_iff.mp collects
      refine .inr ⟨calls.take position, poll, calls.drop (position + 1), ?_, shut, opens, answers, ?_⟩
      · rw [← same, ← drop_eq_getElem_cons bound, take_append_drop]
      · intro other otherRegistered otherAttends
        obtain ⟨place, second, also, otherParsed, again⟩ := reaches other otherRegistered otherAttends
        cases only.position_unique there also collects again
        cases there.symm.trans also
        exact otherParsed
  · rintro (nobody | ⟨before, poll, later, rfl, shut, opens, answers, own⟩)
      client registered attends
    · exact absurd attends (nobody client registered)
    · refine ⟨before.length, poll, by simp, own client registered attends, ?_⟩
      rw [take_left]
      exact only.collects_iff.mpr ⟨shut, opens, answers⟩

end RECAgent

/-- A bundle for a group reaches its members if there is only one who asks for
it. Whoever comes later finds the mailbox empty. If its ID waits for others too, each of them
has to be the first at one of the mailboxes. -/
theorem reachesMembers_iff_oneMember {bst : BundleStore} {ref : Ref} {group : Group}
    (addressed : agent.mailboxes.addressee bst ref = .ok (agent.groupAddress group, bid))
    (delivered : (agent.deliver bst ref).1 = .ok ()) (calls : List ClientCall) :
    ReachesMembers (agent.deliver bst ref).2 group bid calls ↔
      (agent.Taken bid ∧
        ((∀ client ∈ (agent.deliver bst ref).2.mailboxes.mailboxes, ¬Attends calls group bid client) ∨
          OneMember (agent.deliver bst ref).2 group bid calls)) ∨
      (¬agent.Taken bid ∧ ∀ client ∈ (agent.deliver bst ref).2.mailboxes.mailboxes,
        Attends calls group bid client →
          CollectsOnce (agent.deliver bst ref).2 bid calls client) := by
  by_cases unknown : agent.Taken bid
  · have only : (agent.deliver bst ref).2.OnlyIn ((agent.deliver bst ref).2.groupAddress group) bid := by
      rw [RECAgent.groupAddress_deliver]
      exact RECAgent.onlyIn_of_delivered addressed delivered unknown
    simp only [unknown, true_and, not_true, false_and, or_false, only.reaches_iff]
  · simp only [unknown, false_and, not_false_eq_true, true_and, false_or, ReachesMembers,
      RECAgent.copies_iff_collectsOnce]

end

end

open scoped Samples

attribute [local instance] Msgpack.accepting

/-- A bundle for everyone. -/
def announcement : Bundle where
  primaryBlock :=
    { primaryTo executorAgent.broadcastAddress CRCType.crcNo with
      creationTimestamp := ⟨5, 6⟩
      lifetime := 1099511627776 }
  extensionBlocks := []
  payloadBlock := ⟨1, 0, CRCType.crcNo, [], some (.payload [7])⟩

def announced : BundleStore :=
  ((BundleStore.empty (nodeEndpoint "broker")).insertBundle .none announcement).2

/-- A second client registers, `dtn://client/`. -/
def sharedAgent : RECAgent := (executorAgent.handleRegister (ascii "dtn://client/")).2

theorem sharedAgent_addressee : sharedAgent.mailboxes.addressee announced 0 =
    .ok (sharedAgent.groupAddress .everyone, announcement.id) := by rfl

theorem sharedAgent_delivered : (sharedAgent.deliver announced 0).1 = .ok () := by rfl

theorem sharedAgent_idle : sharedAgent.Taken announcement.id := by
  intro eid held
  exact executorAgent_idle eid announcement.id (RECAgent.holds_handleRegister.mp held)

def executorPoll : Poll :=
  ⟨⟨ascii "dtn://executor/", RECNodeType.executor⟩, announced, october, .asStored,
    .asStored, .asStored⟩

def clientPoll : Poll :=
  ⟨⟨ascii "dtn://client/", RECNodeType.client⟩, announced, october, .asStored,
    .asStored, .asStored⟩

theorem announcement_loadable : Loadable announced october announcement.id := by
  have loads : (announced.load october 0).toBool = true := by decide +kernel
  obtain ⟨bundle, loaded⟩ := toBool_iff.mp loads
  exact ⟨0, bundle, rfl, loaded⟩

theorem executorPoll_reachesMembers :
    ReachesMembers (sharedAgent.deliver announced 0).2 .everyone announcement.id
      [.fetch executorPoll] ∧
      OneMember (sharedAgent.deliver announced 0).2 .everyone announcement.id [.fetch executorPoll] := by
  have reaches : ReachesMembers (sharedAgent.deliver announced 0).2 .everyone announcement.id
      [.fetch executorPoll] := by
    rintro client - ⟨poll, asked, parsed, -⟩
    obtain rfl : poll = executorPoll := by simpa using asked
    obtain rfl : nodeEndpoint "executor" = client := Option.some.inj parsed
    decide +kernel
  refine ⟨reaches, ?_⟩
  rcases (reachesMembers_iff_oneMember sharedAgent_addressee sharedAgent_delivered _).mp reaches with
    ⟨-, nobody | one⟩ | ⟨known, -⟩
  · exact absurd ⟨executorPoll, by simp, rfl, trivial, announcement_loadable⟩
      (nobody (nodeEndpoint "executor") (by decide +kernel))
  · exact one
  · exact absurd sharedAgent_idle known

/-- The second client finds the mailbox empty. -/
theorem secondPoll_not_reachesMembers : (sharedAgent.deliver announced 0).1 = .ok () ∧
    ¬ReachesMembers (sharedAgent.deliver announced 0).2 .everyone announcement.id
      [.fetch executorPoll, .fetch clientPoll] := by
  refine ⟨sharedAgent_delivered, ?_⟩
  intro reaches
  have once := reaches (nodeEndpoint "client") (by decide +kernel)
    ⟨clientPoll, by simp, rfl, trivial, announcement_loadable⟩
  have never : (sharedAgent.deliver announced 0).2.copies (nodeEndpoint "client") announcement.id
      [.fetch executorPoll, .fetch clientPoll] = 0 := by decide +kernel
  rw [never] at once
  cases once

end RecDtn.Agent
