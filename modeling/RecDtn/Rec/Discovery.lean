import RecDtn.Lang.Run
import RecDtn.Rec.Broker

/-! Nodes that find each other over a network that loses, repeats and reorders bundles. -/

namespace RecDtn.Rec

open Python Lang BundleType List

section

variable [Unicode]

inductive Party where
  | broker (state : Broker)
  | node (state : Node)

namespace Party

def core : Party → Node
  | broker state => state.toNode
  | node state => state

/-- The party after a discovery bundle, and the replies that it sends. -/
def handle : Party → BundleData → Party × List BundleData
  | broker state, bundle =>
    let acted := state.handleDiscovery bundle
    (broker acted.broker, acted.outcome.toOption.getD [])
  | node state, bundle =>
    let handled := state.handleDiscovery bundle
    (node handled.1, handled.2.toOption.getD [])

end Party

/-- The parties, and every bundle that has ever been sent. -/
structure Network where
  members : Eid → Option Party
  sent : List BundleData

inductive NetworkEvent where
  | deliver (receiver : Eid) (bundle : BundleData)
  | announce (sender : Eid)
  | heartbeat (sender : Eid)

/-- What the party under an endpoint ID is. -/
inductive Role where
  | broker
  | node (nodeType : NodeType)

namespace Network

/-- All parties are fresh. -/
def start (roster : Eid → Option Role) : Network where
  members eid :=
    match roster eid with
    | some .broker => some (.broker (.new eid))
    | some (.node nodeType) => some (.node { nodeId := eid, nodeType })
    | none => none
  sent := []

def turn (network : Network) (eid : Eid) (party : Party) (replies : List BundleData) : Network where
  members := Function.update network.members eid (some party)
  sent := network.sent ++ replies

/-- A bundle that has been sent may come at any time, or not at all, or more than
once, to the endpoint that it is addressed to. -/
def step (network : Network) : NetworkEvent → Network
  | .deliver receiver bundle =>
    if bundle ∈ network.sent ∧
        (bundle.destination = receiver ∨ bundle.destination = Eid.broadcastAddress) then
      match network.members receiver with
      | some party => network.turn receiver (party.handle bundle).1 (party.handle bundle).2
      | none => network
    else network
  | .announce sender =>
    match network.members sender with
    | some (.broker state) =>
      network.turn sender (.broker state) state.announcement.toOption.toList
    | _ => network
  | .heartbeat sender =>
    match network.members sender with
    | some (.node state) => network.turn sender (.node state) (state.heartbeat.toOption.getD [])
    | _ => network

def Associated (network : Network) (eid : Eid) : Prop :=
  ∀ party broker, network.members eid = some party → party.core.broker = some broker →
    ∃ state, network.members broker = some (.broker state) ∧
      eid ∈ state.known party.core.nodeType

end Network

variable {nodes : List Eid} {broker : Eid} {nodeType : NodeType} {eid : Eid}

namespace Broker

theorem mem_known_discover {broker : Broker} {other : NodeType} {member : Eid}
    (found : broker.discoveredNodes.get? nodeType = some nodes) :
    member ∈ (broker.discover nodeType eid nodes).known other ↔
      (other = nodeType ∧ member = eid) ∨ member ∈ broker.known other := by
  unfold discover known
  rw [Dict.get?_set]
  by_cases same : other = nodeType
  · simp [same, found]
  · simp [same]

end Broker

namespace Party

/-- A party stays what it is, keeps its broker, and a broker forgets no node. -/
inductive Follows : Party → Party → Prop where
  | broker {before after : Broker} (core : after.toNode = before.toNode)
      (known : ∀ nodeType eid, eid ∈ before.known nodeType → eid ∈ after.known nodeType) :
      Follows (.broker before) (.broker after)
  | node {before after : Node} (nodeType : after.nodeType = before.nodeType)
      (kept : ∀ broker, before.broker = some broker → after.broker = some broker) :
      Follows (.node before) (.node after)

theorem Follows.refl (party : Party) : Follows party party := by
  cases party with
  | broker state => exact .broker rfl fun _ _ => id
  | node state => exact .node rfl fun _ => id

theorem Follows.keeps {before after : Party} (follows : Follows before after)
    (associated : before.core.broker = some broker) : after.core.broker = some broker := by
  cases follows with
  | broker core _ =>
    simp only [Party.core] at associated ⊢
    rw [core]
    exact associated
  | node _ kept => exact kept broker associated

end Party

namespace Network

/-- What links the parties and the bundles in flight: a request comes from a
node and names its type, and an acknowledgement from a broker that knows the
node it goes to. -/
structure Sound (network : Network) : Prop where
  free : network.members Eid.broadcastAddress = none
  owner : ∀ eid party, network.members eid = some party → party.core.nodeId = eid
  exclusive : ∀ eid party, network.members eid = some party →
    party.core.brokerPending = none ∨ party.core.broker = none
  associated : ∀ eid node, network.members eid = some (.node node) → network.Associated eid
  requests : ∀ bundle ∈ network.sent, bundle.type = brokerRequest →
    ∃ node, network.members bundle.source = some (.node node) ∧ bundle.nodeType = node.nodeType
  acks : ∀ bundle ∈ network.sent, bundle.type = brokerAck →
    bundle.destination ≠ Eid.broadcastAddress ∧
    ∃ state, network.members bundle.source = some (.broker state) ∧
      ∀ node, network.members bundle.destination = some (.node node) →
        bundle.destination ∈ state.known node.nodeType

/-- What the turn of one party has to respect. -/
structure FairTurn (network : Network) (eid : Eid) (before after : Party)
    (replies : List BundleData) : Prop where
  found : network.members eid = some before
  follows : before.Follows after
  owner : after.core.nodeId = eid
  exclusive : after.core.brokerPending = none ∨ after.core.broker = none
  associated : ∀ node, after = .node node → ∀ broker, node.broker = some broker →
    ∃ state, network.members broker = some (.broker state) ∧ eid ∈ state.known node.nodeType
  requests : ∀ reply ∈ replies, reply.type = brokerRequest →
    ∃ node, after = .node node ∧ reply.source = eid ∧ reply.nodeType = node.nodeType
  acks : ∀ reply ∈ replies, reply.type = brokerAck →
    reply.destination ≠ Eid.broadcastAddress ∧
    ∃ state, after = .broker state ∧ reply.source = eid ∧
      ∀ node, network.members reply.destination = some (.node node) →
        reply.destination ∈ state.known node.nodeType

variable {party : Party}

section Turns

variable {network : Network} {eid : Eid} {before after : Party} {replies : List BundleData}

theorem members_turn_self : (network.turn eid after replies).members eid = some after :=
  Function.update_self ..

variable {other : Eid}

theorem members_turn_of_ne (different : other ≠ eid) :
    (network.turn eid after replies).members other = network.members other :=
  Function.update_of_ne different ..

theorem members_of_turn (found : (network.turn eid after replies).members other = some party) :
    (other = eid ∧ party = after) ∨ network.members other = some party := by
  by_cases same : other = eid
  · subst same
    rw [members_turn_self] at found
    cases found
    exact .inl ⟨rfl, rfl⟩
  · rw [members_turn_of_ne same] at found
    exact .inr found

section

variable (fair : network.FairTurn eid before after replies)

include fair

theorem FairTurn.forth (found : network.members other = some party) :
    ∃ next, (network.turn eid after replies).members other = some next ∧ party.Follows next := by
  by_cases same : other = eid
  · subst same
    rw [fair.found] at found
    cases found
    exact ⟨after, members_turn_self, fair.follows⟩
  · rw [members_turn_of_ne same]
    exact ⟨party, found, .refl party⟩

/-- and there is no other one. -/
theorem FairTurn.back {next : Party}
    (found : (network.turn eid after replies).members other = some next) :
    ∃ party, network.members other = some party ∧ party.Follows next := by
  rcases members_of_turn found with ⟨rfl, rfl⟩ | unchanged
  · exact ⟨before, fair.found, fair.follows⟩
  · exact ⟨next, unchanged, .refl next⟩

theorem FairTurn.node_forth {node : Node} (found : network.members other = some (.node node)) :
    ∃ next, (network.turn eid after replies).members other = some (.node next) ∧
      next.nodeType = node.nodeType := by
  obtain ⟨next, there, follows⟩ := fair.forth found
  cases follows with
  | node nodeType kept => exact ⟨_, there, nodeType⟩

theorem FairTurn.broker_forth {state : Broker}
    (found : network.members other = some (.broker state)) :
    ∃ next, (network.turn eid after replies).members other = some (.broker next) ∧
      ∀ nodeType member, member ∈ state.known nodeType → member ∈ next.known nodeType := by
  obtain ⟨next, there, follows⟩ := fair.forth found
  cases follows with
  | broker core known => exact ⟨_, there, known⟩

theorem FairTurn.node_back {next : Node}
    (found : (network.turn eid after replies).members other = some (.node next)) :
    ∃ node, network.members other = some (.node node) ∧ next.nodeType = node.nodeType := by
  obtain ⟨party, there, follows⟩ := fair.back found
  cases follows with
  | node nodeType kept => exact ⟨_, there, nodeType⟩

end

theorem Sound.turn (sound : network.Sound) (fair : network.FairTurn eid before after replies) :
    (network.turn eid after replies).Sound where
  free := by
    have different : Eid.broadcastAddress ≠ eid := by
      rintro rfl
      exact absurd (fair.found.symm.trans sound.free) (by simp)
    rw [members_turn_of_ne different]
    exact sound.free
  owner := by
    intro other party found
    rcases members_of_turn found with ⟨rfl, rfl⟩ | unchanged
    · exact fair.owner
    · exact sound.owner other party unchanged
  exclusive := by
    intro other party found
    rcases members_of_turn found with ⟨rfl, rfl⟩ | unchanged
    · exact fair.exclusive
    · exact sound.exclusive other party unchanged
  associated := by
    intro other node found party broker present chosen
    rw [found] at present
    cases present
    -- the broker knew the node before the turn, and knows it still
    have earlier : ∃ state, network.members broker = some (.broker state) ∧ other ∈ state.known node.nodeType := by
      rcases members_of_turn found with ⟨rfl, same⟩ | unchanged
      · exact fair.associated node same.symm broker chosen
      · exact sound.associated other node unchanged _ broker unchanged chosen
    obtain ⟨state, there, known⟩ := earlier
    obtain ⟨next, still, grown⟩ := fair.broker_forth there
    exact ⟨next, still, grown _ _ known⟩
  requests := by
    intro bundle member request
    rcases mem_append.mp member with old | new
    · obtain ⟨node, there, type⟩ := sound.requests bundle old request
      obtain ⟨next, still, same⟩ := fair.node_forth there
      exact ⟨next, still, type.trans same.symm⟩
    · obtain ⟨node, rfl, source, type⟩ := fair.requests bundle new request
      exact ⟨node, source ▸ members_turn_self, type⟩
  acks := by
    intro bundle member ack
    rcases mem_append.mp member with old | new
    · obtain ⟨single, state, there, knows⟩ := sound.acks bundle old ack
      obtain ⟨next, still, grown⟩ := fair.broker_forth there
      refine ⟨single, next, still, ?_⟩
      intro node found
      obtain ⟨earlier, there, type⟩ := fair.node_back found
      rw [type]
      exact grown _ _ (knows earlier there)
    · obtain ⟨single, state, rfl, source, knows⟩ := fair.acks bundle new ack
      refine ⟨single, state, source ▸ members_turn_self, ?_⟩
      intro node found
      obtain ⟨earlier, there, type⟩ := fair.node_back found
      rw [type]
      exact knows earlier there

/-- A party that does not change is fair if it sends no acknowledgement, and
requests only for itself. -/
theorem Sound.fairTurn_same (sound : network.Sound) (found : network.members eid = some before)
    (requests : ∀ reply ∈ replies, reply.type = brokerRequest →
      ∃ node, before = .node node ∧ reply.source = eid ∧ reply.nodeType = node.nodeType)
    (acks : ∀ reply ∈ replies, reply.type ≠ brokerAck) :
    network.FairTurn eid before before replies where
  found := found
  follows := .refl before
  owner := sound.owner eid before found
  exclusive := sound.exclusive eid before found
  associated := by
    rintro node rfl broker chosen
    exact sound.associated eid node found _ broker found chosen
  requests := requests
  acks := fun reply member ack => absurd ack (acks reply member)

end Turns

variable {reply : BundleData}

section Nodes

variable {network : Network} {eid : Eid} {node : Node} {bundle : BundleData}

omit [Unicode] in
theorem singleton_of_map_ok {α : Type} {made : Py α} {item : α}
    (member : item ∈ ((fun value => [value]) <$> made).toOption.getD []) : made = .ok item := by
  cases made with
  | error err => cases member
  | ok value =>
    cases mem_singleton.mp member
    rfl

theorem mem_brokerRequest
    (member : reply ∈ ((fun request => [request]) <$> node.brokerRequest broker).toOption.getD []) :
    reply.type = brokerRequest ∧ reply.source = node.nodeId ∧ reply.nodeType = node.nodeType := by
  have fields := BundleData.new_eq_ok.mp (singleton_of_map_ok member)
  rw [fields]
  exact ⟨rfl, rfl, rfl⟩

section

variable (sound : network.Sound) (found : network.members eid = some (.node node))

include sound found

/-- A node that is on its own asks the broker that it has heard of. -/
theorem Sound.fairTurn_request (free : node.broker = none) (broker : Eid) :
    network.FairTurn eid (.node node) (.node { node with brokerPending := some broker })
      (((fun request => [request]) <$> node.brokerRequest broker).toOption.getD []) where
  found := found
  follows := .node rfl fun broker chosen => chosen
  owner := sound.owner eid (.node node) found
  exclusive := .inr free
  associated := by
    rintro _ ⟨⟩ broker chosen
    rw [free] at chosen
    cases chosen
  requests := by
    intro reply sent _
    obtain ⟨-, source, type⟩ := mem_brokerRequest sent
    exact ⟨_, rfl, source.trans (sound.owner eid (.node node) found), type⟩
  acks := by
    intro reply sent ack
    rw [(mem_brokerRequest sent).1] at ack
    cases ack

/-- A node takes the broker that it has asked and that answers. -/
theorem Sound.fairTurn_associate (member : bundle ∈ network.sent)
    (addressed : bundle.destination = eid ∨ bundle.destination = Eid.broadcastAddress)
    (ack : bundle.type = brokerAck) (pending : node.brokerPending = some bundle.source) :
    network.FairTurn eid (.node node)
      (.node { node with broker := some bundle.source, brokerPending := none }) [] := by
  obtain ⟨single, state, there, knows⟩ := sound.acks bundle member ack
  have mine : bundle.destination = eid := addressed.resolve_right single
  have free : node.broker = none := by
    rcases sound.exclusive eid _ found with waiting | free
    · exact absurd (waiting.symm.trans pending) (by simp)
    · exact free
  constructor
  case found => exact found
  case follows => exact .node rfl fun broker chosen => absurd (free.symm.trans chosen) (by simp)
  case owner => exact sound.owner eid (.node node) found
  case exclusive => exact .inl rfl
  case associated =>
    rintro _ ⟨⟩ broker ⟨⟩
    exact ⟨state, there, mine ▸ knows node (mine ▸ found)⟩
  case requests => exact fun _ none => absurd none not_mem_nil
  case acks => exact fun _ none => absurd none not_mem_nil

theorem Sound.fairTurn_node (member : bundle ∈ network.sent)
    (addressed : bundle.destination = eid ∨ bundle.destination = Eid.broadcastAddress) :
    network.FairTurn eid (.node node) ((Party.node node).handle bundle).1
      ((Party.node node).handle bundle).2 := by
  have still : network.FairTurn eid (.node node) (.node node) [] :=
    sound.fairTurn_same found (fun _ none => absurd none not_mem_nil) fun _ none =>
      absurd none not_mem_nil
  unfold Party.handle Node.handleDiscovery
  by_cases announce : bundle.type = brokerAnnounce
  · by_cases idle : node.brokerPending = none ∧ node.broker = none
    · simp only [if_pos announce, if_pos idle]
      exact sound.fairTurn_request found idle.2 bundle.source
    · simp only [if_pos announce, if_neg idle]
      exact still
  · by_cases ack : bundle.type = brokerAck
    · by_cases pending : node.brokerPending = some bundle.source
      · simp only [if_neg announce, if_pos ack, if_pos pending]
        exact sound.fairTurn_associate found member addressed ack pending
      · simp only [if_neg announce, if_pos ack, if_neg pending]
        exact still
    · simp only [if_neg announce, if_neg ack]
      exact still

theorem Sound.fairTurn_heartbeat :
    network.FairTurn eid (.node node) (.node node) (node.heartbeat.toOption.getD []) := by
  have owner : node.nodeId = eid := sound.owner eid _ found
  have beats : ∀ reply ∈ node.heartbeat.toOption.getD [], reply.type = brokerRequest ∧
      reply.source = node.nodeId ∧ reply.nodeType = node.nodeType := by
    intro reply sent
    unfold Node.heartbeat at sent
    split at sent
    · split at sent
      · exact mem_brokerRequest sent
      · cases sent
    · cases sent
  apply sound.fairTurn_same found
  · intro reply sent _
    obtain ⟨-, source, type⟩ := beats reply sent
    exact ⟨node, rfl, source.trans owner, type⟩
  · intro reply sent
    rw [(beats reply sent).1]
    decide

end

end Nodes

section Brokers

variable {network : Network} {eid : Eid} {state : Broker} {bundle : BundleData}

theorem Sound.fairTurn_announcement (sound : network.Sound)
    (found : network.members eid = some (.broker state)) :
    network.FairTurn eid (.broker state) (.broker state) state.announcement.toOption.toList := by
  have announces : ∀ reply ∈ state.announcement.toOption.toList, reply.type = brokerAnnounce := by
    intro reply sent
    cases made : state.announcement with
    | error err =>
      rw [made] at sent
      cases sent
    | ok announcement =>
      rw [made] at sent
      cases mem_singleton.mp sent
      rw [BundleData.new_eq_ok.mp made]
  apply sound.fairTurn_same found
  · intro reply sent request
    rw [announces reply sent] at request
    cases request
  · intro reply sent
    rw [announces reply sent]
    decide

theorem Sound.fairTurn_discover (sound : network.Sound)
    (found : network.members eid = some (.broker state))
    (kind : state.discoveredNodes.get? nodeType = some nodes) {replies : List BundleData}
    (requests : ∀ reply ∈ replies, reply.type ≠ brokerRequest)
    (acks : ∀ reply ∈ replies, reply.type = brokerAck →
      reply.destination ≠ Eid.broadcastAddress ∧ reply.source = eid ∧
        ∀ node, network.members reply.destination = some (.node node) →
          reply.destination ∈ (state.discover nodeType bundle.source nodes).known node.nodeType) :
    network.FairTurn eid (.broker state)
      (.broker (state.discover nodeType bundle.source nodes)) replies where
  found := found
  follows := .broker rfl fun other member known => (Broker.mem_known_discover kind).mpr (.inr known)
  owner := sound.owner eid (.broker state) found
  exclusive := sound.exclusive eid (.broker state) found
  associated := by
    intro node impossible
    cases impossible
  requests := fun reply member request => absurd request (requests reply member)
  acks := by
    intro reply member ack
    obtain ⟨single, source, knows⟩ := acks reply member ack
    exact ⟨single, _, rfl, source, knows⟩

theorem mem_ack (member : reply ∈ ((fun ack => [ack]) <$> state.ack bundle).toOption.getD []) :
    reply.type = brokerAck ∧ reply.source = state.nodeId ∧ reply.destination = bundle.source := by
  have fields := BundleData.new_eq_ok.mp (singleton_of_map_ok member)
  rw [fields]
  exact ⟨rfl, rfl, rfl⟩

theorem Sound.fairTurn_ack (sound : network.Sound)
    (found : network.members eid = some (.broker state))
    (member : bundle ∈ network.sent) (request : bundle.type = brokerRequest)
    (kind : state.discoveredNodes.get? bundle.nodeType = some nodes) :
    network.FairTurn eid (.broker state)
      (.broker (state.discover bundle.nodeType bundle.source nodes))
      (((fun ack => [ack]) <$> state.ack bundle).toOption.getD []) := by
  obtain ⟨node, there, type⟩ := sound.requests bundle member request
  apply sound.fairTurn_discover found kind
  · intro reply sent
    rw [(mem_ack sent).1]
    decide
  · intro reply sent _
    obtain ⟨-, source, destination⟩ := mem_ack sent
    rw [destination]
    refine ⟨?_, source.trans (sound.owner eid (.broker state) found), ?_⟩
    · intro broadcast
      rw [broadcast, sound.free] at there
      cases there
    · intro other present
      rw [there] at present
      cases present
      exact (Broker.mem_known_discover kind).mpr (.inl ⟨type.symm, rfl⟩)

theorem Sound.fairTurn_broker (sound : network.Sound)
    (found : network.members eid = some (.broker state))
    (member : bundle ∈ network.sent) :
    network.FairTurn eid (.broker state) ((Party.broker state).handle bundle).1
      ((Party.broker state).handle bundle).2 := by
  have still : network.FairTurn eid (.broker state) (.broker state) [] :=
    sound.fairTurn_same found (fun _ none => absurd none not_mem_nil) fun _ none =>
      absurd none not_mem_nil
  unfold Party.handle Broker.handleDiscovery
  simp only
  split
  · split
    · split
      · rename_i kind
        exact sound.fairTurn_discover found kind (fun _ none => absurd none not_mem_nil)
          fun _ none => absurd none not_mem_nil
      · exact still
    · exact still
  split
  · rename_i request
    split
    · exact still
    split
    · rename_i kind
      exact sound.fairTurn_ack found member request kind
    · exact still
  · exact still

end Brokers

section Runs

variable {network : Network} {event : NetworkEvent}

theorem Sound.step_cases (sound : network.Sound) (event : NetworkEvent) :
    network.step event = network ∨
    ∃ eid before after replies, network.FairTurn eid before after replies ∧
      network.step event = network.turn eid after replies := by
  unfold Network.step
  cases event with
  | deliver receiver bundle =>
    simp only
    split
    · rename_i sent
      split
      · rename_i party found
        right
        cases party with
        | broker state => exact ⟨_, _, _, _, sound.fairTurn_broker found sent.1, rfl⟩
        | node node => exact ⟨_, _, _, _, sound.fairTurn_node found sent.1 sent.2, rfl⟩
      · exact .inl rfl
    · exact .inl rfl
  | announce sender =>
    simp only
    split
    · rename_i state found
      exact .inr ⟨_, _, _, _, sound.fairTurn_announcement found, rfl⟩
    · exact .inl rfl
  | heartbeat sender =>
    simp only
    split
    · rename_i node found
      exact .inr ⟨_, _, _, _, sound.fairTurn_heartbeat found, rfl⟩
    · exact .inl rfl

theorem Sound.step (sound : network.Sound) (event : NetworkEvent) : (network.step event).Sound := by
  rcases sound.step_cases event with same | ⟨eid, before, after, replies, fair, next⟩
  · rw [same]
    exact sound
  · rw [next]
    exact sound.turn fair

theorem sound_start {roster : Eid → Option Role} (free : roster Eid.broadcastAddress = none) :
    (start roster).Sound where
  free := by simp only [start, free]
  owner := by
    intro eid party found
    simp only [start] at found
    split at found
    · cases found
      rfl
    · cases found
      rfl
    · cases found
  exclusive := by
    intro eid party found
    simp only [start] at found
    split at found
    · cases found
      exact .inl rfl
    · cases found
      exact .inl rfl
    · cases found
  associated := by
    intro eid node found party broker present chosen
    rw [found] at present
    cases present
    simp only [start] at found
    split at found
    · cases found
    · cases found
      cases chosen
    · cases found
  requests := fun bundle none => absurd none not_mem_nil
  acks := fun bundle none => absurd none not_mem_nil

theorem Sound.run (sound : network.Sound) (events : List NetworkEvent) :
    (run Network.step network events).Sound := by
  induction events generalizing network with
  | nil => exact sound
  | cons event rest ih => exact ih (sound.step event)

theorem Sound.run_keeps (sound : network.Sound) (events : List NetworkEvent)
    (found : network.members eid = some party) (chosen : party.core.broker = some broker) :
    ∃ next, (Lang.run Network.step network events).members eid = some next ∧
      next.core.broker = some broker := by
  induction events generalizing network party with
  | nil => exact ⟨party, found, chosen⟩
  | cons event rest ih =>
    rw [run_cons]
    rcases sound.step_cases event with same | ⟨turning, before, after, replies, fair, next⟩
    · rw [same]
      exact ih sound found chosen
    · obtain ⟨later, there, follows⟩ := fair.forth found
      rw [next]
      exact ih (sound.turn fair) there (follows.keeps chosen)

end Runs

/-- No party has a broker and waits for one, a broker once chosen stays chosen,
and the broker of a node knows it. -/
structure Agreement (roster : Eid → Option Role) (events : List NetworkEvent) : Prop where
  exclusive : ∀ eid party, (run step (start roster) events).members eid = some party →
    party.core.brokerPending = none ∨ party.core.broker = none
  stable : ∀ later eid party broker, (run step (start roster) events).members eid = some party →
    party.core.broker = some broker →
      ∃ next, (run step (start roster) (events ++ later)).members eid = some next ∧
        next.core.broker = some broker
  associated : ∀ eid node, (run step (start roster) events).members eid = some (.node node) →
    (run step (start roster) events).Associated eid

theorem agreement_of_free {roster : Eid → Option Role} (free : roster Eid.broadcastAddress = none)
    (events : List NetworkEvent) : Agreement roster events := by
  have sound := (sound_start free).run events
  constructor
  case exclusive => exact sound.exclusive
  case stable =>
    intro later eid party broker found chosen
    rw [run_append]
    exact sound.run_keeps later found chosen
  case associated => exact sound.associated

end Network

end

open scoped Samples

def pairRoster (eid : Eid) : Option Role :=
  if eid = sampleBroker then some .broker
  else if eid = sampleExecutor then some (.node NodeType.executor)
  else none

def brokerAnnouncement : BundleData where
  type := brokerAnnounce
  source := sampleBroker
  destination := Eid.broadcastAddress
  nodeType := NodeType.broker
  valid := rfl

def executorAck : BundleData where
  type := brokerAck
  source := sampleBroker
  destination := sampleExecutor
  nodeType := NodeType.broker
  valid := rfl

def handshake : List NetworkEvent :=
  [.announce sampleBroker, .deliver sampleExecutor brokerAnnouncement,
    .deliver sampleBroker executorRequest, .deliver sampleExecutor executorAck]

theorem handshake_agreement : ∃ node,
    (run Network.step (Network.start pairRoster) handshake).members sampleExecutor =
      some (.node node) ∧
      node.broker = some sampleBroker ∧ Network.Agreement pairRoster handshake :=
  ⟨_, rfl, rfl, Network.agreement_of_free (by decide) handshake⟩

/-- A broker is its own broker, and does not know itself. -/
theorem loneBroker_not_associated : ¬(Network.start pairRoster).Associated sampleBroker := by
  intro associated
  obtain ⟨state, found, known⟩ := associated (.broker (.new sampleBroker)) sampleBroker rfl rfl
  cases found
  exact absurd known (by decide)

end RecDtn.Rec
