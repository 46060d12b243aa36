import RecDtn.Agent.RecAgent
import RecDtn.Store.Collision

/-! What a fetch takes out of the mailboxes, and what it hands over. -/

namespace RecDtn.Agent

open Lang Bpv7 Store MailboxBank List

private theorem exists_first_not {α : Type} {property : α → Prop} {items : List α}
    (violated : ¬∀ item ∈ items, property item) :
    ∃ earlier item later, items = earlier ++ item :: later ∧
      (∀ before ∈ earlier, property before) ∧ ¬property item := by
  classical
  have found : (items.find? fun item => !decide (property item)).isSome := by
    simpa [List.find?_isSome] using violated
  obtain ⟨item, first⟩ := Option.isSome_iff_exists.mp found
  obtain ⟨not, earlier, later, split, before⟩ := List.find?_eq_some_iff_append.mp first
  exact ⟨earlier, item, later, split, by simpa using before, by simpa using not⟩

section

variable [Sha256] [Badgerhold] [Cboring] [Crc16] [Ed25519] {fault : Wire.Fault GoError}

namespace RECAgent

/-- The mailbox of the address exists, and all its bundles can be loaded. -/
def Readable (agent : RECAgent) (bst : BundleStore) (now : Time) (address : EndpointID) : Prop :=
  ∃ mailbox, agent.mailboxes.mailboxes.lookup address = some mailbox ∧ mailbox.Ready bst now

/-- The mailboxes that a fetch looks into, in this order. -/
def addresses (agent : RECAgent) (client : EndpointID) (nodeType : RECNodeType) : List EndpointID :=
  [client, agent.multicastAddress nodeType, agent.broadcastAddress]

variable {bst : BundleStore} {now : Time} {agent : RECAgent} {fetching : Fetching}

/-- The mailbox of an address is empty now, and the fetch has its bundles. -/
structure Emptied (bst : BundleStore) (now : Time) (address : EndpointID)
    (before after : Fetching × RECAgent) : Prop where
  err : after.1.err = none
  bundles : ∃ added, after.1.allBundles = before.1.allBundles ++ added ∧
    (∀ retrieved ∈ added, retrieved.From bst now) ∧ (added.map Retrieved.bid).Nodup ∧
    ∀ bid, bid ∈ added.map Retrieved.bid ↔ before.2.mailboxes.Holds address bid
  holds : ∀ other bid, after.2.mailboxes.Holds other bid ↔
    other ≠ address ∧ before.2.mailboxes.Holds other bid
  readable : ∀ other, after.2.Readable bst now other ↔ before.2.Readable bst now other

/-- The fetch has failed, and the mailboxes have what they had. -/
structure Failed (before after : Fetching × RECAgent) : Prop where
  err : ∃ fault, after.1.err = some fault
  bundles : after.1.allBundles = before.1.allBundles
  holds : ∀ other bid, after.2.mailboxes.Holds other bid ↔ before.2.mailboxes.Holds other bid

theorem fetchFrom_of_err (failed : fetching.err = some fault) (address : EndpointID)
    (order : RangeOrder BundleID) :
    agent.fetchFrom bst now fetching address order = (fetching, agent) := by
  unfold fetchFrom
  rw [failed]

variable {address : EndpointID} {stages : List (EndpointID × RangeOrder BundleID)}

theorem fetchFrom_of_readable (fine : fetching.err = none)
    (readable : agent.Readable bst now address) (order : RangeOrder BundleID) :
    Emptied bst now address (fetching, agent) (agent.fetchFrom bst now fetching address order) := by
  obtain ⟨mailbox, found, ready⟩ := readable
  obtain ⟨succeeded, cleared, bids, each⟩ := Mailbox.getAll_of_ready ready order
  have result : agent.fetchFrom bst now fetching address order =
      ({ fetching with allBundles := fetching.allBundles ++ (mailbox.getAll bst now order
        true).bundles }, { agent with mailboxes := agent.mailboxes.put address .new }) := by
    simp only [fetchFrom, fine, getMailbox, found, succeeded, cleared]
  have held : ∀ bid, agent.mailboxes.Holds address bid ↔ mailbox.Holds bid := by
    intro bid
    simp [MailboxBank.Holds, found]
  rw [result]
  refine ⟨fine, ⟨_, rfl, each, ?_, ?_⟩, ?_, ?_⟩
  · exact bids.nodup_iff.mpr mailbox.messages.nodupKeys
  · intro bid
    rw [held, bids.mem_iff]
    rfl
  · intro other bid
    rw [holds_put]
    have nothing : ¬Mailbox.new.Holds bid := AList.notMem_empty bid
    simp [nothing]
  · intro other
    unfold Readable
    rw [lookup_put]
    by_cases same : other = address
    · have idle : Mailbox.new.Ready bst now := fun bid nothing => absurd nothing (AList.notMem_empty bid)
      subst same
      exact ⟨fun _ => ⟨mailbox, found, ready⟩, fun _ => ⟨.new, if_pos rfl, idle⟩⟩
    · rw [if_neg same]

theorem fetchFrom_of_not_readable (fine : fetching.err = none)
    (unreadable : ¬agent.Readable bst now address)
    (order : RangeOrder BundleID) :
    Failed (fetching, agent) (agent.fetchFrom bst now fetching address order) := by
  cases found : agent.mailboxes.mailboxes.lookup address with
  | none =>
    have result : agent.fetchFrom bst now fetching address order =
        ({ fetching with err := some (.error (noSuchIDError address)) }, agent) := by
      simp only [fetchFrom, fine, getMailbox, found]
    rw [result]
    exact ⟨⟨_, rfl⟩, rfl, fun other bid => Iff.rfl⟩
  | some mailbox =>
    have unready : ¬mailbox.Ready bst now := fun ready => unreadable ⟨mailbox, found, ready⟩
    obtain ⟨⟨fault, failed⟩, same⟩ := Mailbox.getAll_of_not_ready unready order true
    have result : agent.fetchFrom bst now fetching address order =
        ({ fetching with err := some fault }, { agent with
          mailboxes := agent.mailboxes.put address (mailbox.getAll bst now order true).mailbox }) := by
      simp only [fetchFrom, fine, getMailbox, found, failed]
    rw [result]
    refine ⟨⟨fault, rfl⟩, rfl, ?_⟩
    intro other bid
    rw [holds_put, same]
    by_cases here : other = address
    · subst here
      simp [MailboxBank.Holds, found]
    · simp [here]

/-- The mailboxes of these addresses are empty now, and the fetch has their
bundles. -/
structure Cleared (bst : BundleStore) (now : Time) (addresses : List EndpointID)
    (before after : Fetching × RECAgent) : Prop where
  err : after.1.err = none
  bundles : ∃ added, after.1.allBundles = before.1.allBundles ++ added ∧
    (∀ retrieved ∈ added, retrieved.From bst now) ∧
    ∀ bid, bid ∈ added.map Retrieved.bid ↔
      ∃ address ∈ addresses, before.2.mailboxes.Holds address bid
  holds : ∀ other bid, after.2.mailboxes.Holds other bid ↔
    other ∉ addresses ∧ before.2.mailboxes.Holds other bid

theorem Emptied.cleared {addresses : List EndpointID} {before middle after : Fetching × RECAgent}
    (first : Emptied bst now address before middle) (rest : Cleared bst now addresses middle after) :
    Cleared bst now (address :: addresses) before after := by
  obtain ⟨added, bundles, each, -, bids⟩ := first.bundles
  obtain ⟨later, laterBundles, laterEach, laterBids⟩ := rest.bundles
  refine ⟨rest.err, ⟨added ++ later, ?_, ?_, ?_⟩, ?_⟩
  · rw [laterBundles, bundles, append_assoc]
  · intro retrieved member
    rcases mem_append.mp member with member | member
    · exact each retrieved member
    · exact laterEach retrieved member
  · intro bid
    rw [map_append, mem_append, bids, laterBids]
    simp only [first.holds, mem_cons, exists_eq_or_imp]
    constructor
    · rintro (held | ⟨other, member, -, held⟩)
      · exact .inl held
      · exact .inr ⟨other, member, held⟩
    · rintro (held | ⟨other, member, held⟩)
      · exact .inl held
      · by_cases same : other = address
        · exact .inl (same ▸ held)
        · exact .inr ⟨other, member, same, held⟩
  · intro other bid
    rw [rest.holds, first.holds]
    simp only [mem_cons, not_or]
    tauto

theorem fetchAll_of_err (failed : fetching.err = some fault)
    (stages : List (EndpointID × RangeOrder BundleID)) :
    fetchAll bst now agent fetching stages = (fetching, agent) := by
  induction stages with
  | nil => rfl
  | cons stage rest ih =>
    rw [fetchAll, fetchFrom_of_err failed]
    exact ih

theorem fetchAll_of_readable (fine : fetching.err = none)
    (readable : ∀ address ∈ stages.map Prod.fst, agent.Readable bst now address) :
    Cleared bst now (stages.map Prod.fst) (fetching, agent)
      (fetchAll bst now agent fetching stages) := by
  induction stages generalizing agent fetching with
  | nil =>
    refine ⟨fine, ⟨[], ?_, ?_, ?_⟩, ?_⟩
    · simp [fetchAll]
    · simp
    · simp
    · simp [fetchAll]
  | cons stage rest ih =>
    have first := fetchFrom_of_readable fine (readable stage.1 mem_cons_self) stage.2
    apply first.cleared
    apply ih first.err
    intro address member
    exact (first.readable address).mpr (readable address (mem_cons_of_mem _ member))

/-- The first mailbox that cannot be read ends the fetch. Those before it are
empty. -/
theorem fetchAll_of_not_readable {earlier later : List (EndpointID × RangeOrder BundleID)}
    {stage : EndpointID × RangeOrder BundleID} (fine : fetching.err = none)
    (readable : ∀ address ∈ earlier.map Prod.fst, agent.Readable bst now address)
    (unreadable : ¬agent.Readable bst now stage.1) :
    (∃ fault, (fetchAll bst now agent fetching (earlier ++ stage :: later)).1.err = some fault) ∧
      ∀ other bid, (fetchAll bst now agent fetching (earlier ++ stage :: later)).2.mailboxes.Holds
        other bid ↔ other ∉ earlier.map Prod.fst ∧ agent.mailboxes.Holds other bid := by
  induction earlier generalizing agent fetching with
  | nil =>
    obtain ⟨⟨fault, failed⟩, -, holds⟩ := fetchFrom_of_not_readable fine unreadable stage.2
    have ended : fetchAll bst now agent fetching ([] ++ stage :: later) =
        agent.fetchFrom bst now fetching stage.1 stage.2 := fetchAll_of_err failed later
    rw [ended]
    exact ⟨⟨fault, failed⟩, by simpa using holds⟩
  | cons head rest ih =>
    have first := fetchFrom_of_readable fine (readable head.1 mem_cons_self) head.2
    have next : ∀ address ∈ rest.map Prod.fst,
        (agent.fetchFrom bst now fetching head.1 head.2).2.Readable bst now address := by
      intro address member
      exact (first.readable address).mpr (readable address (mem_cons_of_mem _ member))
    obtain ⟨failed, holds⟩ := ih first.err next (mt (first.readable stage.1).mp unreadable)
    refine ⟨failed, ?_⟩
    intro other bid
    refine (holds other bid).trans ?_
    rw [first.holds]
    simp only [map_cons, mem_cons, not_or]
    tauto

theorem fetchAll_of_split {earlier later : List EndpointID}
    (split : stages.map Prod.fst = earlier ++ address :: later) (fine : fetching.err = none)
    (readable : ∀ before ∈ earlier, agent.Readable bst now before)
    (unreadable : ¬agent.Readable bst now address) :
    (∃ fault, (fetchAll bst now agent fetching stages).1.err = some fault) ∧
      ∀ other bid, (fetchAll bst now agent fetching stages).2.mailboxes.Holds other bid ↔
        other ∉ earlier ∧ agent.mailboxes.Holds other bid := by
  obtain ⟨first, second, rfl, rfl, rest⟩ := map_eq_append_iff.mp split
  obtain ⟨stage, last, rfl, rfl, -⟩ := map_eq_cons_iff.mp rest
  exact fetchAll_of_not_readable fine readable unreadable

theorem fetchAll_fails (fine : fetching.err = none)
    (unreadable : ¬∀ address ∈ stages.map Prod.fst, agent.Readable bst now address) :
    ∃ fault, (fetchAll bst now agent fetching stages).1.err = some fault := by
  obtain ⟨earlier, address, later, split, before, shut⟩ := exists_first_not unreadable
  exact (fetchAll_of_split split fine before shut).1

end RECAgent

section

variable [Msgpack] {bst : BundleStore} {now : Time}

/-- The bundle with this ID can be loaded, and its payload can be decoded. -/
def Decodes (bst : BundleStore) (now : Time) (bid : BundleID) (data : BundleData) : Prop :=
  ∃ bd bndl, bst.getBundleDescriptor bid = .ok bd ∧ bst.load now bd = .ok bndl ∧
    decodePayload bndl = .ok (some data)

variable {retrieved : Retrieved} {data : BundleData}

omit [Msgpack] in
theorem Retrieved.From.exists_iff (origin : retrieved.From bst now) (property : Bundle → Prop) :
    (∃ bd bndl, bst.getBundleDescriptor retrieved.bid = .ok bd ∧ bst.load now bd = .ok bndl ∧
      property bndl) ↔ property retrieved.bundle := by
  constructor
  · rintro ⟨bd, bndl, found, loaded, holds⟩
    obtain rfl : retrieved.descriptor = bd := Except.ok.inj (origin.1.symm.trans found)
    obtain rfl : retrieved.bundle = bndl := Except.ok.inj (origin.2.symm.trans loaded)
    exact holds
  · intro holds
    exact ⟨_, _, origin.1, origin.2, holds⟩

theorem Retrieved.From.decodes_iff (origin : retrieved.From bst now) :
    Decodes bst now retrieved.bid data ↔ decodePayload retrieved.bundle = .ok (some data) :=
  origin.exists_iff _

section

omit [Sha256] [Badgerhold] [Cboring] [Crc16] [Ed25519]

variable {bundles : List Retrieved}

/-- The loop keeps every payload that can be decoded. -/
theorem mem_decodeAll {allBundleData : List BundleData}
    (decoded : decodeAll bundles = .ok allBundleData)
    (member : retrieved ∈ bundles) (payload : decodePayload retrieved.bundle = .ok (some data)) :
    data ∈ allBundleData := by
  induction bundles generalizing allBundleData with
  | nil => cases member
  | cons head rest ih =>
    cases first : decodePayload head.bundle with
    | error fault =>
      rw [decodeAll, first] at decoded
      cases decoded
    | ok bundleData =>
      cases later : decodeAll rest with
      | error fault =>
        rw [decodeAll, first, later] at decoded
        cases decoded
      | ok others =>
        rw [decodeAll, first, later] at decoded
        obtain rfl : bundleData.toList ++ others = allBundleData := Except.ok.inj decoded
        rcases mem_cons.mp member with rfl | member
        · obtain rfl : bundleData = some data := Except.ok.inj (first.symm.trans payload)
          simp
        · exact mem_append_right _ (ih later member)

theorem decodeAll_of_decoded
    (payloads : ∀ retrieved ∈ bundles, ∃ data, decodePayload retrieved.bundle =
    .ok (some data)) : ∃ allBundleData, decodeAll bundles = .ok allBundleData := by
  induction bundles with
  | nil => exact ⟨[], rfl⟩
  | cons head rest ih =>
    obtain ⟨data, first⟩ := payloads head mem_cons_self
    obtain ⟨others, later⟩ :=
      ih fun retrieved member => payloads retrieved (mem_cons_of_mem _ member)
    refine ⟨data :: others, ?_⟩
    rw [decodeAll, first, later]
    rfl

end

/-- What the mailboxes lose between these states is in the reply. -/
def HandedOver (agent : RECAgent) (bst : BundleStore) (now : Time)
    (result : Go FetchReply × RECAgent) : Prop :=
  ∀ address bid, agent.mailboxes.Holds address bid → ¬result.2.mailboxes.Holds address bid →
    ∃ reply data, result.1 = .ok reply ∧ reply.success = true ∧
      Decodes bst now bid data ∧ data ∈ reply.bundles

/-- If the mailboxes can all be read, then their bundles can all be decoded. If
one cannot be read, those before the first such mailbox are empty. -/
structure Recoverable (agent : RECAgent) (bst : BundleStore) (now : Time)
    (addresses : List EndpointID) : Prop where
  decoded : (∀ address ∈ addresses, agent.Readable bst now address) →
    ∀ address ∈ addresses, ∀ bid, agent.mailboxes.Holds address bid →
      ∃ data, Decodes bst now bid data
  empty : ∀ earlier address later, addresses = earlier ++ address :: later →
    (∀ before ∈ earlier, agent.Readable bst now before) → ¬agent.Readable bst now address →
    ∀ before ∈ earlier, ∀ bid, ¬agent.mailboxes.Holds before bid

variable {agent : RECAgent} {unicast multicast broadcast : RangeOrder BundleID} {message : Fetch}
  {stages : List (EndpointID × RangeOrder BundleID)}

omit [Sha256] [Badgerhold] [Cboring] [Crc16] [Ed25519] [Msgpack] in
theorem Fetching.fresh_err : Fetching.fresh.err = none := rfl

omit [Sha256] [Badgerhold] [Cboring] [Crc16] [Ed25519] in
theorem Fetching.reply_of_err {fetching : Fetching} {reply : FetchReply}
    (failed : fetching.err = some fault)
    (replied : fetching.reply = .ok reply) : reply.success = false := by
  unfold Fetching.reply at replied
  rw [failed] at replied
  cases fault with
  | error cause =>
    cases replied
    rfl
  | panic => cases replied
  | spin => cases replied

/-- The end of a call whose blocks have all run. -/
def replied (fetched : Fetching × RECAgent) : Go FetchReply × RECAgent :=
  (fetched.1.reply, fetched.2)

theorem handleFetch_of_parsed {client : EndpointID}
    (parsed : newEndpointID message.endpointID = .ok client) :
    ∃ stages, stages.map Prod.fst = agent.addresses client message.nodeType ∧
      agent.handleFetch bst now unicast multicast broadcast message =
        replied (agent.fetchAll bst now Fetching.fresh stages) := by
  refine ⟨[(client, unicast), (agent.multicastAddress message.nodeType, multicast),
    (agent.broadcastAddress, broadcast)], rfl, ?_⟩
  simp only [RECAgent.handleFetch, Fetch.begin, parsed, replied]

theorem handleFetch_of_unparsed (failed : newEndpointID message.endpointID = .error fault) :
    (agent.handleFetch bst now unicast multicast broadcast message).2 = agent := by
  simp only [RECAgent.handleFetch, Fetch.begin, failed]
  rw [RECAgent.fetchAll_of_err rfl]

theorem Recoverable.handedOver (recoverable : Recoverable agent bst now (stages.map Prod.fst)) :
    HandedOver agent bst now (replied (agent.fetchAll bst now Fetching.fresh stages)) := by
  intro address bid held lost
  by_cases readable : ∀ address ∈ stages.map Prod.fst, agent.Readable bst now address
  · have cleared := RECAgent.fetchAll_of_readable Fetching.fresh_err readable
    have member : address ∈ stages.map Prod.fst := by
      by_contra elsewhere
      exact lost ((cleared.holds address bid).mpr ⟨elsewhere, held⟩)
    obtain ⟨added, bundles, each, bids⟩ := cleared.bundles
    have payloads : ∀ retrieved ∈ added, ∃ data, decodePayload retrieved.bundle = .ok (some data) := by
      intro retrieved taken
      obtain ⟨origin, visited, waiting⟩ := (bids retrieved.bid).mp (mem_map_of_mem taken)
      obtain ⟨data, decodes⟩ := recoverable.decoded readable origin visited retrieved.bid waiting
      exact ⟨data, (each retrieved taken).decodes_iff.mp decodes⟩
    obtain ⟨allBundleData, decoded⟩ := decodeAll_of_decoded payloads
    obtain ⟨retrieved, taken, rfl⟩ := mem_map.mp ((bids bid).mpr ⟨address, member, held⟩)
    obtain ⟨data, payload⟩ := payloads retrieved taken
    refine ⟨⟨⟨true, none⟩, allBundleData⟩, data, ?_, rfl,
      (each retrieved taken).decodes_iff.mpr payload, mem_decodeAll decoded taken payload⟩
    simp only [replied, Fetching.reply, cleared.err, bundles]
    rw [Fetching.fresh, nil_append, decoded]
    rfl
  · obtain ⟨earlier, first, later, split, before, unreadable⟩ := exists_first_not readable
    have holds := (RECAgent.fetchAll_of_split split Fetching.fresh_err before unreadable).2
    have outside : address ∉ earlier := by
      intro member
      exact recoverable.empty earlier first later split before unreadable address member bid held
    exact absurd ((holds address bid).mpr ⟨outside, held⟩) lost

theorem HandedOver.recoverable
    (handed : HandedOver agent bst now (replied (agent.fetchAll bst now Fetching.fresh stages))) :
    Recoverable agent bst now (stages.map Prod.fst) := by
  constructor
  · intro readable address member bid held
    have cleared := RECAgent.fetchAll_of_readable Fetching.fresh_err readable
    have lost : ¬(agent.fetchAll bst now Fetching.fresh stages).2.mailboxes.Holds address bid := by
      rw [cleared.holds]
      exact fun kept => kept.1 member
    obtain ⟨reply, data, -, -, decodes, -⟩ := handed address bid held lost
    exact ⟨data, decodes⟩
  · intro earlier address later split readable unreadable before member bid held
    obtain ⟨⟨fault, failed⟩, holds⟩ :=
      RECAgent.fetchAll_of_split split Fetching.fresh_err readable unreadable
    have lost : ¬(agent.fetchAll bst now Fetching.fresh stages).2.mailboxes.Holds before bid := by
      rw [holds]
      exact fun kept => kept.1 member
    obtain ⟨reply, data, answered, success, -⟩ := handed before bid held lost
    rw [Fetching.reply_of_err failed answered] at success
    cases success

/-- A call that empties a mailbox before it fails loses what was in it, and so
does one that cannot decode what it has taken out. -/
theorem handedOver_iff :
    HandedOver agent bst now (agent.handleFetch bst now unicast multicast broadcast message) ↔
      ∀ client, newEndpointID message.endpointID = .ok client →
        Recoverable agent bst now (agent.addresses client message.nodeType) := by
  cases parsed : newEndpointID message.endpointID with
  | error fault =>
    constructor
    · intro _ client impossible
      cases impossible
    · intro _ address bid held lost
      rw [handleFetch_of_unparsed parsed] at lost
      exact absurd held lost
  | ok client =>
    obtain ⟨stages, listed, result⟩ := handleFetch_of_parsed parsed
    rw [result]
    constructor
    · intro handed other same
      obtain rfl : client = other := Except.ok.inj same
      rw [← listed]
      exact handed.recoverable
    · intro recoverable
      have listedRecoverable := recoverable client rfl
      rw [← listed] at listedRecoverable
      exact listedRecoverable.handedOver

end

end

open scoped Samples

attribute [local instance] Msgpack.accepting

/-- A store with one bundle, for `dtn://executor/`. -/
def stocked : BundleStore :=
  ((BundleStore.empty (nodeEndpoint "broker")).insertBundle .none plainLog).2

/-- The bundle waits for its client. -/
def stockedAgent : RECAgent :=
  { executorAgent with mailboxes := (executorAgent.mailboxes.deliver stocked 0).2 }

/-- There is no address for the node type, so the reply is a failure; the
client's mailbox has been emptied before. -/
theorem unknownNodeType_not_handedOver : ¬HandedOver stockedAgent stocked october
    (stockedAgent.handleFetch stocked october .asStored .asStored .asStored
      ⟨ascii "dtn://executor/", 0⟩) := by
  intro handed
  obtain ⟨reply, data, answered, success, -⟩ :=
    handed (nodeEndpoint "executor") plainLog.id (by decide +kernel) (by decide +kernel)
  have refused : (stockedAgent.handleFetch stocked october .asStored .asStored .asStored
      ⟨ascii "dtn://executor/", 0⟩).1.toOption.map (fun reply => reply.success) = some false := by
    decide +kernel
  rw [answered] at refused
  cases success.symm.trans (Option.some.inj refused)

end RecDtn.Agent
