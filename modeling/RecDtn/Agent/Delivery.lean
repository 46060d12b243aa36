import RecDtn.Agent.Fetching

/-! Receptions, deliveries and fetches in any order. -/

namespace RecDtn.Agent

open Lang Bpv7 Store Retrieved List

variable {α β : Type} {position : Nat}

private theorem flatMap_set {f : α → List β} {items : List α} {item grown : α}
    {added : List β} (there : items[position]? = some item) (grows : f grown = f item ++ added) :
    ((items.set position grown).flatMap f).Perm (added ++ items.flatMap f) := by
  have replaced := (set_perm_of_getElem? there grown).flatMap_right f
  have before := (perm_of_getElem? there).flatMap_right f
  rw [flatMap_cons, grows] at replaced
  rw [flatMap_cons] at before
  have moved : (f item ++ added ++ (items.eraseIdx position).flatMap f).Perm
      (added ++ (f item ++ (items.eraseIdx position).flatMap f)) := by
    rw [← append_assoc]
    exact perm_append_comm.append_right _
  exact (replaced.trans moved).trans (before.symm.append_left added)

private theorem flatMap_eraseIdx {f : α → List β} {items : List α} {item : α}
    (there : items[position]? = some item) :
    (items.flatMap f).Perm (f item ++ (items.eraseIdx position).flatMap f) := by
  exact (perm_of_getElem? there).flatMap_right f

/-- A call to `handleFetch` that has not replied yet. -/
structure FetchCall where
  client : List UInt8
  addresses : List EndpointID
  fetching : Fetching

/-- What one bundle of a reply was taken from. -/
structure Returned where
  client : List UInt8
  retrieved : Retrieved

section

variable [Sha256] [Badgerhold]

/-- The store and the agent with the goroutines at work on them, and all that
clients have got so far. -/
structure Daemon where
  store : BundleStore
  agent : RECAgent
  arriving : List Ref
  delivering : List (EndpointID × BundleID)
  fetches : List FetchCall
  returned : List Returned

/-- What can happen next. `receiveAsync` is a reception, and then the two
halves of a delivery; `handleFetch` begins, works on its mailboxes one after
the other and finishes. -/
inductive Event where
  | receive (bundle : Bundle) (faults : Faults)
  | address (position : Nat)
  | deliver (position : Nat)
  | register (endpointID : List UInt8)
  | beginFetch (message : Fetch)
  | advance (position : Nat) (order : RangeOrder BundleID) (now : Time)
  | finish (position : Nat)
  | collect (eid : EndpointID) (order : RangeOrder BundleID)
  | store (action : Store.Action)

def Fetching.handed [Msgpack] (fetching : Fetching) : List Retrieved :=
  match fetching.reply with
  | .error _ => []
  | .ok reply =>
    if reply.success then
      fetching.allBundles.filter fun retrieved => (decodePayload retrieved.bundle).toOption.join.isSome
    else []

omit [Sha256] [Badgerhold] in
theorem Fetching.handed_sublist [Msgpack] (fetching : Fetching) :
    fetching.handed.Sublist fetching.allBundles := by
  unfold handed
  split
  · exact nil_sublist _
  · split
    · exact filter_sublist
    · exact nil_sublist _

namespace Daemon

def start (nodeID : EndpointID) (agent : RECAgent) : Daemon :=
  ⟨.empty nodeID, agent, [], [], [], []⟩

def Holds (daemon : Daemon) (eid : EndpointID) (bid : BundleID) : Prop :=
  daemon.agent.mailboxes.Holds eid bid

/-- The descriptors whose bundles have left a mailbox for a client. -/
def out (daemon : Daemon) : List Ref :=
  (daemon.fetches.flatMap fun call => call.fetching.allBundles.map descriptor) ++
    daemon.returned.map fun returned => returned.retrieved.descriptor

variable [Cboring] [Crc16] [Ed25519]

def step [Msgpack] (daemon : Daemon) : Event → Daemon
  | .receive bundle faults =>
    let inserted := daemon.store.insertBundle faults bundle
    { daemon with store := inserted.2, arriving := daemon.arriving ++ inserted.1.toOption.toList }
  | .address position =>
    match daemon.arriving[position]? with
    | none => daemon
    | some ref =>
      { daemon with
        arriving := daemon.arriving.eraseIdx position
        delivering := daemon.delivering ++ (daemon.agent.mailboxes.addressee daemon.store ref).toOption.toList }
  | .deliver position =>
    match daemon.delivering[position]? with
    | none => daemon
    | some (destination, bid) =>
      { daemon with
        delivering := daemon.delivering.eraseIdx position
        agent.mailboxes := (daemon.agent.mailboxes.deliverTo daemon.store destination bid).2 }
  | .register endpointID => { daemon with agent := (daemon.agent.handleRegister endpointID).2 }
  | .beginFetch message =>
    { daemon with
      fetches := daemon.fetches ++ [⟨message.endpointID,
        daemon.agent.addresses message.begin.2 message.nodeType, message.begin.1⟩] }
  | .advance position order now =>
    match daemon.fetches[position]? with
    | some ⟨client, address :: rest, fetching⟩ =>
      let fetched := daemon.agent.fetchFrom daemon.store now fetching address order
      { daemon with
        agent := fetched.2
        fetches := daemon.fetches.set position ⟨client, rest, fetched.1⟩ }
    | _ => daemon
  | .finish position =>
    match daemon.fetches[position]? with
    | some ⟨client, [], fetching⟩ =>
      { daemon with
        fetches := daemon.fetches.eraseIdx position
        returned := daemon.returned ++ fetching.handed.map (Returned.mk client) }
    | _ => daemon
  | .collect eid order =>
    match daemon.agent.mailboxes.mailboxes.lookup eid with
    | none => daemon
    | some mailbox =>
      { daemon with agent.mailboxes := daemon.agent.mailboxes.put eid (mailbox.gc daemon.store order) }
  | .store action => { daemon with store := daemon.store.step action }

/-- Without anything in between, the events of a fetch do what `handleFetch`
does. -/
theorem run_fetch [Msgpack] (daemon : Daemon) (alone : daemon.fetches = []) (now : Time)
    (unicast multicast broadcast : RangeOrder BundleID) (message : Fetch) :
    let after := run step daemon [.beginFetch message, .advance 0 unicast now,
      .advance 0 multicast now, .advance 0 broadcast now, .finish 0]
    let fetched := daemon.agent.fetchAll daemon.store now message.begin.1
      [(message.begin.2, unicast), (daemon.agent.multicastAddress message.nodeType, multicast),
        (daemon.agent.broadcastAddress, broadcast)]
    after.agent =
      (daemon.agent.handleFetch daemon.store now unicast multicast broadcast message).2 ∧
      after.returned = daemon.returned ++ fetched.1.handed.map (Returned.mk message.endpointID) := by
  simp [run, step, alone, RECAgent.addresses, RECAgent.handleFetch, RECAgent.fetchAll]

/-- The ID is not delivered again while its bundle is on the way to a client
or has got there, and it does not wait for two endpoints. -/
def DeliveryGuard (daemon : Daemon) : Event → Prop
  | .deliver position =>
    ∀ destination bid, daemon.delivering[position]? = some (destination, bid) →
      (∀ ref, daemon.store.bundles.lookup bid = some ref → ref ∉ daemon.out) ∧
        ∀ other, daemon.Holds other bid → other = destination
  | _ => True

/-- Each stay of a bundle in the store, which is what a descriptor stands for,
gives it to a client at most once. -/
def AtMostOnce (daemon : Daemon) : Prop :=
  daemon.returned.Pairwise fun first second => first.client = second.client →
    first.retrieved.bid = second.retrieved.bid →
      first.retrieved.descriptor ≠ second.retrieved.descriptor

/-- No bundle is both on its way and in a mailbox. -/
structure Tidy (daemon : Daemon) : Prop where
  sound : daemon.store.registry.Sound
  waiting : ∀ eid bid ref, daemon.Holds eid bid → daemon.store.bundles.lookup bid = some ref →
    ref ∉ daemon.out
  apart : ∀ eid other bid, daemon.Holds eid bid → daemon.Holds other bid → eid = other
  issued : ∀ ref ∈ daemon.out, ref < daemon.store.registry.tickets.length
  once : daemon.out.Nodup

variable {daemon left : Daemon} {position : Nat}

section

omit [Cboring] [Crc16] [Ed25519]

/-- Most events add nothing to the mailboxes and take nothing out. -/
theorem Tidy.less (tidy : daemon.Tidy) (leads : daemon.store.registry.Leads left.store.registry)
    (holds : ∀ eid bid, left.Holds eid bid → daemon.Holds eid bid)
    (out : left.out.Subperm daemon.out) : left.Tidy := by
  refine ⟨tidy.sound.leads leads, ?_, ?_, ?_, ?_⟩
  · intro eid bid ref held found member
    rcases leads.index found with before | later
    · exact tidy.waiting eid bid ref (holds eid bid held) before (out.subset member)
    · exact absurd (tidy.issued ref (out.subset member)) (Nat.not_lt.mpr later)
  · intro eid other bid held also
    exact tidy.apart eid other bid (holds eid bid held) (holds other bid also)
  · intro ref member
    exact Nat.lt_of_lt_of_le (tidy.issued ref (out.subset member)) leads.length_le
  · obtain ⟨listed, same, sublist⟩ := out
    exact same.nodup_iff.mp (tidy.once.sublist sublist)

theorem Tidy.deliver (tidy : daemon.Tidy) {destination : EndpointID} {bid : BundleID}
    (there : daemon.delivering[position]? = some (destination, bid))
    (guard : daemon.DeliveryGuard (.deliver position)) : Tidy { daemon with
      delivering := daemon.delivering.eraseIdx position
      agent.mailboxes := (daemon.agent.mailboxes.deliverTo daemon.store destination bid).2 } := by
  obtain ⟨fresh, alone⟩ := guard destination bid there
  have added : ∀ eid other,
      (daemon.agent.mailboxes.deliverTo daemon.store destination bid).2.Holds eid other →
      daemon.Holds eid other ∨ eid = destination ∧ other = bid := fun _ _ => MailboxBank.holds_deliverTo
  refine ⟨tidy.sound, ?_, ?_, tidy.issued, tidy.once⟩
  · intro eid other ref held found
    rcases added eid other held with before | ⟨rfl, rfl⟩
    · exact tidy.waiting eid other ref before found
    · exact fresh ref found
  · intro eid second other held also
    rcases added eid other held with before | ⟨rfl, rfl⟩
    · rcases added second other also with alsoBefore | ⟨rfl, rfl⟩
      · exact tidy.apart eid second other before alsoBefore
      · exact alone eid before
    · rcases added second other also with alsoBefore | ⟨rfl, -⟩
      · exact (alone second alsoBefore).symm
      · rfl

end

section

variable {position : Nat} {client : List UInt8} {address : EndpointID} {rest : List EndpointID}
  {fetching : Fetching} {order : RangeOrder BundleID} {now : Time}

/-- The state after a fetch has worked on one of its mailboxes. -/
def advanced (daemon : Daemon) (position : Nat) (client : List UInt8) (rest : List EndpointID)
    (fetched : Fetching × RECAgent) : Daemon :=
  { daemon with agent := fetched.2, fetches := daemon.fetches.set position ⟨client,
    rest, fetched.1⟩ }

variable {fetched : Fetching × RECAgent}

omit [Cboring] [Crc16] [Ed25519] in
theorem out_advanced {added : List Retrieved}
    (there : daemon.fetches[position]? = some ⟨client, address :: rest, fetching⟩)
    (grows : fetched.1.allBundles = fetching.allBundles ++ added) :
    (daemon.advanced position client rest fetched).out.Perm (added.map descriptor ++ daemon.out) := by
  have grown : fetched.1.allBundles.map descriptor =
      fetching.allBundles.map descriptor ++ added.map descriptor := by
    rw [grows, map_append]
  have fetches : ((daemon.advanced position client rest fetched).fetches.flatMap fun call =>
      call.fetching.allBundles.map descriptor).Perm
      (added.map descriptor ++ daemon.fetches.flatMap fun call =>
        call.fetching.allBundles.map descriptor) := flatMap_set there grown
  exact (fetches.append_right _).trans (.of_eq (append_assoc _ _ _))

theorem Tidy.emptied (tidy : daemon.Tidy)
    (there : daemon.fetches[position]? = some ⟨client, address :: rest, fetching⟩)
    (emptied : RECAgent.Emptied daemon.store now address (fetching, daemon.agent) fetched) :
    (daemon.advanced position client rest fetched).Tidy := by
  obtain ⟨added, bundles, each, distinct, bids⟩ := emptied.bundles
  have out := out_advanced there bundles
  have index : ∀ retrieved ∈ added, daemon.store.bundles.lookup retrieved.bid =
      some retrieved.descriptor :=
    fun retrieved member => BundleStore.lookup_of_getBundleDescriptor (each retrieved member).1
  have held : ∀ retrieved ∈ added, daemon.Holds address retrieved.bid := by
    intro retrieved member
    exact (bids retrieved.bid).mp (mem_map_of_mem member)
  have left : ∀ eid bid, (daemon.advanced position client rest fetched).Holds eid bid →
      eid ≠ address ∧ daemon.Holds eid bid := fun eid bid => (emptied.holds eid bid).mp
  refine ⟨tidy.sound, ?_, ?_, ?_, ?_⟩
  · intro eid bid ref still found member
    obtain ⟨elsewhere, before⟩ := left eid bid still
    rcases mem_append.mp (out.mem_iff.mp member) with taken | earlier
    · obtain ⟨retrieved, listed, rfl⟩ := mem_map.mp taken
      obtain rfl := tidy.sound.index_inj found (index retrieved listed)
      exact elsewhere (tidy.apart eid address _ before (held retrieved listed))
    · exact tidy.waiting eid bid ref before found earlier
  · intro eid other bid still also
    exact tidy.apart eid other bid (left eid bid still).2 (left other bid also).2
  · intro ref member
    rcases mem_append.mp (out.mem_iff.mp member) with taken | earlier
    · obtain ⟨retrieved, listed, rfl⟩ := mem_map.mp taken
      exact tidy.sound.index_lt (index retrieved listed)
    · exact tidy.issued ref earlier
  · rw [out.nodup_iff, nodup_append]
    refine ⟨?_, tidy.once, ?_⟩
    · -- Two bundles of one descriptor would have one ID.
      apply List.Nodup.map_on
      · intro first member second listed same
        apply inj_on_of_nodup_map distinct member listed
        exact tidy.sound.index_inj (index first member) (same ▸ index second listed)
      · exact distinct.of_map _
    · intro ref taken other earlier same
      obtain ⟨retrieved, listed, rfl⟩ := mem_map.mp taken
      exact tidy.waiting address retrieved.bid _ (held retrieved listed) (index retrieved listed) (same ▸ earlier)

theorem Tidy.advance (tidy : daemon.Tidy)
    (there : daemon.fetches[position]? = some ⟨client, address :: rest, fetching⟩)
    (order : RangeOrder BundleID) (now : Time) : (daemon.advanced position client rest
      (daemon.agent.fetchFrom daemon.store now fetching address order)).Tidy := by
  have unmoved : ∀ fetched : Fetching × RECAgent, fetched.1.allBundles = fetching.allBundles →
      (∀ eid bid, fetched.2.mailboxes.Holds eid bid → daemon.Holds eid bid) →
      (daemon.advanced position client rest fetched).Tidy := by
    intro fetched bundles holds
    have grown : fetched.1.allBundles = fetching.allBundles ++ [] := by rw [bundles, append_nil]
    exact tidy.less .refl holds (out_advanced there grown).subperm
  cases state : fetching.err with
  | some fault =>
    rw [RECAgent.fetchFrom_of_err state]
    exact unmoved _ rfl fun eid bid => id
  | none =>
    by_cases readable : daemon.agent.Readable daemon.store now address
    · exact tidy.emptied there (RECAgent.fetchFrom_of_readable state readable order)
    · have failed := RECAgent.fetchFrom_of_not_readable state readable order
      exact unmoved _ failed.bundles fun eid bid => (failed.holds eid bid).mp

end

omit [Cboring] [Crc16] [Ed25519] in
theorem Tidy.finish [Msgpack] (tidy : daemon.Tidy) {client : List UInt8} {fetching : Fetching}
    (there : daemon.fetches[position]? = some ⟨client, [], fetching⟩) : Tidy { daemon with
      fetches := daemon.fetches.eraseIdx position
      returned := daemon.returned ++ fetching.handed.map (Returned.mk client) } := by
  refine tidy.less .refl (fun eid bid => id) ?_
  let elsewhere := ((daemon.fetches.eraseIdx position).flatMap fun call =>
    call.fetching.allBundles.map descriptor) ++
      daemon.returned.map fun returned => returned.retrieved.descriptor
  have handed : (fetching.handed.map descriptor).Sublist
      (fetching.allBundles.map descriptor) := fetching.handed_sublist.map _
  have before : daemon.out.Perm (fetching.allBundles.map descriptor ++ elsewhere) :=
    ((flatMap_eraseIdx there).append_right _).trans (.of_eq (append_assoc _ _ _))
  have after : (Daemon.mk daemon.store daemon.agent daemon.arriving daemon.delivering
      (daemon.fetches.eraseIdx position)
      (daemon.returned ++ fetching.handed.map (Returned.mk client))).out.Perm
      (fetching.handed.map descriptor ++ elsewhere) := by
    simp only [out, map_append, map_map]
    rw [← append_assoc]
    exact perm_append_comm
  exact after.subperm.trans ((handed.append_right elsewhere).subperm.trans before.symm.subperm)

theorem Tidy.step [Msgpack] (tidy : daemon.Tidy) {event : Event}
    (guard : daemon.DeliveryGuard event) : (daemon.step event).Tidy := by
  cases event with
  | receive bundle faults =>
    exact tidy.less (daemon.store.insertBundle_leads faults bundle) (fun eid bid => id) (.refl _)
  | address position =>
    simp only [Daemon.step]
    split
    · exact tidy
    · exact tidy.less .refl (fun eid bid => id) (.refl _)
  | deliver position =>
    simp only [Daemon.step]
    split
    · exact tidy
    · rename_i destination bid there
      exact tidy.deliver there guard
  | register endpointID =>
    refine tidy.less .refl ?_ (.refl _)
    intro eid bid held
    exact RECAgent.holds_handleRegister.mp held
  | beginFetch message =>
    have same : (daemon.step (.beginFetch message)).out = daemon.out := by
      simp [Daemon.step, out, Fetch.begin_allBundles]
    exact tidy.less .refl (fun eid bid => id) (same ▸ .refl _)
  | advance position order now =>
    simp only [Daemon.step]
    split
    · rename_i client address rest fetching there
      exact tidy.advance there order now
    · exact tidy
  | finish position =>
    simp only [Daemon.step]
    split
    · rename_i client fetching there
      exact tidy.finish there
    · exact tidy
  | collect eid order =>
    simp only [Daemon.step]
    split
    · exact tidy
    · rename_i mailbox found
      refine tidy.less .refl ?_ (.refl _)
      intro other bid held
      rcases MailboxBank.holds_put.mp held with ⟨rfl, here⟩ | ⟨-, elsewhere⟩
      · exact ⟨mailbox, found, Mailbox.holds_gc here⟩
      · exact elsewhere
  | store action => exact tidy.less (BundleStore.step_leads _ action) (fun eid bid => id) (.refl _)

variable {nodeID : EndpointID} {agent : RECAgent}

section

omit [Cboring] [Crc16] [Ed25519]

theorem tidy_start (idle : ∀ eid bid, ¬agent.mailboxes.Holds eid bid) :
    (start nodeID agent).Tidy := by
  refine ⟨Registry.sound_empty, ?_, ?_, ?_, nodup_nil⟩
  · intro eid bid ref held
    exact absurd held (idle eid bid)
  · intro eid other bid held
    exact absurd held (idle eid bid)
  · intro ref member
    cases member

theorem Tidy.atMostOnce (tidy : daemon.Tidy) : daemon.AtMostOnce := by
  have distinct : (daemon.returned.map fun returned => returned.retrieved.descriptor).Nodup :=
    (nodup_append.mp tidy.once).2.1
  apply List.Pairwise.imp _ (pairwise_map.mp distinct)
  intro first second different _ _
  exact different

end

variable [Msgpack]

/-- If no ID is delivered whose bundle is with a client already, no client gets
a bundle twice. -/
theorem atMostOnce_of_guarded {events : List Event}
    (idle : ∀ eid bid, ¬agent.mailboxes.Holds eid bid)
    (guarded : Guarded step DeliveryGuard (start nodeID agent) events) :
    (run step (start nodeID agent) events).AtMostOnce := by
  apply Tidy.atMostOnce
  apply run_invariant Tidy (tidy_start idle) _ guarded
  intro daemon event tidy guard
  exact tidy.step guard

end Daemon

end

open Daemon

open scoped Samples

attribute [local instance] Msgpack.accepting

/-- The bundle is received and delivered. -/
def reception : List Event := [.receive plainLog .none, .address 0, .deliver 0]

/-- The client fetches its bundles without anything in between. -/
def executorFetch : List Event :=
  [.beginFetch ⟨ascii "dtn://executor/", RECNodeType.executor⟩, .advance 0 .asStored october,
    .advance 0 .asStored october, .advance 0 .asStored october, .finish 0]

theorem reception_atMostOnce :
    (run step (start (nodeEndpoint "broker") executorAgent)
      (reception ++ executorFetch)).AtMostOnce := by
  apply atMostOnce_of_guarded executorAgent_idle
  simp only [reception, executorFetch, cons_append, nil_append, guarded_cons, guarded_nil]
  refine ⟨trivial, trivial, ?_, trivial, trivial, trivial, trivial, trivial, trivial⟩
  intro destination bid _
  refine ⟨?_, ?_⟩
  · intro ref _ member
    cases member
  · intro other held
    exact absurd held (executorAgent_idle other bid)

/-- A peer sends the bundle again after it has been fetched. -/
def secondReception : List Event := reception ++ executorFetch ++ reception ++ executorFetch

theorem secondReception_not_atMostOnce :
    ¬(run step (start (nodeEndpoint "broker") executorAgent) secondReception).AtMostOnce := by
  intro once
  have log : ((run step (start (nodeEndpoint "broker") executorAgent) secondReception).returned.map
      fun returned => (returned.client, returned.retrieved.bid, returned.retrieved.descriptor)).Pairwise
      fun first second => first.1 = second.1 → first.2.1 = second.2.1 → first.2.2 ≠ second.2.2 :=
    pairwise_map.mpr once
  have twice : ((run step (start (nodeEndpoint "broker") executorAgent) secondReception).returned.map
      fun returned => (returned.client, returned.retrieved.bid, returned.retrieved.descriptor)) =
      [(ascii "dtn://executor/", plainLog.id, 0), (ascii "dtn://executor/", plainLog.id, 0)] := by
    decide +kernel
  rw [twice] at log
  exact rel_of_pairwise_cons log mem_cons_self rfl rfl rfl

end RecDtn.Agent
