import RecDtn.Routing.SprayReserve

/-! The copies of a bundle never exceed those with which it was created. -/

namespace RecDtn.Routing

open Wire Lang Bpv7 Store BundleStore SprayAndWait List

section

variable [Sha256] [Badgerhold] {ref : Ref} {bundle : Bundle} {now : Time} {faults : Faults}

namespace Node

variable {node : Node} {position : Nat} {copies kept : UInt64} {peers : List EndpointID}
  {selection : Selection}

theorem bid_of_transmissions {transmission : Transmission}
    (member : transmission ∈ node.transmissions ref peers bundle) :
    idAt node.store ref = some transmission.bid := by
  unfold transmissions at member
  unfold idAt
  cases held : node.store.descriptors[ref]? with
  | none =>
    rw [held] at member
    cases member
  | some bd =>
    rw [held] at member
    obtain ⟨peer, -, rfl⟩ := mem_map.mp member
    rfl

theorem tally_transmissions (node : Node) (ref : Ref) (peers : List EndpointID) (bundle : Bundle) :
    tally (fun transmission => carried transmission.bundle)
      (node.transmissions ref peers bundle) ≤ peers.length * carried bundle := by
  unfold transmissions
  cases node.store.descriptors[ref]? with
  | none => exact Nat.zero_le _
  | some bd => simp [tally]

theorem isSome_idAt_of_dispatchable (dispatchable : node.dispatchable ref = true) :
    (idAt node.store ref).isSome := by
  unfold Node.dispatchable at dispatchable
  unfold idAt
  cases held : node.store.descriptors[ref]? with
  | none =>
    rw [held] at dispatchable
    cases dispatchable
  | some bd => rfl

variable [Cboring] [Crc16] [Ed25519] [GoSort]

/-- What the guard says about the steps of one node. -/
def ReadsAlone (node : Node) (event : NodeEvent) : Prop :=
  ∀ position ref, event = .readCopies position →
    node.runs[position]? = some ⟨ref, .released⟩ →
    getSprayCopies node.store ref ≠ none ∧ ∀ run ∈ node.runs, run.ref = ref →
      ∀ copies, run.stage ≠ .counted copies

/-- What a step leaves, and what it sends, follow from the node. -/
def Safe (node : Node) (event : NodeEvent) : Prop :=
  node.Follows (node.step event).1 (node.step event).2

namespace Sound

variable (sound : node.Sound)

include sound

theorem forward (held : node.runs[position]? = some ⟨ref, .counted copies⟩)
    (store : selection.store = setSprayCopies faults node.store ref kept)
    (fewer : kept.toNat ≤ copies.toNat)
    (bound : ∀ bundle, node.outgoing ref now selection = .ok bundle →
      kept.toNat + selection.peers.length * carried bundle ≤ copies.toNat) :
    node.Follows (node.forward position ref now selection).1
      (node.forward position ref now selection).2 := by
  have silent : ∀ transmission ∈ ([] : List Transmission), idAt node.store ref =
      some transmission.bid := by
    intro transmission member
    cases member
  unfold Node.forward
  dsimp only
  rw [store]
  split
  · exact sound.spends held (calm_some (by simp [RunStage.Calm])) silent fewer
  · split
    · rename_i bundle sending
      refine sound.spends held (calm_some (by simp [RunStage.Calm])) (fun _ => bid_of_transmissions) ?_
      exact Nat.le_trans (Nat.add_le_add_left
        (node.tally_transmissions ref selection.peers bundle) _) (bound bundle sending)
    · exact sound.spends held calm_none silent fewer
    · exact sound.crashes held fewer

theorem selects (held : node.runs[position]? = some ⟨ref, .counted copies⟩)
    (selects : node.router.Selects faults now node.store ref copies peers selection) :
    node.Follows (node.forward position ref now selection).1
      (node.forward position ref now selection).2 := by
  cases selects with
  | nothing => exact sound.moves held (.refl node.store) (calm_some (by simp [RunStage.Calm]))
  | half binary many some loading attaching =>
    rename_i loaded attached peer
    have split : (retained copies).toNat + (copies / 2).toNat = copies.toNat :=
      retained_add_half copies
    refine sound.forward held rfl (by omega) ?_
    intro bundle sending
    obtain ⟨source, unchanged, replacing⟩ := Go.bind_eq_ok.mp sending
    cases unchanged
    have less := carried_replacePreviousNode replacing
    rw [carried_attachCopies (faithful_of_load loading) attaching] at less
    change _ + 1 * carried bundle ≤ _
    omega
  | fewer basic less =>
    rename_i some left
    refine sound.forward held rfl (UInt64.le_iff_toNat_le.mp less) ?_
    intro bundle sending
    obtain ⟨source, loading, replacing⟩ := Go.bind_eq_ok.mp sending
    have nothing := carried_replacePreviousNode replacing
    rw [carried_of_faithful (faithful_of_load loading), Nat.le_zero] at nothing
    rw [nothing, Nat.mul_zero, Nat.add_zero]
    exact UInt64.le_iff_toNat_le.mp less

theorem notify (position : Nat) (faults : Faults) : node.Safe (.notify position faults) := by
  unfold Safe
  dsimp only [Node.step]
  split
  · rename_i ref bundle new held
    split
    · rename_i created
      subst created
      exact sound.record held (Nat.le_refl _)
    · rename_i received
      rw [Bool.not_eq_true] at received
      subst received
      split
      · rename_i store notified
        obtain ⟨copies, few, rfl⟩ := notifyReceivedBundle_eq_ok notified
        exact sound.record held few
      · exact sound.stores (.refl _) rfl rfl rfl
  · exact sound.follows_self

theorem checkArrival (position : Nat) : node.Safe (.checkArrival position) := by
  unfold Safe
  dsimp only [Node.step]
  split
  · rename_i ref bundle new held
    obtain ⟨still, less⟩ := sound.leaves position
    split
    · obtain ⟨spawned, fewer⟩ := still.spawn (sound.arrivals _ (mem_of_getElem? held))
      exact ⟨spawned, fun bid => Nat.le_trans (fewer bid) (less bid)⟩
    · exact ⟨still, less⟩
  · exact sound.follows_self

theorem dispatch (ref : Ref) : node.Safe (.dispatch ref) := by
  unfold Safe
  dsimp only [Node.step]
  split
  · rename_i dispatchable
    exact sound.spawn (isSome_idAt_of_dispatchable dispatchable)
  · exact sound.follows_self

theorem addForwardPending (position : Nat) : node.Safe (.addForwardPending position) := by
  unfold Safe
  dsimp only [Node.step]
  split
  · rename_i ref held
    exact sound.constrain held _ (calm_some (by simp [RunStage.Calm]))
  · exact sound.follows_self

theorem removeDispatchPending (position : Nat) : node.Safe (.removeDispatchPending position) := by
  unfold Safe
  dsimp only [Node.step]
  split
  · rename_i ref held
    exact sound.constrain held _ (calm_some (by simp [RunStage.Calm]))
  · exact sound.follows_self

theorem readCopies (position : Nat) (alone : node.ReadsAlone (.readCopies position)) :
    node.Safe (.readCopies position) := by
  unfold Safe
  dsimp only [Node.step]
  split
  · rename_i ref held
    obtain ⟨recorded, others⟩ := alone position ref rfl held
    split
    · rename_i copies found
      exact sound.reads held found others
    · rename_i missing
      exact absurd missing recorded
  · exact sound.follows_self

/-- No counter is missing. -/
theorem setDefault (position : Nat) (faults : Faults) : node.Safe (.setDefault position faults) := by
  unfold Safe
  dsimp only [Node.step]
  split
  · rename_i ref held
    exact absurd rfl (sound.runs _ (mem_of_getElem? held)).2
  · exact sound.follows_self

theorem select (position : Nat) (peers : List EndpointID) (now : Time) (intn : Nat)
    (faults : Faults) : node.Safe (.select position peers now intn faults) := by
  unfold Safe
  dsimp only [Node.step]
  split
  · rename_i ref copies held
    split
    · rename_i selection selected
      exact sound.selects held (selects_of_selectPeers selected)
    · exact sound.stores (.refl _) rfl rfl rfl
  · exact sound.follows_self

theorem finish (position : Nat) : node.Safe (.finish position) := by
  unfold Safe
  dsimp only [Node.step]
  split
  · rename_i ref held
    exact sound.constrain held _ calm_none
  · rename_i ref held
    exact sound.constrain held _ calm_none
  · exact sound.follows_self

theorem step {event : NodeEvent} (alone : node.ReadsAlone event) : node.Safe event := by
  cases event with
  | notify position faults => exact sound.notify position faults
  | checkArrival position => exact sound.checkArrival position
  | dispatch ref => exact sound.dispatch ref
  | addForwardPending position => exact sound.addForwardPending position
  | removeDispatchPending position => exact sound.removeDispatchPending position
  | readCopies position => exact sound.readCopies position alone
  | setDefault position faults => exact sound.setDefault position faults
  | select position peers now intn faults => exact sound.select position peers now intn faults
  | addKnownHolder ref peer faults => exact sound.stores (sameCounters_addKnownHolder ..) rfl rfl rfl
  | finish position => exact sound.finish position

end Sound

end Node

namespace Network

variable [Cboring] [Crc16] [Ed25519] [GoSort]

/-- What the nodes may still give away and what is in flight stays within the budget. -/
structure WithinBudget (network : Network) : Prop where
  sound : ∀ node ∈ network.nodes, node.Sound
  bound : ∀ bid, tally (fun node => node.reserve bid) network.nodes +
    tally (owed bid) network.wire ≤ network.budget bid

variable {network : Network}

section

omit [Cboring] [Crc16] [Ed25519] [GoSort]

theorem WithinBudget.total (within : network.WithinBudget) (bid : BundleID) :
    network.total bid ≤ network.budget bid := by
  refine Nat.le_trans (Nat.add_le_add_right ?_ _) (within.bound bid)
  exact tally_le fun node _ => node.held_le_reserve bid

theorem withinBudget_start (nodes : List (SprayAndWait × EndpointID)) :
    (Network.start nodes).WithinBudget where
  sound := by
    intro node member
    obtain ⟨⟨router, nodeID⟩, -, rfl⟩ := mem_map.mp member
    exact Node.sound_start router nodeID
  bound := by
    intro bid
    have nothing : tally (fun node : Node => node.reserve bid) (Network.start nodes).nodes = 0 := by
      apply tally_eq_zero.mpr
      intro node member
      obtain ⟨⟨router, nodeID⟩, -, rfl⟩ := mem_map.mp member
      exact Node.reserve_start router nodeID bid
    rw [nothing]
    exact Nat.zero_le _

theorem WithinBudget.changes (within : network.WithinBudget) {position : Nat} {node left : Node}
    {wire : List Transmission} {created : BundleID → Option UInt64}
    (held : network.nodes[position]? = some node)
    (sound : left.Sound)
    (bound : ∀ bid, left.reserve bid + tally (owed bid) wire + network.budget bid ≤
      node.reserve bid + tally (owed bid) network.wire + ((created bid).getD 0).toNat) :
    WithinBudget ⟨network.nodes.set position left, wire, created⟩ where
  sound := by
    intro other member
    rcases mem_or_eq_of_mem_set member with old | rfl
    · exact within.sound other old
    · exact sound
  bound := by
    intro bid
    have before := within.bound bid
    have step := bound bid
    have sum : tally (fun node : Node => node.reserve bid) (network.nodes.set position left) + node.reserve bid =
        tally (fun node : Node => node.reserve bid) network.nodes + left.reserve bid := tally_set held
    change tally (fun node : Node => node.reserve bid) (network.nodes.set position left) +
      tally (owed bid) wire ≤ ((created bid).getD 0).toNat
    omega

theorem WithinBudget.loses (within : network.WithinBudget) (position : Nat) :
    WithinBudget { network with wire := network.wire.eraseIdx position } where
  sound := within.sound
  bound := by
    intro bid
    have fewer : tally (owed bid) (network.wire.eraseIdx position) ≤ tally (owed bid) network.wire :=
      tally_sublist (eraseIdx_sublist _ _)
    exact Nat.le_trans (Nat.add_le_add_left fewer _) (within.bound bid)

end

omit [Sha256] [Badgerhold] [GoSort] in
/-- The manager does not know the block in which the copies are sent. -/
theorem carried_of_received {sent : Bundle} (arrived : received now sent = some bundle) :
    carried bundle = 0 := by
  unfold received at arrived
  split at arrived
  · cases arrived
  · rename_i written _ _
    split at arrived
    · cases arrived
      exact carried_of_faithful (Bundle.parseBundle_faithful now written)
    · cases arrived

namespace WithinBudget

variable (within : network.WithinBudget)

include within

theorem create (position : Nat) (bundle : Bundle) (faults : Faults) :
    (network.step (.create position bundle faults)).WithinBudget := by
  dsimp only [Network.step]
  split
  · rename_i node held fresh
    split
    · exact within
    · obtain ⟨sound, gained⟩ := (within.sound node (mem_of_getElem? held)).insert faults bundle true
      refine within.changes held sound ?_
      intro bid
      have more := gained bid
      by_cases same : bundle.id = bid
      · subst same
        rw [if_pos rfl, if_pos rfl] at more
        rw [Function.update_self, budget, fresh]
        change _ + 0 ≤ _ + node.router.copies.toNat
        omega
      · rw [if_neg same] at more
        rw [Function.update_of_ne (Ne.symm same), budget]
        omega
  · exact within

theorem deliver (position target : Nat) (now : Time) (faults : Faults) :
    (network.step (.deliver position target now faults)).WithinBudget := by
  dsimp only [Network.step]
  split
  · rename_i transmission node arriving held
    split
    · exact within.loses position
    · rename_i bundle arrived
      split
      · exact within.loses position
      · obtain ⟨sound, gained⟩ := (within.sound node (mem_of_getElem? held)).insert faults bundle false
        refine (within.loses position).changes held sound ?_
        intro bid
        have more := gained bid
        rw [carried_of_received arrived] at more
        simp only [Bool.false_eq_true, if_false, ite_self, Nat.add_zero] at more
        exact Nat.add_le_add_right (Nat.add_le_add_right more _) _
  · exact within

theorem steps (position : Nat) {event : NodeEvent}
    (guard : network.CounterGuard (.step position event)) :
    (network.step (.step position event)).WithinBudget := by
  dsimp only [Network.step]
  split
  · exact within
  · rename_i node held
    split
    · exact within
    · have alone : node.ReadsAlone event := by
        intro place ref reading released
        subst reading
        exact guard node ref held released
      obtain ⟨sound, less⟩ := (within.sound node (mem_of_getElem? held)).step alone
      refine within.changes held sound ?_
      intro bid
      have fewer := less bid
      rw [tally_append]
      change _ ≤ _ + _ + network.budget bid
      omega

theorem step {event : NetworkEvent} (guard : network.CounterGuard event) :
    (network.step event).WithinBudget := by
  cases event with
  | create position bundle faults => exact within.create position bundle faults
  | deliver position target now faults => exact within.deliver position target now faults
  | lose position => exact within.loses position
  | step position event => exact within.steps position guard

end WithinBudget

/-- As long as counters are only read when they are recorded, and by one run at
a time, the copies never exceed those with which the bundle was created. -/
theorem total_le_budget_of_guarded (nodes : List (SprayAndWait × EndpointID))
    (events : List NetworkEvent)
    (guarded : Guarded Network.step CounterGuard (Network.start nodes) events) (bid : BundleID) :
    (run Network.step (Network.start nodes) events).total bid ≤
      (run Network.step (Network.start nodes) events).budget bid := by
  have within : (run Network.step (Network.start nodes) events).WithinBudget :=
    run_invariant WithinBudget (withinBudget_start nodes)
      (fun network event before guard => before.step guard) guarded
  exact within.total bid

end Network

end

open scoped Samples

/-- A broker that gives four copies to every bundle, and a relay. -/
def brokerAndRelay : List (SprayAndWait × EndpointID) :=
  [(⟨4, true⟩, nodeEndpoint "broker"), (⟨4, true⟩, nodeEndpoint "relay")]

/-- The bundle is forwarded from the first dispatch after it was inserted up to
its selection. -/
def dispatched : List NetworkEvent :=
  [.step 0 (.dispatch 0), .step 0 (.addForwardPending 0), .step 0 (.removeDispatchPending 0),
    .step 0 (.readCopies 0)]

def selected : NetworkEvent := .step 0 (.select 0 [nodeEndpoint "relay"] 0 0 .none)

def createdAndNotified : List NetworkEvent := [.create 0 plainBundle .none, .step 0 (.notify 0 .none)]

theorem createdAndNotified_total_le_budget :
    (run Network.step (Network.start brokerAndRelay)
        (createdAndNotified ++ dispatched ++ [selected])).total plainBundle.id ≤
      (run Network.step (Network.start brokerAndRelay)
        (createdAndNotified ++ dispatched ++ [selected])).budget plainBundle.id ∧
      (run Network.step (Network.start brokerAndRelay) (createdAndNotified ++ dispatched ++ [selected])).wire.length = 1 := by
  refine ⟨Network.total_le_budget_of_guarded brokerAndRelay _ ?_ plainBundle.id, rfl⟩
  simp only [createdAndNotified, dispatched, cons_append, nil_append, guarded_cons,
    guarded_nil, selected, Network.CounterGuard, true_and, and_true]
  intro node ref held released
  cases held
  cases released
  refine ⟨by decide +kernel, ?_⟩
  intro run member
  cases mem_singleton.mp member
  exact fun _ _ => nofun

/-- The bundle is dispatched before the router has been notified: the counter is
set to its default, halved, and then set to the default again. -/
theorem dispatchedEarly_budget_lt_total :
    (run Network.step (Network.start brokerAndRelay)
        (.create 0 plainBundle .none :: dispatched ++
          [.step 0 (.setDefault 0 .none), selected, .step 0 (.notify 0 .none)])).budget plainBundle.id = 4 ∧
    (run Network.step (Network.start brokerAndRelay)
        (.create 0 plainBundle .none :: dispatched ++
          [.step 0 (.setDefault 0 .none), selected, .step 0 (.notify 0 .none)])).total plainBundle.id = 6 :=
  ⟨rfl, rfl⟩

end RecDtn.Routing
