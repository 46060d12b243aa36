import RecDtn.Routing.SprayBudget

/-! Whom a router selects in one call. -/

namespace RecDtn.Routing

open Wire Lang Bpv7 Store List Go

/-- What is found among the first items that are kept comes after fewer of them. -/
theorem exists_mem_take_filter {α : Type} {keep : α → Bool} {wanted : α → Prop}
    (items : List α) (count : Nat) :
    (∃ item ∈ (items.filter keep).take count, wanted item) ↔
      ∃ before item after, items = before ++ item :: after ∧
      keep item = true ∧ wanted item ∧ (before.filter keep).length < count := by
  induction items generalizing count with
  | nil => simp
  | cons first rest ih =>
    cases kept : keep first with
    | false =>
      rw [filter_cons_of_neg (by simp [kept]), ih count]
      constructor
      · rintro ⟨before, item, after, rfl, keeps, found, few⟩
        exact ⟨first :: before, item, after, rfl, keeps, found, by rwa [filter_cons_of_neg (by simp [kept])]⟩
      · rintro ⟨before, item, after, same, keeps, found, few⟩
        cases before with
        | nil =>
          cases same
          rw [kept] at keeps
          cases keeps
        | cons head before =>
          cases same
          rw [filter_cons_of_neg (by simp [kept])] at few
          exact ⟨before, item, after, rfl, keeps, found, few⟩
    | true =>
      rw [filter_cons_of_pos kept]
      cases count with
      | zero => simp
      | succ count =>
        rw [take_succ_cons]
        simp only [mem_cons, exists_eq_or_imp, ih count]
        constructor
        · rintro (found | ⟨before, item, after, rfl, keeps, found, few⟩)
          · exact ⟨[], first, rest, rfl, kept, found, Nat.succ_pos count⟩
          · refine ⟨first :: before, item, after, rfl, keeps, found, ?_⟩
            rw [filter_cons_of_pos kept]
            exact Nat.succ_lt_succ few
        · rintro ⟨before, item, after, same, keeps, found, few⟩
          cases before with
          | nil =>
            cases same
            exact .inl found
          | cons head before =>
            cases same
            rw [filter_cons_of_pos kept] at few
            exact .inr ⟨before, item, after, rfl, keeps, found, Nat.lt_of_succ_lt_succ few⟩

namespace SprayAndWait

variable [Sha256] [Badgerhold] {router : SprayAndWait} {faults : Faults} {now : Time} {intn : Nat}
  {bst : BundleStore} {ref : Ref} {copies : UInt64} {peers : List EndpointID}

/-- Every peer that is selected costs a copy. -/
theorem selectBasicSpray_spends (faults : Faults) (bst : BundleStore) (ref : Ref) (copies : UInt64)
    (room : Allocatable peers) : ∃ left : UInt64, selectBasicSpray faults bst ref copies peers =
        ⟨peers.take copies.toNat, none, setSprayCopies faults bst ref left⟩ ∧
      left.toNat + (peers.take copies.toNat).length = copies.toNat := by
  have counted : (UInt64.ofNat peers.length).toNat = peers.length :=
    toNat_toUInt64 (Nat.lt_of_le_of_lt room (by decide))
  unfold selectBasicSpray
  dsimp only
  split
  · rename_i enough
    have all : peers.length ≤ copies.toNat := by
      rw [← counted]
      exact UInt64.le_iff_toNat_le.mp enough
    rw [take_of_length_le all]
    refine ⟨_, rfl, ?_⟩
    rw [UInt64.toNat_sub_of_le _ _ enough, counted]
    omega
  · rename_i many
    have more : copies.toNat ≤ peers.length := by
      rw [← counted]
      exact Nat.le_of_lt (UInt64.lt_iff_toNat_lt.mp (UInt64.not_le.mp many))
    refine ⟨0, rfl, ?_⟩
    rw [length_take_of_le more]
    exact Nat.zero_add _

theorem filterPeers_of_live {bd : BundleDescriptor} (held : bst.descriptors[ref]? = some bd)
    (live : bd.deleted = false) (peers : List EndpointID) :
    filterPeers bst ref peers = peers.filter fun peer => peer ∉ bd.metadata.knownHolders := by
  rw [filterPeers, held]
  exact if_neg (by simp [live])

theorem filterPeers_sublist (bst : BundleStore) (ref : Ref) (peers : List EndpointID) :
    (filterPeers bst ref peers).Sublist peers := by
  unfold filterPeers
  split
  · exact nil_sublist _
  · split
    · exact nil_sublist _
    · exact filter_sublist

variable [Cboring] [Crc16] [Ed25519] [GoSort]

theorem selectPeers_basic (basic : router.binary = false) (room : Allocatable peers)
    (faults : Faults) (now : Time)
    (intn : Nat) (bst : BundleStore) (ref : Ref) (copies : UInt64) : ∃ store,
    router.selectPeers faults now intn bst ref copies peers =
      .ok ⟨(filterPeers bst ref peers).take copies.toNat, none, store⟩ ∧
    (store = bst ∧ (filterPeers bst ref peers).take copies.toNat = [] ∨
      ∃ left : UInt64, store = setSprayCopies faults bst ref left ∧
        left.toNat + ((filterPeers bst ref peers).take copies.toNat).length = copies.toNat) := by
  have fewer : Allocatable (filterPeers bst ref peers) :=
    (filterPeers_sublist bst ref peers).length_le.trans room
  obtain ⟨left, selected, spent⟩ := selectBasicSpray_spends faults bst ref copies fewer
  unfold selectPeers
  by_cases none : copies > 0
  · rw [if_neg (fun stops => stops.2 none), if_neg (fun stops => by simp [basic] at stops)]
    dsimp only
    by_cases nobody : filterPeers bst ref peers = []
    · rw [if_pos nobody, nobody, take_nil]
      exact ⟨bst, rfl, .inl ⟨rfl, rfl⟩⟩
    · rw [if_neg nobody, if_neg (by simp [basic]), selected]
      exact ⟨_, rfl, .inr ⟨left, rfl, spent⟩⟩
  · have zero : copies.toNat = 0 := by
      rw [gt_iff_lt, UInt64.lt_iff_toNat_lt] at none
      exact Nat.le_zero.mp (Nat.not_lt.mp none)
    rw [if_pos ⟨basic, none⟩, zero, take_zero]
    exact ⟨bst, rfl, .inl ⟨rfl, rfl⟩⟩

/-- In binary mode nothing is selected, or the peer that the random number
stands for. -/
theorem selectPeers_binary (binary : router.binary = true) {selection : Selection}
    (selected : router.selectPeers faults now intn bst ref copies peers = .ok selection) :
    selection = ⟨[], none, bst⟩ ∨ copies > 1 ∧ ∃ loaded attached peer, bst.load now ref =
      .ok loaded ∧ attachCopies loaded (copies / 2) = .ok attached ∧
      (filterPeers bst ref peers)[intn % (filterPeers bst ref peers).length]? = some peer ∧
      selection = ⟨[peer], some attached, setSprayCopies faults bst ref (retained copies)⟩ := by
  unfold selectPeers at selected
  rw [if_neg (fun stops => by simp [binary] at stops)] at selected
  by_cases few : copies > 1
  · rw [if_neg (fun stops => stops.2 few)] at selected
    dsimp only at selected
    split at selected
    · cases selected
      exact .inl rfl
    obtain ⟨outcome, loading, selected⟩ := bind_eq_ok.mp selected
    cases outcome with
    | error cause =>
      cases selected
      exact .inl rfl
    | ok loaded =>
      obtain ⟨outcome, attaching, selected⟩ := bind_eq_ok.mp selected
      cases outcome with
      | error cause =>
        cases selected
        exact .inl rfl
      | ok attached =>
        obtain ⟨peer, picked, selected⟩ := bind_eq_ok.mp selected
        cases selected
        exact .inr ⟨few, loaded, attached, peer, attempt_eq_ok.mp loading,
          attempt_eq_ok.mp attaching, deref_eq_ok.mp picked, rfl⟩
  · rw [if_pos ⟨binary, few⟩] at selected
    cases selected
    exact .inl rfl

/-- A peer on the node that the bundle is for, which has not got it. -/
def Recipient (bd : BundleDescriptor) (peer : EndpointID) : Prop :=
  peer ∉ bd.metadata.knownHolders ∧ peer.sameNode bd.metadata.destination = true

instance (bd : BundleDescriptor) (peer : EndpointID) : Decidable (Recipient bd peer) :=
  inferInstanceAs (Decidable (peer ∉ bd.metadata.knownHolders ∧
    peer.sameNode bd.metadata.destination = true))

def Delivers (router : SprayAndWait) (faults : Faults) (now : Time) (intn : Nat)
    (bst : BundleStore) (ref : Ref) (bd : BundleDescriptor) (peers : List EndpointID) : Prop :=
  ∃ selection, router.selectPeersForForwarding faults now intn bst ref peers = .ok selection ∧
    ∃ peer ∈ selection.peers, Recipient bd peer

section Delivering

variable {bd : BundleDescriptor} (held : bst.descriptors[ref]? = some bd)
include held

omit [Cboring] [Crc16] [Ed25519] [GoSort] in
theorem mem_filterPeers {peer : EndpointID} : peer ∈ filterPeers bst ref peers ↔
    bd.deleted = false ∧ peer ∈ peers ∧ peer ∉ bd.metadata.knownHolders := by
  rw [filterPeers, held]
  cases live : bd.deleted <;> simp [live]

theorem delivers_basic_iff (basic : router.binary = false) (room : Allocatable peers) :
    router.Delivers faults now intn bst ref bd peers ↔ bd.deleted = false ∧
      ∃ before peer after, peers = before ++ peer :: after ∧ Recipient bd peer ∧
        (before.filter fun other => other ∉ bd.metadata.knownHolders).length < (router.copiesOf bst ref).toNat := by
  obtain ⟨prepared, same, peersSame, -⟩ :=
    router.selectPeersForForwarding_eq faults now intn bst ref peers
  obtain ⟨store, selected, -⟩ :=
    selectPeers_basic basic room faults now intn prepared ref (router.copiesOf bst ref)
  rw [Delivers, same, selected]
  have among : (∃ selection : Selection,
      (.ok ⟨(filterPeers prepared ref peers).take (router.copiesOf bst ref).toNat, none, store⟩ : Go Selection) =
        .ok selection ∧ ∃ peer ∈ selection.peers, Recipient bd peer) ↔
      ∃ peer ∈ (filterPeers bst ref peers).take (router.copiesOf bst ref).toNat, Recipient bd peer := by
    rw [peersSame]
    constructor
    · rintro ⟨selection, picked, found⟩
      cases picked
      exact found
    · exact fun found => ⟨_, rfl, found⟩
  rw [among]
  cases live : bd.deleted with
  | true =>
    have nobody : filterPeers bst ref peers = [] := by
      rw [filterPeers, held]
      exact if_pos live
    simp [nobody]
  | false =>
    rw [filterPeers_of_live held live, exists_mem_take_filter]
    simp only [Recipient, decide_eq_true_eq, true_and]
    tauto

omit held in
theorem delivers_binary_iff (binary : router.binary = true)
    (room : ∀ bundle, bst.load now ref = .ok bundle → Allocatable bundle.extensionBlocks) :
    router.Delivers faults now intn bst ref bd peers ↔ router.copiesOf bst ref > 1 ∧
      (∃ bundle, bst.load now ref = .ok bundle) ∧
      ∃ peer, (filterPeers bst ref peers)[intn % (filterPeers bst ref peers).length]? =
        some peer ∧ Recipient bd peer := by
  obtain ⟨prepared, same, peersSame, loadSame⟩ :=
    router.selectPeersForForwarding_eq faults now intn bst ref peers
  rw [Delivers, same]
  constructor
  · rintro ⟨selection, selected, peer, member, recipient⟩
    rcases selectPeers_binary binary selected with rfl | ⟨many, loaded, attached, picked,
      loading, -, pick, rfl⟩
    · cases member
    · obtain rfl := mem_singleton.mp member
      rw [peersSame] at pick
      exact ⟨many, ⟨loaded, loadSame ▸ loading⟩, peer, pick, recipient⟩
  · rintro ⟨many, ⟨loaded, loading⟩, peer, pick, recipient⟩
    have someone : filterPeers bst ref peers ≠ [] := ne_nil_of_mem (mem_of_getElem? pick)
    obtain ⟨attached, attaching⟩ := attachCopies_of_present
      (fun cb member => (faithful_of_load loading cb member).present)
      (Nat.lt_of_le_of_lt (room loaded loading) (by decide)) (router.copiesOf bst ref / 2)
    obtain ⟨picked, selected⟩ := selectPeers_of_attachCopies binary many (peersSame ▸ someone)
      (loadSame ▸ loading) attaching
    refine ⟨_, selected, picked, mem_singleton_self _, ?_⟩
    -- the inversion says which of the peers it is
    rcases selectPeers_binary binary selected with nothing | ⟨-, _, _, other, -, -, same, chosen⟩
    · cases nothing
    · cases chosen
      rw [peersSame, pick] at same
      cases same
      exact recipient

/-- If a recipient is connected, one is selected, whatever the random number. -/
def DeliversDirectly (router : SprayAndWait) (faults : Faults) (now : Time)
    (bst : BundleStore) (ref : Ref) (bd : BundleDescriptor) (peers : List EndpointID) : Prop :=
  (∃ peer ∈ peers, Recipient bd peer) →
    ∀ intn, router.Delivers faults now intn bst ref bd peers

/-- In basic mode the copies are enough for the peers up to a recipient; in
binary mode some are left to give away, the bundle can be loaded, and there is
nobody else to pick. -/
def InReach (router : SprayAndWait) (now : Time) (bst : BundleStore) (ref : Ref)
    (bd : BundleDescriptor) (peers : List EndpointID) : Prop :=
  bd.deleted = false ∧
    if router.binary then
      router.copiesOf bst ref > 1 ∧ (∃ bundle, bst.load now ref = .ok bundle) ∧
        ∀ peer ∈ peers, peer ∉ bd.metadata.knownHolders → peer.sameNode bd.metadata.destination = true
    else
      ∃ before peer after, peers = before ++ peer :: after ∧ Recipient bd peer ∧
        (before.filter fun other => other ∉ bd.metadata.knownHolders).length < (router.copiesOf bst ref).toNat

/-- Nothing is done for the recipient in particular: it is reached if the copies
last until it, or if there is nobody else. -/
theorem deliversDirectly_iff_inReach (room : Allocatable peers)
    (loadable : ∀ bundle, bst.load now ref = .ok bundle → Allocatable bundle.extensionBlocks) :
    router.DeliversDirectly faults now bst ref bd peers ↔
      ((∃ peer ∈ peers, Recipient bd peer) → router.InReach now bst ref bd peers) := by
  refine imp_congr_right fun ⟨recipient, connected, fresh, there⟩ => ?_
  unfold InReach
  cases binary : router.binary with
  | false =>
    rw [if_neg Bool.false_ne_true]
    simp only [delivers_basic_iff held binary room, forall_const]
  | true =>
    rw [if_pos rfl]
    simp only [delivers_binary_iff binary loadable]
    constructor
    · intro picks
      obtain ⟨many, loads, first, pick, -⟩ := picks 0
      have live := ((mem_filterPeers held).mp (mem_of_getElem? pick)).1
      refine ⟨live, many, loads, ?_⟩
      intro peer member other
      obtain ⟨position, inside, here⟩ := getElem_of_mem ((mem_filterPeers held).mpr ⟨live, member, other⟩)
      obtain ⟨-, -, picked, pick, chosen⟩ := picks position
      rw [Nat.mod_eq_of_lt inside, List.getElem?_eq_getElem inside, here] at pick
      cases pick
      exact chosen.2
    · rintro ⟨live, many, loads, nobody⟩ intn
      have someone := length_pos_of_mem ((mem_filterPeers held).mpr ⟨live, connected, fresh⟩)
      have inside := Nat.mod_lt intn someone
      refine ⟨many, loads, _, List.getElem?_eq_getElem inside, ?_⟩
      obtain ⟨-, member, other⟩ := (mem_filterPeers held).mp (getElem_mem inside)
      exact ⟨other, nobody _ member other⟩

end Delivering

/-- The descriptor has not been deleted, and this many copies are left. -/
structure Counts (bst : BundleStore) (ref : Ref) (bd : BundleDescriptor)
    (copies : UInt64) : Prop where
  held : bst.descriptors[ref]? = some bd
  live : bd.deleted = false
  counter : getSprayCopies bst ref = some copies

/-- What happens to the store between two calls: holders become known, and the
rest is left to others. -/
structure Grows (ref : Ref) (bst left : BundleStore) : Prop where
  counter : getSprayCopies left ref = getSprayCopies bst ref
  descriptor : ∀ bd, bst.descriptors[ref]? = some bd →
    ∃ changed, left.descriptors[ref]? = some changed ∧
    changed.deleted = bd.deleted ∧ bd.metadata.knownHolders ⊆ changed.metadata.knownHolders

/-- A call that has returned, and the holders that were known to it. -/
structure Call where
  knownHolders : List EndpointID
  selection : Selection

/-- The copies that are given away along with a bundle. -/
def emitted (selection : Selection) : Nat :=
  match selection.bundle with
  | none => 0
  | some bundle => carried bundle

/-- A bundle is new to the router, which then selects peers for it, one call
after the other. -/
inductive Spraying (router : SprayAndWait) (ref : Ref) : BundleStore → List Call → Prop where
  | notified {bst : BundleStore} {bd : BundleDescriptor} (faults : Faults) :
    bst.descriptors[ref]? = some bd →
      bd.deleted = false → Spraying router ref (router.notifyNewBundle faults bst ref) []
  | grown {bst left : BundleStore} {calls : List Call} :
      Spraying router ref bst calls → Grows ref bst left → Spraying router ref left calls
  | selected {bst : BundleStore} {bd : BundleDescriptor} {calls : List Call}
    {faults : Faults} {now : Time}
      {intn : Nat} {peers : List EndpointID} {selection : Selection} : Spraying router ref bst calls →
      bst.descriptors[ref]? = some bd → Allocatable peers →
      router.selectPeersForForwarding faults now intn bst ref peers = .ok selection →
      Spraying router ref selection.store (calls ++ [⟨bd.metadata.knownHolders, selection⟩])

/-- One call: who is selected has not got the bundle, and what is given away is
no longer there. -/
structure Spends (router : SprayAndWait) (copies left : UInt64) (call : Call) : Prop where
  fresh : ∀ peer ∈ call.selection.peers, peer ∉ call.knownHolders
  basic : router.binary = false → left.toNat + call.selection.peers.length = copies.toNat
  binary : router.binary = true → left.toNat + emitted call.selection = copies.toNat ∧
    call.selection.peers.length ≤ 1 ∧ (1 ≤ copies.toNat → 1 ≤ left.toNat)
  blocks : ∀ bundle, call.selection.bundle = some bundle → ∀ cb ∈ bundle.extensionBlocks,
    ∀ given : UInt64, cb.value = some (.binarySpray given) → 1 ≤ given.toNat

omit [Cboring] [Crc16] [Ed25519] [GoSort] in
theorem Spends.nothing (router : SprayAndWait) (copies : UInt64) (knownHolders : List EndpointID)
    (store : BundleStore) : Spends router copies copies ⟨knownHolders, [], none, store⟩ where
  fresh := by simp
  basic := fun _ => rfl
  binary := fun _ => ⟨rfl, Nat.zero_le _, id⟩
  blocks := by simp

variable {bd : BundleDescriptor}

omit [Cboring] [Crc16] [Ed25519] [GoSort] in
theorem counts_setSprayCopies (held : bst.descriptors[ref]? = some bd) (live : bd.deleted = false)
    (faults : Faults)
    (left : UInt64) : Counts (setSprayCopies faults bst ref left) ref (counted bd left) left where
  held := by
    rw [descriptors_setSprayCopies, held]
    simp
  live := live
  counter := by
    rw [getSprayCopies_setSprayCopies, held]
    exact if_pos ⟨rfl, rfl⟩

omit [Sha256] [Badgerhold] [Cboring] [Crc16] [Ed25519] in
/-- The decoder makes no Binary Spray Blocks, so the only one is the new one. -/
theorem mem_attachCopies {loaded attached : Bundle} {sendCopies given : UInt64} {cb : CanonicalBlock}
    (faithful : ∀ cb ∈ loaded.extensionBlocks, cb.Faithful)
    (done : attachCopies loaded sendCopies = .ok attached)
    (member : cb ∈ attached.extensionBlocks) (value : cb.value = some (.binarySpray given)) :
    given = sendCopies := by
  obtain ⟨kept, number, fewer, same⟩ := perm_of_attachCopies done
  rcases mem_append.mp (same.mem_iff.mp member) with old | new
  · obtain ⟨held, there, managed, -⟩ := faithful cb (fewer.subset old)
    rw [Option.mem_def, value] at there
    cases there
    exact managed.elim
  · rw [mem_singleton.mp new] at value
    cases value
    rfl

theorem Counts.spends (counts : Counts bst ref bd copies) (room : Allocatable peers)
    {selection : Selection}
    (selected : router.selectPeersForForwarding faults now intn bst ref peers = .ok selection) :
    ∃ changed left, Counts selection.store ref changed left ∧
      Spends router copies left ⟨bd.metadata.knownHolders, selection⟩ := by
  rw [selectPeersForForwarding, counts.counter] at selected
  have fresh : ∀ peer ∈ filterPeers bst ref peers, peer ∉ bd.metadata.knownHolders :=
    fun peer member => ((mem_filterPeers counts.held).mp member).2.2
  cases mode : router.binary with
  | false =>
    obtain ⟨store, same, left⟩ := selectPeers_basic mode room faults now intn bst ref copies
    cases same.symm.trans selected
    rcases left with ⟨rfl, nobody⟩ | ⟨left, rfl, spent⟩
    · rw [nobody]
      exact ⟨bd, copies, counts, .nothing router copies _ _⟩
    · refine ⟨_, left, counts_setSprayCopies counts.held counts.live faults left, ?_, fun _ => spent, ?_, ?_⟩
      · exact fun peer member => fresh peer (mem_of_mem_take member)
      · simp [mode]
      · simp
  | true =>
    rcases selectPeers_binary mode selected with rfl | ⟨many, loaded, attached, peer, loading,
      attaching, pick, rfl⟩
    · exact ⟨bd, copies, counts, .nothing router copies _ _⟩
    · have faithful := faithful_of_load loading
      have more : 1 < copies.toNat := UInt64.lt_iff_toNat_lt.mp many
      have half : (copies / 2).toNat = copies.toNat / 2 := UInt64.toNat_div copies 2
      have kept := retained_add_half copies
      refine ⟨_, retained copies, counts_setSprayCopies counts.held counts.live faults _, ?_, by simp [mode], ?_, ?_⟩
      · intro other member
        obtain rfl := mem_singleton.mp member
        exact fresh other (mem_of_getElem? pick)
      · intro _
        have given : emitted ⟨[peer], some attached, setSprayCopies faults bst ref (retained copies)⟩ =
            (copies / 2).toNat := carried_attachCopies faithful attaching
        rw [given]
        exact ⟨kept, Nat.le_refl _, by omega⟩
      · intro bundle same cb member given value
        cases same
        rw [mem_attachCopies faithful attaching member value, half]
        omega

/-- The copies with which the bundle was created are left or have been given
away, all of them to nodes that had not got the bundle. -/
structure Conserved (router : SprayAndWait) (left : UInt64) (calls : List Call) : Prop where
  fresh : ∀ call ∈ calls, ∀ peer ∈ call.selection.peers, peer ∉ call.knownHolders
  basic : router.binary = false →
    left.toNat + tally (fun call => call.selection.peers.length) calls = router.copies.toNat
  binary : router.binary = true →
    left.toNat + tally (fun call => emitted call.selection) calls = router.copies.toNat ∧
      (∀ call ∈ calls, call.selection.peers.length ≤ 1) ∧ (1 ≤ router.copies.toNat → 1 ≤ left.toNat)
  blocks : ∀ call ∈ calls, ∀ bundle, call.selection.bundle = some bundle →
    ∀ cb ∈ bundle.extensionBlocks,
    ∀ given : UInt64, cb.value = some (.binarySpray given) → 1 ≤ given.toNat

omit [Cboring] [Crc16] [Ed25519] [GoSort] in
theorem Conserved.spends {left : UInt64} {calls : List Call} {call : Call}
    (conserved : Conserved router copies calls) (spends : Spends router copies left call) :
    Conserved router left (calls ++ [call]) where
  fresh := forall_mem_append.mpr ⟨conserved.fresh, forall_mem_singleton.mpr spends.fresh⟩
  basic := by
    intro basic
    have before := conserved.basic basic
    have now := spends.basic basic
    rw [tally_append, tally_cons, tally_nil]
    omega
  binary := by
    intro binary
    obtain ⟨before, single, some⟩ := conserved.binary binary
    obtain ⟨now, one, kept⟩ := spends.binary binary
    refine ⟨?_, forall_mem_append.mpr ⟨single, forall_mem_singleton.mpr one⟩,
      fun many => kept (some many)⟩
    rw [tally_append, tally_cons, tally_nil]
    omega
  blocks := forall_mem_append.mpr ⟨conserved.blocks, forall_mem_singleton.mpr spends.blocks⟩

/-- Whatever happens between the calls, the counter says what has not been given
away. -/
theorem copies_conserved {calls : List Call} (spraying : Spraying router ref bst calls) :
    ∃ left, getSprayCopies bst ref = some left ∧ Conserved router left calls := by
  have counted : ∃ bd left, Counts bst ref bd left ∧ Conserved router left calls := by
    induction spraying with
    | notified faults held live =>
      refine ⟨_, router.copies, counts_setSprayCopies held live faults router.copies, ?_, ?_, ?_, ?_⟩
      · simp
      · exact fun _ => rfl
      · exact fun _ => ⟨rfl, by simp, id⟩
      · simp
    | grown spraying grows ih =>
      obtain ⟨bd, left, counts, conserved⟩ := ih
      obtain ⟨changed, held, deleted, -⟩ := grows.descriptor bd counts.held
      exact ⟨changed, left, ⟨held, deleted.trans counts.live, grows.counter.trans counts.counter⟩, conserved⟩
    | selected spraying held room selected ih =>
      obtain ⟨bd, copies, counts, conserved⟩ := ih
      obtain rfl := Option.some.inj (counts.held.symm.trans held)
      obtain ⟨changed, left, next, spends⟩ := counts.spends room selected
      exact ⟨changed, left, next, conserved.spends spends⟩
  obtain ⟨bd, left, counts, conserved⟩ := counted
  exact ⟨left, counts.counter, conserved⟩

end SprayAndWait

open SprayAndWait

open scoped Samples

theorem not_deliversDirectly {router : SprayAndWait} {bst : BundleStore} {bd : BundleDescriptor}
    {peers : List EndpointID} {selection : Selection}
    (connected : ∃ peer ∈ peers, Recipient bd peer)
    (selected : router.selectPeersForForwarding .none 0 0 bst 0 peers = .ok selection)
    (others : ∀ peer ∈ selection.peers, ¬Recipient bd peer) :
    ¬router.DeliversDirectly .none 0 bst 0 bd peers := by
  intro delivers
  obtain ⟨same, answered, peer, member, recipient⟩ := delivers connected 0
  cases selected.symm.trans answered
  exact others peer member recipient

theorem lastCopy_deliversDirectly : ∃ bd, (holding "broker" 1).descriptors[0]? = some bd ∧
    Recipient bd (nodeEndpoint "executor") ∧
    DeliversDirectly ⟨4, false⟩ .none 0 (holding "broker" 1) 0 bd [nodeEndpoint "executor"] := by
  have room : Allocatable [nodeEndpoint "executor"] := Nat.one_le_two_pow
  refine ⟨_, rfl, by decide +kernel, (deliversDirectly_iff_inReach rfl room ?_).mpr fun _ => ?_⟩
  · intro bundle loaded
    cases loaded
    exact Nat.zero_le _
  · exact ⟨rfl, [], _, [], rfl, by decide +kernel, by decide +kernel⟩

/-- In basic mode no copy is left, or the last one goes to a relay; in binary
mode the last copy is kept, or the relay is picked. -/
theorem executor_not_deliversDirectly :
    (∃ bd, (holding "broker" 0).descriptors[0]? = some bd ∧
      ¬DeliversDirectly ⟨4, false⟩ .none 0 (holding "broker" 0) 0 bd [nodeEndpoint "executor"]) ∧
    (∃ bd, (holding "broker" 1).descriptors[0]? = some bd ∧
      ¬DeliversDirectly ⟨4, false⟩ .none 0 (holding "broker" 1) 0 bd
        [nodeEndpoint "relay", nodeEndpoint "executor"]) ∧
    (∃ bd, (holding "broker" 1).descriptors[0]? = some bd ∧
      ¬DeliversDirectly ⟨4, true⟩ .none 0 (holding "broker" 1) 0 bd [nodeEndpoint "executor"]) ∧
    ∃ bd, (holding "broker" 2).descriptors[0]? = some bd ∧
      ¬DeliversDirectly ⟨4, true⟩ .none 0 (holding "broker" 2) 0 bd
        [nodeEndpoint "relay", nodeEndpoint "executor"] := by
  refine ⟨⟨_, rfl, ?_⟩, ⟨_, rfl, ?_⟩, ⟨_, rfl, ?_⟩, ⟨_, rfl, ?_⟩⟩
  all_goals exact not_deliversDirectly (by decide +kernel) rfl (by decide +kernel)

/-- Four copies in binary mode: two of them go to the relay and then one to the
executor. -/
theorem twoCalls_conserved : ∃ bst calls, Spraying ⟨4, true⟩ 0 bst calls ∧
    calls.length = 2 ∧
    ∃ left, getSprayCopies bst 0 = some left ∧ Conserved ⟨4, true⟩ left calls := by
  have room : ∀ peer : EndpointID, Allocatable [peer] := fun _ => Nat.one_le_two_pow
  have start : Spraying ⟨4, true⟩ 0 (holding "broker" 4) [] := .notified .none rfl rfl
  have first := start.selected rfl (room (nodeEndpoint "relay"))
    (rfl : selectPeersForForwarding ⟨4, true⟩ .none 0 0 (holding "broker" 4) 0
      [nodeEndpoint "relay"] = .ok _)
  have second := first.selected rfl (room (nodeEndpoint "executor"))
    (rfl : selectPeersForForwarding ⟨4, true⟩ .none 0 0 _ 0 [nodeEndpoint "executor"] = .ok _)
  exact ⟨_, _, second, rfl, copies_conserved second⟩

end RecDtn.Routing
