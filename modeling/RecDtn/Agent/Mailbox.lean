import RecDtn.Store.Lifecycle

namespace RecDtn.Agent

open Lang Bpv7 Store List

def idAlreadyRegisteredError (eid : EndpointID) : GoError :=
  .text s!"ID has already been registered: {display eid.string}"

def noSuchIDError (eid : EndpointID) : GoError :=
  .text s!"No such ID has been registered: {display eid.string}"

def alreadyDeliveredError (bid : BundleID) : GoError :=
  .text s!"Bundle {display bid.string} already in mailbox"

structure Mailbox where
  messages : AList fun _ : BundleID => Bool

/-- A bundle as it was loaded, with the ID it was asked for and the descriptor
it was loaded through. -/
structure Retrieved where
  bid : BundleID
  descriptor : Ref
  bundle : Bundle

/-- What a call that retrieves bundles hands back. -/
structure Retrieval where
  bundles : List Retrieved
  err : Option (Wire.Fault GoError)
  mailbox : Mailbox

variable {other : BundleID}

namespace Mailbox

def new : Mailbox := ⟨∅⟩

def Holds (mailbox : Mailbox) (bid : BundleID) : Prop := bid ∈ mailbox.messages

instance (mailbox : Mailbox) (bid : BundleID) : Decidable (mailbox.Holds bid) :=
  inferInstanceAs (Decidable (bid ∈ mailbox.messages))

variable [Sha256] [Badgerhold] (mailbox : Mailbox) (bst : BundleStore)

/-- `Deliver` of the descriptor with this ID. -/
def deliver (bid : BundleID) : Go Unit × Mailbox :=
  if bid ∈ mailbox.messages then (.error (.error (alreadyDeliveredError bid)), mailbox)
  else
    match bst.getBundleDescriptor bid with
    | .error fault => (.error fault, mailbox)
    | .ok _ => (.ok (), ⟨mailbox.messages.insert bid false⟩)

def markRetrieved (bid : BundleID) : Mailbox := ⟨mailbox.messages.insert bid true⟩

variable [Cboring] [Crc16] [Ed25519]

/-- The loop of `GetAll` over these IDs. A bundle that is not in the store ends
it without the bundles that were loaded before. -/
def retrieve (now : Time) (mailbox : Mailbox) (bndls : List Retrieved) : List BundleID → Retrieval
  | [] => ⟨bndls, none, mailbox⟩
  | bid :: rest =>
    match bst.getBundleDescriptor bid with
    | .error fault => ⟨[], some fault, mailbox⟩
    | .ok bd =>
      match bst.load now bd with
      | .error fault => ⟨bndls, some fault, mailbox⟩
      | .ok bndl => retrieve now (mailbox.markRetrieved bid) (bndls ++ [⟨bid, bd, bndl⟩]) rest

def getAll (now : Time) (order : RangeOrder BundleID) (remove : Bool) : Retrieval :=
  let retrieval := retrieve bst now mailbox [] (order.visit mailbox.messages.keys)
  match retrieval.err with
  | some _ => retrieval
  | none => if remove then { retrieval with mailbox := new } else retrieval

/-- `GC`: forget the bundles that can no longer be loaded from the store. -/
def gc (order : RangeOrder BundleID) : Mailbox :=
  (order.visit mailbox.messages.keys).foldl (fun left bid =>
    match bst.getBundleDescriptor bid with
    | .error _ => ⟨left.messages.erase bid⟩
    | .ok bd =>
      if (bst.descriptors[bd]?.map BundleDescriptor.deleted).getD false then ⟨left.messages.erase bid⟩
      else left) mailbox

variable {bid : BundleID}

section

omit [Cboring] [Crc16] [Ed25519]

variable {mailbox bst} in
theorem holds_deliver (held : (mailbox.deliver bst bid).2.Holds other) :
    mailbox.Holds other ∨ other = bid := by
  unfold deliver at held
  split at held
  · exact .inl held
  · split at held
    · exact .inl held
    · exact (AList.mem_insert _).mp held |>.symm

variable {mailbox bst} in
theorem holds_of_deliver (delivered : (mailbox.deliver bst bid).1 = .ok ()) :
    (mailbox.deliver bst bid).2.Holds bid := by
  unfold deliver at delivered ⊢
  by_cases waiting : bid ∈ mailbox.messages
  · rw [if_pos waiting] at delivered
    cases delivered
  · rw [if_neg waiting] at delivered ⊢
    cases found : bst.getBundleDescriptor bid with
    | error fault =>
      rw [found] at delivered
      cases delivered
    | ok bd => exact (AList.mem_insert _).mpr (.inl rfl)

variable {mailbox bst} in
theorem holds_gc {order : RangeOrder BundleID} (held : (mailbox.gc bst order).Holds bid) :
    mailbox.Holds bid := by
  unfold gc at held
  generalize order.visit mailbox.messages.keys = visited at held
  induction visited generalizing mailbox with
  | nil => exact held
  | cons first rest ih =>
    have left := ih held
    have erased : (⟨mailbox.messages.erase first⟩ : Mailbox).Holds bid → mailbox.Holds bid :=
      fun still => (AList.mem_erase.mp still).2
    simp only at left
    split at left
    · exact erased left
    · split at left
      · exact erased left
      · exact left

end

end Mailbox

structure MailboxBank where
  registeredIDs : List EndpointID
  mailboxes : AList fun _ : EndpointID => Mailbox

namespace MailboxBank

def new : MailboxBank := ⟨[], ∅⟩

variable (bank : MailboxBank)

def register (eid : EndpointID) : Except GoError Unit × MailboxBank :=
  if eid ∈ bank.mailboxes then (.error (idAlreadyRegisteredError eid), bank)
  else (.ok (), ⟨bank.registeredIDs ++ [eid], bank.mailboxes.insert eid .new⟩)

def getMailbox (eid : EndpointID) : Except GoError Mailbox :=
  match bank.mailboxes.lookup eid with
  | none => .error (noSuchIDError eid)
  | some mailbox => .ok mailbox

/-- A mailbox changes behind its pointer. -/
def put (eid : EndpointID) (mailbox : Mailbox) : MailboxBank :=
  { bank with mailboxes := bank.mailboxes.insert eid mailbox }

section

variable [Sha256] [Badgerhold] (bst : BundleStore)

/-- The first half of `Deliver`: the mailbox that the descriptor's metadata ask
for, and the ID. -/
def addressee (ref : Ref) : Go (EndpointID × BundleID) :=
  match bst.descriptors[ref]? with
  | none => .error .panic
  | some bd =>
    if bd.deleted then .error (.error (bundleDeletedError bd.metadata.id))
    else if bd.metadata.destination ∈ bank.mailboxes
      then .ok (bd.metadata.destination, bd.metadata.id)
    else .error (.error (noSuchIDError bd.metadata.destination))

/-- The second half. The store can change in between. -/
def deliverTo (destination : EndpointID) (bid : BundleID) : Go Unit × MailboxBank :=
  match bank.mailboxes.lookup destination with
  | none => (.error (.error (noSuchIDError destination)), bank)
  | some mailbox =>
    let delivered := mailbox.deliver bst bid
    (delivered.1, bank.put destination delivered.2)

def deliver (ref : Ref) : Go Unit × MailboxBank :=
  match bank.addressee bst ref with
  | .error fault => (.error fault, bank)
  | .ok (destination, bid) => bank.deliverTo bst destination bid

end

/-- The ID waits in the mailbox of this endpoint. -/
def Holds (eid : EndpointID) (bid : BundleID) : Prop :=
  ∃ mailbox, bank.mailboxes.lookup eid = some mailbox ∧ mailbox.Holds bid

instance (eid : EndpointID) (bid : BundleID) : Decidable (bank.Holds eid bid) :=
  match found : bank.mailboxes.lookup eid with
  | none => .isFalse fun ⟨_, there, _⟩ => nomatch found.symm.trans there
  | some mailbox => decidable_of_iff (mailbox.Holds bid) (by simp [Holds, found])

variable {bank} {eid : EndpointID} {bid : BundleID}

theorem lookup_put {mailbox : Mailbox} (other : EndpointID) :
    (bank.put eid mailbox).mailboxes.lookup other =
      if other = eid then some mailbox else bank.mailboxes.lookup other := by
  by_cases same : other = eid
  · rw [if_pos same, same]
    exact AList.lookup_insert _
  · rw [if_neg same]
    exact AList.lookup_insert_ne same

theorem holds_put {other : EndpointID} {mailbox : Mailbox} :
    (bank.put eid mailbox).Holds other bid ↔
      other = eid ∧ mailbox.Holds bid ∨ other ≠ eid ∧ bank.Holds other bid := by
  unfold Holds
  rw [lookup_put]
  by_cases same : other = eid <;> simp [same]

theorem holds_deliverTo [Sha256] [Badgerhold] {bst : BundleStore} {destination : EndpointID}
    (held : (bank.deliverTo bst destination bid).2.Holds eid other) :
    bank.Holds eid other ∨ eid = destination ∧ other = bid := by
  unfold deliverTo at held
  split at held
  · exact .inl held
  · rename_i mailbox found
    rcases holds_put.mp held with ⟨rfl, here⟩ | ⟨-, elsewhere⟩
    · rcases Mailbox.holds_deliver here with before | rfl
      · exact .inl ⟨mailbox, found, before⟩
      · exact .inr ⟨rfl, rfl⟩
    · exact .inl elsewhere

theorem holds_of_deliverTo [Sha256] [Badgerhold] {bst : BundleStore} {destination : EndpointID}
    (delivered : (bank.deliverTo bst destination bid).1 = .ok ()) :
    (bank.deliverTo bst destination bid).2.Holds destination bid := by
  unfold deliverTo at delivered ⊢
  cases found : bank.mailboxes.lookup destination with
  | none =>
    rw [found] at delivered
    cases delivered
  | some mailbox =>
    rw [found] at delivered
    exact holds_put.mpr (.inl ⟨rfl, Mailbox.holds_of_deliver delivered⟩)

theorem holds_register {other : EndpointID} :
    (bank.register eid).2.Holds other bid ↔ bank.Holds other bid := by
  unfold register
  split
  · rfl
  · rename_i unknown
    change (bank.put eid .new).Holds other bid ↔ _
    rw [holds_put]
    have nothing : ¬Mailbox.new.Holds bid := AList.notMem_empty bid
    have missing : other = eid → ¬bank.Holds other bid := by
      rintro rfl ⟨mailbox, found, -⟩
      exact unknown (AList.lookup_isSome.mp (by simp [found]))
    tauto

end MailboxBank

section

variable [Sha256] [Badgerhold] [Cboring] [Crc16] [Ed25519] {bst : BundleStore} {now : Time}

/-- The bundle with this ID is in the store, and its file can be loaded. -/
def Loadable (bst : BundleStore) (now : Time) (bid : BundleID) : Prop :=
  ∃ bd bndl, bst.getBundleDescriptor bid = .ok bd ∧ bst.load now bd = .ok bndl

/-- The ID, its descriptor and the bundle loaded through it belong together. -/
def Retrieved.From (retrieved : Retrieved) (bst : BundleStore) (now : Time) : Prop :=
  bst.getBundleDescriptor retrieved.bid = .ok retrieved.descriptor ∧
    bst.load now retrieved.descriptor = .ok retrieved.bundle

namespace Mailbox

variable {mailbox : Mailbox} {bids : List BundleID}

omit [Sha256] [Badgerhold] [Cboring] [Crc16] [Ed25519] in
theorem holds_markRetrieved {bid : BundleID} (held : mailbox.Holds bid) :
    (mailbox.markRetrieved bid).Holds other ↔ mailbox.Holds other := by
  simp only [Holds, markRetrieved, AList.mem_insert]
  constructor
  · rintro (rfl | there)
    · exact held
    · exact there
  · exact .inr

/-- All these IDs are marked. -/
def markEach (mailbox : Mailbox) (bids : List BundleID) : Mailbox := bids.foldl markRetrieved mailbox

omit [Sha256] [Badgerhold] [Cboring] [Crc16] [Ed25519] in
theorem holds_markEach (held : ∀ bid ∈ bids, mailbox.Holds bid) :
    (mailbox.markEach bids).Holds other ↔ mailbox.Holds other := by
  induction bids generalizing mailbox with
  | nil => rfl
  | cons bid rest ih =>
    have here := held bid mem_cons_self
    have later : ∀ next ∈ rest, (mailbox.markRetrieved bid).Holds next := by
      intro next member
      exact (holds_markRetrieved here).mpr (held next (mem_cons_of_mem bid member))
    exact (ih later).trans (holds_markRetrieved here)

/-- All of them can be loaded, or there is a first one that cannot. -/
theorem loadable_or_first (bst : BundleStore) (now : Time) (bids : List BundleID) :
    (∀ bid ∈ bids, Loadable bst now bid) ∨
      ∃ before bid after, bids = before ++ bid :: after ∧
      (∀ other ∈ before, Loadable bst now other) ∧ ¬Loadable bst now bid := by
  induction bids with
  | nil => exact .inl (by simp)
  | cons bid rest ih =>
    by_cases here : Loadable bst now bid
    · rcases ih with all | ⟨before, first, after, rfl, loadable, missing⟩
      · exact .inl (forall_mem_cons.mpr ⟨here, all⟩)
      · exact .inr ⟨bid :: before, first, after, rfl, forall_mem_cons.mpr ⟨here, loadable⟩, missing⟩
    · exact .inr ⟨[], bid, rest, rfl, by simp, here⟩

theorem retrieve_append {before : List BundleID} (loadable : ∀ bid ∈ before, Loadable bst now bid)
    (mailbox : Mailbox) (bndls : List Retrieved) (rest : List BundleID) : ∃ added,
      added.map Retrieved.bid = before ∧ (∀ retrieved ∈ added, retrieved.From bst now) ∧
        retrieve bst now mailbox bndls (before ++ rest) =
          retrieve bst now (mailbox.markEach before) (bndls ++ added) rest := by
  induction before generalizing mailbox bndls with
  | nil => exact ⟨[], rfl, by simp, by simp [markEach]⟩
  | cons bid later ih =>
    obtain ⟨bd, bndl, found, loaded⟩ := loadable bid mem_cons_self
    obtain ⟨added, bids, each, same⟩ :=
      ih (fun other member => loadable other (mem_cons_of_mem _ member))
      (mailbox.markRetrieved bid) (bndls ++ [⟨bid, bd, bndl⟩])
    refine ⟨⟨bid, bd, bndl⟩ :: added, by rw [map_cons, bids],
      forall_mem_cons.mpr ⟨⟨found, loaded⟩, each⟩, ?_⟩
    rw [cons_append, retrieve, found]
    simp only [loaded, same, markEach, foldl_cons, append_assoc, singleton_append]

/-- The loop fails at an ID that cannot be loaded. -/
theorem retrieve_of_unloadable {bid : BundleID} (missing : ¬Loadable bst now bid)
    (mailbox : Mailbox) (bndls : List Retrieved) (after : List BundleID) :
    (∃ fault, (retrieve bst now mailbox bndls (bid :: after)).err = some fault) ∧
      (retrieve bst now mailbox bndls (bid :: after)).mailbox = mailbox := by
  cases found : bst.getBundleDescriptor bid with
  | error fault => exact ⟨⟨fault, by simp [retrieve, found]⟩, by simp [retrieve, found]⟩
  | ok bd =>
    cases loaded : bst.load now bd with
    | error fault =>
      exact ⟨⟨fault, by simp [retrieve, found, loaded]⟩, by simp [retrieve, found, loaded]⟩
    | ok bndl => exact absurd ⟨bd, bndl, found, loaded⟩ missing

/-- If every bundle can be loaded, the loop adds them all. -/
theorem retrieve_of_loadable (loadable : ∀ bid ∈ bids, Loadable bst now bid) (mailbox : Mailbox)
    (bndls : List Retrieved) :
    ∃ added, added.map Retrieved.bid = bids ∧
      (∀ retrieved ∈ added, retrieved.From bst now) ∧
      retrieve bst now mailbox bndls bids = ⟨bndls ++ added, none, mailbox.markEach bids⟩ := by
  obtain ⟨added, bids, each, same⟩ := retrieve_append loadable mailbox bndls []
  rw [append_nil] at same
  exact ⟨added, bids, each, same⟩

/-- If one of them cannot be loaded, the loop fails and keeps the IDs. -/
theorem retrieve_of_not_loadable (missing : ∃ bid ∈ bids, ¬Loadable bst now bid)
    (held : ∀ bid ∈ bids, mailbox.Holds bid) (bndls : List Retrieved) :
    (∃ fault, (retrieve bst now mailbox bndls bids).err = some fault) ∧
      ∀ bid, (retrieve bst now mailbox bndls bids).mailbox.Holds bid ↔ mailbox.Holds bid := by
  rcases loadable_or_first bst now bids with all | ⟨before, bid, after, rfl, loadable, unloadable⟩
  · obtain ⟨bid, member, unloadable⟩ := missing
    exact absurd (all bid member) unloadable
  · obtain ⟨added, -, -, same⟩ := retrieve_append loadable mailbox bndls (bid :: after)
    obtain ⟨failed, left⟩ :=
      retrieve_of_unloadable unloadable (mailbox.markEach before) (bndls ++ added) after
    rw [same]
    refine ⟨failed, fun other => ?_⟩
    rw [left]
    exact holds_markEach fun other member => held other (mem_append_left _ member)

def Ready (mailbox : Mailbox) (bst : BundleStore) (now : Time) : Prop :=
  ∀ bid, mailbox.Holds bid → Loadable bst now bid

theorem getAll_of_ready (ready : mailbox.Ready bst now) (order : RangeOrder BundleID) :
    (mailbox.getAll bst now order true).err = none ∧
      (mailbox.getAll bst now order true).mailbox = new ∧
      ((mailbox.getAll bst now order true).bundles.map Retrieved.bid).Perm mailbox.messages.keys ∧
      ∀ retrieved ∈ (mailbox.getAll bst now order true).bundles, retrieved.From bst now := by
  have visited : ∀ bid ∈ order.visit mailbox.messages.keys, Loadable bst now bid := by
    intro bid member
    exact ready bid (AList.mem_keys.mpr ((order.mem_visit _ _).mp member))
  obtain ⟨added, bids, each, same⟩ := retrieve_of_loadable visited mailbox []
  simp only [getAll, same, ↓reduceIte, nil_append, bids, true_and]
  exact ⟨order.perm _, each⟩

theorem getAll_of_not_ready (unready : ¬mailbox.Ready bst now) (order : RangeOrder BundleID)
    (remove : Bool) : (∃ fault, (mailbox.getAll bst now order remove).err = some fault) ∧
      ∀ bid, (mailbox.getAll bst now order remove).mailbox.Holds bid ↔ mailbox.Holds bid := by
  have missing : ∃ bid ∈ order.visit mailbox.messages.keys, ¬Loadable bst now bid := by
    by_contra none
    apply unready
    intro bid held
    by_contra unloadable
    exact none ⟨bid, (order.mem_visit _ _).mpr (AList.mem_keys.mp held), unloadable⟩
  have held : ∀ bid ∈ order.visit mailbox.messages.keys, mailbox.Holds bid := by
    intro bid member
    exact AList.mem_keys.mpr ((order.mem_visit _ _).mp member)
  obtain ⟨⟨fault, failed⟩, same⟩ := retrieve_of_not_loadable missing held []
  simp only [getAll, failed]
  exact ⟨⟨fault, rfl⟩, same⟩

end Mailbox

end

end RecDtn.Agent
