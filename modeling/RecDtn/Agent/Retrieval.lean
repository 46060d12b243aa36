import RecDtn.Agent.Mailbox

/-! Which IDs of a mailbox a retrieval marks or removes. -/

namespace RecDtn.Agent

open Lang Bpv7 Store List

def noBundleInMailboxError (bid : BundleID) : GoError :=
  .text s!"No Bundle with id {display bid.string} in mailbox"

/-- The bundles that the caller gets, with their IDs. A panic returns nothing. -/
def Retrieval.returned (retrieval : Retrieval) : List BundleID :=
  match retrieval.err with
  | none | some (.error _) => retrieval.bundles.map Retrieved.bid
  | some _ => []

namespace Mailbox

/-- `mailbox.messages[bid]`. -/
def wasRetrieved (mailbox : Mailbox) (bid : BundleID) : Bool :=
  (mailbox.messages.lookup bid).getD false

variable [Sha256] [Badgerhold] [Cboring] [Crc16] [Ed25519]

section Calls

variable (mailbox : Mailbox) (bst : BundleStore)

def get (now : Time) (bid : BundleID) (remove : Bool) : Retrieval :=
  if bid ∈ mailbox.messages then
    match bst.getBundleDescriptor bid with
    | .error fault => ⟨[], some fault, mailbox⟩
    | .ok bd =>
      match bst.load now bd with
      | .error fault => ⟨[], some fault, mailbox⟩
      | .ok bndl =>
        ⟨[⟨bid, bd, bndl⟩], none,
          if remove then ⟨mailbox.messages.erase bid⟩ else mailbox.markRetrieved bid⟩
  else ⟨[], some (.error (noBundleInMailboxError bid)), mailbox⟩

/-- The loop of `GetNew`: that of `GetAll`, without what has been retrieved
before. -/
def retrieveNew (now : Time) (mailbox : Mailbox) (bndls : List Retrieved) :
    List BundleID → Retrieval
  | [] => ⟨bndls, none, mailbox⟩
  | bid :: rest =>
    if mailbox.wasRetrieved bid then retrieveNew now mailbox bndls rest
    else
      match bst.getBundleDescriptor bid with
      | .error fault => ⟨[], some fault, mailbox⟩
      | .ok bd =>
        match bst.load now bd with
        | .error fault => ⟨bndls, some fault, mailbox⟩
        | .ok bndl => retrieveNew now (mailbox.markRetrieved bid) (bndls ++ [⟨bid, bd, bndl⟩]) rest

def getNew (now : Time) (order : RangeOrder BundleID) (remove : Bool) : Retrieval :=
  let retrieval := retrieveNew bst now mailbox [] (order.visit mailbox.messages.keys)
  match retrieval.err with
  | some _ => retrieval
  | none => if remove then { retrieval with mailbox := new } else retrieval

end Calls

/-- The three ways to retrieve bundles. -/
inductive Call where
  | get (bid : BundleID)
  | getAll
  | getNew

def answer (mailbox : Mailbox) (bst : BundleStore) (now : Time) (order : RangeOrder BundleID)
    (remove : Bool) : Call → Retrieval
  | .get bid => mailbox.get bst now bid remove
  | .getAll => mailbox.getAll bst now order remove
  | .getNew => mailbox.getNew bst now order remove

/-- The IDs that a call goes through, as far as it gets. -/
def visited (mailbox : Mailbox) (order : RangeOrder BundleID) : Call → List BundleID
  | .get bid => [bid]
  | .getAll => order.visit mailbox.messages.keys
  | .getNew => (order.visit mailbox.messages.keys).filter fun bid => !mailbox.wasRetrieved bid

variable {mailbox : Mailbox} {bst : BundleStore} {now : Time} {bid other : BundleID}

omit [Sha256] [Badgerhold] [Cboring] [Crc16] [Ed25519] in
theorem wasRetrieved_markRetrieved :
    (mailbox.markRetrieved bid).wasRetrieved other =
      (decide (other = bid) || mailbox.wasRetrieved other) := by
  unfold wasRetrieved markRetrieved
  by_cases same : other = bid
  · subst same
    rw [AList.lookup_insert]
    simp
  · rw [AList.lookup_insert_ne same]
    simp [same]

variable {bids : List BundleID}

omit [Sha256] [Badgerhold] [Cboring] [Crc16] [Ed25519] in
theorem wasRetrieved_markEach : (mailbox.markEach bids).wasRetrieved other = true ↔
    other ∈ bids ∨ mailbox.wasRetrieved other = true := by
  unfold markEach
  induction bids generalizing mailbox with
  | nil => simp
  | cons first rest ih =>
    rw [foldl_cons, ih, wasRetrieved_markRetrieved]
    simp only [Bool.or_eq_true, decide_eq_true_eq, mem_cons]
    tauto

/-- The loop of `GetNew` is that of `GetAll` over the IDs that are new. -/
theorem retrieveNew_eq (nodup : bids.Nodup) (mailbox : Mailbox) (bndls : List Retrieved) :
    retrieveNew bst now mailbox bndls bids =
      retrieve bst now mailbox bndls (bids.filter fun bid => !mailbox.wasRetrieved bid) := by
  induction bids generalizing mailbox bndls with
  | nil => rfl
  | cons bid rest ih =>
    obtain ⟨absent, nodup⟩ := nodup_cons.mp nodup
    rw [retrieveNew]
    cases known : mailbox.wasRetrieved bid with
    | true =>
      rw [if_pos rfl, ih nodup, filter_cons_of_neg (by simp [known])]
    | false =>
      have others : rest.filter (fun other => !(mailbox.markRetrieved bid).wasRetrieved other) =
          rest.filter fun other => !mailbox.wasRetrieved other := by
        apply filter_congr
        intro other member
        have different : other ≠ bid := fun same => absent (same ▸ member)
        rw [wasRetrieved_markRetrieved]
        simp [different]
      rw [filter_cons_of_pos (by simp [known]), retrieve, if_neg (by simp)]
      have onward := fun bndls => others ▸ ih nodup (mailbox.markRetrieved bid) bndls
      cases bst.getBundleDescriptor bid with
      | error fault => rfl
      | ok bd =>
        cases loaded : bst.load now bd with
        | error fault => simp only [loaded]
        | ok bndl => simp only [loaded, onward]

/-- The call returns nothing when it comes to this ID: the store does not know
it, or its file makes the parser panic. -/
def Vanished (bst : BundleStore) (now : Time) (bid : BundleID) : Prop :=
  (∃ fault, bst.getBundleDescriptor bid = .error fault) ∨
    ∃ bd fault, bst.getBundleDescriptor bid = .ok bd ∧ bst.load now bd = .error fault ∧
      ∀ cause, fault ≠ .error cause

/-- When the loop comes to an ID that has vanished, it has passed only IDs that
were marked before. -/
def Settles (mailbox : Mailbox) (bst : BundleStore) (now : Time) (bids : List BundleID) : Prop :=
  ∀ before bid after, bids = before ++ bid :: after →
    (∀ other ∈ before, Loadable bst now other) →
    Vanished bst now bid → ∀ other ∈ before, mailbox.wasRetrieved other = true

/-- What the loop leaves at the first ID that it cannot load. -/
theorem retrieve_of_vanished {before : List BundleID}
    (loadable : ∀ other ∈ before, Loadable bst now other)
    (vanished : Vanished bst now bid) (mailbox : Mailbox) (after : List BundleID) :
    (retrieve bst now mailbox [] (before ++ bid :: after)).returned = [] ∧
      (retrieve bst now mailbox [] (before ++ bid :: after)).mailbox = mailbox.markEach before := by
  obtain ⟨added, -, -, same⟩ := retrieve_append loadable mailbox [] (bid :: after)
  rw [same, retrieve]
  rcases vanished with ⟨fault, missing⟩ | ⟨bd, fault, found, failed, panics⟩
  · simp only [missing]
    refine ⟨?_, trivial⟩
    unfold Retrieval.returned
    split <;> rfl
  · simp only [found, failed]
    refine ⟨?_, trivial⟩
    cases fault with
    | error cause => exact absurd rfl (panics cause)
    | panic => rfl
    | spin => rfl

/-- If the loop does not come to an ID that has vanished, the bundles that it
has marked are returned. -/
theorem retrieve_returned (mailbox : Mailbox)
    (reached : ∀ before bid after, bids = before ++ bid :: after →
      (∀ other ∈ before, Loadable bst now other) → ¬Vanished bst now bid) :
    ∃ before after, bids = before ++ after ∧
      (retrieve bst now mailbox [] bids).returned = before ∧
      (retrieve bst now mailbox [] bids).mailbox = mailbox.markEach before := by
  rcases loadable_or_first bst now bids with all | ⟨before, bid, after, rfl, loadable, missing⟩
  · obtain ⟨added, added_bids, -, same⟩ := retrieve_of_loadable all mailbox []
    rw [same]
    exact ⟨bids, [], by simp, added_bids, rfl⟩
  · obtain ⟨added, added_bids, -, same⟩ := retrieve_append loadable mailbox [] (bid :: after)
    refine ⟨before, bid :: after, rfl, ?_⟩
    rw [same, retrieve]
    cases found : bst.getBundleDescriptor bid with
    | error fault => exact absurd (.inl ⟨fault, found⟩) (reached before bid after rfl loadable)
    | ok bd =>
      cases loaded : bst.load now bd with
      | ok bndl => exact absurd ⟨bd, bndl, found, loaded⟩ missing
      | error fault =>
        cases fault with
        | error cause =>
          simp only [loaded]
          exact ⟨added_bids, trivial⟩
        | panic =>
          exact absurd (.inr ⟨bd, .panic, found, loaded, by simp⟩) (reached before bid after rfl loadable)
        | spin =>
          exact absurd (.inr ⟨bd, .spin, found, loaded, by simp⟩) (reached before bid after rfl loadable)

/-- Every ID that the loop marks is returned exactly if the loop settles. -/
theorem retrieve_marked_iff : (∀ bid, mailbox.wasRetrieved bid = false →
      (retrieve bst now mailbox [] bids).mailbox.wasRetrieved bid = true →
      bid ∈ (retrieve bst now mailbox [] bids).returned) ↔ mailbox.Settles bst now bids := by
  constructor
  · intro marked before bid after same loadable vanished other member
    subst same
    obtain ⟨returned, left⟩ := retrieve_of_vanished loadable vanished mailbox after
    by_contra unmarked
    have listed := marked other (by simpa using unmarked)
      (by rw [left]; exact wasRetrieved_markEach.mpr (.inl member))
    rw [returned] at listed
    cases listed
  · intro settles bid unmarked marked
    by_cases reached : ∃ before bid after, bids = before ++ bid :: after ∧
        (∀ other ∈ before, Loadable bst now other) ∧ Vanished bst now bid
    · obtain ⟨before, first, after, rfl, loadable, vanished⟩ := reached
      obtain ⟨-, left⟩ := retrieve_of_vanished loadable vanished mailbox after
      rw [left, wasRetrieved_markEach] at marked
      rcases marked with passed | known
      · exact absurd (settles before first after rfl loadable vanished bid passed) (by simp [unmarked])
      · exact absurd known (by simp [unmarked])
    · obtain ⟨before, after, -, returned, left⟩ := retrieve_returned mailbox
        fun before bid after same loadable vanished => reached ⟨before, bid, after, same, loadable, vanished⟩
      rw [left, wasRetrieved_markEach] at marked
      rw [returned]
      exact marked.resolve_right (by simp [unmarked])

theorem retrieve_of_ok (finished : (retrieve bst now mailbox [] bids).err = none) :
    (∀ bid ∈ bids, Loadable bst now bid) ∧
      (retrieve bst now mailbox [] bids).returned = bids := by
  rcases loadable_or_first bst now bids with all | ⟨before, bid, after, rfl, loadable, missing⟩
  · obtain ⟨added, added_bids, -, same⟩ := retrieve_of_loadable all mailbox []
    rw [same]
    exact ⟨all, added_bids⟩
  · obtain ⟨added, -, -, same⟩ := retrieve_append loadable mailbox [] (bid :: after)
    obtain ⟨⟨fault, failed⟩, -⟩ :=
      retrieve_of_unloadable missing (mailbox.markEach before) ([] ++ added) after
    rw [same, failed] at finished
    cases finished

theorem Holds.retrieve (held : mailbox.Holds other) (bndls : List Retrieved) :
    (Mailbox.retrieve bst now mailbox bndls bids).mailbox.Holds other := by
  induction bids generalizing mailbox bndls with
  | nil => exact held
  | cons bid rest ih =>
    rw [Mailbox.retrieve]
    split
    · exact held
    · split
      · exact held
      · exact ih ((AList.mem_insert _).mpr (.inr held)) _

/-- The end of `GetAll` and `GetNew`. -/
def cleared (remove : Bool) (retrieval : Retrieval) : Retrieval :=
  match retrieval.err with
  | some _ => retrieval
  | none => if remove then { retrieval with mailbox := new } else retrieval

omit [Sha256] [Badgerhold] [Cboring] [Crc16] [Ed25519] in
theorem returned_cleared (remove : Bool) (retrieval : Retrieval) :
    (cleared remove retrieval).returned = retrieval.returned := by
  unfold cleared
  split
  · rfl
  · split <;> rfl

/-- An ID is marked by a call, or removed, only if its bundle is returned.
`GetNew` may also remove what was retrieved before. -/
structure Accounted (mailbox : Mailbox) (call : Call) (result : Retrieval) : Prop where
  marked : ∀ bid, mailbox.wasRetrieved bid = false → result.mailbox.wasRetrieved bid = true →
    bid ∈ result.returned
  removed : ∀ bid, mailbox.Holds bid → ¬result.mailbox.Holds bid →
    bid ∈ result.returned ∨ call = .getNew ∧ mailbox.wasRetrieved bid = true

/-- A loop over all IDs that the call may remove. -/
theorem accounted_cleared_iff {call : Call} (remove : Bool)
    (covered : ∀ bid, mailbox.Holds bid → bid ∈ bids ∨ call = .getNew ∧
      mailbox.wasRetrieved bid = true) :
    Accounted mailbox call (cleared remove (retrieve bst now mailbox [] bids)) ↔
      mailbox.Settles bst now bids := by
  have kept : Accounted mailbox call (retrieve bst now mailbox [] bids) ↔
      mailbox.Settles bst now bids := by
    rw [← retrieve_marked_iff]
    refine ⟨Accounted.marked, fun marked => ⟨marked, ?_⟩⟩
    intro bid held gone
    exact absurd (held.retrieve []) gone
  cases finished : (retrieve bst now mailbox [] bids).err with
  | some fault =>
    rw [cleared, finished]
    exact kept
  | none =>
    obtain ⟨loadable, returned⟩ := retrieve_of_ok finished
    cases remove with
    | false =>
      rw [cleared, finished]
      exact kept
    | true =>
      have emptied : (cleared true (retrieve bst now mailbox [] bids)).mailbox = new := by
        rw [cleared, finished]
        rfl
      refine iff_of_true ⟨?_, ?_⟩ ?_
      · intro bid _ marked
        rw [emptied] at marked
        cases marked
      · intro bid held _
        rw [returned_cleared, returned]
        exact covered bid held
      · -- Nothing on the way has vanished.
        intro before bid after same _ vanished
        obtain ⟨bd, bndl, found, loaded⟩ := loadable bid (by simp [same])
        rcases vanished with ⟨fault, missing⟩ | ⟨known, fault, again, failed, -⟩
        · cases found.symm.trans missing
        · cases found.symm.trans again
          cases loaded.symm.trans failed

theorem accounted_get (mailbox : Mailbox) (bst : BundleStore) (now : Time) (bid : BundleID)
    (remove : Bool) : Accounted mailbox (.get bid) (mailbox.get bst now bid remove) := by
  have same : ∀ err, Accounted mailbox (.get bid) ⟨[], err, mailbox⟩ := by
    intro err
    refine ⟨?_, fun other held gone => absurd held gone⟩
    intro other unmarked marked
    rw [unmarked] at marked
    cases marked
  unfold get
  split
  · split
    · exact same _
    · split
      · exact same _
      · cases remove with
        | true =>
          refine ⟨?_, ?_⟩
          · intro other unmarked marked
            simp only [wasRetrieved, ↓reduceIte] at unmarked marked
            by_cases here : other = bid
            · subst here
              rw [AList.lookup_erase] at marked
              cases marked
            · rw [AList.lookup_erase_ne here, unmarked] at marked
              cases marked
          · intro other held gone
            left
            by_contra absent
            have different : other ≠ bid := by
              rintro rfl
              exact absent (mem_singleton_self _)
            exact gone (AList.mem_erase.mpr ⟨different, held⟩)
        | false =>
          refine ⟨?_, ?_⟩
          · intro other unmarked marked
            simp only [Bool.false_eq_true, ↓reduceIte, wasRetrieved_markRetrieved,
              unmarked, Bool.or_false, decide_eq_true_eq] at marked
            rw [marked]
            exact mem_singleton_self _
          · intro other held gone
            exact absurd ((AList.mem_insert _).mpr (.inr held)) gone
  · exact same _

end Mailbox

open Mailbox in
/-- A call keeps its accounts exactly if the first ID it finds vanished comes
after none that the call has marked. -/
theorem accounted_iff_settles [Sha256] [Badgerhold] [Cboring] [Crc16] [Ed25519] (mailbox : Mailbox)
    (bst : BundleStore) (now : Time) (order : RangeOrder BundleID) (remove : Bool) (call : Call) :
    Accounted mailbox call (mailbox.answer bst now order remove call) ↔
      mailbox.Settles bst now (mailbox.visited order call) := by
  have listed : ∀ bid, mailbox.Holds bid → bid ∈ order.visit mailbox.messages.keys := by
    intro bid held
    exact (order.mem_visit _ _).mpr (AList.mem_keys.mp held)
  cases call with
  | get bid =>
    refine iff_of_true (accounted_get mailbox bst now bid remove) ?_
    intro before first after same _ _ other member
    cases before with
    | nil => cases member
    | cons head tail =>
      cases tail <;> cases same
  | getAll => exact accounted_cleared_iff remove fun bid held => .inl (listed bid held)
  | getNew =>
    have nodup : (order.visit mailbox.messages.keys).Nodup :=
      (order.perm _).nodup_iff.mpr mailbox.messages.nodupKeys
    have same : mailbox.getNew bst now order remove =
        cleared remove (retrieve bst now mailbox [] (mailbox.visited order .getNew)) := by
      rw [getNew, retrieveNew_eq nodup]
      rfl
    rw [answer, same]
    apply accounted_cleared_iff remove
    intro bid held
    cases known : mailbox.wasRetrieved bid with
    | true => exact .inr ⟨rfl, rfl⟩
    | false => exact .inl (mem_filter.mpr ⟨listed bid held, by simp [known]⟩)

open Mailbox

open scoped Samples

/-- Two bundles wait, and the second one is no longer in the store. -/
def twoMessages : Mailbox :=
  ⟨(AList.insert { plainBundle.id with timestamp := ⟨2, 0⟩ } false ∅).insert
    plainBundle.id false⟩

/-- The first bundle is marked as retrieved, and nothing is returned. -/
theorem twoMessages_not_accounted : ¬Accounted twoMessages .getAll
    (twoMessages.answer ((BundleStore.empty (nodeEndpoint "broker")).insertBundle .none
      plainBundle).2 0 .asStored false .getAll) := by
  intro accounted
  have listed := accounted.marked plainBundle.id rfl (by decide +kernel)
  exact absurd listed (by decide +kernel)

end RecDtn.Agent
