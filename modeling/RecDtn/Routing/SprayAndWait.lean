import RecDtn.Bpv7.Numbering
import RecDtn.Store.BundleStore

namespace RecDtn.Routing

open Wire Lang Bpv7 Store CRCType BlockType Bundle BundleStore List Go

/-- The extension blocks of a bundle and the array behind them. Places of the
array after the `length`-th are no longer part of the bundle. -/
structure BlockSlice where
  array : List CanonicalBlock
  length : Nat
  inside : length ≤ array.length

namespace BlockSlice

def blocks (slice : BlockSlice) : List CanonicalBlock := slice.array.take slice.length

theorem length_blocks (slice : BlockSlice) : slice.blocks.length = slice.length :=
  length_take_of_le slice.inside

/-- `RemoveExtensionBlockByBlockNumber`: the blocks after the removed one move
up by one place, and the last place keeps what it holds. -/
def remove (slice : BlockSlice) (blockNumber : UInt64) : BlockSlice :=
  match slice.blocks.findIdx? fun cb => cb.blockNumber = blockNumber with
  | none => slice
  | some i => ⟨slice.blocks.eraseIdx i ++ slice.array.drop (slice.length - 1), slice.length - 1, by
      rw [length_append, length_eraseIdx, slice.length_blocks]
      split <;> omega⟩

/-- Remove the block whose number is found behind a pointer. -/
def removeAt (slice : BlockSlice) (pointer : Nat) : BlockSlice :=
  match slice.array[pointer]? with
  | none => slice
  | some block => slice.remove block.blockNumber

end BlockSlice

/-- The blocks of a type are pointers into the array, which are not moved along
with the blocks. -/
def removeExtensionBlocks (b : Bundle) (blockType : UInt64) : Bundle :=
  let pointers := (b.extensionBlocks.zipIdx.filter fun entry => entry.1.ofType blockType).map Prod.snd
  let slice := pointers.foldl BlockSlice.removeAt ⟨b.extensionBlocks, b.extensionBlocks.length,
    Nat.le_refl _⟩
  { b with extensionBlocks := slice.blocks }

namespace BlockSlice

theorem length_eraseIdx_blocks {slice : BlockSlice} {i : Nat} {wanted : CanonicalBlock → Bool}
    (found : slice.blocks.findIdx? wanted = some i) :
    (slice.blocks.eraseIdx i).length = slice.length - 1 := by
  obtain ⟨inside, -⟩ := List.findIdx?_eq_some_iff_getElem.mp found
  rw [length_eraseIdx_of_lt inside, slice.length_blocks]

theorem remove_sublist (slice : BlockSlice) (blockNumber : UInt64) :
    (slice.remove blockNumber).blocks.Sublist slice.blocks := by
  unfold remove
  split
  · exact List.Sublist.refl _
  · rename_i i found
    simp only [blocks, ← length_eraseIdx_blocks found, take_left]
    exact eraseIdx_sublist _ _

theorem removeAt_sublist (slice : BlockSlice) (pointer : Nat) :
    (slice.removeAt pointer).blocks.Sublist slice.blocks := by
  unfold removeAt
  split
  · exact List.Sublist.refl _
  · exact slice.remove_sublist _

theorem foldl_removeAt_sublist (pointers : List Nat) (slice : BlockSlice) :
    (pointers.foldl removeAt slice).blocks.Sublist slice.blocks := by
  induction pointers generalizing slice with
  | nil => exact List.Sublist.refl _
  | cons pointer rest ih => exact (ih (slice.removeAt pointer)).trans (slice.removeAt_sublist pointer)

end BlockSlice

theorem removeExtensionBlocks_sublist (b : Bundle) (blockType : UInt64) :
    (removeExtensionBlocks b blockType).extensionBlocks.Sublist b.extensionBlocks := by
  have fewer := BlockSlice.foldl_removeAt_sublist
    ((b.extensionBlocks.zipIdx.filter fun entry => entry.1.ofType blockType).map Prod.snd)
    ⟨b.extensionBlocks, b.extensionBlocks.length, Nat.le_refl _⟩
  have whole : BlockSlice.blocks ⟨b.extensionBlocks, b.extensionBlocks.length, Nat.le_refl _⟩ =
      b.extensionBlocks :=
    take_length
  rw [whole] at fewer
  exact fewer

-- Of two blocks of the type the second one stays, and the block after it goes.
example : (removeExtensionBlocks
    ⟨.blank, [⟨2, 0, 0, [], some (.generic [] 192)⟩, ⟨3, 0, 0, [], some (.generic [] 192)⟩,
      ⟨4, 0, 0, [], some (.hopCount 8 1)⟩], .blank⟩ binarySprayBlock).extensionBlocks =
    [⟨3, 0, 0, [], some (.generic [] 192)⟩] := rfl

/-- The copies that a bundle without a counter is taken to have, and the mode. -/
structure SprayAndWait where
  copies : UInt64
  binary : Bool

def sprayBundleCopiesKey : String := "spray_and_wait/copies"

section

variable [Sha256] [Badgerhold]

/-- An error is only logged. -/
def setSprayCopies (faults : Faults) (bst : BundleStore) (ref : Ref) (copies : UInt64) :
    BundleStore :=
  (bst.setMiscData faults ref sprayBundleCopiesKey copies).2

def getSprayCopies (bst : BundleStore) (ref : Ref) : Option UInt64 :=
  bst.descriptors[ref]?.bind fun bd => bd.metadata.miscellaneousData.lookup sprayBundleCopiesKey

/-- The peers that are not known to have the bundle. A sender stands for its peer. -/
def filterPeers (bst : BundleStore) (ref : Ref) (clas : List EndpointID) : List EndpointID :=
  match bst.descriptors[ref]? with
  | none => []
  | some bd => if bd.deleted then [] else clas.filter fun peer => peer ∉ bd.metadata.knownHolders

/-- The peers to forward to, and the bundle if it has been changed for them. -/
structure Selection where
  peers : List EndpointID
  bundle : Option Bundle
  store : BundleStore

namespace SprayAndWait

def notifyNewBundle (router : SprayAndWait) (faults : Faults) (bst : BundleStore) (ref : Ref) :
    BundleStore :=
  setSprayCopies faults bst ref router.copies

/-- A type assertion panics on a block of another kind. -/
def notifyReceivedBundle (faults : Faults) (bst : BundleStore) (ref : Ref) (bundle : Bundle) :
    Go BundleStore := do
  match ← Go.attempt (bundle.extensionBlockByType binarySprayBlock) with
  | .error _ => return setSprayCopies faults bst ref 0
  | .ok block =>
    match block.value with
    | some (.binarySpray copies) => return setSprayCopies faults bst ref copies
    | _ => .error .panic

def selectBasicSpray (faults : Faults) (bst : BundleStore) (ref : Ref) (copies : UInt64)
    (peers : List EndpointID) : Selection :=
  let nPeers := UInt64.ofNat peers.length
  if nPeers ≤ copies then ⟨peers, none, setSprayCopies faults bst ref (copies - nPeers)⟩
  else ⟨peers.take copies.toNat, none, setSprayCopies faults bst ref 0⟩

/-- The manager never creates a Binary Spray Block. -/
theorem notifyReceivedBundle_of_faithful {faults : Faults} {bst left : BundleStore} {ref : Ref}
    (faithful : ∀ cb ∈ bundle.extensionBlocks, cb.Faithful)
    (notified : notifyReceivedBundle faults bst ref bundle = .ok left) :
    left = setSprayCopies faults bst ref 0 := by
  unfold notifyReceivedBundle at notified
  rcases extensionBlockByType_cases (fun cb member => (faithful cb member).present)
      binarySprayBlock with ⟨cb, only, found⟩ | ⟨-, cause, failed⟩
  · have member : cb ∈ bundle.extensionBlocks := mem_of_mem_filter (only ▸ mem_singleton_self cb)
    obtain ⟨value, held, managed, -⟩ := faithful cb member
    rw [found] at notified
    simp only [Go.attempt, ok_bind, Option.mem_def.mp held] at notified
    cases value with
    | binarySpray copies => exact managed.elim
    | _ => cases notified
  · rw [failed] at notified
    cases notified
    rfl

theorem selectBasicSpray_fewer (faults : Faults) (bst : BundleStore) (ref : Ref) (copies : UInt64)
    (peers : List EndpointID) : ∃ some left, left ≤ copies ∧
      selectBasicSpray faults bst ref copies peers = ⟨some, none, setSprayCopies faults bst ref left⟩ := by
  unfold selectBasicSpray
  dsimp only
  split
  · rename_i enough
    refine ⟨_, _, ?_, rfl⟩
    rw [UInt64.le_iff_toNat_le, UInt64.toNat_sub_of_le _ _ enough]
    exact Nat.sub_le _ _
  · exact ⟨_, 0, UInt64.zero_le, rfl⟩

variable [Cboring] [Crc16] [Ed25519] [GoSort]

section

omit [Sha256] [Badgerhold] [Cboring] [Crc16] [Ed25519]

def clearCopies (bundle : Bundle) : Go Bundle := do
  match ← Go.attempt (bundle.extensionBlocksByType binarySprayBlock) with
  | .error _ => return bundle
  | .ok _ => return removeExtensionBlocks bundle binarySprayBlock

/-- The bundle with a block of these copies in the place of all earlier ones. -/
def attachCopies (bundle : Bundle) (sendCopies : UInt64) : Go Bundle := do
  let cleared ← clearCopies bundle
  cleared.addExtensionBlock ⟨0, 0, crcNo, [], some (.binarySpray sendCopies)⟩

end

/-- One of the peers is picked at random. An odd copy stays. -/
def selectBinarySpray (faults : Faults) (now : Time) (intn : Nat) (bst : BundleStore) (ref : Ref)
    (copies : UInt64) (peers : List EndpointID) : Go Selection := do
  let sendCopies := copies / 2
  let retainedCopies := if copies % 2 ≠ 0 then copies / 2 + 1 else copies / 2
  match ← Go.attempt (bst.load now ref) with
  | .error _ => return ⟨[], none, bst⟩
  | .ok bundle =>
    match ← Go.attempt (attachCopies bundle sendCopies) with
    | .error _ => return ⟨[], none, bst⟩
    | .ok bundle =>
      let peer ← Go.deref peers[intn % peers.length]?
      return ⟨[peer], some bundle, setSprayCopies faults bst ref retainedCopies⟩

/-- `SelectPeersForForwarding` from the number of copies on. -/
def selectPeers (router : SprayAndWait) (faults : Faults) (now : Time) (intn : Nat)
    (bst : BundleStore) (ref : Ref) (copies : UInt64) (peers : List EndpointID) : Go Selection :=
  if router.binary = false ∧ ¬copies > 0 then return ⟨[], none, bst⟩
  else if router.binary = true ∧ ¬copies > 1 then return ⟨[], none, bst⟩
  else
    let peers := filterPeers bst ref peers
    if peers = [] then return ⟨[], none, bst⟩
    else if router.binary then selectBinarySpray faults now intn bst ref copies peers
    else return selectBasicSpray faults bst ref copies peers

def selectPeersForForwarding (router : SprayAndWait) (faults : Faults) (now : Time) (intn : Nat)
    (bst : BundleStore) (ref : Ref) (peers : List EndpointID) : Go Selection :=
  match getSprayCopies bst ref with
  | some copies => router.selectPeers faults now intn bst ref copies peers
  | none =>
    router.selectPeers faults now intn (setSprayCopies faults bst ref router.copies)
      ref router.copies peers

section

omit [Sha256] [Badgerhold] [Cboring] [Crc16] [Ed25519]

/-- Adding a block adds it under some number, wherever it is sorted to. -/
theorem perm_of_addExtensionBlock {b added : Bundle} {cb : CanonicalBlock}
    (done : b.addExtensionBlock cb = .ok added) :
    ∃ number, added.extensionBlocks.Perm
      (b.extensionBlocks ++ [{ cb with blockNumber := number }]) := by
  obtain ⟨number, -, same, -⟩ := addExtensionBlock_eq_ok done
  exact ⟨number, same⟩

variable {bundle : Bundle}

/-- The new block holds the copies, and all others were there before. -/
theorem perm_of_attachCopies {attached : Bundle} {sendCopies : UInt64}
    (done : attachCopies bundle sendCopies = .ok attached) :
    ∃ kept number, kept.Sublist bundle.extensionBlocks ∧
      attached.extensionBlocks.Perm (kept ++ [⟨number, 0, crcNo, [], some (.binarySpray sendCopies)⟩]) := by
  obtain ⟨cleared, clearing, done⟩ := bind_eq_ok.mp done
  obtain ⟨number, same⟩ := perm_of_addExtensionBlock done
  refine ⟨cleared.extensionBlocks, number, ?_, same⟩
  obtain ⟨outcome, -, clearing⟩ := bind_eq_ok.mp clearing
  cases outcome with
  | error cause =>
    cases clearing
    exact List.Sublist.refl _
  | ok blocks =>
    cases clearing
    exact removeExtensionBlocks_sublist bundle _

/-- A bundle whose blocks all hold values can take the copies. -/
theorem attachCopies_of_present (present : ∀ cb ∈ bundle.extensionBlocks, cb.Present)
    (room : bundle.extensionBlocks.length < 2 ^ 63) (sendCopies : UInt64) :
    ∃ attached, attachCopies bundle sendCopies = .ok attached := by
  obtain ⟨outcome, listed⟩ := attempt_of_settled
    (settled_extensionBlocksByType present binarySprayBlock)
  have added : ∀ cleared : Bundle, cleared.extensionBlocks.Sublist bundle.extensionBlocks →
      ∃ attached, cleared.addExtensionBlock ⟨0, 0, crcNo, [], some (.binarySpray sendCopies)⟩ = .ok attached := by
    intro cleared fewer
    have held : (⟨0, 0, crcNo, [], some (.binarySpray sendCopies)⟩ : CanonicalBlock).Present :=
      ⟨_, rfl⟩
    obtain ⟨blocks, done, -⟩ :=
      addExtensionBlock_of_present held (Nat.lt_of_le_of_lt fewer.length_le room)
    exact ⟨_, done⟩
  rw [attachCopies, clearCopies, listed]
  cases outcome with
  | error cause => exact added bundle (List.Sublist.refl _)
  | ok blocks => exact added _ (removeExtensionBlocks_sublist bundle _)

end

end SprayAndWait

/-- A descriptor with the counter set. -/
def counted (bd : BundleDescriptor) (copies : UInt64) : BundleDescriptor :=
  { bd with metadata := { bd.metadata with
      miscellaneousData := bd.metadata.miscellaneousData.insert sprayBundleCopiesKey copies } }

section

variable (faults : Faults) (bst : BundleStore) (ref other : Ref) (copies : UInt64)

include faults bst ref other copies

theorem descriptors_setSprayCopies : (setSprayCopies faults bst ref copies).descriptors[other]? =
      bst.descriptors[other]?.map fun bd => if other = ref then counted bd copies else bd := by
  unfold setSprayCopies setMiscData
  cases held : bst.descriptors[ref]? with
  | none =>
    by_cases same : other = ref
    · simp [same, held]
    · simp [same]
  | some bd =>
    simp only [withMetadata, List.getElem?_set]
    obtain ⟨inside, -⟩ := List.getElem?_eq_some_iff.mp held
    by_cases same : other = ref
    · subst same
      rw [if_pos rfl, if_pos inside, held]
      simp [counted]
    · rw [if_neg (Ne.symm same)]
      simp [same]

theorem getSprayCopies_setSprayCopies : getSprayCopies (setSprayCopies faults bst ref copies) other =
      if other = ref ∧ bst.descriptors[ref]?.isSome then some copies else getSprayCopies bst other := by
  unfold getSprayCopies
  rw [descriptors_setSprayCopies]
  by_cases same : other = ref
  · subst same
    cases bst.descriptors[other]? with
    | none => simp
    | some bd => simp [counted, AList.lookup_insert]
  · cases bst.descriptors[other]? with
    | none => simp [same]
    | some bd => simp [same]

theorem filterPeers_setSprayCopies (clas : List EndpointID) :
    filterPeers (setSprayCopies faults bst ref copies) other clas = filterPeers bst other clas := by
  unfold filterPeers
  rw [descriptors_setSprayCopies]
  cases bst.descriptors[other]? with
  | none => rfl
  | some bd =>
    by_cases same : other = ref
    · simp [same, counted]
    · simp [same]

theorem load_setSprayCopies [Cboring] [Crc16] [Ed25519] (now : Time) :
    (setSprayCopies faults bst ref copies).load now other = bst.load now other := by
  have directory : (setSprayCopies faults bst ref copies).bundleDirectory = bst.bundleDirectory := by
    unfold setSprayCopies setMiscData
    split
    · rfl
    · rfl
  unfold load loadEntireBundle
  rw [descriptors_setSprayCopies, directory]
  cases bst.descriptors[other]? with
  | none => rfl
  | some bd =>
    by_cases same : other = ref
    · simp [same, counted, Go.deref]
    · simp [same, Go.deref]

end

namespace SprayAndWait

variable [Cboring] [Crc16] [Ed25519]

/-- The number of copies that a bundle is taken to have. -/
def copiesOf (router : SprayAndWait) (bst : BundleStore) (ref : Ref) : UInt64 :=
  (getSprayCopies bst ref).getD router.copies

/-- The bundle is written and parsed, and the receiver records these copies. -/
def Records (bundle : Bundle) (copies : UInt64) (now : Time) (faults : Faults)
    (receiver : BundleStore) (ref : Ref) : Prop :=
  ∃ written sent, bundle.marshalCbor = .ok (written, sent) ∧
    (parseBundle now written).err = none ∧
    ∃ left, notifyReceivedBundle faults receiver ref (parseBundle now written).bundle =
      .ok left ∧ getSprayCopies left ref = some copies

/-- What a block says when it is sent is recorded when it arrives. -/
def Agree (selected : Go Selection) (now : Time) (faults : Faults) (receiver : BundleStore)
    (ref : Ref) : Prop :=
  ∀ selection bundle copies, selected = .ok selection → selection.bundle = some bundle →
    (∃ cb ∈ bundle.extensionBlocks, cb.value = some (.binarySpray copies)) →
    Records bundle copies now faults receiver ref

variable {bundle loaded attached : Bundle}

theorem not_records {copies : UInt64} {now : Time} {faults : Faults} {receiver : BundleStore}
    {ref : Ref} (some : copies ≠ 0) : ¬Records bundle copies now faults receiver ref := by
  rintro ⟨written, sent, -, -, left, notified, recorded⟩
  rw [notifyReceivedBundle_of_faithful (parseBundle_faithful now written) notified,
    getSprayCopies_setSprayCopies] at recorded
  split at recorded
  · exact some (Option.some.inj recorded).symm
  · rename_i dangling
    have none : getSprayCopies receiver ref = none := by
      unfold getSprayCopies
      cases held : receiver.descriptors[ref]? with
      | none => rfl
      | some bd => simp [held] at dangling
    rw [none] at recorded
    cases recorded

/-- An odd copy is kept. -/
def retained (copies : UInt64) : UInt64 := if copies % 2 ≠ 0 then copies / 2 + 1 else copies / 2

omit [Sha256] [Badgerhold] [Cboring] [Crc16] [Ed25519] in
theorem retained_add_half (copies : UInt64) :
    (retained copies).toNat + (copies / 2).toNat = copies.toNat := by
  have half : (copies / 2).toNat = copies.toNat / 2 := UInt64.toNat_div copies 2
  have rest : (copies % 2).toNat = copies.toNat % 2 := UInt64.toNat_mod copies 2
  unfold retained
  split
  · rename_i odd
    have more : (copies / 2 + 1).toNat = copies.toNat / 2 + 1 := by
      rw [UInt64.toNat_add, half]
      have bound := copies.toNat_lt
      exact Nat.mod_eq_of_lt (by change _ + 1 < _; omega)
    have nonzero : copies.toNat % 2 ≠ 0 := by
      rw [← rest]
      exact fun zero => odd (UInt64.toNat_inj.mp zero)
    omega
  · rename_i even
    rw [not_not] at even
    rw [even] at rest
    have zero : copies.toNat % 2 = 0 := rest.symm
    omega

/-- What a selection can be: nothing, a bundle with half of the copies for one
peer, or the bundle as it is for as many peers as there are copies. -/
inductive Selects [GoSort] (router : SprayAndWait) (faults : Faults) (now : Time)
    (bst : BundleStore) (ref : Ref)
    (copies : UInt64) (peers : List EndpointID) : Selection → Prop where
  | nothing : Selects router faults now bst ref copies peers ⟨[], none, bst⟩
  | half {loaded attached : Bundle} {peer : EndpointID} : router.binary = true → copies > 1 →
      filterPeers bst ref peers ≠ [] → bst.load now ref = .ok loaded →
      attachCopies loaded (copies / 2) = .ok attached →
      Selects router faults now bst ref copies peers
        ⟨[peer], some attached, setSprayCopies faults bst ref (retained copies)⟩
  | fewer {some : List EndpointID} {left : UInt64} : router.binary = false → left ≤ copies →
      Selects router faults now bst ref copies peers ⟨some, none, setSprayCopies faults bst ref left⟩

variable {router : SprayAndWait} {faults : Faults} {now : Time} {intn : Nat}
  {bst : BundleStore} {ref : Ref} {copies : UInt64} {peers : List EndpointID}

variable [GoSort]

theorem selects_of_selectPeers {selection : Selection}
    (selected : router.selectPeers faults now intn bst ref copies peers = .ok selection) :
    router.Selects faults now bst ref copies peers selection := by
  unfold selectPeers at selected
  split at selected
  · cases selected
    exact .nothing
  split at selected
  · cases selected
    exact .nothing
  rename_i stops
  dsimp only at selected
  split at selected
  · cases selected
    exact .nothing
  rename_i some
  split at selected
  · rename_i binary
    have many : copies > 1 := by
      by_contra few
      exact stops ⟨binary, few⟩
    obtain ⟨outcome, loading, selected⟩ := bind_eq_ok.mp selected
    cases outcome with
    | error cause =>
      cases selected
      exact .nothing
    | ok loaded =>
      obtain ⟨outcome, attaching, selected⟩ := bind_eq_ok.mp selected
      cases outcome with
      | error cause =>
        cases selected
        exact .nothing
      | ok attached =>
        obtain ⟨peer, -, selected⟩ := bind_eq_ok.mp selected
        cases selected
        exact .half binary many some (attempt_eq_ok.mp loading) (attempt_eq_ok.mp attaching)
  · rename_i basic
    obtain ⟨few, left, bound, same⟩ :=
      selectBasicSpray_fewer faults bst ref copies (filterPeers bst ref peers)
    rw [same] at selected
    cases selected
    exact .fewer (by simpa using basic) bound

/-- With the bundle at hand, half of the copies go to some peer. -/
theorem selectBinarySpray_of_attachCopies (some : peers ≠ [])
    (loading : bst.load now ref = .ok loaded)
    (attaching : attachCopies loaded (copies / 2) = .ok attached) (faults : Faults) (intn : Nat) :
    ∃ peer, selectBinarySpray faults now intn bst ref copies peers =
      .ok ⟨[peer], .some attached, setSprayCopies faults bst ref (retained copies)⟩ := by
  have inside : intn % peers.length < peers.length := Nat.mod_lt _ (length_pos_iff.mpr some)
  refine ⟨peers[intn % peers.length], ?_⟩
  unfold selectBinarySpray
  rw [attempt_eq_ok.mpr loading, ok_bind]
  dsimp only
  rw [attempt_eq_ok.mpr attaching, ok_bind]
  dsimp only
  rw [List.getElem?_eq_getElem inside]
  rfl

theorem selectPeers_of_attachCopies (binary : router.binary = true) (many : copies > 1)
    (some : filterPeers bst ref peers ≠ []) (loading : bst.load now ref = .ok loaded)
    (attaching : attachCopies loaded (copies / 2) = .ok attached) :
    ∃ peer, router.selectPeers faults now intn bst ref copies peers =
      .ok ⟨[peer], .some attached, setSprayCopies faults bst ref (retained copies)⟩ := by
  unfold selectPeers
  rw [if_neg (fun stops => by simp [binary] at stops), if_neg (fun stops => stops.2 many)]
  dsimp only
  rw [if_neg some, if_pos binary]
  exact selectBinarySpray_of_attachCopies some loading attaching faults intn

/-- A missing counter is set before anything is selected. -/
theorem selectPeersForForwarding_eq (router : SprayAndWait) (faults : Faults)
    (now : Time) (intn : Nat)
    (bst : BundleStore) (ref : Ref) (peers : List EndpointID) : ∃ prepared : BundleStore,
      router.selectPeersForForwarding faults now intn bst ref peers =
        router.selectPeers faults now intn prepared ref (router.copiesOf bst ref) peers ∧
      filterPeers prepared ref peers = filterPeers bst ref peers ∧ prepared.load now ref = bst.load now ref := by
  unfold selectPeersForForwarding copiesOf
  split
  · rename_i copies found
    exact ⟨bst, by rw [found]; rfl, rfl, rfl⟩
  · rename_i missing
    exact ⟨_, by rw [missing]; rfl, filterPeers_setSprayCopies .., load_setSprayCopies ..⟩

/-- A router in binary mode with copies to give away, a peer that has not got
the bundle, and a bundle that can be loaded. -/
def Sprays (router : SprayAndWait) (now : Time) (bst : BundleStore) (ref : Ref)
    (peers : List EndpointID) : Prop :=
  router.binary = true ∧ router.copiesOf bst ref > 1 ∧ filterPeers bst ref peers ≠ [] ∧
    ∃ bundle, bst.load now ref = .ok bundle

/-- Sender and receiver only agree where nothing is sprayed, because the
receiver never finds a Binary Spray Block in what it has parsed. -/
theorem agree_iff_not_sprays (router : SprayAndWait) (faults : Faults) (now : Time) (intn : Nat)
    (bst : BundleStore)
    (ref : Ref) (peers : List EndpointID) (later : Time) (laterFaults : Faults)
    (receiver : BundleStore) (target : Ref)
    (valid : ∀ bundle, bst.load now ref = .ok bundle → bundle.checkValid now = .ok [])
    (room : ∀ bundle, bst.load now ref = .ok bundle → bundle.extensionBlocks.length < 2 ^ 63) :
    Agree (router.selectPeersForForwarding faults now intn bst ref peers)
      later laterFaults receiver target ↔ ¬router.Sprays now bst ref peers := by
  obtain ⟨prepared, same, peersSame, loadSame⟩ :=
    router.selectPeersForForwarding_eq faults now intn bst ref peers
  rw [same]
  constructor
  · rintro agree ⟨binary, many, suitable, loaded, loading⟩
    obtain ⟨attached, attaching⟩ :=
      attachCopies_of_present (present_of_checkValid (valid loaded loading))
      (room loaded loading) (router.copiesOf bst ref / 2)
    obtain ⟨peer, selected⟩ := selectPeers_of_attachCopies binary many (peersSame ▸ suitable)
      (loadSame ▸ loading) attaching
    obtain ⟨kept, number, -, blocks⟩ := perm_of_attachCopies attaching
    have member := blocks.mem_iff.mpr (mem_append_right kept (mem_singleton_self _))
    have given : router.copiesOf bst ref / 2 ≠ 0 := by
      intro zero
      have half := congrArg UInt64.toNat zero
      have two : 1 < (router.copiesOf bst ref).toNat := UInt64.lt_iff_toNat_lt.mp many
      rw [UInt64.toNat_div] at half
      simp at half
      omega
    exact not_records given (agree _ attached _ selected rfl ⟨_, member, rfl⟩)
  · intro silent selection bundle copies selected present _
    cases selects_of_selectPeers selected with
    | nothing => cases present
    | half binary many suitable loading attaching =>
      exact absurd ⟨binary, many, peersSame ▸ suitable, _, loadSame ▸ loading⟩ silent
    | fewer basic bound => cases present

end SprayAndWait

end

open SprayAndWait

open scoped Samples

/-- A node that has just stored the bundle, with this many copies. -/
def holding (node : String) (copies : UInt64) : BundleStore :=
  setSprayCopies .none ((BundleStore.empty (nodeEndpoint node)).insertBundle .none
    plainBundle).2 0 copies

theorem lastCopy_agree :
    Agree (selectPeersForForwarding ⟨4, true⟩ .none 0 0 (holding "broker" 1) 0
      [nodeEndpoint "relay"]) 0 .none (holding "relay" 0) 0 := by
  have loads : ∀ bundle, (holding "broker" 1).load 0 0 = .ok bundle →
      bundle = plainBundle.fresh := by
    intro bundle loaded
    cases loaded
    rfl
  refine (agree_iff_not_sprays ⟨4, true⟩ .none 0 0 (holding "broker" 1) 0
    [nodeEndpoint "relay"] 0 .none (holding "relay" 0) 0 ?_ ?_).mpr ?_
  · intro bundle loaded
    rw [loads bundle loaded]
    rfl
  · intro bundle loaded
    rw [loads bundle loaded]
    decide
  · rintro ⟨-, many, -⟩
    exact absurd many (by decide)

theorem twoCopies_not_agree :
    (∃ selection bundle written sent,
      selectPeersForForwarding ⟨4, true⟩ .none 0 0 (holding "broker" 4) 0 [nodeEndpoint "relay"] = .ok selection ∧
        selection.bundle = some bundle ∧ bundle.marshalCbor = .ok (written, sent) ∧
        (parseBundle 0 written).err = none ∧
        notifyReceivedBundle .none (holding "relay" 0) 0 (parseBundle 0 written).bundle = .error .panic) ∧
      ¬Agree (selectPeersForForwarding ⟨4, true⟩ .none 0 0 (holding "broker" 4) 0
        [nodeEndpoint "relay"]) 0 .none (holding "relay" 0) 0 := by
  refine ⟨⟨_, _, _, _, rfl, rfl, rfl, rfl, rfl⟩, ?_⟩
  intro agree
  have recorded := agree _ _ 2 rfl rfl ⟨_, mem_singleton_self _, rfl⟩
  exact not_records (by decide) recorded

end RecDtn.Routing
