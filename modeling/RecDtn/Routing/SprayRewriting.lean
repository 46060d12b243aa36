import RecDtn.Routing.SprayBudget

/-! What a bundle looks like when it is forwarded in binary mode. -/

namespace RecDtn.Routing

open Wire Lang Bpv7 Store BlockType Bundle SprayAndWait List BlockSlice CanonicalBlock
open CanonicalBlock (ofType)

variable {pointers : List Nat} {start : Nat} {b : Bundle}

namespace BlockSlice

variable {slice : BlockSlice} {front back : List CanonicalBlock} {cb : CanonicalBlock}
  {blockNumber : UInt64}

theorem remove_eq {i : Nat}
    (found : slice.blocks.findIdx? (fun other => other.blockNumber = blockNumber) = some i) :
    (slice.remove blockNumber).blocks = slice.blocks.eraseIdx i ∧
      (slice.remove blockNumber).array = slice.blocks.eraseIdx i ++ slice.array.drop (slice.length - 1) := by
  have erased := length_eraseIdx_blocks found
  have removed : slice.remove blockNumber =
      ⟨slice.blocks.eraseIdx i ++ slice.array.drop (slice.length - 1), slice.length - 1, by
        rw [length_append, erased]
        omega⟩ := by
    unfold remove
    rw [found]
  rw [removed]
  exact ⟨take_left' erased, rfl⟩

theorem remove_of_split (split : slice.blocks = front ++ cb :: back)
    (first : ∀ other ∈ front, other.blockNumber ≠ cb.blockNumber) :
    (slice.remove cb.blockNumber).blocks = front ++ back ∧
      (slice.remove cb.blockNumber).array = front ++ back ++ slice.array.drop (slice.length - 1) := by
  have found : slice.blocks.findIdx? (fun other => other.blockNumber = cb.blockNumber) =
      some front.length := by
    rw [split, findIdx?_append, findIdx?_eq_none_iff.mpr (by simpa using first), findIdx?_cons]
    simp
  have erased : slice.blocks.eraseIdx front.length = front ++ back := by
    rw [split, eraseIdx_append_of_length_le (Nat.le_refl _), Nat.sub_self, eraseIdx_cons_zero]
  rw [← erased]
  exact remove_eq found

/-- Every place holds what it held before, or what the next one held. -/
theorem getElem?_remove (slice : BlockSlice) (blockNumber : UInt64) (position : Nat) :
    (slice.remove blockNumber).array[position]? = slice.array[position]? ∨
      (slice.remove blockNumber).array[position]? = slice.array[position + 1]? := by
  cases found : slice.blocks.findIdx? fun other => other.blockNumber = blockNumber with
  | none =>
    unfold remove
    rw [found]
    exact .inl rfl
  | some i =>
    rw [(remove_eq found).2, getElem?_append, length_eraseIdx_blocks found, getElem?_eraseIdx]
    split
    · rename_i early
      split
      · exact .inl (getElem?_take_of_lt (by omega))
      · exact .inr (getElem?_take_of_lt (by omega))
    · rename_i late
      have here : slice.length - 1 + (position - (slice.length - 1)) = position := by omega
      rw [getElem?_drop, here]
      exact .inl rfl

theorem mem_remove (member : cb ∈ slice.blocks) (other : cb.blockNumber ≠ blockNumber) :
    cb ∈ (slice.remove blockNumber).blocks := by
  cases found : slice.blocks.findIdx? fun other => other.blockNumber = blockNumber with
  | none =>
    unfold remove
    rw [found]
    exact member
  | some i =>
    obtain ⟨inside, number, -⟩ := findIdx?_eq_some_iff_getElem.mp found
    rw [(remove_eq found).1, mem_eraseIdx_iff_getElem]
    obtain ⟨position, small, rfl⟩ := getElem_of_mem member
    refine ⟨position, small, ?_, rfl⟩
    intro same
    subst same
    exact other (by simpa using number)

theorem mem_foldl_removeAt (member : cb ∈ slice.blocks)
    (after : ∀ pointer ∈ pointers, start ≤ pointer)
    (others : ∀ position other, start ≤ position → slice.array[position]? = some other →
      other.blockNumber ≠ cb.blockNumber) : cb ∈ (pointers.foldl removeAt slice).blocks := by
  induction pointers generalizing slice with
  | nil => exact member
  | cons pointer rest ih =>
    obtain ⟨here, later⟩ := forall_mem_cons.mp after
    rw [foldl_cons]
    unfold removeAt
    split
    · exact ih member later others
    · rename_i block there
      refine ih (mem_remove member (others pointer block here there).symm) later ?_
      intro position other further found
      rcases slice.getElem?_remove block.blockNumber position with same | next
      · exact others position other further (same ▸ found)
      · exact others (position + 1) other (Nat.le_succ_of_le further) (next ▸ found)

end BlockSlice

section Removing

variable {blockType : UInt64} {front blocks : List CanonicalBlock} {cb : CanonicalBlock}

/-- The places of the blocks of a type, counted from some number on. -/
def placesFrom (blockType : UInt64) (start : Nat) (blocks : List CanonicalBlock) : List Nat :=
  ((blocks.zipIdx start).filter fun entry => entry.1.ofType blockType).map Prod.snd

theorem placesFrom_of_none (start : Nat) (none : ∀ cb ∈ blocks, ¬cb.ofType blockType = true) :
    placesFrom blockType start blocks = [] := by
  rw [placesFrom, map_eq_nil_iff, filter_eq_nil_iff]
  intro entry member
  exact none entry.1 (fst_mem_of_mem_zipIdx member)

theorem placesFrom_split (start : Nat) (none : ∀ cb ∈ front, ¬cb.ofType blockType = true)
    (here : cb.ofType blockType = true) : placesFrom blockType start (front ++ cb :: blocks) =
      (start + front.length) :: placesFrom blockType (start + front.length + 1) blocks := by
  have before := placesFrom_of_none start none
  rw [placesFrom, map_eq_nil_iff] at before
  rw [placesFrom, zipIdx_append, filter_append, before, nil_append, zipIdx_cons,
    filter_cons_of_pos (by exact here), map_cons]
  rfl

theorem le_of_mem_placesFrom {place : Nat} (member : place ∈ placesFrom blockType start blocks) :
    start ≤ place := by
  obtain ⟨entry, kept, rfl⟩ := mem_map.mp member
  exact le_snd_of_mem_zipIdx (mem_of_mem_filter kept)

/-- There is at most one block of the type, or there are two and nothing comes
after the second one. -/
def Removable (blockType : UInt64) (blocks : List CanonicalBlock) : Prop :=
  (blocks.filter (ofType blockType)).length ≤ 1 ∨
    (blocks.filter (ofType blockType)).length = 2 ∧
      blocks.getLast?.any (ofType blockType) = true

def BlockSlice.whole (blocks : List CanonicalBlock) : BlockSlice :=
  ⟨blocks, blocks.length, Nat.le_refl _⟩

theorem BlockSlice.blocks_whole (blocks : List CanonicalBlock) :
    (whole blocks).blocks = blocks := take_length

theorem extensionBlocks_removeExtensionBlocks (b : Bundle) (blockType : UInt64) :
    (removeExtensionBlocks b blockType).extensionBlocks =
      ((placesFrom blockType 0 b.extensionBlocks).foldl removeAt (.whole b.extensionBlocks)).blocks := rfl

variable {back : List CanonicalBlock}

theorem number_ne_of_split (distinct : ((front ++ cb :: back).map blockNumber).Nodup) :
    ∀ other ∈ front ++ back, other.blockNumber ≠ cb.blockNumber := by
  intro other member same
  have ordered : ((cb :: (front ++ back)).map blockNumber).Nodup :=
    (perm_middle.map _).nodup_iff.mp distinct
  rw [map_cons, nodup_cons, ← same] at ordered
  exact ordered.1 (mem_map_of_mem member)

/-- The first block of the type is found where the pointer is. -/
theorem removeAt_whole (distinct : ((front ++ cb :: back).map blockNumber).Nodup) :
    ((whole (front ++ cb :: back)).removeAt front.length).blocks = front ++ back ∧
      ((whole (front ++ cb :: back)).removeAt front.length).array =
        front ++ back ++ (front ++ cb :: back).drop (front ++ back).length := by
  have here : (whole (front ++ cb :: back)).array[front.length]? = some cb := by
    simp [whole]
  have first : ∀ other ∈ front, other.blockNumber ≠ cb.blockNumber :=
    fun other member => number_ne_of_split distinct other (mem_append_left back member)
  have removed := remove_of_split (blocks_whole (front ++ cb :: back)) first
  have length : (whole (front ++ cb :: back)).length - 1 = (front ++ back).length := by
    simp [whole]
  rw [length] at removed
  rw [removeAt, here]
  exact removed

section TwoOfThem

variable {first second : CanonicalBlock} {middle back : List CanonicalBlock}
  (distinct : ((front ++ first :: (middle ++ second :: back)).map blockNumber).Nodup)
include distinct

theorem number_ne_second : ∀ other ∈ (front ++ first :: middle) ++ back, other.blockNumber ≠
    second.blockNumber := by
  have parts : front ++ first :: (middle ++ second :: back) =
      (front ++ first :: middle) ++ second :: back := by simp
  rw [parts] at distinct
  exact number_ne_of_split distinct

/-- At the end of the array the second block is still found where it was. -/
theorem removeAt_last (last : back = []) :
    (((whole (front ++ first :: (middle ++ second :: back))).removeAt front.length).removeAt
      (front.length + 1 + middle.length)).blocks = front ++ middle := by
  subst last
  obtain ⟨blocks, array⟩ := removeAt_whole distinct
  have here : ((whole (front ++ first :: (middle ++ [second]))).removeAt
      front.length).array[front.length + 1 + middle.length]? = some second := by
    have length : (front ++ (middle ++ [second])).length = front.length + 1 + middle.length := by
      simp only [length_append, length_singleton]
      omega
    have tail : (front ++ first :: (middle ++ [second])).drop (front.length + 1 + middle.length) = [second] := by
      have parts : front ++ first :: (middle ++ [second]) = (front ++ first :: middle) ++ [second] := by simp
      rw [parts, drop_left' (by simp only [length_append, length_cons]; omega)]
    rw [array, length, tail, ← length, getElem?_concat_length]
  have split : ((whole (front ++ first :: (middle ++ [second]))).removeAt front.length).blocks =
      (front ++ middle) ++ second :: [] := by
    rw [blocks, append_assoc]
  have before : ∀ other ∈ front ++ middle, other.blockNumber ≠ second.blockNumber := by
    intro other member
    refine number_ne_second distinct other (mem_append_left _ ?_)
    rcases mem_append.mp member with early | later
    · exact mem_append_left _ early
    · exact mem_append_right _ (mem_cons_of_mem _ later)
  rw [removeAt, here]
  exact (remove_of_split split before).1.trans (append_nil _)

/-- Anywhere else the second pointer is at the block after it, so that the block
itself stays. -/
theorem mem_of_second (more : back ≠ [])
    (after : ∀ pointer ∈ pointers, front.length + 1 + middle.length ≤ pointer) :
    second ∈ (pointers.foldl removeAt
      ((whole (front ++ first :: (middle ++ second :: back))).removeAt front.length)).blocks := by
  obtain ⟨blocks, array⟩ := removeAt_whole distinct
  refine mem_foldl_removeAt ?_ after ?_
  · rw [blocks]
    simp
  · intro position other further there
    refine number_ne_second distinct other (mem_append_right _ ?_)
    have prior : (front ++ middle ++ [second]).length = front.length + 1 + middle.length := by
      simp only [length_append, length_singleton]
      omega
    have tail : (front ++ first :: (middle ++ second :: back)).drop
        (front ++ (middle ++ second :: back)).length ⊆ back := by
      have parts : front ++ first :: (middle ++ second :: back) = (front ++ first :: middle ++ [second]) ++ back := by
        simp
      have enough : (front ++ first :: middle ++ [second]).length ≤ (front ++ (middle ++ second :: back)).length := by
        have some := length_pos_iff.mpr more
        simp only [length_append, length_cons, length_nil]
        omega
      rw [parts, drop_append, drop_eq_nil_of_le enough, nil_append]
      exact drop_subset _ _
    have shape : front ++ (middle ++ second :: back) = (front ++ middle ++ [second]) ++ back := by simp
    rw [array, shape, append_assoc _ back,
      getElem?_append_right (by rw [prior]; exact further)] at there
    rcases mem_append.mp (mem_of_getElem? there) with here | stale
    · exact here
    · exact tail (shape ▸ stale)

end TwoOfThem

theorem filter_not_ofType (none : ∀ cb ∈ blocks, ¬cb.ofType blockType = true) :
    blocks.filter (fun cb => !cb.ofType blockType) = blocks :=
  filter_eq_self.mpr fun cb member => by simpa using none cb member

/-- All blocks of the type are removed and no other ones; or one of them stays. -/
theorem removeExtensionBlocks_cases (distinct : (b.extensionBlocks.map blockNumber).Nodup)
    (blockType : UInt64) : Removable blockType b.extensionBlocks ∧
        (removeExtensionBlocks b blockType).extensionBlocks =
          b.extensionBlocks.filter (fun cb => !cb.ofType blockType) ∨ ¬Removable blockType b.extensionBlocks ∧
        ∃ cb ∈ (removeExtensionBlocks b blockType).extensionBlocks, cb.ofType blockType = true := by
  rw [extensionBlocks_removeExtensionBlocks, Removable]
  generalize b.extensionBlocks = blocks at distinct
  cases found : blocks.filter (ofType blockType) with
  | nil =>
    have none := filter_eq_nil_iff.mp found
    refine .inl ⟨.inl (Nat.zero_le _), ?_⟩
    rw [placesFrom_of_none 0 none, filter_not_ofType none]
    exact blocks_whole blocks
  | cons first rest =>
    obtain ⟨front, later, rfl, before, here, same⟩ := filter_eq_cons_iff.mp found
    rw [placesFrom_split 0 before here, Nat.zero_add, foldl_cons]
    cases rest with
    | nil =>
      have none := filter_eq_nil_iff.mp same
      refine .inl ⟨.inl (Nat.le_refl _), ?_⟩
      rw [placesFrom_of_none _ none, foldl_nil, (removeAt_whole distinct).1, filter_append,
        filter_cons_of_neg (by simp [here]), filter_not_ofType before, filter_not_ofType none]
    | cons second more =>
      obtain ⟨middle, back, rfl, between, there, rest⟩ := filter_eq_cons_iff.mp same
      rw [placesFrom_split _ between there]
      cases back with
      | nil =>
        cases rest
        refine .inl ⟨.inr ⟨rfl, ?_⟩, ?_⟩
        · have parts : front ++ first :: (middle ++ [second]) = (front ++ first :: middle) ++ [second] := by simp
          rw [parts, getLast?_concat]
          exact there
        · rw [foldl_cons, placesFrom_of_none _ (by simp), foldl_nil, removeAt_last distinct rfl]
          simp [filter_append, filter_not_ofType before, filter_not_ofType between, here, there]
      | cons next back =>
        refine .inr ⟨?_, second, ?_, there⟩
        · -- a third block of the type would be the last one
          rintro (one | ⟨two, last⟩)
          · simp at one
          · have nothing : more = [] := by simpa using two
            rw [nothing, filter_eq_nil_iff] at rest
            refine rest _ (getLast_mem (cons_ne_nil next back)) ?_
            simpa [getLast?_append, getLast?_cons_cons, getLast?_eq_getLast_of_ne_nil] using last
        · apply mem_of_second distinct (cons_ne_nil _ _)
          intro pointer member
          rcases mem_cons.mp member with rfl | further
          · exact Nat.le_refl _
          · exact Nat.le_of_succ_le (le_of_mem_placesFrom further)

end Removing

/-- What a check of the whole bundle says about its extension blocks. -/
structure Orderly (b : Bundle) : Prop where
  present : ∀ cb ∈ b.extensionBlocks, cb.Present
  distinct : (b.extensionBlocks.map blockNumber).Nodup
  once : (b.extensionBlocks.filter (ofType previousNodeBlock)).length ≤ 1

theorem orderly_of_checkValid [Cboring] [Crc16] [Ed25519] {now : Time}
    (faithful : ∀ cb ∈ b.extensionBlocks, cb.Faithful) (valid : b.checkValid now = .ok []) :
    Orderly b := by
  have present : ∀ cb ∈ b.extensionBlocks, cb.Present :=
    fun cb member => (faithful cb member).present
  obtain ⟨-, -, -, checked, -⟩ := checkValid_eq_nil.mp valid
  obtain ⟨distinct, passed⟩ := checkExtensions_eq_nil.mp checked
  refine ⟨present, distinct, ?_⟩
  -- each Previous Node Block checks that it is the only one
  rcases extensionBlockByType_cases present previousNodeBlock with ⟨cb, only, -⟩ | ⟨-,
    cause, failed⟩
  · exact Nat.le_of_eq (congrArg List.length only)
  · refine Nat.le_trans (Nat.le_zero.mpr (congrArg List.length (filter_eq_nil_iff.mpr ?_)))
      (Nat.zero_le 1)
    intro cb member code
    obtain ⟨value, held, managed, -⟩ := faithful cb member
    obtain ⟨-, same, there, context⟩ := passed cb member
    rw [Option.mem_def, there] at held
    cases held
    obtain ⟨endpoint, rfl⟩ := managed.previousNode_of_code (by simpa [ofType, there] using code)
    rw [checkContextValid, failed] at context
    cases context

section Blocks

variable {b : Bundle} (orderly : Orderly b)
include orderly

/-- Without such blocks there is nothing to remove. -/
theorem clearCopies_eq : clearCopies b = .ok (removeExtensionBlocks b binarySprayBlock) := by
  unfold clearCopies extensionBlocksByType
  rw [blocksOfType_of_present orderly.present, Go.ok_bind]
  cases found : b.extensionBlocks.filter (ofType binarySprayBlock) with
  | nil =>
    have same : (removeExtensionBlocks b binarySprayBlock).extensionBlocks = b.extensionBlocks := by
      rw [extensionBlocks_removeExtensionBlocks, placesFrom_of_none 0 (filter_eq_nil_iff.mp found)]
      exact blocks_whole _
    exact congrArg (fun blocks => Except.ok { b with extensionBlocks := blocks }) same.symm
  | cons cb rest => rfl

theorem clearPreviousNode_eq : clearPreviousNode b = .ok
    { b with extensionBlocks := b.extensionBlocks.filter fun cb => !cb.ofType previousNodeBlock } := by
  obtain ⟨present, distinct, once⟩ := orderly
  unfold clearPreviousNode
  rcases extensionBlockByType_cases present previousNodeBlock with ⟨cb, only, found⟩ | ⟨none,
    cause, failed⟩
  · obtain ⟨front, back, split, before, here, after⟩ := filter_eq_cons_iff.mp only
    rw [split] at distinct
    have earlier : ∀ other ∈ front, other.blockNumber ≠ cb.blockNumber :=
      fun other member => number_ne_of_split distinct other (mem_append_left back member)
    have erased : b.extensionBlocks.eraseP (fun other => other.blockNumber = cb.blockNumber) = front ++ back := by
      rw [split, eraseP_append_right _ (by simpa using earlier), eraseP_cons_of_pos (by simp)]
    have kept : b.extensionBlocks.filter (fun cb => !cb.ofType previousNodeBlock) = front ++ back := by
      rw [split, filter_append, filter_cons_of_neg (by simp [here]), filter_not_ofType before,
        filter_not_ofType (filter_eq_nil_iff.mp after)]
    rw [found, kept, ← erased]
    rfl
  · have nothing : b.extensionBlocks.filter (ofType previousNodeBlock) = [] := by
      cases found : b.extensionBlocks.filter (ofType previousNodeBlock) with
      | nil => rfl
      | cons cb rest =>
        rw [found, length_cons] at once
        obtain rfl : rest = [] := eq_nil_of_length_eq_zero (by omega)
        exact absurd found (none cb)
    rw [failed, filter_not_ofType (filter_eq_nil_iff.mp nothing)]
    rfl

end Blocks

/-- A block of neither of the two types. -/
def isForeign (cb : CanonicalBlock) : Bool :=
  !cb.ofType binarySprayBlock && !cb.ofType previousNodeBlock

/-- Only the two blocks that belong to the forwarding node are new. -/
structure Rewritten (ownNodeID : EndpointID) (sendCopies : UInt64) (stored sent : Bundle) : Prop where
  primary : sent.primaryBlock = stored.primaryBlock
  payload : sent.payloadBlock = stored.payloadBlock
  spray : ∃ cb, sent.extensionBlocks.filter (ofType binarySprayBlock) = [cb] ∧
    cb.value = some (.binarySpray sendCopies)
  previousNode : ∃ cb, sent.extensionBlocks.filter (ofType previousNodeBlock) = [cb] ∧
    cb.value = some (.previousNode ownNodeID)
  foreign : (sent.extensionBlocks.filter isForeign).Perm (stored.extensionBlocks.filter isForeign)

section Sending

variable [GoSort] {ownNodeID : EndpointID} {sendCopies : UInt64} {stored attached sent : Bundle}

/-- A block as `NewCanonicalBlock` makes it, with a number. -/
def plainBlock (number : UInt64) (value : ExtensionBlock) : CanonicalBlock :=
  ⟨number, 0, CRCType.crcNo, [], some value⟩

/-- The blocks with the copies: those that the removal has left, and the new one. -/
theorem perm_of_attached (orderly : Orderly stored)
    (attaching : attachCopies stored sendCopies = .ok attached) :
    Orderly attached ∧ attached.primaryBlock = stored.primaryBlock ∧
      attached.payloadBlock = stored.payloadBlock ∧ ∃ number, attached.extensionBlocks.Perm
        ((removeExtensionBlocks stored binarySprayBlock).extensionBlocks ++
          [plainBlock number (.binarySpray sendCopies)]) := by
  have fewer := removeExtensionBlocks_sublist stored binarySprayBlock
  rw [attachCopies, clearCopies_eq orderly, Go.ok_bind] at attaching
  obtain ⟨number, fresh, blocks, primary, payload⟩ := addExtensionBlock_eq_ok attaching
  refine ⟨⟨?_, ?_, ?_⟩, primary, payload, number, blocks⟩
  · intro cb member
    rcases mem_append.mp (blocks.mem_iff.mp member) with old | new
    · exact orderly.present cb (fewer.subset old)
    · rw [mem_singleton.mp new]
      exact ⟨_, rfl⟩
  · rw [(blocks.map _).nodup_iff, map_append, map_singleton, nodup_append]
    refine ⟨(fewer.map _).nodup orderly.distinct, nodup_singleton _, ?_⟩
    intro old member new alone same
    rw [same, mem_singleton.mp alone] at member
    exact fresh member
  · have less := (fewer.filter (ofType previousNodeBlock)).length_le
    rw [(blocks.filter _).length_eq, filter_append, length_append]
    exact Nat.le_trans less orderly.once

variable {b : Bundle} {kept : List CanonicalBlock}

/-- The blocks with the node: those of other types, and the new one. -/
theorem perm_of_replaced (orderly : Orderly b)
    (replacing : replacePreviousNode ownNodeID b = .ok sent) :
    sent.primaryBlock = b.primaryBlock ∧ sent.payloadBlock = b.payloadBlock ∧ ∃ number,
      sent.extensionBlocks.Perm ((b.extensionBlocks.filter fun cb => !cb.ofType previousNodeBlock) ++
        [plainBlock number (.previousNode ownNodeID)]) := by
  rw [replacePreviousNode, clearPreviousNode_eq orderly, Go.ok_bind] at replacing
  obtain ⟨number, -, blocks, primary, payload⟩ := addExtensionBlock_eq_ok replacing
  exact ⟨primary, payload, number, blocks⟩

theorem replacePreviousNode_total (orderly : Orderly b) (room : b.extensionBlocks.length < 2 ^ 63)
    (ownNodeID : EndpointID) : ∃ sent, replacePreviousNode ownNodeID b = .ok sent := by
  have held : (plainBlock 0 (.previousNode ownNodeID)).Present := ⟨_, rfl⟩
  have fewer : (b.extensionBlocks.filter fun cb => !cb.ofType previousNodeBlock).length < 2 ^ 63 :=
    Nat.lt_of_le_of_lt (length_filter_le _ _) room
  rw [replacePreviousNode, clearPreviousNode_eq orderly, Go.ok_bind]
  obtain ⟨blocks, added, -⟩ :=
    @addExtensionBlock_of_present _ { b with extensionBlocks := _ } _ held fewer
  exact ⟨_, added⟩

omit [GoSort] in
/-- Blocks that are never of the previous node stay when those are replaced. -/
theorem perm_filter_of_apart {test : CanonicalBlock → Bool} {blocks added : List CanonicalBlock}
    (same : blocks.Perm ((kept.filter fun cb => !cb.ofType previousNodeBlock) ++ added))
    (apart : ∀ cb, test cb = true → cb.ofType previousNodeBlock = false) :
    (blocks.filter test).Perm (kept.filter test ++ added.filter test) := by
  have listed := same.filter test
  have agree : kept.filter (fun cb => test cb && !cb.ofType previousNodeBlock) =
      kept.filter test := by
    refine filter_congr fun cb _ => ?_
    cases passed : test cb with
    | false => rfl
    | true => simp [apart cb passed]
  rw [filter_append, filter_filter, agree] at listed
  exact listed

omit [GoSort] in
theorem rewritten_iff {number other : UInt64} (primary : sent.primaryBlock = stored.primaryBlock)
    (payload : sent.payloadBlock = stored.payloadBlock)
    (blocks : sent.extensionBlocks.Perm ((kept.filter fun cb => !cb.ofType previousNodeBlock) ++
      [plainBlock number (.binarySpray sendCopies), plainBlock other (.previousNode ownNodeID)])) :
    Rewritten ownNodeID sendCopies stored sent ↔ kept.filter (ofType binarySprayBlock) = [] ∧
        (kept.filter isForeign).Perm (stored.extensionBlocks.filter isForeign) := by
  have sprays : (sent.extensionBlocks.filter (ofType binarySprayBlock)).Perm
      (kept.filter (ofType binarySprayBlock) ++
        [plainBlock number (.binarySpray sendCopies)]) := by
    refine perm_filter_of_apart blocks ?_
    intro cb spray
    rw [ofType, decide_eq_true_eq] at spray
    rw [ofType, spray]
    rfl
  have previous : (sent.extensionBlocks.filter (ofType previousNodeBlock)).Perm
      [plainBlock other (.previousNode ownNodeID)] := by
    have listed := blocks.filter (ofType previousNodeBlock)
    have none : kept.filter (fun cb => cb.ofType previousNodeBlock && !cb.ofType previousNodeBlock) = [] := by simp
    rw [filter_append, filter_filter, none] at listed
    exact listed
  have foreign : (sent.extensionBlocks.filter isForeign).Perm (kept.filter isForeign) := by
    have apart : ∀ cb, isForeign cb = true → cb.ofType previousNodeBlock = false := by
      intro cb other
      simp only [isForeign, Bool.and_eq_true, Bool.not_eq_true'] at other
      exact other.2
    exact (perm_filter_of_apart blocks apart).trans (.of_eq (append_nil _))
  constructor
  · intro rewritten
    obtain ⟨cb, only, -⟩ := rewritten.spray
    refine ⟨?_, foreign.symm.trans rewritten.foreign⟩
    have length := sprays.length_eq
    rw [only, length_append, length_singleton, length_singleton] at length
    exact eq_nil_of_length_eq_zero (by omega)
  · rintro ⟨nothing, same⟩
    rw [nothing] at sprays
    exact ⟨primary, payload, ⟨_, perm_singleton.mp sprays, rfl⟩,
      ⟨_, perm_singleton.mp previous, rfl⟩, foreign.trans same⟩

/-- The removal is all that can go wrong. -/
theorem rewritten_iff_removable (orderly : Orderly stored)
    (attaching : attachCopies stored sendCopies = .ok attached)
    (replacing : replacePreviousNode ownNodeID attached = .ok sent) :
    Rewritten ownNodeID sendCopies stored sent ↔
      Removable binarySprayBlock stored.extensionBlocks := by
  obtain ⟨next, primary, payload, number, blocks⟩ := perm_of_attached orderly attaching
  obtain ⟨samePrimary, samePayload, other, sentBlocks⟩ := perm_of_replaced next replacing
  have both := (blocks.filter fun cb => !cb.ofType previousNodeBlock).append_right
    [plainBlock other (.previousNode ownNodeID)]
  rw [filter_append, append_assoc] at both
  rw [rewritten_iff (samePrimary.trans primary) (samePayload.trans payload) (sentBlocks.trans both)]
  rcases removeExtensionBlocks_cases orderly.distinct binarySprayBlock with
    ⟨removable, kept⟩ | ⟨not, cb, member, spray⟩
  · refine iff_of_true ?_ removable
    rw [kept, filter_filter, filter_filter]
    constructor
    · simp
    · refine .of_eq (filter_congr fun cb _ => ?_)
      simp [isForeign, Bool.and_comm]
  · refine iff_of_false ?_ not
    intro ⟨nothing, _⟩
    exact filter_eq_nil_iff.mp nothing cb member spray

variable [Cboring] [Crc16] [Ed25519] [Sha256] [Badgerhold] {now checkedAt : Time}
  {bst : BundleStore} {ref : Ref} {peers : List EndpointID}

/-- A stored bundle is forwarded as intended unless a block of copies stands
after another one and before the last place. -/
theorem forwarded_rewritten_iff (loading : bst.load now ref = .ok stored)
    (valid : stored.checkValid checkedAt = .ok [])
    (room : Allocatable stored.extensionBlocks) (someone : peers ≠ [])
    (faults : Faults) (intn : Nat) (copies : UInt64) (ownNodeID : EndpointID) :
    ∃ peer attached sent, SprayAndWait.selectBinarySpray faults now intn bst ref copies peers =
        .ok ⟨[peer], some attached, setSprayCopies faults bst ref (SprayAndWait.retained copies)⟩ ∧
      replacePreviousNode ownNodeID attached = .ok sent ∧
      (Rewritten ownNodeID (copies / 2) stored sent ↔
        Removable binarySprayBlock stored.extensionBlocks) := by
  have orderly := orderly_of_checkValid (faithful_of_load loading) valid
  have small : stored.extensionBlocks.length < 2 ^ 62 := Nat.lt_of_le_of_lt room (by decide)
  obtain ⟨attached, attaching⟩ := attachCopies_of_present orderly.present (by omega) (copies / 2)
  obtain ⟨peer, selected⟩ :=
    selectBinarySpray_of_attachCopies someone loading attaching faults intn
  obtain ⟨next, -, -, number, blocks⟩ := perm_of_attached orderly attaching
  have larger : attached.extensionBlocks.length < 2 ^ 63 := by
    have fewer := (removeExtensionBlocks_sublist stored binarySprayBlock).length_le
    rw [blocks.length_eq, length_append, length_singleton]
    omega
  obtain ⟨sent, replacing⟩ := replacePreviousNode_total next larger ownNodeID
  exact ⟨peer, attached, sent, selected, replacing,
    rewritten_iff_removable orderly attaching replacing⟩

end Sending

open SprayAndWait

open scoped Samples

/-- A bundle that has come with these blocks. -/
def tagged (blocks : List ExtensionBlock) : Bundle := { plainBundle with
  extensionBlocks := blocks.mapIdx fun i value => plainBlock (i + 2).toUInt64 value }

def storedByBroker (bundle : Bundle) : BundleStore :=
  ((BundleStore.empty (nodeEndpoint "broker")).insertBundle .none bundle).2

/-- The decoder reads the block of four copies as a generic one. -/
def taggedOnce : Bundle := tagged [.generic [4] 192, .hopCount 8 1]

def taggedTwice : Bundle := tagged [.generic [4] 192, .generic [2] 192, .hopCount 8 1]

theorem taggedOnce_rewritten : taggedOnce.checkValid 0 = .ok [] ∧ ∃ peer attached sent,
    selectBinarySpray .none 0 0 (storedByBroker taggedOnce) 0 4 [nodeEndpoint "relay"] =
        .ok ⟨[peer], some attached, setSprayCopies .none (storedByBroker taggedOnce) 0 (retained 4)⟩ ∧
      replacePreviousNode (nodeEndpoint "broker") attached = .ok sent ∧
      Rewritten (nodeEndpoint "broker") 2 taggedOnce sent := by
  have loading : (storedByBroker taggedOnce).load 0 0 = .ok taggedOnce := rfl
  have valid : taggedOnce.checkValid 0 = .ok [] := rfl
  have room : (2 : Nat) ≤ maxAlloc := by decide
  obtain ⟨peer, attached, sent, selected, replacing, same⟩ :=
    forwarded_rewritten_iff loading valid room
    (cons_ne_nil (nodeEndpoint "relay") []) .none 0 4 (nodeEndpoint "broker")
  exact ⟨valid, peer, attached, sent, selected, replacing, same.mpr (.inl (by decide +kernel))⟩

/-- Of two blocks of copies the second one is sent along with the new one, and
the Hop Count Block is lost. -/
theorem taggedTwice_not_rewritten : taggedTwice.checkValid 0 = .ok [] ∧
    (storedByBroker taggedTwice).load 0 0 = .ok taggedTwice ∧ ∃ selection attached sent,
      selectBinarySpray .none 0 0 (storedByBroker taggedTwice) 0 4 [nodeEndpoint "relay"] = .ok selection ∧
      selection.bundle = some attached ∧ replacePreviousNode (nodeEndpoint "broker") attached = .ok sent ∧
      ¬Rewritten (nodeEndpoint "broker") 2 taggedTwice sent := by
  refine ⟨rfl, rfl, _, _, _, rfl, rfl, rfl, ?_⟩
  intro rewritten
  exact absurd rewritten.foreign.length_eq (by decide +kernel)

end RecDtn.Routing
