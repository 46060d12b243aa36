import Mathlib.Order.Bounds.Defs
import RecDtn.Bpv7.Numbering
import RecDtn.Bpv7.Rereading

/-! Which block a number refers to, while extension blocks come and go. -/

namespace RecDtn.Bpv7

open Wire Lang List

namespace Bundle

def getExtensionBlockByBlockNumber (b : Bundle) (blockNumber : UInt64) : Go CanonicalBlock :=
  match b.extensionBlocks.find? fun cb => cb.blockNumber = blockNumber with
  | some block => .ok block
  | none => .error (.error (.text s!"block with number {blockNumber} not found"))

def removeExtensionBlockByBlockNumber (b : Bundle) (blockNumber : UInt64) : Bundle :=
  { b with extensionBlocks := b.extensionBlocks.eraseP fun cb => cb.blockNumber = blockNumber }

variable {b : Bundle} {cb : CanonicalBlock}

theorem mem_of_getExtensionBlock {blockNumber : UInt64}
    (found : b.getExtensionBlockByBlockNumber blockNumber = .ok cb) :
    cb ∈ b.extensionBlocks ∧ cb.blockNumber = blockNumber := by
  unfold getExtensionBlockByBlockNumber at found
  split at found
  · rename_i block first
    cases found
    exact ⟨mem_of_find?_eq_some first, by simpa using List.find?_some first⟩
  · cases found

theorem eraseP_blockNumber {blocks : List CanonicalBlock}
    (distinct : (blocks.map CanonicalBlock.blockNumber).Nodup) (blockNumber : UInt64) :
    (blocks.eraseP fun cb => cb.blockNumber = blockNumber) = blocks.filter fun cb =>
      cb.blockNumber ≠ blockNumber := by
  induction blocks with
  | nil => rfl
  | cons cb rest ih =>
    obtain ⟨new, distinct⟩ := nodup_cons.mp distinct
    by_cases same : cb.blockNumber = blockNumber
    · have others : ∀ other ∈ rest, decide (other.blockNumber ≠ blockNumber) = true := by
        intro other member
        rw [decide_eq_true_eq, ← same]
        intro again
        exact new (again ▸ mem_map_of_mem member)
      rw [eraseP_cons_of_pos (by simpa using same), filter_cons_of_neg (by simpa using same),
        filter_eq_self.mpr others]
    · rw [eraseP_cons_of_neg (by simpa using same), filter_cons_of_pos (by simpa using same), ih distinct]

/-- A number is that of one block at most, the payload block is number 1, and it is
the only one of its type. -/
structure Unambiguous (b : Bundle) : Prop where
  distinct : (b.canonicalBlocks.map CanonicalBlock.blockNumber).Nodup
  payload : b.payloadBlock.blockNumber = 1
  extensions : ∀ cb ∈ b.extensionBlocks, ∀ value, cb.value = some value →
    value.blockTypeCode ≠ BlockType.payloadBlock
  found : ∀ blockNumber cb, b.getExtensionBlockByBlockNumber blockNumber = .ok cb →
    ∀ other ∈ b.canonicalBlocks, other.blockNumber = blockNumber → other = cb
  removed : ∀ blockNumber ∈ b.extensionBlocks.map CanonicalBlock.blockNumber,
    blockNumber ∉ (b.removeExtensionBlockByBlockNumber blockNumber).canonicalBlocks.map
      CanonicalBlock.blockNumber

section

variable {b : Bundle}

theorem nodup_canonicalBlocks : (b.canonicalBlocks.map CanonicalBlock.blockNumber).Nodup ↔
    (b.extensionBlocks.map CanonicalBlock.blockNumber).Nodup ∧
      ∀ cb ∈ b.extensionBlocks, cb.blockNumber ≠ b.payloadBlock.blockNumber := by
  rw [canonicalBlocks, map_append, map_singleton, nodup_append]
  simp

variable {blockNumber : UInt64}

theorem found_of_distinct (distinct : (b.canonicalBlocks.map CanonicalBlock.blockNumber).Nodup)
    {other : CanonicalBlock} (found : b.getExtensionBlockByBlockNumber blockNumber = .ok cb)
    (member : other ∈ b.canonicalBlocks) (same : other.blockNumber = blockNumber) : other = cb := by
  obtain ⟨inside, number⟩ := mem_of_getExtensionBlock found
  exact inj_on_of_nodup_map distinct member (mem_append_left _ inside) (same.trans number.symm)

theorem removed_of_distinct (distinct : (b.canonicalBlocks.map CanonicalBlock.blockNumber).Nodup)
    (used : blockNumber ∈ b.extensionBlocks.map CanonicalBlock.blockNumber) :
    blockNumber ∉ (b.removeExtensionBlockByBlockNumber blockNumber).canonicalBlocks.map
      CanonicalBlock.blockNumber := by
  obtain ⟨extensions, apart⟩ := nodup_canonicalBlocks.mp distinct
  intro member
  obtain ⟨other, left, same⟩ := mem_map.mp member
  rw [canonicalBlocks, removeExtensionBlockByBlockNumber, eraseP_blockNumber extensions] at left
  rcases mem_append.mp left with kept | payload
  · exact of_decide_eq_true (mem_filter.mp kept).2 same
  · obtain ⟨cb, inside, number⟩ := mem_map.mp used
    rw [mem_singleton.mp payload] at same
    exact apart cb inside (number.trans same.symm)

end

section

variable [Cboring] [Crc16] [Ed25519]

/-- The checks do not look at the number of the payload slot, nor for its number
among the extension blocks; they see to all the rest. -/
theorem unambiguous_iff {b : Bundle} {now : Time} (valid : b.checkValid now = .ok []) :
    b.Unambiguous ↔ b.payloadBlock.blockNumber = 1 ∧
      ∀ cb ∈ b.extensionBlocks, cb.blockNumber ≠ 1 := by
  obtain ⟨-, blocks, -, extensions, -, -⟩ := checkValid_eq_nil.mp valid
  constructor
  · intro unambiguous
    refine ⟨unambiguous.payload, ?_⟩
    rw [← unambiguous.payload]
    exact (nodup_canonicalBlocks.mp unambiguous.distinct).2
  · rintro ⟨payload, others⟩
    have distinct : (b.canonicalBlocks.map CanonicalBlock.blockNumber).Nodup := by
      refine nodup_canonicalBlocks.mpr ⟨(checkExtensions_eq_nil.mp extensions).1, ?_⟩
      rw [payload]
      exact others
    refine ⟨distinct, payload, ?_, ?_, ?_⟩
    · intro cb member value held code
      have number := CanonicalBlock.blockNumber_of_payload held code (blocks cb (mem_append_left _ member))
      exact others cb member number
    · intro blockNumber cb found other member same
      exact found_of_distinct distinct found member same
    · intro blockNumber used
      exact removed_of_distinct distinct used

end

section

open scoped Samples

/-- The hop count block has the number of the payload block. -/
def clashingBundle : Bundle :=
  { plainBundle with extensionBlocks := [⟨1, 0, CRCType.crcNo, [], some (.hopCount 8 0)⟩] }

/-- It passes the checks, it is read back from its bytes, and it holds one number twice. -/
theorem clashingBundle_ambiguous : clashingBundle.checkValid 0 = .ok [] ∧
    (∃ written sent, clashingBundle.marshalCbor = .ok (written, sent) ∧
      Bundle.parseBundle 0 written = ⟨clashingBundle, none, []⟩) ∧ ¬clashingBundle.Unambiguous := by
  refine ⟨rfl, ⟨_, _, rfl, rfl⟩, ?_⟩
  intro unambiguous
  exact absurd unambiguous.distinct (by decide)

theorem relayedBundle_unambiguous : relayedBundle.checkValid 0 = .ok [] ∧
    relayedBundle.Unambiguous := by
  have valid : relayedBundle.checkValid 0 = .ok [] := rfl
  exact ⟨valid, (unambiguous_iff valid).mpr (by decide)⟩

end

inductive BlockCall where
  | add (block : CanonicalBlock)
  | remove (blockNumber : UInt64)

def BlockCall.Plain : BlockCall → Prop
  | .add block =>
    ∃ value, block.value = some value ∧ value.blockTypeCode ≠ BlockType.payloadBlock
  | .remove _ => True

/-- The numbers from 2 on, in increasing order. -/
structure Numbered (b : Bundle) : Prop where
  above : ∀ cb ∈ b.extensionBlocks, 2 ≤ cb.blockNumber
  increasing : b.extensionBlocks.Pairwise fun first second => first.blockNumber < second.blockNumber

/-- What a call has done. The new block has the least free number, which is found after
at most one round more than there are blocks. All the others are as before. -/
inductive Done (before after : Bundle) : BlockCall → Prop where
  | add (block : CanonicalBlock) (number : UInt64)
      (least : IsLeast {free | 2 ≤ free ∧ free ∉ before.extensionBlocks.map CanonicalBlock.blockNumber} number)
      (search : ∀ rounds, before.extensionBlocks.length < rounds →
        freeNumber (before.extensionBlocks.map CanonicalBlock.blockNumber) rounds 2 = .ok number)
      (kept : after.extensionBlocks.Perm (before.extensionBlocks ++ [{ block with blockNumber := number }]))
      (primary : after.primaryBlock = before.primaryBlock) (payload : after.payloadBlock = before.payloadBlock) :
      Done before after (.add block)
  | remove (blockNumber : UInt64)
      (kept : after = { before with
        extensionBlocks := before.extensionBlocks.filter fun cb => cb.blockNumber ≠ blockNumber }) :
      Done before after (.remove blockNumber)

theorem Numbered.distinct (numbered : b.Numbered) :
    (b.extensionBlocks.map CanonicalBlock.blockNumber).Nodup := by
  rw [nodup_iff_pairwise_ne, pairwise_map]
  exact numbered.increasing.imp UInt64.ne_of_lt

theorem freeNumber_least {blockNumbers : List UInt64} (room : blockNumbers.length < 2 ^ 63) :
    ∃ number, IsLeast {free | 2 ≤ free ∧ free ∉ blockNumbers} number ∧
      ∀ rounds, blockNumbers.length < rounds → freeNumber blockNumbers rounds 2 = .ok number := by
  obtain ⟨taken, small, below, free⟩ := exists_first_free blockNumbers 2 room
  have shift : ∀ {j : Nat}, j ≤ taken → ((2 : UInt64) + j.toUInt64).toNat = 2 + j := by
    intro j le
    rw [UInt64.toNat_add, toNat_toUInt64 (by omega)]
    exact Nat.mod_eq_of_lt (show 2 + j < 2 ^ 64 by omega)
  refine ⟨2 + taken.toUInt64, ⟨⟨?_, free⟩, ?_⟩, ?_⟩
  · rw [UInt64.le_iff_toNat_le, shift (Nat.le_refl taken)]
    exact Nat.le_add_right 2 taken
  · -- A smaller number has been tried before.
    rintro other ⟨above, unused⟩
    rw [UInt64.le_iff_toNat_le, shift (Nat.le_refl taken)]
    by_contra smaller
    have two : 2 ≤ other.toNat := UInt64.le_iff_toNat_le.mp above
    obtain ⟨j, same⟩ := Nat.exists_eq_add_of_le two
    have tried : 2 + j.toUInt64 = other := UInt64.toNat_inj.mp ((shift (by omega)).trans same.symm)
    exact unused (tried ▸ below j (by omega))
  · intro rounds enough
    exact freeNumber_of_taken below free (by omega)

theorem number_le_of_not_less {first second : CanonicalBlock} (above : 2 ≤ first.blockNumber)
    (other : 2 ≤ second.blockNumber) (order : canonicalBlockLess second first = false) :
    first.blockNumber ≤ second.blockNumber := by
  have plain : ∀ {number : UInt64}, 2 ≤ number → number ≠ BlockType.payloadBlock := by
    rintro number large rfl
    exact absurd large (by decide)
  rw [canonicalBlockLess, if_neg (plain other), if_neg (plain above)] at order
  exact UInt64.not_lt.mp (of_decide_eq_false order)

theorem remove_done (numbered : b.Numbered) (blockNumber : UInt64) :
    (b.removeExtensionBlockByBlockNumber blockNumber).Numbered ∧
      Done b (b.removeExtensionBlockByBlockNumber blockNumber) (.remove blockNumber) := by
  have fewer : (b.removeExtensionBlockByBlockNumber blockNumber).extensionBlocks.Sublist
      b.extensionBlocks :=
    eraseP_sublist
  refine ⟨⟨?_, numbered.increasing.sublist fewer⟩, .remove blockNumber ?_⟩
  · intro cb member
    exact numbered.above cb (fewer.subset member)
  · rw [removeExtensionBlockByBlockNumber, eraseP_blockNumber numbered.distinct]

section

variable [GoSort]

def call (b : Bundle) : BlockCall → Go Bundle
  | .add block => b.addExtensionBlock block
  | .remove blockNumber => .ok (b.removeExtensionBlockByBlockNumber blockNumber)

def calls (b : Bundle) (list : List BlockCall) : Go Bundle := list.foldlM call b

variable {b : Bundle}

theorem add_done {block : CanonicalBlock} (numbered : b.Numbered)
    (plain : (BlockCall.add block).Plain) (room : b.extensionBlocks.length < 2 ^ 63) :
    ∃ after, b.addExtensionBlock block = .ok after ∧ after.Numbered ∧
      Done b after (.add block) := by
  obtain ⟨value, held, other⟩ := plain
  have numbers : (b.extensionBlocks.map CanonicalBlock.blockNumber).length =
      b.extensionBlocks.length :=
    length_map _
  obtain ⟨number, least, search⟩ := freeNumber_least (by rwa [numbers])
  have found : freeNumber (b.extensionBlocks.map CanonicalBlock.blockNumber)
      (b.extensionBlocks.length + 1) 2 = .ok number := search _ (by omega)
  let added : CanonicalBlock := { block with blockNumber := number }
  let blocks := GoSort.sort canonicalBlockLess (b.extensionBlocks ++ [added])
  have kept : blocks.Perm (b.extensionBlocks ++ [added]) := GoSort.perm _ _
  have above : ∀ cb ∈ blocks, 2 ≤ cb.blockNumber := by
    intro cb member
    rcases mem_append.mp (kept.mem_iff.mp member) with old | new
    · exact numbered.above cb old
    · rw [mem_singleton.mp new]
      exact least.1.1
  have distinct : (blocks.map CanonicalBlock.blockNumber).Nodup := by
    rw [(kept.map _).nodup_iff, map_append, nodup_append]
    refine ⟨numbered.distinct, nodup_singleton _, ?_⟩
    intro old used new member same
    rw [map_singleton, mem_singleton] at member
    rw [same, member] at used
    exact least.1.2 used
  have increasing : blocks.Pairwise fun first second => first.blockNumber < second.blockNumber := by
    have order := GoSort.sorted canonicalBlockLess (b.extensionBlocks ++ [added])
      canonicalBlockLess_asymm canonicalBlockLess_trans
    rw [nodup_iff_pairwise_ne, pairwise_map] at distinct
    refine (order.and distinct).imp_of_mem ?_
    rintro first second firstIn secondIn ⟨ordered, different⟩
    exact UInt64.lt_of_le_of_ne (number_le_of_not_less (above first firstIn) (above second secondIn)
      ordered) different
  refine ⟨{ b with extensionBlocks := blocks }, ?_, ⟨above, increasing⟩,
    .add block number least ?_ kept rfl rfl⟩
  · simp only [addExtensionBlock, CanonicalBlock.typeCode_of_present held, Go.ok_bind,
      if_neg other, numbers, found]
    rfl
  · rwa [numbers] at search

theorem call_done {call : BlockCall} (numbered : b.Numbered) (plain : call.Plain)
    (room : Allocatable b.extensionBlocks) :
    ∃ after, b.call call = .ok after ∧ after.Numbered ∧ Done b after call := by
  cases call with
  | add block =>
    have small : b.extensionBlocks.length < 2 ^ 63 := Nat.lt_of_le_of_lt room (by decide)
    exact add_done numbered plain small
  | remove blockNumber => exact ⟨_, rfl, remove_done numbered blockNumber⟩

/-- Whatever is added and removed, the numbers stay distinct and in order, and every
call does what it should. -/
theorem numbered_calls {b : Bundle} {list : List BlockCall} (numbered : b.Numbered)
    (plain : ∀ call ∈ list, call.Plain)
    (room : ∀ done reached, done <+: list → b.calls done = .ok reached →
    Allocatable reached.extensionBlocks) : ∃ last, b.calls list = .ok last ∧ last.Numbered ∧
      ∀ done call later, list = done ++ call :: later → ∃ before after,
        b.calls done = .ok before ∧ before.call call = .ok after ∧ after.Numbered ∧ Done before after call := by
  induction list generalizing b with
  | nil =>
    refine ⟨b, rfl, numbered, ?_⟩
    intro done call later split
    exact absurd split.symm (append_ne_nil_of_right_ne_nil _ (cons_ne_nil _ _))
  | cons first rest ih =>
    have small := room [] b nil_prefix rfl
    obtain ⟨next, called, nextNumbered, did⟩ :=
      call_done numbered (plain first mem_cons_self) small
    have onward : ∀ done, b.calls (first :: done) = next.calls done := by
      intro done
      rw [calls, foldlM_cons, called]
      rfl
    obtain ⟨last, run, lastNumbered, each⟩ := ih nextNumbered
      (fun call member => plain call (mem_cons_of_mem _ member)) (by
        intro done reached start ran
        exact room (first :: done) reached (cons_prefix_cons.mpr ⟨rfl, start⟩) ((onward done).trans ran))
    refine ⟨last, (onward rest).trans run, lastNumbered, ?_⟩
    intro done call later split
    cases done with
    | nil =>
      cases split
      exact ⟨b, next, rfl, called, nextNumbered, did⟩
    | cons head done =>
      obtain ⟨same, tail⟩ := List.cons.inj split
      subst same
      obtain ⟨before, after, reached, later, numbered, did⟩ := each done call later tail
      exact ⟨before, after, (onward done).trans reached, later, numbered, did⟩

end

section

attribute [local instance] GoSort.insertion

/-- The number that the removed block had is given out again. -/
def swappedBlocks : List BlockCall :=
  [.remove 2, .add ⟨9, 0, CRCType.crcNo, [], some (.bundleAge 0)⟩]

theorem relayedBundle_numbered_calls : ∃ last, relayedBundle.calls swappedBlocks = .ok last ∧
    last.Numbered := by
  have numbered : relayedBundle.Numbered := ⟨by decide, by decide⟩
  have plain : ∀ call ∈ swappedBlocks, call.Plain := by
    intro call member
    simp only [swappedBlocks, mem_cons, not_mem_nil, or_false] at member
    rcases member with rfl | rfl
    · trivial
    · exact ⟨_, rfl, by decide⟩
  have room : ∀ done reached, done <+: swappedBlocks →
      relayedBundle.calls done = .ok reached → Allocatable reached.extensionBlocks := by
    intro done reached start ran
    have prefixes := mem_inits done swappedBlocks |>.mpr start
    simp only [swappedBlocks, List.inits, map_cons, map_nil, mem_cons, not_mem_nil,
      or_false] at prefixes
    rcases prefixes with rfl | rfl | rfl <;> (cases ran; exact Nat.le_of_ble_eq_true rfl)
  obtain ⟨last, run, ordered, -⟩ := numbered_calls numbered plain room
  exact ⟨last, run, ordered⟩

end

end Bundle

end RecDtn.Bpv7
