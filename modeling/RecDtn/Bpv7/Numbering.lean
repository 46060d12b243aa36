import Mathlib.Data.List.Perm.Subperm
import RecDtn.Bpv7.Checking
import RecDtn.Bpv7.Fragmentation

namespace RecDtn.Bpv7

open Wire Lang List CanonicalBlock Go

theorem canonicalBlockLess_asymm (first second : CanonicalBlock)
    (less : canonicalBlockLess first second = true) : canonicalBlockLess second first = false := by
  simp only [canonicalBlockLess] at less ⊢
  grind

theorem canonicalBlockLess_trans (first second third : CanonicalBlock)
    (front : canonicalBlockLess second first = false)
    (back : canonicalBlockLess third second = false) : canonicalBlockLess third first = false := by
  simp only [canonicalBlockLess] at front back ⊢
  grind

namespace Bundle

variable {blockNumbers : List UInt64} {rounds : Nat} {start : UInt64} {extended : Bundle}

theorem freeNumber_of_taken {taken : Nat} (below : ∀ j < taken, start + j.toUInt64 ∈ blockNumbers)
    (free : start + taken.toUInt64 ∉ blockNumbers) (enough : taken < rounds) :
    freeNumber blockNumbers rounds start = .ok (start + taken.toUInt64) := by
  induction taken generalizing rounds start with
  | zero =>
    obtain ⟨more, rfl⟩ : ∃ more, rounds = more + 1 := ⟨rounds - 1, by omega⟩
    have first : start ∉ blockNumbers := by simpa using free
    simp [freeNumber, first]
  | succ taken ih =>
    obtain ⟨more, rfl⟩ : ∃ more, rounds = more + 1 := ⟨rounds - 1, by omega⟩
    have shift : ∀ j : Nat, start + 1 + j.toUInt64 = start + (j + 1).toUInt64 := by
      intro j
      simp [UInt64.add_assoc, UInt64.add_comm 1]
    have first : start ∈ blockNumbers := by simpa using below 0 (by omega)
    rw [freeNumber, if_pos first, ← shift]
    apply ih
    · intro j smaller
      rw [shift]
      exact below (j + 1) (by omega)
    · rwa [shift]
    · omega

theorem exists_free (blockNumbers : List UInt64) (start : UInt64)
    (room : blockNumbers.length < 2 ^ 63) :
    ∃ j ≤ blockNumbers.length, start + j.toUInt64 ∉ blockNumbers := by
  by_contra full
  have all : ∀ j ≤ blockNumbers.length, start + j.toUInt64 ∈ blockNumbers := by
    intro j small
    by_contra free
    exact full ⟨j, small, free⟩
  let candidates := (List.range (blockNumbers.length + 1)).map fun j => start + j.toUInt64
  have distinct : candidates.Nodup := by
    refine List.Nodup.map_on ?_ nodup_range
    intro first small second other same
    rw [mem_range] at small other
    calc first = first.toUInt64.toNat := (toNat_toUInt64 (by omega)).symm
      _ = second.toUInt64.toNat := by rw [(UInt64.add_right_inj start).mp same]
      _ = second := toNat_toUInt64 (by omega)
  have inside : candidates ⊆ blockNumbers := by
    intro number member
    obtain ⟨j, small, rfl⟩ := mem_map.mp member
    exact all j (by simpa [Nat.lt_succ_iff] using small)
  have fewer := (distinct.subperm inside).length_le
  simp [candidates] at fewer

theorem exists_first_free (blockNumbers : List UInt64) (start : UInt64)
    (room : blockNumbers.length < 2 ^ 63) :
    ∃ taken ≤ blockNumbers.length, (∀ j < taken, start + j.toUInt64 ∈ blockNumbers) ∧
      start + taken.toUInt64 ∉ blockNumbers := by
  have exist := exists_free blockNumbers start room
  classical
  obtain ⟨small, free⟩ := Nat.find_spec exist
  refine ⟨Nat.find exist, small, ?_, free⟩
  intro j smaller
  by_contra free
  exact Nat.find_min exist smaller ⟨by omega, free⟩

theorem freeNumber_total (blockNumbers : List UInt64) (start : UInt64)
    (room : blockNumbers.length < 2 ^ 63) :
    ∃ number, freeNumber blockNumbers (blockNumbers.length + 1) start = .ok number := by
  obtain ⟨taken, small, below, free⟩ := exists_first_free blockNumbers start room
  exact ⟨_, freeNumber_of_taken below free (Nat.lt_succ_of_le small)⟩

theorem freeNumber_not_mem {number : UInt64}
    (found : freeNumber blockNumbers rounds start = .ok number) : number ∉ blockNumbers := by
  induction rounds generalizing start with
  | zero => cases found
  | succ rounds ih =>
    rw [freeNumber] at found
    split at found
    · exact ih found
    · rename_i free
      cases found
      exact free

variable [GoSort] {b : Bundle} {cb : CanonicalBlock} {blocks : List CanonicalBlock} {number : Nat}

/-- A block is added under a number that no other block has, wherever it is
sorted to. -/
theorem addExtensionBlock_eq_ok (done : b.addExtensionBlock cb = .ok extended) : ∃ number,
      number ∉ b.extensionBlocks.map blockNumber ∧
      extended.extensionBlocks.Perm (b.extensionBlocks ++ [{ cb with blockNumber := number }]) ∧
      extended.primaryBlock = b.primaryBlock ∧ extended.payloadBlock = b.payloadBlock := by
  obtain ⟨typeCode, -, done⟩ := bind_eq_ok.mp done
  obtain ⟨number, found, done⟩ := bind_eq_ok.mp done
  cases done
  exact ⟨number, freeNumber_not_mem found, GoSort.perm _ _, rfl, rfl⟩

theorem primaryBlock_addExtensionBlocks (added : b.addExtensionBlocks blocks = .ok extended) :
    extended.primaryBlock = b.primaryBlock := by
  induction blocks generalizing b with
  | nil =>
    cases added
    rfl
  | cons cb rest ih =>
    obtain ⟨once, first, later⟩ := bind_eq_ok.mp added
    obtain ⟨-, -, -, same, -⟩ := addExtensionBlock_eq_ok first
    exact (ih later).trans same

theorem addExtensionBlock_of_absent (b : Bundle) (absent : cb.value = none) :
    b.addExtensionBlock cb = .error .panic := by
  simp [addExtensionBlock, typeCode, absent, Go.deref]

/-- Adding a block permutes the values and touches nothing else. -/
theorem addExtensionBlock_of_present (present : cb.Present)
    (room : b.extensionBlocks.length < 2 ^ 63) :
    ∃ blocks, b.addExtensionBlock cb = .ok { b with extensionBlocks := blocks } ∧
      (blocks.map CanonicalBlock.value).Perm ((b.extensionBlocks ++ [cb]).map CanonicalBlock.value) := by
  obtain ⟨value, held⟩ := present
  obtain ⟨number, found⟩ := freeNumber_total (b.extensionBlocks.map blockNumber)
    (if value.blockTypeCode = BlockType.payloadBlock then 1 else 2) (by simpa using room)
  refine ⟨_, by simp only [addExtensionBlock, typeCode_of_present held, ok_bind, found]; rfl, ?_⟩
  refine ((GoSort.perm _ _).map _).trans ?_
  simp

theorem addExtensionBlocks_of_present (present : ∀ cb ∈ blocks, cb.Present)
    (room : b.extensionBlocks.length + blocks.length < 2 ^ 63) :
    ∃ added, b.addExtensionBlocks blocks = .ok { b with extensionBlocks := added } ∧
      (added.map CanonicalBlock.value).Perm ((b.extensionBlocks ++ blocks).map CanonicalBlock.value) := by
  induction blocks generalizing b with
  | nil => exact ⟨b.extensionBlocks, rfl, by simp⟩
  | cons cb rest ih =>
    simp only [length_cons] at room
    have small : b.extensionBlocks.length < 2 ^ 63 := by omega
    obtain ⟨once, first, same⟩ := addExtensionBlock_of_present (present cb (by simp)) small
    have size : once.length + rest.length < 2 ^ 63 := by
      have length := same.length_eq
      simp only [length_map, length_append, length_singleton] at length
      omega
    obtain ⟨added, later, permuted⟩ := @ih { b with extensionBlocks := once }
      (fun other member => present other (by simp [member])) size
    refine ⟨added, ?_, permuted.trans ?_⟩
    · simp only [addExtensionBlocks, foldlM_cons, first, ok_bind]
      exact later
    · simpa using same.append_right (rest.map CanonicalBlock.value)

theorem addExtensionBlocks_of_absent (member : cb ∈ blocks) (absent : cb.value = none)
    (room : b.extensionBlocks.length + blocks.length < 2 ^ 63) :
    b.addExtensionBlocks blocks = .error .panic := by
  induction blocks generalizing b with
  | nil => cases member
  | cons first rest ih =>
    simp only [length_cons] at room
    cases held : first.value with
    | none => simp [addExtensionBlocks, addExtensionBlock_of_absent b held]
    | some value =>
      have small : b.extensionBlocks.length < 2 ^ 63 := by omega
      obtain ⟨once, added, same⟩ := addExtensionBlock_of_present ⟨value, held⟩ small
      have size : once.length + rest.length < 2 ^ 63 := by
        have length := same.length_eq
        simp only [length_map, length_append, length_singleton] at length
        omega
      have later : cb ∈ rest := by
        rcases mem_cons.mp member with rfl | later
        · rw [absent] at held
          cases held
        · exact later
      simp only [addExtensionBlocks, foldlM_cons, added, ok_bind]
      exact @ih { b with extensionBlocks := once } later size

def numberedFrom : Nat → List CanonicalBlock → List CanonicalBlock
  | _, [] => []
  | number, cb :: rest => { cb with blockNumber := number.toUInt64 } :: numberedFrom (number + 1) rest

omit [GoSort]

theorem length_numberedFrom (number : Nat) (blocks : List CanonicalBlock) :
    (numberedFrom number blocks).length = blocks.length := by
  induction blocks generalizing number with
  | nil => rfl
  | cons cb rest ih => simp [numberedFrom, ih]

theorem numberedFrom_append (number : Nat) (front back : List CanonicalBlock) :
    numberedFrom number (front ++ back) =
      numberedFrom number front ++ numberedFrom (number + front.length) back := by
  induction front generalizing number with
  | nil => rfl
  | cons cb rest ih =>
    have shift : number + 1 + rest.length = number + (rest.length + 1) := by omega
    simp [numberedFrom, ih, shift]

/-- Whatever does not look at the number of a block stays as it was. -/
theorem map_numberedFrom {α : Type} {read : CanonicalBlock → α}
    (kept : ∀ cb number, read { cb with blockNumber := number } = read cb) (number : Nat)
    (blocks : List CanonicalBlock) : (numberedFrom number blocks).map read = blocks.map read := by
  induction blocks generalizing number with
  | nil => rfl
  | cons cb rest ih => simp [numberedFrom, ih, kept]

theorem numbers_numberedFrom (number : Nat) (blocks : List CanonicalBlock) :
    (numberedFrom number blocks).map blockNumber =
      (List.range' number blocks.length).map Nat.toUInt64 := by
  induction blocks generalizing number with
  | nil => rfl
  | cons cb rest ih => simp [numberedFrom, ih, range'_succ]

theorem mem_numberedFrom (member : cb ∈ numberedFrom number blocks) :
    ∃ original ∈ blocks, cb = { original with blockNumber := cb.blockNumber } := by
  induction blocks generalizing number with
  | nil => cases member
  | cons first rest ih =>
    rcases mem_cons.mp member with rfl | later
    · exact ⟨first, by simp, rfl⟩
    · obtain ⟨original, inside, same⟩ := ih later
      exact ⟨original, by simp [inside], same⟩

theorem numberedFrom_numberedFrom (number other : Nat) (blocks : List CanonicalBlock) :
    numberedFrom number (numberedFrom other blocks) = numberedFrom number blocks := by
  induction blocks generalizing number other with
  | nil => rfl
  | cons cb rest ih => simp [numberedFrom, ih]

theorem number_of_mem (room : number + blocks.length < 2 ^ 64)
    (member : cb ∈ numberedFrom number blocks) : number ≤ cb.blockNumber.toNat := by
  induction blocks generalizing number with
  | nil => cases member
  | cons first rest ih =>
    simp only [length_cons] at room
    rcases mem_cons.mp member with rfl | later
    · exact Nat.le_of_eq (toNat_toUInt64 (by omega)).symm
    · have above := ih (by omega) later
      omega

theorem ordered_numberedFrom (above : 2 ≤ number) (room : number + blocks.length < 2 ^ 64) :
    (numberedFrom number blocks).Pairwise fun first second =>
      canonicalBlockLess first second = true := by
  induction blocks generalizing number with
  | nil => exact List.Pairwise.nil
  | cons cb rest ih =>
    simp only [length_cons] at room
    refine pairwise_cons.mpr ⟨?_, ih (by omega) (by omega)⟩
    intro other member
    have later := number_of_mem (by omega) member
    have own : number.toUInt64.toNat = number := toNat_toUInt64 (by omega)
    have first : number.toUInt64 ≠ BlockType.payloadBlock := by
      intro same
      rw [same] at own
      simp [BlockType.payloadBlock] at own
      omega
    have second : other.blockNumber ≠ BlockType.payloadBlock := by
      intro same
      rw [same] at later
      simp [BlockType.payloadBlock] at later
      omega
    have less : number.toUInt64 < other.blockNumber := by
      rw [UInt64.lt_iff_toNat_lt, own]
      omega
    simp [canonicalBlockLess, first, second, less]

theorem nodup_numbers (room : number + blocks.length < 2 ^ 64) :
    ((numberedFrom number blocks).map blockNumber).Nodup := by
  rw [numbers_numberedFrom]
  refine List.Nodup.map_on ?_ nodup_range'
  intro first small second other same
  rw [mem_range'_1] at small other
  calc first = first.toUInt64.toNat := (toNat_toUInt64 (by omega)).symm
    _ = second.toUInt64.toNat := by rw [same]
    _ = second := toNat_toUInt64 (by omega)

/-- With the numbers from 2 on taken, the next one is found. -/
theorem freeNumber_numberedFrom (room : 2 + blocks.length < 2 ^ 63) :
    freeNumber ((numberedFrom 2 blocks).map blockNumber) (blocks.length + 1) 2 =
      .ok (2 + blocks.length).toUInt64 := by
  have shift : ∀ j : Nat, (2 : UInt64) + j.toUInt64 = (2 + j).toUInt64 := by
    intro j
    simp
  rw [← shift]
  refine freeNumber_of_taken ?_ ?_ (Nat.lt_succ_self _)
  · intro j below
    rw [numbers_numberedFrom, shift]
    exact mem_map_of_mem (mem_range'_1.mpr ⟨by omega, by omega⟩)
  · rw [numbers_numberedFrom, shift]
    intro member
    obtain ⟨number, taken, same⟩ := mem_map.mp member
    rw [mem_range'_1] at taken
    have numbers := congrArg UInt64.toNat same
    rw [toNat_toUInt64 (by omega), toNat_toUInt64 (by omega)] at numbers
    omega

variable [GoSort]

theorem addExtensionBlock_numbered (pb : PrimaryBlock) (payload : CanonicalBlock)
    {value : ExtensionBlock}
    (held : cb.value = some value) (plain : value.blockTypeCode ≠ BlockType.payloadBlock)
    (room : 2 + blocks.length < 2 ^ 63) :
    addExtensionBlock ⟨pb, numberedFrom 2 blocks, payload⟩ cb =
      .ok ⟨pb, numberedFrom 2 (blocks ++ [cb]), payload⟩ := by
  have extended : numberedFrom 2 blocks ++ [{ cb with blockNumber := (2 + blocks.length).toUInt64 }] =
      numberedFrom 2 (blocks ++ [cb]) := (numberedFrom_append 2 blocks [cb]).symm
  have longer : 2 + (blocks ++ [cb]).length < 2 ^ 64 := by
    rw [length_append, length_singleton]
    omega
  have sorted : GoSort.sort canonicalBlockLess (numberedFrom 2 (blocks ++ [cb])) =
      numberedFrom 2 (blocks ++ [cb]) :=
    GoSort.sort_eq_of_perm canonicalBlockLess_asymm canonicalBlockLess_trans (.refl _)
      (ordered_numberedFrom (Nat.le_refl 2) longer)
  have number := freeNumber_numberedFrom room
  simp only [addExtensionBlock, typeCode_of_present held, ok_bind, if_neg plain,
    length_map, length_numberedFrom, number, extended, sorted]
  rfl

/-- Blocks added to a bundle without any are numbered in their order. -/
theorem addExtensionBlocks_numbered {pb : PrimaryBlock} {payload : CanonicalBlock}
    {done : List CanonicalBlock}
    (plain : ∀ cb ∈ blocks, ∃ value, cb.value = some value ∧ value.blockTypeCode ≠
    BlockType.payloadBlock) (room : 2 + (done.length + blocks.length) < 2 ^ 63) :
    addExtensionBlocks ⟨pb, numberedFrom 2 done, payload⟩ blocks =
      .ok ⟨pb, numberedFrom 2 (done ++ blocks), payload⟩ := by
  induction blocks generalizing done with
  | nil => simp [addExtensionBlocks, pure, Except.pure]
  | cons cb rest ih =>
    simp only [length_cons] at room
    obtain ⟨value, held, other⟩ := plain cb (by simp)
    have later := @ih (done ++ [cb]) (fun block member => plain block (by simp [member]))
      (by simp only [length_append, length_singleton]; omega)
    have small : 2 + done.length < 2 ^ 63 := by omega
    have first := addExtensionBlock_numbered pb payload held other small
    simp only [addExtensionBlocks, foldlM_cons, first, ok_bind]
    simpa [addExtensionBlocks] using later

end Bundle

end RecDtn.Bpv7
