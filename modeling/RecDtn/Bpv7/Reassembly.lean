import Mathlib.Data.List.Rotate
import RecDtn.Bpv7.Numbering
import RecDtn.Wire.Coverage

/-! Reassembly of fragments that were cut out of one payload. -/

namespace RecDtn.Bpv7

open Wire Lang Bpv7.Bundle Go

namespace Bundle

/-- Where the payload of a fragment lies in that of the original. -/
def slice (f : Bundle) : Slice UInt8 :=
  ⟨f.primaryBlock.fragmentOffset.toNat, f.payloadData.toOption.getD []⟩

structure FragmentOf (f : Bundle) (whole : List UInt8) : Prop where
  flagged : f.isFragment = true
  total : f.primaryBlock.totalDataLength.toNat = whole.length
  payload : ∃ data, f.payloadBlock.value = some (.payload data)
  cut : f.slice.CutFrom whole

variable {f : Bundle} {whole : List UInt8}

theorem FragmentOf.payloadData (fragment : f.FragmentOf whole) :
    f.payloadData = .ok f.slice.data := by
  obtain ⟨data, held⟩ := fragment.payload
  simp [slice, Bundle.payloadData, held, Except.toOption]

theorem FragmentOf.start_le (fragment : f.FragmentOf whole) : f.slice.start ≤ whole.length :=
  Nat.le_trans f.slice.start_le_stop fragment.cut.inside

/-- The end of a fragment does not wrap around. -/
theorem FragmentOf.stop_eq (fragment : f.FragmentOf whole) (fits : whole.length < 2 ^ 63) :
    (f.primaryBlock.fragmentOffset + f.slice.data.length.toUInt64).toNat = f.slice.stop := by
  have inside := fragment.cut.inside
  have start : f.primaryBlock.fragmentOffset.toNat = f.slice.start := rfl
  unfold Slice.stop at inside ⊢
  rw [UInt64.toNat_add, toNat_toUInt64 (by omega), start, Nat.mod_eq_of_lt (by omega)]

end Bundle

section

variable {whole : List UInt8} {bs : List Bundle}

theorem checkGaps_of_walk {last : UInt64} {final : Nat} (fragments : ∀ f ∈ bs, f.FragmentOf whole)
    (fits : whole.length < 2 ^ 63) (through : walk last.toNat (bs.map Bundle.slice) = some final) :
    ∃ lastIndex, checkGaps last bs = .ok lastIndex ∧ lastIndex.toNat = final := by
  induction bs generalizing last with
  | nil => exact ⟨last, rfl, Option.some.inj through⟩
  | cons f rest ih =>
    have fragment := fragments f (by simp)
    obtain ⟨begun, through⟩ := walk_cons.mp through
    rw [← fragment.stop_eq fits] at through
    obtain ⟨lastIndex, passed, reached⟩ :=
      ih (fun other member => fragments other (by simp [member])) through
    have noGap : ¬f.primaryBlock.fragmentOffset > last := by
      rw [gt_iff_lt, UInt64.lt_iff_toNat_lt]
      exact Nat.not_lt.mpr begun
    have flagged : f.primaryBlock.bundleControlFlags.has BundleControlFlags.isFragment = true :=
      fragment.flagged
    refine ⟨lastIndex, ?_, reached⟩
    simp only [checkGaps, flagged, noGap, fragment.payloadData, ok_bind, passed]
    rfl

theorem checkGaps_of_gap {last : UInt64} (fragments : ∀ f ∈ bs, f.FragmentOf whole)
    (fits : whole.length < 2 ^ 63) (stopped : walk last.toNat (bs.map Bundle.slice) = none) :
    ∃ cause, checkGaps last bs = .error (.error cause) := by
  induction bs generalizing last with
  | nil => cases stopped
  | cons f rest ih =>
    have fragment := fragments f (by simp)
    have flagged : f.primaryBlock.bundleControlFlags.has BundleControlFlags.isFragment = true :=
      fragment.flagged
    by_cases gap : f.primaryBlock.fragmentOffset > last
    · exact ⟨_, by simp only [checkGaps, flagged, gap]; rfl⟩
    · have noGap : ¬last.toNat < f.slice.start := by
        rwa [gt_iff_lt, UInt64.lt_iff_toNat_lt] at gap
      rw [List.map_cons, walk, if_neg noGap, ← fragment.stop_eq fits] at stopped
      obtain ⟨cause, failed⟩ := ih (fun other member => fragments other (by simp [member])) stopped
      refine ⟨cause, ?_⟩
      simp only [checkGaps, flagged, gap, fragment.payloadData, ok_bind, failed]
      rfl

theorem mergeFragmentPayload_eq {last : Nat} (fragments : ∀ f ∈ bs, f.FragmentOf whole)
    (fits : whole.length < 2 ^ 63) :
    mergeFragmentPayload last bs = match merge last (bs.map Bundle.slice) with
      | some data => .ok data
      | none => .error .panic := by
  induction bs generalizing last with
  | nil => rfl
  | cons f rest ih =>
    have fragment := fragments f (by simp)
    have later := @ih f.slice.stop (fun other member => fragments other (by simp [member]))
    have start : intOf f.primaryBlock.fragmentOffset = f.slice.start :=
      intOf_eq (Nat.lt_of_le_of_lt fragment.start_le fits)
    have stop : (f.slice.start : Int) + f.slice.data.length = f.slice.stop := by
      simp [Slice.stop]
    have bounds : (0 ≤ (last : Int) - f.slice.start ∧ (last : Int) - f.slice.start ≤
        f.slice.data.length) ↔ f.slice.start ≤ last ∧ last ≤ f.slice.stop := by
      unfold Slice.stop
      omega
    have position : ((last : Int) - f.slice.start).toNat = last - f.slice.start := by omega
    simp only [mergeFragmentPayload, start, stop, fragment.payloadData, ok_bind, bounds,
      position, later, List.map_cons, merge]
    by_cases within : f.slice.start ≤ last ∧ last ≤ f.slice.stop
    · simp only [within, and_self, ↓reduceIte]
      cases merge f.slice.stop (rest.map Bundle.slice) <;> rfl
    · simp only [within, ↓reduceIte]

theorem fragmentOffsetLess_asymm (first second : Bundle)
    (less : fragmentOffsetLess first second = true) : fragmentOffsetLess second first = false := by
  simp only [fragmentOffsetLess, decide_eq_true_eq, decide_eq_false_iff_not,
    UInt64.lt_iff_toNat_lt] at less ⊢
  omega

theorem fragmentOffsetLess_trans (first second third : Bundle)
    (front : fragmentOffsetLess second first = false)
    (back : fragmentOffsetLess third second = false) : fragmentOffsetLess third first = false := by
  simp only [fragmentOffsetLess, decide_eq_false_iff_not, UInt64.lt_iff_toNat_lt] at front back ⊢
  omega

theorem start_le_of_not_less {first second : Bundle}
    (notAfter : fragmentOffsetLess second first = false) :
    first.slice.start ≤ second.slice.start := by
  simp only [fragmentOffsetLess, decide_eq_false_iff_not, UInt64.lt_iff_toNat_lt] at notAfter
  exact Nat.not_lt.mp notAfter

section Check

variable [Cboring] [Crc16] [Ed25519]

theorem Bundle.ensureValid_of_finished {b : Bundle} {now : Time} {causes : List GoError}
    (finished : b.checkValid now = .ok causes) :
    b.ensureValid now = .ok () ∨ ∃ cause, b.ensureValid now = .error (.error cause) := by
  simp only [ensureValid, finished, ok_bind]
  cases causes with
  | nil => exact .inl rfl
  | cons cause more => exact .inr ⟨_, rfl⟩

theorem Bundle.ensureValid_of_panic {b : Bundle} {now : Time}
    (stopped : b.checkValid now = .error .panic) : b.ensureValid now = .error .panic := by
  simp only [ensureValid, stopped, error_bind]

end Check

section Sorted

variable [GoSort]

theorem perm_sortedFragments (bs : List Bundle) : (sortedFragments bs).Perm bs := GoSort.perm _ _

theorem starts_sortedFragments (bs : List Bundle) :
    ((sortedFragments bs).map Bundle.slice).Pairwise fun first second =>
      first.start ≤ second.start := by
  refine List.pairwise_map.mpr ?_
  exact (GoSort.sorted _ _ fragmentOffsetLess_asymm fragmentOffsetLess_trans).imp start_le_of_not_less

theorem head_sortedFragments (nonempty : bs ≠ []) :
    ∃ first, (sortedFragments bs).head? = some first := by
  cases order : sortedFragments bs with
  | nil => exact absurd (List.Perm.nil_eq (order ▸ perm_sortedFragments bs)).symm nonempty
  | cons first rest => exact ⟨first, rfl⟩

theorem fragments_sorted (fragments : ∀ f ∈ bs, f.FragmentOf whole) :
    ∀ f ∈ sortedFragments bs, f.FragmentOf whole :=
  fun f member => fragments f ((perm_sortedFragments bs).mem_iff.mp member)

/-- Fragments are accepted if and only if the walk over them ends at the end. -/
theorem prepareReassembly_cases (fragments : ∀ f ∈ bs, f.FragmentOf whole)
    (fits : whole.length < 2 ^ 63)
    (nonempty : bs ≠ []) : (walk 0 ((sortedFragments bs).map Bundle.slice) = some whole.length ∧
        prepareReassembly bs = .ok (sortedFragments bs)) ∨
      (walk 0 ((sortedFragments bs).map Bundle.slice) ≠ some whole.length ∧
        ∃ cause, prepareReassembly bs = .error (.error cause)) := by
  have sorted := fragments_sorted fragments
  simp only [prepareReassembly, List.isEmpty_iff, nonempty, ↓reduceIte]
  cases through : walk 0 ((sortedFragments bs).map Bundle.slice) with
  | none =>
    obtain ⟨cause, failed⟩ := @checkGaps_of_gap whole _ 0 sorted fits through
    exact .inr ⟨nofun, cause, by rw [failed, error_bind]⟩
  | some final =>
    obtain ⟨lastIndex, passed, reached⟩ := @checkGaps_of_walk whole _ 0 final sorted fits through
    obtain ⟨first, head⟩ := head_sortedFragments nonempty
    have total : first.primaryBlock.totalDataLength.toNat = whole.length :=
      (sorted first (List.mem_of_head? head)).total
    simp only [passed, head, Go.deref, ok_bind, Option.some.injEq]
    by_cases same : first.primaryBlock.totalDataLength = lastIndex
    · refine .inl ⟨?_, by simp [same, pure, Except.pure]⟩
      rw [← reached, ← same, total]
    · refine .inr ⟨?_, _, by rw [if_pos same]⟩
      intro ended
      exact same (UInt64.toNat_inj.mp (by rw [total, reached, Option.some.inj ended]))

variable [Cboring] [Crc16] [Ed25519]

/-- What becomes of fragments that are accepted: they are merged, or there is a
panic because a slice ends too early or the first fragment cannot be checked. -/
theorem reassembleFragments_cases {first : Bundle} {now : Time}
    (fragments : ∀ f ∈ bs, f.FragmentOf whole)
    (fits : whole.length < 2 ^ 63) (room : ∀ f ∈ bs, f.extensionBlocks.length < 2 ^ 63)
    (prepared : prepareReassembly bs = .ok (sortedFragments bs))
    (head : (sortedFragments bs).head? = some first) :
    (first.Checkable now ∧ ∃ data, merge 0 ((sortedFragments bs).map Bundle.slice) = some data ∧
      ∃ r : Bundle, r.payloadData = .ok data ∧ (reassembleFragments bs now = .ok r ∨
        ∃ cause, reassembleFragments bs now = .error (.error cause))) ∨
    ((merge 0 ((sortedFragments bs).map Bundle.slice) = none ∨ ¬first.Checkable now) ∧
      reassembleFragments bs now = .error .panic) := by
  have sorted := fragments_sorted fragments
  have member : first ∈ bs := (perm_sortedFragments bs).mem_iff.mp (List.mem_of_head? head)
  obtain ⟨own, held⟩ := (fragments first member).payload
  have small : 0 + first.extensionBlocks.length < 2 ^ 63 := by simpa using room first member
  have merged := @mergeFragmentPayload_eq whole _ 0 sorted fits
  by_cases present : ∀ cb ∈ first.extensionBlocks, cb.Present
  · obtain ⟨added, blocks, same⟩ := @addExtensionBlocks_of_present _
      ⟨reassembledPrimaryBlock first.primaryBlock, [], .blank⟩ _ present small
    cases found : merge 0 ((sortedFragments bs).map Bundle.slice) with
    | none =>
      rw [found, Nat.cast_zero] at merged
      refine .inr ⟨.inl rfl, ?_⟩
      simp only [reassembleFragments, prepared, head, Go.deref, blocks, merged, ok_bind, error_bind]
    | some data =>
      rw [found, Nat.cast_zero] at merged
      let r : Bundle := ⟨reassembledPrimaryBlock first.primaryBlock, added,
        ⟨1, first.payloadBlock.blockControlFlags, first.payloadBlock.crcType, [], some (.payload data)⟩⟩
      have answer : reassembleFragments bs now = r.ensureValid now >>= fun _ => .ok r := by
        simp only [reassembleFragments, prepared, head, Go.deref, blocks, merged, ok_bind]
        rfl
      rw [answer]
      rcases @checkable_cases now _ _ _ r first rfl same (present_of_perm same.symm present) present
        ⟨_, rfl⟩ ⟨_, held⟩ with ⟨⟨causes, finished⟩, checkable⟩ | ⟨stopped, unchecked⟩
      · refine .inl ⟨checkable, data, rfl, r, rfl, ?_⟩
        rcases ensureValid_of_finished finished with valid | ⟨cause, failed⟩
        · exact .inl (by rw [valid]; rfl)
        · exact .inr ⟨cause, by rw [failed]; rfl⟩
      · exact .inr ⟨.inr unchecked, by rw [ensureValid_of_panic stopped]; rfl⟩
  · have absent : ∃ cb ∈ first.extensionBlocks, cb.value = none := by
      by_contra all
      refine present fun cb inside => Option.ne_none_iff_exists'.mp fun none => all ⟨cb, inside, none⟩
    obtain ⟨cb, inside, absent⟩ := absent
    have stopped := @addExtensionBlocks_of_absent _
      ⟨reassembledPrimaryBlock first.primaryBlock, [], .blank⟩ _ _ inside absent small
    have unchecked : ¬first.Checkable now := by
      rintro ⟨causes, finished⟩
      exact present (present_of_checkValid finished)
    refine .inr ⟨.inr unchecked, ?_⟩
    simp only [reassembleFragments, prepared, head, Go.deref, stopped, ok_bind, error_bind]

/-- Fragments of a payload are reassembled if they cover it and only then, there
is no panic, and what is reassembled is the payload. -/
def ReassemblesCorrectly (whole : List UInt8) (bs : List Bundle) (now : Time) : Prop :=
  (isBundleReassemblable bs = .ok true ↔ Covered (bs.map Bundle.slice) whole.length) ∧
    Settled (reassembleFragments bs now) ∧
    ∀ r, reassembleFragments bs now = .ok r → r.payloadData = .ok whole

section

omit [Cboring] [Crc16] [Ed25519]

theorem prepareReassembly_nil : ∃ cause, prepareReassembly [] = .error (.error cause) :=
  ⟨_, rfl⟩

theorem covered_sorted {total : Nat} :
    Covered ((sortedFragments bs).map Bundle.slice) total ↔ Covered (bs.map Bundle.slice) total :=
  have same := (perm_sortedFragments bs).map Bundle.slice
  ⟨.perm same, .perm same.symm⟩

end

theorem correct_of_rejected {now : Time}
    (rejected : ∃ cause, prepareReassembly bs = .error (.error cause))
    (gap : ¬Covered (bs.map Bundle.slice) whole.length) : ReassemblesCorrectly whole bs now := by
  obtain ⟨cause, failed⟩ := rejected
  have stopped : reassembleFragments bs now = .error (.error cause) := by
    simp only [reassembleFragments, failed, error_bind]
  refine ⟨?_, ?_, ?_⟩
  · refine iff_of_false ?_ gap
    simp [isBundleReassemblable, failed, Go.errorOf, pure, Except.pure]
  · intro fault same
    rw [stopped] at same
    cases same
    exact ⟨cause, rfl⟩
  · intro r same
    rw [stopped] at same
    cases same

section Correct

variable (fragments : ∀ f ∈ bs, f.FragmentOf whole) (fits : whole.length < 2 ^ 63)

include fragments fits

theorem correct_of_gap {now : Time} (gap : ¬Covered (bs.map Bundle.slice) whole.length) :
    ReassemblesCorrectly whole bs now := by
  by_cases nonempty : bs = []
  · subst nonempty
    exact correct_of_rejected prepareReassembly_nil gap
  · rcases prepareReassembly_cases fragments fits nonempty with ⟨through, -⟩ | ⟨-, rejected⟩
    · exact absurd (covered_sorted.mp (covered_of_walk through)) gap
    · exact correct_of_rejected rejected gap

variable (room : ∀ f ∈ bs, f.extensionBlocks.length < 2 ^ 63)

include room

theorem correct_of_order {now : Time} (covered : Covered (bs.map Bundle.slice) whole.length)
    (nonempty : bs ≠ []) (ends : EndsInOrder ((sortedFragments bs).map Bundle.slice))
    (checkable : ∀ f ∈ bs, f.primaryBlock.fragmentOffset = 0 → f.Checkable now) :
    ReassemblesCorrectly whole bs now := by
  have sorted := fragments_sorted fragments
  have inside : ∀ slice ∈ (sortedFragments bs).map Bundle.slice, slice.CutFrom whole := by
    intro slice member
    obtain ⟨f, listed, rfl⟩ := List.mem_map.mp member
    exact (sorted f listed).cut
  have through := walk_of_covered (starts_sortedFragments bs) ends
    (fun slice member => (inside slice member).inside) (covered_sorted.mpr covered)
  obtain ⟨first, head⟩ := head_sortedFragments nonempty
  have member : first ∈ bs := (perm_sortedFragments bs).mem_iff.mp (List.mem_of_head? head)
  have zero : first.primaryBlock.fragmentOffset = 0 := by
    obtain ⟨rest, order⟩ := List.head?_eq_some_iff.mp head
    rw [order] at through
    exact UInt64.toNat_inj.mp (Nat.le_zero.mp (walk_cons.mp through).1)
  have prepared : prepareReassembly bs = .ok (sortedFragments bs) := by
    rcases prepareReassembly_cases fragments fits nonempty with ⟨-, prepared⟩ | ⟨stopped, -⟩
    · exact prepared
    · exact absurd through stopped
  obtain ⟨data, found⟩ := (merge_isSome_iff through).mpr ⟨ends, fun _ _ => Nat.zero_le _⟩
  have joined : data = whole := by simpa using merge_of_cut inside through found
  refine ⟨iff_of_true ?_ covered, ?_⟩
  · simp [isBundleReassemblable, prepared, Go.errorOf, pure, Except.pure]
  rcases reassembleFragments_cases fragments fits room prepared head with
    ⟨-, merged, same, r, payload, outcome⟩ | ⟨stopped, -⟩
  · rw [found] at same
    cases same
    rcases outcome with answer | ⟨cause, failed⟩
    · rw [answer]
      refine ⟨.ok r, ?_⟩
      rintro _ ⟨⟩
      rw [payload, joined]
    · rw [failed]
      refine ⟨fun fault same => ⟨cause, (Except.error.inj same).symm⟩, ?_⟩
      intro r same
      cases same
  · rcases stopped with none | unchecked
    · rw [found] at none
      cases none
    · exact absurd (checkable first member zero) unchecked

theorem order_of_correct {now : Time} (covered : Covered (bs.map Bundle.slice) whole.length)
    (correct : ReassemblesCorrectly whole bs now) :
    bs ≠ [] ∧ EndsInOrder ((sortedFragments bs).map Bundle.slice) ∧
      ∀ first, (sortedFragments bs).head? = some first → first.Checkable now := by
  obtain ⟨accepted, settled, -⟩ := correct
  have prepared := accepted.mpr covered
  have nonempty : bs ≠ [] := by
    rintro rfl
    obtain ⟨cause, failed⟩ := prepareReassembly_nil
    simp [isBundleReassemblable, failed, Go.errorOf, pure, Except.pure] at prepared
  rcases prepareReassembly_cases fragments fits nonempty with ⟨through, found⟩ | ⟨-,
    cause, failed⟩
  · have outcome := fun first head =>
      @reassembleFragments_cases _ _ _ _ _ _ first now fragments fits room found head
    have noPanic : reassembleFragments bs now ≠ .error .panic := by
      intro panicked
      obtain ⟨cause, same⟩ := settled _ panicked
      cases same
    obtain ⟨first, head⟩ := head_sortedFragments nonempty
    rcases outcome first head with ⟨checkable, data, merged, -⟩ | ⟨-, panicked⟩
    · refine ⟨nonempty, ((merge_isSome_iff through).mp ⟨data, merged⟩).1, ?_⟩
      intro other same
      rw [head] at same
      cases same
      exact checkable
    · exact absurd panicked noPanic
  · simp [isBundleReassemblable, failed, Go.errorOf, pure, Except.pure] at prepared

end Correct

end Sorted

/-- A stable sort keeps two fragments in order if their offsets are. -/
theorem sublist_sortedFragments {shuffle : {α : Type} → List α → List α}
    {same : ∀ {α : Type} (items : List α), (shuffle items).Perm items} {first second : Bundle}
    (inOrder : [first, second].Sublist (shuffle bs))
    (starts : first.slice.start ≤ second.slice.start) :
    [first, second].Sublist (@sortedFragments (.shuffled shuffle same) bs) := by
  refine List.pair_sublist_insertionSort ?_ inOrder
  simp only [fragmentOffsetLess, UInt64.lt_iff_toNat_lt, decide_eq_false_iff_not, Nat.not_lt]
  exact starts

theorem stop_le_of_endsInOrder {sorted : List Bundle} {first second : Bundle}
    (ends : EndsInOrder (sorted.map Bundle.slice)) (inOrder : [first, second].Sublist sorted) :
    first.slice.stop ≤ second.slice.stop :=
  List.pairwise_iff_forall_sublist.mp (List.pairwise_map.mp ends) inOrder

/-- Any fragment at offset 0 may come first. -/
theorem exists_sort_head {f : Bundle} (member : f ∈ bs) (zero : f.primaryBlock.fragmentOffset = 0) :
    ∃ sorting : GoSort, (@sortedFragments sorting bs).head? = some f := by
  obtain ⟨front, back, rfl⟩ := List.append_of_mem member
  refine ⟨.shuffled (fun items => items.rotate front.length) fun items => items.rotate_perm _, ?_⟩
  have turned : (front ++ f :: back).rotate front.length = f :: (back ++ front) :=
    List.rotate_append_length_eq _ _
  have least : ∀ other, fragmentOffsetLess other f = false := by
    intro other
    simp [fragmentOffsetLess, zero]
  simp only [sortedFragments, GoSort.sort, turned, List.insertionSort_cons]
  cases List.insertionSort (fun a b => fragmentOffsetLess b a = false) (back ++ front) with
  | nil => rfl
  | cons other rest => simp [least other]

variable [Cboring] [Crc16] [Ed25519]

/-- Reassembly is correct for every sort if and only if the fragments leave a
gap, or no two of them are nested and those at offset 0 can be checked. -/
theorem reassembles_iff {now : Time} (fragments : ∀ f ∈ bs, f.FragmentOf whole)
    (fits : whole.length < 2 ^ 63) (room : ∀ f ∈ bs, f.extensionBlocks.length < 2 ^ 63) :
    (∀ [GoSort], ReassemblesCorrectly whole bs now) ↔
      ¬Covered (bs.map Bundle.slice) whole.length ∨
        (bs ≠ [] ∧ (bs.map Bundle.slice).Pairwise Slice.EndsWith ∧
          ∀ f ∈ bs, f.primaryBlock.fragmentOffset = 0 → f.Checkable now) := by
  constructor
  · intro correct
    by_cases covered : Covered (bs.map Bundle.slice) whole.length
    · have order := fun sorting =>
        @order_of_correct whole bs sorting _ _ _ fragments fits room now covered (@correct sorting)
      refine .inr ⟨(order .insertion).1, List.pairwise_map.mpr (List.pairwise_iff_forall_sublist.mpr ?_), ?_⟩
      · intro first second inOrder
        constructor
        · intro starts
          exact stop_le_of_endsInOrder (order .insertion).2.1 (sublist_sortedFragments inOrder starts)
        · intro starts
          have backwards : [second, first].Sublist bs.reverse := by simpa using inOrder.reverse
          exact stop_le_of_endsInOrder (order (.shuffled List.reverse List.reverse_perm)).2.1
            (sublist_sortedFragments backwards starts)
      · intro f member zero
        obtain ⟨sorting, head⟩ := exists_sort_head member zero
        exact (order sorting).2.2 f head
    · exact .inl covered
  · rintro condition sorting
    by_cases covered : Covered (bs.map Bundle.slice) whole.length
    · obtain ⟨nonempty, tidy, checkable⟩ := condition.resolve_left (not_not.mpr covered)
      have ends : EndsInOrder ((sortedFragments bs).map Bundle.slice) :=
        endsInOrder_of_tidy (starts_sortedFragments bs)
          ((((perm_sortedFragments bs).map Bundle.slice).pairwise_iff Slice.EndsWith.symm).mpr tidy)
      exact correct_of_order fragments fits room covered nonempty ends checkable
    · exact correct_of_gap fragments fits covered

end

open scoped Samples

def fragmentTo (offset total : UInt64) (data : List UInt8) : Bundle :=
  ⟨{ primaryTo (nodeEndpoint "executor") CRCType.crcNo with
      bundleControlFlags := BundleControlFlags.isFragment, fragmentOffset := offset, totalDataLength := total },
    [], ⟨1, 0, CRCType.crcNo, [], some (.payload data)⟩⟩

/-- The whole payload, its middle and its end. -/
def nestedFragments : List Bundle :=
  [fragmentTo 0 3 [10, 20, 30], fragmentTo 1 3 [20], fragmentTo 2 3 [30]]

private theorem nestedFragments_of : ∀ f ∈ nestedFragments, f.FragmentOf [10, 20, 30] := by
  intro f member
  simp only [nestedFragments, List.mem_cons, List.not_mem_nil, or_false] at member
  rcases member with rfl | rfl | rfl
  · exact ⟨rfl, rfl, ⟨_, rfl⟩, by decide, rfl⟩
  · exact ⟨rfl, rfl, ⟨_, rfl⟩, by decide, rfl⟩
  · exact ⟨rfl, rfl, ⟨_, rfl⟩, by decide, rfl⟩

theorem nestedFragments_reassembles_iff :
    (∀ [GoSort], ReassemblesCorrectly [10, 20, 30] nestedFragments 0) ↔
      ¬Covered (nestedFragments.map Bundle.slice) 3 ∨
        (nestedFragments ≠ [] ∧ (nestedFragments.map Bundle.slice).Pairwise Slice.EndsWith ∧
          ∀ f ∈ nestedFragments, f.primaryBlock.fragmentOffset = 0 → f.Checkable 0) :=
  reassembles_iff nestedFragments_of (by decide) (by decide)

/-- All gaps are filled, but the second fragment ends before the first. -/
theorem nestedFragments_panic :
    (∀ f ∈ nestedFragments, f.FragmentOf [10, 20, 30]) ∧
      isBundleReassemblable nestedFragments = .ok true ∧
      reassembleFragments nestedFragments 0 = .error .panic ∧
      ¬ReassemblesCorrectly [10, 20, 30] nestedFragments 0 := by
  have prepared : prepareReassembly nestedFragments = .ok nestedFragments := rfl
  have panicked : reassembleFragments nestedFragments 0 = .error .panic := by
    simp only [reassembleFragments, prepared, ok_bind]
    rfl
  refine ⟨nestedFragments_of, ?_, panicked, ?_⟩
  · simp [isBundleReassemblable, prepared, Go.errorOf, pure, Except.pure]
  rintro ⟨-, settled, -⟩
  obtain ⟨cause, same⟩ := settled _ panicked
  cases same

end RecDtn.Bpv7
