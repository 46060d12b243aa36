import RecDtn.Bpv7.Alike
import RecDtn.Bpv7.Reassembly

/-! Fragments are reassembled to the bundle, in whatever order they arrive. -/

namespace RecDtn.Bpv7

open Wire Lang CanonicalBlock PrimaryBlock List Bpv7.Bundle Go

namespace CanonicalBlock

theorem checkValid_number {cb : CanonicalBlock} (plain : cb.isPayload = false) (number : UInt64) :
    { cb with blockNumber := number }.checkValid = cb.checkValid := by
  unfold checkValid
  cases held : cb.value with
  | none => rfl
  | some value =>
    have other : value.blockTypeCode ≠ BlockType.payloadBlock := by
      simpa [isPayload, ofType, held] using plain
    simp [Go.deref, other]

end CanonicalBlock

namespace Bundle

section Renumbering

variable [Cboring] [Crc16] [Ed25519]

/-- Other numbers, as long as they are distinct, do not make a block invalid. -/
theorem Alike.checkExtensions {first second : Bundle} (alike : first.Alike second)
    {blocks others : List CanonicalBlock} {seen taken : List UInt64}
    (same : blocks.map CanonicalBlock.value = others.map CanonicalBlock.value)
    (valid : first.checkExtensions seen blocks = .ok []) (distinct : (others.map blockNumber).Nodup)
    (fresh : ∀ cb ∈ others, cb.blockNumber ∉ taken) :
    second.checkExtensions taken others = .ok [] := by
  obtain ⟨-, passed⟩ := checkExtensions_eq_nil.mp valid
  refine checkExtensions_eq_nil.mpr ⟨distinct, fun other member => ⟨fresh other member, ?_⟩⟩
  obtain ⟨cb, inside, value⟩ := mem_map.mp (same ▸ mem_map_of_mem member)
  obtain ⟨-, held, pointed, verdict⟩ := passed cb inside
  exact ⟨held, value ▸ pointed, alike.checkContextValid held ▸ verdict⟩

/-- A bundle alike to a valid one is valid, if its blocks are and their numbers
are distinct. -/
theorem Alike.checkValid {first second : Bundle} {now : Time} (alike : first.Alike second)
    (valid : first.checkValid now = .ok [])
    (blocks : ∀ cb ∈ second.extensionBlocks, cb.checkValid = .ok [])
    (distinct : (second.extensionBlocks.map blockNumber).Nodup) : second.checkValid now = .ok [] := by
  obtain ⟨primary, each, report, context, age, lifetime⟩ := checkValid_eq_nil.mp valid
  have payload : first.payloadBlock.stripCRC.checkValid = second.payloadBlock.stripCRC.checkValid :=
    congrArg CanonicalBlock.checkValid alike.payload
  have flags : first.payloadBlock.stripCRC.blockControlFlags =
      second.payloadBlock.stripCRC.blockControlFlags :=
    congrArg blockControlFlags alike.payload
  refine checkValid_eq_nil.mpr ⟨alike.checkPrimary ▸ primary, ?_,
    (congrArg (·.has BlockControlFlags.statusReportBlock) flags).symm.trans report,
    alike.checkExtensions alike.values context distinct (by simp), alike.checkAge ▸ age,
    alike.isLifetimeExceeded now ▸ lifetime⟩
  intro cb member
  rcases mem_append.mp member with member | member
  · exact blocks cb member
  · rw [mem_singleton.mp member]
    exact payload.symm.trans (each first.payloadBlock (by simp))

end Renumbering

/-- One fragment: the payload from `start` up to `stop`. -/
structure Cut (b : Bundle) (data : List UInt8) (start stop : Nat) (f : Bundle) : Prop where
  ordered : start < stop
  inside : stop ≤ data.length
  primary : ∃ crc, f.primaryBlock = { b.primaryBlock with
    bundleControlFlags := b.primaryBlock.bundleControlFlags ||| BundleControlFlags.isFragment
    fragmentOffset := start.toUInt64
    totalDataLength := data.length.toUInt64
    crc := crc }
  extensions : start = 0 → f.extensionBlocks = numberedFrom 2 b.extensionBlocks
  payload : f.payloadBlock = ⟨1, b.payloadBlock.blockControlFlags, b.payloadBlock.crcType, [],
    some (.payload ((data.take stop).drop start))⟩

/-- Fragments from `start` to the end of the payload, one after the other. -/
inductive Cuts (b : Bundle) (data : List UInt8) : Nat → List Bundle → Prop where
  | done : Cuts b data data.length []
  | cut : Cut b data start stop f → Cuts b data stop rest → Cuts b data start (f :: rest)

def ExtensionsPlain (b : Bundle) : Prop :=
  ∀ cb ∈ b.extensionBlocks, ∃ value, cb.value = some value ∧
    value.blockTypeCode ≠ BlockType.payloadBlock

theorem payloadData_eq_ok {b : Bundle} {data : List UInt8} :
    b.payloadData = .ok data ↔ b.payloadBlock.value = some (.payload data) := by
  unfold payloadData
  split
  · rename_i other held
    simp [held]
  · rename_i other
    constructor
    · intro found
      cases found
    · intro held
      exact absurd held (other data)

theorem extensionsPlain_of_checkValid [Cboring] [Crc16] [Ed25519] {b : Bundle} {now : Time}
    (valid : b.checkValid now = .ok [])
    (plain : ∀ cb ∈ b.extensionBlocks, cb.isPayload = false) : b.ExtensionsPlain := by
  intro cb member
  obtain ⟨value, held⟩ := present_of_checkValid valid cb member
  refine ⟨value, held, ?_⟩
  simpa [isPayload, ofType, held] using plain cb member

theorem fragmentPrimaryBlock_eq_ok [Cboring] [Crc16] {pb fragPb : PrimaryBlock}
    {offset total length : Nat}
    (answered : fragmentPrimaryBlock pb offset total = .ok (fragPb, length)) :
    ∃ crc, fragPb = { pb with
      bundleControlFlags := pb.bundleControlFlags ||| BundleControlFlags.isFragment
      fragmentOffset := offset.toUInt64
      totalDataLength := total.toUInt64
      crc := crc } := by
  obtain ⟨⟨written, left⟩, marshalled, answered⟩ := bind_eq_ok.mp answered
  obtain ⟨fields, crc, -, -, rfl⟩ := PrimaryBlock.marshalCbor_eq_ok.mp marshalled
  cases answered
  exact ⟨_, rfl⟩

theorem sliceOf_eq_ok {data cut : List UInt8} {low high : Nat}
    (sliced : sliceOf data low high = .ok cut) : cut = (data.take high).drop low := by
  unfold sliceOf at sliced
  split at sliced
  · exact (Except.ok.inj sliced).symm
  · cases sliced

section Fragment

variable [GoSort]

theorem addExtensionBlocks_carried {b : Bundle} (plain : b.ExtensionsPlain)
    (room : Allocatable b.extensionBlocks)
    (pb : PrimaryBlock) (i : Nat) :
    addExtensionBlocks ⟨pb, [], .blank⟩ (b.extensionBlocks.filter (carriedAt i)) =
      .ok ⟨pb, numberedFrom 2 (b.extensionBlocks.filter (carriedAt i)), .blank⟩ := by
  have carried : ∀ cb ∈ b.extensionBlocks.filter (carriedAt i),
      ∃ value, cb.value = some value ∧ value.blockTypeCode ≠ BlockType.payloadBlock :=
    fun cb member => plain cb (mem_filter.mp member).1
  have small : 2 + (([] : List CanonicalBlock).length +
      (b.extensionBlocks.filter (carriedAt i)).length) < 2 ^ 63 := by
    have fewer := length_filter_le (carriedAt i) b.extensionBlocks
    have bound : b.extensionBlocks.length ≤ 2 ^ 48 := room
    simp only [length_nil]
    omega
  exact addExtensionBlocks_numbered carried small

variable [Cboring] [Crc16] [Ed25519]

/-- What one round of the loop does: the estimated overhead and the part of the
payload that is taken fill the fragment. -/
theorem fragmentAt_eq_ok {b f : Bundle} {mtu : Int} {now : Time} {extOverhead : Int × Int}
    {data : List UInt8}
    {i next : Nat} (fits : Allocatable data)
    (answered : b.fragmentAt mtu now extOverhead data i = .ok (f, next)) :
    ∃ (primaryOverhead : Nat) (carried : Bundle),
      fragmentPrimaryBlock b.primaryBlock i data.length = .ok (f.primaryBlock, primaryOverhead) ∧
      addExtensionBlocks ⟨f.primaryBlock, [], .blank⟩ (b.extensionBlocks.filter (carriedAt i)) =
      .ok carried ∧ f.extensionBlocks = carried.extensionBlocks ∧
      f.payloadBlock = ⟨1, b.payloadBlock.blockControlFlags, b.payloadBlock.crcType, [],
        some (.payload ((data.take (min next data.length)).drop i))⟩ ∧
      i < next ∧ 2 + primaryOverhead + (if i = 0 then extOverhead.1 else extOverhead.2) + (next - i : Nat) = mtu := by
  obtain ⟨⟨fragPrimaryBlock, primaryOverhead⟩, primary, answered⟩ := bind_eq_ok.mp answered
  simp only at answered
  generalize (if i = 0 then extOverhead.1 else extOverhead.2) = blocks at answered ⊢
  split at answered
  · cases answered
  · rename_i enough
    obtain ⟨carried, added, answered⟩ := bind_eq_ok.mp answered
    obtain ⟨slice, sliced, answered⟩ := bind_eq_ok.mp answered
    obtain ⟨_, -, answered⟩ := bind_eq_ok.mp answered
    cases answered
    have kept : carried.primaryBlock = fragPrimaryBlock := primaryBlock_addExtensionBlocks added
    rw [minFloat64_eq fits] at sliced
    refine ⟨primaryOverhead, carried, by rw [kept]; exact primary, by rw [kept]; exact added,
      rfl, ?_, ?_, ?_⟩
    · rw [sliceOf_eq_ok sliced]
    · omega
    · omega

theorem cut_of_fragmentAt {b f : Bundle} {mtu : Int} {now : Time} {extOverhead : Int × Int}
    {data : List UInt8}
    {i next : Nat} (plain : b.ExtensionsPlain) (room : Allocatable b.extensionBlocks)
    (fits : Allocatable data)
    (below : i < data.length) (answered : b.fragmentAt mtu now extOverhead data i = .ok (f, next)) :
    b.Cut data i (min next data.length) f := by
  obtain ⟨primaryOverhead, carried, primary, added, extensions, payload, ahead, -⟩ :=
    fragmentAt_eq_ok fits answered
  rw [addExtensionBlocks_carried plain room] at added
  cases added
  refine ⟨?_, Nat.min_le_right _ _, fragmentPrimaryBlock_eq_ok primary, ?_, payload⟩
  · omega
  · intro zero
    have all : b.extensionBlocks.filter (carriedAt i) = b.extensionBlocks :=
      filter_eq_self.mpr fun cb _ => by simp [carriedAt, zero]
    rw [extensions]
    simp only [all]

/-- The rounds that the loop makes from a place of the payload on. -/
inductive Rounds (b : Bundle) (mtu : Int) (now : Time) (extOverhead : Int × Int)
    (data : List UInt8) : Nat → List Bundle → Prop where
  | done {i : Nat} (past : data.length ≤ i) : Rounds b mtu now extOverhead data i []
  | round {i next : Nat} {f : Bundle} {later : List Bundle} (below : i < data.length)
      (first : b.fragmentAt mtu now extOverhead data i = .ok (f, next))
      (rest : Rounds b mtu now extOverhead data next later) : Rounds b mtu now extOverhead data i (f :: later)

section Rounds

variable {b : Bundle} {mtu : Int} {now : Time} {extOverhead : Int × Int}
  {data : List UInt8} {i : Nat} {bs : List Bundle}

theorem rounds_of_fragmentsFrom {rounds : Nat}
    (answered : b.fragmentsFrom mtu now extOverhead data rounds i = .ok bs) :
    b.Rounds mtu now extOverhead data i bs := by
  induction rounds generalizing i bs with
  | zero => cases answered
  | succ rounds ih =>
    rw [fragmentsFrom] at answered
    by_cases below : i < data.length
    · rw [if_pos below] at answered
      obtain ⟨⟨f, next⟩, first, answered⟩ := bind_eq_ok.mp answered
      obtain ⟨later, rest, answered⟩ := bind_eq_ok.mp answered
      cases answered
      exact .round below first (ih rest)
    · rw [if_neg below] at answered
      cases answered
      exact .done (Nat.not_lt.mp below)

/-- What a successful call has done. One fragment alone is replaced by the bundle. -/
theorem rounds_of_fragment (fragmented : b.fragment mtu now = .ok bs) : ∃ data extOverhead pieces,
    b.payloadData = .ok data ∧ fragmentExtensionBlocksLen b mtu = .ok extOverhead ∧
      b.Rounds mtu now extOverhead data 0 pieces ∧ bs = if pieces.length = 1 then [b] else pieces := by
  unfold fragment at fragmented
  split at fragmented
  · cases fragmented
  · obtain ⟨data, payload, fragmented⟩ := bind_eq_ok.mp fragmented
    obtain ⟨extOverhead, estimated, fragmented⟩ := bind_eq_ok.mp fragmented
    obtain ⟨pieces, cut, fragmented⟩ := bind_eq_ok.mp fragmented
    exact ⟨data, extOverhead, pieces, payload, estimated, rounds_of_fragmentsFrom cut,
      (Except.ok.inj fragmented).symm⟩

theorem Rounds.cuts (plain : b.ExtensionsPlain) (room : Allocatable b.extensionBlocks)
    (fits : Allocatable data)
    (rounds : b.Rounds mtu now extOverhead data i bs) : b.Cuts data (min i data.length) bs := by
  induction rounds with
  | done past =>
    rw [Nat.min_eq_right past]
    exact .done
  | round below first rest ih =>
    rw [Nat.min_eq_left (Nat.le_of_lt below)]
    exact .cut (cut_of_fragmentAt plain room fits below first) ih

end Rounds

end Fragment

theorem Cuts.head {b : Bundle} {data : List UInt8} {start : Nat} {bs : List Bundle}
    (cuts : b.Cuts data start bs) (below : start < data.length) :
    ∃ f rest stop, bs = f :: rest ∧ b.Cut data start stop f := by
  cases cuts with
  | done => exact absurd below (Nat.lt_irrefl _)
  | cut first later => exact ⟨_, _, _, rfl, first⟩

section Cuts

variable {b f : Bundle} {data : List UInt8} {start stop : Nat} {bs : List Bundle}
  (fits : Allocatable data)

include fits

theorem Cut.slice_eq (cut : b.Cut data start stop f) :
    f.slice = ⟨start, (data.take stop).drop start⟩ := by
  obtain ⟨crc, primary⟩ := cut.primary
  have small : start < 2 ^ 64 := by
    have bound : data.length ≤ 2 ^ 48 := fits
    have ordered := cut.ordered
    have inside := cut.inside
    omega
  have offset : f.primaryBlock.fragmentOffset.toNat = start := by
    rw [primary]
    exact toNat_toUInt64 small
  simp [slice, payloadData, offset, cut.payload, Except.toOption]

theorem Cut.stop_eq (cut : b.Cut data start stop f) : f.slice.stop = stop := by
  have ordered := cut.ordered
  have inside := cut.inside
  simp only [cut.slice_eq fits, Slice.stop, length_drop, length_take]
  omega

theorem Cut.fragmentOf (cut : b.Cut data start stop f) : f.FragmentOf data := by
  obtain ⟨crc, primary⟩ := cut.primary
  have bound : data.length ≤ 2 ^ 48 := fits
  refine ⟨?_, ?_, ⟨_, by rw [cut.payload]⟩, ⟨?_, ?_⟩⟩
  · simp only [isFragment, hasFragmentation, primary, BundleControlFlags.has_set_isFragment]
  · simp only [primary]
    exact toNat_toUInt64 (by omega)
  · rw [cut.stop_eq fits]
    exact cut.inside
  · have ordered := cut.ordered
    have inside := cut.inside
    rw [cut.slice_eq fits]
    simp only [length_drop, length_take, drop_take]
    congr 1
    omega

section

variable (cuts : b.Cuts data start bs)

include cuts

theorem Cuts.fragmentOf : ∀ f ∈ bs, f.FragmentOf data := by
  induction cuts with
  | done => simp
  | cut first later ih =>
    intro f member
    rcases mem_cons.mp member with rfl | member
    · exact first.fragmentOf fits
    · exact ih f member

/-- All fragments start and end behind the ones before them. -/
theorem Cuts.behind : ∀ f ∈ bs, start ≤ f.slice.start ∧ start < f.slice.stop := by
  induction cuts with
  | done => simp
  | cut first later ih =>
    have ordered := first.ordered
    intro f member
    rcases mem_cons.mp member with rfl | member
    · rw [first.stop_eq fits, first.slice_eq fits]
      exact ⟨Nat.le_refl _, ordered⟩
    · obtain ⟨begun, ended⟩ := ih f member
      exact ⟨by omega, by omega⟩

theorem Cuts.offsets : bs.Pairwise fun first second => fragmentOffsetLess first second = true := by
  induction cuts with
  | done => exact .nil
  | @cut start stop f rest first later ih =>
    refine pairwise_cons.mpr ⟨?_, ih⟩
    intro other member
    have begun := (later.behind fits other member).1
    have ordered := first.ordered
    have own : f.slice.start = start := by rw [first.slice_eq fits]
    simp only [fragmentOffsetLess, decide_eq_true_eq, UInt64.lt_iff_toNat_lt]
    exact Nat.lt_of_le_of_lt (Nat.le_of_eq own) (Nat.lt_of_lt_of_le ordered begun)

theorem Cuts.endsInOrder : EndsInOrder (bs.map Bundle.slice) := by
  refine pairwise_map.mpr ?_
  induction cuts with
  | done => exact .nil
  | cut first later ih =>
    refine pairwise_cons.mpr ⟨?_, ih⟩
    intro other member
    rw [first.stop_eq fits]
    exact Nat.le_of_lt (later.behind fits other member).2

theorem Cuts.walk : walk start (bs.map Bundle.slice) = some data.length := by
  induction cuts with
  | done => rfl
  | cut first later ih =>
    refine walk_cons.mpr ⟨?_, ?_⟩
    · rw [first.slice_eq fits]
    · rw [first.stop_eq fits]
      exact ih

end

end Cuts

def unnumbered (cb : CanonicalBlock) : CanonicalBlock := { cb with blockNumber := 0 }

/-- Primary and payload block are encoded to the same bytes, and the extension
blocks are the same up to their numbers. -/
def Restores [Cboring] [Crc16] (r b : Bundle) : Prop :=
  r.primaryBlock.marshalCbor.map Prod.fst = b.primaryBlock.marshalCbor.map Prod.fst ∧
    r.payloadBlock.marshalCbor.map Prod.fst = b.payloadBlock.marshalCbor.map Prod.fst ∧
    r.extensionBlocks.map unnumbered = b.extensionBlocks.map unnumbered

/-- What is left of the bundle after fragmentation and reassembly. -/
def refragmented (b : Bundle) : Bundle :=
  ⟨{ b.primaryBlock with fragmentOffset := 0, totalDataLength := 0, crc := [] },
    numberedFrom 2 b.extensionBlocks, b.payloadBlock.stripCRC⟩

theorem refragmented_alike {b : Bundle} (whole : b.isFragment = false) : b.Alike b.refragmented where
  primary := by
    have flag : b.primaryBlock.hasFragmentation = false := whole
    have kept : ({ b.primaryBlock with fragmentOffset := 0, totalDataLength := 0, crc := [] } :
      PrimaryBlock).hasFragmentation = false := whole
    simp only [refragmented, essence, announced, PrimaryBlock.stripCRC, flag, kept]
    rfl
  values := (map_numberedFrom (fun _ _ => rfl) 2 b.extensionBlocks).symm
  payload := rfl

theorem Alike.restores [Cboring] [Crc16] {b r : Bundle} (alike : b.Alike r)
    (blocks : r.extensionBlocks.map unnumbered = b.extensionBlocks.map unnumbered) :
    r.Restores b := by
  refine ⟨?_, ?_, blocks⟩
  · rw [← written_essence, ← alike.primary, written_essence]
  · rw [← written_stripCRC, ← alike.payload, written_stripCRC]

theorem reassembledPrimaryBlock_eq {b f : Bundle} {data : List UInt8} {start stop : Nat}
    (whole : b.isFragment = false) (cut : b.Cut data start stop f) :
    reassembledPrimaryBlock f.primaryBlock = b.refragmented.primaryBlock := by
  obtain ⟨crc, primary⟩ := cut.primary
  have flags := BundleControlFlags.clear_set_isFragment b.primaryBlock.bundleControlFlags whole
  simp only [reassembledPrimaryBlock, refragmented, primary, flags]

variable [Cboring] [Crc16] [Ed25519]

theorem checkValid_refragmented {b : Bundle} {now : Time} (valid : b.checkValid now = .ok [])
    (whole : b.isFragment = false) (plain : b.ExtensionsPlain)
    (room : Allocatable b.extensionBlocks) : b.refragmented.checkValid now = .ok [] := by
  obtain ⟨-, each, -⟩ := checkValid_eq_nil.mp valid
  have bound : b.extensionBlocks.length ≤ 2 ^ 48 := room
  refine (refragmented_alike whole).checkValid valid ?_ (nodup_numbers (by omega))
  intro cb member
  obtain ⟨original, inside, same⟩ := mem_numberedFrom member
  obtain ⟨value, held, other⟩ := plain original inside
  have notPayload : original.isPayload = false := by
    simpa [isPayload, ofType, held] using other
  rw [same, checkValid_number notPayload]
  exact each original (by simp [inside])

variable [GoSort]

section Arrived

variable {b : Bundle} {data : List UInt8} {bs arrived : List Bundle} (cuts : b.Cuts data 0 bs)
  (same : arrived.Perm bs) (fits : Allocatable data)

include cuts same fits

section

omit [Cboring] [Crc16] [Ed25519]

/-- Sorting restores the order in which the fragments were cut. -/
theorem sorted_arrived : sortedFragments arrived = bs :=
  GoSort.sort_eq_of_perm fragmentOffsetLess_asymm fragmentOffsetLess_trans same (cuts.offsets fits)

theorem prepare_arrived (nonempty : bs ≠ []) : prepareReassembly arrived = .ok bs := by
  have bound : data.length ≤ 2 ^ 48 := fits
  have fragments : ∀ f ∈ arrived, f.FragmentOf data :=
    fun f member => cuts.fragmentOf fits f (same.mem_iff.mp member)
  have some : arrived ≠ [] := by
    rintro rfl
    exact nonempty same.nil_eq.symm
  have sorted := sorted_arrived cuts same fits
  rcases prepareReassembly_cases fragments (by omega) some with ⟨-, prepared⟩ | ⟨stopped, -⟩
  · rw [prepared, sorted]
  · rw [sorted] at stopped
    exact absurd (cuts.walk fits) stopped

end

omit [Cboring] [Crc16] [Ed25519] [GoSort] same in
theorem merge_cuts : mergeFragmentPayload 0 bs = .ok data := by
  have bound : data.length ≤ 2 ^ 48 := fits
  have fragments := cuts.fragmentOf fits
  have inside : ∀ slice ∈ bs.map Bundle.slice, slice.CutFrom data := by
    intro slice member
    obtain ⟨f, listed, rfl⟩ := mem_map.mp member
    exact (fragments f listed).cut
  obtain ⟨merged, found⟩ := (merge_isSome_iff (cuts.walk fits)).mpr
    ⟨cuts.endsInOrder fits, fun _ _ => Nat.zero_le _⟩
  have all : merged = data := by simpa using merge_of_cut inside (cuts.walk fits) found
  have refined := @mergeFragmentPayload_eq data bs 0 fragments (by omega)
  rw [found, all] at refined
  exact refined

end Arrived

/-- Whatever the order in which they arrive, the fragments give the bundle back. -/
theorem reassembleFragments_of_cuts {b : Bundle} {data : List UInt8}
    {bs arrived : List Bundle} {now : Time}
    (valid : b.checkValid now = .ok []) (whole : b.isFragment = false) (plain : b.ExtensionsPlain)
    (room : Allocatable b.extensionBlocks) (held : b.payloadBlock.value = some (.payload data))
    (fits : Allocatable data) (nonempty : data ≠ []) (cuts : b.Cuts data 0 bs)
    (same : arrived.Perm bs) : reassembleFragments arrived now = .ok b.refragmented := by
  have number := blockNumber_of_payload held rfl
    ((checkValid_eq_nil.mp valid).2.1 b.payloadBlock (by simp))
  have final := checkValid_refragmented valid whole plain room
  have merged := merge_cuts cuts fits
  have bound : b.extensionBlocks.length ≤ 2 ^ 48 := room
  obtain ⟨f, rest, stop, rfl, first⟩ := cuts.head (length_pos_iff.mpr nonempty)
  have prepared := prepare_arrived cuts same fits (cons_ne_nil _ _)
  have carried : ∀ cb ∈ f.extensionBlocks,
      ∃ value, cb.value = some value ∧ value.blockTypeCode ≠ BlockType.payloadBlock := by
    intro cb member
    rw [first.extensions rfl] at member
    obtain ⟨original, inside, renumbered⟩ := mem_numberedFrom member
    rw [renumbered]
    exact plain original inside
  have small : 2 + (([] : List CanonicalBlock).length + f.extensionBlocks.length) < 2 ^ 63 := by
    rw [first.extensions rfl, length_numberedFrom, length_nil]
    omega
  have added := @addExtensionBlocks_numbered f.extensionBlocks _
    (reassembledPrimaryBlock f.primaryBlock) .blank [] carried small
  rw [nil_append, first.extensions rfl, numberedFrom_numberedFrom] at added
  rw [reassembledPrimaryBlock_eq whole first] at added
  have payload :
      (⟨1, b.payloadBlock.blockControlFlags, b.payloadBlock.crcType, [], some (.payload data)⟩ :
      CanonicalBlock) = b.payloadBlock.stripCRC := by
    rw [CanonicalBlock.stripCRC, ← number, ← held]
  have answer : reassembleFragments arrived now = b.refragmented.ensureValid now >>= fun _ =>
      .ok b.refragmented := by
    simp only [reassembleFragments, prepared, List.head?_cons, Go.deref, ok_bind,
      first.extensions rfl, reassembledPrimaryBlock_eq whole first]
    rw [show ([] : List CanonicalBlock) = numberedFrom 2 [] from rfl, added]
    simp only [ok_bind, merged, first.payload, payload]
    rfl
  rw [answer]
  simp [ensureValid, final, pure, Except.pure]

omit [Ed25519] [GoSort] in
theorem settled_extensionBlocksLen {blocks : List CanonicalBlock} (mtu : Int)
    (present : ∀ cb ∈ blocks, cb.Present) : Settled (extensionBlocksLen mtu blocks) := by
  induction blocks with
  | nil => exact .ok _
  | cons cb rest ih =>
    obtain ⟨value, held⟩ := present cb (by simp)
    refine settled_bind ?_ fun _ =>
      settled_bind (ih fun other member => present other (by simp [member])) fun _ => .ok _
    simp only [extensionBlockLen, typeCode_of_present held, ok_bind]
    refine settled_bind (CanonicalBlock.settled_marshalCbor ?_) fun _ => .ok _
    unfold CanonicalBlock.Present
    split
    · exact ⟨_, rfl⟩
    · exact ⟨value, held⟩

section Settled

variable {b : Bundle} {data : List UInt8} {now : Time} (valid : b.checkValid now = .ok [])
  (plain : b.ExtensionsPlain) (room : Allocatable b.extensionBlocks) (fits : Allocatable data)

include valid plain

omit [GoSort] in
theorem checkable_fragment {f : Bundle} {keep : CanonicalBlock → Bool} {slice : List UInt8}
    (timestamp : f.primaryBlock.creationTimestamp = b.primaryBlock.creationTimestamp)
    (extensions : f.extensionBlocks = numberedFrom 2 (b.extensionBlocks.filter keep))
    (payload : f.payloadBlock.value = some (.payload slice)) : f.Checkable now := by
  have all : ∀ cb ∈ b.extensionBlocks, cb.Present := fun cb member =>
    let ⟨value, held, _⟩ := plain cb member
    ⟨value, held⟩
  have original : ∀ cb ∈ f.extensionBlocks, ∃ other ∈ b.extensionBlocks, cb.value =
      other.value := by
    intro cb member
    rw [extensions] at member
    obtain ⟨other, inside, same⟩ := mem_numberedFrom member
    exact ⟨other, (mem_filter.mp inside).1, by rw [same]⟩
  have present : ∀ cb ∈ f.extensionBlocks, cb.Present := by
    intro cb member
    obtain ⟨other, inside, same⟩ := original cb member
    obtain ⟨value, held⟩ := all other inside
    exact ⟨value, same.trans held⟩
  have readable : f.AgeReadable := by
    intro zero cb only
    rw [timestamp] at zero
    obtain ⟨aged, age, alone, held, -⟩ :=
      age_of_lifetime all zero (checkValid_eq_nil.mp valid).2.2.2.2.2
    have listed : cb ∈ f.extensionBlocks.filter (ofType BlockType.bundleAgeBlock) := by simp [only]
    obtain ⟨member, code⟩ := mem_filter.mp listed
    obtain ⟨other, inside, same⟩ := original cb member
    have found : other ∈ b.extensionBlocks.filter (ofType BlockType.bundleAgeBlock) := by
      refine mem_filter.mpr ⟨inside, ?_⟩
      simpa [ofType, same] using code
    rw [alone, mem_singleton] at found
    exact ⟨age, by rw [same, found, held]⟩
  rcases checkValid_cases present ⟨_, payload⟩ now with ⟨-, finished⟩ | ⟨unreadable, -⟩
  · exact finished
  · exact absurd readable unreadable

include room fits

theorem fragmentAt_cases {mtu : Int} {extOverhead : Int × Int} {i : Nat} (below : i < data.length) :
    (∃ f next, b.fragmentAt mtu now extOverhead data i = .ok (f, next) ∧ i < next) ∨
      ∃ cause, b.fragmentAt mtu now extOverhead data i = .error (.error cause) := by
  unfold fragmentAt
  cases primary : fragmentPrimaryBlock b.primaryBlock i data.length with
  | error fault =>
    have settled : Settled (fragmentPrimaryBlock b.primaryBlock i data.length) :=
      settled_bind (PrimaryBlock.settled_marshalCbor _) fun _ => .ok _
    obtain ⟨cause, rfl⟩ := settled fault primary
    exact .inr ⟨cause, rfl⟩
  | ok fragPb =>
    obtain ⟨fragPrimaryBlock, primaryOverhead⟩ := fragPb
    obtain ⟨crc, shape⟩ := fragmentPrimaryBlock_eq_ok primary
    simp only [ok_bind]
    generalize (2 + (primaryOverhead : Int) + if i = 0 then extOverhead.1
      else extOverhead.2) = overhead
    split
    · exact .inr ⟨_, rfl⟩
    · rename_i enough
      have ahead : i < i + (mtu - overhead).toNat := by omega
      have sliced : ∃ slice, sliceOf data i (minFloat64 (i + (mtu - overhead).toNat) data.length) = .ok slice := by
        rw [minFloat64_eq fits]
        exact ⟨_, if_pos ⟨by omega, Nat.min_le_right _ _⟩⟩
      obtain ⟨slice, sliced⟩ := sliced
      simp only [addExtensionBlocks_carried plain room, sliced, ok_bind]
      let f : Bundle := ⟨fragPrimaryBlock, numberedFrom 2 (b.extensionBlocks.filter (carriedAt i)),
        ⟨1, b.payloadBlock.blockControlFlags, b.payloadBlock.crcType, [], some (.payload slice)⟩⟩
      have timestamp : f.primaryBlock.creationTimestamp = b.primaryBlock.creationTimestamp := by
        show fragPrimaryBlock.creationTimestamp = _
        rw [shape]
      have checkable : f.Checkable now := checkable_fragment valid plain timestamp rfl rfl
      obtain ⟨causes, finished⟩ := checkable
      rcases ensureValid_of_finished finished with valid | ⟨cause, failed⟩
      · exact .inl ⟨f, _, by rw [valid]; rfl, ahead⟩
      · exact .inr ⟨cause, by rw [failed]; rfl⟩

theorem settled_fragmentsFrom {mtu : Int} {extOverhead : Int × Int} {rounds i : Nat}
    (positive : 0 < rounds) (enough : data.length < i + rounds) :
    Settled (b.fragmentsFrom mtu now extOverhead data rounds i) := by
  induction rounds generalizing i with
  | zero => exact absurd positive (Nat.lt_irrefl 0)
  | succ rounds ih =>
    rw [fragmentsFrom]
    by_cases below : i < data.length
    · rw [if_pos below]
      rcases @fragmentAt_cases _ _ _ _ _ _ _ valid plain room fits mtu extOverhead i below with
        ⟨f, next, answered, ahead⟩ | ⟨cause, failed⟩
      · simp only [answered, ok_bind]
        exact settled_bind (ih (by omega) (by omega)) fun _ => .ok _
      · rw [failed]
        exact fun fault same => ⟨cause, (Except.error.inj same).symm⟩
    · rw [if_neg below]
      exact .ok _

/-- Fragmenting a valid bundle ends in fragments or in an error. -/
theorem settled_fragment (held : b.payloadBlock.value = some (.payload data)) (mtu : Int) :
    Settled (b.fragment mtu now) := by
  have present : ∀ cb ∈ b.extensionBlocks, cb.Present := fun cb member =>
    let ⟨value, pointed, _⟩ := plain cb member
    ⟨value, pointed⟩
  unfold fragment
  split
  · exact fun fault same => ⟨_, (Except.error.inj same).symm⟩
  · simp only [payloadData, held, ok_bind]
    refine settled_bind (settled_bind (settled_extensionBlocksLen mtu present) fun _ =>
      settled_bind (CanonicalBlock.settled_marshalCbor ⟨_, rfl⟩) fun _ => .ok _) fun _ => ?_
    exact settled_bind (settled_fragmentsFrom valid plain room fits (Nat.succ_pos _) (by omega))
      fun _ => .ok _

end Settled

end Bundle

section

variable [Cboring] [Crc16] [Ed25519] [GoSort]

/-- If a valid bundle is fragmented at all, its fragments in any order are
reassembled to the bundle, its extension blocks renumbered. -/
theorem fragment_reassembles {b : Bundle} {mtu : Int} {now : Time} {data : List UInt8}
    {bs : List Bundle} (valid : b.checkValid now = .ok []) (whole : b.isFragment = false)
    (held : b.payloadBlock.value = some (.payload data)) (nonempty : data ≠ [])
    (plain : ∀ cb ∈ b.extensionBlocks, cb.isPayload = false) (fits : Allocatable data)
    (room : Allocatable b.extensionBlocks) (fragmented : b.fragment mtu now = .ok bs) :
    bs = [b] ∨ ∀ arrived, arrived.Perm bs → ∃ r, reassembleFragments arrived now = .ok r ∧
      r.Restores b := by
  have extensions := extensionsPlain_of_checkValid valid plain
  obtain ⟨content, extOverhead, pieces, payload, -, rounds, result⟩ :=
    rounds_of_fragment fragmented
  obtain rfl : data = content := by simpa [Bundle.payloadData, held] using payload
  have cuts : b.Cuts data 0 pieces := by simpa using rounds.cuts extensions room fits
  by_cases single : pieces.length = 1
  · exact .inl (by rw [result, if_pos single])
  · rw [if_neg single] at result
    subst result
    refine .inr fun arrived same => ⟨b.refragmented,
      reassembleFragments_of_cuts valid whole extensions room held fits nonempty cuts same, ?_⟩
    exact (refragmented_alike whole).restores (map_numberedFrom (fun _ _ => rfl) 2 _)

end

open scoped Samples

/-- A bundle with a replicated and a single extension block. -/
def largeBundle : Bundle :=
  ⟨primaryTo (nodeEndpoint "executor") CRCType.crc32,
    [⟨4, BlockControlFlags.replicateBlock, CRCType.crcNo, [], some (.hopCount 8 1)⟩,
      ⟨7, 0, CRCType.crcNo, [], some (.recBundleType 3)⟩],
    ⟨1, 0, CRCType.crcNo, [], some (.payload [1, 2, 3, 4, 5, 6, 7, 8, 9, 10])⟩⟩

theorem largeBundle_fragments : ∃ bs, largeBundle.fragment 100 0 = .ok bs ∧ bs.length = 2 :=
  toOption_map_eq_some.mp (by decide +kernel)

theorem largeBundle_reassembles : ∃ bs, largeBundle.fragment 100 0 = .ok bs ∧ bs.length = 2 ∧
    (bs = [largeBundle] ∨ ∀ arrived, arrived.Perm bs →
      ∃ r, reassembleFragments arrived 0 = .ok r ∧ r.Restores largeBundle) := by
  obtain ⟨bs, fragmented, length⟩ := largeBundle_fragments
  refine ⟨bs, fragmented, length, ?_⟩
  exact fragment_reassembles rfl rfl rfl (by decide) (by decide) (Nat.le_of_ble_eq_true rfl)
    (Nat.le_of_ble_eq_true rfl) fragmented

theorem largeBundle_settled_fragment : Wire.Settled (largeBundle.fragment 100 0) := by
  have valid : largeBundle.checkValid 0 = .ok [] := rfl
  exact settled_fragment valid (extensionsPlain_of_checkValid valid (by decide))
    (Nat.le_of_ble_eq_true rfl) (Nat.le_of_ble_eq_true rfl) rfl 100

end RecDtn.Bpv7
