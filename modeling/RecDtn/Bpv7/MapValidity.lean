import RecDtn.Bpv7.BuildFromMap
import RecDtn.Bpv7.Lifetime

/-! Which maps build a bundle in some order. -/

namespace RecDtn.Bpv7

open Wire Lang CRCType Bpv7.Bundle CanonicalBlock Change ExtensionBlock List PrimaryBlock
open Change (assembled)

section

variable {values : List ExtensionBlock} (once : (values.map blockTypeCode).Nodup)
  {value : ExtensionBlock} (member : value ∈ values)

include once member

theorem filter_of_once : values.filter (·.blockTypeCode == value.blockTypeCode) = [value] := by
  induction values with
  | nil => cases member
  | cons first rest ih =>
    obtain ⟨unlike, once⟩ := nodup_cons.mp once
    rcases mem_cons.mp member with rfl | later
    · rw [filter_cons, if_pos (BEq.refl _), filter_eq_nil_iff.mpr]
      intro other inside same
      exact unlike (mem_map.mpr ⟨other, inside, eq_of_beq same⟩)
    · rw [filter_cons_of_neg, ih once later]
      intro same
      exact unlike (mem_map.mpr ⟨value, later, (eq_of_beq same).symm⟩)

namespace Bundle

variable {b : Bundle} (held : b.extensionBlocks.map CanonicalBlock.value = values.map some)

include held

theorem extensionBlockByType_of_once :
    ∃ cb, b.extensionBlockByType value.blockTypeCode = .ok cb ∧ cb.value = some value := by
  have only := values_ofType held value.blockTypeCode
  rw [filter_of_once once member, map_singleton, map_eq_singleton_iff] at only
  obtain ⟨cb, single, own⟩ := only
  rcases extensionBlockByType_cases (present_of_values held) value.blockTypeCode with
    ⟨other, same, found⟩ | ⟨none, -⟩
  · rw [single, List.cons.injEq] at same
    exact ⟨other, found, same.1 ▸ own⟩
  · exact absurd single (none cb)

theorem checkContextValid_of_once [Cboring] [Crc16] [Ed25519]
    (unsigned : ∀ publicKey proof, value ≠ .signature publicKey proof) :
    b.checkContextValid value = .ok none := by
  obtain ⟨cb, found, -⟩ := extensionBlockByType_of_once once member held
  cases value with
  | previousNode endpoint | bundleAge age | hopCount limit count => exact congrArg Go.errorOf found
  | signature publicKey proof => exact absurd rfl (unsigned publicKey proof)
  | _ => rfl

end Bundle

end

namespace Bundle

variable {b : Bundle} {values : List ExtensionBlock} {now : Time}

/-- A bundle that is young enough has an age, if it has to have one. -/
theorem checkAge_of_young (present : ∀ cb ∈ b.extensionBlocks, cb.Present)
    (young : b.isLifetimeExceeded now = .ok false) : b.checkAge = .ok [] := by
  unfold checkAge
  split
  · rename_i zero
    obtain ⟨cb, age, only, -⟩ := age_of_lifetime present zero young
    rw [hasExtensionBlock, extensionBlocksByType, blocksOfType_of_present present, only]
    rfl
  · rfl

theorem young_iff (once : (values.map blockTypeCode).Nodup)
    (held : b.extensionBlocks.map CanonicalBlock.value = values.map some) :
    b.isLifetimeExceeded now = .ok false ↔
      if b.primaryBlock.creationTimestamp.dtnTime = 0 then
        ∃ age, .bundleAge age ∈ values ∧ age ≤ b.primaryBlock.lifetime
      else now ≤ b.expiry := by
  split
  · rename_i zero
    constructor
    · intro young
      obtain ⟨cb, age, only, own, bound⟩ :=
        age_of_lifetime (present_of_values held) (decide_eq_true zero) young
      have inside : cb.value ∈ values.map some := by
        rw [← held]
        exact mem_map_of_mem (mem_of_mem_filter (only ▸ mem_singleton_self cb))
      rw [own, mem_map_of_injective (Option.some_injective _)] at inside
      exact ⟨age, inside, bound⟩
    · rintro ⟨age, member, bound⟩
      rw [isLifetimeExceeded_of_zero zero held now]
      have only := filter_of_once once member
      rw [blockTypeCode] at only
      rw [only]
      exact congrArg Except.ok (decide_eq_false (UInt64.not_lt.mpr bound))
  · rename_i nonzero
    rw [isLifetimeExceeded_of_nonzero nonzero, Except.ok.injEq, decide_eq_false_iff_not, not_lt]

end Bundle

namespace PrimaryBlock

theorem reporting_valid_iff {pb : PrimaryBlock} (version : pb.version = dtnVersion)
    (plain : pb.bundleControlFlags = 0) : pb.reporting.checkValid = [] ↔
      pb.sourceNode.checkValid = none ∧ pb.sourceNode ≠ EndpointID.dtnNone ∧
        pb.destination.checkValid = none ∧
        (pb.reportTo ≠ ⟨none⟩ → pb.reportTo.checkValid = none) := by
  have flags : BundleControlFlags.checkValid 0 = [] := by decide
  have free : BundleControlFlags.has 0 BundleControlFlags.mustNotFragmented = false := by decide
  rw [checkValid_eq_nil]
  unfold reporting
  split
  · rename_i unset
    simp only [version, plain, flags, free, unset]
    tauto
  · rename_i set
    simp only [version, plain, flags, free]
    tauto

end PrimaryBlock

theorem CanonicalBlock.checkValid_of_extension {cb : CanonicalBlock} {data : ExtensionBlock}
    (held : cb.value = some data) (other : data.blockTypeCode ≠ BlockType.payloadBlock) :
    cb.checkValid = .ok data.checkValid := by
  simp [checkValid, held, other, Go.deref, BlockControlFlags.checkValid, pure, Except.pure]

theorem checkValid_of_values {blocks : List CanonicalBlock} {values : List ExtensionBlock}
    (held : blocks.map CanonicalBlock.value = values.map some)
    (others : ∀ value ∈ values, value.blockTypeCode ≠ BlockType.payloadBlock) :
    (∀ cb ∈ blocks, cb.checkValid = .ok []) ↔ ∀ value ∈ values, value.checkValid = [] := by
  constructor
  · intro valid value member
    have listed : some value ∈ blocks.map CanonicalBlock.value := held ▸ mem_map_of_mem member
    obtain ⟨cb, inside, own⟩ := mem_map.mp listed
    have checked := valid cb inside
    rw [checkValid_of_extension own (others value member)] at checked
    exact Except.ok.inj checked
  · intro valid cb inside
    have listed : cb.value ∈ values.map some := held ▸ mem_map_of_mem inside
    obtain ⟨value, member, own⟩ := mem_map.mp listed
    rw [checkValid_of_extension own.symm (others value member), valid value member]

/-- The builder checks that both ends are set, and the check of the bundle does so too. -/
theorem BundleBuilder.build_iff [Cboring] [Crc16] [Ed25519] [GoSort] {bldr : BundleBuilder}
    (fine : bldr.err = none) {now : Time} : (∃ bndl, bldr.build now = .ok bndl) ↔
      Bundle.checkValid ⟨bldr.primary.reporting, GoSort.sort canonicalBlockLess bldr.canonicals,
        bldr.payload⟩ now = .ok [] := by
  constructor
  · rintro ⟨bndl, built⟩
    obtain ⟨-, checked, rfl, valid, -⟩ := build_eq_ok built
    exact valid
  · intro valid
    obtain ⟨eid, same⟩ := reporting_eq bldr.primary
    have primary : bldr.primary.reporting.checkValid = [] := (Bundle.checkValid_eq_nil.mp valid).1
    have named : bldr.primary.sourceNode ≠ ⟨none⟩ ∧ bldr.primary.destination ≠ ⟨none⟩ := by
      rw [same, PrimaryBlock.checkValid_eq_nil] at primary
      obtain ⟨-, -, destination, source, -⟩ := primary
      constructor
      · intro unset
        rw [unset] at source
        cases source
      · intro unset
        rw [unset] at destination
        cases destination
    rw [build_of_named fine now named.1 named.2, ensureValid, valid]
    exact ⟨_, rfl⟩

namespace Change

variable {method other : Method} {data otherData : ExtensionBlock}

theorem counted_assembled (changes : List Change) : (assembled changes).Counted := by
  constructor
  · exact numberedFrom_numberedFrom _ _ _
  · simp only [assembled, length_numberedFrom, length_map]

theorem values_assembled (changes : List Change) :
    (assembled changes).canonicals.map CanonicalBlock.value =
      (changes.filterMap extension?).map some := by
  rw [assembled, map_numberedFrom (fun _ _ => rfl), map_map]
  rfl

theorem By.method_unique (made : By method (.extension data))
    (otherMade : By other (.extension otherData))
    (same : data.blockTypeCode = otherData.blockTypeCode) : method = other := by
  -- On the diagonal the methods are the same; off it the type codes differ.
  cases made <;> cases otherMade <;>
    first
    | rfl
    | cases same

end Change

section

variable [Numerals] {now : Time} {visited : List Item} {changes : List Change}

theorem length_changes_le (nodup : (visited.map Prod.fst).Nodup)
    (all : visited.mapM (Item.change now) = .ok changes) : changes.length ≤ Method.all.length := by
  have named : visited.map Prod.fst ⊆ Method.all.map Method.name := by
    intro key member
    obtain ⟨item, there, rfl⟩ := mem_map.mp member
    obtain ⟨change, -, accepted⟩ := change_of_mem all there
    obtain ⟨method, same, -⟩ := Item.by_of_change accepted
    refine mem_map.mpr ⟨method, ?_, same.symm⟩
    cases method <;> decide
  have lengths : visited.length = changes.length := by
    have same := congrArg List.length (map_of_mapM all)
    rwa [length_map, length_map] at same
  have bound := (nodup.subperm named).length_le
  rwa [length_map, length_map, lengths] at bound

theorem sort_assembled [GoSort] (nodup : (visited.map Prod.fst).Nodup)
    (all : visited.mapM (Item.change now) = .ok changes) :
    GoSort.sort canonicalBlockLess (assembled changes).canonicals =
      (assembled changes).canonicals := by
  apply (Change.counted_assembled changes).sort
  have few : (changes.filterMap Change.extension?).length ≤ Method.all.length :=
    (length_filterMap_le _ _).trans (length_changes_le nodup all)
  have length : (assembled changes).canonicals.length =
      (changes.filterMap Change.extension?).length := by
    simp only [assembled, length_numberedFrom, length_map]
  rw [Allocatable, length]
  exact few.trans (by decide)

theorem nodup_assembled (nodup : (visited.map Prod.fst).Nodup)
    (all : visited.mapM (Item.change now) = .ok changes) :
    ((assembled changes).canonicals.map blockNumber).Nodup := by
  apply nodup_numbers
  have few : (changes.filterMap Change.extension?).length ≤ Method.all.length :=
    (length_filterMap_le _ _).trans (length_changes_le nodup all)
  rw [length_map]
  exact (Nat.add_le_add_left few 2).trans_lt (by decide)

def Makes (now : Time) (m : Dict (List UInt8) Interface) (change : Change) : Prop :=
  ∃ item ∈ m.items, Item.change now item = .ok change

/-- A value that a key sets, or that of a new builder if no key sets one. -/
def Leaves {α : Type} (now : Time) (m : Dict (List UInt8) Interface) (make : α → Change)
    (start value : α) : Prop :=
  Makes now m (make value) ∨ value = start ∧ ∀ other, ¬Makes now m (make other)

/-- With this creation time and lifetime the bundle is not too old. -/
def Young (now : Time) (m : Dict (List UInt8) Interface) (t : DtnTime) (lifetime : UInt64) : Prop :=
  if t = 0 then ∃ age, Makes now m (.extension (.bundleAge age)) ∧ age ≤ lifetime
  else now ≤ t.time + lifetimeDuration lifetime

/-- All that has to be right about a map, if the creation time is the given one. -/
structure BuildableAt (now : Time) (m : Dict (List UInt8) Interface) (t : DtnTime) : Prop where
  accepted : ∀ item ∈ m.items, ∃ change, Item.change now item = .ok change
  source : ∃ eid, Leaves now m .source ⟨none⟩ eid ∧ eid.checkValid = none ∧
    eid ≠ EndpointID.dtnNone
  destination : ∃ eid, Leaves now m .destination ⟨none⟩ eid ∧ eid.checkValid = none
  /-- Without an endpoint the reports go to the source. -/
  reportTo : ∃ eid, Leaves now m .reportTo ⟨none⟩ eid ∧
    (eid ≠ ⟨none⟩ → eid.checkValid = none)
  payload : ∃ data, Makes now m (.payload data)
  extensions : ∀ data, Makes now m (.extension data) → data.checkValid = []
  young : ∃ lifetime, Leaves now m .lifetime 0 lifetime ∧ Young now m t lifetime

/-- There is a creation time with which all is right. -/
def Buildable (now : Time) (m : Dict (List UInt8) Interface) : Prop :=
  ∃ t, Leaves now m .timestamp 0 t ∧ BuildableAt now m t

section

variable {m : Dict (List UInt8) Interface} (same : visited.Perm m.items)
  (all : visited.mapM (Item.change now) = .ok changes)

include same all

theorem makes_iff {change : Change} : Makes now m change ↔ change ∈ changes := by
  constructor
  · rintro ⟨item, member, accepted⟩
    obtain ⟨made, inside, again⟩ := change_of_mem all (same.mem_iff.mpr member)
    cases accepted.symm.trans again
    exact inside
  · intro inside
    obtain ⟨item, member, accepted⟩ := mem_items_of_change all inside
    exact ⟨item, same.mem_iff.mp member, accepted⟩

theorem leaves_last {α : Type} {kind : Change → Option α} {make : α → Change}
    (reads : Change.Reads kind make) (start : α) :
    Leaves now m make start (last kind changes start) := by
  rcases last_cases kind changes start with ⟨empty, unset⟩ | member
  · refine .inr ⟨unset, fun other makes => ?_⟩
    rw [makes_iff same all, ← reads.mem_iff, empty] at makes
    cases makes
  · exact .inl ((makes_iff same all).mpr (reads.mem_iff.mp member))

/-- What one key alone sets is known from the map. -/
theorem last_iff {α : Type} {kind : Change → Option α} {make : α → Change} {method : Method}
    (sole : Change.Sole kind make method) (start : α) (fits : α → Prop) :
    fits (last kind changes start) ↔
      ∃ value, Leaves now m make start value ∧ fits value := by
  constructor
  · intro fit
    exact ⟨_, leaves_last same all sole.reads start, fit⟩
  · rintro ⟨value, makes | ⟨rfl, unset⟩, fit⟩
    · rwa [last_eq_of_mem same all sole start ((makes_iff same all).mp makes)]
    · rcases leaves_last same all sole.reads value with makes | ⟨kept, -⟩
      · exact absurd makes (unset _)
      · rwa [kept]

theorem nodup_types : ((changes.filterMap Change.extension?).map blockTypeCode).Nodup := by
  have apart : (visited.map (Item.change now)).Pairwise fun first second => ∀ data otherData,
      first = .ok (.extension data) → second = .ok (.extension otherData) →
        data.blockTypeCode ≠ otherData.blockTypeCode := by
    refine pairwise_map.mpr ((pairwise_map.mp (nodup_visited same)).imp ?_)
    intro item other different data otherData accepted otherAccepted code
    obtain ⟨method, key, made⟩ := Item.by_of_change accepted
    obtain ⟨otherMethod, otherKey, otherMade⟩ := Item.by_of_change otherAccepted
    exact different (by rw [key, otherKey, made.method_unique otherMade code])
  rw [map_of_mapM all, pairwise_map] at apart
  refine pairwise_map.mpr (pairwise_filterMap.mpr (apart.imp ?_))
  intro change other differ data found otherData otherFound
  rw [reads_extension] at found otherFound
  exact differ data otherData (congrArg _ found) (congrArg _ otherFound)

end

end

section

variable [Numerals] [Cboring] [Crc16] [Ed25519] {now : Time} {visited : List Item}
  {changes : List Change} {m : Dict (List UInt8) Interface} (same : visited.Perm m.items)
  (all : visited.mapM (Item.change now) = .ok changes)

include same all

theorem assembled_valid_iff : Bundle.checkValid ⟨(assembled changes).primary.reporting,
    (assembled changes).canonicals, (assembled changes).payload⟩ now = .ok [] ↔
      (assembled changes).primary.reporting.checkValid = [] ∧ (∃ data, .payload data ∈ changes) ∧
      (∀ data, .extension data ∈ changes → data.checkValid = []) ∧
      isLifetimeExceeded ⟨(assembled changes).primary.reporting,
        (assembled changes).canonicals, (assembled changes).payload⟩ now = .ok false := by
  have held := Change.values_assembled changes
  have made : ∀ data ∈ changes.filterMap Change.extension?,
      data.blockTypeCode ≠ BlockType.payloadBlock ∧
        ∀ publicKey proof, data ≠ .signature publicKey proof := by
    intro data member
    obtain ⟨method, by_⟩ := by_of_mapM all _ (reads_extension.mem_iff.mp member)
    cases by_ <;> refine ⟨by rw [blockTypeCode]; decide, ?_⟩ <;> rintro publicKey proof ⟨⟩
  have blocks := checkValid_of_values held fun data member => (made data member).1
  simp only [reads_extension.mem_iff] at blocks
  rw [Bundle.checkValid_eq_nil, forall_mem_append, blocks]
  constructor
  · rintro ⟨primary, ⟨extensions, payload⟩, -, -, -, young⟩
    refine ⟨primary, ?_, extensions, young⟩
    have present := present_of_checkValid (payload _ (mem_singleton_self _))
    rcases payload_cases changes with ⟨-, unset⟩ | ⟨data, inside, -⟩
    · obtain ⟨value, own⟩ := unset ▸ present
      cases own
    · exact ⟨data, inside⟩
  · rintro ⟨primary, ⟨data, inside⟩, extensions, young⟩
    rcases payload_cases changes with ⟨missing, -⟩ | ⟨other, -, set⟩
    · exact absurd inside (missing data)
    refine ⟨primary, ⟨extensions, ?_⟩, ?_, ?_,
      checkAge_of_young (present_of_values held) young, young⟩
    · intro cb member
      rw [mem_singleton.mp member, set]
      rfl
    · rw [set]
      change BlockControlFlags.has 0 _ = false
      decide
    · refine checkExtensions_eq_nil.mpr ⟨nodup_assembled (nodup_visited same) all, ?_⟩
      intro cb member
      have listed : cb.value ∈ (changes.filterMap Change.extension?).map some :=
        held ▸ mem_map_of_mem member
      obtain ⟨value, inside, own⟩ := mem_map.mp listed
      exact ⟨not_mem_nil, value, own.symm, checkContextValid_of_once
        (nodup_types same all) inside held (made value inside).2⟩

omit [Cboring] [Crc16] [Ed25519] in
theorem young_assembled : isLifetimeExceeded ⟨(assembled changes).primary.reporting,
    (assembled changes).canonicals, (assembled changes).payload⟩ now = .ok false ↔
      Young now m (last timestamp? changes 0) (last Change.lifetime? changes 0) := by
  obtain ⟨eid, reporting⟩ := BundleBuilder.reporting_eq (assembled changes).primary
  rw [young_iff (nodup_types same all) (Change.values_assembled changes), reporting, Young]
  simp only [makes_iff same all, reads_extension.mem_iff]
  rfl

variable [GoSort]

/-- Only the creation time depends on the order. -/
theorem built_iff : (∃ bndl, buildFromMap now visited = .ok bndl) ↔
    BuildableAt now m (last timestamp? changes 0) := by
  have accepted : ∀ item ∈ m.items, ∃ change, Item.change now item = .ok change := by
    intro item member
    obtain ⟨change, -, made⟩ := change_of_mem all (same.mem_iff.mpr member)
    exact ⟨change, made⟩
  have source := last_iff same all sole_source ⟨none⟩ fun eid =>
    eid.checkValid = none ∧ eid ≠ EndpointID.dtnNone
  have destination := last_iff same all sole_destination ⟨none⟩ fun eid =>
    eid.checkValid = none
  have reportTo := last_iff same all sole_reportTo ⟨none⟩ fun eid =>
    eid ≠ ⟨none⟩ → eid.checkValid = none
  have lifetime := last_iff same all sole_lifetime 0
    (Young now m (last timestamp? changes 0))
  rw [buildFromMap_eq, all, Go.ok_bind, foldl_apply, BundleBuilder.build_iff rfl,
    sort_assembled (nodup_visited same) all, assembled_valid_iff same all, young_assembled same all,
    reporting_valid_iff rfl rfl]
  simp only [← makes_iff same all]
  constructor
  · rintro ⟨⟨valid, named, validDestination, validReport⟩, payload, extensions, young⟩
    exact ⟨accepted, source.mp ⟨valid, named⟩, destination.mp validDestination,
      reportTo.mp validReport, payload, extensions, lifetime.mp young⟩
  · intro buildable
    obtain ⟨valid, named⟩ := source.mpr buildable.source
    exact ⟨⟨valid, named, destination.mpr buildable.destination,
      reportTo.mpr buildable.reportTo⟩,
      buildable.payload, buildable.extensions, lifetime.mpr buildable.young⟩

end

section

variable [Numerals] {now : Time} {m : Dict (List UInt8) Interface}

/-- The key for the creation time may come last. -/
theorem exists_order {t : DtnTime}
    (accepted : ∀ item ∈ m.items, ∃ change, Item.change now item = .ok change)
    (leaves : Leaves now m .timestamp 0 t) : ∃ (visited : List Item) (changes : List Change),
      visited.Perm m.items ∧ visited.mapM (Item.change now) = .ok changes ∧
        last timestamp? changes 0 = t := by
  rcases leaves with ⟨item, member, made⟩ | ⟨rfl, unset⟩
  · obtain ⟨before, after, split⟩ := append_of_mem member
    have order : ((before ++ after) ++ [item]).Perm m.items := by
      rw [split]
      exact (perm_append_singleton _ _).trans perm_middle.symm
    have remaining : ∀ other ∈ before ++ after, ∃ change, Item.change now other = .ok change :=
      fun other inside => accepted other (order.mem_iff.mp (mem_append_left _ inside))
    obtain ⟨changes, all⟩ := mapM_returns remaining
    refine ⟨_, changes ++ [.timestamp t], order, mapM_append_of_ok all ?_, ?_⟩
    · rw [mapM_cons, made]
      rfl
    · exact last_append _ _ _ _
  · obtain ⟨changes, all⟩ := mapM_returns accepted
    refine ⟨m.items, changes, .refl _, all, ?_⟩
    rcases leaves_last (.refl _) all reads_timestamp 0 with makes | ⟨kept, -⟩
    · exact absurd makes (unset _)
    · exact kept

/-- Some order builds a bundle, exactly if all is right about the map. -/
theorem buildable_iff [Cboring] [Crc16] [Ed25519] [GoSort] :
    (∃ visited : List Item, visited.Perm m.items ∧
      ∃ bndl, buildFromMap now visited = .ok bndl) ↔ Buildable now m := by
  constructor
  · rintro ⟨visited, same, bndl, built⟩
    have outcome := built
    rw [buildFromMap_eq] at outcome
    obtain ⟨changes, all, -⟩ := Go.bind_eq_ok.mp outcome
    exact ⟨_, leaves_last same all reads_timestamp 0, (built_iff same all).mp ⟨bndl, built⟩⟩
  · rintro ⟨t, leaves, buildable⟩
    obtain ⟨visited, changes, same, all, rfl⟩ := exists_order buildable.accepted leaves
    exact ⟨visited, same, (built_iff same all).mpr buildable⟩

end

end RecDtn.Bpv7
