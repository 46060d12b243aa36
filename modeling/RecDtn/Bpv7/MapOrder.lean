import RecDtn.Bpv7.MapValidity

/-! For which maps two orders write two bundles. -/

namespace RecDtn.Bpv7

open Wire Lang CRCType Cboring Change List Bpv7.Bundle Go PrimaryBlock
open Change (assembled)

section

variable [Cboring] [Crc16] {written later rest left : List UInt8}

namespace CanonicalBlock

theorem front_of_marshalCbor {cb sent : CanonicalBlock} {value : ExtensionBlock}
    (held : cb.value = some value)
    (marshalled : cb.marshalCbor = .ok (written, sent)) : ∃ length tail,
      written = writeArrayLength length ++ (writeUInt value.blockTypeCode ++ tail) := by
  obtain ⟨fields, crc, first, sealed, -⟩ := marshalCbor_eq_ok.mp marshalled
  obtain ⟨other, data, present, -, rfl⟩ := marshalFields_eq_ok.mp first
  rw [held] at present
  cases present
  obtain ⟨tail, rfl⟩ := fields_of_appendCRC sealed
  simp only [append_assoc]
  exact ⟨_, _, rfl⟩

theorem typeCode_of_bytes {cb other sent sentOther : CanonicalBlock}
    {value otherValue : ExtensionBlock}
    (held : cb.value = some value) (otherHeld : other.value = some otherValue)
    (first : cb.marshalCbor = .ok (written, sent))
    (second : other.marshalCbor = .ok (later, sentOther))
    (same : written ++ rest = later ++ left) : value.blockTypeCode = otherValue.blockTypeCode := by
  obtain ⟨length, tail, rfl⟩ := front_of_marshalCbor held first
  obtain ⟨otherLength, otherTail, rfl⟩ := front_of_marshalCbor otherHeld second
  simp only [append_assoc] at same
  obtain ⟨-, behind⟩ := (reads_arrayLength length).unique (reads_arrayLength otherLength) same
  exact ((reads_uint value.blockTypeCode).unique (reads_uint otherValue.blockTypeCode) behind).1

end CanonicalBlock

namespace PrimaryBlock

theorem front_of_marshalCbor {pb sent : PrimaryBlock}
    (marshalled : pb.marshalCbor = .ok (written, sent)) :
    ∃ destination sourceNode reportTo tail, pb.destination.marshalCbor = .ok destination ∧
      pb.sourceNode.marshalCbor = .ok sourceNode ∧ pb.reportTo.marshalCbor = .ok reportTo ∧
      written = (writeArrayLength pb.blockLen ++ writeUInt dtnVersion ++
        writeUInt pb.bundleControlFlags ++ writeUInt pb.crcType ++ destination ++ sourceNode ++
        reportTo) ++ (pb.creationTimestamp.marshalCbor ++ tail) := by
  obtain ⟨fields, crc, first, sealed, -⟩ := marshalCbor_eq_ok.mp marshalled
  obtain ⟨destination, sourceNode, reportTo, one, two, three, rfl⟩ := marshalFields_eq_ok.mp first
  obtain ⟨tail, rfl⟩ := fields_of_appendCRC sealed
  refine ⟨destination, sourceNode, reportTo,
    writeUInt pb.lifetime ++ (pb.marshalFragment ++ tail), one, two, three, ?_⟩
  simp only [append_assoc]

/-- The creation time can be told from the bytes of a block, if nothing in front of it differs. -/
theorem timestamp_of_bytes (pb : PrimaryBlock) {sent sentOther : PrimaryBlock}
    {t u : CreationTimestamp} {crc otherCrc : List UInt8}
    (first : ({ pb with creationTimestamp := t, crc := crc } : PrimaryBlock).marshalCbor =
      .ok (written, sent))
    (second : ({ pb with creationTimestamp := u, crc := otherCrc } : PrimaryBlock).marshalCbor =
      .ok (later, sentOther))
    (same : written ++ rest = later ++ left) : t = u := by
  obtain ⟨destination, sourceNode, reportTo, tail, one, two, three, rfl⟩ :=
    front_of_marshalCbor first
  obtain ⟨_, _, _, otherTail, otherOne, otherTwo, otherThree, rfl⟩ := front_of_marshalCbor second
  cases one.symm.trans otherOne
  cases two.symm.trans otherTwo
  cases three.symm.trans otherThree
  have behind : (t.marshalCbor ++ tail) ++ rest = (u.marshalCbor ++ otherTail) ++ left :=
    append_cancel_left ((append_assoc _ _ _).symm.trans (same.trans (append_assoc _ _ _)))
  rw [append_assoc, append_assoc] at behind
  exact ((CreationTimestamp.reads_marshalCbor t).unique
    (CreationTimestamp.reads_marshalCbor u) behind).1

end PrimaryBlock

namespace Bundle

variable {b other sent sentOther : Bundle} (first : b.marshalCbor = .ok (written, sent))
  (second : other.marshalCbor = .ok (written, sentOther))

include first second

theorem timestamp_of_bytes (pb : PrimaryBlock) {t u : CreationTimestamp} {crc otherCrc : List UInt8}
    (primary : b.primaryBlock = { pb with creationTimestamp := t, crc := crc })
    (otherPrimary : other.primaryBlock = { pb with creationTimestamp := u, crc := otherCrc }) :
    t = u := by
  obtain ⟨bytes, _, _, head, -, -, rfl⟩ := marshalCbor_eq_ok.mp first
  obtain ⟨otherBytes, _, _, otherHead, -, -, same⟩ := marshalCbor_eq_ok.mp second
  rw [primary] at head
  rw [otherPrimary] at otherHead
  exact pb.timestamp_of_bytes head otherHead (List.cons.inj same).2

/-- The type of the first extension block can be told from the bytes of a bundle, if the primary
block does not differ. -/
theorem typeCode_of_bytes (primary : b.primaryBlock = other.primaryBlock)
    {cb otherCb : CanonicalBlock}
    {blocks otherBlocks : List CanonicalBlock} (extensions : b.extensionBlocks = cb :: blocks)
    (otherExtensions : other.extensionBlocks = otherCb :: otherBlocks)
    {value otherValue : ExtensionBlock}
    (held : cb.value = some value) (otherHeld : otherCb.value = some otherValue) :
    value.blockTypeCode = otherValue.blockTypeCode := by
  obtain ⟨bytes, _, _, head, middle, -, rfl⟩ := marshalCbor_eq_ok.mp first
  obtain ⟨otherBytes, _, _, otherHead, otherMiddle, -, same⟩ := marshalCbor_eq_ok.mp second
  rw [primary, otherHead] at head
  obtain ⟨rfl, -⟩ := Prod.mk.inj (Except.ok.inj head)
  rw [extensions] at middle
  rw [otherExtensions] at otherMiddle
  obtain ⟨block, _, _, _, marshalled, -, rfl, -⟩ := marshalBlocks_cons.mp middle
  obtain ⟨otherBlock, _, _, _, otherMarshalled, -, rfl, -⟩ := marshalBlocks_cons.mp otherMiddle
  have behind := append_cancel_left (List.cons.inj same).2
  rw [append_assoc, append_assoc] at behind
  exact CanonicalBlock.typeCode_of_bytes held otherHeld marshalled otherMarshalled behind

end Bundle

end

/-- The keys of blocks that are numbered as they come. -/
def Method.extensions : List Method := [bundleAgeBlock, hopCountBlock, previousNodeBlock]

namespace Change

variable {changes : List Change} {method other : Method} {change : Change}
  {data otherData : ExtensionBlock}

theorem By.mem_extensions (made : By method change) (found : extension? change = some data) :
    method ∈ Method.extensions := by
  cases made with
  | bundleAgeBlock => decide
  | hopCountBlock => decide
  | previousNodeBlock => decide
  | _ => cases found

theorem By.extension_of_mem (made : By method change) (member : method ∈ Method.extensions) :
    ∃ data, change = extension data := by
  cases made with
  | bundleAgeBlock ms | hopCountBlock limit | previousNodeBlock eid => exact ⟨_, rfl⟩
  | _ => simp [Method.extensions] at member

end Change

theorem PrimaryBlock.reporting_timestamp (pb : PrimaryBlock) (t : CreationTimestamp) :
    ({ pb with creationTimestamp := t } : PrimaryBlock).reporting =
      { pb.reporting with creationTimestamp := t } := by
  unfold reporting
  split <;> rfl

section

variable [Numerals] {now : Time} {visited first second : List Item} {changes others : List Change}

/-- There is at most one extension block, and the creation time is the same for all keys that set
it. -/
structure OrderFree (now : Time) (m : Dict (List UInt8) Interface) : Prop where
  extensions : ∀ first ∈ Method.extensions, ∀ second ∈ Method.extensions,
    first.name ∈ m.keys → second.name ∈ m.keys → first = second
  timestamps : ∀ first ∈ m.items, ∀ second ∈ m.items, ∀ t u,
    Item.change now first = .ok (.timestamp t) →
      Item.change now second = .ok (.timestamp u) → t = u

section

variable {m : Dict (List UInt8) Interface} (free : OrderFree now m) (firstOrder : first.Perm m.items)
  (secondOrder : second.Perm m.items) (firstAll : first.mapM (Item.change now) = .ok changes)
  (secondAll : second.mapM (Item.change now) = .ok others)

include firstOrder secondOrder firstAll secondAll in
theorem filterMap_eq_of_constant {α : Type} {kind : Change → Option α}
    (constant : ∀ one ∈ changes.filterMap kind, ∀ two ∈ changes.filterMap kind, one = two) :
    changes.filterMap kind = others.filterMap kind := by
  refine eq_of_perm_of_constant ?_ constant
  rw [filterMap_of_mapM kind firstAll, filterMap_of_mapM kind secondAll]
  exact (firstOrder.trans secondOrder.symm).filterMap _

include free firstOrder firstAll

theorem OrderFree.constant_extension : ∀ one ∈ changes.filterMap Change.extension?,
    ∀ two ∈ changes.filterMap Change.extension?, one = two := by
  refine constant_of_key firstAll ?_ (nodup_visited firstOrder)
  intro item there other otherThere change otherChange value otherValue accepted otherAccepted
    found otherFound
  obtain ⟨method, key, made⟩ := Item.by_of_change accepted
  obtain ⟨otherMethod, otherKey, otherMade⟩ := Item.by_of_change otherAccepted
  have listed : ∀ entry ∈ first, entry.1 ∈ m.keys :=
    fun entry member => mem_map.mpr ⟨entry, firstOrder.mem_iff.mp member, rfl⟩
  rw [key, otherKey, free.extensions method (made.mem_extensions found) otherMethod
    (otherMade.mem_extensions otherFound)
    (key ▸ listed item there) (otherKey ▸ listed other otherThere)]

theorem OrderFree.constant_timestamp : ∀ one ∈ changes.filterMap Change.timestamp?,
    ∀ two ∈ changes.filterMap Change.timestamp?, one = two := by
  intro one oneIn two twoIn
  obtain ⟨item, there, accepted⟩ :=
    mem_items_of_change firstAll (reads_timestamp.mem_iff.mp oneIn)
  obtain ⟨other, otherThere, otherAccepted⟩ :=
    mem_items_of_change firstAll (reads_timestamp.mem_iff.mp twoIn)
  exact free.timestamps item (firstOrder.mem_iff.mp there) other (firstOrder.mem_iff.mp otherThere)
    one two accepted otherAccepted

include secondOrder secondAll

theorem OrderFree.assembled_eq : assembled changes = assembled others := by
  have nodup := nodup_visited firstOrder
  have same : ∀ {α : Type} {kind : Change → Option α} {method : Method},
      (∀ other change value, Change.By other change → kind change = some value →
        other = method) → changes.filterMap kind = others.filterMap kind := by
    intro α kind method only
    exact filterMap_eq_of_constant firstOrder secondOrder firstAll secondAll
      (constant_of_method firstAll kind method only nodup)
  have destinations := same sole_destination.made
  have sources := same sole_source.made
  have reports := same sole_reportTo.made
  have lifetimes := same sole_lifetime.made
  have payloads : changes.filterMap Change.payload? = others.filterMap Change.payload? := by
    apply same
    intro other change value made found
    cases made with
    | payloadBlock data => exact rfl
    | _ => cases found
  have timestamps := filterMap_eq_of_constant firstOrder secondOrder firstAll secondAll
    (free.constant_timestamp firstOrder firstAll)
  have extensions := filterMap_eq_of_constant firstOrder secondOrder firstAll secondAll
    (free.constant_extension firstOrder firstAll)
  simp only [assembled, Change.last, destinations, sources, reports, lifetimes, payloads,
    timestamps, extensions]

end

theorem exists_rest {m : Dict (List UInt8) Interface}
    (accepted : ∀ item ∈ m.items, ∃ change, Item.change now item = .ok change)
    {item other : Item}
    (member : item ∈ m.items) (otherMember : other ∈ m.items) (different : item ≠ other) :
    ∃ rest more, m.items.Perm ([item, other] ++ rest) ∧
      rest.mapM (Item.change now) = .ok more := by
  obtain ⟨rest, split⟩ := perm_of_mem_of_ne member otherMember different
  have remaining : ∀ entry ∈ rest, ∃ change, Item.change now entry = .ok change :=
    fun entry inside => accepted entry (split.mem_iff.mpr (.tail _ (.tail _ inside)))
  obtain ⟨more, all⟩ := mapM_returns remaining
  exact ⟨rest, more, split, all⟩

theorem mapM_pair {item other : Item} {change otherChange : Change}
    (made : item.change now = .ok change) (otherMade : other.change now = .ok otherChange) :
    [item, other].mapM (Item.change now) = .ok [change, otherChange] := by
  rw [mapM_cons, mapM_cons, made, otherMade]
  rfl

end

section

variable [Numerals] [Cboring] [Crc16] [Ed25519] [GoSort]

/-- `BuildFromMap` hands back no bundle. -/
def Fails (now : Time) (visited : List Item) : Prop := ∀ bndl, buildFromMap now visited ≠ .ok bndl

/-- `BuildFromMap` hands back a bundle that is written as these bytes. -/
def Writes (now : Time) (visited : List Item) (written : List UInt8) : Prop :=
  ∃ bndl sent, buildFromMap now visited = .ok bndl ∧ bndl.marshalCbor = .ok (written, sent)

/-- Nobody can tell from the outcome in which order the map was visited. -/
def Agree (now : Time) (first second : List Item) : Prop :=
  (Fails now first ∧ Fails now second) ∨ ∃ written, Writes now first written ∧
    Writes now second written

variable {now : Time} {visited first second : List Item} {changes others : List Change}
  {written : List UInt8}

/-- The bundle goes straight to the output. -/
def writeFromMap (now : Time) (visited : List Item) : Go (List UInt8) := do
  let bndl ← buildFromMap now visited
  let marshalled ← bndl.marshalCbor
  return marshalled.1

theorem writes_iff : Writes now visited written ↔ writeFromMap now visited = .ok written := by
  constructor
  · rintro ⟨bndl, sent, built, marshalled⟩
    rw [writeFromMap, built, ok_bind, marshalled]
    rfl
  · intro returned
    obtain ⟨bndl, built, returned⟩ := bind_eq_ok.mp returned
    obtain ⟨⟨bytes, sent⟩, marshalled, same⟩ := bind_eq_ok.mp returned
    cases same
    exact ⟨bndl, sent, built, marshalled⟩

theorem Writes.unique {bytes : List UInt8} (one : Writes now visited written)
    (other : Writes now visited bytes) : written = bytes :=
  Except.ok.inj ((writes_iff.mp one).symm.trans (writes_iff.mp other))

/-- Two orders disagree if they write different bytes. -/
theorem not_agree_of_bytes (writes : Writes now first written)
    (different : (writeFromMap now second).toOption ≠ some written) : ¬Agree now first second := by
  rintro (⟨fails, -⟩ | ⟨bytes, one, two⟩)
  · obtain ⟨bndl, -, built, -⟩ := writes
    exact fails bndl built
  · rw [← writes.unique one, writes_iff] at two
    rw [two] at different
    exact different rfl

theorem Writes.bundle (writes : Writes now visited written)
    (all : visited.mapM (Item.change now) = .ok changes) :
    ∃ bndl sent, bndl = Bundle.setCRCType ⟨(assembled changes).primary.reporting,
        GoSort.sort canonicalBlockLess (assembled changes).canonicals,
          (assembled changes).payload⟩ crcNo ∧ bndl.marshalCbor = .ok (written, sent) := by
  obtain ⟨bndl, sent, built, marshalled⟩ := writes
  rw [buildFromMap_eq, all, ok_bind, foldl_apply] at built
  obtain ⟨-, checked, rfl, -, same⟩ := BundleBuilder.build_eq_ok built
  exact ⟨bndl, sent, same, marshalled⟩

theorem fails_of_refused {item : Item} {fault : Fault GoError} (member : item ∈ visited)
    (refused : item.change now = .error fault) : Fails now visited := by
  intro bndl built
  rw [buildFromMap_eq] at built
  obtain ⟨changes, all, -⟩ := bind_eq_ok.mp built
  obtain ⟨change, -, accepted⟩ := change_of_mem all member
  rw [refused] at accepted
  cases accepted

theorem writes_of_built {bndl : Bundle} (built : buildFromMap now visited = .ok bndl) :
    ∃ written, Writes now visited written := by
  have outcome := built
  rw [buildFromMap_eq] at built
  obtain ⟨changes, all, built⟩ := bind_eq_ok.mp built
  rw [foldl_apply] at built
  obtain ⟨-, checked, rfl, passed, same⟩ := BundleBuilder.build_eq_ok built
  have managed := managed_sorted all
  have present : (assembled changes).payload.Present := by
    cases held : (assembled changes).payload.value with
    | none =>
      rw [checkValid_without_payload (fun cb member => (managed cb member).present) held] at passed
      cases passed
    | some value => exact ⟨value, held⟩
  have extensions : ∀ cb ∈ bndl.extensionBlocks, cb.Managed := by
    intro cb member
    rw [same] at member
    obtain ⟨original, inside, rfl⟩ := mem_map.mp member
    exact managed original inside
  have payload : bndl.payloadBlock.Managed := by
    rw [same]
    exact managed_payload present
  have crcTypes : bndl.CRCTypesKnown := by
    have known : crcNo.Known ∧ crc32.Known := by decide
    obtain ⟨crc, typed⟩ := (assembled changes).primary.reporting.setCRCType_eq crcNo
    have primary : bndl.primaryBlock = _ := (congrArg Bundle.primaryBlock same).trans typed
    refine ⟨primary ▸ known.2, ?_⟩
    intro cb member
    rw [same] at member
    rcases mem_append.mp member with extension | payload
    · obtain ⟨original, -, rfl⟩ := mem_map.mp extension
      exact known.1
    · cases mem_singleton.mp payload
      exact known.1
  obtain ⟨written, sent, marshalled⟩ := marshalCbor_of_known extensions payload crcTypes
    (checkValid_of_buildFromMap outcome)
  exact ⟨written, bndl, sent, outcome, marshalled⟩

theorem OrderFree.agree {m : Dict (List UInt8) Interface} (free : OrderFree now m)
    (firstOrder : first.Perm m.items)
    (secondOrder : second.Perm m.items) : Agree now first second := by
  have orders := firstOrder.trans secondOrder.symm
  cases firstAll : first.mapM (Item.change now) with
  | error fault =>
    obtain ⟨item, there, refused⟩ := mem_map.mp (error_mem_of_mapM firstAll)
    exact .inl ⟨fails_of_refused there refused,
      fails_of_refused (orders.mem_iff.mp there) refused⟩
  | ok changes =>
    have accepted : ∀ item ∈ second, ∃ change, Item.change now item = .ok change := by
      intro item member
      obtain ⟨change, -, made⟩ := change_of_mem firstAll (orders.mem_iff.mpr member)
      exact ⟨change, made⟩
    obtain ⟨others, secondAll⟩ := mapM_returns accepted
    have outcome : buildFromMap now first = buildFromMap now second := by
      rw [buildFromMap_eq, buildFromMap_eq, firstAll, secondAll, ok_bind, ok_bind, foldl_apply,
        foldl_apply, free.assembled_eq firstOrder secondOrder firstAll secondAll]
    cases built : buildFromMap now first with
    | error fault =>
      refine .inl ⟨fun bndl other => ?_, fun bndl other => ?_⟩
      · rw [built] at other
        cases other
      · rw [← outcome, built] at other
        cases other
    | ok bndl =>
      obtain ⟨written, writes⟩ := writes_of_built built
      refine .inr ⟨written, writes, ?_⟩
      rw [Writes, ← outcome]
      exact writes

theorem Writes.stamped {before last : DtnTime} (writes : Writes now visited written)
    (all : visited.mapM (Item.change now) = .ok (changes ++ [.timestamp before, .timestamp last])) :
    ∃ (bndl sent : Bundle) (crc : List UInt8), bndl.marshalCbor = .ok (written, sent) ∧
      bndl.primaryBlock =
      { ({ (assembled changes).primary.reporting with crcType := crc32 } : PrimaryBlock) with
        creationTimestamp := ⟨last, 0⟩, crc := crc } := by
  obtain ⟨bndl, sent, built, marshalled⟩ := writes.bundle all
  have applied : assembled (changes ++ [.timestamp before, .timestamp last]) =
      Change.apply (Change.apply (assembled changes) (.timestamp before)) (.timestamp last) := by
    rw [apply_assembled, apply_assembled, append_assoc]
    rfl
  have primary : (assembled (changes ++ [.timestamp before, .timestamp last])).primary.reporting =
      { (assembled changes).primary.reporting with creationTimestamp := ⟨last, 0⟩ } := by
    rw [applied]
    exact (assembled changes).primary.reporting_timestamp ⟨last, 0⟩
  obtain ⟨crc, typed⟩ := setCRCType_eq
    { (assembled changes).primary.reporting with creationTimestamp := ⟨last, 0⟩ } crcNo
  refine ⟨bndl, sent, crc, marshalled, ?_⟩
  rw [built, primary]
  exact typed

section

variable {m : Dict (List UInt8) Interface}
  (accepted : ∀ item ∈ m.items, ∃ change, Item.change now item = .ok change)
  (writes : ∀ visited : List Item, visited.Perm m.items → Writes now visited written)
  {item other : Item} (member : item ∈ m.items) (otherMember : other ∈ m.items)
    (different : item ≠ other)

include accepted writes member otherMember different

/-- Two extension blocks could swap their places. -/
theorem typeCode_of_writes {data otherData : ExtensionBlock}
    (made : item.change now = .ok (.extension data))
    (otherMade : other.change now = .ok (.extension otherData)) :
    data.blockTypeCode = otherData.blockTypeCode := by
  obtain ⟨rest, more, split, all⟩ := exists_rest accepted member otherMember different
  have swapped : ([other, item] ++ rest).Perm m.items :=
    (List.Perm.swap item other rest).trans split.symm
  have one := mapM_append_of_ok (mapM_pair made otherMade) all
  have two := mapM_append_of_ok (mapM_pair otherMade made) all
  obtain ⟨bndl, sent, built, marshalled⟩ := (writes _ split.symm).bundle one
  obtain ⟨otherBndl, otherSent, otherBuilt, otherMarshalled⟩ := (writes _ swapped).bundle two
  rw [sort_assembled (nodup_visited split.symm) one] at built
  rw [sort_assembled (nodup_visited swapped) two] at otherBuilt
  apply typeCode_of_bytes marshalled otherMarshalled
  · rw [built, otherBuilt]
    rfl
  · rw [built]
    rfl
  · rw [otherBuilt]
    rfl
  · rfl
  · rfl

/-- Either of two keys could set the creation time last. -/
theorem timestamp_of_writes {t u : DtnTime} (made : item.change now = .ok (.timestamp t))
    (otherMade : other.change now = .ok (.timestamp u)) : t = u := by
  obtain ⟨rest, more, split, all⟩ := exists_rest accepted member otherMember different
  have behind : (rest ++ [item, other]).Perm m.items := perm_append_comm.trans split.symm
  have swapped : (rest ++ [other, item]).Perm m.items :=
    ((List.Perm.swap item other []).append_left rest).trans behind
  obtain ⟨bndl, sent, crc, marshalled, primary⟩ :=
    (writes _ behind).stamped (mapM_append_of_ok all (mapM_pair made otherMade))
  obtain ⟨otherBndl, otherSent, otherCrc, otherMarshalled, otherPrimary⟩ :=
    (writes _ swapped).stamped (mapM_append_of_ok all (mapM_pair otherMade made))
  have same := timestamp_of_bytes marshalled otherMarshalled _ primary otherPrimary
  exact (congrArg CreationTimestamp.dtnTime same).symm

end

theorem orderFree_of_writes {m : Dict (List UInt8) Interface}
    (accepted : ∀ item ∈ m.items, ∃ change, Item.change now item = .ok change)
    (writes : ∀ visited : List Item, visited.Perm m.items → Writes now visited written) :
    OrderFree now m := by
  constructor
  · intro method listed other otherListed keyed otherKeyed
    obtain ⟨item, member, key⟩ := mem_map.mp keyed
    obtain ⟨otherItem, otherMember, otherKey⟩ := mem_map.mp otherKeyed
    obtain ⟨change, made⟩ := accepted item member
    obtain ⟨otherChange, otherMade⟩ := accepted otherItem otherMember
    obtain ⟨found, named, by_⟩ := Item.by_of_change made
    obtain ⟨otherFound, otherNamed, otherBy⟩ := Item.by_of_change otherMade
    cases Method.name_injective (named.symm.trans key)
    cases Method.name_injective (otherNamed.symm.trans otherKey)
    obtain ⟨data, rfl⟩ := by_.extension_of_mem listed
    obtain ⟨otherData, rfl⟩ := otherBy.extension_of_mem otherListed
    by_contra different
    have items : item ≠ otherItem := by
      intro same
      exact different (Method.name_injective (key.symm.trans ((congrArg Prod.fst same).trans otherKey)))
    exact different (by_.method_unique otherBy
      (typeCode_of_writes accepted writes member otherMember items made otherMade))
  · intro item member other otherMember t u made otherMade
    by_cases same : item = other
    · rw [same, otherMade] at made
      cases made
      rfl
    · exact timestamp_of_writes accepted writes member otherMember same made otherMade

theorem fails_iff (now : Time) (m : Dict (List UInt8) Interface) :
    (∀ visited : List Item, visited.Perm m.items → Fails now visited) ↔ ¬Buildable now m := by
  rw [← buildable_iff]
  constructor
  · rintro fails ⟨visited, order, bndl, built⟩
    exact fails visited order bndl built
  · intro none visited order bndl built
    exact none ⟨visited, order, bndl, built⟩

/-- Every two orders of a map agree exactly if something is wrong with it in all orders, or there is
nothing to choose. -/
theorem agree_iff (now : Time) (m : Dict (List UInt8) Interface) :
    (∀ first second : List Item, first.Perm m.items → second.Perm m.items →
      Agree now first second) ↔ ¬Buildable now m ∨ OrderFree now m := by
  rw [← fails_iff]
  constructor
  · intro agree
    rcases agree m.items m.items (.refl _) (.refl _) with ⟨fails, -⟩ | ⟨written, writes, -⟩
    · left
      intro visited order
      rcases agree m.items visited (.refl _) order with ⟨-, failsToo⟩ | ⟨_, ⟨bndl, _, built, _⟩, -⟩
      · exact failsToo
      · exact absurd built (fails bndl)
    · right
      have same : ∀ visited : List Item, visited.Perm m.items → Writes now visited written := by
        intro visited order
        rcases agree m.items visited (.refl _) order with ⟨fails, -⟩ | ⟨bytes, once, again⟩
        · obtain ⟨bndl, -, built, -⟩ := writes
          exact absurd built (fails bndl)
        · rwa [writes.unique once]
      apply orderFree_of_writes _ same
      obtain ⟨bndl, -, built, -⟩ := writes
      rw [buildFromMap_eq] at built
      obtain ⟨changes, all, -⟩ := bind_eq_ok.mp built
      intro item member
      obtain ⟨change, -, made⟩ := change_of_mem all member
      exact ⟨change, made⟩
  · rintro (fails | free) first second firstOrder secondOrder
    · exact .inl ⟨fails first firstOrder, fails second secondOrder⟩
    · exact free.agree firstOrder secondOrder

end

section

open scoped Samples

attribute [local instance] Numerals.withoutTexts

/-- What the requests below share: `60000` as a lifetime, and an age of `0`. -/
def agedItems : List Item :=
  [(ascii "source", .string (ascii "dtn://broker/")),
    (ascii "destination", .string (ascii "dtn://executor/")),
    (ascii "lifetime", .float64 0x40ed4c0000000000), (ascii "payload_block", .string (ascii "go")),
    (ascii "bundle_age_block", .float64 0), (ascii "creation_timestamp_epoch", .bool true)]

def previousNodeItem : Item := (ascii "previous_node_block", .string (ascii "dtn://relay/"))

def nowItem : Item := (ascii "creation_timestamp_now", .bool true)

/-- A request with two extension blocks. -/
def relayedRequest : Dict (List UInt8) Interface := ⟨agedItems ++ [previousNodeItem], by decide⟩

/-- A request with two creation times. -/
def stampedRequest : Dict (List UInt8) Interface := ⟨agedItems ++ [nowItem], by decide⟩

theorem requests_disagree :
    (previousNodeItem :: agedItems).Perm relayedRequest.items ∧
      ¬Agree 1700000000000000000 relayedRequest.items (previousNodeItem :: agedItems) ∧
    (nowItem :: agedItems).Perm stampedRequest.items ∧
      ¬Agree 1700000000000000000 stampedRequest.items (nowItem :: agedItems) := by
  refine ⟨(perm_append_singleton _ _).symm, ?_, (perm_append_singleton _ _).symm, ?_⟩
  · apply not_agree_of_bytes (writes_iff.mpr rfl)
    decide +kernel
  · apply not_agree_of_bytes (writes_iff.mpr rfl)
    decide +kernel

end

end RecDtn.Bpv7
