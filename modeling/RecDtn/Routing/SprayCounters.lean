import RecDtn.Routing.SprayNetwork

namespace RecDtn.Routing

open Wire Lang Bpv7 Store BundleStore SprayAndWait Go List Option

variable {b : Bundle}

theorem carried_of_faithful (faithful : ∀ cb ∈ b.extensionBlocks, cb.Faithful) :
    carried b = 0 := by
  apply tally_eq_zero.mpr
  intro cb member
  obtain ⟨value, held, managed, -⟩ := faithful cb member
  rw [sprayCopies, mem_def.mp held]
  cases value with
  | binarySpray copies => exact managed.elim
  | _ => rfl

theorem carried_attachCopies [GoSort] {loaded attached : Bundle} {sendCopies : UInt64}
    (faithful : ∀ cb ∈ loaded.extensionBlocks, cb.Faithful)
    (done : attachCopies loaded sendCopies = .ok attached) : carried attached = sendCopies.toNat := by
  obtain ⟨kept, number, fewer, same⟩ := perm_of_attachCopies done
  have nothing : tally sprayCopies kept = 0 := by
    have less : tally sprayCopies kept ≤ carried loaded := tally_sublist fewer
    rw [carried_of_faithful faithful] at less
    exact Nat.le_zero.mp less
  rw [carried, tally_perm same, tally_append, nothing, Nat.zero_add]
  rfl

section

variable {bundle : Bundle} {now : Time} {bid : BundleID}

theorem carried_replacePreviousNode [GoSort] {ownNodeID : EndpointID} {replaced : Bundle}
    (done : replacePreviousNode ownNodeID bundle = .ok replaced) :
    carried replaced ≤ carried bundle := by
  obtain ⟨cleared, clearing, done⟩ := bind_eq_ok.mp done
  obtain ⟨number, same⟩ := perm_of_addExtensionBlock done
  have fewer : cleared.extensionBlocks.Sublist bundle.extensionBlocks := by
    obtain ⟨outcome, -, clearing⟩ := bind_eq_ok.mp clearing
    cases outcome with
    | error cause =>
      cases clearing
      exact List.Sublist.refl _
    | ok block =>
      cases clearing
      exact eraseP_sublist
  rw [carried, tally_perm same, tally_append]
  exact tally_sublist fewer

theorem mem_of_extensionBlockByType {blockType : UInt64} {cb : CanonicalBlock}
    (found : b.extensionBlockByType blockType = .ok cb) : cb ∈ b.extensionBlocks := by
  have listed : ∀ {blocks cbs : List CanonicalBlock},
      Bundle.blocksOfType blockType blocks = .ok cbs → ∀ other ∈ cbs, other ∈ blocks := by
    intro blocks
    induction blocks with
    | nil =>
      intro cbs selected other member
      cases selected
      cases member
    | cons first rest ih =>
      intro cbs selected other member
      obtain ⟨typeCode, -, selected⟩ := bind_eq_ok.mp selected
      obtain ⟨later, others, selected⟩ := bind_eq_ok.mp selected
      cases selected
      split at member
      · rcases mem_cons.mp member with rfl | member
        · exact mem_cons_self
        · exact mem_cons_of_mem _ (ih others other member)
      · exact mem_cons_of_mem _ (ih others other member)
  obtain ⟨cbs, several, found⟩ := bind_eq_ok.mp found
  obtain ⟨all, selected, several⟩ := bind_eq_ok.mp several
  split at several
  · cases several
  · cases several
    split at found
    · cases found
      exact listed selected cb (mem_singleton_self cb)
    · cases found

theorem getElem?_concat {α : Type} (items : List α) (last : α) (position : Nat) :
    (items ++ [last])[position]? = if position = items.length then some last
      else items[position]? := by
  split
  · rename_i here
    rw [here, getElem?_concat_length]
  · rename_i other
    rcases Nat.lt_or_gt_of_ne other with inside | outside
    · rw [getElem?_append_left inside]
    · rw [getElem?_eq_none (Nat.le_of_lt outside), getElem?_eq_none]
      rw [length_append]
      exact outside

variable [Sha256] [Badgerhold] {bst : BundleStore} {ref : Ref} {faults : Faults} {left : BundleStore}

/-- The router records at most what the bundle carries. -/
theorem notifyReceivedBundle_eq_ok
    (notified : notifyReceivedBundle faults bst ref bundle = .ok left) :
    ∃ copies : UInt64, copies.toNat ≤ carried bundle ∧
      left = setSprayCopies faults bst ref copies := by
  obtain ⟨outcome, lookup, notified⟩ := bind_eq_ok.mp notified
  cases outcome with
  | error cause =>
    cases notified
    exact ⟨0, Nat.zero_le _, rfl⟩
  | ok block =>
    have member := mem_of_extensionBlockByType (attempt_eq_ok.mp lookup)
    dsimp only at notified
    split at notified
    · rename_i copies held
      cases notified
      refine ⟨copies, ?_, rfl⟩
      have counted : sprayCopies block ≤ carried bundle := le_tally member
      rw [sprayCopies, held] at counted
      exact counted
    · cases notified

theorem faithful_of_load [Cboring] [Crc16] [Ed25519] (loading : bst.load now ref = .ok bundle) :
    ∀ cb ∈ bundle.extensionBlocks, cb.Faithful := by
  obtain ⟨content, -, parsed⟩ := load_eq_ok.mp loading
  obtain ⟨rfl, -⟩ := parsedBundle_eq_ok.mp parsed
  exact Bundle.parseBundle_faithful now content

def idAt (bst : BundleStore) (ref : Ref) : Option BundleID :=
  bst.descriptors[ref]?.map fun bd => bd.metadata.id

/-- Neither the bundles nor their counters change. -/
structure SameCounters (bst left : BundleStore) : Prop where
  bundles : left.bundles = bst.bundles
  ids : ∀ ref, idAt left ref = idAt bst ref
  counters : ∀ ref, getSprayCopies left ref = getSprayCopies bst ref

theorem SameCounters.refl (bst : BundleStore) : SameCounters bst bst :=
  ⟨rfl, fun _ => rfl, fun _ => rfl⟩

/-- A descriptor is replaced by one of the same bundle with the same counter. -/
theorem sameCounters_of_set {bd changed : BundleDescriptor} (bundles : left.bundles = bst.bundles)
    (held : bst.descriptors[ref]? = some bd)
    (descriptors : left.descriptors = bst.descriptors.set ref changed)
    (id : changed.metadata.id = bd.metadata.id)
    (data : changed.metadata.miscellaneousData = bd.metadata.miscellaneousData) :
    SameCounters bst left := by
  obtain ⟨inside, -⟩ := List.getElem?_eq_some_iff.mp held
  refine ⟨bundles, ?_, ?_⟩
  · intro other
    unfold idAt
    rw [descriptors, getElem?_set]
    split
    · rename_i same
      subst same
      rw [held, map_some, map_some, id]
    · rfl
  · intro other
    unfold getSprayCopies
    rw [descriptors, getElem?_set]
    split
    · rename_i same
      subst same
      rw [held, bind_some, bind_some, data]
    · rfl

theorem sameCounters_perform (bst : BundleStore) (ref : Ref) (operation : Operation) :
    SameCounters bst (bst.perform ref operation).2 := by
  unfold perform
  split
  · exact .refl bst
  · rename_i bd held
    have metadata := (bd.perform_of operation).metadata
    exact sameCounters_of_set rfl held rfl (by rw [metadata]) (by rw [metadata])

theorem sameCounters_addKnownHolder (bst : BundleStore) (faults : Faults) (ref : Ref)
    (peers : List EndpointID) : SameCounters bst (bst.addKnownHolder faults ref peers).2 := by
  unfold BundleStore.addKnownHolder
  split
  · exact .refl bst
  · rename_i bd held
    split
    · exact .refl bst
    · exact sameCounters_of_set rfl held rfl rfl rfl

theorem idAt_setSprayCopies (faults : Faults) (bst : BundleStore) (ref other : Ref)
    (copies : UInt64) : idAt (setSprayCopies faults bst ref copies) other = idAt bst other := by
  unfold idAt
  rw [descriptors_setSprayCopies]
  cases bst.descriptors[other]? with
  | none => rfl
  | some bd =>
    by_cases same : other = ref
    · simp [same, counted]
    · simp [same]

theorem bundles_setSprayCopies (faults : Faults) (bst : BundleStore) (ref : Ref) (copies : UInt64) :
    (setSprayCopies faults bst ref copies).bundles = bst.bundles := by
  unfold setSprayCopies setMiscData
  split
  · rfl
  · rfl

theorem copiesAt_setSprayCopies {copies : UInt64} (known : idAt bst ref = some bid) (other : Ref) :
    copiesAt (setSprayCopies faults bst ref copies) other =
      if other = ref then copies.toNat else copiesAt bst other := by
  have present : bst.descriptors[ref]?.isSome = true := by
    unfold idAt at known
    cases held : bst.descriptors[ref]? with
    | none =>
      rw [held] at known
      cases known
    | some bd => rfl
  unfold copiesAt
  rw [getSprayCopies_setSprayCopies]
  by_cases same : other = ref
  · simp [same, present]
  · simp [same]

/-- Every bundle has one descriptor, which is found under its ID. -/
def Indexed (bst : BundleStore) : Prop :=
  ∀ bid ref, bst.bundles.lookup bid = some ref ↔ idAt bst ref = some bid

/-- A descriptor without a counter has been added for a bundle that was not known. -/
structure Extended (bst left : BundleStore) (metadata : BundleMetadata) : Prop where
  unknown : bst.bundles.lookup metadata.id = none
  bundles : left.bundles = bst.bundles.insert metadata.id bst.descriptors.length
  described : left.descriptors = bst.descriptors ++ [.new metadata]
  fresh : metadata.miscellaneousData = ∅

namespace Extended

variable {bst left : BundleStore} {metadata : BundleMetadata}

theorem outside (_ : Extended bst left metadata) : idAt bst bst.descriptors.length = none := by
  rw [idAt, getElem?_eq_none (Nat.le_refl _)]
  rfl

section

variable (extended : Extended bst left metadata)

include extended

theorem ids (ref : Ref) :
    idAt left ref = if ref = bst.descriptors.length then some metadata.id else idAt bst ref := by
  rw [idAt, extended.described, getElem?_concat]
  split
  · rfl
  · rfl

theorem keeps (known : (idAt bst ref).isSome) : (idAt left ref).isSome := by
  rw [extended.ids]
  split
  · rfl
  · exact known

theorem copiesAt (ref : Ref) :
    Routing.copiesAt left ref = Routing.copiesAt bst ref := by
  unfold Routing.copiesAt getSprayCopies
  rw [extended.described, getElem?_concat]
  split
  · rename_i last
    rw [last, getElem?_eq_none (Nat.le_refl _), bind_some]
    change ((metadata.miscellaneousData.lookup _).getD 0).toNat = 0
    rw [extended.fresh, AList.lookup_empty]
    rfl
  · rfl

theorem indexed (before : Indexed bst) : Indexed left := by
  intro bid ref
  rw [extended.bundles, extended.ids]
  by_cases same : bid = metadata.id
  · subst same
    rw [AList.lookup_insert]
    split
    · rename_i last
      exact iff_of_true (congrArg some last.symm) rfl
    · rename_i other
      refine iff_of_false (fun found => other (Option.some.inj found).symm) ?_
      intro stored
      cases extended.unknown.symm.trans ((before _ _).mpr stored)
  · rw [AList.lookup_insert_ne same, before]
    split
    · rename_i last
      rw [last, extended.outside]
      exact iff_of_false nofun (fun found => same (Option.some.inj found).symm)
    · exact Iff.rfl

end

end Extended

/-- Inserting a bundle adds its descriptor without a counter, or changes nothing
that matters here. -/
theorem insertBundle_counters [Cboring] [Crc16] (bst : BundleStore) (faults : Faults)
    (bundle : Bundle) : (SameCounters bst (bst.insertBundle faults bundle).2 ∧
      ∀ ref, (bst.insertBundle faults bundle).1 = .ok ref → bst.bundles.lookup bundle.id = some ref) ∨
    ∃ metadata, metadata.id = bundle.id ∧ (bst.insertBundle faults bundle).1 =
      .ok bst.descriptors.length ∧ Extended bst (bst.insertBundle faults bundle).2 metadata := by
  cases lookup : bst.bundles.lookup bundle.id with
  | none =>
    have outcome := bst.insertBundle_cases faults bundle
    generalize bst.insertBundle faults bundle = result at outcome
    cases outcome with
    | failed fault left memory disk =>
      refine .inl ⟨⟨memory.bundles, ?_, ?_⟩, fun ref answered => by cases answered⟩
      · intro ref
        rw [idAt, memory.descriptors, idAt]
      · intro ref
        rw [getSprayCopies, memory.descriptors, getSprayCopies]
    | known ref found unsent | noted ref bd metadata found pointed live same destined =>
      cases lookup.symm.trans found
    | new left inserted =>
      obtain ⟨previousNode, -, described⟩ := inserted.described
      exact .inr ⟨_, rfl, rfl, lookup, inserted.bundles, described, rfl⟩
  | some known =>
    refine .inl ?_
    unfold insertBundle
    rw [lookup]
    dsimp only
    split
    · exact ⟨.refl bst, fun ref answered => by cases answered⟩
    · exact ⟨.refl bst, fun ref answered => by cases answered; rfl⟩
    · rename_i previousNode sent
      refine ⟨sameCounters_addKnownHolder bst faults known _, ?_⟩
      intro ref answered
      cases added : (bst.addKnownHolder faults known [previousNode]).1 with
      | error fault =>
        rw [added] at answered
        cases answered
      | ok done =>
        rw [added] at answered
        cases answered
        rfl

end

end RecDtn.Routing
