import RecDtn.Bpv7.Rereading
import RecDtn.Store.Collision

/-! Whether a descriptor and the bundle it loads agree on expiry. -/

namespace RecDtn.Store

open Wire Lang Bpv7 List

variable [Sha256] [Badgerhold]

namespace BundleStore

variable {bst left : BundleStore} {ref : Ref} {bd : BundleDescriptor}

/-- Descriptors stay where they are and keep their ends. -/
def KeepsEnds (bst left : BundleStore) : Prop :=
  ∀ (ref : Ref) (bd : BundleDescriptor), bst.descriptors[ref]? = some bd →
    ∃ next, left.descriptors[ref]? = some next ∧ next.metadata.expires = bd.metadata.expires

theorem KeepsEnds.refl (bst : BundleStore) : KeepsEnds bst bst :=
  fun _ bd pointed => ⟨bd, pointed, rfl⟩

theorem KeepsEnds.trans {middle : BundleStore} (first : KeepsEnds bst middle)
    (second : KeepsEnds middle left) : KeepsEnds bst left := by
  intro ref bd pointed
  obtain ⟨next, found, same⟩ := first ref bd pointed
  obtain ⟨last, there, again⟩ := second ref next found
  exact ⟨last, there, again.trans same⟩

theorem keepsEnds_of_same (same : left.descriptors = bst.descriptors) : KeepsEnds bst left :=
  fun _ bd pointed => ⟨bd, by rw [same, pointed], rfl⟩

theorem keepsEnds_of_set {changed : BundleDescriptor} (pointed : bst.descriptors[ref]? = some bd)
    (written : left.descriptors = bst.descriptors.set ref changed)
    (ends : changed.metadata.expires = bd.metadata.expires) : KeepsEnds bst left := by
  intro found held there
  by_cases here : found = ref
  · subst here
    obtain ⟨bound, -⟩ := List.getElem?_eq_some_iff.mp pointed
    cases pointed.symm.trans there
    exact ⟨changed, by rw [written, List.getElem?_set_self bound], ends⟩
  · exact ⟨held, by rw [written, getElem?_set_ne (Ne.symm here), there], rfl⟩

theorem keepsEnds_perform (bst : BundleStore) (ref : Ref) (operation : Operation) :
    KeepsEnds bst (bst.perform ref operation).2 := by
  cases pointed : bst.descriptors[ref]? with
  | none =>
    simp only [perform, pointed]
    exact .refl bst
  | some bd =>
    have written : (bst.perform ref operation).2.descriptors =
        bst.descriptors.set ref (bd.perform operation).descriptor := by simp only [perform, pointed]
    exact keepsEnds_of_set pointed written (by rw [(bd.perform_of operation).metadata])

theorem keepsEnds_addKnownHolder (bst : BundleStore) (faults : Faults) (ref : Ref)
    (peers : List EndpointID) : KeepsEnds bst (bst.addKnownHolder faults ref peers).2 := by
  unfold addKnownHolder
  split
  · exact .refl bst
  · rename_i bd pointed
    split
    · exact .refl bst
    · exact keepsEnds_of_set pointed rfl rfl

theorem keepsEnds_setMiscData (bst : BundleStore) (faults : Faults) (ref : Ref) (key : String)
    (value : UInt64) : KeepsEnds bst (bst.setMiscData faults ref key value).2 := by
  unfold setMiscData
  split
  · exact .refl bst
  · rename_i bd pointed
    exact keepsEnds_of_set pointed rfl rfl

theorem keepsEnds_deleteBundle (bst : BundleStore) (faults : Faults) (position : Nat) :
    KeepsEnds bst (bst.deleteBundle faults position) := by
  unfold deleteBundle
  split
  · exact .refl bst
  · exact keepsEnds_of_same rfl

section Inserting

variable [Cboring] [Crc16]

theorem keepsEnds_insertBundle (bst : BundleStore) (faults : Faults) (bundle : Bundle) :
    KeepsEnds bst (bst.insertBundle faults bundle).2 := by
  cases index : bst.bundles.lookup bundle.id with
  | some ref =>
    simp only [insertBundle, index]
    split
    · exact .refl bst
    · exact .refl bst
    · exact keepsEnds_addKnownHolder bst faults ref _
  | none =>
    have outcome := bst.insertBundle_cases faults bundle
    generalize bst.insertBundle faults bundle = result at outcome
    cases outcome with
    | failed fault left memory disk => exact keepsEnds_of_same memory.descriptors
    | known ref found unsent => cases index.symm.trans found
    | noted ref bd metadata found pointed live same destined => cases index.symm.trans found
    | new left inserted =>
      obtain ⟨previousNode, -, described⟩ := inserted.described
      intro ref bd pointed
      obtain ⟨bound, -⟩ := List.getElem?_eq_some_iff.mp pointed
      exact ⟨bd, by rw [described, List.getElem?_append_left bound, pointed], rfl⟩

theorem keepsEnds_step (bst : BundleStore) (action : Action) : KeepsEnds bst (bst.step action) := by
  cases action with
  | insert bundle faults => exact keepsEnds_insertBundle bst faults bundle
  | perform ref operation => exact keepsEnds_perform bst ref operation
  | addKnownHolder ref peers faults => exact keepsEnds_addKnownHolder bst faults ref peers
  | setMiscData ref key value faults => exact keepsEnds_setMiscData bst faults ref key value
  | garbageCollect order now =>
    apply garbageCollect_induction KeepsEnds
    · exact .refl
    · exact .trans
    · exact fun state ref markIfConstraint => keepsEnds_perform state ref (.delete markIfConstraint)
  | deleteBundle position faults => exact keepsEnds_deleteBundle bst faults position

theorem keepsEnds_run (bst : BundleStore) (actions : List Action) :
    KeepsEnds bst (run step bst actions) := by
  induction actions generalizing bst with
  | nil => exact .refl bst
  | cons action rest ih => exact (keepsEnds_step bst action).trans (ih (bst.step action))

/-- A new descriptor ends when the bundle does. -/
theorem expires_of_inserted {bundle : Bundle} {faults : Faults}
    (free : bst.bundles.lookup bundle.id = none)
    (answered : (bst.insertBundle faults bundle).1 = .ok ref) :
    ∃ bd, (bst.insertBundle faults bundle).2.descriptors[ref]? = some bd ∧
      bd.metadata.expires = bundle.expiry := by
  obtain ⟨rfl, inserted⟩ := inserted_of_answer free answered
  obtain ⟨previousNode, -, described⟩ := inserted.described
  refine ⟨.new (bst.newMetadata bundle previousNode), ?_, rfl⟩
  rw [described, getElem?_concat_length]

end Inserting

theorem expired_of_garbageCollect {order : RangeOrder Ref} {now : Time}
    (pointed : bst.descriptors[ref]? = some bd) (live : bd.deleted = false)
    (deleted : (bst.garbageCollect order now).Deleted ref) : bd.expired now = true := by
  -- Along the loop the descriptor keeps its metadata, and is live unless it has expired.
  have loop : ∀ (refs : List Ref) (state : BundleStore) (held : BundleDescriptor),
      state.descriptors[ref]? = some held → held.metadata = bd.metadata →
      (held.deleted = true → bd.expired now = true) →
      (refs.foldl (fun state ref => state.collect now ref) state).Deleted ref → bd.expired now = true := by
    intro refs
    induction refs with
    | nil =>
      intro state held there _ early gone
      obtain ⟨last, found, isDeleted⟩ := gone
      cases there.symm.trans found
      exact early isDeleted
    | cons target rest ih =>
      intro state held there same early gone
      cases aimed : state.descriptors[target]? with
      | none =>
        have round : state.collect now target = state := by simp only [collect, aimed]
        rw [foldl_cons, round] at gone
        exact ih state held there same early gone
      | some other =>
        by_cases due : (other.expired now && !other.retained) = true
        · have round : state.collect now target = (state.perform target (.delete false)).2 := by
            simp only [collect, aimed, due, ↓reduceIte]
          rw [foldl_cons, round] at gone
          by_cases here : target = ref
          · subst here
            cases aimed.symm.trans there
            have expired : bd.expired now = true := by
              simp only [Bool.and_eq_true] at due
              simpa [BundleDescriptor.expired, same] using due.1
            exact expired
          · refine ih _ held ?_ same early gone
            simp only [perform, aimed]
            rw [getElem?_set_ne here, there]
        · have round : state.collect now target = state := by
            simp only [collect, aimed, due, Bool.false_eq_true, ↓reduceIte]
          rw [foldl_cons, round] at gone
          exact ih state held there same early gone
  refine loop _ bst bd pointed rfl ?_ deleted
  intro gone
  rw [live] at gone
  cases gone

variable [Cboring] [Crc16] [Ed25519]

/-- The descriptor has expired exactly if the bundle that it loads has exceeded
its lifetime, and a garbage collection removes it only in this case. -/
def AgreesOnExpiry (bst : BundleStore) (ref : Ref) (now : Time) : Prop :=
  ∃ bd loaded, bst.descriptors[ref]? = some bd ∧ bst.load now ref = .ok loaded ∧
    loaded.isLifetimeExceeded now = .ok (bd.expired now) ∧
    ∀ order, (bst.garbageCollect order now).Deleted ref → loaded.isLifetimeExceeded now = .ok true

end BundleStore

end RecDtn.Store

namespace RecDtn.Bpv7.Bundle

open Wire Lang Store

variable [Cboring] [Crc16] [Ed25519]

/-- The bundle can be loaded at all. If its life is read back, it has a creation
time or 2000 plus its lifetime is not over; if not, the descriptor has to have
expired like the bundle that is loaded. -/
def EndsWithDescriptor (b : Bundle) (now : Time) : Prop :=
  b.PayloadFound ∧
    ((b.LifeKept ∧ (b.primaryBlock.creationTimestamp.dtnTime ≠ 0 ∨ now ≤ b.expiry)) ∨
      (¬b.LifeKept ∧ b.expiry < now))

/-- What a file with the encoding of a bundle says about its lifetime, against
the end of the bundle. -/
theorem exceeded_of_file {b sent : Bundle} {written : List UInt8} {checked now : Time}
    (valid : b.checkValid checked = .ok []) (encoded : b.marshalCbor = .ok (written, sent)) :
    (∃ loaded, BundleStore.parsedBundle now written = .ok loaded ∧
      loaded.isLifetimeExceeded now = .ok (decide (b.expiry < now))) ↔ b.EndsWithDescriptor now := by
  have answers : ∀ {exceeded : Bool}, (Bundle.parseBundle now written).bundle.isLifetimeExceeded
      now = .ok exceeded → ((∃ loaded, BundleStore.parsedBundle now written = .ok loaded ∧
        loaded.isLifetimeExceeded now = .ok (decide (b.expiry < now))) ↔
      (Bundle.parseBundle now written).Returns ∧ (exceeded = true ↔ b.expiry < now)) := by
    intro exceeded found
    constructor
    · rintro ⟨loaded, parsed, same⟩
      obtain ⟨rfl, returns⟩ := BundleStore.parsedBundle_eq_ok.mp parsed
      rw [found] at same
      refine ⟨returns, ?_⟩
      rw [Except.ok.inj same, decide_eq_true_eq]
    · rintro ⟨returns, same⟩
      refine ⟨_, BundleStore.parsedBundle_eq_ok.mpr ⟨rfl, returns⟩, ?_⟩
      rw [found]
      congr 1
      rw [Bool.eq_iff_iff, same, decide_eq_true_eq]
  by_cases readable : b.primaryBlock.Readable
  · obtain ⟨back, returns⟩ := parseBundle_of_readable encoded readable now
    by_cases nonzero : b.primaryBlock.creationTimestamp.dtnTime ≠ 0
    · have kept : b.LifeKept := ⟨readable, .inl nonzero⟩
      rw [answers (back.isLifetimeExceeded_of_nonzero nonzero now), returns, EndsWithDescriptor]
      simp [kept, nonzero]
    · have zero : b.primaryBlock.creationTimestamp.dtnTime = 0 := by simpa using nonzero
      rcases back.isLifetimeExceeded_of_zero valid readable zero now with ⟨kept, young⟩ | ⟨lost, old⟩
      · rw [answers young, returns, EndsWithDescriptor]
        simp [kept, zero]
      · rw [answers old, returns, EndsWithDescriptor]
        simp [lost]
  · obtain ⟨returns, filled, zero, bundle⟩ := parseBundle_of_unreadable encoded readable now
    have lost : ¬b.LifeKept := fun kept => readable kept.1
    have found : b.PayloadFound := fun able => absurd able readable
    have old : (Bundle.parseBundle now written).bundle.isLifetimeExceeded now = .ok true := by
      rw [bundle, isLifetimeExceeded_of_bare zero]
    rw [answers old, EndsWithDescriptor]
    simp [lost, found, returns]

end RecDtn.Bpv7.Bundle

namespace RecDtn.Store

open Wire Lang Bpv7 BundleStore

/-- In any run, as long as the descriptor of a new bundle is not deleted, it and
the bundle that it loads agree at a time exactly if the bundle ends with its
descriptor at this time. -/
theorem agreesOnExpiry_iff [Sha256] [Badgerhold] [Cboring] [Crc16] [Ed25519] {nodeID : EndpointID}
    {before after : List Action} {bundle : Bundle} {faults : Faults} {ref : Ref} {checked now : Time}
    (free : CollisionFree (insertedBy (before ++ .insert bundle faults :: after)))
    (valid : bundle.checkValid checked = .ok [])
    (new : (run step (empty nodeID) before).bundles.lookup bundle.id = none)
    (answered : ((run step (empty nodeID) before).insertBundle faults bundle).1 = .ok ref)
    (kept : ¬(run step (empty nodeID) (before ++ .insert bundle faults :: after)).Deleted ref) :
    (run step (empty nodeID) (before ++ .insert bundle faults :: after)).AgreesOnExpiry ref now ↔
      bundle.EndsWithDescriptor now := by
  have admitted : Inserts (insertedBy (before ++ .insert bundle faults :: after))
      (before ++ .insert bundle faults :: after) := by
    rintro action member inserted withFaults rfl
    exact ⟨withFaults, member⟩
  have reached : Good (insertedBy (before ++ .insert bundle faults :: after))
      (run step (empty nodeID) before) :=
    (good_empty _ nodeID).run free fun action member => admitted action (by simp [member])
  have next := reached.step free (admitted (.insert bundle faults) (by simp))
  have others : Inserts (insertedBy (before ++ .insert bundle faults :: after)) after :=
    fun action member => admitted action (by simp [member])
  have guarded : (run step (empty nodeID) before).WindowGuard (.insert bundle faults) := by
    intro found index
    cases new.symm.trans index
  have live := live_of_insert reached.sound guarded answered
  obtain ⟨written, sent, encoded, file⟩ := files_of_insert new answered
  obtain ⟨first, made, ends⟩ := expires_of_inserted new answered
  rw [run_append, run_cons] at kept ⊢
  -- The descriptor is live, so it has its file and the end it was given.
  obtain ⟨bd, pointed, same⟩ := keepsEnds_run _ after ref first made
  rcases next.run_keeps free others (.inr ⟨live, file⟩) with gone | ⟨still, content⟩
  · obtain ⟨held, there, -, deleted⟩ := revoked_iff.mp gone
    exact absurd ⟨held, there, deleted⟩ kept
  obtain ⟨-, serves⟩ := serves_of_live (next.run free others).sound still content
  have expired : bd.expired now = decide (bundle.expiry < now) := by
    rw [BundleDescriptor.expired, same, ends]
  rw [← Bundle.exceeded_of_file valid encoded]
  constructor
  · rintro ⟨held, loaded, there, loads, agrees, -⟩
    cases pointed.symm.trans there
    rw [serves now] at loads
    exact ⟨loaded, loads, by rw [agrees, expired]⟩
  · rintro ⟨loaded, loads, agrees⟩
    refine ⟨bd, loaded, pointed, by rw [serves now]; exact loads, by rw [agrees, expired], ?_⟩
    intro order deleted
    obtain ⟨held, there, -, alive⟩ := live_iff.mp still
    cases pointed.symm.trans there
    rw [agrees, ← expired, expired_of_garbageCollect pointed alive deleted]

open scoped Samples

/-- The bundle of a node with a clock has expired on both sides in 2025. -/
theorem localBundle_agreesOnExpiry : localBundle.checkValid 0 = .ok [] ∧
    (run step (empty (nodeEndpoint "broker")) [.insert localBundle .none]).AgreesOnExpiry
      0 october := by
  have valid : localBundle.checkValid 0 = .ok [] := rfl
  refine ⟨valid, (agreesOnExpiry_iff (fun _ _ _ _ same => same) valid
    (by rfl : (run step (empty (nodeEndpoint "broker")) []).bundles.lookup localBundle.id = none)
      rfl ?_).mpr ?_⟩
  · rintro ⟨bd, pointed, deleted⟩
    cases pointed
    cases deleted
  · have named : ∀ node : String, DtnEndpoint.matchesSsp
        (DtnEndpoint.ssp ⟨ascii node, [], false⟩) = true → (nodeEndpoint node).Readable := by
      intro node matched e held
      cases held
      exact .inr matched
    have readable : localBundle.primaryBlock.Readable :=
      ⟨named "executor" (by decide), named "broker" (by decide), named "broker" (by decide)⟩
    have found : localBundle.PayloadFound :=
      fun _ _ => ⟨localBundle.payloadBlock, List.mem_singleton_self _, rfl⟩
    have timed : localBundle.primaryBlock.creationTimestamp.dtnTime ≠ 0 := by decide
    exact ⟨found, .inl ⟨⟨readable, .inl timed⟩, .inl timed⟩⟩

/-- A bundle from a node without a clock, one minute old and with an hour to
live. -/
def agedBundle : Bundle :=
  { clocklessBundle with
    primaryBlock := { clocklessBundle.primaryBlock with lifetime := 3600000 }
    extensionBlocks := [⟨2, 0, CRCType.crcNo, [], some (.bundleAge 60000)⟩] }

/-- The descriptor has expired since the first hour of 2000, and the next garbage
collection removes the bundle. -/
theorem clocklessBundle_not_agreesOnExpiry : agedBundle.checkValid october = .ok [] ∧
    (∃ loaded, (run step (empty (nodeEndpoint "broker"))
        [.insert agedBundle .none, .perform 0 .resetConstraints]).load october 0 = .ok loaded ∧
      loaded.isLifetimeExceeded october = .ok false ∧
      ((run step (empty (nodeEndpoint "broker"))
        [.insert agedBundle .none, .perform 0 .resetConstraints]).garbageCollect .asStored
          october).Deleted 0) ∧
    ¬(run step (empty (nodeEndpoint "broker"))
        [.insert agedBundle .none, .perform 0 .resetConstraints]).AgreesOnExpiry 0 october := by
  have loads : (run step (empty (nodeEndpoint "broker"))
      [.insert agedBundle .none, .perform 0 .resetConstraints]).load october 0 = .ok agedBundle := rfl
  refine ⟨rfl, ⟨agedBundle, loads, rfl, _, rfl, rfl⟩, ?_⟩
  rintro ⟨bd, loaded, pointed, again, agrees, -⟩
  cases pointed
  cases loads.symm.trans again
  cases agrees

end RecDtn.Store
