import RecDtn.Processing.Exclusion
import RecDtn.Routing.SprayNetwork

/-! One call of `forwardingAsync` from beginning to end, with all of its exits. -/

namespace RecDtn.Processing

open Lang Bpv7 Store Constraint BundleDescriptor Go List

/-- What `SelectPeersForForwarding` answers, and what it stores with the
descriptor on the way. -/
structure RoutingResult where
  forwardToPeers : List EndpointID
  bundle : Option Bundle
  stored : List (String × UInt64 × Faults)

/-- A goroutine that has come to its end: whether `Send` went well, and the
faults that its `AddKnownHolder` met. -/
structure Transmission where
  peer : EndpointID
  sent : Bool
  faults : Faults

section

variable [Sha256] [Badgerhold]

def setMiscellaneous (ref : Ref) (bst : BundleStore) (entry : String × UInt64 × Faults) :
    BundleStore :=
  (bst.setMiscData entry.2.2 ref entry.1 entry.2.1).2

/-- Errors are only logged. -/
def forwardBundleToPeer (ref : Ref) (bst : BundleStore) (transmission : Transmission) : BundleStore :=
  if transmission.sent then (bst.addKnownHolder transmission.faults ref [transmission.peer]).2
    else bst

section Forwarding

variable [Cboring] [Crc16] [Ed25519] [GoSort]

/-- The bundle to send: the one that comes with the selection, or the stored one. -/
def bundleToSend (now : Time) (bst : BundleStore) (ref : Ref) :
    Option Bundle → Go (Except GoError Bundle)
  | some bundle => .ok (.ok bundle)
  | none => Go.attempt (bst.load now ref)

/-- The transmissions are listed in the order in which they end. -/
def forwardingAsync (ownNodeID : EndpointID) (now : Time) (bst : BundleStore) (ref : Ref)
    (result : RoutingResult) (transmissions : List Transmission) : Go BundleStore := do
  -- Step 1
  let added := bst.perform ref (.addConstraint forwardPending)
  match ← Go.attempt added.1 with
  | .error _ => return added.2
  | .ok () =>
    let removed := added.2.perform ref (.removeConstraint Constraint.dispatchPending)
    match ← Go.attempt removed.1 with
    | .error _ => return removed.2
    | .ok () =>
      -- Step 2
      let routed := result.stored.foldl (setMiscellaneous ref) removed.2
      -- Step 3
      if result.forwardToPeers = [] then return (routed.perform ref .resetConstraints).2
      else
        match ← bundleToSend now routed ref result.bundle with
        | .error _ => return routed
        | .ok bundle =>
          -- Step 4
          let _ ← Routing.replacePreviousNode ownNodeID bundle
          let forwarded := transmissions.foldl (forwardBundleToPeer ref) routed
          -- Step 6
          return (forwarded.perform ref (.removeConstraint forwardPending)).2

/-- A bundle that is not deleted can be forwarded again, and has lost no
constraint of others. -/
def Freed (bd final : BundleDescriptor) : Prop :=
  final.deleted = false → forwardPending ∉ final.retentionConstraints ∧
    ∀ constraint ∈ bd.retentionConstraints, constraint ≠ forwardPending →
      constraint ≠ Constraint.dispatchPending → constraint ∈ final.retentionConstraints

def LeavesPipeline (bst left : BundleStore) (ref : Ref) : Prop :=
  ∀ bd final, bst.descriptors[ref]? = some bd →
    left.descriptors[ref]? = some final → Freed bd final

/-- There are peers and a bundle to send to them; or there is nothing to lose
when the constraints are reset. -/
def Proceeds (now : Time) (bst : BundleStore) (ref : Ref) (result : RoutingResult)
    (bd : BundleDescriptor) : Prop :=
  bd.deleted = false →
    if result.forwardToPeers = [] then
      bd.shouldDelete = true ∨ ∀ constraint ∈ bd.retentionConstraints,
        constraint = forwardPending ∨ constraint = Constraint.dispatchPending
    else result.bundle.isSome = true ∨ ∃ bundle, bst.load now ref = .ok bundle

end Forwarding

/-- The descriptor has got other metadata, for the same file. -/
structure Beside (ref : Ref) (bst left : BundleStore) : Prop where
  directory : left.bundleDirectory = bst.bundleDirectory
  descriptor : ∀ bd, bst.descriptors[ref]? = some bd → ∃ metadata :
    BundleMetadata, metadata.id = bd.metadata.id ∧
    metadata.serialisedFileName = bd.metadata.serialisedFileName ∧
    left.descriptors[ref]? = some { bd with metadata := metadata }

namespace Beside

variable {ref : Ref} {bst middle left : BundleStore}

theorem refl (ref : Ref) (bst : BundleStore) : Beside ref bst bst :=
  ⟨rfl, fun bd held => ⟨bd.metadata, rfl, rfl, held⟩⟩

theorem trans (first : Beside ref bst middle) (second : Beside ref middle left) :
    Beside ref bst left := by
  refine ⟨second.directory.trans first.directory, ?_⟩
  intro bd held
  obtain ⟨metadata, id, file, between⟩ := first.descriptor bd held
  obtain ⟨last, sameId, sameFile, final⟩ := second.descriptor _ between
  exact ⟨last, sameId.trans id, sameFile.trans file, final⟩

theorem withMetadata {bd : BundleDescriptor} (held : bst.descriptors[ref]? = some bd)
    (faults : Faults) {metadata : BundleMetadata} (id : metadata.id = bd.metadata.id)
    (file : metadata.serialisedFileName = bd.metadata.serialisedFileName) :
    Beside ref bst (bst.withMetadata faults ref bd metadata) := by
  refine ⟨rfl, ?_⟩
  intro other there
  obtain rfl := Option.some.inj (held.symm.trans there)
  obtain ⟨inside, -⟩ := List.getElem?_eq_some_iff.mp held
  exact ⟨metadata, id, file, List.getElem?_set_self inside⟩

theorem setMiscellaneous (ref : Ref) (bst : BundleStore) (entry : String × UInt64 × Faults) :
    Beside ref bst (setMiscellaneous ref bst entry) := by
  unfold Processing.setMiscellaneous BundleStore.setMiscData
  split
  · exact refl ref bst
  · rename_i bd held
    exact withMetadata held _ rfl rfl

theorem forwardBundleToPeer (ref : Ref) (bst : BundleStore) (transmission : Transmission) :
    Beside ref bst (forwardBundleToPeer ref bst transmission) := by
  unfold Processing.forwardBundleToPeer BundleStore.addKnownHolder
  split
  · split
    · exact refl ref bst
    · rename_i bd held
      split
      · exact refl ref bst
      · exact withMetadata held _ rfl rfl
  · exact refl ref bst

theorem foldl {α : Type} {step : BundleStore → α → BundleStore}
    (each : ∀ bst item, Beside ref bst (step bst item))
    (items : List α) (bst : BundleStore) : Beside ref bst (items.foldl step bst) := by
  induction items generalizing bst with
  | nil => exact refl ref bst
  | cons item rest ih => exact (each bst item).trans (ih (step bst item))

end Beside

theorem load_congr [Cboring] [Crc16] [Ed25519] {ref : Ref} {bst left : BundleStore}
    {bd changed : BundleDescriptor}
    (held : bst.descriptors[ref]? = some bd) (there : left.descriptors[ref]? = some changed)
    (directory : left.bundleDirectory = bst.bundleDirectory)
    (deleted : changed.deleted = bd.deleted) (id : changed.metadata.id = bd.metadata.id)
    (file : changed.metadata.serialisedFileName = bd.metadata.serialisedFileName) (now : Time) :
    left.load now ref = bst.load now ref := by
  have entire : left.loadEntireBundle now bd.metadata.serialisedFileName =
      bst.loadEntireBundle now bd.metadata.serialisedFileName := by
    rw [BundleStore.loadEntireBundle, directory]
    rfl
  simp only [BundleStore.load, held, there, Go.deref, ok_bind, deleted, id, file, entire]

section Descriptor

omit [Badgerhold]

variable {bd : BundleDescriptor}

/-- The descriptor when the algorithm is asked: marked, and no longer pending. -/
def released (bd : BundleDescriptor) : BundleDescriptor :=
  bd.withConstraints ((bd.retentionConstraints ++ [forwardPending]).filter
    (· != Constraint.dispatchPending))

theorem mem_released {constraint : Constraint} : constraint ∈ (released bd).retentionConstraints ↔
    constraint = forwardPending ∨ constraint ∈ bd.retentionConstraints ∧
      constraint ≠ Constraint.dispatchPending := by
  have apart : forwardPending ≠ Constraint.dispatchPending := by decide
  simp only [released, withConstraints, mem_filter, mem_append, mem_singleton, bne_iff_ne]
  constructor
  · rintro ⟨present | rfl, other⟩
    · exact .inr ⟨present, other⟩
    · exact .inl rfl
  · rintro (rfl | ⟨present, other⟩)
    · exact ⟨.inr rfl, apart⟩
    · exact ⟨.inl present, other⟩

theorem perform_of_live (live : bd.deleted = false) :
    (bd.perform (.addConstraint forwardPending)).err = none ∧
      (bd.perform (.addConstraint forwardPending)).descriptor.perform
        (.removeConstraint Constraint.dispatchPending) = (released bd).answer none := by
  have added : bd.perform (.addConstraint forwardPending) = answer
      { bd with
        retentionConstraints := bd.retentionConstraints ++ [forwardPending]
        retain := true
        dispatch := false } none := by
    change bd.addConstraint _ = _
    rw [addConstraint, live, if_neg Bool.false_ne_true, if_neg (by decide), if_pos rfl]
  have retained : (released bd).retain = true := by
    have marked := ne_nil_of_mem (mem_released.mpr (.inl rfl) : forwardPending ∈
      (released bd).retentionConstraints)
    simpa [released, withConstraints] using marked
  rw [added]
  refine ⟨rfl, ?_⟩
  change removeConstraint _ _ = _
  rw [removeConstraint, if_neg (by simp [answer, live])]
  change (released bd).deleteIfMarked = _
  rw [deleteIfMarked, if_neg (by simp [retained])]

theorem deleted_deleteIfMarked (live : bd.deleted = false) :
    bd.deleteIfMarked.descriptor.deleted = (!bd.retain && bd.shouldDelete) := by
  unfold deleteIfMarked unsafeDelete
  split
  · rename_i due
    simp [due, live]
  · rename_i kept
    simpa [answer, live] using kept

variable {marked : BundleDescriptor}

/-- Resetting the constraints loses all of them, unless it deletes the bundle. -/
theorem freed_resetConstraints_iff (live : marked.deleted = false) :
    Freed bd marked.resetConstraints.descriptor ↔ marked.shouldDelete = true ∨
      ∀ constraint ∈ bd.retentionConstraints,
        constraint = forwardPending ∨ constraint = Constraint.dispatchPending := by
  have reset : marked.resetConstraints = (marked.withConstraints []).deleteIfMarked :=
    if_neg (by simp [live])
  have none : marked.resetConstraints.descriptor.retentionConstraints = [] := by
    rw [reset, (deleteIfMarked_kept _).1]
    rfl
  have deleted : marked.resetConstraints.descriptor.deleted = marked.shouldDelete := by
    have start : (marked.withConstraints []).deleted = false := live
    rw [reset, deleted_deleteIfMarked start]
    rfl
  rw [Freed, deleted, none]
  cases marked.shouldDelete with
  | true => simp
  | false =>
    simp only [not_mem_nil, not_false_eq_true, true_and, Bool.false_eq_true, false_or, forall_const]
    refine forall₂_congr fun constraint _ => ?_
    tauto

theorem freed_removeConstraint (live : marked.deleted = false)
    (kept : ∀ constraint ∈ bd.retentionConstraints, constraint ≠
      Constraint.dispatchPending → constraint ∈ marked.retentionConstraints) :
    Freed bd (marked.removeConstraint forwardPending).descriptor := by
  intro _
  have constraints : (marked.removeConstraint forwardPending).descriptor.retentionConstraints =
      marked.retentionConstraints.filter (· != forwardPending) := by
    rw [removeConstraint, if_neg (by simp [live]), (deleteIfMarked_kept _).1]
    rfl
  rw [constraints]
  constructor
  · simp
  · intro constraint present other pending
    exact mem_filter.mpr ⟨kept constraint present pending, by simpa using other⟩

end Descriptor

variable {ref : Ref} {bst left : BundleStore} {bd : BundleDescriptor}

theorem perform_at (held : bst.descriptors[ref]? = some bd) (operation : Operation) :
    (bst.perform ref operation).1 = Go.check (bd.perform operation).err ∧
      (bst.perform ref operation).2.descriptors[ref]? = some (bd.perform operation).descriptor ∧
      (bst.perform ref operation).2.bundleDirectory = bst.bundleDirectory := by
  obtain ⟨inside, -⟩ := List.getElem?_eq_some_iff.mp held
  rw [BundleStore.perform, held]
  exact ⟨rfl, List.getElem?_set_self inside, rfl⟩

theorem performed_of_live (held : bst.descriptors[ref]? = some bd) (live : bd.deleted = false) :
    ∃ marked ready, bst.perform ref (.addConstraint forwardPending) = (.ok (), marked) ∧
      marked.perform ref (.removeConstraint Constraint.dispatchPending) = (.ok (), ready) ∧
      ready.descriptors[ref]? = some (released bd) ∧ ready.bundleDirectory = bst.bundleDirectory := by
  obtain ⟨added, removed⟩ := perform_of_live live
  obtain ⟨first, middle, directory⟩ := perform_at held (.addConstraint forwardPending)
  obtain ⟨second, last, same⟩ := perform_at middle (.removeConstraint Constraint.dispatchPending)
  rw [added] at first
  rw [removed] at second last
  exact ⟨_, _, Prod.ext first rfl, Prod.ext second rfl, last, same.trans directory⟩

section Procedure

variable [Cboring] [Crc16] [Ed25519] {ownNodeID : EndpointID} {now : Time} {result : RoutingResult}
  {transmissions : List Transmission}

/-- The exits of the procedure, with the descriptor that each of them leaves. -/
inductive Exit (now : Time) (bst : BundleStore) (ref : Ref) (result : RoutingResult)
    (bd : BundleDescriptor) : BundleDescriptor → Prop where
  | gone : bd.deleted = true → Exit now bst ref result bd bd
  | contraindicated {metadata : BundleMetadata} :
    bd.deleted = false → result.forwardToPeers = [] →
      Exit now bst ref result bd (resetConstraints { released bd with metadata }).descriptor
  | notLoaded {metadata : BundleMetadata} : bd.deleted = false → result.forwardToPeers ≠ [] →
      ¬(result.bundle.isSome = true ∨ ∃ bundle, bst.load now ref = .ok bundle) →
      Exit now bst ref result bd { released bd with metadata }
  | forwarded {metadata : BundleMetadata} : bd.deleted = false → result.forwardToPeers ≠ [] →
      (result.bundle.isSome = true ∨ ∃ bundle, bst.load now ref = .ok bundle) →
      Exit now bst ref result bd
        (removeConstraint { released bd with metadata } forwardPending).descriptor

theorem bundleToSend_available {bundle : Option Bundle} {outcome : Except GoError Bundle}
    (obtained : bundleToSend now bst ref bundle = .ok outcome) :
    outcome.toBool = true ↔ bundle.isSome = true ∨ ∃ loaded, bst.load now ref = .ok loaded := by
  cases bundle with
  | some given =>
    cases obtained
    exact iff_of_true rfl (.inl rfl)
  | none =>
    rw [bundleToSend] at obtained
    cases loading : bst.load now ref with
    | ok loaded =>
      rw [loading] at obtained
      cases obtained
      exact iff_of_true rfl (.inr ⟨loaded, rfl⟩)
    | error fault =>
      rw [loading] at obtained
      cases fault with
      | error cause =>
        cases obtained
        simp [Except.toBool]
      | panic => cases obtained
      | spin => cases obtained

theorem exit_of_forwardingAsync [GoSort]
    (returned : forwardingAsync ownNodeID now bst ref result transmissions = .ok left) :
    ∃ bd final, bst.descriptors[ref]? = some bd ∧ left.descriptors[ref]? = some final ∧
      Exit now bst ref result bd final := by
  cases held : bst.descriptors[ref]? with
  | none =>
    simp [forwardingAsync, BundleStore.perform, held, Go.attempt] at returned
  | some bd =>
    cases live : bd.deleted with
    | true =>
      have refused : bd.perform (.addConstraint forwardPending) = bd.gone := if_pos live
      obtain ⟨first, same, -⟩ := perform_at held (.addConstraint forwardPending)
      rw [refused] at first same
      unfold forwardingAsync at returned
      simp only [first] at returned
      cases returned
      exact ⟨bd, bd, rfl, same, .gone live⟩
    | false =>
      obtain ⟨marked, ready, first, second, descriptor, directory⟩ := performed_of_live held live
      have beside : Beside ref ready (result.stored.foldl (setMiscellaneous ref) ready) :=
        Beside.foldl (Beside.setMiscellaneous ref) _ _
      obtain ⟨metadata, id, file, routed⟩ := beside.descriptor _ descriptor
      have loading := load_congr held routed (beside.directory.trans directory) rfl id file now
      unfold forwardingAsync at returned
      simp only [first, second, Go.attempt, ok_bind] at returned
      by_cases none : result.forwardToPeers = []
      · rw [if_pos none] at returned
        cases returned
        exact ⟨bd, _, rfl, (perform_at routed .resetConstraints).2.1, .contraindicated live none⟩
      · rw [if_neg none] at returned
        obtain ⟨outcome, obtained, returned⟩ := bind_eq_ok.mp returned
        have available := bundleToSend_available obtained
        rw [loading] at available
        cases outcome with
        | error cause =>
          cases returned
          refine ⟨bd, _, rfl, routed, .notLoaded live none ?_⟩
          intro given
          cases available.mpr given
        | ok bundle =>
          obtain ⟨sent, -, returned⟩ := bind_eq_ok.mp returned
          cases returned
          have forwarded : Beside ref (result.stored.foldl (setMiscellaneous ref) ready)
              (transmissions.foldl (forwardBundleToPeer ref) (result.stored.foldl (setMiscellaneous ref) ready)) :=
            Beside.foldl (Beside.forwardBundleToPeer ref) _ _
          obtain ⟨last, -, -, final⟩ := forwarded.descriptor _ routed
          exact ⟨bd, _, rfl, (perform_at final (.removeConstraint forwardPending)).2.1,
            .forwarded live none (available.mp rfl)⟩

theorem Exit.freed_iff {final : BundleDescriptor} (exit : Exit now bst ref result bd final) :
    Freed bd final ↔ Proceeds now bst ref result bd := by
  unfold Proceeds
  cases exit with
  | gone deleted =>
    have not : ¬bd.deleted = false := by simp [deleted]
    exact iff_of_true (fun live => absurd live not) (fun live => absurd live not)
  | @contraindicated metadata live none =>
    rw [if_pos none]
    have start : BundleDescriptor.deleted { released bd with metadata } = false := live
    refine (freed_resetConstraints_iff start).trans ?_
    exact ⟨fun lost _ => lost, fun lost => lost live⟩
  | @notLoaded metadata live some missing =>
    rw [if_neg some]
    refine iff_of_false ?_ (fun proceeds => missing (proceeds live))
    intro freed
    exact (freed live).1 (mem_released.mpr (.inl rfl))
  | @forwarded metadata live some available =>
    rw [if_neg some]
    refine iff_of_true (freed_removeConstraint live ?_) (fun _ => available)
    intro constraint present pending
    exact mem_released.mpr (.inr ⟨present, pending⟩)

end Procedure

namespace Pipeline

/-- The goroutines of forwardings, and nothing beside them. -/
def forwarding (bst : BundleStore) (runs : List ForwardingRun) : Pipeline := ⟨bst, [], [], runs⟩

/-- An error ends the run. -/
theorem constrain_forwarding {operation : Operation} {outcome : Go Unit} {after : BundleStore}
    (performed : bst.perform ref operation = (outcome, after)) (stage : Stage)
    (next : Option Stage) : (forwarding bst [⟨ref, stage⟩]).constrain 0 ref operation next =
      forwarding after (if outcome.toBool then next.toList.map (ForwardingRun.mk ref) else []) := by
  cases ended : outcome.toBool <;> cases next <;>
    simp [constrain, forwarding, withRun, performed, ended, Option.filter_some]

variable [Cboring] [Crc16] [Ed25519]

theorem run_setMiscData (ref : Ref) (runs : List ForwardingRun)
    (stored : List (String × UInt64 × Faults))
    (bst : BundleStore) : run Pipeline.step (forwarding bst runs)
        (stored.map fun entry => .setMiscData ref entry.1 entry.2.1 entry.2.2) =
      forwarding (stored.foldl (setMiscellaneous ref) bst) runs := by
  induction stored generalizing bst with
  | nil => rfl
  | cons entry rest ih => exact ih (setMiscellaneous ref bst entry)

variable {transmissions : List Transmission} {pipeline middle final : Pipeline} {now : Time}

theorem run_forwardToPeer (ref : Ref) {peers : List EndpointID}
    (all : (transmissions.map Transmission.peer).Perm peers) (bst : BundleStore) :
    run Pipeline.step (forwarding bst [⟨ref, .sending peers⟩])
      (transmissions.map fun transmission =>
          .forwardToPeer 0 transmission.peer transmission.sent transmission.faults) =
      forwarding (transmissions.foldl (forwardBundleToPeer ref) bst) [⟨ref, .sending []⟩] := by
  induction transmissions generalizing bst peers with
  | nil =>
    obtain rfl : peers = [] := all.nil_eq.symm
    rfl
  | cons transmission rest ih =>
    have awaited : transmission.peer ∈ peers := all.subset mem_cons_self
    have others : (rest.map Transmission.peer).Perm (peers.erase transmission.peer) := by
      have erased := all.erase transmission.peer
      rwa [map_cons, erase_cons_head] at erased
    have sent : Pipeline.step (forwarding bst [⟨ref, .sending peers⟩])
        (.forwardToPeer 0 transmission.peer transmission.sent transmission.faults) =
          forwarding (forwardBundleToPeer ref bst transmission) [⟨ref, .sending (peers.erase transmission.peer)⟩] :=
      if_pos awaited
    rw [map_cons, run_cons, sent]
    exact ih others _

/-- Some steps of the pipeline lead from the one to the other. -/
def Reaches (pipeline final : Pipeline) : Prop :=
  ∃ events, run Pipeline.step pipeline events = final

theorem Reaches.trans (first : pipeline.Reaches middle) (second : middle.Reaches final) :
    pipeline.Reaches final := by
  obtain ⟨before, rfl⟩ := first
  obtain ⟨after, rfl⟩ := second
  exact ⟨before ++ after, run_append _ before after⟩

theorem Reaches.step (event : Event) (taken : pipeline.step event = middle)
    (later : middle.Reaches final) : pipeline.Reaches final :=
  .trans ⟨[event], taken⟩ later

theorem Reaches.refl (pipeline : Pipeline) : pipeline.Reaches pipeline := ⟨[], rfl⟩

/-- Whatever the procedure does to the store, the goroutine does in the steps of
the pipeline, and comes to its end. -/
theorem reaches_of_forwardingAsync [GoSort] {ownNodeID : EndpointID} {result : RoutingResult}
    (returned : forwardingAsync ownNodeID now bst ref result transmissions = .ok left)
    (all : (transmissions.map Transmission.peer).Perm result.forwardToPeers) :
    (forwarding bst [⟨ref, .spawned⟩]).Reaches (forwarding left []) := by
  unfold forwardingAsync at returned
  rcases adding : bst.perform ref (.addConstraint forwardPending) with ⟨outcome, marked⟩
  refine .step (.addForwardPending 0) (constrain_forwarding adding .spawned (some .marked)) ?_
  rw [adding] at returned
  rcases outcome with (cause | _ | _) | _
  · cases returned
    exact .refl _
  · cases returned
  · cases returned
  rcases removing : marked.perform ref
    (.removeConstraint Constraint.dispatchPending) with ⟨outcome, ready⟩
  refine .step (.removeDispatchPending 0) (constrain_forwarding removing .marked (some .released)) ?_
  simp only [Go.attempt, ok_bind, removing] at returned
  rcases outcome with (cause | _ | _) | _
  · cases returned
    exact .refl _
  · cases returned
  · cases returned
  refine .trans ⟨_, run_setMiscData ref [⟨ref, .released⟩] result.stored ready⟩ ?_
  simp only [ok_bind] at returned
  generalize result.stored.foldl (setMiscellaneous ref) ready = routed at returned ⊢
  have ending (bst : BundleStore) (stage : Stage) (operation : Operation) :
      (forwarding bst [⟨ref, stage⟩]).constrain 0 ref operation none = forwarding (bst.perform ref operation).2 [] :=
    rfl
  by_cases none : result.forwardToPeers = []
  · rw [if_pos none] at returned
    cases returned
    refine .step (.selectPeers 0 [] result.bundle now) rfl ?_
    exact .step (.resetConstraints 0) (ending routed _ _) (.refl _)
  · rw [if_neg none] at returned
    obtain ⟨outcome, obtained, returned⟩ := bind_eq_ok.mp returned
    have available := bundleToSend_available obtained
    rw [← toBool_iff, ← Bool.or_eq_true] at available
    have some : ¬result.forwardToPeers.isEmpty = true := by simpa using none
    cases outcome with
    | error cause =>
      cases returned
      refine .step (.selectPeers 0 result.forwardToPeers result.bundle now)
        ((if_neg some).trans (if_neg ?_)) (.refl _)
      intro given
      cases available.mpr given
    | ok bundle =>
      obtain ⟨sent, -, returned⟩ := bind_eq_ok.mp returned
      cases returned
      refine .step (.selectPeers 0 result.forwardToPeers result.bundle now)
        ((if_neg some).trans (if_pos (available.mp rfl))) ?_
      refine .trans ⟨_, run_forwardToPeer ref all routed⟩ ?_
      exact .step (.removeForwardPending 0) (ending _ _ _) (.refl _)

end Pipeline

/-- A bundle that is not deleted leaves the pipeline with the constraints of
others unless it cannot be loaded, or the constraints are reset. -/
theorem leavesPipeline_iff_proceeds [Cboring] [Crc16] [Ed25519] [GoSort] {ownNodeID : EndpointID}
    {now : Time} {result : RoutingResult} {transmissions : List Transmission}
    (returned : forwardingAsync ownNodeID now bst ref result transmissions = .ok left) :
    LeavesPipeline bst left ref ↔ ∀ bd, bst.descriptors[ref]? = some bd →
      Proceeds now bst ref result bd := by
  obtain ⟨bd, final, held, after, exit⟩ := exit_of_forwardingAsync returned
  constructor
  · intro leaves other there
    obtain rfl := Option.some.inj (held.symm.trans there)
    exact exit.freed_iff.mp (leaves bd final held after)
  · intro proceeds first last start stop
    obtain rfl := Option.some.inj (held.symm.trans start)
    obtain rfl := Option.some.inj (after.symm.trans stop)
    exact exit.freed_iff.mpr (proceeds bd held)

end

open scoped Samples

/-- A bundle that has just been received. -/
def receivedLocally : BundleStore :=
  ((BundleStore.empty (nodeEndpoint "broker")).insertBundle .none localBundle).2

def towardsRelay : RoutingResult := ⟨[nodeEndpoint "relay"], none, []⟩

theorem receivedLocally_returns : ∃ left, forwardingAsync (nodeEndpoint "broker") 0 receivedLocally 0
    towardsRelay [⟨nodeEndpoint "relay", true, .none⟩] = .ok left :=
  toBool_iff.mp (by decide +kernel)

theorem receivedLocally_leavesPipeline : ∃ left,
    forwardingAsync (nodeEndpoint "broker") 0 receivedLocally 0 towardsRelay
      [⟨nodeEndpoint "relay", true, .none⟩] =
      .ok left ∧ LeavesPipeline receivedLocally left 0 := by
  have loads : (receivedLocally.load 0 0).toBool = true := by decide +kernel
  obtain ⟨left, returned⟩ := receivedLocally_returns
  refine ⟨left, returned, (leavesPipeline_iff_proceeds returned).mpr ?_⟩
  intro bd held live
  exact .inr (toBool_iff.mp loads)

/-- The file is gone and the bundle stays in the pipeline; or nobody is to get
it, and it loses the mark of a reassembly. -/
theorem receivedLocally_not_leavesPipeline :
    (∃ left, forwardingAsync (nodeEndpoint "broker") 0
      { receivedLocally with bundleDirectory := ∅ } 0 towardsRelay
        [⟨nodeEndpoint "relay", true, .none⟩] = .ok left ∧
      ¬LeavesPipeline { receivedLocally with bundleDirectory := ∅ } left 0) ∧
    ∃ left, forwardingAsync (nodeEndpoint "broker") 0
        (receivedLocally.perform 0 (.addConstraint reassemblyPending)).2 0 ⟨[], none, []⟩ [] = .ok left ∧
      ¬LeavesPipeline (receivedLocally.perform 0 (.addConstraint reassemblyPending)).2 left 0 := by
  refine ⟨⟨_, rfl, ?_⟩, ⟨_, rfl, ?_⟩⟩
  · intro leaves
    exact absurd (leaves _ _ rfl rfl rfl).1 (by decide +kernel)
  · intro leaves
    exact absurd ((leaves _ _ rfl rfl rfl).2 reassemblyPending (by decide +kernel))
      (by decide +kernel)

theorem receivedLocally_reaches : ∃ left,
    forwardingAsync (nodeEndpoint "broker") 0 receivedLocally 0 towardsRelay
      [⟨nodeEndpoint "relay", true, .none⟩] =
      .ok left ∧ (Pipeline.forwarding receivedLocally [⟨0, .spawned⟩]).Reaches (Pipeline.forwarding left []) := by
  obtain ⟨left, returned⟩ := receivedLocally_returns
  exact ⟨left, returned, Pipeline.reaches_of_forwardingAsync returned (.refl _)⟩

end RecDtn.Processing
