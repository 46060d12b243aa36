import RecDtn.Processing.Forwarding

/-! When at most one run of a bundle is in the pipeline. -/

namespace RecDtn.Processing

open Lang Bpv7 Store Constraint BundleDescriptor List

private theorem mem_append_spawned {runs : List ForwardingRun} (run : ForwardingRun)
    (member : run ∈ runs ++ [⟨ref, .spawned⟩]) : run ∈ runs ∨ run.stage = .spawned := by
  rcases mem_append.mp member with before | fresh
  · exact .inl before
  · obtain rfl := mem_singleton.mp fresh
    exact .inr rfl

section

variable [Sha256]

/-- A bundle that is being forwarded is not dispatched. -/
def Orderly (bd : BundleDescriptor) : Prop :=
  bd.dispatch = true → forwardPending ∉ bd.retentionConstraints

/-- The constraints while a run is at a stage. -/
def Stage.Marks (stage : Stage) (bd : BundleDescriptor) : Prop :=
  match stage with
  | .spawned => True
  | .marked => forwardPending ∈ bd.retentionConstraints
  | _ => forwardPending ∈ bd.retentionConstraints ∧
      Constraint.dispatchPending ∉ bd.retentionConstraints

theorem orderly_withConstraints (bd : BundleDescriptor) (constraints : List Constraint) :
    Orderly (bd.withConstraints constraints) := by
  simp [Orderly, withConstraints]

theorem deleteIfMarked_kept (bd : BundleDescriptor) :
    bd.deleteIfMarked.descriptor.retentionConstraints = bd.retentionConstraints ∧
      bd.deleteIfMarked.descriptor.dispatch = bd.dispatch := by
  unfold deleteIfMarked unsafeDelete
  split
  · split
    · exact ⟨rfl, rfl⟩
    · exact ⟨rfl, rfl⟩
  · exact ⟨rfl, rfl⟩

theorem delete_kept (bd : BundleDescriptor) (markIfConstraint : Bool) :
    (bd.delete markIfConstraint).descriptor.retentionConstraints = bd.retentionConstraints ∧
      (bd.delete markIfConstraint).descriptor.dispatch = bd.dispatch ∧
      ((bd.delete markIfConstraint).descriptor.deleted = false → bd.deleted = false) := by
  unfold BundleDescriptor.delete unsafeDelete
  split
  · split
    · exact ⟨rfl, rfl, id⟩
    · exact ⟨rfl, rfl, fun deleted => nomatch deleted⟩
  · split
    · exact ⟨rfl, rfl, id⟩
    · exact ⟨rfl, rfl, id⟩

variable {bd : BundleDescriptor} {ref : Ref}

theorem Orderly.of_kept {changed : BundleDescriptor} (orderly : Orderly bd)
    (constraints : changed.retentionConstraints = bd.retentionConstraints)
    (dispatch : changed.dispatch = bd.dispatch) : Orderly changed := by
  unfold Orderly at orderly ⊢
  rwa [constraints, dispatch]

/-- Every call on a descriptor keeps its mark in order. -/
theorem Orderly.perform (orderly : Orderly bd) (operation : Operation) :
    Orderly (bd.perform operation).descriptor := by
  cases operation with
  | addConstraint constraint =>
    change Orderly (bd.addConstraint constraint).descriptor
    unfold BundleDescriptor.addConstraint
    split
    · exact orderly
    split
    · exact orderly
    · intro dispatch
      by_cases forward : constraint = forwardPending
      · simp [answer, forward] at dispatch
      · simp only [answer, if_neg forward] at dispatch
        simpa [answer, Ne.symm forward] using orderly dispatch
  | removeConstraint constraint =>
    change Orderly (bd.removeConstraint constraint).descriptor
    unfold BundleDescriptor.removeConstraint
    split
    · exact orderly
    · obtain ⟨constraints, dispatch⟩ := deleteIfMarked_kept
        (bd.withConstraints (bd.retentionConstraints.filter (· != constraint)))
      exact (orderly_withConstraints bd _).of_kept constraints dispatch
  | resetConstraints =>
    change Orderly bd.resetConstraints.descriptor
    unfold BundleDescriptor.resetConstraints
    split
    · exact orderly
    · obtain ⟨constraints, dispatch⟩ := deleteIfMarked_kept (bd.withConstraints [])
      exact (orderly_withConstraints bd _).of_kept constraints dispatch
  | delete markIfConstraint =>
    obtain ⟨constraints, dispatch, -⟩ := delete_kept bd markIfConstraint
    exact orderly.of_kept constraints dispatch

theorem marked_of_addConstraint (added : (bd.addConstraint forwardPending).err = none) :
    Stage.marked.Marks (bd.addConstraint forwardPending).descriptor := by
  unfold BundleDescriptor.addConstraint at added ⊢
  split at added
  · cases added
  · rename_i alive
    rw [if_neg alive, if_neg (by decide)]
    simp [Stage.Marks, answer]

theorem released_of_removeConstraint
    (removed : (bd.removeConstraint Constraint.dispatchPending).err = none)
    (marked : bd.deleted = false → Stage.marked.Marks bd) :
    Stage.released.Marks (bd.removeConstraint Constraint.dispatchPending).descriptor := by
  unfold BundleDescriptor.removeConstraint at removed ⊢
  split at removed
  · cases removed
  · rename_i alive
    rw [if_neg alive]
    have pending : forwardPending ∈ bd.retentionConstraints := marked (by simpa using alive)
    unfold Stage.Marks
    rw [(deleteIfMarked_kept _).1]
    refine ⟨mem_filter.mpr ⟨pending, by decide⟩, ?_⟩
    intro member
    exact absurd (mem_filter.mp member).2 (by decide)

variable [Badgerhold]

/-- The store changes, but no constraint does. -/
structure Quiet (before after : BundleStore) : Prop where
  length : before.descriptors.length ≤ after.descriptors.length
  kept : ∀ ref bd, after.descriptors[ref]? = some bd → ref < before.descriptors.length →
    ∃ old, before.descriptors[ref]? = some old ∧
      bd.retentionConstraints = old.retentionConstraints ∧
      bd.dispatch = old.dispatch ∧ (bd.deleted = false → old.deleted = false)
  new : ∀ ref bd, after.descriptors[ref]? = some bd →
    before.descriptors.length ≤ ref → Orderly bd

namespace Quiet

variable {before middle after bst : BundleStore}

theorem of_descriptors (same : after.descriptors = before.descriptors) : Quiet before after := by
  refine ⟨by rw [same], ?_, ?_⟩
  · intro ref bd pointed _
    exact ⟨bd, by rw [← same, pointed], rfl, rfl, id⟩
  · intro ref bd pointed outside
    rw [same, getElem?_eq_none outside] at pointed
    cases pointed

theorem trans (first : Quiet before middle) (second : Quiet middle after) : Quiet before after := by
  refine ⟨Nat.le_trans first.length second.length, ?_, ?_⟩
  · intro ref bd pointed inside
    obtain ⟨between, there, constraints, dispatch, alive⟩ :=
      second.kept ref bd pointed (Nat.lt_of_lt_of_le inside first.length)
    obtain ⟨old, found, sameConstraints, sameDispatch, wasAlive⟩ :=
      first.kept ref between there inside
    exact ⟨old, found, constraints.trans sameConstraints, dispatch.trans sameDispatch,
      wasAlive ∘ alive⟩
  · intro ref bd pointed outside
    by_cases inside : ref < middle.descriptors.length
    · obtain ⟨between, there, constraints, dispatch, -⟩ := second.kept ref bd pointed inside
      exact (first.new ref between there outside).of_kept constraints dispatch
    · exact second.new ref bd pointed (Nat.not_lt.mp inside)

theorem of_set {old : BundleDescriptor} (pointed : before.descriptors[ref]? = some old)
    (changed : after.descriptors = before.descriptors.set ref bd)
    (constraints : bd.retentionConstraints = old.retentionConstraints)
    (dispatch : bd.dispatch = old.dispatch)
    (alive : bd.deleted = false → old.deleted = false) : Quiet before after := by
  obtain ⟨inside, -⟩ := List.getElem?_eq_some_iff.mp pointed
  refine ⟨by simp [changed], ?_, ?_⟩
  · intro other found there _
    rw [changed] at there
    by_cases same : ref = other
    · subst same
      rw [getElem?_set_self inside] at there
      cases there
      exact ⟨old, pointed, constraints, dispatch, alive⟩
    · rw [getElem?_set_ne same] at there
      exact ⟨found, there, rfl, rfl, id⟩
  · intro other found there outside
    rw [changed, getElem?_eq_none (by simpa using outside)] at there
    cases there

theorem addKnownHolder (faults : Faults) (ref : Ref) (peers : List EndpointID) :
    Quiet bst (bst.addKnownHolder faults ref peers).2 := by
  unfold BundleStore.addKnownHolder
  split
  · exact of_descriptors rfl
  · rename_i bd pointed
    split
    · exact of_descriptors rfl
    · exact of_set pointed rfl rfl rfl id

theorem setMiscData (faults : Faults) (ref : Ref) (key : String) (value : UInt64) :
    Quiet bst (bst.setMiscData faults ref key value).2 := by
  unfold BundleStore.setMiscData
  split
  · exact of_descriptors rfl
  · rename_i bd pointed
    exact of_set pointed rfl rfl rfl id

theorem delete (bst : BundleStore) (ref : Ref) (markIfConstraint : Bool) :
    Quiet bst (bst.perform ref (.delete markIfConstraint)).2 := by
  unfold BundleStore.perform
  split
  · exact of_descriptors rfl
  · rename_i bd pointed
    obtain ⟨constraints, dispatch, alive⟩ := delete_kept bd markIfConstraint
    exact of_set pointed rfl constraints dispatch alive

theorem garbageCollect (order : RangeOrder Ref) (now : Time) :
    Quiet bst (bst.garbageCollect order now) := by
  apply BundleStore.garbageCollect_induction Quiet
  · exact fun state => of_descriptors rfl
  · exact trans
  · exact delete

theorem deleteBundle (faults : Faults) (position : Nat) :
    Quiet bst (bst.deleteBundle faults position) := by
  unfold BundleStore.deleteBundle
  split
  · exact of_descriptors rfl
  · exact of_descriptors rfl

theorem insertBundle [Cboring] [Crc16] (faults : Faults) (bundle : Bundle) :
    Quiet bst (bst.insertBundle faults bundle).2 := by
  have outcome := bst.insertBundle_cases faults bundle
  generalize bst.insertBundle faults bundle = result at outcome
  cases outcome with
  | failed fault left memory disk => exact of_descriptors memory.descriptors
  | known ref found unsent => exact of_descriptors rfl
  | noted ref bd metadata found pointed live same destined => exact of_set pointed rfl rfl rfl id
  | new left inserted =>
    obtain ⟨previousNode, -, descriptors⟩ := inserted.described
    refine ⟨by simp [descriptors], ?_, ?_⟩
    · intro ref bd pointed inside
      rw [descriptors, getElem?_append_left inside] at pointed
      exact ⟨bd, pointed, rfl, rfl, id⟩
    · intro ref bd pointed outside
      rw [descriptors, getElem?_append_right outside] at pointed
      obtain rfl : BundleDescriptor.new (bst.newMetadata bundle previousNode) = bd :=
        mem_singleton.mp (mem_of_getElem? pointed) |>.symm
      intro _
      change forwardPending ∉ [Constraint.dispatchPending]
      decide

end Quiet

namespace Pipeline

/-- A descriptor is in the hands of one goroutine at most, and the constraints
tell how far that is. -/
structure Exclusive (pipeline : Pipeline) : Prop where
  tokens : pipeline.tokens.Nodup
  known : ∀ ref ∈ pipeline.tokens, ref < pipeline.store.descriptors.length
  orderly : ∀ (ref : Ref) bd, pipeline.store.descriptors[ref]? = some bd → Orderly bd
  marks : ∀ run ∈ pipeline.runs, ∀ bd, pipeline.store.descriptors[run.ref]? = some bd →
    bd.deleted = false → run.stage.Marks bd

section

variable {pipeline : Pipeline} {store : BundleStore} {left : Pipeline} {position : Nat} {ref : Ref}
  {run : ForwardingRun} {next : Option Stage}

theorem ref_mem_tokens {run : ForwardingRun} (member : run ∈ pipeline.runs) :
    run.ref ∈ pipeline.tokens :=
  mem_append_right _ (mem_map_of_mem member)

theorem runs_withRun (there : pipeline.runs[position]? = some run) (next : Option Stage) :
    (pipeline.withRun position run.ref next).runs.Perm
      (next.toList.map (ForwardingRun.mk run.ref) ++ pipeline.runs.eraseIdx position) := by
  cases next with
  | none => exact .refl _
  | some stage => exact set_perm_of_getElem? there _

/-- The descriptor of a run is in no other hands. -/
theorem tokens_of_run (there : pipeline.runs[position]? = some run) : pipeline.tokens.Perm
    (run.ref :: (pipeline.dispatches.flatMap Dispatch.bndls ++
      (pipeline.runs.eraseIdx position).map ForwardingRun.ref)) := by
  have split := (perm_of_getElem? there).map ForwardingRun.ref
  exact (split.append_left _).trans perm_middle

theorem tokens_withRun (there : pipeline.runs[position]? = some run) (next : Option Stage) :
    (pipeline.withRun position run.ref next).tokens.Perm
      (next.toList.map (fun _ => run.ref) ++ (pipeline.dispatches.flatMap Dispatch.bndls ++
        (pipeline.runs.eraseIdx position).map ForwardingRun.ref)) := by
  have dispatches : (pipeline.withRun position run.ref next).dispatches = pipeline.dispatches := by
    cases next <;> rfl
  have runs := (runs_withRun there next).map ForwardingRun.ref
  rw [map_append, map_map] at runs
  unfold tokens
  rw [dispatches]
  exact (runs.append_left _).trans (perm_append_comm_assoc _ _ _)

theorem lt_of_dispatchPending (pending : pipeline.dispatchPending ref = true) :
    ref < pipeline.store.descriptors.length := by
  by_contra outside
  unfold dispatchPending at pending
  rw [getElem?_eq_none (Nat.not_lt.mp outside)] at pending
  cases pending

theorem lt_of_dispatchable (ready : pipeline.dispatchable ref = true) :
    ref < pipeline.store.descriptors.length := by
  by_contra outside
  unfold dispatchable at ready
  rw [getElem?_eq_none (Nat.not_lt.mp outside)] at ready
  cases ready

/-- A bundle that nobody has decided about, and whose constraints show no run,
is in no hands. -/
theorem Undecided.not_mem_tokens (undecided : pipeline.Undecided ref)
    (idle : ∀ run ∈ pipeline.runs, run.ref = ref → run.stage = .spawned) :
    ref ∉ pipeline.tokens := by
  intro member
  rcases mem_append.mp member with listed | running
  · obtain ⟨dispatch, there, held⟩ := mem_flatMap.mp listed
    exact undecided.1 dispatch there held
  · obtain ⟨run, there, rfl⟩ := mem_map.mp running
    exact undecided.2 run there rfl (idle run there rfl)

/-- One dispatch changes what it has found. -/
theorem tokens_set_dispatch {old : Dispatch} (there : pipeline.dispatches[position]? = some old)
    (new : Dispatch) : ∃ others, pipeline.tokens.Perm (old.bndls ++ others) ∧
      (Pipeline.tokens { pipeline with dispatches := pipeline.dispatches.set position new }).Perm
        (new.bndls ++ others) := by
  refine ⟨(pipeline.dispatches.eraseIdx position).flatMap Dispatch.bndls ++
    pipeline.runs.map ForwardingRun.ref, ?_, ?_⟩
  · have before := (perm_of_getElem? there).flatMap_right Dispatch.bndls
    exact (before.append_right _).trans (.of_eq (append_assoc _ _ _))
  · have after := (set_perm_of_getElem? there new).flatMap_right Dispatch.bndls
    exact (after.append_right _).trans (.of_eq (append_assoc _ _ _))

theorem exclusive_start (nodeID : EndpointID) : (start nodeID).Exclusive := by
  refine ⟨nodup_nil, ?_, ?_, ?_⟩
  · intro ref member
    cases member
  · intro ref bd pointed
    cases pointed
  · intro run member
    cases member

namespace Exclusive

variable (exclusive : pipeline.Exclusive)

include exclusive

theorem quiet (quiet : Quiet pipeline.store store) :
    Exclusive { pipeline with store := store } := by
  refine ⟨exclusive.tokens, ?_, ?_, ?_⟩
  · intro ref member
    exact Nat.lt_of_lt_of_le (exclusive.known ref member) quiet.length
  · intro ref bd pointed
    by_cases inside : ref < pipeline.store.descriptors.length
    · obtain ⟨old, found, constraints, dispatch, -⟩ := quiet.kept ref bd pointed inside
      exact (exclusive.orderly ref old found).of_kept constraints dispatch
    · exact quiet.new ref bd pointed (Nat.not_lt.mp inside)
  · intro run member bd pointed alive
    have inside := exclusive.known run.ref (ref_mem_tokens member)
    obtain ⟨old, found, constraints, -, wasAlive⟩ := quiet.kept run.ref bd pointed inside
    have marks := exclusive.marks run member old found (wasAlive alive)
    unfold Stage.Marks at marks ⊢
    rwa [constraints]

/-- The goroutines change, but the runs that have begun do not. -/
theorem regroup (store : left.store = pipeline.store)
    (tokens : left.tokens.Nodup)
    (known : ∀ ref ∈ left.tokens, ref < pipeline.store.descriptors.length)
    (runs : ∀ run ∈ left.runs, run ∈ pipeline.runs ∨ run.stage = .spawned) :
    left.Exclusive := by
  refine ⟨tokens, ?_, ?_, ?_⟩
  · rw [store]
    exact known
  · rw [store]
    exact exclusive.orderly
  · intro run member bd pointed alive
    rw [store] at pointed
    rcases runs run member with before | fresh
    · exact exclusive.marks run before bd pointed alive
    · rw [fresh]
      trivial

section

variable (there : pipeline.runs[position]? = some run)

include there

/-- A run takes a step, which may change its own descriptor. -/
theorem advance (length : pipeline.store.descriptors.length ≤ store.descriptors.length)
    (others : ∀ ref : Ref, ref ≠ run.ref → store.descriptors[ref]? =
    pipeline.store.descriptors[ref]?) (own : ∀ bd, store.descriptors[run.ref]? = some bd →
      Orderly bd ∧ (bd.deleted = false → ∀ stage ∈ next, stage.Marks bd)) :
    Exclusive ({ pipeline with store := store }.withRun position run.ref next) := by
  have storeSame : ({ pipeline with store := store }.withRun position run.ref next).store =
      store := by
    cases next <;> rfl
  have distinct := (tokens_of_run there).nodup_iff.mp exclusive.tokens
  have moved : ({ pipeline with store := store } : Pipeline).runs[position]? = some run := there
  have after : ({ pipeline with store := store }.withRun position run.ref next).tokens.Perm
      (next.toList.map (fun _ => run.ref) ++ (pipeline.dispatches.flatMap Dispatch.bndls ++
        (pipeline.runs.eraseIdx position).map ForwardingRun.ref)) := tokens_withRun moved next
  have listed : ({ pipeline with store := store }.withRun position run.ref next).runs.Perm
      (next.toList.map (ForwardingRun.mk run.ref) ++ pipeline.runs.eraseIdx position) :=
    runs_withRun moved next
  have fewer : (next.toList.map fun _ => run.ref).Sublist [run.ref] := by
    cases next with
    | none => exact nil_sublist _
    | some stage => exact .refl _
  have sub := (fewer.append_right (pipeline.dispatches.flatMap Dispatch.bndls ++
    (pipeline.runs.eraseIdx position).map ForwardingRun.ref))
  refine ⟨?_, ?_, ?_, ?_⟩
  · exact after.nodup_iff.mpr (distinct.sublist sub)
  · intro ref member
    rw [storeSame]
    have before := (tokens_of_run there).mem_iff.mpr (sub.subset (after.mem_iff.mp member))
    exact Nat.lt_of_lt_of_le (exclusive.known ref before) length
  · intro ref bd pointed
    rw [storeSame] at pointed
    by_cases same : ref = run.ref
    · exact (own bd (same ▸ pointed)).1
    · exact exclusive.orderly ref bd ((others ref same).symm.trans pointed)
  · intro other member bd pointed alive
    rw [storeSame] at pointed
    rcases mem_append.mp (listed.mem_iff.mp member) with here | elsewhere
    · obtain ⟨stage, chosen, rfl⟩ := mem_map.mp here
      exact (own bd pointed).2 alive stage (Option.mem_toList.mp chosen)
    · have different : other.ref ≠ run.ref := by
        intro same
        apply (nodup_cons.mp distinct).1
        rw [← same]
        exact mem_append_right _ (mem_map_of_mem elsewhere)
      exact exclusive.marks other (mem_of_mem_eraseIdx elsewhere) bd
        ((others other.ref different).symm.trans pointed) alive

/-- A run takes a step that leaves its descriptor alone. -/
theorem moves (same : ∀ bd, ∀ stage ∈ next, run.stage.Marks bd → stage.Marks bd) :
    (pipeline.withRun position run.ref next).Exclusive := by
  apply exclusive.advance there (Nat.le_refl _) (fun _ _ => rfl)
  intro bd pointed
  refine ⟨exclusive.orderly run.ref bd pointed, ?_⟩
  intro alive stage chosen
  exact same bd stage chosen (exclusive.marks run (mem_of_getElem? there) bd pointed alive)

/-- A run takes a step on its constraints. -/
theorem constrain (operation : Operation)
    (marks : ∀ bd, (bd.deleted = false → run.stage.Marks bd) →
      (bd.perform operation).err = none →
      ∀ stage ∈ next, stage.Marks (bd.perform operation).descriptor) :
    Exclusive (pipeline.constrain position run.ref operation next) := by
  unfold Pipeline.constrain BundleStore.perform
  cases pointed : pipeline.store.descriptors[run.ref]? with
  | none =>
    apply exclusive.advance there (Nat.le_refl _) (fun _ _ => rfl)
    intro bd found
    cases pointed.symm.trans found
  | some bd =>
    obtain ⟨bound, -⟩ := List.getElem?_eq_some_iff.mp pointed
    apply exclusive.advance there
    · simp
    · intro ref different
      exact getElem?_set_ne (Ne.symm different)
    · intro changed found
      obtain rfl : (bd.perform operation).descriptor = changed :=
        Option.some.inj ((getElem?_set_self bound).symm.trans found)
      refine ⟨(exclusive.orderly run.ref bd pointed).perform operation, ?_⟩
      intro _ stage chosen
      obtain ⟨listed, succeeded⟩ := Option.mem_filter_iff.mp chosen
      apply marks bd (exclusive.marks run (mem_of_getElem? there) bd pointed) _ stage listed
      change (Go.check (bd.perform operation).err).toBool = true at succeeded
      cases err : (bd.perform operation).err with
      | none => rfl
      | some cause =>
        rw [err] at succeeded
        cases succeeded

end

theorem idle_of_dispatchPending
    (pending : pipeline.dispatchPending ref = true) (member : run ∈ pipeline.runs)
    (same : run.ref = ref) : run.stage = .spawned ∨ run.stage = .marked := by
  subst same
  unfold dispatchPending at pending
  split at pending
  · cases pending
  · rename_i bd pointed
    unfold hasConstraint at pending
    split at pending
    · cases pending
    · rename_i alive
      have marks := exclusive.marks run member bd pointed (by simpa using alive)
      have listed : Constraint.dispatchPending ∈ bd.retentionConstraints := contains_iff_mem.mp pending
      cases stage : run.stage with
      | spawned => exact .inl rfl
      | marked => exact .inr rfl
      | _ =>
        rw [stage] at marks
        exact absurd listed marks.2

theorem idle_of_dispatchable (ready : pipeline.dispatchable ref = true)
    (member : run ∈ pipeline.runs) (same : run.ref = ref) : run.stage = .spawned := by
  subst same
  unfold dispatchable at ready
  split at ready
  · cases ready
  · rename_i bd pointed
    obtain ⟨dispatch, alive⟩ := Bool.and_eq_true_iff.mp ready
    have marks := exclusive.marks run member bd pointed (by simpa using alive)
    have unmarked := exclusive.orderly run.ref bd pointed dispatch
    cases stage : run.stage with
    | spawned => rfl
    | marked =>
      rw [stage] at marks
      exact absurd marks unmarked
    | _ =>
      rw [stage] at marks
      exact absurd marks.1 unmarked

/-- A decision puts the descriptor into the hands of one goroutine. -/
theorem decide (store : left.store = pipeline.store)
    (tokens : left.tokens.Perm (ref :: pipeline.tokens)) (free : ref ∉ pipeline.tokens)
    (inside : ref < pipeline.store.descriptors.length)
    (runs : ∀ run ∈ left.runs, run ∈ pipeline.runs ∨ run.stage = .spawned) :
    left.Exclusive := by
  apply exclusive.regroup store _ _ runs
  · exact tokens.nodup_iff.mpr (nodup_cons.mpr ⟨free, exclusive.tokens⟩)
  · intro other member
    rcases mem_cons.mp (tokens.mem_iff.mp member) with rfl | before
    · exact inside
    · exact exclusive.known other before

theorem atMostOneRun : pipeline.AtMostOneRun := by
  intro ref
  have distinct : (pipeline.runs.map ForwardingRun.ref).Nodup :=
    (nodup_append.mp exclusive.tokens).2.1
  calc (pipeline.runs.filter fun run => run.ref == ref && run.stage.inPipeline).length
      ≤ (pipeline.runs.filter fun run => run.ref == ref).length := by
        apply List.Sublist.length_le
        apply monotone_filter_right
        intro run both
        exact (Bool.and_eq_true_iff.mp both).1
    _ = (pipeline.runs.map ForwardingRun.ref).count ref := by
        rw [List.count, countP_map, countP_eq_length_filter]
        rfl
    _ ≤ 1 := nodup_iff_count_le_one.mp distinct ref

variable [Cboring] [Crc16] [Ed25519]

theorem checkReceived
    (guard : pipeline.ReadGuard (.checkReceived position)) :
    (pipeline.step (.checkReceived position)).Exclusive := by
  cases there : pipeline.received[position]? with
  | none =>
    simp only [Pipeline.step, there]
    exact exclusive
  | some ref =>
    simp only [Pipeline.step, there]
    by_cases pending : pipeline.dispatchPending ref = true
    · obtain ⟨undecided, unmarked⟩ := guard ref there pending
      have free : ref ∉ pipeline.tokens := by
        apply undecided.not_mem_tokens
        intro run member same
        rcases exclusive.idle_of_dispatchPending pending member same with spawned | marked
        · exact spawned
        · exact absurd marked (unmarked run member same)
      rw [if_pos pending]
      refine exclusive.decide rfl ?_ free (lt_of_dispatchPending pending) mem_append_spawned
      simp only [Pipeline.tokens, map_append, map_cons, map_nil]
      rw [← append_assoc]
      exact perm_append_singleton _ _
    · rw [if_neg pending, append_nil]
      exact exclusive.regroup rfl exclusive.tokens exclusive.known fun run => .inl

theorem checkDispatch
    (guard : pipeline.ReadGuard (.checkDispatch position)) :
    (pipeline.step (.checkDispatch position)).Exclusive := by
  simp only [Pipeline.step]
  split
  · rename_i ref unchecked bndls there
    obtain ⟨others, before, after⟩ := tokens_set_dispatch there
      ⟨unchecked, bndls ++ if pipeline.dispatchable ref then [ref] else []⟩
    by_cases ready : pipeline.dispatchable ref = true
    · have free : ref ∉ pipeline.tokens := by
        apply (guard ref unchecked bndls there ready).not_mem_tokens
        intro run member same
        exact exclusive.idle_of_dispatchable ready member same
      refine exclusive.decide rfl ?_ free (lt_of_dispatchable ready) fun run => .inl
      apply after.trans
      rw [if_pos ready, append_assoc]
      exact perm_middle.trans (before.symm.cons ref)
    · have same := after.trans (.of_eq (by rw [if_neg ready, append_nil])) |>.trans before.symm
      refine exclusive.regroup rfl (same.nodup_iff.mpr exclusive.tokens) ?_ fun run => .inl
      intro other member
      exact exclusive.known other (same.mem_iff.mp member)
  · exact exclusive

theorem spawn : (pipeline.step (.spawn position)).Exclusive := by
  simp only [Pipeline.step]
  split
  · rename_i ref bndls there
    obtain ⟨others, before, after⟩ := tokens_set_dispatch there ⟨[], bndls⟩
    have same : (Pipeline.tokens { pipeline with
        dispatches := pipeline.dispatches.set position ⟨[], bndls⟩
        runs := pipeline.runs ++ [⟨ref, .spawned⟩] }).Perm pipeline.tokens := by
      refine .trans ?_ (.trans (after.cons ref) before.symm)
      simp only [Pipeline.tokens, map_append, map_cons, map_nil]
      rw [← append_assoc]
      exact perm_append_singleton _ _
    refine exclusive.regroup rfl (same.nodup_iff.mpr exclusive.tokens) ?_ mem_append_spawned
    intro other member
    exact exclusive.known other (same.mem_iff.mp member)
  · exact exclusive

theorem addForwardPending (position : Nat) :
    (pipeline.step (.addForwardPending position)).Exclusive := by
  simp only [Pipeline.step]
  split
  · rename_i ref there
    apply exclusive.constrain there
    rintro bd - added stage ⟨⟩
    exact marked_of_addConstraint added
  · exact exclusive

theorem removeDispatchPending (position : Nat) :
    (pipeline.step (.removeDispatchPending position)).Exclusive := by
  simp only [Pipeline.step]
  split
  · rename_i ref there
    apply exclusive.constrain there
    rintro bd marked removed stage ⟨⟩
    exact released_of_removeConstraint removed marked
  · exact exclusive

theorem selectPeers (position : Nat) (forwardToPeers : List EndpointID) (bundle : Option Bundle)
    (now : Time) : (pipeline.step (.selectPeers position forwardToPeers bundle now)).Exclusive := by
  simp only [Pipeline.step]
  split
  · rename_i ref there
    split
    · exact exclusive.moves there (by rintro bd stage ⟨⟩ marks; exact marks)
    split
    · exact exclusive.moves there (by rintro bd stage ⟨⟩ marks; exact marks)
    · exact exclusive.moves there (by rintro bd stage ⟨⟩)
  · exact exclusive

theorem forwardToPeer (position : Nat) (peer : EndpointID) (sent : Bool) (faults : Faults) :
    (pipeline.step (.forwardToPeer position peer sent faults)).Exclusive := by
  simp only [Pipeline.step]
  split
  · rename_i ref peers there
    split
    · have quiet : Quiet pipeline.store (if sent then
          (pipeline.store.addKnownHolder faults ref [peer]).2 else pipeline.store) := by
        split
        · exact .addKnownHolder faults ref [peer]
        · exact .of_descriptors rfl
      exact (exclusive.quiet quiet).moves there (by rintro bd stage ⟨⟩ marks; exact marks)
    · exact exclusive
  · exact exclusive

theorem removeForwardPending (position : Nat) :
    (pipeline.step (.removeForwardPending position)).Exclusive := by
  simp only [Pipeline.step]
  split
  · rename_i ref there
    apply exclusive.constrain there
    rintro bd - - stage ⟨⟩
  · exact exclusive

theorem resetConstraints (position : Nat) :
    (pipeline.step (.resetConstraints position)).Exclusive := by
  simp only [Pipeline.step]
  split
  · rename_i ref there
    apply exclusive.constrain there
    rintro bd - - stage ⟨⟩
  · exact exclusive

theorem beginDispatch (order : RangeOrder Ref) :
    (pipeline.step (.beginDispatch order)).Exclusive := by
  have same : (pipeline.step (.beginDispatch order)).tokens = pipeline.tokens := by
    simp [Pipeline.step, Pipeline.tokens]
  refine exclusive.regroup rfl (same ▸ exclusive.tokens) ?_ fun run => .inl
  rw [same]
  exact exclusive.known

theorem receive (bundle : Bundle) (faults : Faults) :
    (pipeline.step (.receive bundle faults)).Exclusive := by
  have quiet := exclusive.quiet (.insertBundle faults bundle)
  exact ⟨quiet.tokens, quiet.known, quiet.orderly, quiet.marks⟩

theorem step {event : Event} (guard : pipeline.ReadGuard event) :
    (pipeline.step event).Exclusive := by
  cases event with
  | receive bundle faults => exact exclusive.receive bundle faults
  | checkReceived position => exact exclusive.checkReceived guard
  | beginDispatch order => exact exclusive.beginDispatch order
  | checkDispatch position => exact exclusive.checkDispatch guard
  | spawn position => exact exclusive.spawn
  | addForwardPending position => exact exclusive.addForwardPending position
  | removeDispatchPending position => exact exclusive.removeDispatchPending position
  | selectPeers position forwardToPeers bundle now =>
    exact exclusive.selectPeers position forwardToPeers bundle now
  | forwardToPeer position peer sent faults => exact exclusive.forwardToPeer position peer sent faults
  | removeForwardPending position => exact exclusive.removeForwardPending position
  | resetConstraints position => exact exclusive.resetConstraints position
  | setMiscData ref key value faults => exact exclusive.quiet (.setMiscData faults ref key value)
  | garbageCollect order now => exact exclusive.quiet (.garbageCollect order now)
  | deleteBundle position faults => exact exclusive.quiet (.deleteBundle faults position)

end Exclusive

end

/-- If every decision to forward a bundle is made after the earlier ones have
set their marks, no two runs of a bundle are in the pipeline at once. -/
theorem atMostOneRun_of_guarded [Cboring] [Crc16] [Ed25519] {nodeID : EndpointID}
    {events : List Event} (guarded : Guarded Pipeline.step ReadGuard (start nodeID) events) :
    (run Pipeline.step (start nodeID) events).AtMostOneRun := by
  apply Exclusive.atMostOneRun
  apply run_invariant Exclusive (exclusive_start nodeID) _ guarded
  intro pipeline event exclusive guard
  exact exclusive.step guard

end Pipeline

end

open Pipeline

open scoped Samples

/-- A reception forwards its bundle, and a dispatch comes after the mark. -/
def receptionThenDispatch : List Event :=
  [.receive localBundle .none, .checkReceived 0, .addForwardPending 0, .beginDispatch .asStored,
    .checkDispatch 0]

theorem receptionThenDispatch_atMostOneRun :
    (run step (start (nodeEndpoint "broker")) receptionThenDispatch).AtMostOneRun := by
  apply atMostOneRun_of_guarded
  simp only [receptionThenDispatch, guarded_cons, guarded_nil]
  refine ⟨trivial, ?_, trivial, trivial, ?_, trivial⟩
  · intro ref _ _
    refine ⟨⟨?_, ?_⟩, ?_⟩
    · intro dispatch member
      cases member
    · intro other member
      cases member
    · intro other member
      cases member
  · intro ref unchecked bndls there ready
    cases there
    cases ready

/-- The dispatch looks at the bundle before the run of the reception has marked
it. -/
def dispatchBeforeMark : List Event :=
  [.receive localBundle .none, .checkReceived 0, .beginDispatch .asStored,
    .checkDispatch 0, .spawn 0, .addForwardPending 0, .addForwardPending 1]

theorem dispatchBeforeMark_not_atMostOneRun :
    ¬(run step (start (nodeEndpoint "broker")) dispatchBeforeMark).AtMostOneRun := by
  intro once
  exact absurd (once 0) (by decide +kernel)

end RecDtn.Processing
