import RecDtn.Lang.Run
import RecDtn.Rec.Job
import RecDtn.Rec.Node
import RecDtn.Rec.Storage

namespace RecDtn.Rec

open Python Lang BundleType List

section

variable [Unicode] [TinyDb] [Sha1]

structure Executor extends Node where
  storage : Storage
  pendingJobs : List (Eid × JobInfo) := []

namespace Executor

def new (nodeId : Eid) : Executor where
  nodeId
  nodeType := NodeType.executor
  storage := .new

section

variable [JobCodec]

/-- `_handle_job`. -/
def handleJob (executor : Executor) (bundle : BundleData) : Executor × Py Unit :=
  match JobCodec.deserialize bundle.payload with
  | .error err => (executor, .error err)
  | .ok job =>
    ({ executor with
        storage := executor.storage.storeEach job.data.items
        pendingJobs := executor.pendingJobs ++ [(bundle.source, job.metadata)] }, .ok ())

/-- `_handle_data`. -/
def handleData (executor : Executor) (bundle : BundleData) : Executor :=
  if bundle.namedData = [] then executor
  else { executor with storage := executor.storage.storeEach [(bundle.namedData, bundle.payload)] }

def handleBundle : Handler Executor := fun executor bundle =>
  if bundle.type = jobSubmit then
    let (next, outcome) := executor.handleJob bundle
    (next, (fun _ => []) <$> outcome)
  else if bundle.type = ndataGet then (executor.handleData bundle, .ok [])
  else if bundle.type = ndataPut then (executor, .ok [])
  else if bundle.type.isDiscovery = true then
    let (node, replies) := executor.toNode.handleDiscovery bundle
    ({ executor with toNode := node }, replies)
  else (executor, .ok [])

end

/-- `_store_named_results`. -/
def storeNamedResults (executor : Executor) (results : Dict Str (List UInt8)) : Executor :=
  { executor with storage := executor.storage.storeEach results.items }

def jobHasAllInputs (executor : Executor) (job : JobInfo) : Bool :=
  (executor.storage.findMissing job.requiredNamedData).isEmpty

/-- The loop of `_pop_next_runnable_job`. A job that cannot run goes to the end.
The system is looked at anew for every job. -/
def rotate (executor : Executor) (system : Nat → Capabilities) :
    Nat → List (Eid × JobInfo) → Option (Eid × JobInfo) × List (Eid × JobInfo)
  | 0, pending => (none, pending)
  | _, [] => (none, [])
  | turns + 1, first :: rest =>
    if executor.jobHasAllInputs first.2 && (system turns).isCapableOf first.2.capabilities then
      (some first, rest)
    else executor.rotate system turns (rest ++ [first])

def popNextRunnableJob (executor : Executor) (system : Nat → Capabilities) :
    Executor × Option (Eid × JobInfo) :=
  let (popped, pendingJobs) := executor.rotate system executor.pendingJobs.length executor.pendingJobs
  ({ executor with pendingJobs }, popped)

omit [Sha1] in
/-- No job gets lost in the loop, and none appears. -/
theorem rotate_perm (executor : Executor) (system : Nat → Capabilities) (turns : Nat)
    (pending : List (Eid × JobInfo)) :
    ((executor.rotate system turns pending).1.toList ++
      (executor.rotate system turns pending).2).Perm pending := by
  induction turns generalizing pending with
  | zero => exact .refl _
  | succ turns ih =>
    cases pending with
    | nil => exact .refl _
    | cons first rest =>
      rw [rotate]
      split
      · exact .refl _
      · exact (ih (rest ++ [first])).trans perm_append_comm

end Executor

/-- What happens to an executor. The data of a job may also come from its results. -/
inductive ExecutorEvent where
  | receive (bundle : BundleData)
  | storeNamedResults (results : Dict Str (List UInt8))
  | pop (system : Nat → Capabilities)

/-- An executor, and the jobs that have been taken from its queue. -/
structure Docket where
  executor : Executor
  popped : List (Eid × JobInfo) := []

namespace Docket

def new (nodeId : Eid) : Docket := { executor := .new nodeId }

def poppedIds (docket : Docket) : List Uuid := docket.popped.map fun job => job.2.jobId

/-- The jobs that have been taken or still wait. -/
def ids (docket : Docket) : List Uuid :=
  (docket.popped ++ docket.executor.pendingJobs).map fun job => job.2.jobId

variable [JobCodec]

def step (docket : Docket) : ExecutorEvent → Docket
  | .receive bundle => { docket with executor := (docket.executor.handleBundle bundle).1 }
  | .storeNamedResults results =>
    { docket with executor := docket.executor.storeNamedResults results }
  | .pop system =>
    let (executor, popped) := docket.executor.popNextRunnableJob system
    ⟨executor, docket.popped ++ popped.toList⟩

/-- A job that comes neither waits already nor has been taken before. -/
def Unseen (docket : Docket) : ExecutorEvent → Prop
  | .receive bundle => bundle.type = jobSubmit →
    ∀ job, JobCodec.deserialize bundle.payload = .ok job → job.metadata.jobId ∉ docket.ids
  | .storeNamedResults _ => True
  | .pop _ => True

end Docket

section

variable [JobCodec]

inductive Executor.Turn (executor : Executor) (bundle : BundleData) : Executor → Prop where
  | job (job : Job) (submit : bundle.type = jobSubmit)
      (read : JobCodec.deserialize bundle.payload = .ok job) :
      Turn executor bundle { executor with
        storage := executor.storage.storeEach job.data.items
        pendingJobs := executor.pendingJobs ++ [(bundle.source, job.metadata)] }
  | data (get : bundle.type = ndataGet) :
      Turn executor bundle { executor with
        storage := executor.storage.storeEach [(bundle.namedData, bundle.payload)] }
  | other (node : Node) (jobless : bundle.type = jobSubmit →
        ∃ err, JobCodec.deserialize bundle.payload = .error err)
      (dataless : bundle.type ≠ ndataGet) :
      Turn executor bundle { executor with toNode := node }

theorem Executor.turn_handleBundle (executor : Executor) (bundle : BundleData) :
    Turn executor bundle (executor.handleBundle bundle).1 := by
  unfold handleBundle
  by_cases submit : bundle.type = jobSubmit
  · rw [if_pos submit]
    cases read : JobCodec.deserialize (bundle.payload) with
    | ok job =>
      rw [handleJob, read]
      exact .job job submit read
    | error err =>
      rw [handleJob, read]
      exact .other _ (fun _ => ⟨err, read⟩) (by rw [submit]; decide)
  · rw [if_neg submit]
    by_cases get : bundle.type = ndataGet
    · have named := bundle.namedData_ne_nil (by rw [get]; rfl)
      rw [if_pos get, handleData, if_neg named]
      exact .data get
    · rw [if_neg get]
      split
      · exact .other _ (fun type => absurd type submit) get
      · split
        · exact .other _ (fun type => absurd type submit) get
        · exact .other _ (fun type => absurd type submit) get

namespace Docket

omit [Sha1] [JobCodec] in
theorem ids_pop (docket : Docket) (system : Nat → Capabilities) :
    ((docket.popped ++ (docket.executor.popNextRunnableJob system).2.toList) ++
      (docket.executor.popNextRunnableJob system).1.pendingJobs).Perm
      (docket.popped ++ docket.executor.pendingJobs) := by
  rw [append_assoc]
  exact (docket.executor.rotate_perm system _ _).append_left _

theorem nodup_step {docket : Docket} (nodup : docket.ids.Nodup) {event : ExecutorEvent}
    (unseen : docket.Unseen event) : (docket.step event).ids.Nodup := by
  cases event with
  | receive bundle =>
    have turn := docket.executor.turn_handleBundle bundle
    rw [step]
    generalize (docket.executor.handleBundle bundle).1 = next at turn
    cases turn with
    | job job submit read =>
      have new := unseen submit job read
      rw [ids, ← append_assoc, map_append]
      exact nodup.append (nodup_singleton _) (by simpa using new)
    | data => exact nodup
    | other => exact nodup
  | storeNamedResults results => exact nodup
  | pop system => exact ((docket.ids_pop system).map _).nodup_iff.mpr nodup

theorem poppedIds_nodup {nodeId : Eid} {events : List ExecutorEvent}
    (unseen : Guarded step Unseen (new nodeId) events) :
    (run step (new nodeId) events).poppedIds.Nodup := by
  have nodup : (run step (new nodeId) events).ids.Nodup := by
    apply run_invariant (fun docket => docket.ids.Nodup) nodup_nil _ unseen
    intro docket event nodup unseen
    exact nodup_step nodup unseen
  rw [ids, map_append] at nodup
  exact nodup.of_append_left

end Docket

end

end

open scoped Samples

/-- A job that brings its module, and another one that brings a different module
under the same name. -/
def shippedJob : Job := ⟨sampleJobInfo, Dict.empty.set (str "module") [1]⟩
def otherJob : Job := ⟨{ sampleJobInfo with jobId := 2 }, Dict.empty.set (str "module") [2]⟩

@[reducible] def shippedCodec : JobCodec := .numbered [shippedJob, otherJob]

attribute [local instance] shippedCodec

def submission (number : UInt8) : BundleData where
  type := jobSubmit
  source := sampleBroker
  destination := sampleExecutor
  payload := [number]
  valid := rfl

def sampleSystem : Nat → Capabilities := fun _ => ⟨8, 0, 0, 0, by decide, by decide⟩

/-- Two jobs are each taken once. -/
theorem twoJobs_poppedIds_nodup :
    Guarded Docket.step Docket.Unseen (Docket.new sampleExecutor)
      [.receive (submission 0), .receive (submission 1), .pop sampleSystem, .pop sampleSystem] ∧
    (run Docket.step (Docket.new sampleExecutor) [.receive (submission 0), .receive (submission 1),
      .pop sampleSystem, .pop sampleSystem]).poppedIds.Nodup := by
  have unseen : Guarded Docket.step Docket.Unseen (Docket.new sampleExecutor)
      [.receive (submission 0), .receive (submission 1), .pop sampleSystem, .pop sampleSystem] := by
    rw [guarded_cons, guarded_cons, guarded_cons, guarded_cons]
    refine ⟨?_, ?_, trivial, trivial, guarded_nil⟩
    · intro _ job read
      exact not_mem_nil
    · intro _ job read
      cases read
      decide +kernel
  exact ⟨unseen, Docket.poppedIds_nodup unseen⟩

/-- The second copy of a job is taken like the first. -/
theorem redelivery_poppedTwice :
    ¬(run Docket.step (Docket.new sampleExecutor) [.receive (submission 0),
      .receive (submission 0), .pop sampleSystem, .pop sampleSystem]).poppedIds.Nodup := by
  decide +kernel

end RecDtn.Rec
