import RecDtn.Rec.Scheduling
import RecDtn.Rec.Tasks

/-! Whether the worker of a broker notices that there is something to do. -/

namespace RecDtn.Rec

open Python Lang List

section

variable [Unicode]

/-- The worker has started or is on its way back to waiting. What happens now
goes unnoticed. -/
def WorkerTask.Busy : WorkerTask → Prop
  | entering => True
  | sending _ _ _ => True
  | _ => False

namespace Broker

/-- Work is queued, and there is a node for it. -/
def Backlog (broker : Broker) : Prop :=
  broker.known NodeType.executor ≠ [] ∧ broker.queuedJobs ≠ [] ∨
    broker.known NodeType.datastore ≠ [] ∧ broker.queuedNdata ≠ []

instance (broker : Broker) : Decidable broker.Backlog := inferInstanceAs (Decidable (_ ∨ _))

end Broker

namespace Tasks

/-- When everything is at rest, no work is left that could be done. -/
def NoLostWakeup (tasks : Tasks) : Prop :=
  tasks.handler = none → tasks.worker = .waiting → ¬tasks.broker.Backlog

/-- A notification that is needed finds the worker waiting, or before it looks
into the queues. -/
def NotifyGuard (tasks : Tasks) : TaskEvent → Prop
  | .handle _ => ∀ bundle, tasks.handler = some (.notifying bundle) → tasks.broker.Backlog →
      ¬tasks.worker.Busy
  | _ => True

end Tasks

namespace Broker

variable {broker other : Broker} {bundle : BundleData}

theorem backlog_congr (jobs : other.queuedJobs = broker.queuedJobs)
    (ndata : other.queuedNdata = broker.queuedNdata)
    (executors : other.known NodeType.executor = broker.known NodeType.executor)
    (datastores : other.known NodeType.datastore = broker.known NodeType.datastore) :
    other.Backlog ↔ broker.Backlog := by
  rw [Backlog, Backlog, jobs, ndata, executors, datastores]

theorem known_discover {nodeType : NodeType} {eid : Eid} {nodes : List Eid} (other : NodeType)
    (different : other ≠ nodeType) :
    (broker.discover nodeType eid nodes).known other = broker.known other := by
  simp [known, discover, different]

/-- Without a notification, there are no new nodes to give work to. -/
theorem backlog_handleDiscovery (silent : ¬broker.Notifies bundle) :
    (broker.handleDiscovery bundle).broker.Backlog ↔ broker.Backlog := by
  unfold handleDiscovery
  split
  · split
    · split
      · exact backlog_congr rfl rfl (known_discover _ (by decide)) (known_discover _ (by decide))
      · rfl
    · rfl
  split
  · rename_i requests
    split
    · rfl
    · rename_i typed
      split
      · rename_i nodes found
        exact absurd ⟨requests, typed, by rw [found]; rfl⟩ silent
      · rfl
  · rfl

theorem backlog_handleJobResult [JobCodec] :
    (broker.handleJobResult bundle).broker.Backlog ↔ broker.Backlog := by
  unfold handleJobResult
  split
  · rfl
  · split <;> rfl

theorem backlog_queueJob (none : broker.known NodeType.executor = []) (job : Job) :
    Backlog { broker with queuedJobs := broker.queuedJobs ++ [job] } ↔ broker.Backlog := by
  have same : ∀ nodeType, Broker.known { broker with queuedJobs := broker.queuedJobs ++ [job] }
      nodeType = broker.known nodeType := fun _ => rfl
  simp [Backlog, same, none]

theorem backlog_queueNdata (none : broker.known NodeType.datastore = []) (bundle : BundleData) :
    Backlog { broker with queuedNdata := broker.queuedNdata ++ [bundle] } ↔ broker.Backlog := by
  have same : ∀ nodeType, Broker.known
      { broker with queuedNdata := broker.queuedNdata ++ [bundle] } nodeType =
      broker.known nodeType := fun _ => rfl
  simp [Backlog, same, none]

end Broker

namespace Tasks

theorem not_backlog_takeOut (order : SetOrder Eid) (tasks : Tasks) :
    ¬(tasks.takeOut order).broker.Backlog := by
  rintro (⟨known, left⟩ | ⟨known, left⟩)
  · exact left (if_neg known)
  · exact left (if_neg known)

/-- Work that could be done is noticed: the notification is about to come, or
the worker has it, unless the worker has ended. A handler that queues something
has seen that there is no node for it. -/
structure Attentive (tasks : Tasks) : Prop where
  noticed : tasks.broker.Backlog → (∃ bundle, tasks.handler = some (.notifying bundle)) ∨
    tasks.worker = .notified ∨ tasks.worker = .stopped
  jobs : ∀ job, tasks.handler = some (.queuingJob job) → tasks.broker.known NodeType.executor = []
  ndata : ∀ bundle, tasks.handler = some (.queuingNdata bundle) →
    tasks.broker.known NodeType.datastore = []

theorem Attentive.noLostWakeup {tasks : Tasks} (attentive : tasks.Attentive) :
    tasks.NoLostWakeup := by
  intro idle waiting backlog
  rcases attentive.noticed backlog with ⟨bundle, notifying⟩ | notified | stopped
  · cases idle.symm.trans notifying
  · cases waiting.symm.trans notified
  · cases waiting.symm.trans stopped

variable {tasks : Tasks}

theorem attentive_new (nodeId : Eid) : (new nodeId).Attentive := by
  refine ⟨?_, ?_, ?_⟩
  · rintro (⟨-, waiting⟩ | ⟨-, waiting⟩)
    · exact absurd rfl waiting
    · exact absurd rfl waiting
  · intro job handler
    cases handler
  · intro bundle handler
    cases handler

/-- What the handler does, as long as nobody is notified: it leaves the worker
alone and makes no backlog. -/
theorem Attentive.quiet {after : Tasks} (attentive : tasks.Attentive)
    (silent : ∀ bundle, tasks.handler ≠ some (.notifying bundle))
    (worker : after.worker = tasks.worker) (backlog : after.broker.Backlog → tasks.broker.Backlog)
    (jobs : ∀ job, after.handler = some (.queuingJob job) →
      after.broker.known NodeType.executor = [])
    (ndata : ∀ bundle, after.handler = some (.queuingNdata bundle) →
      after.broker.known NodeType.datastore = []) : after.Attentive := by
  refine ⟨?_, jobs, ndata⟩
  intro left
  rcases attentive.noticed (backlog left) with ⟨bundle, notifying⟩ | heard
  · exact absurd notifying (silent bundle)
  · rw [worker]
    exact .inr heard

section

theorem Attentive.send (attentive : tasks.Attentive)
    (silent : ∀ bundle, tasks.handler ≠ some (.notifying bundle)) (result : Py BundleData) :
    (tasks.send result).Attentive := by
  cases result with
  | error err | ok bundle =>
    exact attentive.quiet silent rfl id (by simp [Tasks.send]) (by simp [Tasks.send])

theorem attentive_notify (heeded : tasks.broker.Backlog → ¬tasks.worker.Busy) :
    Attentive { tasks with handler := none, worker := tasks.worker.notify } := by
  refine ⟨?_, by simp, by simp⟩
  intro backlog
  have heard := heeded backlog
  refine .inr ?_
  cases state : tasks.worker with
  | waiting => exact .inl rfl
  | notified => exact .inl rfl
  | stopped => exact .inr rfl
  | entering | sending jobs ndata datastores =>
    rw [state] at heard
    exact absurd trivial heard

variable [JobCodec] {select : Selection} {order : SetOrder Eid}

theorem Attentive.receive (attentive : tasks.Attentive) (bundle : BundleData) :
    (tasks.receive bundle).Attentive := by
  unfold Tasks.receive
  split
  · exact attentive
  · rename_i idle
    have silent : ∀ other, tasks.handler ≠ some (.notifying other) := by simp [idle]
    split
    · split
      · exact attentive
      · exact attentive.quiet silent rfl id (by simp) (by simp)
    split
    · exact attentive.quiet silent rfl Broker.backlog_handleJobResult.mp (by simp [idle]) (by simp [idle])
    split
    · exact attentive.quiet silent rfl id (by simp [idle]) (by simp [idle])
    split
    · exact attentive.quiet silent rfl id (by simp) (by simp)
    split
    · exact attentive.quiet silent rfl id (by simp) (by simp)
    · exact attentive

section

variable (attentive : tasks.Attentive)

include attentive

theorem Attentive.handle (guard : tasks.NotifyGuard (.handle order)) :
    (tasks.handle select order).Attentive := by
  unfold Tasks.handle
  cases state : tasks.handler with
  | none => exact attentive
  | some task =>
    have silent : (∀ bundle, task ≠ .notifying bundle) → ∀ bundle, tasks.handler ≠ some (.notifying bundle) := by
      intro other bundle same
      exact other bundle (Option.some.inj (state.symm.trans same))
    cases task with
    | submitting job =>
      have quiet := silent (by simp)
      simp only
      split
      · rename_i none
        exact attentive.quiet quiet rfl id (fun _ _ => none) (by simp)
      · exact attentive.send quiet _
    | queuingJob job =>
      exact attentive.quiet (silent (by simp)) rfl
        (Broker.backlog_queueJob (attentive.jobs job state) job).mp (by simp) (by simp)
    | putting bundle =>
      have quiet := silent (by simp)
      simp only
      split
      · rename_i none
        exact attentive.quiet quiet rfl id (by simp) (fun _ _ => none)
      · exact attentive.send quiet _
    | queuingNdata bundle =>
      exact attentive.quiet (silent (by simp)) rfl
        (Broker.backlog_queueNdata (attentive.ndata bundle state) bundle).mp (by simp) (by simp)
    | discovering bundle =>
      simp only
      by_cases notifies : tasks.broker.Notifies bundle
      · rw [if_pos notifies]
        exact ⟨fun _ => .inl ⟨bundle, rfl⟩, by simp, by simp⟩
      · rw [if_neg notifies]
        exact attentive.quiet (silent (by simp)) rfl (Broker.backlog_handleDiscovery notifies).mp
          (by simp) (by simp)
    | notifying bundle => exact attentive_notify (guard bundle state)
    | sending => exact attentive.quiet (silent (by simp)) rfl id (by simp) (by simp)

omit [JobCodec] in
/-- A busy worker has nothing to notice. -/
theorem Attentive.moves {next : WorkerTask} {sent : List BundleData} (busy : tasks.worker.Busy) :
    Attentive { tasks with worker := next, sent } := by
  refine ⟨?_, attentive.jobs, attentive.ndata⟩
  intro backlog
  rcases attentive.noticed backlog with notifying | heard | ended
  · exact .inl notifying
  · rw [heard] at busy
    exact busy.elim
  · rw [ended] at busy
    exact busy.elim

omit [JobCodec] in
theorem Attentive.dispatch (busy : tasks.worker.Busy) (next : WorkerTask) (result : Py BundleData) :
    (tasks.dispatch next result).Attentive := by
  cases result with
  | error err => exact attentive.moves busy
  | ok bundle => exact attentive.moves busy

theorem Attentive.work : (tasks.work select order).Attentive := by
  unfold Tasks.work
  cases state : tasks.worker with
  | entering => exact attentive.moves (by rw [state]; trivial)
  | waiting => exact attentive
  | notified =>
    simp only
    split
    · exact attentive
    · exact ⟨fun backlog => absurd backlog (not_backlog_takeOut order tasks), attentive.jobs, attentive.ndata⟩
  | sending jobs ndata datastores =>
    have busy : tasks.worker.Busy := by
      rw [state]
      trivial
    cases jobs with
    | cons job jobs => exact attentive.dispatch busy _ _
    | nil =>
      cases ndata with
      | cons bundle ndata => exact attentive.dispatch busy _ _
      | nil => exact attentive.moves busy
  | stopped => exact attentive

theorem Attentive.step {event : TaskEvent} (guard : tasks.NotifyGuard event) :
    (tasks.step select event).Attentive := by
  cases event with
  | receive bundle => exact attentive.receive bundle
  | handle order => exact attentive.handle guard
  | work order => exact attentive.work

end

/-- If every notification that is needed finds a worker to wake up, none is
lost. -/
theorem noLostWakeup_of_guarded (select : Selection) (nodeId : Eid) {events : List TaskEvent}
    (guarded : Guarded (step select) NotifyGuard (new nodeId) events) :
    (run (step select) (new nodeId) events).NoLostWakeup := by
  apply Attentive.noLostWakeup
  apply run_invariant Attentive (attentive_new nodeId) _ guarded
  intro tasks event attentive guard
  exact attentive.step guard

/-- On its own, the worker goes back to waiting and leaves work behind, or ends
by an exception. -/
def Forfeits (select : Selection) (order : SetOrder Eid) (tasks : Tasks) : Prop :=
  ∃ after, tasks.Leads select order after ∧ (¬after.NoLostWakeup ∨ after.worker = .stopped)

theorem Forfeits.earlier {after : Tasks} (forfeits : after.Forfeits select order)
    (leads : tasks.Leads select order after) : tasks.Forfeits select order := by
  obtain ⟨last, later, lost⟩ := forfeits
  exact ⟨last, leads.trans later, lost⟩

theorem forfeits_of_stopped (stopped : tasks.worker = .stopped) : tasks.Forfeits select order :=
  ⟨tasks, .refl, .inr stopped⟩

variable {broker : Broker} {sent : List BundleData}

theorem forfeits_of_entering (backlog : broker.Backlog) :
    Forfeits select order ⟨broker, none, .entering, sent⟩ := by
  refine ⟨⟨broker, none, .waiting, sent⟩, Leads.earlier .refl, .inl ?_⟩
  intro noticed
  exact noticed rfl rfl backlog

theorem forfeits_of_sending (backlog : broker.Backlog) (jobs : List Job) (ndata : List BundleData)
    (datastores : List Eid) :
    Forfeits select order ⟨broker, none, .sending jobs ndata datastores, sent⟩ := by
  refine Forfeits.earlier ?_ (leads_jobs broker jobs ndata datastores sent)
  unfold sentEach
  split
  · refine Forfeits.earlier ?_ (leads_ndata broker ndata datastores _)
    unfold sentEach
    split
    · exact forfeits_of_entering backlog
    · exact forfeits_of_stopped rfl
  · exact forfeits_of_stopped rfl

/-- A notification that is needed and finds the worker busy is lost. -/
theorem forfeits_of_unguarded (unguarded : ¬tasks.NotifyGuard (.handle order)) :
    (tasks.step select (.handle order)).Forfeits select order := by
  have missed : ∃ bundle, tasks.handler = some (.notifying bundle) ∧ tasks.broker.Backlog ∧
      tasks.worker.Busy := by
    by_contra none
    apply unguarded
    intro bundle notifying backlog busy
    exact none ⟨bundle, notifying, backlog, busy⟩
  obtain ⟨bundle, notifying, backlog, busy⟩ := missed
  have after : tasks.step select (.handle order) =
      { tasks with handler := none, worker := tasks.worker.notify } := by
    rw [Tasks.step, Tasks.handle, notifying]
  rw [after]
  cases state : tasks.worker with
  | entering => exact forfeits_of_entering backlog
  | sending jobs ndata datastores => exact forfeits_of_sending backlog jobs ndata datastores
  | waiting | notified | stopped =>
    rw [state] at busy
    exact busy.elim

end

end Tasks

end

open scoped Samples

attribute [local instance] Sha256.standard sampleCodec

def requestingStore : Eid := ⟨str "dtn://store/", str "dtn://store/", rfl⟩

def datastoreRequest : BundleData where
  type := BundleType.brokerRequest
  source := requestingStore
  destination := sampleBroker
  nodeType := NodeType.datastore
  valid := rfl

def samplePut : BundleData where
  type := BundleType.ndataPut
  source := sampleClient
  destination := sampleBroker
  payload := [7]
  namedData := str "data"
  valid := rfl

/-- A bundle whose handler is not interrupted. -/
def handled (bundle : BundleData) : List TaskEvent :=
  [.receive bundle, .handle .asStored, .handle .asStored]

/-- The worker waits when the executor makes itself known, and sends the job. -/
def requestWhileWaiting : List TaskEvent :=
  .work .asStored :: handled jobBundle ++ handled executorRequest ++
    List.replicate 4 (.work .asStored)

theorem requestWhileWaiting_noLostWakeup :
    (run (Tasks.step hrwSelectReplicas) (.new sampleBroker) requestWhileWaiting).worker = .waiting ∧
      (run (Tasks.step hrwSelectReplicas) (.new sampleBroker) requestWhileWaiting).NoLostWakeup := by
  refine ⟨rfl, Tasks.noLostWakeup_of_guarded hrwSelectReplicas sampleBroker ?_⟩
  simp only [requestWhileWaiting, handled, replicate_succ, replicate_zero, cons_append,
    nil_append, guarded_cons, guarded_nil]
  refine ⟨trivial, trivial, ?_, ?_, trivial, ?_, ?_, trivial, trivial, trivial, trivial, trivial⟩
  · intro bundle notifying
    cases notifying
  · intro bundle notifying
    cases notifying
  · intro bundle notifying
    cases notifying
  · intro bundle notifying backlog busy
    exact busy

/-- The worker is still sending a job when a datastore makes itself known. -/
def requestWhileSending : List TaskEvent :=
  .work .asStored :: handled samplePut ++ handled jobBundle ++ handled executorRequest ++
    List.replicate 2 (.work .asStored) ++ handled datastoreRequest ++
      List.replicate 2 (.work .asStored)

theorem requestWhileSending_lostWakeup :
    ¬(run (Tasks.step hrwSelectReplicas) (.new sampleBroker) requestWhileSending).NoLostWakeup := by
  intro none
  exact none rfl rfl (by decide +kernel)

theorem requestWhileSending_forfeits :
    Tasks.Forfeits hrwSelectReplicas .asStored
      (run (Tasks.step hrwSelectReplicas) (.new sampleBroker) (requestWhileSending.take 15)) := by
  have split : requestWhileSending.take 15 = requestWhileSending.take 14 ++ [.handle .asStored] := rfl
  rw [split, run_append, run_cons, run_nil]
  refine Tasks.forfeits_of_unguarded ?_
  intro guard
  exact guard datastoreRequest rfl (by decide +kernel) trivial

end RecDtn.Rec
