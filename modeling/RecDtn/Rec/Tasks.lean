import RecDtn.Lang.Run
import RecDtn.Rec.Broker

/-! The tasks of a broker at the points where they are suspended. -/

namespace RecDtn.Rec

open Python Lang Broker BundleType List

variable [Unicode]

/-- Where a handler goes on. -/
inductive HandlerTask where
  | submitting (job : Job)
  | queuingJob (job : Job)
  | putting (bundle : BundleData)
  | queuingNdata (bundle : BundleData)
  | discovering (bundle : BundleData)
  /-- It has the writer lock, and wants the one of `_queue_cv`. -/
  | notifying (bundle : BundleData)
  | sending

/-- Where `_queue_worker` goes on. -/
inductive WorkerTask where
  /-- At the start of its loop. -/
  | entering
  /-- In `_queue_cv.wait()`. -/
  | waiting
  /-- Woken up, and without the writer lock. -/
  | notified
  /-- With what it has taken out of the queues and not sent yet. -/
  | sending (jobs : List Job) (ndata : List BundleData) (datastores : List Eid)
  /-- Ended by an exception. -/
  | stopped

namespace WorkerTask

/-- `notify_all` reaches a worker that waits. -/
def notify : WorkerTask → WorkerTask
  | waiting => notified
  | worker => worker

end WorkerTask

/-- A broker with its tasks, and the bundles given to `_send_and_check`. No
handler runs if there is none. -/
structure Tasks where
  broker : Broker
  handler : Option HandlerTask
  worker : WorkerTask
  sent : List BundleData

/-- The receive loop calls a handler, the handler goes on, or the worker does. -/
inductive TaskEvent where
  | receive (bundle : BundleData)
  | handle (order : SetOrder Eid)
  | work (order : SetOrder Eid)

namespace Broker

/-- `_handle_discovery` gets to `notify_all`. -/
def Notifies (broker : Broker) (bundle : BundleData) : Prop :=
  bundle.type = brokerRequest ∧ bundle.nodeType ≠ NodeType.none ∧
    (broker.discoveredNodes.get? bundle.nodeType).isSome

instance (broker : Broker) (bundle : BundleData) : Decidable (broker.Notifies bundle) :=
  inferInstanceAs (Decidable (_ ∧ _))

def dueJobs (broker : Broker) : List Job :=
  if broker.known NodeType.executor = [] then [] else broker.queuedJobs

/-- The queued named data, if there are datastores for them. -/
def dueNdata (broker : Broker) : List BundleData :=
  if broker.known NodeType.datastore = [] then [] else broker.queuedNdata

def drained (broker : Broker) : Broker :=
  { broker with
    queuedJobs := if broker.known NodeType.executor = [] then broker.queuedJobs else []
    queuedNdata := if broker.known NodeType.datastore = [] then broker.queuedNdata else [] }

end Broker

namespace Tasks

/-- A broker that has just been started. -/
def new (nodeId : Eid) : Tasks := ⟨.new nodeId, none, .entering, []⟩

variable [JobCodec] (select : Selection) (order : SetOrder Eid)

/-- A call of `_handle_bundle`, up to the first lock. -/
def receive (tasks : Tasks) (bundle : BundleData) : Tasks :=
  match tasks.handler with
  | some _ => tasks
  | none =>
    if bundle.type = jobSubmit then
      match JobCodec.deserialize bundle.payload with
      | .error _ => tasks
      | .ok job => { tasks with handler := some (.submitting job) }
    else if bundle.type = jobResult then
      { tasks with broker := (tasks.broker.handleJobResult bundle).broker }
    else if bundle.type = jobQuery then
      { tasks with broker := (tasks.broker.handleJobQuery bundle).broker }
    else if bundle.type = ndataPut then { tasks with handler := some (.putting bundle) }
    else if bundle.type.isDiscovery = true then { tasks with handler := some (.discovering bundle) }
    else tasks

def send (tasks : Tasks) : Py BundleData → Tasks
  | .error _ => { tasks with handler := none }
  | .ok bundle => { tasks with handler := some .sending, sent := tasks.sent ++ [bundle] }

/-- The handler goes on to its next lock or its end. -/
def handle (tasks : Tasks) : Tasks :=
  match tasks.handler with
  | none => tasks
  | some (.submitting job) =>
    let executors := tasks.broker.known NodeType.executor
    if executors = [] then { tasks with handler := some (.queuingJob job) }
    else tasks.send (tasks.broker.scheduleJob select order executors job)
  | some (.queuingJob job) =>
    { tasks with broker.queuedJobs := tasks.broker.queuedJobs ++ [job], handler := none }
  | some (.putting bundle) =>
    if tasks.broker.known NodeType.datastore = []
      then { tasks with handler := some (.queuingNdata bundle) }
    else tasks.send do forwardNdata bundle (← tasks.broker.putDatastore select order bundle)
  | some (.queuingNdata bundle) =>
    { tasks with broker.queuedNdata := tasks.broker.queuedNdata ++ [bundle], handler := none }
  | some (.discovering bundle) =>
    { tasks with
      broker := (tasks.broker.handleDiscovery bundle).broker
      handler := if tasks.broker.Notifies bundle then some (.notifying bundle) else none }
  | some (.notifying _) => { tasks with handler := none, worker := tasks.worker.notify }
  | some .sending => { tasks with handler := none }

/-- The worker takes out of the queues what there are nodes for. -/
def takeOut (tasks : Tasks) : Tasks :=
  { tasks with
    broker := tasks.broker.drained
    worker := .sending tasks.broker.dueJobs tasks.broker.dueNdata
      (order.visit (tasks.broker.known NodeType.datastore)) }

/-- The worker sends a bundle, or ends. -/
def dispatch (tasks : Tasks) (next : WorkerTask) : Py BundleData → Tasks
  | .error _ => { tasks with worker := .stopped }
  | .ok bundle => { tasks with worker := next, sent := tasks.sent ++ [bundle] }

/-- The worker goes on. Jobs go to the executors of this moment, named data to
the datastores that were known when it took them out. -/
def work (tasks : Tasks) : Tasks :=
  match tasks.worker with
  | .entering => { tasks with worker := .waiting }
  | .waiting => tasks
  | .notified =>
    match tasks.handler with
    | some (.notifying _) => tasks
    | _ => tasks.takeOut order
  | .sending (job :: jobs) ndata datastores =>
    tasks.dispatch (.sending jobs ndata datastores)
      (tasks.broker.scheduleJob select order (tasks.broker.known NodeType.executor) job)
  | .sending [] (bundle :: ndata) datastores =>
    tasks.dispatch (.sending [] ndata datastores) do
      forwardNdata bundle (← pick select .asStored bundle.namedData datastores)
  | .sending [] [] _ => { tasks with worker := .entering }
  | .stopped => tasks

def step (tasks : Tasks) : TaskEvent → Tasks
  | .receive bundle => tasks.receive bundle
  | .handle order => tasks.handle select order
  | .work order => tasks.work select order

variable {select order}

variable {tasks : Tasks} {broker : Broker} {worker : WorkerTask} {sent : List BundleData}
  {bundle : BundleData}

theorem run_submitting {job : Job} (brought : JobCodec.deserialize bundle.payload = .ok job) :
    run (step select) ⟨broker, some (.submitting job), worker, sent⟩ [.handle order,
      .handle order] = ⟨(broker.handleJobSubmit select order bundle).broker, none, worker,
        sent ++ (broker.handleJobSubmit select order bundle).sent⟩ := by
  rw [handleJobSubmit, brought]
  by_cases none : broker.known NodeType.executor = []
  · simp [step, handle, none]
  · cases scheduled : broker.scheduleJob select order (broker.known NodeType.executor) job with
    | error err | ok submission => simp [step, handle, none, scheduled, send]

theorem run_putting :
    run (step select) ⟨broker, some (.putting bundle), worker, sent⟩ [.handle order,
      .handle order] = ⟨(broker.handleNdataPut select order bundle).broker, none, worker,
        sent ++ (broker.handleNdataPut select order bundle).sent⟩ := by
  rw [handleNdataPut]
  by_cases none : broker.known NodeType.datastore = []
  · simp [step, handle, none]
  · cases forwarded : (do forwardNdata bundle (← broker.putDatastore select order bundle)) with
    | error err | ok forward => simp [step, handle, none, forwarded, send]

omit [JobCodec] in
theorem sent_handleDiscovery : (broker.handleDiscovery bundle).sent = [] := by
  unfold handleDiscovery
  split
  · split
    · split <;> rfl
    · rfl
  split
  · split
    · rfl
    · split <;> rfl
  · rfl

theorem run_discovering :
    run (step select) ⟨broker, some (.discovering bundle), worker, sent⟩ [.handle order,
      .handle order] = ⟨(broker.handleDiscovery bundle).broker, none,
        if broker.Notifies bundle then worker.notify else worker, sent⟩ := by
  by_cases notifies : broker.Notifies bundle
  · simp [step, handle, notifies]
  · simp [step, handle, notifies]

/-- A handler that is not interrupted does what `handleBundle` does. -/
theorem run_receive (select : Selection) (order : SetOrder Eid) (broker : Broker)
    (worker : WorkerTask) (sent : List BundleData) (bundle : BundleData) :
    run (step select) ⟨broker, none, worker, sent⟩ [.receive bundle, .handle order,
      .handle order] = ⟨(broker.handleBundle select order bundle).broker, none,
        if broker.Notifies bundle then worker.notify else worker,
        sent ++ (broker.handleBundle select order bundle).sent⟩ := by
  rw [run_cons]
  change run (step select) (receive ⟨broker, none, worker, sent⟩ bundle) _ = _
  have quiet : bundle.type ≠ brokerRequest →
      (if broker.Notifies bundle then worker.notify else worker) = worker := by
    intro other
    exact if_neg fun notifies => other notifies.1
  unfold receive handleBundle
  simp only
  split
  · rename_i submits
    rw [quiet (by rw [submits]; decide)]
    cases brought : JobCodec.deserialize bundle.payload with
    | error err =>
      simp only [handleJobSubmit, brought, append_nil]
      rfl
    | ok job => exact run_submitting brought
  split
  · rename_i result
    rw [quiet (by rw [result]; decide)]
    have silent : (broker.handleJobResult bundle).sent = [] := by
      unfold handleJobResult
      split
      · rfl
      · split <;> rfl
    rw [silent, append_nil]
    rfl
  split
  · rename_i queries
    rw [quiet (by rw [queries]; decide)]
    rw [handleJobQuery, append_nil]
    rfl
  split
  · rename_i puts
    rw [quiet (by rw [puts]; decide)]
    exact run_putting
  split
  · rw [sent_handleDiscovery, append_nil]
    exact run_discovering
  · rename_i other
    have different : bundle.type ≠ brokerRequest := by
      intro requests
      rw [requests] at other
      exact other rfl
    rw [quiet different, append_nil]
    rfl

/-- Some turns of the worker lead from one state to the other. -/
def Leads (select : Selection) (order : SetOrder Eid) (tasks after : Tasks) : Prop :=
  ∃ turns, run (step select) tasks (List.replicate turns (.work order)) = after

theorem Leads.earlier {after : Tasks} (leads : (tasks.work select order).Leads select order after) :
    tasks.Leads select order after := by
  obtain ⟨turns, same⟩ := leads
  refine ⟨turns + 1, ?_⟩
  rw [replicate_succ, run_cons]
  exact same

theorem Leads.refl : tasks.Leads select order tasks := ⟨0, rfl⟩

theorem Leads.trans {middle after : Tasks} (first : tasks.Leads select order middle)
    (second : middle.Leads select order after) : tasks.Leads select order after := by
  obtain ⟨turns, rfl⟩ := first
  obtain ⟨more, rfl⟩ := second
  refine ⟨turns + more, ?_⟩
  rw [replicate_add, run_append]

/-- The state after some bundles have been made and sent, or the first
exception. -/
def sentEach (broker : Broker) (next : WorkerTask) (sent : List BundleData)
    (result : List BundleData × Py Unit) : Tasks :=
  ⟨broker, none, match result.2 with | .ok () => next | .error _ => .stopped, sent ++ result.1⟩

/-- One loop of the worker sends what `sendEach` sends. -/
theorem leads_sendEach {α : Type} (make : α → Py BundleData) (phase : List α → WorkerTask)
    (turn : ∀ item rest sent, work select order ⟨broker, none, phase (item :: rest), sent⟩ =
      dispatch ⟨broker, none, phase (item :: rest), sent⟩ (phase rest) (make item)) (items : List α)
    (sent : List BundleData) : Leads select order ⟨broker, none, phase items, sent⟩
      (sentEach broker (phase []) sent (sendEach make items)) := by
  induction items generalizing sent with
  | nil => exact ⟨0, by simp [sentEach, sendEach]⟩
  | cons item rest ih =>
    apply Leads.earlier
    rw [turn]
    cases made : make item with
    | error err => exact ⟨0, by simp [sentEach, sendEach, made, dispatch]⟩
    | ok bundle =>
      have later := ih (sent ++ [bundle])
      simpa [sentEach, sendEach, made, dispatch] using later

theorem leads_jobs (broker : Broker) (jobs : List Job) (ndata : List BundleData)
    (datastores : List Eid)
    (sent : List BundleData) :
    Leads select order ⟨broker, none, .sending jobs ndata datastores, sent⟩
      (sentEach broker (.sending [] ndata datastores) sent
        (sendEach (broker.scheduleJob select order (broker.known NodeType.executor)) jobs)) :=
  leads_sendEach _ (fun jobs => .sending jobs ndata datastores) (fun _ _ _ => rfl) jobs sent

theorem leads_ndata (broker : Broker) (ndata : List BundleData) (datastores : List Eid)
    (sent : List BundleData) :
    Leads select order ⟨broker, none, .sending [] ndata datastores, sent⟩
      (sentEach broker .entering sent (sendEach (fun bundle => do
        forwardNdata bundle (← pick select .asStored bundle.namedData datastores)) ndata)) := by
  have forwarded : Leads select order ⟨broker, none, .sending [] ndata datastores, sent⟩ _ :=
    leads_sendEach (fun bundle => do
      forwardNdata bundle (← pick select .asStored bundle.namedData datastores))
      (fun ndata => .sending [] ndata datastores) (fun _ _ _ => rfl) ndata sent
  refine forwarded.trans ?_
  unfold sentEach
  split
  · exact Leads.earlier .refl
  · exact .refl

/-- The jobs that a turn of the worker sends, and the exception that ends it. -/
def scheduled (select : Selection) (order : SetOrder Eid) (broker : Broker) :
    List BundleData × Py Unit :=
  sendEach (broker.scheduleJob select order (broker.known NodeType.executor)) broker.dueJobs

/-- The named data that it sends after them. -/
def forwarded (select : Selection) (order : SetOrder Eid) (broker : Broker) :
    List BundleData × Py Unit :=
  sendEach (fun bundle => do
    forwardNdata bundle (← broker.queuedDatastore select order bundle)) broker.dueNdata

theorem queueWorker_of_raised {err : PyError}
    (raised : (scheduled select order broker).2 = .error err) :
    broker.queueWorker select order = ⟨broker.drained, (scheduled select order broker).1,
      .error err⟩ := by
  simp only [queueWorker]
  split
  · rename_i other failed
    obtain rfl : err = other := Except.error.inj (raised.symm.trans failed)
    rfl
  · rename_i finished
    cases raised.symm.trans finished

theorem queueWorker_of_sent (sent : (scheduled select order broker).2 = .ok ()) :
    broker.queueWorker select order = ⟨broker.drained,
      (scheduled select order broker).1 ++ (forwarded select order broker).1,
      (fun _ => []) <$> (forwarded select order broker).2⟩ := by
  simp only [queueWorker]
  split
  · rename_i other failed
    cases sent.symm.trans failed
  · rfl

/-- A worker that is not interrupted does what `queueWorker` does. -/
theorem leads_queueWorker (select : Selection) (order : SetOrder Eid) (broker : Broker)
    (sent : List BundleData) : Leads select order ⟨broker, none, .notified, sent⟩
      ⟨(broker.queueWorker select order).broker, none,
        match (broker.queueWorker select order).outcome with | .ok _ => .entering | .error _ => .stopped,
        sent ++ (broker.queueWorker select order).sent⟩ := by
  let datastores := order.visit (broker.known NodeType.datastore)
  have first : Leads select order (takeOut order ⟨broker, none, .notified, sent⟩)
      (sentEach broker.drained (.sending [] broker.dueNdata datastores) sent (scheduled select order broker)) :=
    leads_jobs broker.drained broker.dueJobs broker.dueNdata datastores sent
  apply Leads.earlier
  apply Leads.trans first
  cases ended : (scheduled select order broker).2 with
  | error err =>
    rw [queueWorker_of_raised ended, sentEach, ended]
    exact .refl
  | ok finished =>
    have second : Leads select order ⟨broker.drained, none,
        .sending [] broker.dueNdata datastores, sent ++ (scheduled select order broker).1⟩
        (sentEach broker.drained .entering (sent ++ (scheduled select order broker).1)
          (forwarded select order broker)) := leads_ndata broker.drained broker.dueNdata datastores _
    rw [queueWorker_of_sent ended, sentEach, ended, ← append_assoc]
    rw [sentEach] at second
    cases last : (forwarded select order broker).2 with
    | error err | ok done =>
      rw [last] at second
      exact second

end Tasks

end RecDtn.Rec
