import RecDtn.Lang.Run
import RecDtn.Rec.Broker

/-! What becomes of the jobs that a broker receives. -/

namespace RecDtn.Rec

open Python Lang BundleType List

section

variable [Unicode] [JobCodec] [Sha256]

/-- A broker with its history: the jobs that it has received, and the job
bundles that it has given to `_send_and_check`, each with the executors known
at that time. An exception in one of its tasks stops it. -/
structure Ledger where
  broker : Broker
  stopped : Bool
  received : List Job
  handed : List (BundleData × List Eid)

inductive BrokerEvent where
  | receive (bundle : BundleData) (order : SetOrder Eid)
  | work (order : SetOrder Eid)

/-- The job that a bundle brings. -/
def submittedJob (bundle : BundleData) : Option Job :=
  if bundle.type = jobSubmit then (JobCodec.deserialize bundle.payload).toOption else none

namespace Ledger

def new (nodeId : Eid) : Ledger := ⟨.new nodeId, false, [], []⟩

def executors (ledger : Ledger) : List Eid := ledger.broker.known NodeType.executor

def record (ledger : Ledger) (acted : Acted) : Ledger :=
  let jobs := acted.sent.filter fun bundle => bundle.type = jobSubmit
  { ledger with
    broker := acted.broker
    handed := ledger.handed ++ jobs.map fun bundle => (bundle, ledger.executors) }

/-- The receive loop survives an exception of a handler, the broker does not
survive one of its worker. -/
def step (ledger : Ledger) (event : BrokerEvent) : Ledger :=
  if ledger.stopped then ledger
  else
    match event with
    | .receive bundle order =>
      { ledger.record (ledger.broker.handleBundle hrwSelectCall order bundle) with
        received := ledger.received ++ (submittedJob bundle).toList }
    | .work order =>
      let acted := ledger.broker.queueWorker hrwSelectCall order
      { ledger.record acted with stopped := acted.outcome.toOption.isNone }

/-- The bundle takes the job to the executor of the highest rank. -/
def Assigned (nodeId : Eid) (job : Job) (entry : BundleData × List Eid) : Prop :=
  ∃ executor ∈ entry.2,
    hrwSelect job.metadata.jobId.text (entry.2.map Eid.text) 1 = [executor.text] ∧
    entry.1.toBundleFields = {
      type := jobSubmit
      source := nodeId
      destination := executor
      payload := JobCodec.serialize job }

/-- Every job received is in the queue, or in one of the bundles. -/
def Conserved (ledger : Ledger) : Prop :=
  ∃ scheduled : List Job, ledger.received.Perm (ledger.broker.queuedJobs ++ scheduled) ∧
    List.Forall₂ (Assigned ledger.broker.nodeId) scheduled ledger.handed

/-- No job comes while an executor is known, and the worker does not find jobs
in the queue together with an executor. -/
def Unscheduled (ledger : Ledger) : BrokerEvent → Prop
  | .receive bundle _ =>
    ledger.stopped = false → (submittedJob bundle).isSome → ledger.executors = []
  | .work _ => ledger.stopped = false → ledger.broker.queuedJobs ≠ [] → ledger.executors = []

end Ledger

omit [Unicode] [JobCodec] in
/-- `hrw_select` has no parameter `k`. -/
theorem hrwSelectCall_eq (key : Str) (nodes : List Str) : hrwSelectCall key nodes =
    raise .typeError "hrw_select() got an unexpected keyword argument 'k'" := rfl

omit [JobCodec] in
theorem pick_hrwSelectCall (order : SetOrder Eid) (key : Str) (nodes : List Eid) :
    pick hrwSelectCall order key nodes =
      raise .typeError "hrw_select() got an unexpected keyword argument 'k'" := by
  rw [pick, hrwSelectCall_eq]
  rfl

namespace Broker

variable (order : SetOrder Eid) (broker : Broker) (bundle : BundleData)

theorem scheduleJob_raises (executors : List Eid) (job : Job) :
    broker.scheduleJob hrwSelectCall order executors job =
      raise .typeError "hrw_select() got an unexpected keyword argument 'k'" := by
  rw [scheduleJob, pick_hrwSelectCall]
  rfl

/-- The task sends nothing and leaves the queue of jobs alone. -/
structure JobsKept (broker : Broker) (acted : Acted) : Prop where
  silent : acted.sent = []
  kept : acted.broker.queuedJobs = broker.queuedJobs

omit [Sha256] in
theorem jobsKept_handleJobResult : broker.JobsKept (broker.handleJobResult bundle) := by
  unfold handleJobResult
  split
  · exact ⟨rfl, rfl⟩
  · split
    · exact ⟨rfl, rfl⟩
    · exact ⟨rfl, rfl⟩

omit [JobCodec] in
theorem jobsKept_handleNdataPut :
    broker.JobsKept (broker.handleNdataPut hrwSelectCall order bundle) := by
  have raised : broker.putDatastore hrwSelectCall order bundle =
      raise .typeError "hrw_select() got an unexpected keyword argument 'k'" := pick_hrwSelectCall ..
  unfold handleNdataPut
  split
  · exact ⟨rfl, rfl⟩
  · rw [raised]
    exact ⟨rfl, rfl⟩

omit [JobCodec] [Sha256] in
theorem jobsKept_handleDiscovery : broker.JobsKept (broker.handleDiscovery bundle) := by
  unfold handleDiscovery
  split
  · split
    · split
      · exact ⟨rfl, rfl⟩
      · exact ⟨rfl, rfl⟩
    · exact ⟨rfl, rfl⟩
  split
  · split
    · exact ⟨rfl, rfl⟩
    split
    · exact ⟨rfl, rfl⟩
    · exact ⟨rfl, rfl⟩
  · exact ⟨rfl, rfl⟩

/-- A job that comes is queued or lost. -/
theorem handleJobSubmit_jobs (submits : bundle.type = jobSubmit) :
    (broker.handleJobSubmit hrwSelectCall order bundle).sent = [] ∧
      (broker.handleJobSubmit hrwSelectCall order bundle).broker.queuedJobs =
        if broker.known NodeType.executor = []
        then broker.queuedJobs ++ (submittedJob bundle).toList else broker.queuedJobs := by
  unfold handleJobSubmit submittedJob
  rw [if_pos submits]
  cases JobCodec.deserialize bundle.payload with
  | error err => simp [Except.toOption]
  | ok job =>
    by_cases none : broker.known NodeType.executor = []
    · simp [none, Except.toOption]
    · rw [if_neg none]
      simp only [if_neg none]
      exact ⟨rfl, rfl⟩

theorem handleBundle_jobs : (broker.handleBundle hrwSelectCall order bundle).sent = [] ∧
      (broker.handleBundle hrwSelectCall order bundle).broker.queuedJobs =
        if broker.known NodeType.executor = []
        then broker.queuedJobs ++ (submittedJob bundle).toList else broker.queuedJobs := by
  unfold handleBundle
  by_cases submits : bundle.type = jobSubmit
  · rw [if_pos submits]
    exact broker.handleJobSubmit_jobs order bundle submits
  · have none : submittedJob bundle = none := if_neg submits
    have kept : ∀ {acted}, broker.JobsKept acted → acted.sent = [] ∧ acted.broker.queuedJobs =
        if broker.known NodeType.executor = [] then broker.queuedJobs ++ (submittedJob bundle).toList
        else broker.queuedJobs := by
      intro acted kept
      rw [none, Option.toList_none, append_nil, ite_self]
      exact ⟨kept.silent, kept.kept⟩
    rw [if_neg submits]
    split
    · exact kept (broker.jobsKept_handleJobResult bundle)
    split
    · exact kept ⟨rfl, rfl⟩
    split
    · exact kept (broker.jobsKept_handleNdataPut order bundle)
    split
    · exact kept (broker.jobsKept_handleDiscovery bundle)
    · exact kept ⟨rfl, rfl⟩

omit [JobCodec] [Sha256] in
theorem sendEach_of_raises {α : Type} {make : α → Py BundleData} {err : PyError}
    (raises : ∀ item, make item = .error err) (items : List α) : (sendEach make items).1 = [] := by
  cases items with
  | nil => rfl
  | cons item rest => simp only [sendEach, raises item]

/-- The jobs that there is an executor for leave the queue, and go nowhere. -/
theorem queueWorker_jobs : (broker.queueWorker hrwSelectCall order).sent = [] ∧
      (broker.queueWorker hrwSelectCall order).broker.queuedJobs =
        if broker.known NodeType.executor = [] then broker.queuedJobs else [] := by
  have scheduled := sendEach_of_raises
    (broker.scheduleJob_raises order (broker.known NodeType.executor))
  have forwarded : ∀ bundles, (sendEach (fun bundle => do
      forwardNdata bundle (← broker.queuedDatastore hrwSelectCall order bundle)) bundles).1 = [] := by
    apply sendEach_of_raises
    intro bundle
    rw [queuedDatastore, pick_hrwSelectCall]
    rfl
  unfold queueWorker
  simp only
  split
  · exact ⟨scheduled _, rfl⟩
  · exact ⟨by rw [scheduled, forwarded, append_nil], rfl⟩

end Broker

namespace Ledger

variable {ledger : Ledger} {event : BrokerEvent}

theorem handed_step (none : ledger.handed = []) : (ledger.step event).handed = [] := by
  unfold step
  split
  · exact none
  · cases event with
    | receive bundle order => simp [record, none, (ledger.broker.handleBundle_jobs order bundle).1]
    | work order => simp [record, none, (ledger.broker.queueWorker_jobs order).1]

theorem conserved_iff_perm (none : ledger.handed = []) :
    ledger.Conserved ↔ ledger.received.Perm ledger.broker.queuedJobs := by
  unfold Conserved
  rw [none]
  constructor
  · rintro ⟨scheduled, balance, assigned⟩
    rw [forall₂_nil_right_iff.mp assigned, append_nil] at balance
    exact balance
  · intro balance
    exact ⟨[], by rwa [append_nil], .nil⟩

section

variable {ledger : Ledger} (running : ledger.stopped = false)
  (balanced : ledger.received.Perm ledger.broker.queuedJobs)

include running balanced

/-- A bundle keeps the balance, unless it brings a job while an executor is known. -/
theorem balanced_receive_iff (bundle : BundleData) (order : SetOrder Eid) :
    (ledger.step (.receive bundle order)).received.Perm
      (ledger.step (.receive bundle order)).broker.queuedJobs ↔
      ledger.Unscheduled (.receive bundle order) := by
  have queue := (ledger.broker.handleBundle_jobs order bundle).2
  have balance : (ledger.step (.receive bundle order)).received.Perm
      (ledger.step (.receive bundle order)).broker.queuedJobs ↔
      (ledger.received ++ (submittedJob bundle).toList).Perm
        (if ledger.executors = [] then ledger.broker.queuedJobs ++ (submittedJob bundle).toList
          else ledger.broker.queuedJobs) := by
    rw [step, running, executors, ← queue]
    rfl
  rw [balance]
  cases submitted : submittedJob bundle with
  | none => simp [Unscheduled, submitted, balanced]
  | some job =>
    by_cases alone : ledger.executors = []
    · simp [Unscheduled, alone, balanced, perm_append_right_iff]
    · refine iff_of_false ?_ fun unscheduled => alone (unscheduled running (by simp [submitted]))
      intro lost
      have longer := lost.length_eq
      rw [if_neg alone, ← balanced.length_eq] at longer
      simp at longer

/-- The worker keeps the balance, unless it finds both jobs and an executor. -/
theorem balanced_work_iff (order : SetOrder Eid) :
    (ledger.step (.work order)).received.Perm (ledger.step (.work order)).broker.queuedJobs ↔
      ledger.Unscheduled (.work order) := by
  have queue := (ledger.broker.queueWorker_jobs order).2
  have balance : (ledger.step (.work order)).received.Perm
      (ledger.step (.work order)).broker.queuedJobs ↔
      ledger.received.Perm (if ledger.executors = [] then ledger.broker.queuedJobs else []) := by
    rw [step, running, executors, ← queue]
    rfl
  rw [balance]
  by_cases alone : ledger.executors = []
  · simp [Unscheduled, alone, balanced]
  · rw [if_neg alone]
    constructor
    · intro lost _ waiting
      exact absurd (balanced.symm.trans lost).eq_nil waiting
    · intro unscheduled
      have idle : ledger.broker.queuedJobs = [] := by
        by_contra waiting
        exact alone (unscheduled running waiting)
      rw [← idle]
      exact balanced

end

/-- A step keeps the balance if it schedules nothing, and only then. -/
theorem conserved_step_iff (none : ledger.handed = []) (conserved : ledger.Conserved) :
    (ledger.step event).Conserved ↔ ledger.Unscheduled event := by
  rw [conserved_iff_perm (handed_step none)]
  rw [conserved_iff_perm none] at conserved
  cases running : ledger.stopped with
  | true =>
    have still : ledger.step event = ledger := if_pos running
    rw [still]
    cases event with
    | receive bundle order => simp [Unscheduled, running, conserved]
    | work order => simp [Unscheduled, running, conserved]
  | false =>
    cases event with
    | receive bundle order => exact balanced_receive_iff running conserved bundle order
    | work order => exact balanced_work_iff running conserved order

theorem conserved_iff_unscheduled (nodeId : Eid) (events : List BrokerEvent) :
    Throughout step Conserved (new nodeId) events ↔
      Guarded step Unscheduled (new nodeId) events := by
  apply throughout_iff_guarded fun ledger => ledger.handed = []
  · intro ledger event none
    exact handed_step none
  · intro ledger event none conserved
    exact conserved_step_iff none conserved
  · rfl
  · exact ⟨[], .refl _, .nil⟩

end Ledger

end

open scoped Samples

attribute [local instance] Sha256.standard

@[reducible] def sampleCodec : JobCodec := .numbered [⟨sampleJobInfo, .empty⟩]

attribute [local instance] sampleCodec

def jobBundle : BundleData where
  type := jobSubmit
  source := sampleClient
  destination := sampleBroker
  payload := [0]
  valid := rfl

/-- The job comes when an executor is known, and is gone. -/
theorem submissionAfterRequest_not_conserved :
    ¬Throughout Ledger.step Ledger.Conserved (Ledger.new sampleBroker)
      [.receive executorRequest .asStored, .receive jobBundle .asStored] := by
  intro throughout
  have conserved := throughout _ [] (append_nil _).symm
  rw [Ledger.conserved_iff_perm rfl] at conserved
  exact absurd conserved.length_eq (by decide)

end RecDtn.Rec
