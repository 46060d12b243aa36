import RecDtn.Rec.Broker
import RecDtn.Rec.JobDict
import RecDtn.Rec.Sandbox
import RecDtn.Rec.StorageFaults

/-! One turn of the scheduler of an executor. -/

namespace RecDtn.Rec

open Python Lang Lang.MessagePack BundleData BundleType List

/-- `shutil.rmtree(path)`. -/
def Disk.rmtree (disk : Disk) (path : Path) : Disk :=
  disk.restrict (filter_sublist (p := fun item => !path.isPrefixOf item.1) (l := disk.items))

theorem Disk.get?_rmtree (disk : Disk) (path : Path) : Dict.get? (disk.rmtree path) path = none := by
  rw [Dict.get?_eq_none, Dict.mem_keys]
  rintro ⟨kind, present⟩
  have outside := (mem_filter.mp present).2
  have inside : path.isPrefixOf path = true := isPrefixOf_iff_prefix.mpr (prefix_refl path)
  rw [inside] at outside
  cases outside

section

variable [Unicode] [TinyDb]

structure Workshop where
  executor : Executor
  rootDirectory : Path
  disk : Disk

/-- What the code does not decide when it runs a job. -/
structure Circumstances where
  /-- The `id` of the job. -/
  number : Nat
  /-- A file error while the environment is prepared, and what is on the disk then. -/
  fileError : Option (PyError × Disk)
  execution : Py Int
  results : Py (Option (List UInt8))
  namedResults : Py (Dict Str (List UInt8))
  /-- What the module and the collecting of its results leave on the disk. -/
  leave : Disk → Disk
  /-- What goes wrong when a result is stored. -/
  storeFault : Str → Option Storage.StoreFault

namespace Workshop

def jobDir (workshop : Workshop) (circumstances : Circumstances) : Path :=
  workshop.rootDirectory ++ [str s!"job-{circumstances.number}"]

/-- The directory of the job is made and filled. -/
def prepare (workshop : Workshop) (job : JobInfo) (circumstances : Circumstances) :
    EStateM.Result PyError Preparation (Path × Option Path × Path) :=
  let jobDir := workshop.jobDir circumstances
  match circumstances.fileError with
  | some (err, disk) => .error err { storage := workshop.executor.storage, disk }
  | none =>
    (do
      Preparation.mkdir jobDir
      Preparation.prepareWasiEnvironment job jobDir : Preparing _)
      { storage := workshop.executor.storage, disk := workshop.disk }

/-- The state that preparing leaves. -/
def after (workshop : Workshop) (state : Preparation) : Workshop :=
  { workshop with executor.storage := state.storage, disk := state.disk }

/-- `_run_job`. What is raised after the job has been prepared is only logged, and
the directory is removed in any case. -/
def runJob (workshop : Workshop) (job : JobInfo) (circumstances : Circumstances) :
    Workshop × Py (Option (List UInt8) × Dict Str (List UInt8)) :=
  match workshop.prepare job circumstances with
  | .error err state => (workshop.after state, .error err)
  | .ok _ state =>
    let collected : Py (Option (List UInt8) × Dict Str (List UInt8)) := do
      let _ ← circumstances.execution
      let results ← circumstances.results
      let namedResults ← circumstances.namedResults
      return (results, namedResults)
    let disk := (circumstances.leave state.disk).rmtree (workshop.jobDir circumstances)
    ({ workshop.after state with disk },
      match collected with
      | .ok results => .ok results
      | .error _ => .ok (none, .empty))

variable [Libraries]

/-- The bundle of `_send_completed_notification_to_broker`. -/
def completedNotification (executor : Executor) (broker : Eid) (job : JobInfo) : Py BundleData :=
  BundleData.new {
    type := jobResult
    source := executor.nodeId
    destination := broker
    payload := JobResult.serialize ⟨job, []⟩ }

/-- The bundle of `_send_results_to_results_receiver`. -/
def resultsBundle (executor : Executor) (job : JobInfo) (results : List UInt8) : Py BundleData :=
  BundleData.new {
    type := jobResult
    source := executor.nodeId
    destination := job.resultsReceiver
    payload := JobResult.serialize ⟨job, results⟩ }

/-- `_send_results`: the bundles that are given to `_send_message`. What that call
raises is only logged. -/
def sendResults (executor : Executor) (broker : Eid) (job : JobInfo)
    (results : Option (List UInt8)) : List BundleData × Py Unit :=
  match completedNotification executor broker job with
  | .error err => ([], .error err)
  | .ok notice =>
    match results.getD [], job.resultsReceiver.isSome with
    | [], _ => ([notice], .ok ())
    | _, false => ([notice], .ok ())
    | results, true =>
      match resultsBundle executor job results with
      | .error err => ([notice], .error err)
      | .ok bundle => ([notice, bundle], .ok ())

def isNotice (broker : Eid) (job : JobInfo) (bundle : BundleData) : Bool :=
  bundle.type = jobResult && bundle.destination = broker &&
    bundle.payload = JobResult.serialize ⟨job, []⟩

section

variable {executor : Executor} {broker : Eid} {job : JobInfo} {notice : BundleData}

theorem completedNotification_returns (named : broker.isSome = true) :
    (∃ notice, completedNotification executor broker job = .ok notice) ↔
      executor.nodeId.isSome = true := by
  constructor
  · rintro ⟨notice, made⟩
    have source := notice.source_isSome
    rwa [new_eq_ok.mp made] at source
  · intro identified
    refine ⟨⟨_, ?_⟩, new_eq_ok.mpr rfl⟩
    have discovery : isDiscovery jobResult = false := rfl
    have query : jobResult ≠ jobQuery := by decide
    have list : jobResult ≠ jobList := by decide
    have data : isNamedData jobResult = false := rfl
    simp [BundleFields.postInit, identified, named, discovery, query, list, data]

theorem isNotice_completedNotification
    (made : completedNotification executor broker job = .ok notice) :
    isNotice broker job notice = true := by
  have fields := new_eq_ok.mp made
  simp [isNotice, fields]

variable [Ormsgpack]

theorem not_isNotice_resultsBundle {results : List UInt8} {bundle : BundleData}
    (given : results ≠ [])
    (made : resultsBundle executor job results = .ok bundle) :
    isNotice broker job bundle = false := by
  have fields := new_eq_ok.mp made
  have different : JobResult.serialize ⟨job, results⟩ ≠ JobResult.serialize ⟨job, []⟩ := by
    intro same
    have read := congrArg Libraries.unpackb same
    rw [JobResult.serialize, JobResult.serialize, Ormsgpack.unpackb_packb,
      Ormsgpack.unpackb_packb] at read
    simp [JobResult.dictify] at read
    exact given read
  simp [isNotice, fields, different]

theorem countP_sendResults (made : completedNotification executor broker job = .ok notice)
    (results : Option (List UInt8)) :
    (sendResults executor broker job results).1.countP (isNotice broker job) = 1 := by
  have told := isNotice_completedNotification made
  have alone : [notice].countP (isNotice broker job) = 1 := by
    rw [countP_singleton, if_pos told]
  unfold sendResults
  rw [made]
  dsimp only
  split
  · exact alone
  · exact alone
  · rename_i given
    split
    · exact alone
    · rename_i bundle sent
      have silent : isNotice broker job bundle = false := not_isNotice_resultsBundle given sent
      rw [countP_cons_of_pos told, countP_singleton, silent]
      rfl

end

variable [Sha1]

/-- `_store_named_results`. A name that is taken is passed over. -/
def storeNamedResults (storage : Storage) (fault : Str → Option Storage.StoreFault) :
    List (Str × List UInt8) → Storage × Py Unit
  | [] => (storage, .ok ())
  | (name, data) :: rest =>
    match storage.attemptStore ⟨name, data, fault name⟩ with
    | (next, .ok _) => storeNamedResults next fault rest
    | (next, .error err) =>
      if err.type = .nameTakenError then storeNamedResults next fault rest else (next, .error err)

/-- `_send_named_results`. -/
def sendNamedResults (executor : Executor) (results : Dict Str (List UInt8)) :
    List BundleData × Py Unit :=
  match executor.broker with
  | none => ([], .ok ())
  | some broker =>
    Broker.sendEach (fun item : Str × List UInt8 => BundleData.new {
      type := ndataPut
      source := executor.nodeId
      destination := broker
      payload := item.2
      namedData := item.1 }) results.items

/-- A turn of `_job_scheduler` with a job that has been taken: the workshop after
it, and the bundles that were given to `_send_message`. -/
def turn (workshop : Workshop) (broker : Eid) (job : JobInfo) (circumstances : Circumstances) :
    Workshop × List BundleData :=
  match workshop.runJob job circumstances with
  | (next, .error _) => (next, [])
  | (next, .ok (results, namedResults)) =>
    match sendResults next.executor broker job results with
    | (sent, .error _) => (next, sent)
    | (sent, .ok _) =>
      match storeNamedResults next.executor.storage circumstances.storeFault namedResults.items with
      | (storage, .error _) => ({ next with executor.storage := storage }, sent)
      | (storage, .ok _) =>
        ({ next with executor.storage := storage }, sent ++ (sendNamedResults next.executor namedResults).1)

/-- The broker is told once, and the directory of the job is gone. -/
structure Reported (workshop : Workshop) (broker : Eid) (job : JobInfo)
    (circumstances : Circumstances) : Prop where
  notice : ((workshop.turn broker job circumstances).2.countP (isNotice broker job)) = 1
  removed : (workshop.turn broker job circumstances).1.disk.get?
    (workshop.jobDir circumstances) = none

/-- The environment of the job can be prepared. -/
def Prepares (workshop : Workshop) (job : JobInfo) (circumstances : Circumstances) : Prop :=
  ∃ paths state, workshop.prepare job circumstances = .ok paths state

variable {executor : Executor} {workshop : Workshop} {broker : Eid} {job : JobInfo}
  {circumstances : Circumstances}

omit [Unicode] [TinyDb] [Libraries] [Sha1] in
theorem mem_sendEach [Unicode] {α : Type} {make : α → Py BundleData} {items : List α}
    {bundle : BundleData}
    (sent : bundle ∈ (Broker.sendEach make items).1) :
    ∃ item ∈ items, make item = .ok bundle := by
  induction items with
  | nil => cases sent
  | cons item rest ih =>
    rw [Broker.sendEach] at sent
    split at sent
    · cases sent
    · rename_i first made
      rcases mem_cons.mp sent with rfl | later
      · exact ⟨item, mem_cons_self, made⟩
      · obtain ⟨other, member, makes⟩ := ih later
        exact ⟨other, mem_cons_of_mem _ member, makes⟩

omit [Sha1] in
theorem countP_sendNamedResults (executor : Executor) (results : Dict Str (List UInt8)) :
    (sendNamedResults executor results).1.countP (isNotice broker job) = 0 := by
  unfold sendNamedResults
  split
  · rfl
  · rw [countP_eq_zero]
    intro bundle sent
    obtain ⟨item, -, made⟩ := mem_sendEach sent
    have fields := new_eq_ok.mp made
    have other : ndataPut ≠ jobResult := by decide
    simp [isNotice, fields, other]

omit [Libraries] [Sha1] in
/-- Once a job has been prepared, `_run_job` returns. -/
theorem runJob_of_prepared {paths : Path × Option Path × Path} {state : Preparation}
    (prepared : workshop.prepare job circumstances = .ok paths state) :
      ∃ results, workshop.runJob job circumstances = ({ workshop.after state with
          disk := (circumstances.leave state.disk).rmtree (workshop.jobDir circumstances) }, .ok results) := by
  unfold runJob
  rw [prepared]
  dsimp only
  split
  · exact ⟨_, rfl⟩
  · exact ⟨_, rfl⟩

/-- Then the directory is removed, and the notices are those of `_send_results`. -/
theorem turn_of_prepared {paths : Path × Option Path × Path} {state : Preparation}
    (prepared : workshop.prepare job circumstances = .ok paths state) (broker : Eid) :
    (workshop.turn broker job circumstances).1.disk =
        (circumstances.leave state.disk).rmtree (workshop.jobDir circumstances) ∧
      ∃ results, (workshop.turn broker job circumstances).2.countP (isNotice broker job) =
        (sendResults (workshop.after state).executor broker job results).1.countP (isNotice broker job) := by
  obtain ⟨⟨results, namedResults⟩, ran⟩ := runJob_of_prepared prepared
  unfold turn
  rw [ran]
  dsimp only
  cases sending : sendResults (workshop.after state).executor broker job results with
  | mk sent outcome =>
    have same : sent = (sendResults (workshop.after state).executor broker job results).1 := by rw [sending]
    cases outcome with
    | error err => exact ⟨rfl, results, by rw [same]⟩
    | ok _ =>
      dsimp only
      split
      · exact ⟨rfl, results, by rw [same]⟩
      · refine ⟨rfl, results, ?_⟩
        rw [countP_append, countP_sendNamedResults, same]
        rfl

/-- A job is reported if its environment can be prepared, by an executor that has a
name. -/
theorem reported_iff [Ormsgpack] (named : broker.isSome = true) :
    workshop.Reported broker job circumstances ↔
    workshop.executor.nodeId.isSome = true ∧ workshop.Prepares job circumstances := by
  cases prepared : workshop.prepare job circumstances with
  | error err state =>
    refine iff_of_false ?_ ?_
    · intro reported
      have notice := reported.notice
      unfold turn runJob at notice
      rw [prepared] at notice
      cases notice
    · rintro ⟨-, paths, next, returns⟩
      rw [prepared] at returns
      cases returns
  | ok paths state =>
    obtain ⟨disk, results, notices⟩ := turn_of_prepared prepared broker
    have prepares : workshop.Prepares job circumstances := ⟨paths, state, prepared⟩
    have told : (∃ notice, completedNotification (workshop.after state).executor broker job = .ok notice) ↔
        workshop.executor.nodeId.isSome = true := completedNotification_returns named
    rw [and_iff_left prepares, ← told]
    constructor
    · intro reported
      cases made : completedNotification (workshop.after state).executor broker job with
      | ok notice => exact ⟨notice, rfl⟩
      | error err =>
        have notice := reported.notice
        rw [notices, sendResults, made] at notice
        cases notice
    · rintro ⟨notice, made⟩
      refine ⟨?_, ?_⟩
      · rw [notices, countP_sendResults made]
      · rw [disk]
        exact Disk.get?_rmtree _ _

end Workshop

omit [TinyDb] in
theorem Node.nodeId_handleDiscovery (node : Node) (bundle : BundleData) :
    (node.handleDiscovery bundle).1.nodeId = node.nodeId := by
  unfold handleDiscovery
  split
  · split
    · rfl
    · rfl
  · split
    · split
      · rfl
      · rfl
    · rfl

theorem Executor.nodeId_handleBundle [Sha1] [JobCodec] (executor : Executor) (bundle : BundleData) :
    (executor.handleBundle bundle).1.nodeId = executor.nodeId := by
  have jobHandled : (executor.handleJob bundle).1.nodeId = executor.nodeId := by
    unfold handleJob
    split
    · rfl
    · rfl
  unfold handleBundle
  split
  · exact jobHandled
  · split
    · unfold handleData
      split
      · rfl
      · rfl
    · split
      · rfl
      · split
        · exact executor.toNode.nodeId_handleDiscovery bundle
        · rfl

namespace Docket

variable [Sha1] [JobCodec]

/-- A job in the queue comes from a broker that has a name, and so does one that has
been taken. -/
def Sourced (nodeId : Eid) (docket : Docket) : Prop :=
  docket.executor.nodeId = nodeId ∧
    ∀ job ∈ docket.popped ++ docket.executor.pendingJobs, job.1.isSome = true

theorem sourced_step {nodeId : Eid} {docket : Docket} (sourced : docket.Sourced nodeId)
    (event : ExecutorEvent) : (docket.step event).Sourced nodeId := by
  obtain ⟨same, named⟩ := sourced
  cases event with
  | receive bundle =>
    refine ⟨(docket.executor.nodeId_handleBundle bundle).trans same, ?_⟩
    have turn := docket.executor.turn_handleBundle bundle
    rw [step]
    generalize (docket.executor.handleBundle bundle).1 = next at turn
    cases turn with
    | job job submit read =>
      intro pair member
      rw [← append_assoc] at member
      rcases mem_append.mp member with old | added
      · exact named pair old
      · cases mem_singleton.mp added
        exact bundle.source_isSome
    | data => exact named
    | other => exact named
  | storeNamedResults results => exact ⟨same, named⟩
  | pop system =>
    refine ⟨same, ?_⟩
    intro pair member
    exact named pair ((docket.ids_pop system).mem_iff.mp member)

end Docket

/-- Whatever happens to a job that an executor has taken, it is reported once and its
directory is removed, if its environment can be prepared and the executor has a
name, and only then. -/
theorem popped_reported_iff [Sha1] [JobCodec] [Libraries] [Ormsgpack] {nodeId : Eid}
    {events : List ExecutorEvent} {broker : Eid}
    {job : JobInfo} (popped : (broker, job) ∈ (run Docket.step (Docket.new nodeId) events).popped)
    (rootDirectory : Path) (disk : Disk) (circumstances : Circumstances) :
    Workshop.Reported ⟨(run Docket.step (Docket.new nodeId) events).executor, rootDirectory,
        disk⟩ broker job circumstances ↔
      nodeId.isSome = true ∧ Workshop.Prepares
        ⟨(run Docket.step (Docket.new nodeId) events).executor, rootDirectory, disk⟩ job circumstances := by
  have keeps : ∀ docket event, Docket.Sourced nodeId docket → True →
      (docket.step event).Sourced nodeId := by
    intro docket event sourced _
    exact Docket.sourced_step sourced event
  have initial : (Docket.new nodeId).Sourced nodeId := by
    refine ⟨rfl, ?_⟩
    intro pair member
    cases member
  obtain ⟨same, named⟩ : (run Docket.step (Docket.new nodeId) events).Sourced nodeId :=
    run_invariant (Docket.Sourced nodeId) initial keeps fun _ _ _ _ => trivial
  rw [Workshop.reported_iff (named (broker, job) (mem_append_left _ popped))]
  dsimp only
  rw [same]

end

open scoped Samples

/-- Nothing goes wrong outside of the code, and the job has no results. -/
def calm : Circumstances where
  number := 7
  fileError := none
  execution := .ok 0
  results := .ok none
  namedResults := .ok .empty
  leave disk := disk
  storeFault _ := none

/-- The first job comes and is taken. -/
def takenJob [JobCodec] : Docket :=
  run Docket.step (Docket.new sampleExecutor) [.receive (submission 0), .pop sampleSystem]

def sampleWorkshop [JobCodec] : Workshop := ⟨takenJob.executor, [str "executor"], .empty⟩

section

attribute [local instance] shippedCodec

theorem shippedJob_reported : (sampleBroker, sampleJobInfo) ∈ takenJob.popped ∧
    sampleWorkshop.Reported sampleBroker sampleJobInfo calm := by
  have popped : (sampleBroker, sampleJobInfo) ∈ takenJob.popped := by decide +kernel
  have prepares : sampleWorkshop.Prepares sampleJobInfo calm := exists_of_returned (by decide +kernel)
  exact ⟨popped, (popped_reported_iff popped _ _ calm).mpr ⟨by decide +kernel, prepares⟩⟩

end

section

/-- The job has a path that leads out of its directory. -/
@[reducible] def escapingCodec : JobCodec := .numbered [⟨escapingJob, shippedJob.data⟩]

attribute [local instance] escapingCodec

/-- Nothing is sent for it, and its directory stays. -/
theorem escapingJob_not_reported : (sampleBroker, escapingJob) ∈ takenJob.popped ∧
    (sampleWorkshop.turn sampleBroker escapingJob calm).2 = [] ∧
    (sampleWorkshop.turn sampleBroker escapingJob calm).1.disk.get? (sampleWorkshop.jobDir calm) =
      some .directory ∧
    ¬sampleWorkshop.Reported sampleBroker escapingJob calm := by
  have silent : (sampleWorkshop.turn sampleBroker escapingJob calm).2 = [] := by decide +kernel
  refine ⟨by decide +kernel, silent, by decide +kernel, ?_⟩
  intro reported
  have notice := reported.notice
  rw [silent] at notice
  cases notice

end

end RecDtn.Rec
