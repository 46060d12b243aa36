import RecDtn.Rec.JobDict
import RecDtn.Rec.Scheduling

namespace RecDtn.Rec

open Python Lang Lang.MessagePack BundleType List

/-- A list in which every item is changed is a selection of it exactly if nothing
is left out and nothing changes. -/
theorem map_perm_filter_iff {α : Type} {change : α → α}
    (again : ∀ item, change (change item) = change item) {test : α → Bool} {items : List α} :
    (items.map change).Perm (items.filter test) ↔ ∀ item ∈ items, test item = true ∧
      change item = item := by
  constructor
  · intro same
    have all : items.filter test = items := by
      have length := same.length_eq
      rw [length_map] at length
      exact filter_eq_self.mpr (length_filter_eq_length_iff.mp length.symm)
    rw [all] at same
    intro item member
    obtain ⟨other, -, rfl⟩ := mem_map.mp (same.mem_iff.mpr member)
    exact ⟨filter_eq_self.mp all _ member, again other⟩
  · intro each
    have unchanged : items.map change = items := by
      rw [map_congr_left fun item member => (each item member).2, map_id']
    rw [unchanged, filter_eq_self.mpr fun item member => (each item member).1]

section

variable [Unicode] [Libraries] [UuidText]

attribute [local instance] JobCodec.ofLibraries

/-- The two lists of a reply. -/
structure JobList where
  completed : List JobInfo
  queued : List JobInfo

def asDicts : Value Str → Option (List Entries)
  | .array items => items.mapM asDict
  | _ => none

/-- `job_infos_from_dicts`. -/
def jobInfosFromDicts (dicts : List Entries) : Py (List JobInfo) := dicts.mapM JobInfo.fromDict

/-- What a client reads in the payload of a reply. -/
def JobList.ofPayload : List UInt8 → Py JobList :=
  unpackDict fun jobs => do
    let completed ← jobInfosFromDicts (← argument asDicts "completed" jobs)
    let queued ← jobInfosFromDicts (← argument asDicts "queued" jobs)
    return ⟨completed, queued⟩

omit [Libraries] [UuidText] in
theorem asDicts_dictify (jobs : List JobInfo) :
    asDicts (dictifyJobInfos jobs) = some (jobs.map JobInfo.dictify) := by
  change (jobs.map fun info => Value.dict info.dictify).mapM asDict = _
  induction jobs with
  | nil => rfl
  | cons info rest ih =>
    rw [map_cons, mapM_cons, ih]
    rfl

omit [Libraries] in
theorem jobInfosFromDicts_dictify [DecimalDigits] (jobs : List JobInfo) :
    jobInfosFromDicts (jobs.map JobInfo.dictify) = .ok (jobs.map JobInfo.blankless) := by
  unfold jobInfosFromDicts
  induction jobs with
  | nil => rfl
  | cons info rest ih =>
    rw [map_cons, mapM_cons, ih, info.fromDict_dictify]
    rfl

theorem JobList.ofPayload_serializeList [DecimalDigits] [Ormsgpack]
    (completed queued : List JobInfo) :
    JobList.ofPayload (JobCodec.serializeList completed queued) =
      .ok ⟨completed.map JobInfo.blankless, queued.map JobInfo.blankless⟩ := by
  have first : find (str "completed") [(str "completed", dictifyJobInfos completed),
      (str "queued", dictifyJobInfos queued)] = some (dictifyJobInfos completed) := rfl
  have second : find (str "queued") [(str "completed", dictifyJobInfos completed),
      (str "queued", dictifyJobInfos queued)] = some (dictifyJobInfos queued) := rfl
  change unpackDict _ (Libraries.packb _) = _
  rw [unpackDict_packb, argument_of_some asDicts first (asDicts_dictify _),
    argument_of_some asDicts second (asDicts_dictify _)]
  simp only [bind, Except.bind, jobInfosFromDicts_dictify]
  rfl

omit [Libraries] [UuidText] in
theorem BundleData.submitter_isSome (bundle : BundleData) (asks : bundle.type = jobQuery) :
    bundle.submitter.isSome = true := by
  by_contra unnamed
  have valid := bundle.valid
  unfold BundleFields.postInit at valid
  simp only [asks, true_or, true_and, if_pos (Bool.eq_false_of_not_eq_true unnamed)] at valid
  repeat' split at valid
  all_goals cases valid

namespace Broker

def storedJobs (broker : Broker) : List JobInfo :=
  broker.completedJobs ++ broker.queuedJobs.map Job.metadata

def submittedBy (submitter : Eid) (info : JobInfo) : Bool := info.submitter = submitter

variable [Sha256]

/-- The broker replies with exactly the completed and the queued jobs of the
submitter. The completed jobs are a set, so their order is left open. -/
def AnswersQuery (broker : Broker) (query : BundleData) : Prop :=
  ∀ order, ∃ reply jobs, (broker.handleBundle hrwSelectCall order query).outcome =
    .ok [reply] ∧ reply.type = jobList ∧ JobList.ofPayload reply.payload = .ok jobs ∧
    jobs.completed.Perm (broker.completedJobs.filter (submittedBy query.submitter)) ∧
    jobs.queued = (broker.queuedJobs.map Job.metadata).filter (submittedBy query.submitter)

/-- The broker has a name, and all the jobs that it has stored are from the
submitter and without empty texts for files. -/
def OnlyAsked (broker : Broker) (submitter : Eid) : Prop :=
  broker.nodeId.isSome = true ∧ ∀ info ∈ broker.storedJobs, info.submitter = submitter ∧
    info.Blankless

/-- The fields of the reply. -/
def jobListFields (broker : Broker) (query : BundleData) : BundleFields where
  type := jobList
  source := broker.nodeId
  destination := query.source
  submitter := query.submitter
  payload := JobCodec.serializeList broker.completedJobs (broker.queuedJobs.map Job.metadata)

variable {query : BundleData}

theorem handleBundle_jobQuery (broker : Broker) (asks : query.type = jobQuery)
    (order : SetOrder Eid) : (broker.handleBundle hrwSelectCall order query).outcome =
      (fun reply => [reply]) <$> BundleData.new (broker.jobListFields query) := by
  have other : query.type ≠ jobSubmit ∧ query.type ≠ jobResult := by
    rw [asks]
    decide
  unfold handleBundle
  rw [if_neg other.1, if_neg other.2, if_pos asks]
  rfl

omit [Sha256] in
theorem postInit_jobListFields (broker : Broker) (asks : query.type = jobQuery) :
    (broker.jobListFields query).postInit = .ok () ↔ broker.nodeId.isSome = true := by
  have destination := query.source_isSome
  have submitter := query.submitter_isSome asks
  unfold BundleFields.postInit jobListFields
  by_cases named : broker.nodeId.isSome = true
  · simp [named, destination, submitter, isDiscovery, isNamedData, jobList,
      jobQuery, brokerAnnounce, brokerAck, ndataPut, ndataDel]
  · rw [if_pos (by simpa using named)]
    simp [named, raise]

/-- A broker that has a name replies with all its jobs. -/
theorem outcome_eq_reply_iff (broker : Broker) {reply : BundleData} (asks : query.type = jobQuery)
    (order : SetOrder Eid) : (broker.handleBundle hrwSelectCall order query).outcome =
      .ok [reply] ↔ reply.toBundleFields = broker.jobListFields query := by
  rw [broker.handleBundle_jobQuery asks, ← BundleData.new_eq_ok]
  cases BundleData.new (broker.jobListFields query) with
  | ok made => simp [Functor.map, Except.map]
  | error err => simp [Functor.map, Except.map]

section

omit [Libraries] [UuidText] [Sha256]

theorem mem_storedJobs {broker : Broker} {Holds : JobInfo → Prop} :
    (∀ info ∈ broker.storedJobs, Holds info) ↔
      (∀ info ∈ broker.completedJobs, Holds info) ∧ ∀ info ∈ broker.queuedJobs.map Job.metadata, Holds info :=
  forall_mem_append

variable {submitter : Eid} {jobs : List JobInfo}

/-- The whole list is the list of the submitter's jobs. -/
theorem perm_submittedBy_iff :
    (jobs.map JobInfo.blankless).Perm (jobs.filter (submittedBy submitter)) ↔
      ∀ info ∈ jobs, info.submitter = submitter ∧ info.Blankless := by
  rw [map_perm_filter_iff JobInfo.blankless_blankless]
  simp only [submittedBy, decide_eq_true_eq, JobInfo.blankless_eq_self]

theorem eq_submittedBy_iff : jobs.map JobInfo.blankless = jobs.filter (submittedBy submitter) ↔
      ∀ info ∈ jobs, info.submitter = submitter ∧ info.Blankless := by
  rw [← perm_submittedBy_iff]
  constructor
  · exact .of_eq
  · intro same
    have each := (map_perm_filter_iff JobInfo.blankless_blankless).mp same
    rw [filter_eq_self.mpr fun info member => (each info member).1,
      map_congr_left fun info member => (each info member).2, map_id']

end

variable [DecimalDigits] [Ormsgpack]

theorem answersQuery_iff (broker : Broker) (asks : query.type = jobQuery) :
    broker.AnswersQuery query ↔ broker.OnlyAsked query.submitter := by
  have read := JobList.ofPayload_serializeList broker.completedJobs
    (broker.queuedJobs.map Job.metadata)
  unfold OnlyAsked
  rw [mem_storedJobs, ← perm_submittedBy_iff, ← eq_submittedBy_iff]
  constructor
  · intro answers
    obtain ⟨reply, jobs, replied, -, decoded, completed, queued⟩ := answers .asStored
    have fields := (broker.outcome_eq_reply_iff asks .asStored).mp replied
    have named := (broker.postInit_jobListFields asks).mp (fields ▸ reply.valid)
    have payload : reply.payload = JobCodec.serializeList broker.completedJobs (broker.queuedJobs.map Job.metadata) :=
      congrArg BundleFields.payload fields
    rw [payload, read] at decoded
    cases decoded
    exact ⟨named, completed, queued⟩
  · rintro ⟨named, completed, queued⟩ order
    have valid := (broker.postInit_jobListFields asks).mpr named
    exact ⟨⟨broker.jobListFields query, valid⟩, _,
      (broker.outcome_eq_reply_iff asks order).mpr rfl, rfl, read, completed, queued⟩

end Broker

variable [Sha256] [DecimalDigits] [Ormsgpack]

/-- After any history a query is answered exactly if all the jobs that the broker
has stored are those that it asks for. -/
theorem Ledger.answersQuery_iff_onlyAsked (nodeId : Eid) (events : List BrokerEvent)
    {query : BundleData} (asks : query.type = jobQuery) :
    (run Ledger.step (Ledger.new nodeId) events).broker.AnswersQuery query ↔
      (run Ledger.step (Ledger.new nodeId) events).broker.OnlyAsked query.submitter :=
  Broker.answersQuery_iff _ asks

end

open scoped Samples

attribute [local instance] Sha256.standard UuidText.hex JobCodec.ofLibraries

/-- A job of the executor, beside the one of the client. -/
def executorJobInfo : JobInfo := { sampleJobInfo with jobId := 2, submitter := sampleExecutor }

def submissionOf (info : JobInfo) : BundleData where
  type := jobSubmit
  source := sampleClient
  destination := sampleBroker
  payload := Job.serialize ⟨info, .empty⟩
  valid := rfl

def clientQuery : BundleData where
  type := jobQuery
  source := sampleClient
  destination := sampleBroker
  submitter := sampleClient
  valid := rfl

theorem queuedJobs_submissionOf {ledger : Ledger} (running : ledger.stopped = false)
    (unknown : ledger.broker.known NodeType.executor = []) {info : JobInfo}
    (blankless : info.Blankless) : (ledger.step (.receive (submissionOf info) .asStored)).broker =
      { ledger.broker with queuedJobs := ledger.broker.queuedJobs ++ [⟨info, .empty⟩] } := by
  have read : JobCodec.deserialize (submissionOf info).payload = .ok ⟨info, .empty⟩ := by
    have whole := Job.deserialize_of_serialize ⟨info, .empty⟩
    rwa [JobInfo.blankless_eq_self.mpr blankless] at whole
  have received : (ledger.broker.handleJobSubmit hrwSelectCall .asStored (submissionOf info)).broker =
      { ledger.broker with queuedJobs := ledger.broker.queuedJobs ++ [⟨info, .empty⟩] } := by
    unfold Broker.handleJobSubmit
    rw [read]
    dsimp only
    rw [if_pos unknown]
  unfold Ledger.step
  rw [if_neg (by simp [running])]
  exact received

theorem ownJob_answered :
    (run Ledger.step (Ledger.new sampleBroker)
      [.receive (submissionOf sampleJobInfo) .asStored]).broker.AnswersQuery clientQuery := by
  have plain : sampleJobInfo.Blankless := by
    unfold JobInfo.Blankless
    decide
  have broker : (Ledger.step (Ledger.new sampleBroker)
      (.receive (submissionOf sampleJobInfo) .asStored)).broker =
      { Broker.new sampleBroker with queuedJobs := [⟨sampleJobInfo, .empty⟩] } :=
    queuedJobs_submissionOf rfl rfl plain
  refine (Ledger.answersQuery_iff_onlyAsked sampleBroker _ rfl).mpr ?_
  rw [run_cons, run_nil, broker]
  refine ⟨rfl, ?_⟩
  intro info member
  obtain rfl : info = sampleJobInfo := by simpa [Broker.storedJobs, Broker.new] using member
  exact ⟨rfl, plain⟩

/-- The query of the client is answered with the job of the executor as well. -/
theorem mixedJobs_not_answered :
    ¬(run Ledger.step (Ledger.new sampleBroker) [.receive (submissionOf sampleJobInfo) .asStored,
      .receive (submissionOf executorJobInfo) .asStored]).broker.AnswersQuery clientQuery := by
  have plain : sampleJobInfo.Blankless ∧ executorJobInfo.Blankless := by
    unfold JobInfo.Blankless
    decide
  let first := Ledger.step (Ledger.new sampleBroker) (.receive (submissionOf sampleJobInfo) .asStored)
  have before : first.broker =
      { Broker.new sampleBroker with queuedJobs := [⟨sampleJobInfo, .empty⟩] } :=
    queuedJobs_submissionOf rfl rfl plain.1
  have unknown : first.broker.known NodeType.executor = [] := by
    rw [before]
    rfl
  have after := queuedJobs_submissionOf rfl unknown plain.2
  have stored : executorJobInfo ∈
      (first.step (.receive (submissionOf executorJobInfo) .asStored)).broker.storedJobs := by
    rw [after, Broker.storedJobs]
    simp
  intro answers
  have asked := ((Broker.answersQuery_iff _ rfl).mp answers).2 _ stored
  exact absurd asked.1 (by decide)

end RecDtn.Rec
