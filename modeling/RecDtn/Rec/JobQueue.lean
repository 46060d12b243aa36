import Mathlib.Data.List.Rotate
import RecDtn.Rec.Executor
import RecDtn.Rec.StorageFaults

/-! The queue of an executor at the points where its tasks are suspended. -/

namespace RecDtn.Rec

open Python Lang List Option

section

variable [Unicode] [TinyDb]

/-- Where a handler of an executor goes on. -/
inductive ExecutorTask where
  /-- In `_handle_job`, with the data of the job that is not stored yet. -/
  | storing (source : Eid) (job : JobInfo) (rest : List (Str × List UInt8))
  /-- In `_handle_data`. -/
  | storingData (name : Str) (data : List UInt8)

/-- A call of `_pop_next_runnable_job` that waits for the storage: the queue that it
found, the job that it has taken out, and the number of turns after this one. -/
structure Scan where
  found : List (Eid × JobInfo)
  hand : Eid × JobInfo
  turns : Nat

/-- A call of `_pop_next_runnable_job` that is over, with the queue and the storage
at its end. -/
structure PopCall where
  found : List (Eid × JobInfo)
  left : List (Eid × JobInfo)
  storage : Storage
  outcome : Py (Option (Eid × JobInfo))

def PopCall.returned (call : PopCall) : Option (Eid × JobInfo) :=
  match call.outcome with
  | .ok job => job
  | .error _ => none

/-- An executor with its handlers. The writer lock is held while there is a scan. -/
structure Desk where
  executor : Executor
  handlers : List ExecutorTask := []
  scan : Option Scan := none
  appended : List (Eid × JobInfo) := []
  calls : List PopCall := []

/-- A bundle comes, one of the handlers goes on, a call begins, or the storage
answers its question or raises. -/
inductive DeskEvent where
  | receive (bundle : BundleData)
  | handle (position : Nat) (fault : Option Storage.StoreFault)
  | pop
  | answer (system : Capabilities) (failure : Option PyError)

namespace Desk

def new (nodeId : Eid) : Desk := { executor := .new nodeId }

def returned (desk : Desk) : List (Eid × JobInfo) := desk.calls.filterMap PopCall.returned

/-- The jobs that wait, and the one that a call has in its hand. -/
def waiting (desk : Desk) : List (Eid × JobInfo) :=
  desk.executor.pendingJobs ++ desk.scan.toList.map Scan.hand

/-- A call ends, and releases the lock. -/
def finish (desk : Desk) (found : List (Eid × JobInfo))
    (outcome : Py (Option (Eid × JobInfo))) : Desk :=
  { desk with
    scan := none
    calls := desk.calls ++ [⟨found, desk.executor.pendingJobs, desk.executor.storage, outcome⟩] }

/-- The loop of `_pop_next_runnable_job`, up to its next question. -/
def look (desk : Desk) (found : List (Eid × JobInfo)) (turns : Nat) : Desk :=
  match turns, desk.executor.pendingJobs with
  | 0, _ => desk.finish found (.ok none)
  | _ + 1, [] => desk.finish found (raise .indexError "pop from an empty deque")
  | turns + 1, first :: rest =>
    { desk with executor.pendingJobs := rest, scan := some ⟨found, first, turns⟩ }

/-- A call gets the writer lock, if it is free. -/
def pop (desk : Desk) : Desk :=
  match desk.scan with
  | some _ => desk
  | none => desk.look desk.executor.pendingJobs desk.executor.pendingJobs.length

/-- The question of `_job_has_all_inputs` is answered, or it raises. -/
def answer (desk : Desk) (system : Capabilities) (failure : Option PyError) : Desk :=
  match desk.scan with
  | none => desk
  | some scan =>
    match failure with
    | some err => desk.finish scan.found (.error err)
    | none =>
      if desk.executor.jobHasAllInputs scan.hand.2 && system.isCapableOf scan.hand.2.capabilities then
        desk.finish scan.found (.ok (some scan.hand))
      else
        look { desk with executor.pendingJobs := desk.executor.pendingJobs ++ [scan.hand] } scan.found scan.turns

variable [Sha1] [JobCodec]

/-- `_handle_job` and `_handle_data`, up to the first data that is stored. -/
def receive (desk : Desk) (bundle : BundleData) : Desk :=
  if bundle.type = BundleType.jobSubmit then
    match JobCodec.deserialize bundle.payload with
    | .error _ => desk
    | .ok job =>
      { desk with handlers := desk.handlers ++ [.storing bundle.source job.metadata job.data.items] }
  else if bundle.type = BundleType.ndataGet then
    if bundle.namedData = [] then desk
    else { desk with handlers := desk.handlers ++ [.storingData bundle.namedData bundle.payload] }
  else desk

/-- A name that is taken is passed over, anything else that is raised ends the
handler. -/
def passes : Py Unit → Bool
  | .ok _ => true
  | .error err => err.type = .nameTakenError

/-- A handler stores the next data, or puts its job in the queue if the lock is
free. -/
def handle (desk : Desk) (position : Nat) (fault : Option Storage.StoreFault) : Desk :=
  match desk.handlers[position]? with
  | none => desk
  | some (.storing source job ((name, data) :: rest)) =>
    let (storage, outcome) := desk.executor.storage.attemptStore ⟨name, data, fault⟩
    { desk with
      executor.storage := storage
      handlers :=
        if passes outcome then desk.handlers.set position (.storing source job rest)
        else desk.handlers.eraseIdx position }
  | some (.storing source job []) =>
    if desk.scan.isSome then desk
    else
      { desk with
        executor.pendingJobs := desk.executor.pendingJobs ++ [(source, job)]
        handlers := desk.handlers.eraseIdx position
        appended := desk.appended ++ [(source, job)] }
  | some (.storingData name data) =>
    { desk with
      executor.storage := desk.executor.storage.stepCall ⟨name, data, fault⟩
      handlers := desk.handlers.eraseIdx position }

def step (desk : Desk) : DeskEvent → Desk
  | .receive bundle => desk.receive bundle
  | .handle position fault => desk.handle position fault
  | .pop => desk.pop
  | .answer system failure => desk.answer system failure

/-- Nothing is lost or doubled: what has been put in the queue waits or has been
returned. A returned job had its data, and a call that returns none leaves the
queue as it was. -/
structure Kept (desk : Desk) : Prop where
  conserved : desk.appended.Perm (desk.waiting ++ desk.returned)
  supplied : ∀ call ∈ desk.calls, ∀ job, call.outcome = .ok (some job) →
    call.storage.findMissing job.2.requiredNamedData = []
  unmoved : ∀ call ∈ desk.calls, call.outcome = .ok none → call.left = call.found

/-- The storage does not raise at a call that waits for it. -/
def Answered (desk : Desk) : DeskEvent → Prop
  | .answer _ (some _) => desk.scan = none
  | _ => True

/-- The call that waits has turned the queue that it found, one place for each job
that it has put back. -/
def Turning (desk : Desk) : Prop :=
  ∀ scan, desk.scan = some scan → ∃ turned,
    scan.hand :: desk.executor.pendingJobs = scan.found.rotate turned ∧
      turned + scan.turns + 1 = scan.found.length

variable {desk next : Desk} {found : List (Eid × JobInfo)}
  {outcome : Py (Option (Eid × JobInfo))} {turns : Nat}

section

omit [Sha1] [JobCodec]

theorem waiting_of_idle (free : desk.scan = none) : desk.waiting = desk.executor.pendingJobs := by
  rw [waiting, free]
  exact append_nil _

variable {scan : Scan}

theorem waiting_of_scan (held : desk.scan = some scan) :
    desk.waiting = desk.executor.pendingJobs ++ [scan.hand] := by
  rw [waiting, held]
  rfl

theorem returned_finish : (desk.finish found outcome).returned =
    desk.returned ++ (PopCall.returned ⟨found, desk.executor.pendingJobs, desk.executor.storage,
      outcome⟩).toList := by
  rw [returned, finish, filterMap_append]
  rfl

theorem waiting_finish : (desk.finish found outcome).waiting = desk.executor.pendingJobs :=
  waiting_of_idle rfl

theorem Kept.finish (kept : desk.Kept)
    (conserved : desk.appended.Perm
      ((desk.finish found outcome).waiting ++ (desk.finish found outcome).returned))
    (supplied : ∀ job, outcome = .ok (some job) →
      desk.executor.storage.findMissing job.2.requiredNamedData = [])
    (unmoved : outcome = .ok none → desk.executor.pendingJobs = found) :
    (desk.finish found outcome).Kept where
  conserved := conserved
  supplied call member := by
    rcases mem_append.mp member with earlier | last
    · exact kept.supplied call earlier
    · cases mem_singleton.mp last
      exact supplied
  unmoved call member := by
    rcases mem_append.mp member with earlier | last
    · exact kept.unmoved call earlier
    · cases mem_singleton.mp last
      exact unmoved

/-- The queue has been turned as often as there have been turns. -/
theorem turning_look (turned : ∃ past, desk.executor.pendingJobs = found.rotate past ∧
    past + turns = found.length) : (desk.look found turns).Turning := by
  obtain ⟨past, order, count⟩ := turned
  intro scan held
  unfold look at held ⊢
  split at held
  · cases held
  · cases held
  · rename_i turns first rest pending
    cases held
    rw [pending] at order
    exact ⟨past, order, count⟩

theorem Kept.look (kept : Kept { desk with scan := none })
    (turned : ∃ past, desk.executor.pendingJobs = found.rotate past ∧
    past + turns = found.length) : (desk.look found turns).Kept := by
  obtain ⟨past, order, count⟩ := turned
  have conserved : desk.appended.Perm (desk.executor.pendingJobs ++ desk.returned) := by
    have conserved := kept.conserved
    rwa [waiting_of_idle rfl] at conserved
  unfold Desk.look
  split
  · -- All of the queue has been turned, and it is as it was.
    have whole : past = found.length := count
    have ended : (Desk.finish { desk with scan := none } found (.ok none)).Kept := by
      refine kept.finish ?_ ?_ ?_
      · rwa [waiting_finish, returned_finish, PopCall.returned, toList_none, append_nil]
      · intro job same
        cases same
      · intro _
        rw [order, whole, rotate_length]
    exact ended
  · -- There is a job for every turn.
    rename_i turns pending
    have length := congrArg List.length order
    rw [pending, length_rotate, ← count] at length
    cases length
  · rename_i turns first rest pending
    refine ⟨?_, kept.supplied, kept.unmoved⟩
    rw [pending] at conserved
    exact conserved.trans (List.Perm.append_right _ (perm_append_singleton first rest).symm)

theorem turning_pop (turning : desk.Turning) : desk.pop.Turning := by
  unfold pop
  split
  · exact turning
  · exact turning_look ⟨0, (rotate_zero _).symm, Nat.zero_add _⟩

theorem Kept.pop (kept : desk.Kept) : desk.pop.Kept := by
  unfold Desk.pop
  split
  · exact kept
  · rename_i free
    refine Kept.look ?_ ⟨0, (rotate_zero _).symm, Nat.zero_add _⟩
    rw [← free]
    exact kept

theorem turned_putBack (turning : desk.Turning) (held : desk.scan = some scan) :
    ∃ past, desk.executor.pendingJobs ++ [scan.hand] = scan.found.rotate past ∧
      past + scan.turns = scan.found.length := by
  obtain ⟨turned, order, count⟩ := turning scan held
  refine ⟨turned + 1, ?_, ?_⟩
  · rw [← rotate_rotate, ← order, rotate_cons_succ, rotate_zero]
  · omega

theorem turning_answer (turning : desk.Turning) (system : Capabilities) (failure : Option PyError) :
    (desk.answer system failure).Turning := by
  unfold answer
  split
  · exact turning
  · rename_i scan held
    split
    · intro other impossible
      cases impossible
    · split
      · intro other impossible
        cases impossible
      · exact turning_look (turned_putBack turning held)

theorem Kept.answer_none (kept : desk.Kept) (turning : desk.Turning) (system : Capabilities) :
    (desk.answer system none).Kept := by
  unfold Desk.answer
  split
  · exact kept
  · rename_i scan held
    have conserved := kept.conserved
    rw [waiting_of_scan held] at conserved
    simp only
    split
    · rename_i runnable
      have inputs : desk.executor.jobHasAllInputs scan.hand.2 = true := (Bool.and_eq_true_iff.mp runnable).1
      refine kept.finish ?_ ?_ ?_
      · rw [waiting_finish, returned_finish, PopCall.returned, toList_some]
        refine conserved.trans ?_
        rw [append_assoc]
        exact perm_append_comm.append_left _
      · intro job same
        cases same
        exact isEmpty_iff.mp inputs
      · intro same
        cases same
    · refine Kept.look ⟨?_, kept.supplied, kept.unmoved⟩ (turned_putBack turning held)
      rw [waiting_of_idle rfl]
      exact conserved

/-- A call that is interrupted leaves its job nowhere. -/
theorem not_kept_answer_some (kept : desk.Kept) (held : desk.scan = some scan)
    (system : Capabilities) (err : PyError) : ¬(desk.answer system (some err)).Kept := by
  intro interrupted
  have before := kept.conserved.length_eq
  rw [waiting_of_scan held, length_append, length_append, length_singleton] at before
  have after := interrupted.conserved.length_eq
  unfold answer at after
  rw [held] at after
  dsimp only at after
  rw [waiting_finish, returned_finish, PopCall.returned, toList_none, append_nil,
    length_append] at after
  have same : (desk.finish scan.found (.error err)).appended.length = desk.appended.length := rfl
  omega

end

/-- The queue and the call are the same. -/
structure Beside (desk next : Desk) : Prop where
  pending : next.executor.pendingJobs = desk.executor.pendingJobs
  scan : next.scan = desk.scan
  appended : next.appended = desk.appended
  calls : next.calls = desk.calls

omit [Sha1] [JobCodec] in
theorem Beside.turning (beside : desk.Beside next) (turning : desk.Turning) : next.Turning := by
  unfold Turning
  rw [beside.scan, beside.pending]
  exact turning

omit [Sha1] [JobCodec] in
theorem Beside.kept (beside : desk.Beside next) (kept : desk.Kept) : next.Kept := by
  refine ⟨?_, ?_, ?_⟩
  · rw [waiting, returned, beside.appended, beside.pending, beside.scan, beside.calls]
    exact kept.conserved
  · rw [beside.calls]
    exact kept.supplied
  · rw [beside.calls]
    exact kept.unmoved

omit [Sha1] in
theorem beside_receive (desk : Desk) (bundle : BundleData) : desk.Beside (desk.receive bundle) := by
  unfold receive
  split
  · split
    · exact ⟨rfl, rfl, rfl, rfl⟩
    · exact ⟨rfl, rfl, rfl, rfl⟩
  · split
    · split
      · exact ⟨rfl, rfl, rfl, rfl⟩
      · exact ⟨rfl, rfl, rfl, rfl⟩
    · exact ⟨rfl, rfl, rfl, rfl⟩

section

omit [JobCodec]

/-- A handler works beside the queue, or puts its job at the end of it. -/
theorem handle_cases (desk : Desk) (position : Nat) (fault : Option Storage.StoreFault) :
    desk.Beside (desk.handle position fault) ∨ (desk.scan = none ∧ ∃ job,
      (desk.handle position fault).executor.pendingJobs = desk.executor.pendingJobs ++ [job] ∧
      (desk.handle position fault).scan = none ∧ (desk.handle position fault).appended =
      desk.appended ++ [job] ∧ (desk.handle position fault).calls = desk.calls) := by
  unfold handle
  split
  · exact .inl ⟨rfl, rfl, rfl, rfl⟩
  · exact .inl ⟨rfl, rfl, rfl, rfl⟩
  · split
    · exact .inl ⟨rfl, rfl, rfl, rfl⟩
    · rename_i free
      have free : desk.scan = none := by simpa using free
      exact .inr ⟨free, _, rfl, free, rfl, rfl⟩
  · exact .inl ⟨rfl, rfl, rfl, rfl⟩

theorem turning_handle (turning : desk.Turning) (position : Nat)
    (fault : Option Storage.StoreFault) : (desk.handle position fault).Turning := by
  rcases desk.handle_cases position fault with beside | ⟨-, job, -, free, -, -⟩
  · exact beside.turning turning
  · intro scan held
    rw [free] at held
    cases held

theorem Kept.handle (kept : desk.Kept) (position : Nat) (fault : Option Storage.StoreFault) :
    (desk.handle position fault).Kept := by
  rcases desk.handle_cases position fault with beside | ⟨idle, job, pending, free,
    appended, calls⟩
  · exact beside.kept kept
  · refine ⟨?_, ?_, ?_⟩
    · have conserved := kept.conserved
      rw [waiting_of_idle idle] at conserved
      rw [waiting_of_idle free, returned, appended, pending, calls, append_assoc]
      refine (conserved.append_right [job]).trans ?_
      rw [append_assoc]
      exact perm_append_comm.append_left _
    · rw [calls]
      exact kept.supplied
    · rw [calls]
      exact kept.unmoved

end

theorem turning_step (turning : desk.Turning) (event : DeskEvent) : (desk.step event).Turning := by
  cases event with
  | receive bundle => exact (beside_receive desk bundle).turning turning
  | handle position fault => exact turning_handle turning position fault
  | pop => exact turning_pop turning
  | answer system failure => exact turning_answer turning system failure

/-- A step keeps the jobs unless the storage raises at a call. -/
theorem kept_step_iff (turning : desk.Turning) (kept : desk.Kept) (event : DeskEvent) :
    (desk.step event).Kept ↔ desk.Answered event := by
  cases event with
  | receive bundle => exact iff_of_true ((beside_receive desk bundle).kept kept) trivial
  | handle position fault => exact iff_of_true (kept.handle position fault) trivial
  | pop => exact iff_of_true kept.pop trivial
  | answer system failure =>
    cases failure with
    | none => exact iff_of_true (kept.answer_none turning system) trivial
    | some err =>
      cases held : desk.scan with
      | none =>
        have still : desk.step (.answer system (some err)) = desk := by
          rw [step, answer, held]
        rw [still]
        exact iff_of_true kept held
      | some scan =>
        refine iff_of_false (not_kept_answer_some kept held system err) ?_
        intro idle
        rw [Answered, held] at idle
        cases idle

omit [Sha1] [JobCodec] in
theorem kept_new (nodeId : Eid) : (new nodeId).Kept where
  conserved := .refl _
  supplied _ member := by cases member
  unmoved _ member := by cases member

/-- The storage answers so many times. -/
def answers (system : Nat → Capabilities) : Nat → List DeskEvent
  | 0 => []
  | turns + 1 => .answer (system turns) none :: answers system turns

theorem run_answers_idle (idle : desk.scan = none) (system : Nat → Capabilities) (turns : Nat) :
    run step desk (answers system turns) = desk := by
  induction turns with
  | zero => rfl
  | succ turns ih =>
    have still : desk.step (.answer (system turns) none) = desk := by
      rw [step, answer, idle]
    rw [answers, run_cons, still, ih]

/-- The loop comes to the end that it comes to in one go. -/
theorem run_look (executor : Executor) (found : List (Eid × JobInfo)) (system : Nat → Capabilities)
    (enough : turns ≤ desk.executor.pendingJobs.length)
    (same : desk.executor.storage = executor.storage) :
    run step (desk.look found turns) (answers system turns) = finish { desk with
        executor.pendingJobs := (executor.rotate system turns desk.executor.pendingJobs).2 } found
          (.ok (executor.rotate system turns desk.executor.pendingJobs).1) := by
  induction turns generalizing desk with
  | zero => rfl
  | succ turns ih =>
    cases pending : desk.executor.pendingJobs with
    | nil =>
      rw [pending] at enough
      cases enough
    | cons first rest =>
      have begun : desk.look found (turns + 1) =
          { desk with executor.pendingJobs := rest, scan := some ⟨found, first, turns⟩ } := by
        unfold look
        rw [pending]
      have inputs : ({ desk.executor with pendingJobs := rest } : Executor).jobHasAllInputs first.2 =
          executor.jobHasAllInputs first.2 := by
        rw [Executor.jobHasAllInputs, Executor.jobHasAllInputs, ← same]
      rw [begun, answers, run_cons, step, answer, Executor.rotate]
      dsimp only
      rw [inputs]
      split
      · exact run_answers_idle rfl system turns
      · refine ih ?_ same
        rw [pending, length_cons] at enough
        rw [length_append, length_singleton]
        omega

/-- A call that nothing interrupts does what it does in one go. -/
theorem run_pop (idle : desk.scan = none) (system : Nat → Capabilities) :
    run step desk (.pop :: answers system desk.executor.pendingJobs.length) =
      finish { desk with executor := (desk.executor.popNextRunnableJob system).1 }
        desk.executor.pendingJobs (.ok (desk.executor.popNextRunnableJob system).2) := by
  have begun : desk.step .pop =
      desk.look desk.executor.pendingJobs desk.executor.pendingJobs.length := by
    rw [step, pop, idle]
  rw [run_cons, begun]
  exact run_look desk.executor desk.executor.pendingJobs system (Nat.le_refl _) rfl

/-- Whatever the tasks do in between, the jobs are kept as long as the storage does
not raise at a call that has one in its hand, and no longer. -/
theorem kept_iff_answered (nodeId : Eid) (events : List DeskEvent) :
    Throughout step Kept (new nodeId) events ↔ Guarded step Answered (new nodeId) events := by
  refine throughout_iff_guarded Turning ?_ ?_ ?_ (kept_new nodeId)
  · intro desk event turning
    exact turning_step turning event
  · intro desk event turning kept
    exact kept_step_iff turning kept event
  · intro scan impossible
    cases impossible

end Desk

end

open scoped Samples

attribute [local instance] shippedCodec

/-- A job comes, its module is stored, it is put in the queue, and the database
cannot be read when it is to be taken. -/
def interruptedPop : List DeskEvent :=
  [.receive (submission 0), .handle 0 none, .handle 0 none, .pop,
    .answer (sampleSystem 0) (some ⟨.osError, "[Errno 5] Input/output error"⟩)]

/-- The job is neither in the queue nor returned. -/
theorem interruptedPop_not_kept :
    ¬Throughout Desk.step Desk.Kept (Desk.new sampleExecutor) interruptedPop := by
  intro throughout
  have kept : (run Desk.step (Desk.new sampleExecutor) interruptedPop).Kept :=
    throughout interruptedPop [] (append_nil _).symm
  exact absurd kept.conserved.length_eq (by decide +kernel)

/-- The job is put in the queue before. -/
theorem submission_run_pop : ∃ desk : Desk, desk.executor.pendingJobs.length = 1 ∧
    run Desk.step desk (.pop :: Desk.answers sampleSystem 1) =
      Desk.finish { desk with executor := (desk.executor.popNextRunnableJob sampleSystem).1 }
        desk.executor.pendingJobs (.ok (desk.executor.popNextRunnableJob sampleSystem).2) :=
  ⟨run Desk.step (Desk.new sampleExecutor) (interruptedPop.take 3), by decide +kernel,
    Desk.run_pop rfl sampleSystem⟩

end RecDtn.Rec
