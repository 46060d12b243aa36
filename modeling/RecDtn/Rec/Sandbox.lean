import RecDtn.Rec.Preparation

/-! Preparing a job touches nothing outside of its directory. -/

namespace RecDtn.Rec

open Python Lang List

namespace Disk

/-- A directory that is there, with all the directories on the way to it. -/
def Stands (disk : Disk) (directory : Path) : Prop :=
  ∀ ancestor, ancestor <+: directory → disk.isDir ancestor = true

/-- Directories stay, and only the given paths are touched. -/
structure Grows (touched : Path → Prop) (disk next : Disk) : Prop where
  directories : ∀ path, disk.isDir path = true → next.isDir path = true
  others : ∀ path, ¬touched path → next.get? path = disk.get? path

variable {touched : Path → Prop} {disk next : Disk}

theorem Grows.refl (touched : Path → Prop) (disk : Disk) : Grows touched disk disk :=
  ⟨fun _ present => present, fun _ _ => rfl⟩

theorem Grows.trans {last : Disk} (first : Grows touched disk next)
    (second : Grows touched next last) : Grows touched disk last where
  directories path present := second.directories path (first.directories path present)
  others path other := (second.others path other).trans (first.others path other)

theorem Stands.grows {directory : Path} (stands : disk.Stands directory)
    (grows : Grows touched disk next) : next.Stands directory :=
  fun ancestor above => grows.directories ancestor (stands ancestor above)

theorem isDir_set (disk : Disk) (path other : Path) (kind : FileKind) :
    isDir (disk.set path kind) other = if other = path then other = [] || kind = .directory
      else disk.isDir other := by
  unfold isDir
  rw [Dict.get?_set]
  by_cases same : other = path
  · simp [same]
  · simp [same]

theorem grows_set {path : Path} {kind : FileKind} (allowed : touched path)
    (free : disk.isDir path = false) : Grows touched disk (disk.set path kind) where
  directories other present := by
    have different : other ≠ path := by
      rintro rfl
      rw [free] at present
      cases present
    rw [isDir_set, if_neg different]
    exact present
  others other untouched := by
    have different : other ≠ path := by
      rintro rfl
      exact untouched allowed
    rw [Dict.get?_set, if_neg different]

/-- The directories that `mkdir` makes, one after the other. -/
theorem grows_makeEach (ancestors : List Path)
    (allowed : ∀ ancestor ∈ ancestors, disk.isDir ancestor = true ∨ touched ancestor) :
    Grows touched disk (ancestors.foldl
      (fun disk ancestor => if disk.isDir ancestor then disk else disk.set ancestor .directory) disk) := by
  induction ancestors generalizing disk with
  | nil => exact .refl touched disk
  | cons ancestor rest ih =>
    have first : Grows touched disk (if disk.isDir ancestor then disk else disk.set ancestor .directory) := by
      split
      · exact .refl touched disk
      · rename_i absent
        exact grows_set ((allowed ancestor mem_cons_self).resolve_left absent) (by simpa using absent)
    refine first.trans (ih ?_)
    intro other member
    exact (allowed other (mem_cons_of_mem _ member)).imp_left (first.directories other)

theorem isDir_makeEach (ancestors : List Path) : ∀ ancestor ∈ ancestors, (ancestors.foldl
    (fun disk ancestor => if disk.isDir ancestor then disk
      else disk.set ancestor .directory) disk).isDir ancestor = true := by
  induction ancestors generalizing disk with
  | nil =>
    intro ancestor member
    cases member
  | cons first rest ih =>
    intro ancestor member
    rcases mem_cons.mp member with rfl | later
    · have grown : Grows (fun _ => True) (if disk.isDir ancestor then disk else disk.set ancestor .directory) _ :=
        grows_makeEach rest fun _ _ => .inr trivial
      apply grown.directories
      split
      · assumption
      · rw [isDir_set, if_pos rfl]
        simp
    · exact ih ancestor later

theorem grows_mkdir {path : Path} (made : disk.mkdir path = .ok next)
    (allowed : ∀ ancestor, ancestor <+: path → disk.isDir ancestor = true ∨
    touched ancestor) : Grows touched disk next := by
  unfold mkdir at made
  split at made
  · cases made
  · split at made
    · cases made
    · cases made
      exact grows_makeEach path.inits fun ancestor member => allowed ancestor ((mem_inits _ _).mp member)

theorem stands_mkdir {path : Path} (made : disk.mkdir path = .ok next) : next.Stands path := by
  unfold mkdir at made
  split at made
  · cases made
  · split at made
    · cases made
    · cases made
      exact fun ancestor above => isDir_makeEach path.inits ancestor ((mem_inits _ _).mpr above)

theorem grows_write {path : Path} {content : List UInt8}
    (written : disk.write path content = .ok next)
    (allowed : touched path) : Grows touched disk next := by
  unfold write at written
  split at written
  · cases written
  · split at written
    · cases written
    · rename_i free
      split at written
      · cases written
        exact grows_set allowed (by simpa using free)
      · cases written

end Disk

namespace Preparation

variable [TinyDb]

/-- Only the given paths are touched, and every file that is written is among
them. -/
structure Within (touched : Path → Prop) (state next : Preparation) : Prop where
  disk : Disk.Grows touched state.disk next.disk
  copies : ∃ made, next.copies = state.copies ++ made ∧ ∀ copy ∈ made, touched copy.path

/-- A call that keeps to the given paths where a directory stands, whether it
returns or raises. -/
def Confined {α : Type} (touched : Path → Prop) (directory : Path) (call : Preparing α) : Prop :=
  ∀ state : Preparation, state.disk.Stands directory → Within touched state (final (call state))

variable {α β : Type} {touched : Path → Prop} {directory : Path} {call : Preparing α}

theorem Within.refl (touched : Path → Prop) (state : Preparation) : Within touched state state :=
  ⟨.refl touched _, [], (append_nil _).symm, fun _ member => absurd member not_mem_nil⟩

theorem Within.trans {state next last : Preparation} (first : Within touched state next)
    (second : Within touched next last) : Within touched state last := by
  obtain ⟨early, earlyCopies, earlyAllowed⟩ := first.copies
  obtain ⟨late, lateCopies, lateAllowed⟩ := second.copies
  refine ⟨first.disk.trans second.disk, early ++ late, ?_, ?_⟩
  · rw [lateCopies, earlyCopies, append_assoc]
  · intro copy member
    exact (mem_append.mp member).elim (earlyAllowed copy) (lateAllowed copy)

theorem Confined.bind_standing {rest : α → Preparing β} {further : Path}
    (begins : Confined touched directory call)
    (stands : ∀ state value next, state.disk.Stands directory → call state = .ok value next →
      next.disk.Stands further)
    (continues : ∀ value, Confined touched further (rest value)) :
    Confined touched directory (call >>= rest) := by
  intro state standing
  have begun := begins state standing
  cases called : call state with
  | error err next =>
    rw [called] at begun
    rw [bind_of_error called]
    exact begun
  | ok value next =>
    rw [called] at begun
    rw [bind_of_ok called]
    exact begun.trans (continues value next (stands state value next standing called))

theorem Confined.bind {rest : α → Preparing β} (begins : Confined touched directory call)
    (continues : ∀ value, Confined touched directory (rest value)) :
    Confined touched directory (call >>= rest) := by
  refine begins.bind_standing ?_ continues
  intro state value next standing called
  have begun := begins state standing
  rw [called] at begun
  exact standing.grows begun.disk

theorem confined_still (still : ∀ state, final (call state) = state) :
    Confined touched directory call := by
  intro state _
  rw [still]
  exact .refl touched state

theorem confined_pure (value : α) : Confined touched directory (pure value : Preparing α) :=
  confined_still fun _ => rfl

theorem confined_forM {item : Type} {call : item → Preparing Unit}
    (each : ∀ value, Confined touched directory (call value)) (values : List item) :
    Confined touched directory (values.forM call) := by
  induction values with
  | nil => exact confined_pure ()
  | cons value rest ih => exact (each value).bind fun _ => ih

theorem confined_mkdir {path : Path} (allowed : ∀ ancestor, ancestor <+: path →
    ancestor <+: directory ∨ touched ancestor) : Confined touched directory (mkdir path) := by
  intro state standing
  unfold mkdir
  split
  · rename_i disk made
    refine ⟨?_, [], (append_nil _).symm, fun _ member => absurd member not_mem_nil⟩
    refine Disk.grows_mkdir made ?_
    intro ancestor above
    exact (allowed ancestor above).imp_left (standing ancestor)
  · exact .refl touched state

theorem confined_copyToFile (name : Str) {destination : Path} (allowed : touched destination) :
    Confined touched directory (copyToFile name destination) := by
  intro state _
  unfold copyToFile
  split
  · exact ⟨.refl touched _, [], (append_nil _).symm, fun _ member => absurd member not_mem_nil⟩
  · rename_i storage content copied
    split
    · exact ⟨.refl touched _, [], (append_nil _).symm, fun _ member => absurd member not_mem_nil⟩
    · rename_i disk written
      refine ⟨Disk.grows_write written allowed, _, rfl, ?_⟩
      intro copy member
      cases mem_singleton.mp member
      exact allowed

/-- What a job asks for below its data directory. -/
inductive Step where
  | directory (path : Str)
  | dataFile (item : Str × Str)
  | output (what : String) (path : Str)

namespace Step

def path : Step → Str
  | .directory path => path
  | .dataFile item => item.1
  | .output _ path => path

def perform (dataDir : Path) : Step → Preparing Unit
  | .directory path => makeDirectory dataDir path
  | .dataFile item => writeDataFile dataDir item
  | .output what path => do mkdir (← resolveIn dataDir what path).parent

/-- The path of the step leads out of the data directory. -/
def Escapes (dataDir : Path) (step : Step) : Prop := ¬dataDir <+: dataDir.resolve step.path

end Step

def steps [Unicode] (job : JobInfo) : List Step :=
  job.dirs.map .directory ++ (job.data.items.map .dataFile ++
    ((JobInfo.given job.stdoutFile).toList.map (.output "stdout_file") ++
      (JobInfo.given job.stderrFile).toList.map (.output "stderr_file")))

/-- What is done before the first of the steps. -/
def begin [Unicode] (job : JobInfo) (baseDir : Path) : Preparing (Option Path) := do
  mkdir baseDir
  copyToFile job.wasmModule (baseDir ++ [str "module.wasm"])
  let stdinPath ← prepareStdin baseDir job.stdinFile
  mkdir (baseDir ++ [str "data"])
  return stdinPath

theorem forM_output (dataDir : Path) (what : String) (file : Option Str) :
    ((JobInfo.given file).toList.map (Step.output what)).forM (Step.perform dataDir) =
      makeParent dataDir what file := by
  unfold makeParent
  cases JobInfo.given file with
  | none => rfl
  | some path => exact bind_pure_unit

theorem prepareWasiEnvironment_eq [Unicode] (job : JobInfo) (baseDir : Path) :
    prepareWasiEnvironment job baseDir = do
      let stdinPath ← begin job baseDir
      (steps job).forM (Step.perform (baseDir ++ [str "data"]))
      return (baseDir ++ [str "module.wasm"], stdinPath, baseDir ++ [str "data"]) := by
  simp only [prepareWasiEnvironment, begin, steps, ← forM_output, forM_eq_forM,
    forM_append, forM_map, bind_assoc, pure_bind]
  rfl

/-- The files and directories that preparing may make. -/
def Own (baseDir path : Path) : Prop :=
  path = baseDir ++ [str "module.wasm"] ∨ path = baseDir ++ [str "stdin.bin"] ∨
    path = baseDir ++ [str "data"] ∨
      (baseDir ++ [str "data"] <+: path ∧ path ≠ baseDir ++ [str "data"])

omit [TinyDb] in
theorem own_of_below {baseDir path : Path} (below : baseDir ++ [str "data"] <+: path) :
    Own baseDir path := by
  by_cases same : path = baseDir ++ [str "data"]
  · exact .inr (.inr (.inl same))
  · exact .inr (.inr (.inr ⟨below, same⟩))

omit [TinyDb] in
/-- On the way to a path of the data directory there is nothing new but below it. -/
theorem standing_or_own {baseDir path way : Path} (below : baseDir ++ [str "data"] <+: path)
    (above : way <+: path)
    (ancestor : Path) (on : ancestor <+: way) :
    ancestor <+: baseDir ++ [str "data"] ∨ Own baseDir ancestor :=
  (List.prefix_or_prefix_of_prefix (on.trans above) below).imp_right own_of_below

theorem confined_resolveIn {baseDir : Path} {what : String} {path : Str}
    {rest : Path → Preparing Unit}
    (continues : ∀ resolved, baseDir ++ [str "data"] <+: resolved →
      Confined (Own baseDir) (baseDir ++ [str "data"]) (rest resolved)) :
    Confined (Own baseDir) (baseDir ++ [str "data"])
      (resolveIn (baseDir ++ [str "data"]) what path >>= rest) := by
  unfold resolveIn
  simp only
  split
  · rename_i below
    rw [pure_bind]
    exact continues _ below
  · exact confined_still fun _ => rfl

theorem confined_perform (baseDir : Path) (step : Step) :
    Confined (Own baseDir) (baseDir ++ [str "data"]) (step.perform (baseDir ++ [str "data"])) := by
  cases step with
  | directory path =>
    refine confined_resolveIn fun resolved below => ?_
    exact confined_mkdir (standing_or_own below (prefix_refl _))
  | dataFile item =>
    refine confined_resolveIn fun resolved below => ?_
    refine (confined_mkdir (standing_or_own below (List.dropLast_prefix _))).bind fun _ => ?_
    exact confined_copyToFile item.2 (own_of_below below)
  | output what path =>
    refine confined_resolveIn fun resolved below => ?_
    exact confined_mkdir (standing_or_own below (List.dropLast_prefix _))

theorem confined_prepareStdin (baseDir : Path) (file : Option Str) :
    Confined (Own baseDir) baseDir (prepareStdin baseDir file) := by
  unfold prepareStdin
  split
  · exact confined_pure none
  · exact (confined_copyToFile _ (.inr (.inl rfl))).bind fun _ => confined_pure _

theorem confined_mkdir_data (baseDir : Path) :
    Confined (Own baseDir) baseDir (mkdir (baseDir ++ [str "data"])) := by
  refine confined_mkdir ?_
  intro ancestor above
  rcases prefix_concat_iff.mp above with rfl | earlier
  · exact .inr (own_of_below (prefix_refl _))
  · exact .inl earlier

/-- What is done first makes the data directory. -/
theorem confined_begin_bind [Unicode] {α : Type} {rest : Option Path → Preparing α}
    (job : JobInfo) (baseDir : Path)
    (continues : ∀ stdinPath, Confined (Own baseDir) (baseDir ++ [str "data"]) (rest stdinPath)) :
    Confined (Own baseDir) baseDir (begin job baseDir >>= rest) := by
  simp only [begin, bind_assoc, pure_bind]
  refine (confined_mkdir fun ancestor above => .inl above).bind fun _ => ?_
  refine (confined_copyToFile _ (.inl rfl)).bind fun _ =>
    (confined_prepareStdin _ _).bind fun stdinPath => ?_
  refine (confined_mkdir_data baseDir).bind_standing ?_ fun _ => continues stdinPath
  intro state value next _ made
  unfold mkdir at made
  split at made
  · rename_i disk grown
    cases made
    exact Disk.stands_mkdir grown
  · cases made

theorem confined_prepareWasiEnvironment [Unicode] (job : JobInfo) (baseDir : Path) :
    Confined (Own baseDir) baseDir (prepareWasiEnvironment job baseDir) := by
  rw [prepareWasiEnvironment_eq]
  refine confined_begin_bind job baseDir fun _ => ?_
  exact (confined_forM (confined_perform baseDir) (steps job)).bind fun _ => confined_pure _

/-- A path that leads out is refused before anything is done for it. -/
theorem perform_of_escapes {dataDir : Path} {step : Step} (escapes : step.Escapes dataDir)
    (state : Preparation) : ∃ err, step.perform dataDir state = .error err state := by
  have refused (what : String) (rest : Path → Preparing Unit) :
      ∃ err, (resolveIn dataDir what step.path >>= rest) state = .error err state := by
    unfold resolveIn
    simp only
    rw [if_neg escapes]
    exact ⟨_, bind_of_error rfl⟩
  cases step with
  | _ => exact refused _ _

variable [Unicode]

/-- Preparing only up to some of the steps. -/
def prepareUpTo (job : JobInfo) (baseDir : Path) (before : List Step) : Preparing Unit := do
  let _ ← begin job baseDir
  before.forM (Step.perform (baseDir ++ [str "data"]))

/-- With a path that leads out the call raises, and has done nothing but what comes
before that path. -/
theorem prepareWasiEnvironment_of_escapes {job : JobInfo} {baseDir : Path}
    {before after : List Step} {step : Step}
    (listed : steps job = before ++ step :: after) (escapes : step.Escapes (baseDir ++ [str "data"]))
    (state : Preparation) : ∃ err, prepareWasiEnvironment job baseDir state =
      .error err (final (prepareUpTo job baseDir before state)) := by
  have whole : prepareWasiEnvironment job baseDir = do
      let stdinPath ← begin job baseDir
      before.forM (Step.perform (baseDir ++ [str "data"]))
      step.perform (baseDir ++ [str "data"])
      after.forM (Step.perform (baseDir ++ [str "data"]))
      return (baseDir ++ [str "module.wasm"], stdinPath, baseDir ++ [str "data"]) := by
    rw [prepareWasiEnvironment_eq, listed]
    simp only [forM_eq_forM, forM_append, forM_cons, bind_assoc]
  rw [whole, prepareUpTo]
  cases begun : begin job baseDir state with
  | error err next =>
    rw [bind_of_error begun, bind_of_error begun]
    exact ⟨err, rfl⟩
  | ok stdinPath next =>
    rw [bind_of_ok begun, bind_of_ok begun]
    cases gone : before.forM (Step.perform (baseDir ++ [str "data"])) next with
    | error err last => exact ⟨err, bind_of_error gone⟩
    | ok _ last =>
      obtain ⟨err, refused⟩ := perform_of_escapes escapes last
      refine ⟨err, ?_⟩
      rw [bind_of_ok gone]
      exact bind_of_error refused

/-- Preparing stays in the directory of the job. A path of the job that leads out
of the data directory makes it raise, with nothing done for that path. -/
theorem prepareWasiEnvironment_sandboxed (job : JobInfo) (baseDir : Path) (state : Preparation)
    (fresh : state.disk.Stands baseDir) :
    Within (Own baseDir) state (final (prepareWasiEnvironment job baseDir state)) ∧
    ∀ before step after, steps job = before ++ step :: after →
      step.Escapes (baseDir ++ [str "data"]) → ∃ err, prepareWasiEnvironment job baseDir state =
        .error err (final (prepareUpTo job baseDir before state)) :=
  ⟨confined_prepareWasiEnvironment job baseDir state fresh,
    fun _ _ _ listed escapes => prepareWasiEnvironment_of_escapes listed escapes state⟩

end Preparation

open scoped Samples

/-- A job with a path that leads out of every directory. -/
def escapingJob : JobInfo := { sampleJobInfo with dirs := [str "out", str "/a/../../../etc"] }

/-- The module is stored, and the directory of the job is there. -/
def freshPreparation : Preparation where
  storage := Storage.new.storeEach shippedJob.data.items
  disk := Dict.empty.set [str "job"] .directory

theorem escapingJob_sandboxed : freshPreparation.disk.Stands [str "job"] ∧
    Preparation.Within (Preparation.Own [str "job"]) freshPreparation
      (Preparation.final (Preparation.prepareWasiEnvironment escapingJob [str "job"] freshPreparation)) ∧
    ∃ err, Preparation.prepareWasiEnvironment escapingJob [str "job"] freshPreparation =
      .error err (Preparation.final
        (Preparation.prepareUpTo escapingJob [str "job"] [.directory (str "out")] freshPreparation)) := by
  have fresh : freshPreparation.disk.Stands [str "job"] := by
    have made : ∀ ancestor ∈ [str "job"].inits, freshPreparation.disk.isDir ancestor = true := by decide
    exact fun ancestor above => made ancestor ((mem_inits _ _).mpr above)
  obtain ⟨inside, refused⟩ :=
    Preparation.prepareWasiEnvironment_sandboxed escapingJob [str "job"] freshPreparation fresh
  refine ⟨fresh, inside, refused [.directory (str "out")]
    (.directory (str "/a/../../../etc")) [] rfl ?_⟩
  unfold Preparation.Step.Escapes
  decide

end RecDtn.Rec
