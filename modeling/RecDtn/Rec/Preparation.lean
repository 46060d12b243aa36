import RecDtn.Rec.Executor

/-! The files that a job finds when it is run, and whose data is in them. -/

namespace RecDtn.Rec

open Python Lang BundleType List

/-- The parts of an absolute path. There are no symbolic links below the
directory of a job, so that a path is resolved part by part. -/
abbrev Path := List Str

namespace Path

def text (path : Path) : String := String.ofList (path.flatMap fun part => '/' :: part)

def enter (path : Path) (part : Str) : Path :=
  if part = [] ∨ part = str "." then path
  else if part = str ".." then path.dropLast
  else path ++ [part]

/-- `(directory / text.lstrip("/")).resolve()`. -/
def resolve (directory : Path) (text : Str) : Path :=
  ((text.dropWhile (· = '/')).splitOn '/').foldl enter directory

def parent (path : Path) : Path := path.dropLast

end Path

inductive FileKind where
  | directory
  | file (content : List UInt8)
  deriving DecidableEq

/-- What is on the disk. The root is always there. -/
abbrev Disk := Dict Path FileKind

namespace Disk

def isFile (disk : Disk) (path : Path) : Bool :=
  match disk.get? path with
  | some (.file _) => true
  | _ => false

def isDir (disk : Disk) (path : Path) : Bool := path = [] || disk.get? path = some .directory

/-- A path whose way leads through a file. -/
def blocked (disk : Disk) (path : Path) : Bool := path.parent.inits.any disk.isFile

/-- `path.mkdir(parents=True, exist_ok=True)`. -/
def mkdir (disk : Disk) (path : Path) : Py Disk :=
  if disk.blocked path then raise .osError s!"[Errno 20] Not a directory: '{path.text}'"
  else if disk.isFile path then raise .osError s!"[Errno 17] File exists: '{path.text}'"
  else .ok (path.inits.foldl
    (fun disk ancestor => if disk.isDir ancestor then disk else disk.set ancestor .directory) disk)

/-- Where `copyfile` writes to. -/
def write (disk : Disk) (path : Path) (content : List UInt8) : Py Disk :=
  if disk.blocked path then raise .osError s!"[Errno 20] Not a directory: '{path.text}'"
  else if disk.isDir path then raise .osError s!"[Errno 21] Is a directory: '{path.text}'"
  else if disk.isDir path.parent then .ok (disk.set path (.file content))
  else raise .fileNotFoundError s!"[Errno 2] No such file or directory: '{path.text}'"

end Disk

section

variable [TinyDb]

/-- A file that has been built from named data. -/
structure Copy where
  path : Path
  name : Str
  content : List UInt8

/-- What preparing works on, with all the files built so far. -/
structure Preparation where
  storage : Storage
  disk : Disk
  copies : List Copy := []

/-- A call that works on a preparation, and returns or raises. -/
abbrev Preparing := EStateM PyError Preparation

namespace Preparation

def mkdir (path : Path) : Preparing Unit := fun state =>
  match state.disk.mkdir path with
  | .ok disk => .ok () { state with disk }
  | .error err => .error err state

def copyToFile (name : Str) (destination : Path) : Preparing Unit := fun state =>
  match state.storage.copyToFile name with
  | (storage, .error err) => .error err { state with storage }
  | (storage, .ok content) =>
    match state.disk.write destination content with
    | .error err => .error err { state with storage }
    | .ok disk => .ok () ⟨storage, disk, state.copies ++ [⟨destination, name, content⟩]⟩

/-- A path of the job, which has to stay in the data directory. -/
def resolveIn (dataDir : Path) (what : String) (path : Str) : Preparing Path :=
  let resolved := dataDir.resolve path
  if dataDir <+: resolved then pure resolved
  else throw ⟨.valueError, s!"{what} path escapes data directory: {String.ofList path}"⟩

def makeDirectory (dataDir : Path) (path : Str) : Preparing Unit := do
  mkdir (← resolveIn dataDir "Directory" path)

def writeDataFile (dataDir : Path) (item : Str × Str) : Preparing Unit := do
  let path ← resolveIn dataDir "Data file" item.1
  mkdir path.parent
  copyToFile item.2 path

/-- The directory of a file that takes output. -/
def makeParent (dataDir : Path) (what : String) (file : Option Str) : Preparing Unit :=
  match JobInfo.given file with
  | none => pure ()
  | some path => do mkdir (← resolveIn dataDir what path).parent

def prepareStdin (baseDir : Path) (file : Option Str) : Preparing (Option Path) :=
  match JobInfo.given file with
  | none => pure none
  | some name => do
    let path := baseDir ++ [str "stdin.bin"]
    copyToFile name path
    return some path

/-- `_prepare_wasi_environment`, in a directory whose path is resolved. -/
def prepareWasiEnvironment [Unicode] (job : JobInfo) (baseDir : Path) :
    Preparing (Path × Option Path × Path) := do
  mkdir baseDir
  let wasmPath := baseDir ++ [str "module.wasm"]
  copyToFile job.wasmModule wasmPath
  let stdinPath ← prepareStdin baseDir job.stdinFile
  let dataDir := baseDir ++ [str "data"]
  mkdir dataDir
  job.dirs.forM (makeDirectory dataDir)
  job.data.items.forM (writeDataFile dataDir)
  makeParent dataDir "stdout_file" job.stdoutFile
  makeParent dataDir "stderr_file" job.stderrFile
  return (wasmPath, stdinPath, dataDir)

variable [Sha1]

/-- The state that a call leaves, returned or raised. -/
def final {α : Type} (outcome : EStateM.Result PyError Preparation α) : Preparation :=
  match outcome with
  | .ok _ state => state
  | .error _ state => state

/-- A call keeps the storage, and builds files with the data that the storage has
for their names. If it returns, it has built one for each of the given names. -/
def Builds {α : Type} (names : List Str) (call : Preparing α) : Prop :=
  ∀ state : Preparation, state.storage.Sound → ∃ made,
    (final (call state)).storage = state.storage ∧
    (final (call state)).copies = state.copies ++ made ∧
    (∀ copy ∈ made, (state.storage.copyToFile copy.name).2 = .ok copy.content) ∧
    (∀ result next, call state = .ok result next → made.map Copy.name = names)

variable {α β : Type} {names : List Str} {call : Preparing α}

variable {rest : α → Preparing β} {state next : Preparation}

omit [Sha1] in
theorem bind_of_error {err : PyError} (raised : call state = .error err next) :
    (call >>= rest) state = .error err next := by
  change EStateM.bind call rest state = _
  rw [EStateM.bind, raised]

omit [Sha1] in
theorem bind_of_ok {value : α} (returned : call state = .ok value next) :
    (call >>= rest) state = rest value next := by
  change EStateM.bind call rest state = _
  rw [EStateM.bind, returned]

theorem Builds.bind {more : List Str} (begins : Builds names call)
    (continues : ∀ value, Builds more (rest value)) : Builds (names ++ more) (call >>= rest) := by
  intro state sound
  obtain ⟨made, kept, copies, right, named⟩ := begins state sound
  cases called : call state with
  | error err next =>
    rw [called] at kept copies
    rw [bind_of_error called]
    refine ⟨made, kept, copies, right, ?_⟩
    intro result last returned
    cases returned
  | ok value next =>
    rw [called] at kept copies
    have kept : next.storage = state.storage := kept
    have copies : next.copies = state.copies ++ made := copies
    obtain ⟨added, keptAgain, copiesAgain, rightAgain, namedAgain⟩ :=
      continues value next (by rw [kept]; exact sound)
    rw [bind_of_ok called]
    refine ⟨made ++ added, keptAgain.trans kept, ?_, ?_, ?_⟩
    · rw [copiesAgain, copies, append_assoc]
    · intro copy member
      rcases mem_append.mp member with early | late
      · exact right copy early
      · rw [← kept]
        exact rightAgain copy late
    · intro result last returned
      rw [map_append, named value next called, namedAgain result last returned]

end Preparation

variable [Sha1] [Unicode] [JobCodec]

/-- Every file that was built under a name that the job brought holds what the job
brought. -/
def Faithful (job : Job) (copies : List Copy) : Prop :=
  ∀ copy ∈ copies, ∀ data, job.data.get? copy.name = some data → copy.content = data

namespace Docket

end Docket

open Docket

end

open scoped Samples

attribute [local instance] shippedCodec

theorem exists_of_returned
    {outcome : EStateM.Result PyError Preparation (Path × Option Path × Path)}
    (returned : (match outcome with | .ok _ _ => true | .error _ _ => false) = true) :
    ∃ paths last, outcome = .ok paths last := by
  cases outcome with
  | ok paths last => exact ⟨paths, last, rfl⟩
  | error err last => cases returned

end RecDtn.Rec
