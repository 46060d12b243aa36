import RecDtn.Lang.Dict
import RecDtn.Lang.Text
import RecDtn.Rec.Messages

namespace RecDtn.Rec

open Python Lang

abbrev Uuid := BitVec 128

/-- The text of a UUID, in groups of hexadecimal digits. -/
def Uuid.text (uuid : Uuid) : Str :=
  let digits := (List.range 32).map fun place => Nat.digitChar (uuid.toNat / 16 ^ (31 - place) % 16)
  digits.take 8 ++ '-' :: (digits.drop 8).take 4 ++ '-' :: (digits.drop 12).take 4 ++
    '-' :: (digits.drop 16).take 4 ++ '-' :: digits.drop 20

def msgpackMaxint : Nat := 18446744073709551615

/-- Resources that a job needs or a system has, as the constructor accepts them. -/
structure Capabilities where
  cpuCores : Nat
  freeCpuCapacity : Nat
  freeMemory : Nat
  freeDiskSpace : Nat
  positive : 0 < cpuCores
  bounded : cpuCores ≤ msgpackMaxint ∧ freeCpuCapacity ≤ msgpackMaxint ∧
    freeMemory ≤ msgpackMaxint ∧ freeDiskSpace ≤ msgpackMaxint
  deriving DecidableEq

def Capabilities.isCapableOf (system caps : Capabilities) : Bool :=
  caps.cpuCores ≤ system.cpuCores && caps.freeCpuCapacity ≤ system.freeCpuCapacity &&
    caps.freeMemory ≤ system.freeMemory && caps.freeDiskSpace ≤ system.freeDiskSpace

section

variable [Unicode]

structure JobInfo where
  jobId : Uuid
  wasmModule : Str
  capabilities : Capabilities
  submitter : Eid
  resultsReceiver : Eid
  argv : List Str
  env : Dict Str Str
  stdinFile : Option Str
  dirs : List Str
  data : Dict Str Str
  stdoutFile : Option Str
  stderrFile : Option Str
  results : List Str
  namedResults : Dict Str Str
  named : wasmModule ≠ []
  deriving DecidableEq

namespace JobInfo

/-- A text that is not there counts as false, and so does the empty one. -/
def given : Option Str → Option Str
  | some [] => none
  | text => text

def requiredNamedData (info : JobInfo) : List Str :=
  info.wasmModule :: (given info.stdinFile).toList ++ info.data.values

end JobInfo

structure Job where
  metadata : JobInfo
  data : Dict Str (List UInt8)
  deriving DecidableEq

structure JobResult where
  metadata : JobInfo
  resultsData : List UInt8 := []
  deriving DecidableEq

/-- Jobs and results as bytes: `packb` and `unpackb` around `dictify` and
`from_dict`. -/
class JobCodec where
  serialize : Job → List UInt8
  deserialize : List UInt8 → Py Job
  deserializeResult : List UInt8 → Py JobResult
  /-- The answer to a query: the completed and the queued jobs. -/
  serializeList : List JobInfo → List JobInfo → List UInt8

@[reducible] def JobCodec.numbered (jobs : List Job) : JobCodec where
  serialize job := [UInt8.ofNat (jobs.idxOf job)]
  deserialize payload :=
    match payload with
    | [number] =>
      match jobs[number.toNat]? with
      | some job => .ok job
      | none => raise .valueError "unknown job"
    | _ => raise .valueError "unknown job"
  deserializeResult _ := raise .valueError "unknown job"
  serializeList _ _ := []

end

open scoped Samples

def sampleJobInfo : JobInfo where
  jobId := 1
  wasmModule := str "module"
  capabilities := ⟨1, 0, 0, 0, by decide, by decide⟩
  submitter := sampleClient
  resultsReceiver := Eid.none
  argv := []
  env := .empty
  stdinFile := none
  dirs := []
  data := .empty
  stdoutFile := none
  stderrFile := none
  results := []
  namedResults := .empty
  named := by decide

end RecDtn.Rec
