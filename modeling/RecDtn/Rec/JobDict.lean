import RecDtn.Rec.Job
import RecDtn.Rec.MessageRoundTrip

namespace RecDtn.Rec

open Python Lang Lang.MessagePack List

/-- `UUID(text)`. It reads back the text of a UUID; which other texts it accepts
is left open. -/
class UuidText where
  parse : Str → Py Uuid
  parse_text : ∀ uuid : Uuid, parse uuid.text = .ok uuid

namespace Uuid

/-- The digits of a number, the highest first. -/
def hexDigits (count number : Nat) : Str :=
  (List.range count).map fun place => Nat.digitChar (number / 16 ^ (count - 1 - place) % 16)

def hexValue (letter : Char) : Option Nat :=
  if letter.isDigit then some (letter.toNat - 48)
  else if 97 ≤ letter.toNat ∧ letter.toNat ≤ 102 then some (letter.toNat - 87)
  else none

theorem hexValue_digitChar : ∀ digit < 16, hexValue (Nat.digitChar digit) = some digit := by decide

/-- Groups of digits, without the marks between them. -/
def parseHex (text : Str) : Py Uuid :=
  let digits := text.filter (· != '-')
  if digits.length ≠ 32 then raise .valueError "badly formed hexadecimal UUID string"
  else
    match digits.mapM hexValue with
    | none => raise .valueError s!"invalid literal for int() with base 16: '{String.ofList digits}'"
    | some values => .ok (BitVec.ofNat 128 (values.foldl (fun number value => 16 * number + value) 0))

theorem mapM_hexDigits (count number : Nat) : (hexDigits count number).mapM hexValue =
      some ((List.range count).map fun place => number / 16 ^ (count - 1 - place) % 16) := by
  have each : ∀ places : List Nat,
      (places.map fun place => Nat.digitChar (number / 16 ^ (count - 1 - place) % 16)).mapM
        hexValue = some (places.map fun place => number / 16 ^ (count - 1 - place) % 16) := by
    intro places
    induction places with
    | nil => rfl
    | cons place rest ih =>
      rw [map_cons, mapM_cons, ih, hexValue_digitChar _ (Nat.mod_lt _ (by decide))]
      rfl
  exact each _

/-- The digits make up the number, as far as they go. -/
theorem foldl_digits (count number : Nat) :
    ((List.range count).map fun place => number / 16 ^ (count - 1 - place) % 16).foldl
      (fun number value => 16 * number + value) 0 = number % 16 ^ count := by
  induction count generalizing number with
  | zero => simp [Nat.mod_one]
  | succ count ih =>
    have front : ((List.range count).map fun place => number / 16 ^ (count + 1 - 1 - place) % 16) =
        (List.range count).map fun place => number / 16 / 16 ^ (count - 1 - place) % 16 := by
      apply map_congr_left
      intro place member
      have before : place < count := mem_range.mp member
      have power : count + 1 - 1 - place = (count - 1 - place) + 1 := by omega
      rw [power, Nat.pow_succ', ← Nat.div_div_eq_div_mul]
    rw [range_succ, map_append, foldl_append, front, ih]
    simp only [map_cons, map_nil, foldl_cons, foldl_nil, Nat.add_sub_cancel, Nat.sub_self,
      Nat.pow_zero, Nat.div_one]
    rw [Nat.pow_succ', Nat.mod_mul, Nat.add_comm]

/-- The marks are between the digits, and no digit is a mark. -/
theorem filter_text (uuid : Uuid) : uuid.text.filter (· != '-') = hexDigits 32 uuid.toNat := by
  have plain : ∀ letter ∈ hexDigits 32 uuid.toNat, (letter != '-') = true := by
    intro letter member
    obtain ⟨place, -, rfl⟩ := mem_map.mp member
    simp
  have kept : ∀ part : Str, part.Sublist (hexDigits 32 uuid.toNat) →
      part.filter (· != '-') = part := by
    intro part fewer
    exact filter_eq_self.mpr fun letter member => plain letter (fewer.subset member)
  have groups : uuid.text = (hexDigits 32 uuid.toNat).take 8 ++ '-' ::
      ((hexDigits 32 uuid.toNat).drop 8).take 4 ++
      '-' :: ((hexDigits 32 uuid.toNat).drop 12).take 4 ++ '-' :: ((hexDigits 32 uuid.toNat).drop 16).take 4 ++
      '-' :: (hexDigits 32 uuid.toNat).drop 20 := rfl
  have mark : (('-' : Char) != '-') = false := by decide
  rw [groups]
  generalize hexDigits 32 uuid.toNat = digits at kept
  simp only [filter_append, filter_cons, mark, Bool.false_eq_true, ↓reduceIte,
    kept _ (take_sublist 8 digits), kept _ ((take_sublist 4 _).trans (drop_sublist _ digits)),
    kept _ (drop_sublist 20 digits)]
  have joined : ∀ start, (digits.drop start).take 4 ++ digits.drop (start + 4) =
      digits.drop start := by
    intro start
    rw [← drop_drop, take_append_drop]
  rw [append_assoc, append_assoc, append_assoc, joined 16, joined 12, joined 8, take_append_drop]

theorem parseHex_text (uuid : Uuid) : parseHex uuid.text = .ok uuid := by
  have count : (hexDigits 32 uuid.toNat).length = 32 := by simp [hexDigits]
  have fits : uuid.toNat % 16 ^ 32 = uuid.toNat := Nat.mod_eq_of_lt (by
    have bound := uuid.isLt
    omega)
  unfold parseHex
  simp only [filter_text]
  rw [if_neg (not_not.mpr count), mapM_hexDigits]
  dsimp only
  rw [foldl_digits, fits, BitVec.ofNat_toNat, BitVec.setWidth_eq]

end Uuid

@[reducible] def UuidText.hex : UuidText := ⟨Uuid.parseHex, Uuid.parseHex_text⟩

def asDict : Value Str → Option Entries
  | .dict entries => some entries
  | _ => none

def asTexts : Value Str → Option (List Str)
  | .array items => items.mapM asStr
  | _ => none

/-- A text or `None`. -/
def asText? : Value Str → Option (Option Str)
  | .nil => some none
  | .str text => some (some text)
  | _ => none

def asDictOf {ν : Type} (read : Value Str → Option ν) : Value Str → Option (Dict Str ν)
  | .dict entries => Dict.ofItems <$> entries.mapM fun item => (read item.2).map (item.1, ·)
  | _ => none

/-- A parameter that has a default. -/
def optional {α : Type} (read : Value Str → Option α) (key : String) (default : α)
    (data : Entries) : Py α :=
  match entry read key data with
  | some value => .ok (value.getD default)
  | none => raise .typeError s!"'{key}' is of another type"

/-- A parameter without a default. -/
def required {α : Type} (cls : String) (read : Value Str → Option α) (key : String)
    (data : Entries) : Py α :=
  match entry read key data with
  | some (some value) => .ok value
  | some none => raise .typeError s!"{cls}.__init__() missing 1 required positional argument: '{key}'"
  | none => raise .typeError s!"'{key}' is of another type"

/-- `cls(**data)` refuses a key that is no parameter. -/
def expected (cls : String) (parameters : List Str) (data : Entries) : Py Unit :=
  match data.find? fun item => !parameters.contains item.1 with
  | some item =>
    raise .typeError s!"{cls}.__init__() got an unexpected keyword argument '{String.ofList item.1}'"
  | none => .ok ()

def ofTexts (texts : List Str) : Value Str := .array (texts.map .str)

def ofDict {ν : Type} (write : ν → Value Str) (dict : Dict Str ν) : Value Str :=
  .dict (dict.items.map fun item => (item.1, write item.2))

theorem asTexts_ofTexts (texts : List Str) : asTexts (ofTexts texts) = some texts := by
  change (texts.map Value.str).mapM asStr = some texts
  induction texts with
  | nil => rfl
  | cons text rest ih =>
    rw [map_cons, mapM_cons, ih]
    rfl

theorem asDictOf_ofDict {ν : Type} {read : Value Str → Option ν} {write : ν → Value Str}
    (reads : ∀ value, read (write value) = some value) (dict : Dict Str ν) :
    asDictOf read (ofDict write dict) = some dict := by
  have items : ∀ items : List (Str × ν), (items.map fun item => (item.1, write item.2)).mapM
      (fun item => (read item.2).map (item.1, ·)) = some items := by
    intro items
    induction items with
    | nil => rfl
    | cons item rest ih =>
      rw [map_cons, mapM_cons, ih]
      dsimp only
      rw [reads]
      rfl
  change Dict.ofItems <$> (dict.items.map fun item => (item.1, write item.2)).mapM _ = _
  rw [items]
  exact congrArg some dict.ofItems_items

variable {cls : String}

theorem expected_of_known {parameters : List Str} {data : Entries}
    (known : ∀ key ∈ data.map Prod.fst, key ∈ parameters) :
    expected cls parameters data = .ok () := by
  have found : data.find? (fun item => !parameters.contains item.1) = none := by
    rw [List.find?_eq_none]
    intro item member
    have inside := known item.1 (mem_map.mpr ⟨item, member, rfl⟩)
    simp [inside]
  rw [expected, found]

section

variable {α : Type} (read : Value Str → Option α) {key : String} {data : Entries}
  {value : Value Str} {result : α} {default : α}

theorem optional_of_given {condition : Prop} [Decidable condition]
    (looked : find (str key) data = given condition value) (reads : read value = some result)
    (unset : ¬condition → default = result) : optional read key default data = .ok result := by
  rw [optional, entry_of_given read looked reads]
  dsimp only
  rw [getD_given unset]

section

variable (looked : find (str key) data = some value) (reads : read value = some result)

include looked reads

theorem argument_of_some : argument read key data = .ok result := by
  rw [argument, entry_of_some read looked reads]

theorem required_of_some : required cls read key data = .ok result := by
  rw [required, entry_of_some read looked reads]

theorem optional_of_some : optional read key default data = .ok result := by
  rw [optional, entry_of_some read looked reads]
  rfl

end

end

namespace Capabilities

/-- `__post_init__`. -/
def new (cpuCores freeCpuCapacity freeMemory freeDiskSpace : Int) : Py Capabilities :=
  if cores : cpuCores ≤ 0 then raise .valueError "Must have a positive number of CPU cores"
  else if capacity : freeCpuCapacity < 0 then
    raise .valueError "Must have a non-negative amount of free CPU capacity"
  else if memory : freeMemory < 0
    then raise .valueError "Must have a non-negative amount of free memory"
  else if disk : freeDiskSpace < 0
    then raise .valueError "Must have a non-negative amount of free disk space"
  else if large : msgpackMaxint < cpuCores ∨ msgpackMaxint < freeCpuCapacity ∨
      msgpackMaxint < freeMemory ∨ msgpackMaxint < freeDiskSpace then
    raise .valueError s!"Values may not be larger than {msgpackMaxint}"
  else .ok ⟨cpuCores.toNat, freeCpuCapacity.toNat, freeMemory.toNat,
    freeDiskSpace.toNat, by omega, by omega⟩

def fields (caps : Capabilities) : List (Str × Option (Value Str)) :=
  [(str "cpu_cores", given (caps.cpuCores ≠ 0) (.int caps.cpuCores)),
    (str "free_cpu_capacity", given (caps.freeCpuCapacity ≠ 0) (.int caps.freeCpuCapacity)),
    (str "free_memory", given (caps.freeMemory ≠ 0) (.int caps.freeMemory)),
    (str "free_disk_space", given (caps.freeDiskSpace ≠ 0) (.int caps.freeDiskSpace))]

def dictify (caps : Capabilities) : Entries := record caps.fields

def parameters : List Str :=
  [str "cpu_cores", str "free_cpu_capacity", str "free_memory", str "free_disk_space"]

def fromDict (data : Entries) : Py Capabilities := do
  expected "Capabilities" parameters data
  let cpuCores ← optional asInt "cpu_cores" 1 data
  let freeCpuCapacity ← optional asInt "free_cpu_capacity" 0 data
  let freeMemory ← optional asInt "free_memory" 0 data
  let freeDiskSpace ← optional asInt "free_disk_space" 0 data
  new cpuCores freeCpuCapacity freeMemory freeDiskSpace

theorem new_self (caps : Capabilities) :
    new caps.cpuCores caps.freeCpuCapacity caps.freeMemory caps.freeDiskSpace = .ok caps := by
  have positive := caps.positive
  obtain ⟨cores, capacity, memory, disk⟩ := caps.bounded
  unfold new
  rw [dif_neg (by omega), dif_neg (by omega), dif_neg (by omega), dif_neg (by omega),
    dif_neg (by omega)]
  rfl

/-- Zeros come back as defaults, and the number of cores is never zero. -/
theorem fromDict_dictify (caps : Capabilities) : fromDict caps.dictify = .ok caps := by
  have distinct : (caps.fields.map Prod.fst).Nodup := by
    change parameters.Nodup
    decide
  have each : ∀ field ∈ caps.fields, find field.1 caps.dictify = field.2 := fun field member =>
    find_record distinct member
  have known : expected "Capabilities" parameters caps.dictify = .ok () :=
    expected_of_known fun key member => key_of_record member
  have zero : ∀ {number : Nat}, ¬number ≠ 0 → (0 : Int) = number := by
    intro number nothing
    rw [not_not.mp nothing]
    rfl
  rw [fromDict, known]
  generalize caps.dictify = data at each
  simp only [fields, forall_mem_cons] at each
  obtain ⟨cores, capacity, memory, disk, -⟩ := each
  have positive := caps.positive
  rw [optional_of_given asInt cores rfl (fun nothing => absurd (not_not.mp nothing) (by omega)),
    optional_of_given asInt capacity rfl zero, optional_of_given asInt memory rfl zero,
    optional_of_given asInt disk rfl zero]
  exact caps.new_self

end Capabilities

section

variable [Unicode]

namespace JobInfo

/-- The fields in their order. The ID and the capabilities are never false; they
are replaced by a text and a dictionary. -/
def fields (info : JobInfo) : List (Str × Option (Value Str)) :=
  [(str "job_id", some (.str info.jobId.text)),
    (str "wasm_module", Rec.given (info.wasmModule ≠ []) (.str info.wasmModule)),
    (str "capabilities", some (.dict info.capabilities.dictify)),
    (str "submitter", Rec.given info.submitter.isSome (.str info.submitter.text)),
    (str "results_receiver", Rec.given info.resultsReceiver.isSome (.str info.resultsReceiver.text)),
    (str "argv", Rec.given (info.argv ≠ []) (ofTexts info.argv)),
    (str "env", Rec.given (info.env.items ≠ []) (ofDict .str info.env)),
    (str "stdin_file", (given info.stdinFile).map .str),
    (str "dirs", Rec.given (info.dirs ≠ []) (ofTexts info.dirs)),
    (str "data", Rec.given (info.data.items ≠ []) (ofDict .str info.data)),
    (str "stdout_file", (given info.stdoutFile).map .str),
    (str "stderr_file", (given info.stderrFile).map .str),
    (str "results", Rec.given (info.results ≠ []) (ofTexts info.results)),
    (str "named_results", Rec.given (info.namedResults.items ≠ []) (ofDict .str info.namedResults))]

def dictify (info : JobInfo) : Entries := record info.fields

def parameters : List Str :=
  [str "job_id", str "wasm_module", str "capabilities", str "submitter",
    str "results_receiver", str "argv",
    str "env", str "stdin_file", str "dirs", str "data", str "stdout_file",
      str "stderr_file", str "results",
    str "named_results"]

/-- An endpoint ID that may be left out. -/
def eidEntry (key : String) (data : Entries) : Py Eid :=
  match entry asStr key data with
  | some (some text) => Eid.new text
  | some none => .ok Eid.none
  | none => raise .typeError s!"'{key}' is of another type"

def fromDict [UuidText] (data : Entries) : Py JobInfo := do
  let jobId ← UuidText.parse (← argument asStr "job_id" data)
  let capabilities ← Capabilities.fromDict (← argument asDict "capabilities" data)
  let submitter ← eidEntry "submitter" data
  let resultsReceiver ← eidEntry "results_receiver" data
  expected "JobInfo" parameters data
  let wasmModule ← required "JobInfo" asStr "wasm_module" data
  let argv ← optional asTexts "argv" [] data
  let env ← optional (asDictOf asStr) "env" .empty data
  let stdinFile ← optional asText? "stdin_file" none data
  let dirs ← optional asTexts "dirs" [] data
  let namedData ← optional (asDictOf asStr) "data" .empty data
  let stdoutFile ← optional asText? "stdout_file" none data
  let stderrFile ← optional asText? "stderr_file" none data
  let results ← optional asTexts "results" [] data
  let namedResults ← optional (asDictOf asStr) "named_results" .empty data
  if named : wasmModule = [] then raise .valueError "Job needs a wasm module"
  else return ⟨jobId, wasmModule, capabilities, submitter, resultsReceiver, argv, env, stdinFile,
    dirs, namedData, stdoutFile, stderrFile, results, namedResults, named⟩

/-- The job without empty texts for its files. -/
def blankless (info : JobInfo) : JobInfo :=
  { info with
    stdinFile := given info.stdinFile
    stdoutFile := given info.stdoutFile
    stderrFile := given info.stderrFile }

/-- No file has an empty text. -/
def Blankless (info : JobInfo) : Prop :=
  info.stdinFile ≠ some [] ∧ info.stdoutFile ≠ some [] ∧ info.stderrFile ≠ some []

variable {file : Option Str} {key : String} {data : Entries}

omit [Unicode] in
theorem given_eq_self : given file = file ↔ file ≠ some [] := by
  unfold given
  split
  · simp
  · rename_i other
    exact iff_of_true rfl fun blank => other blank

theorem blankless_eq_self {info : JobInfo} : info.blankless = info ↔ info.Blankless := by
  unfold Blankless
  rw [← given_eq_self, ← given_eq_self, ← given_eq_self]
  constructor
  · intro same
    exact ⟨congrArg stdinFile same, congrArg stdoutFile same, congrArg stderrFile same⟩
  · rintro ⟨stdin, stdout, stderr⟩
    unfold blankless
    rw [stdin, stdout, stderr]

theorem blankless_blankless (info : JobInfo) : info.blankless.blankless = info.blankless := by
  have twice : ∀ file : Option Str, given file ≠ some [] := by
    intro file
    unfold given
    split
    · simp
    · rename_i other
      exact fun blank => other blank
  exact blankless_eq_self.mpr ⟨twice _, twice _, twice _⟩

theorem distinct_fields (info : JobInfo) : (info.fields.map Prod.fst).Nodup := by
  change parameters.Nodup
  decide

omit [Unicode] in
/-- A text for a file is left out, or comes back. -/
theorem optional_of_file (looked : find (str key) data = (given file).map .str) :
    optional asText? key none data = .ok (given file) := by
  unfold optional entry
  rw [looked]
  cases given file with
  | none => rfl
  | some text => rfl

variable [DecimalDigits]

theorem eidEntry_of_given {eid : Eid}
    (looked : find (str key) data = Rec.given eid.isSome (.str eid.text)) :
    eidEntry key data = .ok eid := by
  rw [eidEntry, entry_of_given asStr looked rfl]
  rcases eid.told_given with ⟨absent, null⟩ | present
  · rw [absent, null]
  · rw [present]
    exact eid.new_text

/-- What counts as false comes back as its default, except that an empty text
for a file comes back as `None`. -/
theorem fromDict_dictify [UuidText] (info : JobInfo) :
    fromDict info.dictify = .ok info.blankless := by
  have each : ∀ field ∈ info.fields, find field.1 info.dictify = field.2 := fun field member =>
    find_record info.distinct_fields member
  have known : expected "JobInfo" parameters info.dictify = .ok () :=
    expected_of_known fun key member => key_of_record member
  have noTexts : ∀ {texts : List Str}, ¬texts ≠ [] → [] = texts :=
    fun empty => (not_not.mp empty).symm
  have noItems : ∀ {dict : Dict Str Str}, ¬dict.items ≠ [] → Dict.empty = dict := by
    intro dict empty
    rw [← dict.ofItems_items, not_not.mp empty]
    rfl
  have texts : ∀ dict : Dict Str Str, asDictOf asStr (ofDict .str dict) = some dict :=
    asDictOf_ofDict fun _ => rfl
  unfold fromDict
  rw [known]
  generalize info.dictify = data at each
  simp only [fields, forall_mem_cons] at each
  obtain ⟨jobId, wasmModule, capabilities, submitter, resultsReceiver, argv, env, stdinFile,
    dirs, namedData, stdoutFile, stderrFile, results, namedResults, -⟩ := each
  rw [argument_of_some asStr jobId rfl, argument_of_some asDict capabilities rfl,
    eidEntry_of_given submitter,
    eidEntry_of_given resultsReceiver,
      required_of_some asStr (wasmModule.trans (if_pos info.named)) rfl,
    optional_of_given asTexts argv (asTexts_ofTexts _) noTexts,
    optional_of_given (asDictOf asStr) env (texts _) noItems, optional_of_file stdinFile,
    optional_of_given asTexts dirs (asTexts_ofTexts _) noTexts,
    optional_of_given (asDictOf asStr) namedData (texts _) noItems, optional_of_file stdoutFile,
    optional_of_file stderrFile, optional_of_given asTexts results (asTexts_ofTexts _) noTexts,
    optional_of_given (asDictOf asStr) namedResults (texts _) noItems]
  simp only [bind, Except.bind, UuidText.parse_text, Capabilities.fromDict_dictify]
  rw [dif_neg info.named]
  rfl

end JobInfo

namespace Job

def dictify (job : Job) : Entries :=
  [(str "metadata", .dict job.metadata.dictify), (str "data", ofDict .bin job.data)]

variable [UuidText]

def fromDict (data : Entries) : Py Job := do
  let metadata ← JobInfo.fromDict (← argument asDict "metadata" data)
  expected "Job" [str "metadata", str "data"] data
  let content ← required "Job" (asDictOf asBytes) "data" data
  return ⟨metadata, content⟩

theorem fromDict_dictify [DecimalDigits] (job : Job) :
    fromDict job.dictify = .ok ⟨job.metadata.blankless, job.data⟩ := by
  have metadata : find (str "metadata") job.dictify = some (.dict job.metadata.dictify) := rfl
  have content : find (str "data") job.dictify = some (ofDict .bin job.data) := rfl
  have bytes : ∀ data : List UInt8, asBytes (.bin data) = some data := fun _ => rfl
  unfold fromDict
  rw [argument_of_some asDict metadata rfl,
    required_of_some (asDictOf asBytes) content (asDictOf_ofDict bytes _)]
  simp only [bind, Except.bind, JobInfo.fromDict_dictify]
  rfl

end Job

namespace JobResult

def dictify (result : JobResult) : Entries :=
  [(str "metadata", .dict result.metadata.dictify), (str "results_data", .bin result.resultsData)]

variable [UuidText]

def fromDict (data : Entries) : Py JobResult := do
  let metadata ← JobInfo.fromDict (← argument asDict "metadata" data)
  expected "JobResult" [str "metadata", str "results_data"] data
  let resultsData ← optional asBytes "results_data" [] data
  return ⟨metadata, resultsData⟩

theorem fromDict_dictify [DecimalDigits] (result : JobResult) :
    fromDict result.dictify = .ok ⟨result.metadata.blankless, result.resultsData⟩ := by
  have metadata : find (str "metadata") result.dictify = some (.dict result.metadata.dictify) := rfl
  have content : find (str "results_data") result.dictify = some (.bin result.resultsData) := rfl
  unfold fromDict
  rw [argument_of_some asDict metadata rfl, optional_of_some asBytes content rfl]
  simp only [bind, Except.bind, JobInfo.fromDict_dictify]
  rfl

end JobResult

section

variable [Libraries]

/-- `cls.from_dict(unpackb(serialized))`. -/
def unpackDict {α : Type} (fromDict : Entries → Py α) (serialized : List UInt8) : Py α :=
  match Libraries.unpackb serialized with
  | .ok (.dict data) => fromDict data
  | .ok _ => raise .typeError "the object is no dictionary"
  | .error text => raise .valueError text

omit [Unicode] in
theorem unpackDict_packb [Ormsgpack] {α : Type} (fromDict : Entries → Py α) (data : Entries) :
    unpackDict fromDict (Libraries.packb (.dict data)) = fromDict data := by
  rw [unpackDict, Ormsgpack.unpackb_packb]

def Job.serialize (job : Job) : List UInt8 := Libraries.packb (.dict job.dictify)

def JobResult.serialize (result : JobResult) : List UInt8 := Libraries.packb (.dict result.dictify)

/-- `dictify_job_infos`. -/
def dictifyJobInfos (jobs : List JobInfo) : Value Str :=
  .array (jobs.map fun info => .dict info.dictify)

variable [UuidText]

def Job.deserialize : List UInt8 → Py Job := unpackDict Job.fromDict

def JobResult.deserialize : List UInt8 → Py JobResult := unpackDict JobResult.fromDict

/-- The codec of the source. -/
@[reducible] def JobCodec.ofLibraries : JobCodec where
  serialize := Job.serialize
  deserialize := Job.deserialize
  deserializeResult := JobResult.deserialize
  serializeList completed queued := Libraries.packb (.dict
    [(str "completed", dictifyJobInfos completed), (str "queued", dictifyJobInfos queued)])

variable [DecimalDigits] [Ormsgpack]

theorem Job.deserialize_of_serialize (job : Job) :
    Job.deserialize job.serialize = .ok ⟨job.metadata.blankless, job.data⟩ := by
  rw [Job.deserialize, Job.serialize, unpackDict_packb, Job.fromDict_dictify]

theorem JobResult.deserialize_of_serialize (result : JobResult) :
    JobResult.deserialize result.serialize =
      .ok ⟨result.metadata.blankless, result.resultsData⟩ := by
  rw [JobResult.deserialize, JobResult.serialize, unpackDict_packb, JobResult.fromDict_dictify]

/-- A job and a result come back with every field of their metadata, up to empty
texts for files, and with their bytes. -/
theorem deserialize_job_and_result (job : Job) (result : JobResult) :
    Job.deserialize job.serialize = .ok ⟨job.metadata.blankless, job.data⟩ ∧
      JobResult.deserialize result.serialize = .ok ⟨result.metadata.blankless, result.resultsData⟩ :=
  ⟨job.deserialize_of_serialize, result.deserialize_of_serialize⟩

end

end

open scoped Samples

attribute [local instance] UuidText.hex

/-- A job with arguments, data and files, one of which has an empty name. -/
def filedJob : Job where
  metadata := { sampleJobInfo with
    argv := [str "module", []]
    env := Dict.empty.set (str "LANG") []
    stdinFile := some []
    data := Dict.empty.set (str "/input") (str "numbers")
    stdoutFile := some (str "/output") }
  data := Dict.empty.set (str "numbers") [1, 2]

theorem filedJob_deserialized :
    Job.deserialize filedJob.serialize =
        .ok ⟨{ filedJob.metadata with stdinFile := none }, filedJob.data⟩ ∧
      JobResult.deserialize (JobResult.serialize ⟨filedJob.metadata, []⟩) =
        .ok ⟨{ filedJob.metadata with stdinFile := none }, []⟩ :=
  deserialize_job_and_result filedJob ⟨filedJob.metadata, []⟩

end RecDtn.Rec
