import RecDtn.Rec.Departure

/-! The results that are collected, and what they tell about the host. -/

namespace RecDtn.Rec

open Python Lang List Option

/-- The content of a file, or an archive with the contents of several files. -/
inductive Collected where
  | file (content : List UInt8)
  | archive (entries : List (Path × List UInt8))
  deriving DecidableEq

/-- The paths of what is in the data directory. -/
def Place.entries (place : Place) : List Path := place.tree.keys.map (place.dataDir ++ ·)

namespace Host

variable {place : Place} (host : Host place)

/-- What there is to read at a path for which `is_file()` holds. Links are
followed. -/
def fileAt (path : Path) : Option (List UInt8) :=
  match (place.stat path).run host.node with
  | some (.file content) => some content
  | _ => none

/-- The files that `directory.rglob("*")` comes to. It lists links, and does not go
into them. -/
def walk (directory : Path) : List (Path × List UInt8) :=
  (place.entries.filter fun path => directory <+: path ∧ path ≠ directory).filterMap fun path =>
    (host.fileAt path).map fun content => (path, content)

/-- What is collected for a requested path. One that leads out of the data directory
or to nothing is passed over. -/
def collect {α : Type} (nothing : α) (onFile : Path → List UInt8 → α)
    (onDirectory : Path → List (Path × List UInt8) → α) (text : Str) : α :=
  match host.located text with
  | none => nothing
  | some (path, .file content) => onFile path content
  | some (path, .directory) => onDirectory path (host.walk path)

/-- What `_collect_results` puts in the archive for a path. -/
def resultFiles : Str → List (Path × List UInt8) :=
  host.collect [] (fun path content => [(path.drop place.dataDir.length, content)])
    fun _ files => files.map fun entry => (entry.1.drop place.dataDir.length, entry.2)

/-- What `_collect_named_results` collects for a path. -/
def namedResult : Str → Option Collected :=
  host.collect none (fun _ content => some (.file content))
    fun path files =>
      some (.archive (files.map fun entry => (entry.1.drop path.parent.length, entry.2)))

variable [Unicode]

/-- `_collect_results`: the files in the archive. -/
def collectResults (job : JobInfo) : Option (List (Path × List UInt8)) :=
  if job.resultsReceiver.isSome then some (job.results.flatMap host.resultFiles) else none

def collectNamedResults (job : JobInfo) : Dict Str Collected :=
  job.namedResults.items.foldl
    (fun results item =>
      match host.namedResult item.1 with
      | none => results
      | some collected => results.set item.2 collected) .empty

end Host

/-- The paths that a job requests are among the given ones. -/
def JobInfo.RequestsOnly [Unicode] (requested : Str → Prop) (job : JobInfo) : Prop :=
  (∀ text ∈ job.results, requested text) ∧ ∀ item ∈ job.namedResults.items, requested item.1

/-- The results of a job that requests such paths are the same on every host with
this data directory. -/
def Place.Independent [Unicode] (place : Place) (requested : Str → Prop) : Prop :=
  ∀ job : JobInfo, job.RequestsOnly requested → ∀ first second : Host place,
    first.collectResults job = second.collectResults job ∧
      first.collectNamedResults job = second.collectNamedResults job

/-- On no host does the way to something that is collected leave the data directory:
neither the way of a request, nor the way of an entry of a requested directory. -/
structure Place.Sealed (place : Place) (requested : Str → Prop) : Prop where
  requests : ∀ (host : Host place) (text : Str), requested text → host.located text ≠ none →
    host.Stays (host.locating text)
  entries : ∀ (host : Host place) (text : Str) (path : Path), requested text →
    host.located text = some (path, .directory) →
      ∀ entry ∈ host.walk path, host.Stays (place.stat entry.1)

namespace Host

variable {place : Place} {requested : Str → Prop} {host : Host place} {text : Str}
  {path directory : Path}

theorem mem_walk {entry : Path × List UInt8} : entry ∈ host.walk directory ↔
    (entry.1 ∈ place.entries ∧ directory <+: entry.1 ∧ entry.1 ≠ directory) ∧
      host.fileAt entry.1 = some entry.2 := by
  rw [walk, mem_filterMap]
  constructor
  · rintro ⟨path, listed, found⟩
    obtain ⟨content, read, rfl⟩ := map_eq_some_iff.mp found
    exact ⟨by simpa using listed, read⟩
  · rintro ⟨listed, read⟩
    refine ⟨entry.1, by simpa using listed, ?_⟩
    rw [read]
    rfl

theorem fileAt_agree (stays : host.Stays (place.stat path)) (other : Host place) :
    other.fileAt path = host.fileAt path := by
  rw [fileAt, fileAt, (stays.agree other).1]

theorem located_of_sealed (closed : place.Sealed requested) (asks : requested text)
    (first second : Host place) : first.located text = second.located text := by
  have carried (host other : Host place) (found : Path × FileKind)
      (present : host.located text = some found) : other.located text = some found := by
    have stays := closed.requests host text asks (by rw [present]; exact some_ne_none found)
    rw [located_agree stays other, present]
  exact Option.ext fun found => ⟨carried first second found, carried second first found⟩

theorem walk_of_sealed (closed : place.Sealed requested) (asks : requested text) {first : Host place}
    (present : first.located text = some (directory, .directory)) (second : Host place) :
    first.walk directory = second.walk directory := by
  have carried (host other : Host place) {path : Path}
      (listed : path ∈ place.entries ∧ directory <+: path ∧ path ≠ directory) (content : List UInt8)
      (found : host.fileAt path = some content) : other.fileAt path = some content := by
    have same : host.located text = some (directory, .directory) :=
      (located_of_sealed closed asks host first).trans present
    have stays := closed.entries host text directory asks same (path, content)
      (mem_walk.mpr ⟨listed, found⟩)
    rw [fileAt_agree stays other, found]
  rw [walk, walk]
  apply filterMap_congr
  intro path member
  have listed : path ∈ place.entries ∧ directory <+: path ∧
      path ≠ directory := by simpa using member
  have same : first.fileAt path = second.fileAt path :=
    Option.ext fun content => ⟨carried first second listed content,
      carried second first listed content⟩
  rw [same]

theorem collect_of_sealed {α : Type} {nothing : α} {onFile : Path → List UInt8 → α}
    {onDirectory : Path → List (Path × List UInt8) → α} (closed : place.Sealed requested)
    (asks : requested text) (first second : Host place) :
    first.collect nothing onFile onDirectory text =
      second.collect nothing onFile onDirectory text := by
  rw [collect, collect, ← located_of_sealed closed asks first second]
  cases present : first.located text with
  | none => rfl
  | some found =>
    obtain ⟨path, kind⟩ := found
    cases kind with
    | file content => rfl
    | directory =>
      dsimp only
      rw [walk_of_sealed closed asks present second]

theorem independent_of_sealed [Unicode] (closed : place.Sealed requested) :
    place.Independent requested := by
  intro job only first second
  refine ⟨?_, ?_⟩
  · rw [collectResults, collectResults]
    split
    · refine congrArg some (flatMap_congr ?_)
      intro text member
      exact collect_of_sealed closed (only.1 text member) first second
    · rfl
  · rw [collectNamedResults, collectNamedResults]
    refine foldl_ext _ _ _ ?_
    intro results item member
    have same : first.namedResult item.1 = second.namedResult item.1 :=
      collect_of_sealed closed (only.2 item member) first second
    rw [same]

section

variable [Unicode]

def requestingJob (text : Str) : JobInfo where
  jobId := 1
  wasmModule := str "collector"
  capabilities := ⟨1, 1, 1, 1, Nat.one_pos, by decide⟩
  submitter := Eid.none
  resultsReceiver := Eid.none
  argv := []
  env := .empty
  stdinFile := none
  dirs := []
  data := .empty
  stdoutFile := none
  stderrFile := none
  results := []
  namedResults := Dict.empty.set text []
  named := by decide

theorem get?_requestingJob (host : Host place) (text : Str) :
    (host.collectNamedResults (requestingJob text)).get? [] = host.namedResult text := by
  have items : (requestingJob text).namedResults.items = [(text, [])] := rfl
  rw [collectNamedResults, items, foldl_cons, foldl_nil]
  cases host.namedResult text with
  | none => rfl
  | some collected =>
    dsimp only
    rw [Dict.get?_set, if_pos rfl]

theorem namedResult_of_independent (independent : place.Independent requested) (asks : requested text)
    (first second : Host place) : first.namedResult text = second.namedResult text := by
  have only : (requestingJob text).RequestsOnly requested := by
    refine ⟨?_, ?_⟩
    · intro other member
      cases member
    · intro item member
      cases mem_singleton.mp member
      exact asks
  rw [← get?_requestingJob, ← get?_requestingJob, (independent _ only first second).2]

end

theorem located_eq_none_of_namedResult (missing : host.namedResult text = none) :
    host.located text = none := by
  rw [namedResult, collect] at missing
  split at missing
  · assumption
  · cases missing
  · cases missing

/-- A request that finds something does not leave. -/
theorem requests_of_independent [Unicode] (independent : place.Independent requested)
    (host : Host place)
    (asks : requested text) (found : host.located text ≠ none) :
    host.Stays (host.locating text) := by
  by_contra leaves
  obtain ⟨other, lost⟩ := exists_lost leaves
  have missing : other.namedResult text = none := by rw [namedResult, collect, lost]
  rw [← namedResult_of_independent independent asks host other] at missing
  exact found (located_eq_none_of_namedResult missing)

/-- An entry of the archive has one path. -/
theorem eq_of_drop_parent {first second : Path} (above : directory <+: first)
    (other : directory <+: second)
    (same : first.drop directory.parent.length = second.drop directory.parent.length) :
    first = second := by
  have prefixed {path : Path} (below : directory <+: path) :
      path.take directory.parent.length = directory.take directory.parent.length := by
    obtain ⟨rest, rfl⟩ := below
    refine take_append_of_le_length ?_
    rw [Path.parent, length_dropLast]
    exact Nat.sub_le _ _
  rw [← take_append_drop directory.parent.length first, same, prefixed above, ← prefixed other,
    take_append_drop]

/-- The way to an entry that is read does not leave. -/
theorem entries_of_independent [Unicode] (independent : place.Independent requested)
    (host : Host place)
    (asks : requested text) (present : host.located text = some (directory, .directory)) :
    ∀ entry ∈ host.walk directory, host.Stays (place.stat entry.1) := by
  intro entry member
  by_contra leaves
  have stays := requests_of_independent independent host asks (by rw [present]; exact some_ne_none _)
  have there : (bare place).located text = some (directory, .directory) :=
    (located_agree stays (bare place)).trans present
  have same := namedResult_of_independent independent asks host (bare place)
  rw [namedResult, namedResult, collect, collect, present, there] at same
  have archives := Collected.archive.inj (Option.some.inj same)
  have archived : (entry.1.drop directory.parent.length, entry.2) ∈
      (host.walk directory).map fun entry => (entry.1.drop directory.parent.length, entry.2) :=
    mem_map.mpr ⟨entry, member, rfl⟩
  rw [archives] at archived
  obtain ⟨other, found, named⟩ := mem_map.mp archived
  obtain ⟨⟨-, above, -⟩, -⟩ := mem_walk.mp member
  obtain ⟨⟨-, otherAbove, -⟩, read⟩ := mem_walk.mp found
  rw [eq_of_drop_parent otherAbove above (congrArg Prod.fst named), fileAt,
    run_bare_of_not_stays (strict_stat place _) leaves] at read
  cases read

end Host

/-- The results depend on nothing else on the host if and only if the data directory
is sealed for what is requested. -/
theorem independent_iff_sealed [Unicode] (place : Place) (requested : Str → Prop) :
    place.Independent requested ↔ place.Sealed requested := by
  constructor
  · intro independent
    refine ⟨?_, ?_⟩
    · intro host text asks found
      exact Host.requests_of_independent independent host asks found
    · intro host text path asks present
      exact Host.entries_of_independent independent host asks present
  · exact Host.independent_of_sealed

namespace Host

variable {place : Place} (host : Host place)

/-- The names below the data directory that a path consists of. None of them goes
up. -/
def Descends (place : Place) (path : Path) : Prop :=
  ∃ names : List Str, path = place.dataDir ++ names ∧ str ".." ∉ names

theorem Descends.append {path : Path} {text : Str} (descends : Descends place path)
    (down : text ≠ str "..") : Descends place (path ++ [text]) := by
  obtain ⟨names, rfl, free⟩ := descends
  refine ⟨names ++ [text], append_assoc _ _ _, ?_⟩
  rw [mem_append, mem_singleton, not_or]
  exact ⟨free, down.symm⟩

theorem Descends.known {path : Path} (descends : Descends place path) : place.Known path := by
  obtain ⟨names, rfl, -⟩ := descends
  exact .inr (prefix_append _ _)

variable (linkless : ∀ path target, place.tree.get? path ≠ some (.link target))

include linkless

theorem node_ne_link {path : Path} (known : place.Known path) (target : Str) :
    host.node path ≠ some (.link target) := by
  rw [node, Place.lookup]
  split
  · exact fun same => FileNode.noConfusion (Option.some.inj same)
  · rename_i above
    rw [if_pos (known.resolve_left above)]
    exact linkless _ target

theorem stays_followIn (onLink : Path → List Str → Lookup (Option FileKind)) {path : Path}
    {rest : List Str}
    (descends : Descends place path) (down : str ".." ∉ rest) :
    host.Stays (followIn onLink path rest) := by
  induction rest generalizing path with
  | nil => exact stays_pure _
  | cons part rest ih =>
    rw [mem_cons, not_or] at down
    have below := descends.append (Ne.symm down.1)
    rw [followIn]
    split
    · exact ih descends down.2
    · rw [if_neg (Ne.symm down.1), stays_bind, Query.run_look]
      refine ⟨?_, ?_⟩
      · intro location member
        cases mem_singleton.mp member
        exact below.known
      · split
        · exact stays_pure _
        · exact ih below down.2
        · exact stays_pure _
        · rename_i target present
          exact absurd present (host.node_ne_link linkless below.known target)

theorem stays_stat {path : Path} (descends : Descends place path) : host.Stays (place.stat path) := by
  obtain ⟨names, rfl, free⟩ := descends
  have top : Descends place place.dataDir := ⟨[], (append_nil _).symm, not_mem_nil⟩
  rw [Place.stat, drop_left]
  exact host.stays_followIn linkless _ top free

theorem stays_turns (fuel : Nat) (seen : Dict Path (Option Path)) {path : Path} {texts : List Str}
    (descends : Descends place path) (down : str ".." ∉ texts) :
    host.Stays (Resolving.turns fuel ⟨path, texts.map .name, seen⟩) ∧
      Descends place ((Resolving.turns fuel ⟨path, texts.map .name, seen⟩).run host.node) := by
  induction fuel generalizing path texts with
  | zero => exact ⟨stays_pure _, descends⟩
  | succ fuel ih =>
    rw [Resolving.turns, stays_bind, Query.run_bind]
    cases texts with
    | nil => exact ⟨⟨stays_pure _, (ih descends down).1⟩, (ih descends down).2⟩
    | cons text texts =>
      rw [mem_cons, not_or] at down
      have below := descends.append (Ne.symm down.1)
      rw [map_cons, Resolving.next]
      split
      · exact ⟨⟨stays_pure _, (ih descends down.2).1⟩, (ih descends down.2).2⟩
      · rw [if_neg (Ne.symm down.1), stays_bind, Query.run_bind, Query.run_look]
        have looks : host.Stays (Query.look (path ++ [text])) := by
          intro location member
          cases mem_singleton.mp member
          exact below.known
        split
        · rename_i target present
          exact absurd present (host.node_ne_link linkless below.known target)
        · exact ⟨⟨⟨looks, stays_pure _⟩, (ih below down.2).1⟩, (ih below down.2).2⟩

end Host

variable {place : Place} {requested : Str → Prop}

theorem Place.sealed_of_linkless
    (linkless : ∀ path target, place.tree.get? path ≠ some (.link target))
    (down : ∀ text, requested text → str ".." ∉ (text.dropWhile (· = '/')).splitOn '/') :
    place.Sealed requested where
  requests host text asks _ := by
    have top : Host.Descends place place.dataDir := ⟨[], (append_nil _).symm, not_mem_nil⟩
    obtain ⟨stays, descends⟩ :=
      host.stays_turns linkless (host.enough (place.start text)) .empty top (down text asks)
    exact Host.stays_locating stays fun _ => host.stays_stat linkless descends
  entries host text path _ _ entry member := by
    obtain ⟨⟨listed, -⟩, -⟩ := Host.mem_walk.mp member
    obtain ⟨names, key, same⟩ := mem_map.mp listed
    obtain ⟨node, present⟩ := Dict.mem_keys.mp key
    refine host.stays_stat linkless ⟨names, same.symm, ?_⟩
    intro up
    exact (place.named _ present _ up).2.2 rfl

/-- As long as the module leaves no links, and the job requests nothing above its data
directory, the results tell nothing of the host. -/
theorem Place.independent_of_linkless [Unicode]
    (linkless : ∀ path target, place.tree.get? path ≠ some (.link target))
    (down : ∀ text, requested text → str ".." ∉ (text.dropWhile (· = '/')).splitOn '/') :
    place.Independent requested :=
  Host.independent_of_sealed (sealed_of_linkless linkless down)

open scoped Samples

/-- A module has left a link to a file of the host among its results. -/
def leakingPlace : Place where
  dataDir := [str "job", str "data"]
  below := by decide
  tree := (Dict.empty.set [str "out"] .directory).set [str "out", str "leak"] (.link (str "/secret"))
  named := by decide
  rooted := by decide

def secretHost (content : List UInt8) : Host leakingPlace where
  outside := Dict.empty.set [str "secret"] (.file content)
  rooted item member := by
    cases mem_singleton.mp member
    rfl

def leakingJob : JobInfo :=
  { sampleJobInfo with resultsReceiver := sampleClient, results := [str "/out"] }

/-- The content of the file is sent with the results. -/
theorem leakingPlace_not_independent :
    (secretHost [1]).collectResults leakingJob = some [([str "out", str "leak"], [1])] ∧
    (secretHost [2]).collectResults leakingJob = some [([str "out", str "leak"], [2])] ∧
    ¬leakingPlace.Independent fun _ => True := by
  have first : (secretHost [1]).collectResults leakingJob =
      some [([str "out", str "leak"], [1])] := by
    decide +kernel
  have second : (secretHost [2]).collectResults leakingJob =
      some [([str "out", str "leak"], [2])] := by
    decide +kernel
  refine ⟨first, second, ?_⟩
  intro independent
  have only : leakingJob.RequestsOnly fun _ => True := ⟨fun _ _ => trivial, fun _ _ => trivial⟩
  have same := (independent leakingJob only (secretHost [1]) (secretHost [2])).1
  rw [first, second] at same
  exact absurd same (by decide)

/-- The module has left a file instead. -/
def plainPlace : Place :=
  { leakingPlace with
    tree := (Dict.empty.set [str "out"] .directory).set [str "out", str "leak"] (.file [1])
    named := by decide
    rooted := by decide }

theorem plainPlace_independent : plainPlace.Independent (· = str "/out") := by
  refine Place.independent_of_linkless ?_ ?_
  · intro path target link
    have member := Dict.get?_eq_some.mp link
    rcases mem_cons.mp member with same | same
    · cases same
    · cases mem_singleton.mp same
  · rintro _ rfl
    decide

end RecDtn.Rec
