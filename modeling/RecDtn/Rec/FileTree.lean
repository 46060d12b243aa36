import RecDtn.Lang.Query
import RecDtn.Lang.Tally
import RecDtn.Rec.Preparation

/-! Files with symbolic links, and how paths are followed. -/

namespace RecDtn.Rec

open Python Lang Query List Option

inductive FileNode where
  | directory
  | file (content : List UInt8)
  | link (target : Str)
  deriving DecidableEq

/-- A part of a path that is a name, and not a way to the same or to a higher
directory. -/
def IsName (text : Str) : Prop := text ≠ [] ∧ text ≠ str "." ∧ text ≠ str ".."

instance (text : Str) : Decidable (IsName text) := inferInstanceAs (Decidable (_ ∧ _))

/-- A data directory, and the tree below it. Whatever is there has a name, and is in
a directory. -/
structure Place where
  dataDir : Path
  below : dataDir ≠ []
  tree : Dict Path FileNode
  named : ∀ item ∈ tree.items, ∀ part ∈ item.1, IsName part
  rooted : ∀ item ∈ tree.items, item.1.parent = [] ∨ tree.get? item.1.parent = some .directory

/-- What is at a path, without following a link. The path of the data directory is
resolved, so that the ways to it are directories. -/
def Place.lookup (place : Place) (outside : Dict Path FileNode) (path : Path) : Option FileNode :=
  if path <+: place.dataDir then some .directory
  else if place.dataDir <+: path then place.tree.get? (path.drop place.dataDir.length)
  else outside.get? path

/-- A host with the data directory, and the files that it has elsewhere. -/
structure Host (place : Place) where
  outside : Dict Path FileNode
  rooted : ∀ item ∈ outside.items, place.lookup outside item.1.parent = some .directory

/-- A program that looks at files. -/
abbrev Lookup := Query Path (Option FileNode)

namespace Place

variable {place : Place}

/-- The data directory, what is below it, and the ways to it. -/
def Known (place : Place) (path : Path) : Prop := path <+: place.dataDir ∨ place.dataDir <+: path

variable {path : Path}

theorem lookup_of_known (known : place.Known path) (first second : Dict Path FileNode) :
    place.lookup first path = place.lookup second path := by
  unfold lookup
  split
  · rfl
  · rename_i above
    rw [if_pos (known.resolve_left above), if_pos (known.resolve_left above)]

theorem lookup_of_unknown (unknown : ¬place.Known path) (outside : Dict Path FileNode) :
    place.lookup outside path = outside.get? path := by
  unfold lookup
  rw [if_neg fun above => unknown (.inl above), if_neg fun inside => unknown (.inr inside)]

end Place

variable {path : Path}

namespace Host

variable {place : Place} (host : Host place)

def node (path : Path) : Option FileNode := place.lookup host.outside path

/-- A host that has nothing but the data directory. -/
def bare (place : Place) : Host place where
  outside := .empty
  rooted item member := by cases member

theorem node_bare (unknown : ¬place.Known path) : (bare place).node path = none :=
  Place.lookup_of_unknown unknown .empty

variable {host} {other : Host place} {α : Type}

/-- The program looks at nothing else on this host. -/
def Stays (host : Host place) (program : Lookup α) : Prop :=
  ∀ path ∈ program.lookups host.node, place.Known path

theorem stays_pure (value : α) : host.Stays (pure value : Lookup α) := by
  intro path member
  cases member

variable {program : Lookup α}

theorem stays_bind {β : Type} {rest : α → Lookup β} :
    host.Stays (program >>= rest) ↔ host.Stays program ∧
      host.Stays (rest (program.run host.node)) := by
  rw [Stays, lookups_bind, forall_mem_append]
  rfl

theorem Stays.agree (stays : host.Stays program) (other : Host place) :
    program.run other.node = program.run host.node ∧ other.Stays program := by
  have same : ∀ path ∈ program.lookups host.node, other.node path = host.node path :=
    fun path member => Place.lookup_of_known (stays path member) other.outside host.outside
  obtain ⟨value, lookups⟩ := eq_of_lookups same
  refine ⟨value, ?_⟩
  rw [Stays, lookups]
  exact stays

end Host

/-- Whether the target of a link is an absolute path. -/
def isAbsolute (target : Str) : Bool := target.head? = some '/'

/-- The kernel follows the parts of a path from a directory. All of them have to be
there, and all but the last have to be directories. -/
def followIn (onLink : Path → List Str → Lookup (Option FileKind)) :
    Path → List Str → Lookup (Option FileKind)
  | _, [] => pure (some .directory)
  | path, part :: rest =>
    if part = [] ∨ part = str "." then followIn onLink path rest
    else if part = str ".." then followIn onLink path.dropLast rest
    else do
      match ← look (path ++ [part]) with
      | none => return none
      | some .directory => followIn onLink (path ++ [part]) rest
      | some (.file content) => return if rest = [] then some (.file content) else none
      | some (.link target) => onLink (if isAbsolute target then [] else path) (target.splitOn '/' ++ rest)

/-- Up to so many links. -/
def follow : Nat → Path → List Str → Lookup (Option FileKind)
  | 0 => followIn fun _ _ => pure none
  | links + 1 => followIn (follow links)

/-- The number of links that Linux follows. -/
def maxLinks : Nat := 40

/-- `os.stat` of a path in the data directory, which follows links. -/
def Place.stat (place : Place) (path : Path) : Lookup (Option FileKind) :=
  follow maxLinks place.dataDir (path.drop place.dataDir.length)

/-- What is left to be resolved: a name, or the mark that a link has been. -/
inductive Part where
  | name (text : Str)
  | resolved (link : Path)

/-- The state of `os.path.realpath`: the path so far, what is left, and the links
that have been seen with the paths that they lead to. -/
structure Resolving where
  path : Path
  rest : List Part
  seen : Dict Path (Option Path)

namespace Resolving

/-- A link that is seen for the first time is replaced by its target. A link that is
met again before it is resolved is kept like any other name. -/
def enterLink (path location : Path) (target : Str) (rest : List Part)
    (seen : Dict Path (Option Path)) : Resolving :=
  match seen.get? location with
  | some (some cached) => ⟨cached, rest, seen⟩
  | some none => ⟨location, rest, seen⟩
  | none =>
    ⟨if isAbsolute target then [] else path,
      (target.splitOn '/').map .name ++ .resolved location :: rest, seen.set location none⟩

/-- One turn of the loop. What is not there is kept like a directory. -/
def next : Resolving → Lookup Resolving
  | ⟨path, [], seen⟩ => pure ⟨path, [], seen⟩
  | ⟨path, .resolved link :: rest, seen⟩ => pure ⟨path, rest, seen.set link (some path)⟩
  | ⟨path, .name text :: rest, seen⟩ =>
    if text = [] ∨ text = str "." then pure ⟨path, rest, seen⟩
    else if text = str ".." then pure ⟨path.dropLast, rest, seen⟩
    else do
      match ← look (path ++ [text]) with
      | some (.link target) => return enterLink path (path ++ [text]) target rest seen
      | _ => return ⟨path ++ [text], rest, seen⟩

def turns : Nat → Resolving → Lookup Path
  | 0, state => pure state.path
  | fuel + 1, state => do turns fuel (← state.next)

end Resolving

/-- `data_dir / text.lstrip("/")` before it is resolved. -/
def Place.start (place : Place) (text : Str) : Resolving :=
  ⟨place.dataDir, ((text.dropWhile (· = '/')).splitOn '/').map .name, .empty⟩

namespace Host

variable {place : Place}

def links (host : Host place) : List (Path × Str) :=
  let linkOf (location : Path) : FileNode → Option (Path × Str)
    | .link target => some (location, target)
    | _ => none
  place.tree.items.filterMap (fun item => linkOf (place.dataDir ++ item.1) item.2) ++
    host.outside.items.filterMap fun item => linkOf item.1 item.2

/-- The turns that the links which have not been seen can take. -/
def unseen (host : Host place) (seen : Dict Path (Option Path)) : Nat :=
  (host.links.map fun link =>
    if (seen.get? link.1).isSome then 0 else (link.2.splitOn '/').length + 1).sum

/-- A number of turns after which everything is resolved. -/
def enough (host : Host place) (state : Resolving) : Nat := state.rest.length + host.unseen state.seen

end Host

/-- The way to a requested path: it is resolved, has to be in the data directory, and
is looked at. -/
def Place.locate (place : Place) (fuel : Nat) (text : Str) : Lookup (Option (Path × FileKind)) := do
  let path ← (place.start text).turns fuel
  if place.dataDir <+: path then return (← place.stat path).map fun kind => (path, kind)
  else return none

/-- A program that finds something has found something at every step. -/
def Strict (program : Lookup (Option FileKind)) : Prop :=
  ∀ table, program.run table ≠ none → ∀ path ∈ program.lookups table, table path ≠ none

theorem strict_done (kind : Option FileKind) : Strict (pure kind) := by
  intro table _ path member
  cases member

theorem strict_followIn {onLink : Path → List Str → Lookup (Option FileKind)}
    (later : ∀ path rest, Strict (onLink path rest)) (path : Path) (rest : List Str) :
    Strict (followIn onLink path rest) := by
  induction rest generalizing path with
  | nil => exact strict_done _
  | cons part rest ih =>
    rw [followIn]
    split
    · exact ih path
    · split
      · exact ih path.dropLast
      · intro table found location member
        rw [run_bind, run_look] at found
        rw [lookups_bind, lookups_look, run_look, singleton_append, mem_cons] at member
        cases answer : table (path ++ [part]) with
        | none =>
          rw [answer] at found
          exact absurd rfl found
        | some node =>
          rw [answer] at found member
          rcases member with rfl | member
          · rw [answer]
            exact some_ne_none node
          · cases node with
            | directory => exact ih (path ++ [part]) table found location member
            | file content => cases member
            | link target => exact later _ _ table found location member

theorem strict_follow (links : Nat) (path : Path) (rest : List Str) :
    Strict (follow links path rest) := by
  induction links generalizing path rest with
  | zero => exact strict_followIn (fun _ _ => strict_done none) path rest
  | succ links ih => exact strict_followIn ih path rest

namespace Host

variable {place : Place} {host : Host place} {program : Lookup (Option FileKind)}

/-- What is found on the bare host is found in the data directory. -/
theorem stays_bare (strict : Strict program) (found : program.run (bare place).node ≠ none) :
    (bare place).Stays program := by
  intro path member
  by_contra unknown
  exact strict _ found path member (node_bare unknown)

/-- What is found by another way is not found on the bare host. -/
theorem run_bare_of_not_stays (strict : Strict program) (leaves : ¬host.Stays program) :
    program.run (bare place).node = none := by
  by_contra found
  exact leaves ((stays_bare strict found).agree host).2

end Host

namespace Resolving

theorem turns_done (table : Path → Option FileNode) (fuel : Nat) {state : Resolving}
    (done : state.rest = []) :
    (state.turns fuel).run table = state.path ∧ (state.turns fuel).lookups table = [] := by
  have still : state.next = pure state := by
    obtain ⟨path, rest, seen⟩ := state
    cases done
    rfl
  induction fuel with
  | zero => exact ⟨rfl, rfl⟩
  | succ fuel ih =>
    rw [turns, still, run_bind, lookups_bind, run_pure]
    exact ih

end Resolving

namespace Host

variable {place : Place} (host : Host place) {target : Str} {state : Resolving}

theorem mem_links (present : host.node path = some (.link target)) :
    (path, target) ∈ host.links := by
  rw [node, Place.lookup] at present
  rw [links]
  dsimp only
  rw [mem_append]
  split at present
  · cases present
  · split at present
    · rename_i inside
      left
      rw [Dict.get?_eq_some] at present
      rw [mem_filterMap]
      have whole : place.dataDir ++ path.drop place.dataDir.length = path := prefix_iff_eq_append.mp inside
      exact ⟨_, present, congrArg (fun location => some (location, target)) whole⟩
    · right
      rw [Dict.get?_eq_some] at present
      rw [mem_filterMap]
      exact ⟨_, present, rfl⟩

/-- Seeing a link only takes turns away, and all of its own. -/
theorem turns_set_le (seen : Dict Path (Option Path)) (location : Path) (value : Option Path)
    (link : Path × Str) :
    (if ((seen.set location value).get? link.1).isSome then 0
      else (link.2.splitOn '/').length + 1) ≤
      if (seen.get? link.1).isSome then 0 else (link.2.splitOn '/').length + 1 := by
  rw [Dict.get?_set]
  by_cases same : link.1 = location
  · rw [if_pos same, isSome_some, if_pos rfl]
    exact Nat.zero_le _
  · rw [if_neg same]

theorem unseen_enter {seen : Dict Path (Option Path)} {location : Path}
    (new : seen.get? location = none) (value : Option Path)
    (member : (location, target) ∈ host.links) :
    host.unseen (seen.set location value) + ((target.splitOn '/').length + 1) ≤
      host.unseen seen := by
  have split := perm_cons_erase member
  have others := tally_le fun link (_ : link ∈ host.links.erase (location, target)) =>
    turns_set_le seen location value link
  change tally _ _ + _ ≤ tally _ _
  rw [tally_perm split, tally_perm split, tally_cons, tally_cons, Dict.get?_set, if_pos rfl,
    isSome_some, if_pos rfl, new, isSome_none, if_neg Bool.false_ne_true]
  dsimp only
  omega

/-- Every turn gets nearer to the end. -/
theorem enough_next (left : state.rest ≠ []) :
    host.enough (state.next.run host.node) < host.enough state := by
  obtain ⟨path, rest, seen⟩ := state
  cases rest with
  | nil => exact absurd rfl left
  | cons part rest =>
    have shorter : rest.length < (part :: rest).length := Nat.lt_succ_self _
    cases part with
    | resolved link =>
      exact Nat.add_lt_add_of_lt_of_le shorter
        (tally_le fun other _ => turns_set_le seen link (some path) other)
    | name text =>
      rw [Resolving.next]
      split
      · exact Nat.add_lt_add_right shorter _
      · split
        · exact Nat.add_lt_add_right shorter _
        · rw [run_bind, run_look]
          cases answer : host.node (path ++ [text]) with
          | none => exact Nat.add_lt_add_right shorter _
          | some node =>
            cases node with
            | directory | file content => exact Nat.add_lt_add_right shorter _
            | link target =>
              rw [run_pure, Resolving.enterLink]
              split
              · exact Nat.add_lt_add_right shorter _
              · exact Nat.add_lt_add_right shorter _
              · rename_i new
                have fewer := unseen_enter host new none (host.mem_links answer)
                rw [enough, enough]
                dsimp only
                rw [length_append, length_map, length_cons, length_cons]
                omega

theorem turns_enough {fuel : Nat} (reaches : host.enough state ≤ fuel) (more : Nat) :
    (state.turns (fuel + more)).run host.node = (state.turns fuel).run host.node ∧
      (state.turns (fuel + more)).lookups host.node = (state.turns fuel).lookups host.node := by
  induction fuel generalizing state with
  | zero =>
    have done : state.rest = [] := by
      rw [enough, Nat.le_zero, Nat.add_eq_zero_iff] at reaches
      exact length_eq_zero_iff.mp reaches.1
    obtain ⟨path, lookups⟩ := Resolving.turns_done host.node (0 + more) done
    exact ⟨path, lookups⟩
  | succ fuel ih =>
    by_cases done : state.rest = []
    · obtain ⟨path, lookups⟩ := Resolving.turns_done host.node (fuel + 1 + more) done
      obtain ⟨samePath, sameLookups⟩ := Resolving.turns_done host.node (fuel + 1) done
      exact ⟨path.trans samePath.symm, lookups.trans sameLookups.symm⟩
    · have nearer := host.enough_next done
      have fewer : host.enough (state.next.run host.node) ≤ fuel := by omega
      obtain ⟨path, lookups⟩ := ih fewer
      rw [Nat.add_right_comm, Resolving.turns, Resolving.turns, run_bind, run_bind, lookups_bind,
        lookups_bind]
      exact ⟨path, congrArg _ lookups⟩

end Host

namespace Host

variable {place : Place} {host : Host place} {α : Type} {text : Str}

/-- A program that has come to its end after enough turns, and stays, does the same
on every host. -/
theorem agree_of_settled (program : Nat → Lookup α) (state : Resolving)
    (settled : ∀ (host : Host place) (more : Nat),
      (program (host.enough state + more)).run host.node = (program (host.enough state)).run host.node ∧
        (program (host.enough state + more)).lookups host.node = (program (host.enough state)).lookups host.node)
    (stays : host.Stays (program (host.enough state))) (other : Host place) :
    (program (other.enough state)).run other.node = (program (host.enough state)).run host.node := by
  obtain ⟨found, lookups⟩ := settled host (other.enough state)
  obtain ⟨otherFound, -⟩ := settled other (host.enough state)
  rw [Nat.add_comm] at otherFound
  have long : host.Stays (program (host.enough state + other.enough state)) := by
    intro path member
    rw [lookups] at member
    exact stays path member
  rw [← otherFound, ← found]
  exact (long.agree other).1

/-- The path that a request is resolved to. -/
def resolving (host : Host place) (text : Str) : Lookup Path :=
  (place.start text).turns (host.enough (place.start text))

/-- The way to a requested path on this host. -/
def locating (host : Host place) (text : Str) : Lookup (Option (Path × FileKind)) :=
  place.locate (host.enough (place.start text)) text

/-- What is found at a requested path, in the data directory. -/
def located (host : Host place) (text : Str) : Option (Path × FileKind) :=
  (host.locating text).run host.node

theorem locating_eq (host : Host place) (text : Str) : host.locating text = do
    let path ← host.resolving text
    if place.dataDir <+: path then return (← place.stat path).map fun kind => (path, kind)
    else return none := rfl

theorem resolving_agree (stays : host.Stays (host.resolving text)) (other : Host place) :
    (other.resolving text).run other.node = (host.resolving text).run host.node := by
  refine agree_of_settled (fun fuel => (place.start text).turns fuel)
    (place.start text) ?_ stays other
  intro host more
  exact host.turns_enough (Nat.le_refl _) more

/-- A request that stays finds the same on every host. -/
theorem located_agree (stays : host.Stays (host.locating text)) (other : Host place) :
    other.located text = host.located text := by
  refine agree_of_settled (fun fuel => place.locate fuel text) (place.start text) ?_ stays other
  intro host more
  obtain ⟨path, lookups⟩ := host.turns_enough (Nat.le_refl (host.enough (place.start text))) more
  rw [Place.locate, Place.locate, run_bind, run_bind, lookups_bind, lookups_bind, path, lookups]
  exact ⟨rfl, rfl⟩

theorem located_of_outside (outside : ¬place.dataDir <+: (host.resolving text).run host.node) :
    host.located text = none := by
  rw [located, locating_eq, run_bind, if_neg outside]
  rfl

theorem located_of_inside (inside : place.dataDir <+: (host.resolving text).run host.node) :
    host.located text = ((place.stat ((host.resolving text).run host.node)).run host.node).map
      fun kind => ((host.resolving text).run host.node, kind) := by
  rw [located, locating_eq, run_bind, if_pos inside, run_bind]
  rfl

/-- A request stays if the resolving does, and the look at what it comes to. -/
theorem stays_locating (stays : host.Stays (host.resolving text))
    (found : place.dataDir <+: (host.resolving text).run host.node →
      host.Stays (place.stat ((host.resolving text).run host.node))) :
    host.Stays (host.locating text) := by
  rw [locating_eq, stays_bind]
  refine ⟨stays, ?_⟩
  split
  · rename_i inside
    exact stays_bind.mpr ⟨found inside, stays_pure _⟩
  · exact stays_pure _

end Host

end RecDtn.Rec
