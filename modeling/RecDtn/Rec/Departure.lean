import RecDtn.Rec.FileTree

/-! A requested path that leaves the data directory gets lost on some host. -/

namespace RecDtn.Rec

open Python Lang Query Resolving List

variable {path location : Path} {text : Str} {state : Resolving}

namespace Place

variable {place : Place}

theorem known_dropLast (known : place.Known path) : place.Known path.dropLast := by
  rcases known with above | inside
  · exact .inl ((List.dropLast_prefix path).trans above)
  · exact (List.prefix_or_prefix_of_prefix (List.dropLast_prefix path) inside)

/-- Only from above the data directory a name leads to somewhere else. -/
theorem above_of_unknown (known : place.Known path) (unknown : ¬place.Known (path ++ [text])) :
    path <+: place.dataDir := by
  rcases known with above | inside
  · exact above
  · exact absurd (.inr (inside.trans (prefix_append path [text]))) unknown

end Place

namespace Resolving

/-- Everything that has been reached so far is in the data directory or above it. -/
structure Placed (place : Place) (state : Resolving) : Prop where
  path : place.Known state.path
  marks : ∀ link, .resolved link ∈ state.rest → place.Known link
  seen : ∀ link value, state.seen.get? link = some value → place.Known link
  cached : ∀ link path, state.seen.get? link = some (some path) → place.Known path

variable {place : Place} {state : Resolving} {table : Path → Option FileNode}

theorem lookups_next (member : location ∈ state.next.lookups table) :
    ∃ text rest, state.rest = .name text :: rest ∧ IsName text ∧
      location = state.path ++ [text] := by
  obtain ⟨path, rest, seen⟩ := state
  cases rest with
  | nil => cases member
  | cons part rest =>
    cases part with
    | resolved link => cases member
    | name text =>
      rw [next] at member
      split at member
      · cases member
      · rename_i plain
        split at member
        · cases member
        · rename_i down
          rw [lookups_bind, lookups_look] at member
          refine ⟨text, rest, rfl, ⟨fun same => plain (.inl same), fun same => plain (.inr same), down⟩, ?_⟩
          rcases mem_append.mp member with first | later
          · exact mem_singleton.mp first
          · split at later
            · cases later
            · cases later

variable {rest : List Part} {seen : Dict Path (Option Path)}

theorem Placed.set {link : Path} {value : Option Path} (placed : Placed place ⟨path, rest, seen⟩)
    (known : place.Known link) (reached : ∀ cached, value = some cached → place.Known cached) :
    Placed place ⟨path, rest, seen.set link value⟩ := by
  refine ⟨placed.path, placed.marks, ?_, ?_⟩
  · intro other found present
    dsimp only at present
    rw [Dict.get?_set] at present
    split at present
    · rename_i same
      rw [same]
      exact known
    · exact placed.seen other found present
  · intro other cached present
    dsimp only at present
    rw [Dict.get?_set] at present
    split at present
    · exact reached cached (Option.some.inj present)
    · exact placed.cached other cached present

theorem placed_enterLink (placed : Placed place ⟨path, rest, seen⟩)
    (known : place.Known location) (target : Str) :
    Placed place (enterLink path location target rest seen) := by
  rw [enterLink]
  split
  · rename_i cached found
    exact ⟨placed.cached location cached found, placed.marks, placed.seen, placed.cached⟩
  · exact ⟨known, placed.marks, placed.seen, placed.cached⟩
  · refine Placed.set ⟨?_, ?_, placed.seen, placed.cached⟩ known fun cached impossible => ?_
    · dsimp only
      split
      · exact .inl nil_prefix
      · exact placed.path
    · intro link member
      rcases mem_append.mp member with name | later
      · obtain ⟨text, -, same⟩ := mem_map.mp name
        cases same
      · rcases mem_cons.mp later with same | earlier
        · cases same
          exact known
        · exact placed.marks link earlier
    · cases impossible

theorem Placed.next (placed : Placed place state)
    (stays : ∀ path ∈ state.next.lookups table, place.Known path) :
    Placed place (state.next.run table) := by
  obtain ⟨path, rest, seen⟩ := state
  cases rest with
  | nil => exact placed
  | cons part rest =>
    have passed : ∀ {reached : Path}, place.Known reached → Placed place ⟨reached, rest, seen⟩ :=
      fun known => ⟨known, fun link member =>
        placed.marks link (mem_cons_of_mem _ member), placed.seen, placed.cached⟩
    cases part with
    | resolved link =>
      refine (passed placed.path).set (placed.marks link mem_cons_self) ?_
      intro cached same
      cases same
      exact placed.path
    | name text =>
      rw [Resolving.next] at stays ⊢
      split
      · exact passed placed.path
      · rename_i plain
        rw [if_neg plain] at stays
        split
        · exact passed (Place.known_dropLast placed.path)
        · rename_i down
          rw [if_neg down, lookups_bind] at stays
          have known : place.Known (path ++ [text]) := stays _ mem_cons_self
          rw [run_bind, run_look]
          split
          · exact placed_enterLink (passed placed.path) known _
          · exact passed known

end Resolving

namespace Host

variable {place : Place} {host : Host place}

/-- The first look at another place comes after the same turns on every host. -/
theorem exists_departure {fuel : Nat} (placed : state.Placed place)
    (leaves : ¬host.Stays (state.turns fuel)) :
    ∃ path text rest seen past, Resolving.Placed place ⟨path, .name text :: rest, seen⟩ ∧
      IsName text ∧ ¬place.Known (path ++ [text]) ∧ ∀ other : Host place,
        past + other.enough ⟨path, .name text :: rest, seen⟩ ≤ other.enough state ∧
        ∀ fuel, (state.turns (past + fuel)).run other.node =
          (Resolving.turns fuel ⟨path, .name text :: rest, seen⟩).run other.node := by
  induction fuel generalizing state with
  | zero => exact absurd (stays_pure _) leaves
  | succ fuel ih =>
    by_cases here : host.Stays state.next
    · -- This turn stays, and comes to the same state on every host.
      have later : ¬host.Stays ((state.next.run host.node).turns fuel) :=
        fun stays => leaves (stays_bind.mpr ⟨here, stays⟩)
      have left : state.rest ≠ [] := by
        intro done
        refine later ?_
        obtain ⟨path, rest, seen⟩ := state
        cases done
        intro location member
        rw [(turns_done host.node fuel rfl).2] at member
        cases member
      obtain ⟨path, text, rest, seen, past, there, named, unknown, same⟩ := ih (placed.next here) later
      refine ⟨path, text, rest, seen, past + 1, there, named, unknown, ?_⟩
      intro other
      obtain ⟨reaches, run⟩ := same other
      have next : state.next.run other.node = state.next.run host.node := (here.agree other).1
      have nearer := other.enough_next left
      rw [next] at nearer
      refine ⟨by omega, ?_⟩
      intro more
      rw [Nat.add_right_comm, Resolving.turns, run_bind, next]
      exact run more
    · -- This turn looks at another place.
      obtain ⟨location, member, unknown⟩ : ∃ path ∈ state.next.lookups host.node, ¬place.Known path := by
        by_contra none
        exact here fun path member => by_contra fun unknown => none ⟨path, member, unknown⟩
      obtain ⟨text, rest, left, named, rfl⟩ := Resolving.lookups_next member
      obtain ⟨path, parts, seen⟩ := state
      cases left
      refine ⟨path, text, rest, seen, 0, placed, named, unknown, ?_⟩
      intro other
      refine ⟨Nat.le_of_eq (Nat.zero_add _), ?_⟩
      intro more
      rw [Nat.zero_add]

end Host

/-- A name that is longer than all the parts of a path. -/
def freshName (path : Path) : Str := List.replicate (path.flatten.length + 3) 'x'

theorem freshName_ne {part : Str} (member : part ∈ path) : freshName path ≠ part := by
  intro same
  have length : (freshName path).length = path.flatten.length + 3 := length_replicate
  have shorter := (sublist_flatten_of_mem member).length_le
  rw [← same] at shorter
  omega

theorem isName_freshName (path : Path) : IsName (freshName path) := by
  have length : (freshName path).length = path.flatten.length + 3 := length_replicate
  refine ⟨?_, ?_, ?_⟩
  · intro same
    rw [same] at length
    cases length
  · intro same
    rw [same] at length
    cases length
  · intro same
    rw [same] at length
    cases length

/-- A link to so many directories of one name, which are not there. -/
def awayTarget (name : Str) (count : Nat) : Str :=
  ['/'].intercalate ([] :: List.replicate (count + 1) name)

theorem splitOn_awayTarget {name : Str} (plain : '/' ∉ name) (count : Nat) :
    (awayTarget name count).splitOn '/' = [] :: List.replicate (count + 1) name := by
  refine splitOn_intercalate '/' ?_ (cons_ne_nil _ _)
  intro part member
  rcases mem_cons.mp member with rfl | copy
  · exact not_mem_nil
  · rw [eq_of_mem_replicate copy]
    exact plain

/-- The steps up that are left. -/
def ups (rest : List Part) : Nat :=
  rest.countP fun part =>
    match part with
    | .name text => text = str ".."
    | .resolved _ => false

namespace Resolving

variable {table : Path → Option FileNode} {path : Path} {text : Str} {rest : List Part}
  {seen : Dict Path (Option Path)}

theorem next_of_link {target : Str} (named : IsName text)
    (present : table (path ++ [text]) = some (.link target)) :
    (next ⟨path, .name text :: rest, seen⟩).run table =
      enterLink path (path ++ [text]) target rest seen := by
  have plain : ¬(text = [] ∨ text = str ".") := not_or.mpr ⟨named.1, named.2.1⟩
  rw [next, if_neg plain, if_neg named.2.2, run_bind, run_look, present]
  rfl

theorem next_of_missing (named : IsName text) (missing : table (path ++ [text]) = none) :
    (next ⟨path, .name text :: rest, seen⟩).run table = ⟨path ++ [text], rest, seen⟩ := by
  have plain : ¬(text = [] ∨ text = str ".") := not_or.mpr ⟨named.1, named.2.1⟩
  rw [next, if_neg plain, if_neg named.2.2, run_bind, run_look, missing]
  rfl

end Resolving

namespace Host

variable {place : Place} {host : Host place} {name : Str} {fuel : Nat} {rest : List Part}
  {seen : Dict Path (Option Path)}

theorem exists_turn (left : state.rest ≠ []) (reaches : host.enough state ≤ fuel) :
    ∃ fewer, fuel = fewer + 1 ∧ host.enough (state.next.run host.node) ≤ fewer ∧
      (state.turns fuel).run host.node = ((state.next.run host.node).turns fewer).run host.node := by
  have nearer := host.enough_next left
  cases fuel with
  | zero => exact absurd (Nat.lt_of_lt_of_le nearer reaches) (Nat.not_lt_zero _)
  | succ fewer =>
    refine ⟨fewer, rfl, Nat.le_of_lt_succ (Nat.lt_of_lt_of_le nearer reaches), ?_⟩
    rw [Resolving.turns, run_bind]

section

variable (away : ∀ location : Path, location.head? = some name → host.node location = none)

include away

theorem under_next {part : Part} (under : path.head? = some name)
    (deep : ups (part :: rest) < path.length) :
    ((Resolving.next ⟨path, part :: rest, seen⟩).run host.node).path.head? = some name ∧
      ups ((Resolving.next ⟨path, part :: rest, seen⟩).run host.node).rest <
        ((Resolving.next ⟨path, part :: rest, seen⟩).run host.node).path.length := by
  have fewer : ups rest ≤ ups (part :: rest) := (sublist_cons_self part rest).countP_le
  cases part with
  | resolved link => exact ⟨under, Nat.lt_of_le_of_lt fewer deep⟩
  | name text =>
    by_cases plain : text = [] ∨ text = str "."
    · rw [Resolving.next, if_pos plain]
      exact ⟨under, Nat.lt_of_le_of_lt fewer deep⟩
    · by_cases up : text = str ".."
      · rw [Resolving.next, if_neg plain, if_pos up, run_pure]
        have one : ups (.name text :: rest) = ups rest + 1 := countP_cons_of_pos (by simpa using up)
        have long : 1 < path.length := by omega
        refine ⟨?_, ?_⟩
        · rw [head?_dropLast, if_pos long]
          exact under
        · dsimp only
          rw [length_dropLast]
          omega
      · have head : (path ++ [text]).head? = some name := by
          rw [head?_append, under]
          rfl
        have named : IsName text := ⟨fun same => plain (.inl same), fun same => plain (.inr same), up⟩
        rw [Resolving.next_of_missing named (away _ head)]
        refine ⟨head, ?_⟩
        dsimp only
        rw [length_append]
        omega

/-- Under a name that leads nowhere a path stays under it, as long as it does not go
up too often. -/
theorem head_turns (reaches : host.enough state ≤ fuel) (under : state.path.head? = some name)
    (deep : ups state.rest < state.path.length) :
    ((state.turns fuel).run host.node).head? = some name := by
  induction fuel generalizing state with
  | zero => exact under
  | succ fuel ih =>
    obtain ⟨path, rest, seen⟩ := state
    cases rest with
    | nil =>
      rw [(turns_done host.node (fuel + 1) rfl).1]
      exact under
    | cons part rest =>
      obtain ⟨fewer, same, reaches, turn⟩ := exists_turn (cons_ne_nil _ _) reaches
      cases same
      obtain ⟨stillUnder, stillDeep⟩ := under_next away under deep
      rw [turn]
      exact ih reaches stillUnder stillDeep

/-- The way down to where nothing is. -/
theorem head_turns_replicate (named : IsName name) {down left : Nat} {tail : List Part}
    (reaches : host.enough
      ⟨List.replicate down name, (List.replicate left name).map .name ++ tail, seen⟩ ≤ fuel)
    (deep : ups tail < down + left) :
    ((Resolving.turns fuel ⟨List.replicate down name,
      (List.replicate left name).map .name ++ tail, seen⟩).run host.node).head? = some name := by
  induction left generalizing down fuel with
  | zero =>
    refine head_turns away reaches ?_ ?_
    · cases down with
      | zero => omega
      | succ down => rfl
    · dsimp only
      rw [length_replicate]
      exact deep
  | succ left ih =>
    have missing : host.node (List.replicate down name ++ [name]) = none := by
      refine away _ ?_
      rw [← replicate_succ']
      rfl
    rw [replicate_succ, map_cons, cons_append] at reaches ⊢
    have step : (Resolving.next ⟨List.replicate down name,
        .name name :: ((List.replicate left name).map .name ++ tail), seen⟩).run host.node =
          ⟨List.replicate (down + 1) name, (List.replicate left name).map .name ++ tail, seen⟩ := by
      rw [Resolving.next_of_missing named missing, ← replicate_succ']
    obtain ⟨fewer, -, reaches, turn⟩ := exists_turn (cons_ne_nil _ _) reaches
    rw [step] at reaches turn
    rw [turn]
    exact ih reaches (by omega)

end

/-- A host with one link outside of the data directory, which leads to so many
directories that are not there. -/
def divert {path : Path} (above : path <+: place.dataDir) (text name : Str) (count : Nat) :
    Host place where
  outside := Dict.empty.set (path ++ [text]) (.link (awayTarget name count))
  rooted item member := by
    rcases Dict.mem_items_set.mp member with ⟨same, -⟩ | ⟨-, old⟩
    · rw [same, Path.parent, dropLast_concat, Place.lookup, if_pos above]
    · cases old

section

variable {path : Path} {text : Str}

theorem node_divert_away (above : path <+: place.dataDir)
    (new : name ∉ place.dataDir ++ (path ++ [text]))
    (count : Nat) (under : location.head? = some name) :
    (divert above text name count).node location = none := by
  obtain ⟨below, rfl⟩ := head?_eq_some_iff.mp under
  rw [mem_append, not_or] at new
  have unknown : ¬place.Known (name :: below) := by
    rintro (⟨rest, same⟩ | inside)
    · refine new.1 ?_
      rw [← same]
      exact mem_cons_self
    · obtain ⟨first, others, top⟩ := exists_cons_of_ne_nil place.below
      rw [top, cons_prefix_cons] at inside
      refine new.1 ?_
      rw [top, inside.1]
      exact mem_cons_self
  have other : name :: below ≠ path ++ [text] := by
    intro same
    refine new.2 ?_
    rw [← same]
    exact mem_cons_self
  rw [node, Place.lookup_of_unknown unknown, divert, Dict.get?_set, if_neg other]
  rfl

/-- The link is followed when a path first leaves. -/
theorem next_divert (above : path <+: place.dataDir) (unknown : ¬place.Known (path ++ [text]))
    (named : IsName text)
    (plain : '/' ∉ name) (count : Nat)
    (placed : Resolving.Placed place ⟨path, .name text :: rest, seen⟩) :
    (Resolving.next ⟨path, .name text :: rest, seen⟩).run (divert above text name count).node =
      ⟨[], .name [] :: ((List.replicate (count + 1) name).map .name ++
        .resolved (path ++ [text]) :: rest), seen.set (path ++ [text]) none⟩ := by
  have present : (divert above text name count).node (path ++ [text]) =
      some (.link (awayTarget name count)) := by
    rw [node, Place.lookup_of_unknown unknown, divert, Dict.get?_set, if_pos rfl]
  have unseen : seen.get? (path ++ [text]) = none := by
    cases found : seen.get? (path ++ [text]) with
    | none => rfl
    | some value => exact absurd (placed.seen _ value found) unknown
  rw [Resolving.next_of_link named present, Resolving.enterLink, unseen, splitOn_awayTarget plain]
  rfl

/-- A path that leaves the data directory gets lost on a host that diverts it. -/
theorem head_turns_divert (above : path <+: place.dataDir) (unknown : ¬place.Known (path ++ [text]))
    (named : IsName text) (new : name ∉ place.dataDir ++ (path ++ [text])) (isName : IsName name)
    (plain : '/' ∉ name) (placed : Resolving.Placed place ⟨path, .name text :: rest, seen⟩)
    (reaches : (divert above text name (ups rest)).enough ⟨path, .name text :: rest,
    seen⟩ ≤ fuel) : ((Resolving.turns fuel ⟨path, .name text :: rest, seen⟩).run
      (divert above text name (ups rest)).node).head? = some name := by
  have passed (parts : List Part) (seen : Dict Path (Option Path)) :
      (Resolving.next ⟨[], .name [] :: parts, seen⟩).run
        (divert above text name (ups rest)).node = ⟨List.replicate 0 name, parts, seen⟩ := by
    rw [Resolving.next, if_pos (.inl rfl)]
    rfl
  obtain ⟨fewer, -, reaches, turn⟩ := exists_turn (cons_ne_nil _ _) reaches
  rw [next_divert above unknown named plain _ placed] at reaches turn
  obtain ⟨least, -, reaches, first⟩ := exists_turn (cons_ne_nil _ _) reaches
  rw [passed] at reaches first
  rw [turn, first]
  refine head_turns_replicate (fun _ => node_divert_away above new _) isName reaches ?_
  have same : ups (.resolved (path ++ [text]) :: rest) = ups rest :=
    countP_cons_of_neg Bool.false_ne_true
  omega

end

theorem placed_start (place : Place) (text : Str) : (place.start text).Placed place := by
  refine ⟨.inl (prefix_refl _), ?_, ?_, ?_⟩
  · intro link member
    obtain ⟨part, -, same⟩ := mem_map.mp member
    cases same
  · intro link value found
    cases found
  · intro link path found
    cases found

/-- A path that leaves while it is resolved is lost on some host. -/
theorem exists_lost_of_resolving (leaves : ¬host.Stays (host.resolving text)) :
    ∃ other : Host place, other.located text = none := by
  obtain ⟨path, part, rest, seen, past, placed, named, unknown, same⟩ :=
    exists_departure (placed_start place text) leaves
  have above := Place.above_of_unknown placed.path unknown
  let name := freshName (place.dataDir ++ (path ++ [part]))
  have new : name ∉ place.dataDir ++ (path ++ [part]) := fun member => freshName_ne member rfl
  have plain : '/' ∉ name := by
    intro member
    exact absurd (eq_of_mem_replicate member) (by decide)
  let other := divert above part name (ups rest)
  obtain ⟨reaches, run⟩ := same other
  obtain ⟨left, fuel⟩ := Nat.exists_eq_add_of_le (Nat.le_trans (Nat.le_add_right _ _) reaches)
  have enough : other.enough ⟨path, .name part :: rest, seen⟩ ≤ left := by omega
  have head := head_turns_divert above unknown named new (isName_freshName _) plain placed enough
  refine ⟨other, located_of_outside ?_⟩
  rw [resolving, fuel, run left]
  intro inside
  obtain ⟨first, others, top⟩ := exists_cons_of_ne_nil place.below
  obtain ⟨below, lost⟩ := head?_eq_some_iff.mp head
  rw [lost, top, cons_prefix_cons] at inside
  refine new (mem_append_left _ ?_)
  rw [top, inside.1]
  exact mem_cons_self

theorem strict_stat (place : Place) (path : Path) : Strict (place.stat path) :=
  strict_follow maxLinks _ _

/-- A request that leaves finds nothing on some host. -/
theorem exists_lost (leaves : ¬host.Stays (host.locating text)) :
    ∃ other : Host place, other.located text = none := by
  by_cases resolving : host.Stays (host.resolving text)
  · -- The way to what it is resolved to leaves, and ends on the bare host.
    refine ⟨bare place, ?_⟩
    have same := resolving_agree resolving (bare place)
    by_cases inside : place.dataDir <+: (host.resolving text).run host.node
    · have looking : ¬host.Stays (place.stat ((host.resolving text).run host.node)) :=
        fun stays => leaves (stays_locating resolving fun _ => stays)
      rw [located_of_inside (by rwa [same]), same, run_bare_of_not_stays (strict_stat place _) looking]
      rfl
    · exact located_of_outside (by rwa [same])
  · exact exists_lost_of_resolving resolving

end Host

end RecDtn.Rec
